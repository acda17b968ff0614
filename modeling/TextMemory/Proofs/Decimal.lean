import TextMemory.Decimal.Shortest
import TextMemory.Proofs.Binary64

/-!
# Decimals and bits

Which finite bits a decimal is nearest to depends on its value alone: the exponents settled early
are those of values out of range, or too small to be anything but zero. So the shortest decimal of
finite bits is nearest to them, whichever grid it was found on.
-/
namespace TextMemory
namespace Decimal

variable {d d' : Decimal} {bits : Nat}

def value (d : Decimal) : ℚ := d.digits * 10 ^ d.exponent

theorem ratio_den_pos (d : Decimal) : 0 < d.ratio.2 := by
  rw [ratio]
  split
  · exact Nat.one_pos
  · exact Nat.pow_pos (by decide)

theorem ratio_quotient (d : Decimal) : (d.ratio.1 : ℚ) / d.ratio.2 = d.value := by
  obtain ⟨n, e⟩ := d
  rw [ratio, value]
  dsimp only
  split
  · rename_i he
    obtain ⟨k, rfl⟩ := Int.eq_ofNat_of_zero_le he
    simp only [Nat.pow_eq, Int.toNat_natCast, zpow_natCast]
    push_cast
    rw [div_one]
  · rename_i he
    obtain ⟨k, hk⟩ : ∃ k : Nat, e = -(k : Int) := ⟨(-e).toNat, by omega⟩
    subst hk
    simp only [Nat.pow_eq, neg_neg, Int.toNat_natCast]
    push_cast
    rw [zpow_neg, zpow_natCast, div_eq_mul_inv]

theorem two_pow_le_ten_pow (n : Nat) : (2 : ℚ) ^ (3 * n) ≤ 10 ^ n := by
  rw [pow_mul]
  gcongr
  norm_num

theorem two_pow_le_of_large (hdigits : d.digits ≠ 0) (he : 400 < d.exponent) :
    (2 : ℚ) ^ (1024 : Int) ≤ d.value := by
  have hone : (1 : ℚ) ≤ d.digits := by exact_mod_cast Nat.one_le_iff_ne_zero.mpr hdigits
  calc (2 : ℚ) ^ (1024 : Int) ≤ 2 ^ ((3 * 342 : Nat) : Int) :=
        zpow_le_zpow_right₀ one_le_two (by norm_num)
    _ ≤ 10 ^ ((342 : Nat) : Int) := by
        rw [zpow_natCast, zpow_natCast]
        exact two_pow_le_ten_pow 342
    _ ≤ 10 ^ d.exponent := zpow_le_zpow_right₀ (by norm_num) (by omega)
    _ ≤ d.digits * 10 ^ d.exponent := le_mul_of_one_le_left (by positivity) hone

theorem lt_two_pow_of_small (he : d.exponent + d.digits.log2 < -400) :
    d.value < (2 : ℚ) ^ (-1076 : Int) := by
  have hten : (0 : ℚ) < 10 ^ d.exponent := by positivity
  have hsplit : (10 : ℚ) ^ (-401 - d.digits.log2 : Int) =
      10 ^ (-401 : Int) / 10 ^ d.digits.log2 := by
    rw [zpow_sub₀ (by norm_num), zpow_natCast]
  calc d.value < 2 ^ (d.digits.log2 + 1 : Int) * 10 ^ d.exponent :=
        mul_lt_mul_of_pos_right (Binary64.lt_zpow_log2 d.digits) hten
    _ ≤ 2 ^ (d.digits.log2 + 1 : Int) * 10 ^ (-401 - d.digits.log2 : Int) := by
        gcongr
        · norm_num
        · omega
    _ = 2 * 2 ^ d.digits.log2 * (10 ^ (-401 : Int) / 10 ^ d.digits.log2) := by
        rw [hsplit, zpow_add_one₀ two_ne_zero, zpow_natCast, mul_comm (2 : ℚ)]
    _ ≤ 2 * 10 ^ d.digits.log2 * (10 ^ (-401 : Int) / 10 ^ d.digits.log2) := by
        gcongr
        norm_num
    _ = 2 * (10 ^ 401)⁻¹ := by
        rw [zpow_neg, show (401 : Int) = ((401 : Nat) : Int) from rfl, zpow_natCast]
        field_simp
    _ < 2 * (2 ^ (3 * 359))⁻¹ := by
        gcongr
        calc (2 : ℚ) ^ (3 * 359) ≤ 10 ^ 359 := two_pow_le_ten_pow 359
          _ < 10 ^ 401 := pow_lt_pow_right₀ (by norm_num) (by norm_num)
    _ = 2 ^ (-1076 : Int) := by
        rw [zpow_neg, show (1076 : Int) = ((1076 : Nat) : Int) from rfl, zpow_natCast,
          show 3 * 359 = 1076 + 1 from rfl, pow_succ, mul_inv_rev]
        field_simp

/-- The exponents that are settled early make no difference to finite bits. -/
theorem nearestBits_eq_iff (hfinite : bits < Binary64.infinityBits) :
    d.nearestBits = bits ↔ Binary64.nearest d.ratio.1 d.ratio.2 = bits := by
  have hden := d.ratio_den_pos
  have hvalue := d.ratio_quotient
  rw [nearestBits]
  split
  · rename_i hzero
    have hnum : d.ratio.1 = 0 := by
      rw [ratio]
      split <;> simp [hzero]
    rw [hnum, Binary64.nearest_zero]
  · rename_i hdigits
    split
    · rename_i hlarge
      -- neither side is finite
      have hout :=
        Binary64.infinityBits_le_nearest hden (hvalue ▸ two_pow_le_of_large hdigits hlarge)
      constructor <;> intro h <;> omega
    · split
      · rename_i hsmall
        rw [Binary64.nearest_eq_zero hden (hvalue ▸ lt_two_pow_of_small hsmall)]
      · rfl

theorem nearestBits_congr (hfinite : bits < Binary64.infinityBits) (h : d.value = d'.value)
    (hd : d.nearestBits = bits) : d'.nearestBits = bits := by
  rw [nearestBits_eq_iff hfinite] at hd ⊢
  rw [← hd]
  apply Binary64.nearest_congr d'.ratio_den_pos d.ratio_den_pos
  rw [ratio_quotient, ratio_quotient, h]

theorem value_trimmed (fuel : Nat) (d : Decimal) : (d.trimmed fuel).value = d.value := by
  induction fuel generalizing d with
  | zero => rfl
  | succ fuel ih =>
    rw [trimmed]
    split
    · rfl
    · rename_i h
      have hten : d.digits = 10 * (d.digits / 10) := by
        simp only [Bool.or_eq_true, decide_eq_true_eq, bne_iff_ne, not_or, not_not] at h
        omega
      rw [ih]
      unfold value
      dsimp only
      rw [zpow_add_one₀ (by norm_num)]
      nth_rewrite 2 [hten]
      push_cast
      ring

theorem nearestBits_of_onGrid {num den : Nat} {e : Int} (h : onGrid bits num den e = some d) :
    d.nearestBits = bits := by
  unfold onGrid at h
  generalize (if 0 ≤ e then (num, den * Nat.pow 10 e.toNat)
    else (num * Nat.pow 10 (-e).toNat, den)) = terms at h
  obtain ⟨a, b⟩ := terms
  dsimp only at h
  split at h
  · rename_i hhit
    cases h
    simp only [Bool.and_eq_true, decide_eq_true_eq] at hhit
    exact hhit.2
  · split at h
    · rename_i hhit
      cases h
      exact hhit
    · split at h
      · rename_i hhit
        cases h
        exact hhit
      · cases h

theorem nearestBits_of_searchGrids {num den fuel : Nat} {e : Int}
    (h : searchGrids bits num den fuel e = some d) : d.nearestBits = bits := by
  induction fuel generalizing e with
  | zero => cases h
  | succ fuel ih =>
    unfold searchGrids at h
    cases hgrid : onGrid bits num den e with
    | some found =>
      rw [hgrid] at h
      cases h
      exact nearestBits_of_onGrid hgrid
    | none =>
      rw [hgrid] at h
      exact ih h

theorem value_exact (bits : Nat) :
    (exact bits).value = (Binary64.parts bits).1 * 2 ^ (Binary64.parts bits).2 := by
  rw [exact]
  generalize Binary64.parts bits = p
  obtain ⟨m, q⟩ := p
  dsimp only
  split
  · rename_i hq
    obtain ⟨k, rfl⟩ := Int.eq_ofNat_of_zero_le hq
    simp only [value, Nat.pow_eq, Int.toNat_natCast, zpow_natCast, zpow_zero, mul_one]
    push_cast
    rfl
  · rename_i hq
    obtain ⟨k, hk⟩ : ∃ k : Nat, q = -(k : Int) := ⟨(-q).toNat, by omega⟩
    subst hk
    simp only [value, Nat.pow_eq, neg_neg, Int.toNat_natCast, zpow_neg, zpow_natCast]
    push_cast
    rw [show (10 : ℚ) = 5 * 2 by norm_num, mul_pow]
    field_simp

theorem nearestBits_exact (hpos : 0 < bits) (hfinite : bits < Binary64.infinityBits) :
    (exact bits).nearestBits = bits := by
  rw [nearestBits_eq_iff hfinite]
  apply Binary64.nearest_exact hpos hfinite (exact bits).ratio_den_pos
  rw [ratio_quotient, value_exact]

theorem nearestBits_shortest (hfinite : bits < Binary64.infinityBits) :
    (shortest bits).nearestBits = bits := by
  rcases Nat.eq_zero_or_pos bits with rfl | hpos
  · rfl
  have hne : bits ≠ 0 := by omega
  rw [shortest]
  rw [if_neg hne]
  dsimp only
  apply nearestBits_congr hfinite (value_trimmed 400 _).symm
  cases hsearch : searchGrids bits (Binary64.ratio bits).1 (Binary64.ratio bits).2 21
      (above (Binary64.ratio bits).1 (Binary64.ratio bits).2 - 1) with
  | some found => exact nearestBits_of_searchGrids hsearch
  | none => exact nearestBits_exact hpos hfinite

theorem digits_shortest_pos (hpos : 0 < bits) (hfinite : bits < Binary64.infinityBits) :
    0 < (shortest bits).digits := by
  have hbits := nearestBits_shortest hfinite
  by_contra hzero
  have hdigits : (shortest bits).digits = 0 := by omega
  rw [nearestBits, if_pos hdigits] at hbits
  omega

theorem toFloat_of_value {negative : Bool} (hfinite : bits < Binary64.infinityBits)
    (h : d.value = (shortest bits).value) :
    d.toFloat negative = Binary64.ofMagnitude negative bits := by
  rw [toFloat, nearestBits_congr hfinite h.symm (nearestBits_shortest hfinite)]

end Decimal
end TextMemory
