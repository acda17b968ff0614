import Mathlib
import TextMemory.Binary64

/-!
# Rounding and bits

The nearest magnitude depends on the quotient alone and not on its terms, since the last place is
the binary logarithm of the quotient and what is rounded is the quotient over that place. A finite
magnitude is nearest to itself. Quotients below `2 ^ -1076` round to zero, those from `2 ^ 1024` on
are out of range, and those below `2 ^ 64` are not.
-/
namespace TextMemory.Binary64

theorem scaled_den_pos (num : Nat) {den : Nat} (hden : 0 < den) (q : Int) :
    0 < (scaled num den q).2 := by
  rw [scaled]
  split
  · exact Nat.mul_pos hden (Nat.pow_pos Nat.two_pos)
  · exact hden

theorem scaled_quotient (num den : Nat) (q : Int) :
    ((scaled num den q).1 : ℚ) / (scaled num den q).2 = num / den / 2 ^ q := by
  rw [scaled]
  split
  · rename_i hq
    obtain ⟨n, rfl⟩ := Int.eq_ofNat_of_zero_le hq
    simp only [Nat.pow_eq, Int.toNat_natCast]
    push_cast
    rw [zpow_natCast, div_div]
  · rename_i hq
    obtain ⟨n, hn⟩ : ∃ n : Nat, q = -(n : Int) := ⟨(-q).toNat, by omega⟩
    subst hn
    simp only [Nat.pow_eq, neg_neg, Int.toNat_natCast]
    push_cast
    rw [zpow_neg, zpow_natCast, div_inv_eq_mul, mul_div_right_comm]

theorem scaled_div_lt (num : Nat) {den : Nat} (hden : 0 < den) (q : Int) (n : Nat) :
    (scaled num den q).1 / (scaled num den q).2 < n ↔ (num : ℚ) / den < n * 2 ^ q := by
  have hb : 0 < (scaled num den q).2 := scaled_den_pos num hden q
  have hbq : (0 : ℚ) < (scaled num den q).2 := by exact_mod_cast hb
  have hplace : (0 : ℚ) < 2 ^ q := by positivity
  rw [Nat.div_lt_iff_lt_mul hb, ← div_lt_iff₀ hplace, ← scaled_quotient, div_lt_iff₀ hbq]
  exact_mod_cast Iff.rfl

theorem zpow_log2_le {n : Nat} (hn : 0 < n) : (2 : ℚ) ^ (n.log2 : Int) ≤ n := by
  rw [zpow_natCast]
  exact_mod_cast Nat.log2_self_le (by omega)

theorem lt_zpow_log2 (n : Nat) : (n : ℚ) < 2 ^ (n.log2 + 1 : Int) := by
  have h : n < 2 ^ (n.log2 + 1) := Nat.lt_log2_self
  rw [show (n.log2 + 1 : Int) = ((n.log2 + 1 : Nat) : Int) from rfl, zpow_natCast]
  exact_mod_cast h

theorem log_quotient {num den : Nat} (hnum : 0 < num) (hden : 0 < den) :
    (num.log2 : Int) - den.log2 - 1 ≤ Int.log 2 ((num : ℚ) / den) ∧
      Int.log 2 ((num : ℚ) / den) ≤ (num.log2 : Int) - den.log2 := by
  have hx : (0 : ℚ) < num / den := by positivity
  have hdenq : (0 : ℚ) < den := by exact_mod_cast hden
  constructor
  · rw [← Int.zpow_le_iff_le_log (by decide) hx, le_div_iff₀ hdenq]
    have hsplit : (2 : ℚ) ^ (num.log2 : Int) =
        2 ^ ((num.log2 : Int) - den.log2 - 1) * 2 ^ (den.log2 + 1 : Int) := by
      rw [← zpow_add₀ two_ne_zero]
      congr 1
      omega
    calc ((2 : Nat) : ℚ) ^ ((num.log2 : Int) - den.log2 - 1) * den
        ≤ 2 ^ ((num.log2 : Int) - den.log2 - 1) * 2 ^ (den.log2 + 1 : Int) := by
          push_cast
          gcongr
          exact (lt_zpow_log2 den).le
      _ = 2 ^ (num.log2 : Int) := hsplit.symm
      _ ≤ num := zpow_log2_le hnum
  · rw [← Int.lt_add_one_iff, ← Int.lt_zpow_iff_log_lt (by decide) hx, div_lt_iff₀ hdenq]
    have hsplit : (2 : ℚ) ^ (num.log2 + 1 : Int) =
        2 ^ ((num.log2 : Int) - den.log2 + 1) * 2 ^ (den.log2 : Int) := by
      rw [← zpow_add₀ two_ne_zero]
      congr 1
      omega
    calc (num : ℚ) < 2 ^ (num.log2 + 1 : Int) := lt_zpow_log2 num
      _ = 2 ^ ((num.log2 : Int) - den.log2 + 1) * 2 ^ (den.log2 : Int) := hsplit
      _ ≤ ((2 : Nat) : ℚ) ^ ((num.log2 : Int) - den.log2 + 1) * den := by
          push_cast
          gcongr
          exact zpow_log2_le hden

theorem lastPlace_eq {num den : Nat} (hnum : 0 < num) (hden : 0 < den) :
    lastPlace num den = max (Int.log 2 ((num : ℚ) / den) - 52) (-1074) := by
  have hx : (0 : ℚ) < num / den := by positivity
  obtain ⟨hlow, hhigh⟩ := log_quotient hnum hden
  have htest : (scaled num den ((num.log2 : Int) - den.log2 - 52)).1 /
      (scaled num den ((num.log2 : Int) - den.log2 - 52)).2 < 2 ^ 52 ↔
      Int.log 2 ((num : ℚ) / den) < (num.log2 : Int) - den.log2 := by
    rw [scaled_div_lt num hden, ← Int.lt_zpow_iff_log_lt (by decide) hx]
    have hsplit : ((2 : Nat) : ℚ) ^ ((num.log2 : Int) - den.log2) =
        ((2 ^ 52 : Nat) : ℚ) * 2 ^ ((num.log2 : Int) - den.log2 - 52) := by
      rw [Nat.cast_pow, ← zpow_natCast, Nat.cast_ofNat, ← zpow_add₀ two_ne_zero]
      congr 1
      omega
    rw [hsplit]
  simp only [lastPlace, Nat.pow_eq, htest]
  split <;> congr 1 <;> omega

theorem roundDiv_congr {a b c d : Nat} (hb : 0 < b) (hd : 0 < d) (h : a * d = c * b) :
    roundDiv a b = roundDiv c d := by
  have hdiv : a / b = c / d := by
    rw [← Nat.mul_div_mul_right a b hd, ← Nat.mul_div_mul_right c d hb, h, Nat.mul_comm b d]
  have hmod : a % b * d = c % d * b := by
    rw [← Nat.mul_mod_mul_right, ← Nat.mul_mod_mul_right, h, Nat.mul_comm b d]
  have hless : 2 * (a % b) < b ↔ 2 * (c % d) < d := by
    rw [← Nat.mul_lt_mul_right hd, ← Nat.mul_lt_mul_right (a := b) (b := 2 * (c % d)) hb,
      Nat.mul_assoc, hmod, Nat.mul_assoc, Nat.mul_comm b d]
  have hmore : b < 2 * (a % b) ↔ d < 2 * (c % d) := by
    rw [← Nat.mul_lt_mul_right hd, ← Nat.mul_lt_mul_right (a := b) (b := d) hb,
      Nat.mul_assoc, hmod, Nat.mul_assoc, Nat.mul_comm b d]
  simp only [roundDiv, hdiv, hless, hmore]

theorem roundDiv_exact {a b n : Nat} (hb : 0 < b) (h : a = n * b) : roundDiv a b = n := by
  subst h
  simp [roundDiv, Nat.mul_div_cancel n hb, hb]

theorem div_le_roundDiv (a b : Nat) : a / b ≤ roundDiv a b := by
  unfold roundDiv
  dsimp only
  split
  · omega
  · split <;> omega

theorem roundDiv_le (a b : Nat) : roundDiv a b ≤ a / b + 1 := by
  unfold roundDiv
  dsimp only
  split
  · omega
  · split <;> omega

@[simp] theorem nearest_zero (den : Nat) : nearest 0 den = 0 := rfl

theorem nearest_eq {num den : Nat} (hnum : 0 < num) :
    nearest num den = (lastPlace num den + 1074).toNat * 2 ^ 52 +
      roundDiv (scaled num den (lastPlace num den)).1 (scaled num den (lastPlace num den)).2 := by
  have hne : num ≠ 0 := by omega
  simp only [nearest, hne, if_false, Nat.pow_eq]

theorem nearest_congr {num den num' den' : Nat} (hden : 0 < den) (hden' : 0 < den')
    (h : (num : ℚ) / den = num' / den') : nearest num den = nearest num' den' := by
  have hdenq : (den : ℚ) ≠ 0 := by positivity
  have hdenq' : (den' : ℚ) ≠ 0 := by positivity
  rcases Nat.eq_zero_or_pos num with rfl | hnum
  · have hzero : num' = 0 := by
      rw [Nat.cast_zero, zero_div, eq_comm, div_eq_zero_iff] at h
      exact_mod_cast h.resolve_right hdenq'
    rw [hzero, nearest_zero, nearest_zero]
  · have hnum' : 0 < num' := by
      rcases Nat.eq_zero_or_pos num' with rfl | hpos
      · rw [Nat.cast_zero, zero_div, div_eq_zero_iff] at h
        have hzero : num = 0 := by exact_mod_cast h.resolve_right hdenq
        omega
      · exact hpos
    have hplace : lastPlace num den = lastPlace num' den' := by
      rw [lastPlace_eq hnum hden, lastPlace_eq hnum' hden', h]
    rw [nearest_eq hnum, nearest_eq hnum', ← hplace]
    have hb := scaled_den_pos num hden (lastPlace num den)
    have hd := scaled_den_pos num' hden' (lastPlace num den)
    have hquotient := scaled_quotient num den (lastPlace num den)
    rw [h, ← scaled_quotient num' den', div_eq_div_iff (by positivity) (by positivity)]
      at hquotient
    rw [roundDiv_congr hb hd (by exact_mod_cast hquotient)]

theorem parts_bounds {bits : Nat} (hpos : 0 < bits) (hfinite : bits < infinityBits) :
    0 < (parts bits).1 ∧ (parts bits).1 < 2 ^ 53 ∧ -1074 ≤ (parts bits).2 ∧
      ((parts bits).2 ≠ -1074 → 2 ^ 52 ≤ (parts bits).1) ∧
      bits = ((parts bits).2 + 1074).toNat * 2 ^ 52 + (parts bits).1 := by
  simp only [parts, Nat.pow_eq]
  unfold infinityBits at hfinite
  split <;> dsimp only <;> omega

theorem ratio_den_pos (bits : Nat) : 0 < (ratio bits).2 := by
  rw [ratio]
  dsimp only
  split
  · exact Nat.one_pos
  · exact Nat.pow_pos Nat.two_pos

theorem ratio_quotient (bits : Nat) :
    ((ratio bits).1 : ℚ) / (ratio bits).2 = (parts bits).1 * 2 ^ (parts bits).2 := by
  rw [ratio]
  generalize hparts : parts bits = p
  obtain ⟨m, q⟩ := p
  dsimp only
  split
  · rename_i hq
    obtain ⟨n, rfl⟩ := Int.eq_ofNat_of_zero_le hq
    simp only [Nat.pow_eq, Int.toNat_natCast, zpow_natCast]
    push_cast
    rw [div_one]
  · rename_i hq
    obtain ⟨n, hn⟩ : ∃ n : Nat, q = -(n : Int) := ⟨(-q).toNat, by omega⟩
    subst hn
    simp only [Nat.pow_eq, neg_neg, Int.toNat_natCast]
    push_cast
    rw [zpow_neg, zpow_natCast, div_eq_mul_inv]

theorem nearest_exact {bits num den : Nat} (hpos : 0 < bits) (hfinite : bits < infinityBits)
    (hden : 0 < den) (h : (num : ℚ) / den = (parts bits).1 * 2 ^ (parts bits).2) :
    nearest num den = bits := by
  obtain ⟨hm, hm53, hq, hm52, hbits⟩ := parts_bounds hpos hfinite
  generalize parts bits = p at h hm hm53 hq hm52 hbits
  obtain ⟨m, q⟩ := p
  have hdenq : (0 : ℚ) < den := by positivity
  have hx : (0 : ℚ) < num / den := by
    rw [h]
    positivity
  have hnum : 0 < num := by
    rcases Nat.eq_zero_or_pos num with rfl | hnum
    · simp at hx
    · exact hnum
  have hlog : Int.log 2 ((num : ℚ) / den) = m.log2 + q := by
    have hlow : (m.log2 : Int) + q ≤ Int.log 2 ((num : ℚ) / den) := by
      rw [← Int.zpow_le_iff_le_log (by decide) hx, h, Nat.cast_ofNat, zpow_add₀ two_ne_zero]
      gcongr
      exact zpow_log2_le hm
    have hhigh : Int.log 2 ((num : ℚ) / den) < m.log2 + 1 + q := by
      rw [← Int.lt_zpow_iff_log_lt (by decide) hx, h, Nat.cast_ofNat, zpow_add₀ two_ne_zero]
      gcongr
      exact lt_zpow_log2 m
    omega
  have hdigits : m.log2 < 53 := (Nat.log2_lt (by omega)).mpr hm53
  -- below the least exponent there are fewer digits, and the last place is held at its bound
  have hplace : lastPlace num den = q := by
    rw [lastPlace_eq hnum hden, hlog]
    by_cases hleast : q = -1074
    · omega
    · have hfull : 52 ≤ m.log2 := (Nat.le_log2 (by omega)).mpr (hm52 hleast)
      omega
  have hb := scaled_den_pos num hden q
  have hwhole : (scaled num den q).1 = m * (scaled num den q).2 := by
    have hquotient := scaled_quotient num den q
    rw [h, mul_div_assoc, div_self (by positivity), mul_one, div_eq_iff (by positivity)]
      at hquotient
    exact_mod_cast hquotient
  rw [nearest_eq hnum, hplace, roundDiv_exact hb hwhole, ← hbits]

theorem nearest_eq_zero {num den : Nat} (hden : 0 < den)
    (h : (num : ℚ) / den < 2 ^ (-1076 : Int)) : nearest num den = 0 := by
  rcases Nat.eq_zero_or_pos num with rfl | hnum
  · rfl
  have hx : (0 : ℚ) < num / den := by positivity
  have hlog : Int.log 2 ((num : ℚ) / den) < -1076 := by
    rw [← Int.lt_zpow_iff_log_lt (by decide) hx]
    exact_mod_cast h
  have hplace : lastPlace num den = -1074 := by
    rw [lastPlace_eq hnum hden]
    omega
  have hb := scaled_den_pos num hden (-1074)
  have hquarter : 4 * (scaled num den (-1074)).1 < (scaled num den (-1074)).2 := by
    have hquotient : ((scaled num den (-1074)).1 : ℚ) / (scaled num den (-1074)).2 < 1 / 4 := by
      rw [scaled_quotient, div_lt_iff₀ (by positivity)]
      calc (num : ℚ) / den < 2 ^ (-1076 : Int) := h
        _ = 1 / 4 * 2 ^ (-1074 : Int) := by
          rw [show (1 / 4 : ℚ) = 2 ^ (-2 : Int) by norm_num, ← zpow_add₀ two_ne_zero]
          rfl
    rw [div_lt_div_iff₀ (by positivity) (by norm_num), one_mul, mul_comm] at hquotient
    exact_mod_cast hquotient
  rw [nearest_eq hnum, hplace, roundDiv, Nat.div_eq_of_lt (by omega), Nat.mod_eq_of_lt (by omega)]
  simp only [Int.reduceNeg, Int.reduceAdd, Int.toNat_zero, Nat.zero_mul]
  rw [if_pos (by omega)]

theorem infinityBits_le_nearest {num den : Nat} (hden : 0 < den)
    (h : (2 : ℚ) ^ (1024 : Int) ≤ num / den) : infinityBits ≤ nearest num den := by
  have hx : (0 : ℚ) < num / den := lt_of_lt_of_le (by positivity) h
  have hnum : 0 < num := by
    rcases Nat.eq_zero_or_pos num with rfl | hnum
    · simp at hx
    · exact hnum
  have hlog : 1024 ≤ Int.log 2 ((num : ℚ) / den) := by
    rw [← Int.zpow_le_iff_le_log (by decide) hx]
    exact_mod_cast h
  have hplace := lastPlace_eq hnum hden
  have hdigits : 2 ^ 52 ≤ (scaled num den (lastPlace num den)).1 /
      (scaled num den (lastPlace num den)).2 := by
    by_contra hless
    have hbelow := (scaled_div_lt num hden (lastPlace num den) (2 ^ 52)).mp (by omega)
    have hself : ((2 : Nat) : ℚ) ^ Int.log 2 ((num : ℚ) / den) ≤ num / den :=
      Int.zpow_log_le_self (by decide) hx
    have hsplit : Int.log 2 ((num : ℚ) / den) = ((52 : Nat) : Int) + lastPlace num den := by omega
    rw [hsplit, Nat.cast_ofNat, zpow_add₀ two_ne_zero, zpow_natCast] at hself
    exact absurd hbelow (not_lt.mpr (by exact_mod_cast hself))
  have hround := div_le_roundDiv (scaled num den (lastPlace num den)).1
    (scaled num den (lastPlace num den)).2
  rw [nearest_eq hnum]
  rw [infinityBits]
  omega

theorem nearest_natural_lt {n : Nat} (h : n < 2 ^ 64) : nearest n 1 < infinityBits := by
  rcases Nat.eq_zero_or_pos n with rfl | hn
  · decide
  have hx : (0 : ℚ) < (n : ℚ) / (1 : Nat) := by positivity
  have hlog : Int.log 2 ((n : ℚ) / (1 : Nat)) < 64 := by
    rw [← Int.lt_zpow_iff_log_lt (by decide) hx, Nat.cast_one, div_one]
    exact_mod_cast h
  have hplace := lastPlace_eq hn Nat.one_pos
  have hdigits : (scaled n 1 (lastPlace n 1)).1 / (scaled n 1 (lastPlace n 1)).2 < 2 ^ 53 := by
    rw [scaled_div_lt n Nat.one_pos]
    calc (n : ℚ) / (1 : Nat) < ((2 : Nat) : ℚ) ^ (Int.log 2 ((n : ℚ) / (1 : Nat)) + 1) :=
          Int.lt_zpow_succ_log_self (by decide) _
      _ ≤ 2 ^ (((53 : Nat) : Int) + lastPlace n 1) := by
          rw [Nat.cast_ofNat]
          exact zpow_le_zpow_right₀ one_le_two (by omega)
      _ = ((2 ^ 53 : Nat) : ℚ) * 2 ^ lastPlace n 1 := by
          rw [zpow_add₀ two_ne_zero, zpow_natCast, Nat.cast_pow, Nat.cast_ofNat]
  -- rounding may carry to the next exponent, which is still far from the largest
  have hround := roundDiv_le (scaled n 1 (lastPlace n 1)).1 (scaled n 1 (lastPlace n 1)).2
  rw [nearest_eq hn]
  rw [infinityBits]
  omega

section Bits

open Float.Model Float.Model.UnpackedFloat

theorem ofMagnitude_magnitude {x : Float} (h : magnitude x ≤ infinityBits) :
    ofMagnitude (isNegative x) (magnitude x) = x := by
  have hbits : min (magnitude x) infinityBits +
      (if isNegative x then Nat.pow 2 63 else 0) = x.toBits.toNat := by
    have hlt := x.toBits.toNat_lt
    simp only [isNegative, magnitude, Nat.pow_eq, decide_eq_true_eq] at h ⊢
    split <;> omega
  rw [ofMagnitude, hbits, UInt64.ofNat_toNat, Float.ofBits_toBits]

theorem eq_nan {x : Float} (h : infinityBits < magnitude x) : x = 0.0 / 0.0 := by
  have hnan : (0.0 / 0.0 : Float).toBits.toBitVec = packedNaN Format.binary64 := by decide +kernel
  obtain ⟨⟨bits, hvalid⟩⟩ := x
  have hlt := bits.toNat_lt
  have hmagnitude : magnitude ⟨⟨bits, hvalid⟩⟩ = bits.toNat % 2 ^ 63 := rfl
  rw [hmagnitude, infinityBits] at h
  have hexponent : @unpackExponent Format.binary64 bits.toBitVec = -1#11 := by
    apply BitVec.eq_of_toNat_eq
    simp [unpackExponent, Nat.shiftRight_eq_div_pow]
    omega
  have hmantissa : @unpackMantissa Format.binary64 bits.toBitVec ≠ 0#52 := by
    intro hzero
    have hlow : bits.toNat % 2 ^ 52 = 0 := by
      simpa [unpackMantissa] using congrArg BitVec.toNat hzero
    omega
  have hbits := hvalid.eq_packedNaN hexponent hmantissa
  exact Float.toBits_inj.mp (UInt64.toBitVec_inj.mp (hbits.trans hnan.symm))

theorem ofMagnitude_infinity : ofMagnitude false infinityBits = 1.0 / 0.0 := by decide +kernel

theorem ofMagnitude_neg_infinity : ofMagnitude true infinityBits = -1.0 / 0.0 := by decide +kernel

end Bits

end TextMemory.Binary64
