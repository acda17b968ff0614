import TextMemory.Ranking

/-!
# The order of binary64 values

Every value that is a number has a rank: where it stands beside zero, then its exponent, then its
mantissa. The comparisons of such values are those of their ranks, so on them `<` is an order; what
is no number has no rank, and differs from all values, itself included.
-/
namespace TextMemory.FloatOrder

open Float.Model

structure Rank where
  side : Int
  exponent : Int
  mantissa : Int

namespace Rank

def Below (a b : Rank) : Prop :=
  a.side < b.side ∨ (a.side = b.side ∧ (a.exponent < b.exponent ∨
    (a.exponent = b.exponent ∧ a.mantissa < b.mantissa)))

protected def compare (a b : Rank) : Ordering :=
  (compare a.side b.side).then
    ((compare a.exponent b.exponent).then (compare a.mantissa b.mantissa))

theorem compare_eq_lt {a b : Rank} : a.compare b = .lt ↔ a.Below b := by
  simp only [Rank.compare, Ordering.then_eq_lt, Int.compare_eq_lt, Int.compare_eq_eq, Below]

theorem compare_eq_gt {a b : Rank} : a.compare b = .gt ↔ b.Below a := by
  simp only [Rank.compare, Ordering.then_eq_gt, Int.compare_eq_gt, Int.compare_eq_eq, Below]
  omega

theorem compare_self (a : Rank) : a.compare a = .eq := by
  simp [Rank.compare]

end Rank

def rank? : UnpackedFloat → Option Rank
  | .notANumber => none
  | .infinity .positive => some ⟨2, 0, 0⟩
  | .infinity .negative => some ⟨-2, 0, 0⟩
  | .zero _ => some ⟨0, 0, 0⟩
  | .finite .positive m e _ => some ⟨1, e, m⟩
  | .finite .negative m e _ => some ⟨-1, -e, -m⟩

theorem compare_natCast (m n : Nat) : compare (m : Int) (n : Int) = compare m n := by
  rcases Nat.lt_trichotomy m n with h | h | h
  · rw [Nat.compare_eq_lt.mpr h, Int.compare_eq_lt.mpr (Int.ofNat_lt.mpr h)]
  · rw [Nat.compare_eq_eq.mpr h, Int.compare_eq_eq.mpr (by omega)]
  · rw [Nat.compare_eq_gt.mpr h, Int.compare_eq_gt.mpr (Int.ofNat_lt.mpr h)]

theorem compare_neg (m n : Int) : compare (-m) (-n) = (compare m n).swap := by
  rcases Int.lt_trichotomy m n with h | h | h
  · rw [Int.compare_eq_lt.mpr h, Int.compare_eq_gt.mpr (Int.neg_lt_neg h)]
    rfl
  · rw [Int.compare_eq_eq.mpr h, Int.compare_eq_eq.mpr (congrArg Neg.neg h)]
    rfl
  · rw [Int.compare_eq_gt.mpr h, Int.compare_eq_lt.mpr (Int.neg_lt_neg h)]
    rfl

/-- Values that are numbers compare as their ranks, and no others compare. -/
theorem compare_eq (u v : UnpackedFloat) :
    u.compare v = match rank? u, rank? v with
      | some a, some b => some (a.compare b)
      | _, _ => none := by
  cases u with
  | notANumber => cases v <;> rfl
  | infinity s =>
    cases v with
    | notANumber => cases s <;> rfl
    | infinity t => cases s <;> cases t <;> rfl
    | zero t => cases s <;> rfl
    | finite t m e hm => cases s <;> cases t <;> rfl
  | zero s =>
    cases v with
    | notANumber => rfl
    | infinity t => cases t <;> rfl
    | zero t => rfl
    | finite t m e hm => cases t <;> rfl
  | finite s m e hm =>
    cases v with
    | notANumber => cases s <;> rfl
    | infinity t => cases s <;> cases t <;> rfl
    | zero t => cases s <;> rfl
    | finite t n f hn =>
      cases s with
      | positive =>
        cases t with
        | positive =>
          have hranks : Rank.compare ⟨1, e, m⟩ ⟨1, f, n⟩ = (compare e f).then (compare m n) := by
            rw [Rank.compare, compare_natCast]
            rfl
          exact congrArg some hranks.symm
        | negative => rfl
      | negative =>
        cases t with
        | positive => rfl
        | negative =>
          have hexponents : compare (-e) (-f) = (compare e f).swap := compare_neg e f
          have hmantissas : compare (-(m : Int)) (-(n : Int)) = (compare m n).swap := by
            rw [compare_neg, compare_natCast]
          have hranks : Rank.compare ⟨-1, -e, -m⟩ ⟨-1, -f, -n⟩ =
              ((compare e f).then (compare m n)).swap := by
            rw [Ordering.swap_then, ← hexponents, ← hmantissas]
            rfl
          exact congrArg some hranks.symm

def rankOf? (x : Float) : Option Rank := rank? x.toModel.unpack

theorem lt_iff_compare (x y : Float) :
    x < y ↔ x.toModel.unpack.compare y.toModel.unpack = some .lt := by
  have hbool : x < y ↔ decide (x.toModel < y.toModel) = true := Iff.rfl
  rw [hbool, decide_eq_true_iff]
  exact beq_iff_eq

theorem le_iff_compare (x y : Float) :
    x ≤ y ↔ (x.toModel.unpack.compare y.toModel.unpack).any (·.isLE) = true := by
  have hbool : x ≤ y ↔ decide (x.toModel ≤ y.toModel) = true := Iff.rfl
  rw [hbool, decide_eq_true_iff]
  exact Iff.rfl

theorem beq_iff_compare (x y : Float) :
    (x == y) = true ↔ x.toModel.unpack.compare y.toModel.unpack = some .eq := by
  have hbool : (x == y) = true ↔
      (x.toModel.unpack.compare y.toModel.unpack == some .eq) = true := Iff.rfl
  rw [hbool]
  exact beq_iff_eq

section

variable {x y z : Float} {a b : Rank}

theorem lt_iff (hx : rankOf? x = some a) (hy : rankOf? y = some b) : x < y ↔ a.Below b := by
  unfold rankOf? at hx hy
  rw [lt_iff_compare, compare_eq, hx, hy, Option.some_inj, Rank.compare_eq_lt]

theorem le_iff (hx : rankOf? x = some a) (hy : rankOf? y = some b) : x ≤ y ↔ ¬b.Below a := by
  unfold rankOf? at hx hy
  rw [le_iff_compare, compare_eq, hx, hy, ← Rank.compare_eq_gt]
  show (a.compare b).isLE = true ↔ ¬a.compare b = .gt
  cases a.compare b <;> simp

theorem beq_iff (hx : rankOf? x = some a) (hy : rankOf? y = some b) :
    (x == y) = true ↔ ¬a.Below b ∧ ¬b.Below a := by
  unfold rankOf? at hx hy
  rw [beq_iff_compare, compare_eq, hx, hy, Option.some_inj, ← Rank.compare_eq_lt,
    ← Rank.compare_eq_gt]
  cases a.compare b <;> simp

theorem exists_rank (hx : x.isNaN = false) : ∃ a, rankOf? x = some a := by
  have hmodel : x.toModel.unpack.isNaN = false := hx
  unfold rankOf?
  cases hu : x.toModel.unpack with
  | notANumber =>
    rw [hu] at hmodel
    cases hmodel
  | infinity s => cases s <;> exact ⟨_, rfl⟩
  | zero s => exact ⟨_, rfl⟩
  | finite s m e hm => cases s <;> exact ⟨_, rfl⟩

theorem compare_of_isNaN (hx : x.isNaN = true) (y : Float) :
    x.toModel.unpack.compare y.toModel.unpack = none ∧
    y.toModel.unpack.compare x.toModel.unpack = none := by
  have hmodel : x.toModel.unpack.isNaN = true := hx
  rw [compare_eq, compare_eq]
  cases hu : x.toModel.unpack with
  | notANumber => cases rank? y.toModel.unpack <;> exact ⟨rfl, rfl⟩
  | infinity | zero | finite =>
    rw [hu] at hmodel
    cases hmodel

theorem bne_self (x : Float) : (x != x) = x.isNaN := by
  cases hx : x.isNaN with
  | false =>
    obtain ⟨a, ha⟩ := exists_rank hx
    have hself : (x == x) = true := by
      unfold rankOf? at ha
      rw [beq_iff_compare, compare_eq, ha]
      exact congrArg some (Rank.compare_self a)
    rw [bne, hself]
    rfl
  | true =>
    have hself : (x == x) = false := by
      rw [Bool.eq_false_iff, Ne, beq_iff_compare, (compare_of_isNaN hx x).1]
      exact nofun
    rw [bne, hself]
    rfl

theorem le_of_not_lt (hx : x.isNaN = false) (hy : y.isNaN = false) (h : ¬x < y) : y ≤ x := by
  obtain ⟨a, ha⟩ := exists_rank hx
  obtain ⟨b, hb⟩ := exists_rank hy
  rw [lt_iff ha hb] at h
  rwa [le_iff hb ha]

theorem exists_rank_of_beq (h : (x == y) = true) :
    ∃ a b, rankOf? x = some a ∧ rankOf? y = some b ∧ a.compare b = .eq := by
  rw [beq_iff_compare, compare_eq] at h
  unfold rankOf?
  split at h
  · rename_i a b ha hb
    exact ⟨a, b, ha, hb, Option.some.inj h⟩
  · cases h

theorem not_lt_of_beq (hx : (x == z) = true) (hy : (y == z) = true) : ¬x < y := by
  obtain ⟨a, c, ha, hc, hac⟩ := exists_rank_of_beq hx
  obtain ⟨b, d, hb, hd, hbd⟩ := exists_rank_of_beq hy
  cases hc.symm.trans hd
  rw [lt_iff ha hb]
  simp only [Rank.compare, Ordering.then_eq_eq, Int.compare_eq_eq] at hac hbd
  unfold Rank.Below
  omega

theorem not_lt_or_not_lt (hx : x.isNaN = false) (hy : y.isNaN = false) : ¬x < y ∨ ¬y < x := by
  obtain ⟨a, ha⟩ := exists_rank hx
  obtain ⟨b, hb⟩ := exists_rank hy
  rw [lt_iff ha hb, lt_iff hb ha]
  unfold Rank.Below
  omega

theorem not_lt_trans (hx : x.isNaN = false) (hy : y.isNaN = false) (hz : z.isNaN = false)
    (hxy : ¬x < y) (hyz : ¬y < z) : ¬x < z := by
  obtain ⟨a, ha⟩ := exists_rank hx
  obtain ⟨b, hb⟩ := exists_rank hy
  obtain ⟨c, hc⟩ := exists_rank hz
  rw [lt_iff ha hb] at hxy
  rw [lt_iff hb hc] at hyz
  rw [lt_iff ha hc]
  unfold Rank.Below at hxy hyz ⊢
  omega

end

end TextMemory.FloatOrder
