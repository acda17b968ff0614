import TextMemory.Proofs.FloatOrder
import TextMemory.Similarity

/-!
# The order of distances

Of two distances that are numbers the less one comes first, and a number comes before what is none.
All values have a place in this order, so a merge sort by it ranks them. What has no length lies at
distance 1 from everything, whatever its product with the query is said to be.
-/
namespace TextMemory.Similarity

open TextMemory.FloatOrder

variable {d e f : Float}

/-- The one is less, or only the other is no number. -/
def Nearer (d e : Float) : Prop := d < e ∨ (d.isNaN = false ∧ e.isNaN = true)

def EquallyFar (d e : Float) : Prop := (d == e) = true ∨ (d.isNaN = true ∧ e.isNaN = true)

instance (d e : Float) : Decidable (Nearer d e) := inferInstanceAs (Decidable (_ ∨ _))

instance (d e : Float) : Decidable (EquallyFar d e) := inferInstanceAs (Decidable (_ ∨ _))

theorem before_iff : before d e = true ↔ e.isNaN = true ∨ (d.isNaN = false ∧ ¬e < d) := by
  rw [before, bne_self, Bool.or_eq_true, decide_eq_true_eq]
  cases he : e.isNaN with
  | true => simp
  | false =>
    cases hd : d.isNaN with
    | true => simp [le_iff_compare, compare_of_isNaN hd e]
    | false =>
      obtain ⟨a, ha⟩ := exists_rank hd
      obtain ⟨b, hb⟩ := exists_rank he
      simp [le_iff ha hb, lt_iff hb ha]

theorem before_total (d e : Float) : (before d e || before e d) = true := by
  rw [Bool.or_eq_true, before_iff, before_iff]
  cases hd : d.isNaN with
  | true => simp
  | false =>
    cases he : e.isNaN with
    | true => simp
    | false => simpa using not_lt_or_not_lt he hd

theorem before_trans (d e f : Float) (hde : before d e = true) (hef : before e f = true) :
    before d f = true := by
  rw [before_iff] at hde hef ⊢
  rcases hef with hf | ⟨he, hfe⟩
  · exact .inl hf
  · obtain ⟨hd, hed⟩ := hde.resolve_left (ne_true_of_eq_false he)
    cases hf : f.isNaN with
    | true => exact .inl rfl
    | false => exact .inr ⟨hd, not_lt_trans hf he hd hfe hed⟩

theorem nearer_iff : Nearer d e ↔ before e d = false := by
  rw [← Bool.not_eq_true, before_iff, Nearer]
  cases hd : d.isNaN with
  | true => simp [lt_iff_compare, compare_of_isNaN hd e]
  | false => cases he : e.isNaN <;> simp

theorem equallyFar_iff : EquallyFar d e ↔ before d e = true ∧ before e d = true := by
  rw [before_iff, before_iff, EquallyFar]
  cases hd : d.isNaN with
  | true => simp [beq_iff_compare, compare_of_isNaN hd e]
  | false =>
    cases he : e.isNaN with
    | true => simp [beq_iff_compare, compare_of_isNaN he d]
    | false =>
      obtain ⟨a, ha⟩ := exists_rank hd
      obtain ⟨b, hb⟩ := exists_rank he
      simp [beq_iff ha hb, lt_iff ha hb, lt_iff hb ha, and_comm]

section

open Float.Model

/-- No number, or a zero of either sign. -/
def Null (x : UnpackedFloat) : Prop := x = .notANumber ∨ ∃ sign, x = .zero sign

theorem null_zero_mul (x : UnpackedFloat) : Null (.mul .binary64 (.zero .positive) x) := by
  cases x with
  | notANumber | infinity sign => exact .inl rfl
  | zero sign | finite sign => exact .inr ⟨_, rfl⟩

theorem null_mul_zero (x : UnpackedFloat) : Null (.mul .binary64 x (.zero .positive)) := by
  cases x with
  | notANumber | infinity sign => exact .inl rfl
  | zero sign | finite sign => exact .inr ⟨_, rfl⟩

theorem Null.not_zero_lt {x : UnpackedFloat} (h : Null x) : ¬0 < Float.ofModel (pack x) := by
  rcases h with rfl | ⟨sign, rfl⟩
  · decide
  · cases sign <;> decide

theorem not_zero_lt_zero_mul (x : Float) : ¬0 < 0 * x :=
  (null_zero_mul x.toModel.unpack).not_zero_lt

theorem not_zero_lt_mul_zero (x : Float) : ¬0 < x * 0 :=
  (null_mul_zero x.toModel.unpack).not_zero_lt

end

theorem distance_eq (size product : Float) :
    distance size product =
      if 0 < size then
        let d := 1 - product / size
        if d < 0 then 0 else if 2 < d then 2 else d
      else 1 := by
  unfold distance
  split
  · rfl
  · decide

end TextMemory.Similarity
