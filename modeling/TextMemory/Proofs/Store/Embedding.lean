import TextMemory.Proofs.Json.Number
import TextMemory.Store.Embedding

/-!
# Embeddings read back

An embedding is read as it was written, number by number: what stands behind a number in the array
is a comma or the closing bracket.
-/
namespace TextMemory.Embedding

open Json

def itemChars (x : Float) : List Char := (naturalText ("Infinity", "NaN") x).toList

theorem ends_comma (rest : List Char) : Ends (',' :: rest) := by
  refine ⟨noDigit_cons rfl, ?_, ?_⟩ <;> simp

theorem ends_bracket (rest : List Char) : Ends (']' :: rest) := by
  refine ⟨noDigit_cons rfl, ?_, ?_⟩ <;> simp

def reserved : List Char :=
  [' ', '\n', '\r', '\t', ']', '[', Text.doubleQuote, Char.ofNat 0x7b]

theorem itemChars_first (x : Float) : ∃ c cs, itemChars x = c :: cs ∧ ∀ d ∈ reserved, c ≠ d := by
  obtain ⟨c, cs, htext, hc⟩ := naturalText_first x
  refine ⟨c, cs, htext, ?_⟩
  rintro d hd rfl
  have hother : ∀ d ∈ reserved, d.isDigit = false ∧ d ≠ '-' ∧ d ≠ 'N' ∧ d ≠ 'I' := by
    simp [reserved, Text.doubleQuote]
  obtain ⟨hdigit, hminus, hN, hI⟩ := hother c hd
  rcases hc with hc | hc | hc | hc
  · rw [hdigit] at hc
    cases hc
  · exact hminus hc
  · exact hN hc
  · exact hI hc

theorem skipSpace_item (x : Float) (rest : List Char) :
    skipSpace (itemChars x ++ rest) = itemChars x ++ rest := by
  obtain ⟨c, cs, htext, hc⟩ := itemChars_first x
  have hspace : isSpace c = false := by
    simp only [isSpace, Bool.or_eq_false_iff, beq_eq_false_iff_ne]
    exact ⟨⟨⟨hc _ (by decide), hc _ (by decide)⟩, hc _ (by decide)⟩, hc _ (by decide)⟩
  rw [htext, List.cons_append, skipSpace, List.dropWhile_cons_of_neg (by simp [hspace])]

theorem readValue_item (depth fuel : Nat) (x : Float) {rest : List Char} (hrest : Ends rest) :
    readValue depth (fuel + 1) (itemChars x ++ rest) = .ok (.float x, rest) := by
  have hplain : readPlain (itemChars x ++ rest) = .ok (.float x, rest) :=
    readPlain_naturalText x hrest
  obtain ⟨c, cs, htext, hc⟩ := itemChars_first x
  have hquote : c ≠ Text.doubleQuote := hc _ (by decide)
  have hlist : c ≠ '[' := hc _ (by decide)
  have hobject : c.toNat ≠ 0x7b := by
    intro h
    exact hc (Char.ofNat 0x7b) (by decide) (Char.toNat_inj.mp h)
  rw [htext, List.cons_append] at hplain ⊢
  simp only [readValue, hquote, hlist, hobject, if_false]
  exact hplain

def laterChars (v : List Float) : List Char := v.flatMap fun x => ',' :: ' ' :: itemChars x

theorem intercalate_items (x : Float) (v : List Float) :
    [',', ' '].intercalate ((x :: v).map itemChars) = itemChars x ++ laterChars v := by
  induction v generalizing x with
  | nil => simp [laterChars]
  | cons y v ih =>
    rw [List.map_cons, List.map_cons, List.intercalate_cons_cons, ← List.map_cons, ih]
    simp [laterChars]

theorem ends_later (v : List Float) (rest : List Char) : Ends (laterChars v ++ ']' :: rest) := by
  cases v with
  | nil => exact ends_bracket rest
  | cons y v => exact ends_comma _

theorem readItems_items (depth fuel : Nat) (x : Float) (v : List Float) (rest : List Char)
    (hfuel : v.length + 2 ≤ fuel) :
    readItems depth fuel (itemChars x ++ (laterChars v ++ ']' :: rest)) =
      .ok ((x :: v).map Json.float, rest) := by
  induction v generalizing x fuel with
  | nil =>
    obtain ⟨fuel, rfl⟩ : ∃ n, fuel = n + 2 := ⟨fuel - 2, by simp at hfuel; omega⟩
    rw [readItems, readValue_item depth fuel x (ends_later [] rest)]
    rfl
  | cons y v ih =>
    obtain ⟨fuel, rfl⟩ : ∃ n, fuel = n + 2 := ⟨fuel - 2, by simp at hfuel; omega⟩
    have hlater : laterChars (y :: v) ++ ']' :: rest =
        ',' :: ' ' :: (itemChars y ++ (laterChars v ++ ']' :: rest)) := by
      simp [laterChars]
    have hblank : skipSpace (' ' :: (itemChars y ++ (laterChars v ++ ']' :: rest))) =
        itemChars y ++ (laterChars v ++ ']' :: rest) := skipSpace_item y _
    have hrest := ih (fuel + 1) y (by simp at hfuel; omega)
    rw [readItems, readValue_item depth fuel x (ends_later (y :: v) rest), hlater]
    change (readItems depth (fuel + 1)
      (skipSpace (' ' :: (itemChars y ++ (laterChars v ++ ']' :: rest)))) >>=
      fun r => .ok (Json.float x :: r.1, r.2)) = _
    rw [hblank, hrest]
    rfl

theorem length_le_laterChars (v : List Float) : v.length ≤ (laterChars v).length := by
  induction v with
  | nil => exact Nat.zero_le _
  | cons x v ih =>
    simp only [laterChars, List.flatMap_cons, List.length_append, List.length_cons] at ih ⊢
    omega

theorem readValue_items (depth fuel : Nat) (x : Float) (v : List Float) (rest : List Char)
    (hfuel : v.length + 2 ≤ fuel) :
    readValue (depth + 1) (fuel + 1) ('[' :: (itemChars x ++ (laterChars v ++ ']' :: rest))) =
      .ok (.array ((x :: v).map Json.float), rest) := by
  have hitems := readItems_items depth fuel x v rest hfuel
  have hlist : ('[' : Char) ≠ Text.doubleQuote := by decide
  obtain ⟨c, cs, htext, hc⟩ := itemChars_first x
  have hbracket : c ≠ ']' := hc _ (by decide)
  simp only [readValue, hlist, if_false, if_true, Nat.add_one_ne_zero, skipSpace_item]
  rw [htext, List.cons_append] at hitems ⊢
  split
  · rename_i hcs
    cases hcs
    exact absurd rfl hbracket
  · rw [Nat.add_sub_cancel, hitems]
    rfl

theorem write_toList (v : List Float) :
    (write v).toList = '[' :: ([',', ' '].intercalate (v.map itemChars) ++ [']']) := by
  simp only [write, String.toList_append, String.toList_intercalate, List.map_map]
  rfl

theorem read_write (v : List Float) : read (write v) = .ok (.array (v.map Json.float)) := by
  unfold read readWithin
  rw [write_toList]
  cases v with
  | nil => rfl
  | cons x v =>
    have hlength := length_le_laterChars v
    have hread : readValue nesting
        (2 * ('[' :: (itemChars x ++ (laterChars v ++ [']']))).length + 2)
        ('[' :: (itemChars x ++ (laterChars v ++ [']']))) =
        .ok (.array ((x :: v).map Json.float), []) := by
      apply readValue_items
      simp only [List.length_cons, List.length_append]
      omega
    have hmark : ('[' : Char) ≠ byteOrderMark := by decide
    have hskip : ∀ cs, skipSpace ('[' :: cs) = '[' :: cs := fun cs => rfl
    rw [intercalate_items, List.append_assoc, hskip]
    simp only [hread, List.head?_cons, Option.some.injEq, hmark, if_false]
    rfl

end TextMemory.Embedding
