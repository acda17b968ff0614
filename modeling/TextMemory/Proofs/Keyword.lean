import Mathlib.Data.List.Forall2
import Mathlib.Data.List.Infix
import Mathlib.Data.List.TakeWhile
import TextMemory.Keyword
import TextMemory.Proofs.Text

/-!
# What a keyword's pattern matches

The escapes of a pattern are undone when it is read, so between its two percent signs there is only
the keyword itself, character by character, and the pattern matches the texts in which the keyword
occurs. Characters are compared without the case of ASCII letters, and the matcher takes three
characters at the end of the basic plane for one.
-/
namespace TextMemory.Keyword

def nul : Char := Char.ofNat 0

def visible (text : String) : List Char := text.toList.takeWhile (· != nul)

def Special (c : Char) : Prop := c = Text.backslash ∨ c = '%' ∨ c = '_'

/-- U+FFFD, U+FFFE and U+FFFF. -/
def Replaced (c : Char) : Prop := 0xfffd ≤ c.toNat ∧ c.toNat ≤ 0xffff

instance (c : Char) : Decidable (Replaced c) := inferInstanceAs (Decidable (_ ∧ _))

/-- The same but for the case of an ASCII letter, or both replaced. -/
def Alike (x y : Char) : Prop := x.toLower = y.toLower ∨ (Replaced x ∧ Replaced y)

theorem escapeChar_special {c : Char} (h : Special c) : escapeChar c = [Text.backslash, c] := by
  rcases h with rfl | rfl | rfl <;> decide

theorem escapeChar_of_not_special {c : Char} (h : ¬Special c) : escapeChar c = [c] := by
  simp only [Special, not_or] at h
  simp [escapeChar, h]

theorem taken_special {c : Char} (h : Special c) : taken c = c := by
  rcases h with rfl | rfl | rfl <;> decide

theorem escapeChar_taken (c : Char) : escapeChar (taken c) = (escapeChar c).map taken := by
  by_cases h : Special c
  · have hslash : taken Text.backslash = Text.backslash := by decide
    simp [taken_special h, escapeChar_special h, hslash]
  · rw [escapeChar_of_not_special h, List.map_singleton]
    unfold taken
    split
    · decide
    · exact escapeChar_of_not_special h

theorem pieces_of_not_special {c : Char} (h : ¬Special c) (cs : List Char) :
    pieces (c :: cs) = .one c :: pieces cs := by
  simp only [Special, not_or] at h
  rw [pieces.eq_def]
  simp [h]

theorem pieces_backslash (c : Char) (cs : List Char) :
    pieces (Text.backslash :: c :: cs) = .one c :: pieces cs := by
  have hpercent : Text.backslash ≠ '%' := by decide
  have hline : Text.backslash ≠ '_' := by decide
  simp [pieces, hpercent, hline]

theorem pieces_percent (cs : List Char) : pieces ('%' :: cs) = .anyText :: pieces cs := by
  rw [pieces.eq_def]
  rfl

theorem pieces_escaped (ks rest : List Char) :
    pieces (ks.flatMap escapeChar ++ rest) = ks.map Piece.one ++ pieces rest := by
  induction ks with
  | nil => rfl
  | cons k ks ih =>
    by_cases h : Special k
    · simp [escapeChar_special h, pieces_backslash, ih]
    · simp [escapeChar_of_not_special h, pieces_of_not_special h, ih]

theorem takenChars_eq (s : String) : takenChars s = (visible s).map taken := rfl

theorem nul_not_mem_escapeChar {c : Char} (h : c ≠ nul) : nul ∉ escapeChar c := by
  have hslash : nul ≠ Text.backslash := by decide
  unfold escapeChar
  split
  · simp [hslash, h.symm]
  · simp [h.symm]

theorem visible_of_no_nul {s : String} (h : nul ∉ s.toList) : visible s = s.toList := by
  apply List.takeWhile_eq_self_iff.mpr
  intro c hc
  have hne : c ≠ nul := fun he => h (he ▸ hc)
  simpa using hne

theorem pieces_pattern {keyword : String} (hk : nul ∉ keyword.toList) :
    pieces (takenChars (pattern keyword)) =
      .anyText :: ((keyword.toList.map taken).map Piece.one ++ [.anyText]) := by
  have hpattern : (pattern keyword).toList =
      '%' :: (keyword.toList.flatMap escapeChar ++ ['%']) := by
    simp [pattern]
  have hnul : nul ∉ (pattern keyword).toList := by
    have hpercent : nul ≠ '%' := by decide
    rw [hpattern]
    simp only [List.mem_cons, List.mem_append, List.mem_flatMap, List.not_mem_nil,
      or_false, hpercent,
      false_or, not_exists, not_and]
    intro c hc
    exact nul_not_mem_escapeChar fun he => hk (he ▸ hc)
  have hescaped : (keyword.toList.flatMap escapeChar).map taken =
      (keyword.toList.map taken).flatMap escapeChar := by
    simp [List.map_flatMap, List.flatMap_map, escapeChar_taken]
  have hpercent : taken '%' = '%' := by decide
  rw [takenChars_eq, visible_of_no_nul hnul, hpattern, List.map_cons, List.map_append, hescaped,
    List.map_singleton, hpercent]
  rw [pieces_percent, pieces_escaped, pieces_percent, pieces]

theorem matchesPieces_end (cs : List Char) : matchesPieces [.anyText] cs = true := by
  induction cs with
  | nil => simp [matchesPieces]
  | cons c cs ih => simp [matchesPieces, ih]

theorem matchesPieces_ones (ks cs : List Char) :
    matchesPieces (ks.map .one ++ [.anyText]) cs = true ↔ ks.map foldCase <+: cs.map foldCase := by
  induction ks generalizing cs with
  | nil => simp [matchesPieces_end]
  | cons k ks ih =>
    cases cs with
    | nil => simp [matchesPieces]
    | cons c cs => simp [matchesPieces, ih]

theorem matchesPieces_anyText (ps : List Piece) (cs : List Char) :
    matchesPieces (.anyText :: ps) cs = true ↔ ∃ rest, rest <:+ cs ∧
      matchesPieces ps rest = true := by
  induction cs with
  | nil => simp [matchesPieces]
  | cons c cs ih =>
    rw [matchesPieces, Bool.or_eq_true, ih]
    simp only [List.suffix_cons_iff]
    simp

def folded (c : Char) : Char := foldCase (taken c)

theorem like_pattern {keyword : String} (hk : nul ∉ keyword.toList) (text : String) :
    like (pattern keyword) text = true ↔
    keyword.toList.map folded <:+: (visible text).map folded := by
  have hfolded : ∀ cs : List Char, cs.map folded = (cs.map taken).map foldCase := by
    intro cs
    rw [List.map_map]
    rfl
  rw [like, pieces_pattern hk, matchesPieces_anyText, takenChars_eq, hfolded, hfolded,
    List.infix_iff_prefix_suffix]
  constructor
  · rintro ⟨rest, hrest, hmatch⟩
    exact ⟨rest.map foldCase, (matchesPieces_ones _ _).mp hmatch, hrest.map foldCase⟩
  · rintro ⟨_, hprefix, hsuffix⟩
    obtain ⟨rest, hrest, rfl⟩ := List.suffix_map_iff.mp hsuffix
    exact ⟨rest, hrest, (matchesPieces_ones _ _).mpr hprefix⟩

theorem toLower_replaced (c : Char) : Replaced c.toLower ↔ Replaced c := by
  unfold Replaced
  rw [Text.toNat_toLower]
  split <;> omega

theorem taken_replaced {c : Char} (h : Replaced c) : taken c = Char.ofNat 0xfffd := by
  unfold taken
  split
  · rfl
  · rename_i hc
    simp only [Bool.or_eq_true, decide_eq_true_eq, not_or] at hc
    have hcode : c.toNat = 0xfffd := by
      have := h.1
      have := h.2
      omega
    rw [← hcode, Char.ofNat_toNat]

theorem taken_of_not_replaced {c : Char} (h : ¬Replaced c) : taken c = c := by
  unfold taken
  split
  · rename_i hc
    simp only [Bool.or_eq_true, decide_eq_true_eq] at hc
    refine absurd ?_ h
    unfold Replaced
    omega
  · rfl

theorem folded_replaced (c : Char) : Replaced (folded c) ↔ Replaced c := by
  unfold folded foldCase
  rw [toLower_replaced]
  by_cases h : Replaced c
  · rw [taken_replaced h]
    exact iff_of_true (by decide) h
  · rw [taken_of_not_replaced h]

theorem Alike.replaced {x y : Char} (h : Alike x y) : Replaced x ↔ Replaced y := by
  rcases h with h | ⟨hx, hy⟩
  · rw [← toLower_replaced x, h, toLower_replaced]
  · exact iff_of_true hx hy

theorem folded_eq_iff (x y : Char) : folded x = folded y ↔ Alike x y := by
  have hfolded : folded x = folded y → (Replaced x ↔ Replaced y) := by
    intro h
    rw [← folded_replaced x, h, folded_replaced]
  by_cases hx : Replaced x
  · by_cases hy : Replaced y
    · apply iff_of_true
      · rw [folded, folded, taken_replaced hx, taken_replaced hy]
      · exact .inr ⟨hx, hy⟩
    · apply iff_of_false
      · exact fun h => hy ((hfolded h).mp hx)
      · exact fun h => hy (h.replaced.mp hx)
  · by_cases hy : Replaced y
    · apply iff_of_false
      · exact fun h => hx ((hfolded h).mpr hy)
      · exact fun h => hx (h.replaced.mpr hy)
    · rw [folded, folded, taken_of_not_replaced hx, taken_of_not_replaced hy]
      simp [Alike, foldCase, hx]

theorem eq_of_toLower_special {c d : Char} (hd : Special d) (h : c.toLower = d) : c = d := by
  have hcode := Text.toNat_toLower c
  have hother : d.toNat < 97 ∨ 122 < d.toNat := by rcases hd with rfl | rfl | rfl <;> decide
  apply Char.toNat_inj.mp
  rw [h] at hcode
  split at hcode <;> omega

theorem Alike.eq_of_special {x y : Char} (h : Alike x y) (hx : Special x) : y = x := by
  have hlower : x.toLower = x := by rcases hx with rfl | rfl | rfl <;> decide
  have hplain : ¬Replaced x := by rcases hx with rfl | rfl | rfl <;> decide
  rcases h with h | h
  · exact eq_of_toLower_special hx (h.symm.trans hlower)
  · exact absurd h.1 hplain

theorem exists_part_iff {f : Char → Char} {word text : List Char} :
    (∃ part, part <:+: text ∧ List.Forall₂ (fun x y => f x = f y) word part) ↔
      word.map f <:+: text.map f := by
  rw [List.infix_map_iff]
  refine exists_congr fun part => and_congr_right fun _ => ?_
  rw [← List.forall₂_eq_eq_eq, List.forall₂_map_left_iff, List.forall₂_map_right_iff]

def Within (word text : List Char) : Prop := ∃ part, part <:+: text ∧ List.Forall₂ Alike word part

theorem within_iff {word text : List Char} : Within word text ↔
    word.map folded <:+: text.map folded := by
  rw [← exists_part_iff]
  simp only [Within, folded_eq_iff]

instance (word text : List Char) : Decidable (Within word text) :=
  decidable_of_iff _ within_iff.symm

theorem like_pattern_within {keyword text : String} (hk : nul ∉ keyword.toList)
    (ht : nul ∉ text.toList) :
    like (pattern keyword) text = true ↔ Within keyword.toList text.toList := by
  rw [like_pattern hk, visible_of_no_nul ht, within_iff]

/-- The pattern of a keyword matches the texts that have, before their first NUL, a part like the
keyword; in this part, what has a meaning of its own in patterns stands for itself. -/
theorem like_pattern_iff_part {keyword : String} (hk : nul ∉ keyword.toList) (text : String) :
    (like (pattern keyword) text = true ↔
      ∃ part, part <:+: visible text ∧ List.Forall₂ Alike keyword.toList part) ∧
    ∀ x y, (x = '%' ∨ x = '_' ∨ x = Text.backslash) → (Alike x y ↔ y = x) := by
  constructor
  · rw [like_pattern hk, List.infix_map_iff]
    refine exists_congr fun part => and_congr_right fun _ => ?_
    rw [← List.forall₂_eq_eq_eq, List.forall₂_map_left_iff, List.forall₂_map_right_iff]
    simp only [folded_eq_iff]
  · intro x y hx
    have hspecial : Special x := by
      unfold Special
      tauto
    refine ⟨fun h => h.eq_of_special hspecial, ?_⟩
    rintro rfl
    exact .inl rfl

theorem like_pattern_iff_part_of_percent :
    nul ∉ "5%_\\".toList ∧ like (pattern "5%_\\") "say 5%_\\ now" = true ∧
      ∃ part, part <:+: visible "say 5%_\\ now" ∧ List.Forall₂ Alike "5%_\\".toList part := by
  have hnul : nul ∉ "5%_\\".toList := by decide
  have hpart : "5%_\\".toList <:+: visible "say 5%_\\ now" := by decide +kernel
  have hsame : List.Forall₂ Alike "5%_\\".toList "5%_\\".toList :=
    List.forall₂_same.mpr fun _ _ => .inl rfl
  have hlike := (like_pattern_iff_part hnul "say 5%_\\ now").1.mpr ⟨_, hpart, hsame⟩
  exact ⟨hnul, hlike, _, hpart, hsame⟩

/-- U+FFFE is found where there is only U+FFFD, which no case of letters makes the same. -/
theorem like_pattern_of_replacement :
    nul ∉ "\ufffe\ufffe\ufffe".toList ∧
    (pattern "\ufffe\ufffe\ufffe").utf8ByteSize ≤ longestPattern ∧
      ¬(like (pattern "\ufffe\ufffe\ufffe") "\ufffd\ufffd\ufffd" = true ↔
        ∃ part, part <:+: visible "\ufffd\ufffd\ufffd" ∧
          List.Forall₂ (fun x y => x.toLower = y.toLower) "\ufffe\ufffe\ufffe".toList part) := by
  have hnul : nul ∉ "\ufffe\ufffe\ufffe".toList := by decide
  have hlike : like (pattern "\ufffe\ufffe\ufffe") "\ufffd\ufffd\ufffd" = true :=
    (like_pattern hnul _).mpr (by decide +kernel)
  refine ⟨hnul, by decide +kernel, fun h => ?_⟩
  obtain ⟨part, hpart, hsame⟩ := h.mp hlike
  have hvisible : visible "\ufffd\ufffd\ufffd" = ['\ufffd', '\ufffd', '\ufffd'] := by decide +kernel
  rw [hvisible] at hpart
  have hchars : "\ufffe\ufffe\ufffe".toList = ['\ufffe', '\ufffe', '\ufffe'] := by decide
  rw [hchars, List.forall₂_cons_left_iff] at hsame
  obtain ⟨c, rest, hfirst, -, rfl⟩ := hsame
  have hc : c = '\ufffd' := by simpa using hpart.subset List.mem_cons_self
  rw [hc] at hfirst
  revert hfirst
  decide

end TextMemory.Keyword
