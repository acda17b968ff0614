import TextMemory.Proofs.Chunking

/-!
# Where a text is cut

A window is cut by what lies in it alone: behind the last occurrence of the strongest separator that
its back has, or at its end. So the pieces from any piece on are the pieces of the text from there
on, and a text that goes on has the same pieces up to the last one.
-/
namespace TextMemory

namespace Window

variable {w : Window} {sep cs : List Char} {n : Nat}

theorem not_fits_append (h : ¬w.fits cs = true) (ds : List Char) : ¬w.fits (cs ++ ds) = true := by
  rw [fits_iff] at h ⊢
  rw [List.length_append]
  omega

theorem cut_append (h : ¬w.fits cs = true) (ds : List Char) : w.cut (cs ++ ds) = w.cut cs := by
  rw [fits_iff] at h
  have hback : w.back (cs ++ ds) = w.back cs := by
    rw [back, back, List.take_append_of_le_length (by omega)]
  rw [cut, cut, hback]

/-- What is put behind a text goes into its last piece. -/
theorem pieces_append {before : List (List Char)} {last : List Char}
    (h : w.pieces cs = before ++ [last])
    (ds : List Char) : w.pieces (cs ++ ds) = before ++ w.pieces (last ++ ds) := by
  induction before generalizing cs with
  | nil =>
    by_cases hfits : w.fits cs
    · rw [pieces_of_fits hfits] at h
      simp_all
    · rw [pieces_of_not_fits hfits] at h
      simp [pieces_ne_nil] at h
  | cons p ps ih =>
    have hfits : ¬w.fits cs = true := by
      intro hfits
      simp [pieces_of_fits hfits] at h
    have hcut := cut_lt_of_not_fits hfits
    rw [pieces_of_not_fits hfits, List.cons_append, List.cons.injEq] at h
    obtain ⟨rfl, hrest⟩ := h
    rw [pieces_of_not_fits (not_fits_append hfits ds), cut_append hfits,
      List.take_append_of_le_length (by omega), List.drop_append_of_le_length (by omega), ih hrest,
      List.cons_append]

/-- An occurrence of `sep` ends `n` characters into the text. -/
def EndsAt (sep cs : List Char) (n : Nat) : Prop :=
  ∃ before after, before ++ sep ++ after = cs ∧ (before ++ sep).length = n

structure EndsLast (sep cs : List Char) (n : Nat) : Prop where
  ends : EndsAt sep cs n
  last : ∀ m, EndsAt sep cs m → m ≤ n

theorem infix_iff_endsAt : sep <:+: cs ↔ ∃ n, EndsAt sep cs n := by
  simp [List.IsInfix, EndsAt]

theorem endsAt_nil (hsep : sep ≠ []) : ¬EndsAt sep [] n := by
  simp [EndsAt, hsep]

theorem endsAt_cons {c : Char} :
    EndsAt sep (c :: cs) n ↔ (sep <+: c :: cs ∧ n = sep.length) ∨ ∃ m, EndsAt sep cs m ∧
      n = m + 1 := by
  constructor
  · rintro ⟨before, after, hcs, rfl⟩
    cases before with
    | nil => exact .inl ⟨⟨after, hcs⟩, rfl⟩
    | cons d before =>
      simp only [List.cons_append, List.cons.injEq] at hcs
      exact .inr ⟨_, ⟨before, after, hcs.2, rfl⟩, rfl⟩
  · rintro (⟨⟨after, hcs⟩, rfl⟩ | ⟨m, ⟨before, after, rfl, rfl⟩, rfl⟩)
    · exact ⟨[], after, hcs, rfl⟩
    · exact ⟨c :: before, after, rfl, rfl⟩

theorem not_infix_of_lastEnd (hsep : sep ≠ []) (h : lastEnd sep cs = none) : ¬sep <:+: cs := by
  rw [infix_iff_endsAt]
  rintro ⟨n, hn⟩
  induction cs generalizing n with
  | nil => exact endsAt_nil hsep hn
  | cons c cs ih =>
    simp only [lastEnd] at h
    cases hlast : lastEnd sep cs with
    | some m => simp [hlast] at h
    | none =>
      rcases endsAt_cons.mp hn with ⟨hfirst, -⟩ | ⟨m, hm, -⟩
      · simp [hlast, hfirst] at h
      · exact ih hlast m hm

theorem endsLast_of_lastEnd (hsep : sep ≠ []) (h : lastEnd sep cs = some n) :
    EndsLast sep cs n := by
  induction cs generalizing n with
  | nil => simp [lastEnd] at h
  | cons c cs ih =>
    simp only [lastEnd] at h
    cases hlast : lastEnd sep cs with
    | some m =>
      simp only [hlast, Option.some.injEq] at h
      subst h
      obtain ⟨hends, hlater⟩ := ih hlast
      refine ⟨endsAt_cons.mpr (.inr ⟨m, hends, rfl⟩), fun k hk => ?_⟩
      rcases endsAt_cons.mp hk with ⟨-, rfl⟩ | ⟨j, hj, rfl⟩
      · -- the occurrence that was found is at least as long as the separator
        obtain ⟨before, after, -, rfl⟩ := hends
        simp only [List.length_append]
        omega
      · exact Nat.succ_le_succ (hlater j hj)
    | none =>
      simp only [hlast, Option.ite_none_right_eq_some, Option.some.injEq] at h
      obtain ⟨hfirst, rfl⟩ := h
      refine ⟨endsAt_cons.mpr (.inl ⟨List.isPrefixOf_iff_prefix.mp hfirst, rfl⟩), fun k hk => ?_⟩
      rcases endsAt_cons.mp hk with ⟨-, rfl⟩ | ⟨j, hj, -⟩
      · exact Nat.le_refl _
      · exact absurd (infix_iff_endsAt.mpr ⟨j, hj⟩) (not_infix_of_lastEnd hsep hlast)

/-- How many characters a piece has in a window of `size`, of which `back` is what lies behind the
first `floor` characters. -/
structure Cuts (back : List Char) (floor size n : Nat) : Prop where
  behind : ∀ stronger sep weaker,
    [['\n', '\n'], ['\n'], [' '], ['\t']] = stronger ++ sep :: weaker →
      (∀ s ∈ stronger, ¬s <:+: back) → sep <:+: back → ∃ k, EndsLast sep back k ∧ n = floor + k
  full : (∀ sep ∈ [['\n', '\n'], ['\n'], [' '], ['\t']], ¬sep <:+: back) → n = size

theorem cut_cuts (w : Window) (cs : List Char) : Cuts (w.back cs) w.floor w.size (w.cut cs) := by
  have hfilled : ∀ sep ∈ separators, sep ≠ [] := by decide
  have hnone : ∀ sep ∈ separators, ¬sep <:+: w.back cs → lastEnd sep (w.back cs) = none := by
    intro sep hsep hmissing
    cases hlast : lastEnd sep (w.back cs) with
    | none => rfl
    | some n =>
      exact absurd (infix_iff_endsAt.mpr ⟨n, (endsLast_of_lastEnd (hfilled sep hsep) hlast).ends⟩)
        hmissing
  constructor
  · intro stronger sep weaker hseparators hstronger hsep
    have hmem : ∀ s ∈ stronger ++ sep :: weaker, s ∈ separators := fun s hs => by
      rw [separators, hseparators]
      exact hs
    have hfirst : stronger.findSome? (fun s => lastEnd s (w.back cs)) = none := by
      rw [List.findSome?_eq_none_iff]
      exact fun s hs => hnone s (hmem s (List.mem_append_left _ hs)) (hstronger s hs)
    have hne : sep ≠ [] := hfilled sep (hmem sep (by simp))
    cases hlast : lastEnd sep (w.back cs) with
    | none => exact absurd hsep (not_infix_of_lastEnd hne hlast)
    | some k =>
      refine ⟨k, endsLast_of_lastEnd hne hlast, ?_⟩
      rw [cut, separators, hseparators, List.findSome?_append, hfirst, Option.none_or,
        List.findSome?_cons, hlast]
  · intro hmissing
    have hcut : separators.findSome? (fun s => lastEnd s (w.back cs)) = none := by
      rw [List.findSome?_eq_none_iff]
      exact fun s hs => hnone s hs (hmissing s hs)
    rw [cut, hcut]

/-- How far pieces go in the text, when so much of each is repeated by the next one. -/
def reach (overlap : Nat) : List (List Char) → Nat
  | [] => 0
  | p :: ps => p.length - overlap + reach overlap ps

@[simp] theorem reach_nil (overlap : Nat) : reach overlap [] = 0 := rfl

@[simp] theorem reach_cons (overlap : Nat) (p : List Char) (ps : List (List Char)) :
    reach overlap (p :: ps) = p.length - overlap + reach overlap ps := rfl

theorem pieces_drop {before after : List (List Char)} (h : w.pieces cs = before ++ after)
    (hafter : after ≠ []) : w.pieces (cs.drop (reach w.overlap before)) = after := by
  induction before generalizing cs with
  | nil => simpa using h
  | cons p ps ih =>
    have hfits : ¬w.fits cs = true := by
      intro hfits
      simp [pieces_of_fits hfits, hafter] at h
    have hcut := cut_lt_of_not_fits hfits
    rw [pieces_of_not_fits hfits, List.cons_append, List.cons.injEq] at h
    obtain ⟨rfl, hrest⟩ := h
    have hlength : (cs.take (w.cut cs)).length = w.cut cs :=
      List.length_take_of_le (Nat.le_of_lt hcut)
    rw [reach_cons, hlength, ← List.drop_drop]
    exact ih hrest

theorem back_drop (start : Nat) :
    w.back (cs.drop start) = (cs.take (start + w.size)).drop (start + w.floor) := by
  rw [back, List.take_drop, List.drop_drop]

theorem pieces_cuts {before after : List (List Char)} {p : List Char}
    (h : w.pieces cs = before ++ p :: after) :
    let start := reach w.overlap before
    (after ≠ [] → start + w.size < cs.length ∧ p = (cs.drop start).take p.length ∧
      Cuts ((cs.take (start + w.size)).drop (start + w.floor)) w.floor w.size p.length) ∧
    (after = [] → cs.length ≤ start + w.size ∧ p = cs.drop start) := by
  intro start
  have hfrom : w.pieces (cs.drop start) = p :: after := pieces_drop h (List.cons_ne_nil _ _)
  have hlength : (cs.drop start).length = cs.length - start := List.length_drop
  by_cases hfits : w.fits (cs.drop start)
  · rw [pieces_of_fits hfits, List.cons.injEq] at hfrom
    obtain ⟨rfl, rfl⟩ := hfrom
    rw [fits_iff] at hfits
    refine ⟨fun hafter => absurd rfl hafter, fun _ => ⟨by omega, rfl⟩⟩
  · have hcut := cut_lt_of_not_fits hfits
    have hcuts := cut_cuts w (cs.drop start)
    rw [pieces_of_not_fits hfits, List.cons.injEq] at hfrom
    obtain ⟨rfl, rfl⟩ := hfrom
    rw [fits_iff] at hfits
    rw [back_drop] at hcuts
    rw [List.length_take_of_le (Nat.le_of_lt hcut)]
    exact ⟨fun _ => ⟨by omega, rfl, hcuts⟩, fun hafter => absurd hafter (pieces_ne_nil _ _)⟩

end Window

/-- What is put behind a text changes none of its pieces but the last. -/
theorem chunk_append {text : String} (hne : text ≠ "") (more : String) {size overlap : Int}
    (hoverlap : 0 ≤ overlap) (hlt : overlap < size) :
    ∃ before last rest, chunk text size overlap = .ok (before ++ [last]) ∧
      chunk (last ++ more) size overlap = .ok rest ∧
      chunk (text ++ more) size overlap = .ok (before ++ rest) := by
  obtain ⟨w, hw, -, -⟩ := exists_window hoverlap hlt
  have hpieces := List.dropLast_concat_getLast (w.pieces_ne_nil text.toList)
  have hlast : (w.pieces text.toList).getLast (w.pieces_ne_nil _) ≠ [] :=
    (w.filled_of_mem_pieces (by simpa using hne) (List.getLast_mem _)).1
  have happend := Window.pieces_append hpieces.symm more.toList
  generalize (w.pieces text.toList).getLast (w.pieces_ne_nil _) = last at hpieces hlast happend
  refine ⟨(w.pieces text.toList).dropLast.map String.ofList, String.ofList last,
    (w.pieces (last ++ more.toList)).map String.ofList, ?_, ?_, ?_⟩
  · rw [chunk_of_window hne hw]
    conv_lhs => rw [← hpieces]
    simp
  · rw [chunk_of_window (by simp [hlast]) hw]
    simp
  · rw [chunk_of_window (by simp [hne]) hw, String.toList_append, happend, List.map_append]

theorem chunk_append_of_lines :
    "abcdef\n" ≠ "" ∧ (0 : Int) ≤ 1 ∧ (1 : Int) < 4 ∧
      ∃ rest, chunk "def\n\ngh" 4 1 = .ok rest ∧
        chunk "abcdef\n\ngh" 4 1 = .ok ("abcd" :: rest) := by
  have hne : "abcdef\n" ≠ "" := by decide
  have hoverlap : (0 : Int) ≤ 1 := by decide
  have hlt : (1 : Int) < 4 := by decide
  have hpieces : chunk "abcdef\n" 4 1 = .ok (["abcd"] ++ ["def\n"]) := by decide +kernel
  obtain ⟨before, last, rest, htext, hrest, hmore⟩ := chunk_append hne "\ngh" hoverlap hlt
  obtain ⟨rfl, hlast⟩ := List.append_inj' (Except.ok.inj (htext.symm.trans hpieces)) rfl
  obtain rfl := List.singleton_inj.mp hlast
  exact ⟨hne, hoverlap, hlt, rest, hrest, hmore⟩

/-- Each piece but the last is cut behind the last of the strongest separators in the back of its
window, or where the window ends. The last one is the first that begins where no more than a window
is left. -/
theorem chunk_cuts (text : String) {size overlap : Nat} (hlt : overlap < size) :
    ∃ pieces, chunk text size overlap = .ok pieces ∧ (pieces = [] ↔ text = "") ∧
      ∀ before piece after, pieces = before ++ piece :: after →
        let start := Window.reach overlap (before.map String.toList)
        let floor := max (overlap + 1) (size / 2)
        (after ≠ [] → start + size < text.length ∧
          piece.toList = (text.toList.drop start).take piece.length ∧
          Window.Cuts ((text.toList.take (start + size)).drop (start + floor))
            floor size piece.length) ∧
        (after = [] → text.length ≤ start + size ∧ piece.toList = text.toList.drop start) := by
  have hw : Window.of? size overlap = .ok ⟨size, overlap, hlt⟩ := window_of_lt hlt
  by_cases hne : text = ""
  · subst hne
    refine ⟨[], chunk_empty hw, by simp, ?_⟩
    intro before piece after h
    simp at h
  · refine ⟨_, chunk_of_window hne hw, by simp [hne, Window.pieces_ne_nil], ?_⟩
    intro before piece after h
    obtain ⟨before, rest, hpieces, rfl, hrest⟩ := List.map_eq_append_iff.mp h
    obtain ⟨piece, after, rfl, rfl, rfl⟩ := List.map_eq_cons_iff.mp hrest
    simpa [Function.comp_def, Window.floor, String.length_toList] using Window.pieces_cuts hpieces

theorem chunk_cuts_of_lines :
    0 < 3 ∧ chunk "ab\n\ncd ef" 3 0 = .ok ["ab\n", "\ncd", " ef"] ∧
      ∃ k, Window.EndsLast ['\n'] ['b', '\n'] k ∧ "ab\n".length = 1 + k := by
  have hlt : 0 < 3 := by decide
  have hpieces : chunk "ab\n\ncd ef" 3 0 = .ok ["ab\n", "\ncd", " ef"] := by decide +kernel
  have hback : ("ab\n\ncd ef".toList.take (0 + 3)).drop (0 + max (0 + 1) (3 / 2)) =
      ['b', '\n'] := by
    decide +kernel
  obtain ⟨pieces, htext, -, hcuts⟩ := chunk_cuts "ab\n\ncd ef" hlt
  obtain rfl := Except.ok.inj (htext.symm.trans hpieces)
  have hfirst := ((hcuts [] "ab\n" ["\ncd", " ef"] rfl).1 (List.cons_ne_nil _ _)).2.2
  rw [List.map_nil, Window.reach_nil, hback] at hfirst
  exact ⟨hlt, hpieces,
    hfirst.behind [['\n', '\n']] ['\n'] [[' '], ['\t']] rfl (by decide) (by decide)⟩

end TextMemory
