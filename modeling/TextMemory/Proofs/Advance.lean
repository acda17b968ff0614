import TextMemory.Proofs.Cut

/-!
# How far windows advance

A cut lies behind the floor of its window or at its end, so the next window begins at least a fixed
way further on. What lies before the last two windows is therefore short, and a text has no more
windows than fit in it.
-/
namespace TextMemory

namespace Window

variable {w : Window} {sep cs piece : List Char} {before after : List (List Char)}

/-- The least way from one window's start to the next one's. -/
def advance (w : Window) : Nat := min w.size (w.floor + 1) - w.overlap

theorem advance_add_overlap (w : Window) : w.advance + w.overlap = min w.size (w.floor + 1) := by
  have hsize := w.overlap_lt
  have hfloor := w.overlap_lt_floor
  rw [advance]
  omega

theorem advance_pos (w : Window) : 0 < w.advance := by
  have hsum := w.advance_add_overlap
  have hsize := w.overlap_lt
  have hfloor := w.overlap_lt_floor
  omega

theorem lastEnd_pos {n : Nat} (hsep : sep ≠ []) (h : lastEnd sep cs = some n) : 0 < n := by
  obtain ⟨before, after, -, rfl⟩ := (endsLast_of_lastEnd hsep h).ends
  have hlength := List.length_pos_iff.mpr hsep
  rw [List.length_append]
  omega

theorem advance_le_cut (w : Window) (cs : List Char) : w.advance + w.overlap ≤ w.cut cs := by
  rw [advance_add_overlap, cut]
  split
  · rename_i n hn
    obtain ⟨sep, hsep, hlast⟩ := List.exists_of_findSome?_eq_some hn
    have hfilled : ∀ sep ∈ separators, sep ≠ [] := by decide
    have hpos := lastEnd_pos (hfilled sep hsep) hlast
    omega
  · exact Nat.min_le_left _ _

theorem advance_le_length (h : w.pieces cs = before ++ piece :: after) (hafter : after ≠ []) :
    w.advance + w.overlap ≤ piece.length := by
  have hfrom := pieces_drop h (List.cons_ne_nil _ _)
  generalize cs.drop (reach w.overlap before) = rest at hfrom
  by_cases hfits : w.fits rest
  · rw [pieces_of_fits hfits, List.cons.injEq] at hfrom
    exact absurd hfrom.2.symm hafter
  · rw [pieces_of_not_fits hfits, List.cons.injEq] at hfrom
    rw [← hfrom.1, List.length_take_of_le (Nat.le_of_lt (cut_lt_of_not_fits hfits))]
    exact w.advance_le_cut rest

theorem reach_append (overlap : Nat) (ps qs : List (List Char)) :
    reach overlap (ps ++ qs) = reach overlap ps + reach overlap qs := by
  induction ps with
  | nil => simp
  | cons p ps ih => rw [List.cons_append, reach_cons, reach_cons, ih, Nat.add_assoc]

theorem mul_advance_le_reach {ps : List (List Char)}
    (h : ∀ p ∈ ps, w.advance + w.overlap ≤ p.length) :
    ps.length * w.advance ≤ reach w.overlap ps := by
  induction ps with
  | nil => simp
  | cons p ps ih =>
    rw [List.forall_mem_cons] at h
    have hrest := ih h.2
    rw [List.length_cons, Nat.succ_mul, reach_cons]
    omega

theorem length_le_quotient (h : w.pieces cs = before ++ piece :: after) (hafter : after ≠ []) :
    before.length ≤ (cs.length - w.size - 1) / w.advance := by
  have hstart := ((pieces_cuts h).1 hafter).1
  have hreach : before.length * w.advance ≤ reach w.overlap before := by
    apply mul_advance_le_reach
    intro p hp
    obtain ⟨earlier, later, rfl⟩ := List.append_of_mem hp
    rw [List.append_assoc, List.cons_append] at h
    exact advance_le_length h (by simp)
  rw [Nat.le_div_iff_mul_le w.advance_pos]
  omega

theorem length_pieces_le_quotient (w : Window) (cs : List Char) :
    (w.pieces cs).length ≤ (cs.length - w.size - 1) / w.advance + 2 := by
  obtain ⟨before, last, hpieces⟩ :=
    (List.eq_nil_or_concat (w.pieces cs)).resolve_left (w.pieces_ne_nil cs)
  rw [List.concat_eq_append] at hpieces
  rcases List.eq_nil_or_concat before with rfl | ⟨before, piece, rfl⟩
  · rw [hpieces]
    simp
  · rw [List.concat_eq_append, List.append_assoc, List.singleton_append] at hpieces
    have hbefore := length_le_quotient hpieces (List.cons_ne_nil _ _)
    rw [hpieces, List.length_append]
    simpa using hbefore

/-- Each piece lies in the text where its window begins, and the next window begins so far on. -/
theorem pieces_advance (h : w.pieces cs = before ++ piece :: after) :
    piece = (cs.drop (reach w.overlap before)).take piece.length ∧
      (after ≠ [] → reach w.overlap (before ++ [piece]) + w.overlap = reach w.overlap before +
        piece.length ∧
        reach w.overlap before + w.advance ≤ reach w.overlap (before ++ [piece]) ∧
        w.advance + w.overlap ≤ piece.length) := by
  obtain ⟨hmiddle, hlast⟩ := pieces_cuts h
  constructor
  · by_cases hafter : after = []
    · rw [← (hlast hafter).2, List.take_length]
    · exact (hmiddle hafter).2.1
  · intro hafter
    have hlength := advance_le_length h hafter
    rw [reach_append, reach_cons, reach_nil]
    omega

end Window

/-- Of a text that is longer than the window, each window begins a fixed way or more behind the one
before, each piece but the last is longer than what it shares by that way or more, and the text has
no more pieces than that way leaves room for. -/
theorem chunk_advances (text : String) {size overlap : Nat} (hlt : overlap < size)
    (hlong : size < text.length) :
    let advance := min size (max (overlap + 1) (size / 2) + 1) - overlap
    1 ≤ advance ∧ ∃ pieces, chunk text size overlap = .ok pieces ∧
      (∀ before piece after, pieces = before ++ piece :: after →
        let start := Window.reach overlap (before.map String.toList)
        let next := Window.reach overlap ((before ++ [piece]).map String.toList)
        piece.toList = (text.toList.drop start).take piece.length ∧
          (after ≠ [] → next + overlap = start + piece.length ∧ start + advance ≤ next ∧
            advance + overlap ≤ piece.length)) ∧
      pieces.length ≤ (text.length - size - 1) / advance + 2 := by
  intro advance
  let w : Window := ⟨size, overlap, hlt⟩
  have hw : Window.of? size overlap = .ok w := window_of_lt hlt
  have hadvance : w.advance = advance := rfl
  have hoverlap : w.overlap = overlap := rfl
  have hne : text ≠ "" := by
    rintro rfl
    simp at hlong
  refine ⟨w.advance_pos, _, chunk_of_window hne hw, ?_, ?_⟩
  · intro before piece after h
    obtain ⟨before, rest, hpieces, rfl, hrest⟩ := List.map_eq_append_iff.mp h
    obtain ⟨piece, after, rfl, rfl, rfl⟩ := List.map_eq_cons_iff.mp hrest
    have hsteps := Window.pieces_advance hpieces
    rw [hadvance, hoverlap] at hsteps
    simpa [Function.comp_def, String.length_toList] using hsteps
  · rw [List.length_map, ← String.length_toList]
    exact w.length_pieces_le_quotient text.toList

theorem chunk_advances_of_letters :
    2 < 8 ∧ 8 < "abcd efghijklmnop".length ∧
      chunk "abcd efghijklmnop" 8 2 = .ok ["abcd ", "d efghij", "ijklmnop"] ∧
      Window.reach 2 ["abcd ".toList] = 3 ∧ 0 + 3 ≤ Window.reach 2 ["abcd ".toList] ∧
      ["abcd ", "d efghij", "ijklmnop"].length ≤ ("abcd efghijklmnop".length - 8 - 1) / 3 + 2 := by
  have hlt : 2 < 8 := by decide
  have hlong : 8 < "abcd efghijklmnop".length := by decide
  have hpieces : chunk "abcd efghijklmnop" 8 2 = .ok ["abcd ", "d efghij", "ijklmnop"] := by
    decide +kernel
  obtain ⟨-, pieces, htext, hsteps, hcount⟩ := chunk_advances "abcd efghijklmnop" hlt hlong
  obtain rfl := Except.ok.inj (htext.symm.trans hpieces)
  have hfirst := ((hsteps [] "abcd " ["d efghij", "ijklmnop"] rfl).2 (List.cons_ne_nil _ _)).2.1
  exact ⟨hlt, hlong, hpieces, by decide +kernel, hfirst, hcount⟩

end TextMemory
