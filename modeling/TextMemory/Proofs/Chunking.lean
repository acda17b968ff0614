import Mathlib.Data.List.Chain
import TextMemory.Proofs.Result
import TextMemory.Widths

/-!
# Joining what a window has cut

Every piece after the first begins with the characters that it shares with the one before, so the
pieces without them are the text again. The widths may be told in JSON, as they are when each piece
has kept its own.
-/
namespace TextMemory

namespace Window

theorem pieces_of_fits {w : Window} {cs : List Char} (h : w.fits cs = true) :
    w.pieces cs = [cs] := by
  rw [pieces, if_pos h]

theorem pieces_of_not_fits {w : Window} {cs : List Char} (h : ¬w.fits cs = true) :
    w.pieces cs = cs.take (w.cut cs) :: w.pieces (cs.drop (w.cut cs - w.overlap)) := by
  rw [pieces, if_neg h]

theorem pieces_ne_nil (w : Window) (cs : List Char) : w.pieces cs ≠ [] := by
  by_cases h : w.fits cs
  · simp [pieces_of_fits h]
  · simp [pieces_of_not_fits h]

theorem cut_lt_of_not_fits {w : Window} {cs : List Char} (h : ¬w.fits cs = true) :
    w.cut cs < cs.length := by
  have hcut := w.cut_le cs
  have hfits := mt (w.fits_iff cs).mpr h
  omega

theorem overlap_lt_head {w : Window} {cs p : List Char} {ps : List (List Char)}
    (hcs : w.overlap < cs.length) (h : w.pieces cs = p :: ps) :
    w.overlap < p.length ∧ p.take w.overlap = cs.take w.overlap := by
  by_cases hfits : w.fits cs
  · rw [pieces_of_fits hfits] at h
    cases h
    exact ⟨hcs, rfl⟩
  · rw [pieces_of_not_fits hfits] at h
    cases h
    have hcut := w.overlap_lt_cut cs
    have hlen := cut_lt_of_not_fits hfits
    refine ⟨?_, ?_⟩
    · rw [List.length_take]
      omega
    · rw [List.take_take, Nat.min_eq_left (Nat.le_of_lt hcut)]

/-- A piece begins with the last `overlap` characters of the piece before it, and goes on after
them. -/
structure Continues (overlap : Nat) (before piece : List Char) : Prop where
  goesOn : overlap < piece.length
  fits : overlap ≤ before.length
  shares : piece.take overlap = before.drop (before.length - overlap)

theorem pieces_continue (w : Window) (cs : List Char) :
    (w.pieces cs).IsChain (Continues w.overlap) := by
  induction cs using Window.pieces.induct (w := w) with
  | case1 cs hfits =>
    rw [pieces_of_fits hfits]
    exact .singleton _
  | case2 cs hfits ih =>
    have hcut := w.overlap_lt_cut cs
    have hlen := cut_lt_of_not_fits hfits
    rw [pieces_of_not_fits hfits]
    cases hps : w.pieces (cs.drop (w.cut cs - w.overlap)) with
    | nil => exact absurd hps (w.pieces_ne_nil _)
    | cons q qs =>
      rw [hps] at ih
      have hrest : w.overlap < (cs.drop (w.cut cs - w.overlap)).length := by
        rw [List.length_drop]
        omega
      have hbefore : (cs.take (w.cut cs)).length = w.cut cs :=
        List.length_take_of_le (Nat.le_of_lt hlen)
      obtain ⟨hq, hshared⟩ := overlap_lt_head hrest hps
      refine .cons_cons ⟨hq, ?_, ?_⟩ ih
      · rw [hbefore]
        exact Nat.le_of_lt hcut
      · rw [hshared, hbefore, List.drop_take]
        congr 1
        omega

theorem filled_of_mem_pieces (w : Window) {cs p : List Char} (hcs : cs ≠ [])
    (hp : p ∈ w.pieces cs) :
    p ≠ [] ∧ p.length ≤ w.size := by
  induction cs using Window.pieces.induct (w := w) with
  | case1 cs hfits =>
    rw [pieces_of_fits hfits, List.mem_singleton] at hp
    rw [hp]
    exact ⟨hcs, (w.fits_iff cs).mp hfits⟩
  | case2 cs hfits ih =>
    have hcut := w.overlap_lt_cut cs
    have hsize := w.cut_le cs
    have hlen := cut_lt_of_not_fits hfits
    rw [pieces_of_not_fits hfits, List.mem_cons] at hp
    rcases hp with rfl | hp
    · have htake : (cs.take (w.cut cs)).length = w.cut cs :=
        List.length_take_of_le (Nat.le_of_lt hlen)
      refine ⟨List.ne_nil_of_length_pos ?_, ?_⟩ <;> omega
    · apply ih ?_ hp
      apply List.ne_nil_of_length_pos
      rw [List.length_drop]
      omega

theorem length_pieces_le (w : Window) {cs : List Char} (hcs : cs ≠ []) :
    (w.pieces cs).length ≤ cs.length := by
  induction cs using Window.pieces.induct (w := w) with
  | case1 cs hfits =>
    rw [pieces_of_fits hfits]
    exact List.length_pos_iff.mpr hcs
  | case2 cs hfits ih =>
    have hcut := w.overlap_lt_cut cs
    have hlen := cut_lt_of_not_fits hfits
    have hdrop : (cs.drop (w.cut cs - w.overlap)).length = cs.length - (w.cut cs - w.overlap) :=
      List.length_drop
    have hrest : cs.drop (w.cut cs - w.overlap) ≠ [] := by
      apply List.ne_nil_of_length_pos
      omega
    have hih := ih hrest
    rw [pieces_of_not_fits hfits, List.length_cons]
    omega

theorem dropWidth_natCast (n : Nat) (cs : List Char) : dropWidth n cs = cs.drop n := by
  simp [dropWidth]

theorem joinPieces_pieces (w : Window) (cs : List Char) (first : Int) :
    joinPieces (w.pieces cs)
      (first :: List.replicate ((w.pieces cs).length - 1) (w.overlap : Int)) = cs := by
  induction cs using Window.pieces.induct (w := w) with
  | case1 cs hfits =>
    rw [pieces_of_fits hfits]
    simp [joinPieces, joinRest]
  | case2 cs hfits ih =>
    have hcut := w.overlap_lt_cut cs
    have hlen := cut_lt_of_not_fits hfits
    rw [pieces_of_not_fits hfits]
    cases hps : w.pieces (cs.drop (w.cut cs - w.overlap)) with
    | nil => exact absurd hps (w.pieces_ne_nil _)
    | cons q qs =>
      have hq : w.overlap ≤ q.length := by
        refine Nat.le_of_lt (overlap_lt_head ?_ hps).1
        rw [List.length_drop]
        omega
      have hsum : w.cut cs - w.overlap + w.overlap = w.cut cs := by omega
      rw [hps] at ih
      simp only [joinPieces, List.tail_cons, List.length_cons, Nat.add_sub_cancel,
        List.replicate_succ, joinRest, dropWidth_natCast] at ih ⊢
      rw [← List.drop_append_of_le_length hq, ih, List.drop_drop, hsum, List.take_append_drop]

end Window

theorem chunk_ok {content : String} {size overlap : Int} {pieces : List String}
    (hne : content ≠ "") (h : chunk content size overlap = .ok pieces) :
    ∃ w : Window, Window.of? size overlap = .ok w ∧
      pieces = (w.pieces content.toList).map String.ofList := by
  obtain ⟨w, hw, h⟩ := Result.bind_eq_ok.mp h
  refine ⟨w, hw, ?_⟩
  have hempty : content.isEmpty = false := by simpa using hne
  rw [hempty] at h
  cases h
  rfl

theorem chunk_length_le {content : String} {size overlap : Int} {pieces : List String}
    (h : chunk content size overlap = .ok pieces) : pieces.length ≤ content.length := by
  by_cases hne : content = ""
  · subst hne
    obtain ⟨w, -, hpieces⟩ := Result.bind_eq_ok.mp h
    cases hpieces
    exact Nat.le_refl 0
  · obtain ⟨w, -, rfl⟩ := chunk_ok hne h
    rw [List.length_map, ← String.length_toList]
    exact w.length_pieces_le (by simpa using hne)

theorem overlap_of_window {size overlap : Int} {w : Window} (h : Window.of? size overlap = .ok w) :
    (w.overlap : Int) = overlap := by
  unfold Window.of? at h
  split at h
  · cases h
  · split at h
    · rename_i hle
      cases h
      exact Int.toNat_of_nonneg hle.1
    · cases h

theorem mapM_widthOf (ws : List Int) : (ws.map Json.int).mapM widthOf = .ok ws := by
  apply Result.mapM_eq_ok.mpr
  induction ws with
  | nil => exact .nil
  | cons w ws ih => exact .cons rfl ih

theorem overlapOf_ints {count : Nat} (first : Int) {ws : List Int} (h : ws.length + 1 = count) :
    overlapOf count (.array ((first :: ws).map Json.int)) = .ok (.each (0 :: ws)) := by
  have hlen : ¬((first :: ws).map Json.int).length ≠ count := by
    simp [h]
  simp only [overlapOf, widthItems, Result.bind_eq_ok]
  refine ⟨_, rfl, ?_⟩
  rw [if_neg hlen, List.map_cons, List.tail_cons, mapM_widthOf]
  rfl

theorem merge_uniform (chunks : List String) (width : Int) :
    merge chunks (.uniform width) = merge chunks (.each (List.replicate chunks.length width)) := by
  unfold merge
  rfl

theorem merge_pieces (w : Window) (cs : List Char) {widths : List Int}
    (hcount : widths.length = (w.pieces cs).length)
    (hwidths : ∀ v ∈ widths.tail, v = (w.overlap : Int)) :
    merge ((w.pieces cs).map String.ofList) (.each widths) = .ok (String.ofList cs) := by
  have hne : ((w.pieces cs).map String.ofList).isEmpty = false := by
    simp [w.pieces_ne_nil cs]
  have hpos : 0 < (w.pieces cs).length := List.length_pos_iff.mpr (w.pieces_ne_nil cs)
  have htext : ((w.pieces cs).map String.ofList).map String.toList = w.pieces cs := by
    simp [List.map_map, Function.comp_def]
  simp only [merge, hne, Bool.false_eq_true, if_false]
  rw [if_pos (by simpa using hcount), htext]
  cases widths with
  | nil =>
    rw [List.length_nil] at hcount
    omega
  | cons first rest =>
    have hrest : rest = List.replicate ((w.pieces cs).length - 1) (w.overlap : Int) := by
      apply List.eq_replicate_iff.mpr
      refine ⟨?_, hwidths⟩
      rw [List.length_cons] at hcount
      omega
    rw [hrest, w.joinPieces_pieces]

theorem mergeBy_pieces (w : Window) (cs : List Char) (first : Int) :
    mergeBy
      (.array ((first :: List.replicate ((w.pieces cs).length - 1) (w.overlap : Int)).map Json.int))
      ((w.pieces cs).map String.ofList) = .ok (String.ofList cs) := by
  have hne : ((w.pieces cs).map String.ofList).isEmpty = false := by
    simp [w.pieces_ne_nil cs]
  have hpos : 0 < (w.pieces cs).length := List.length_pos_iff.mpr (w.pieces_ne_nil cs)
  have hcount : (List.replicate ((w.pieces cs).length - 1) (w.overlap : Int)).length + 1 =
      ((w.pieces cs).map String.ofList).length := by
    rw [List.length_replicate, List.length_map]
    omega
  rw [mergeBy, hne, overlapOf_ints first hcount, if_neg Bool.false_ne_true, Result.ok_bind]
  apply merge_pieces
  · rw [List.length_cons, hcount, List.length_map]
  · exact fun v => List.eq_of_mem_replicate

theorem exists_window {size overlap : Int} (hoverlap : 0 ≤ overlap) (hlt : overlap < size) :
    ∃ w : Window, Window.of? size overlap = .ok w ∧ (w.size : Int) = size ∧
      (w.overlap : Int) = overlap := by
  have hsize : ¬size ≤ 0 := by omega
  refine ⟨⟨size.toNat, overlap.toNat, by omega⟩, ?_, ?_, ?_⟩
  · rw [Window.of?, if_neg hsize, dif_pos ⟨hoverlap, hlt⟩]
  · exact Int.toNat_of_nonneg (by omega)
  · exact Int.toNat_of_nonneg hoverlap

theorem window_of_lt {size overlap : Nat} (hlt : overlap < size) :
    Window.of? size overlap = .ok ⟨size, overlap, hlt⟩ := by
  rw [Window.of?, if_neg (by omega), dif_pos ⟨by omega, by omega⟩]
  simp

theorem chunk_of_window {text : String} {size overlap : Int} {w : Window} (hne : text ≠ "")
    (hw : Window.of? size overlap = .ok w) :
    chunk text size overlap = .ok ((w.pieces text.toList).map String.ofList) := by
  have hempty : text.isEmpty = false := by simpa using hne
  rw [chunk, hw, Result.ok_bind, hempty]
  rfl

theorem chunk_empty {size overlap : Int} {w : Window} (hw : Window.of? size overlap = .ok w) :
    chunk "" size overlap = .ok [] := by
  rw [chunk, hw, Result.ok_bind]
  rfl

/-- Every text is cut into pieces, no more of them than it has characters. Joined without what they
share, by one width or by one for each of them, they are the text; none is empty or larger than the
window, and each begins with the last characters of the one before and goes on after them. -/
theorem chunk_round_trip (text : String) {size overlap : Int} (hoverlap : 0 ≤ overlap)
    (hlt : overlap < size) :
    ∃ pieces, chunk text size overlap = .ok pieces ∧ pieces.length ≤ text.length ∧
      merge pieces (.uniform overlap) = .ok text ∧
      (∀ widths : List Int, widths.length = pieces.length → (∀ w ∈ widths.tail, w = overlap) →
        merge pieces (.each widths) = .ok text) ∧
      (∀ p ∈ pieces, p ≠ "" ∧ (p.length : Int) ≤ size) ∧
      pieces.IsChain fun p q => Window.Continues overlap.toNat p.toList q.toList := by
  obtain ⟨w, hw, hwsize, hwoverlap⟩ := exists_window hoverlap hlt
  by_cases hne : text = ""
  · subst hne
    exact ⟨[], chunk_empty hw, Nat.le_refl _, rfl, fun _ _ _ => rfl, by simp, .nil⟩
  · have hcs : text.toList ≠ [] := by simpa using hne
    have hjoined : ∀ widths : List Int, widths.length = (w.pieces text.toList).length →
        (∀ v ∈ widths.tail, v = overlap) →
          merge ((w.pieces text.toList).map String.ofList) (.each widths) = .ok text := by
      intro widths hcount hwidths
      rw [merge_pieces w text.toList hcount (by rwa [hwoverlap]), String.ofList_toList]
    have hchunk := chunk_of_window hne hw
    refine ⟨_, hchunk, chunk_length_le hchunk, ?_, ?_, ?_, ?_⟩
    · rw [merge_uniform]
      apply hjoined
      · simp
      · exact fun v hv => List.eq_of_mem_replicate (List.mem_of_mem_tail hv)
    · intro widths hcount hwidths
      exact hjoined widths (by simpa using hcount) hwidths
    · intro p hp
      obtain ⟨cs, hmem, rfl⟩ := List.mem_map.mp hp
      obtain ⟨hfilled, hle⟩ := w.filled_of_mem_pieces hcs hmem
      refine ⟨by simpa using hfilled, ?_⟩
      rw [String.length_ofList]
      omega
    · rw [List.isChain_map]
      simpa [← hwoverlap] using w.pieces_continue text.toList

theorem chunk_round_trip_of_lines :
    (0 : Int) ≤ 2 ∧ (2 : Int) < 3 ∧
      chunk "ab\n\ncd" 3 2 = .ok ["ab\n", "b\n\n", "\n\nc", "\ncd"] ∧
      merge ["ab\n", "b\n\n", "\n\nc", "\ncd"] (.each [7, 2, 2, 2]) = .ok "ab\n\ncd" := by
  have hpieces : chunk "ab\n\ncd" 3 2 = .ok ["ab\n", "b\n\n", "\n\nc", "\ncd"] := by decide +kernel
  have hoverlap : (0 : Int) ≤ 2 := by decide
  have hlt : (2 : Int) < 3 := by decide
  obtain ⟨pieces, hchunk, -, -, hwidths, -⟩ := chunk_round_trip "ab\n\ncd" hoverlap hlt
  obtain rfl := Except.ok.inj (hchunk.symm.trans hpieces)
  exact ⟨hoverlap, hlt, hpieces, hwidths [7, 2, 2, 2] rfl (by decide)⟩

end TextMemory
