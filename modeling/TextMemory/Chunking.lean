import TextMemory.Fault

/-!
# Cutting a text into overlapping pieces

A window of `size` characters moves over the text. It is cut behind a blank line, a line end, a
space or a tab in its back half, else at its end, and the next window begins `overlap` characters
before the cut. Joining the pieces without the shared characters gives the text back.
-/
namespace TextMemory

structure Window where
  size : Nat
  overlap : Nat
  overlap_lt : overlap < size

namespace Window

def of? (size overlap : Int) : Except Fault Window :=
  if size ≤ 0 then .error (.chunkSize size)
  else if h : 0 ≤ overlap ∧ overlap < size then
    .ok ⟨size.toNat, overlap.toNat, by omega⟩
  else .error (.chunkOverlap overlap size)

/-- No cut lies at or before this distance from the window's start, unless the window ends there. -/
def floor (w : Window) : Nat := max (w.overlap + 1) (w.size / 2)

def separators : List (List Char) := [['\n', '\n'], ['\n'], [' '], ['\t']]

def lastEnd (sep : List Char) : List Char → Option Nat
  | [] => none
  | c :: cs =>
    match lastEnd sep cs with
    | some n => some (n + 1)
    | none => if sep.isPrefixOf (c :: cs) then some sep.length else none

def back (w : Window) (cs : List Char) : List Char := (cs.take w.size).drop w.floor

def cut (w : Window) (cs : List Char) : Nat :=
  match separators.findSome? fun sep => lastEnd sep (w.back cs) with
  | some n => w.floor + n
  | none => w.size

theorem lastEnd_le {sep cs : List Char} {n : Nat} (h : lastEnd sep cs = some n) :
    n ≤ cs.length := by
  induction cs generalizing n with
  | nil => simp [lastEnd] at h
  | cons c cs ih =>
    simp only [lastEnd] at h
    split at h
    · rename_i m hm
      have := ih hm
      simp only [Option.some.injEq] at h
      simp only [List.length_cons]
      omega
    · split at h
      · rename_i hp
        have := (List.isPrefixOf_iff_prefix.mp hp).length_le
        simp only [Option.some.injEq] at h
        omega
      · simp at h

theorem floor_le (w : Window) : w.floor ≤ w.size := by
  have := w.overlap_lt
  simp only [floor]
  omega

theorem overlap_lt_floor (w : Window) : w.overlap < w.floor := by
  simp only [floor]
  omega

theorem overlap_lt_cut (w : Window) (cs : List Char) : w.overlap < w.cut cs := by
  have hf := w.overlap_lt_floor
  have := w.overlap_lt
  unfold cut
  split <;> omega

theorem cut_le (w : Window) (cs : List Char) : w.cut cs ≤ w.size := by
  unfold cut
  split
  · rename_i n h
    obtain ⟨sep, -, hn⟩ := List.exists_of_findSome?_eq_some h
    have hl := lastEnd_le hn
    have := w.floor_le
    simp only [back, List.length_drop, List.length_take] at hl
    omega
  · exact Nat.le_refl _

def fits (w : Window) (cs : List Char) : Bool := (cs.drop w.size).isEmpty

theorem fits_iff (w : Window) (cs : List Char) : w.fits cs = true ↔ cs.length ≤ w.size := by
  simp [fits]

def pieces (w : Window) (cs : List Char) : List (List Char) :=
  if w.fits cs then [cs]
  else cs.take (w.cut cs) :: w.pieces (cs.drop (w.cut cs - w.overlap))
termination_by cs.length
decreasing_by
  rename_i h
  have := mt (w.fits_iff cs).mpr h
  have := w.overlap_lt_cut cs
  simp only [List.length_drop]
  omega

end Window

def chunk (text : String) (size overlap : Int) : Except Fault (List String) := do
  let w ← Window.of? size overlap
  if text.isEmpty then return []
  return (w.pieces text.toList).map String.ofList

inductive Overlap
  | uniform (width : Int)
  | each (widths : List Int)

/-- A piece without its first `width` characters; a negative width keeps that many at the end. -/
def dropWidth (width : Int) (cs : List Char) : List Char :=
  if 0 ≤ width then cs.drop width.toNat else cs.drop (cs.length - width.natAbs)

def joinRest : List (List Char) → List Int → List Char
  | cs :: rest, w :: ws => dropWidth w cs ++ joinRest rest ws
  | _, _ => []

def joinPieces : List (List Char) → List Int → List Char
  | [], _ => []
  | cs :: rest, ws => cs ++ joinRest rest ws.tail

def merge (chunks : List String) (overlap : Overlap) : Except Fault String :=
  if chunks.isEmpty then .ok ""
  else
    let widths := match overlap with
      | .uniform w => List.replicate chunks.length w
      | .each ws => ws
    if widths.length = chunks.length then
      .ok (String.ofList (joinPieces (chunks.map String.toList) widths))
    else .error .overlapCount

end TextMemory
