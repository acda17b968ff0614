import Mathlib.Data.List.DropRight
import Mathlib.Data.List.TakeWhile
import TextMemory.Memory.SourceName

/-!
# Names without blanks around them, and words

A text without the blanks at its ends has none left to lose, and the name of a day begins and ends
with none. So the name under which is written is never empty, and is its own name without blanks.
The words of a text are its maximal runs without blanks, which there is one way to find.
-/
namespace TextMemory

namespace Text

variable {p : Char → Bool} {cs : List Char}

theorem toNat_toLower (c : Char) :
    c.toLower.toNat = if 65 ≤ c.toNat ∧ c.toNat ≤ 90 then c.toNat + 32 else c.toNat := by
  have hval : c.val.toNat = c.toNat := rfl
  have hletter : (c.val ≥ 'A'.val ∧ c.val ≤ 'Z'.val) ↔ 65 ≤ c.toNat ∧ c.toNat ≤ 90 := by
    simp only [ge_iff_le, UInt32.le_iff_toNat_le, hval]
    exact Iff.rfl
  unfold Char.toLower
  split
  · rename_i h
    have hcase : ('a'.val - 'A'.val).toNat = 32 := by decide
    have hcode : (c.val + ('a'.val - 'A'.val)).toNat = c.toNat + 32 := by
      rw [UInt32.toNat_add, hcase, hval]
      have := (hletter.mp h).2
      omega
    rw [if_pos (hletter.mp h)]
    exact hcode
  · rename_i h
    rw [if_neg (mt hletter.mpr h)]

theorem trimChars_eq (p : Char → Bool) (cs : List Char) :
    trimChars p cs = (cs.dropWhile p).rdropWhile p := rfl

theorem trimChars_eq_self (hfirst : ∀ h : 0 < cs.length, ¬p cs[0])
    (hlast : ∀ h, ¬p (cs.getLast h)) :
    trimChars p cs = cs := by
  rw [trimChars_eq, List.dropWhile_eq_self_iff.mpr hfirst, List.rdropWhile_eq_self_iff.mpr hlast]

theorem trimChars_trimChars {q : Char → Bool} (h : ∀ c, q c → p c) (cs : List Char) :
    trimChars q (trimChars p cs) = trimChars p cs := by
  apply trimChars_eq_self
  · intro hpos
    have hbegins : trimChars p cs <+: cs.dropWhile p := List.rdropWhile_prefix p _
    have hpos' : 0 < (cs.dropWhile p).length := Nat.lt_of_lt_of_le hpos hbegins.length_le
    rw [hbegins.getElem hpos]
    exact mt (h _) (List.dropWhile_eq_self_iff.mp (List.dropWhile_idempotent p cs) hpos')
  · exact fun hne => mt (h _) (List.rdropWhile_last_not p _ hne)

theorem trimChars_idempotent (p : Char → Bool) (cs : List Char) :
    trimChars p (trimChars p cs) = trimChars p cs := trimChars_trimChars (fun _ h => h) cs

theorem trimChars_of_none (h : ∀ c ∈ cs, p c = false) : trimChars p cs = cs := by
  apply trimChars_eq_self
  · intro hpos
    rw [h _ (List.getElem_mem hpos)]
    exact Bool.false_ne_true
  · intro hne
    rw [h _ (List.getLast_mem hne)]
    exact Bool.false_ne_true

theorem strip_strip (s : String) : strip (strip s) = strip s := by
  rw [strip, strip, String.toList_ofList, trimChars_idempotent]

theorem strip_isEmpty (s : String) : (strip s).isEmpty = isBlankText s := by
  have hchars : trimChars isBlank s.toList = [] ↔ s.toList.all isBlank = true := by
    rw [trimChars, List.reverse_eq_nil_iff, List.dropWhile_eq_nil_iff, List.all_eq_true]
    constructor
    · intro h c hc
      rw [← List.takeWhile_append_dropWhile (p := isBlank) (l := s.toList)] at hc
      rcases List.mem_append.mp hc with hc | hc
      · exact List.mem_takeWhile_imp hc
      · exact h c (List.mem_reverse.mpr hc)
    · intro h c hc
      exact h c ((List.dropWhile_sublist isBlank).subset (List.mem_reverse.mp hc))
  rw [Bool.eq_iff_iff, String.isEmpty_iff, strip, isBlankText, ← hchars]
  exact String.ofList_eq_empty_iff

/-- The maximal runs of characters that are no blanks, in their order. -/
inductive Runs : List Char → List (List Char) → Prop
  | nil : Runs [] []
  | blank {c : Char} {cs : List Char} {runs : List (List Char)} (hc : isBlank c = true)
      (hcs : Runs cs runs) : Runs (c :: cs) runs
  | run {run rest : List Char} {runs : List (List Char)} (hne : run ≠ [])
      (hrun : ∀ c ∈ run, isBlank c = false) (hend : ∀ c ∈ rest.head?, isBlank c = true)
      (hrest : Runs rest runs) : Runs (run ++ rest) (run :: runs)

theorem wordsFrom_append {run : List Char} (hrun : ∀ c ∈ run, isBlank c = false)
    (before rest : List Char) :
    wordsFrom before (run ++ rest) = wordsFrom (run.reverse ++ before) rest := by
  induction run generalizing before with
  | nil => rfl
  | cons c run ih =>
    have hc : isBlank c = false := hrun c List.mem_cons_self
    rw [List.cons_append, wordsFrom, hc, if_neg Bool.false_ne_true,
      ih (fun d hd => hrun d (List.mem_cons_of_mem c hd))]
    simp

theorem wordsFrom_end {before rest : List Char} (hne : before ≠ [])
    (hend : ∀ c ∈ rest.head?, isBlank c = true) :
    wordsFrom before rest = before.reverse :: wordsFrom [] rest := by
  cases rest with
  | nil => simp [wordsFrom, hne]
  | cons c rest =>
    have hc : isBlank c = true := hend c rfl
    simp [wordsFrom, hc, hne]

theorem Runs.eq_wordsFrom {runs : List (List Char)} (h : Runs cs runs) :
    runs = wordsFrom [] cs := by
  induction h with
  | nil => rfl
  | blank hc _ ih => simp [wordsFrom, hc, ih]
  | run hne hrun hend _ ih =>
    have hword := wordsFrom_end (List.reverse_ne_nil_iff.mpr hne) hend
    rw [wordsFrom_append hrun, List.append_nil, hword, List.reverse_reverse, ← ih]

theorem exists_runs (cs : List Char) : ∃ runs, Runs cs runs := by
  induction hn : cs.length using Nat.strong_induction_on generalizing cs with
  | _ n ih =>
    cases cs with
    | nil => exact ⟨[], .nil⟩
    | cons c cs =>
      cases hc : isBlank c with
      | true =>
        obtain ⟨runs, hruns⟩ := ih cs.length (by simp [← hn]) cs rfl
        exact ⟨runs, .blank hc hruns⟩
      | false =>
        -- the first run ends before the first blank
        let filled : Char → Bool := fun d => !isBlank d
        have hshorter : (cs.dropWhile filled).length < n := by
          rw [← hn]
          exact Nat.lt_succ_of_le (List.length_dropWhile_le filled cs)
        obtain ⟨runs, hruns⟩ := ih _ hshorter (cs.dropWhile filled) rfl
        refine ⟨(c :: cs.takeWhile filled) :: runs, ?_⟩
        have hsplit : c :: cs = (c :: cs.takeWhile filled) ++ cs.dropWhile filled := by simp
        rw [hsplit]
        refine .run (List.cons_ne_nil _ _) ?_ ?_ hruns
        · intro d hd
          rcases List.mem_cons.mp hd with rfl | hd
          · exact hc
          · simpa [filled] using List.mem_takeWhile_imp hd
        · intro d hd
          have hfirst := List.head?_dropWhile_not filled cs
          rw [Option.mem_def.mp hd] at hfirst
          simpa [filled] using hfirst

theorem runs_iff {runs : List (List Char)} : Runs cs runs ↔ runs = wordsFrom [] cs := by
  refine ⟨Runs.eq_wordsFrom, ?_⟩
  rintro rfl
  obtain ⟨runs, hruns⟩ := exists_runs cs
  rwa [← hruns.eq_wordsFrom]

theorem Runs.mem {runs : List (List Char)} (h : Runs cs runs) {run : List Char}
    (hrun : run ∈ runs) {c : Char}
    (hc : c ∈ run) : c ∈ cs := by
  induction h with
  | nil => cases hrun
  | blank _ _ ih => exact List.mem_cons_of_mem _ (ih hrun)
  | run _ _ _ _ ih =>
    rcases List.mem_cons.mp hrun with rfl | hrun
    · exact List.mem_append_left _ hc
    · exact List.mem_append_right _ (ih hrun)

end Text

theorem strip_dailySource (now : Timestamp) : Text.strip (dailySource now) = dailySource now := by
  have hchars : (dailySource now).toList =
      'm' :: ("emory/".toList ++ now.dateText.toList ++ ".m".toList) ++ ['d'] := by
    simp [dailySource, toString]
  rw [Text.strip, Text.trimChars_eq_self, String.ofList_toList]
  · intro hpos
    simp only [hchars, List.cons_append, List.getElem_cons_zero]
    decide
  · intro hne
    simp only [hchars, List.getLast_append_singleton]
    decide

theorem dailySource_ne_empty (now : Timestamp) : dailySource now ≠ "" := by
  intro h
  have hlength := congrArg String.length h
  simp [dailySource, toString] at hlength

theorem strip_sourceName (now : Timestamp) (given : Option String) :
    Text.strip (sourceName now given) = sourceName now given := by
  unfold sourceName
  dsimp only
  split
  · exact strip_dailySource now
  · exact Text.strip_strip _

theorem sourceName_ne_empty (now : Timestamp) (given : Option String) :
    sourceName now given ≠ "" := by
  unfold sourceName
  dsimp only
  split
  · exact dailySource_ne_empty now
  · rename_i hname
    intro hempty
    exact hname (by rw [hempty]; rfl)

end TextMemory
