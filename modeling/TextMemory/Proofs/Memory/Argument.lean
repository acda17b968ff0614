import TextMemory.Proofs.Memory.Tool
import TextMemory.Proofs.Timestamp

/-!
# Needed arguments

Each tool has one argument that its definition requires. A call in which it is absent or blank is
refused before the memory is asked anything. Where it is null, the tool that writes refuses it as
well, but the two others take it for the text that a null is shown as.
-/
namespace TextMemory

namespace Json

variable {name other : String} (value : Json) (members : List (String × Json))

theorem lookup_cons_of_ne (h : other ≠ name) :
    ((name, value) :: members).lookup other = members.lookup other := by
  rw [List.lookup_cons, beq_false_of_ne h]

theorem lookup_setMember_self : (setMember name value members).lookup name = some value := by
  induction members with
  | nil => exact List.lookup_cons_self
  | cons head rest ih =>
    rw [setMember]
    split
    · exact List.lookup_cons_self
    · rename_i hne
      rwa [lookup_cons_of_ne _ _ (Ne.symm hne)]

theorem lookup_setMember_of_ne (h : other ≠ name) :
    (setMember name value members).lookup other = members.lookup other := by
  induction members with
  | nil => exact lookup_cons_of_ne value [] h
  | cons head rest ih =>
    rw [setMember]
    split
    · rename_i hsame
      rw [lookup_cons_of_ne _ _ h, lookup_cons_of_ne _ _ (hsame ▸ h)]
    · rw [List.lookup_cons, List.lookup_cons, ih]

end Json

namespace Tool

open TextMemory.Action

variable {t : Tool} {members : List (String × Json)}

def needed : Tool → String
  | search => "query"
  | write => "content"
  | get => "source"

theorem of?_name (t : Tool) : of? t.name = some t := by
  cases t <;> rfl

def refusal : Tool → Fault
  | search => .requiredField "query"
  | write => .blankContent
  | get => .requiredField "source"

/-- The needed argument is left out: it is absent or blank, or empty in a call that writes. -/
inductive LeavesOut (t : Tool) (members : List (String × Json)) : Prop
  | absent (h : members.lookup t.needed = none)
  | blank (s : String) (h : members.lookup t.needed = some (.string s))
      (hs : Text.isBlankText s = true)
  | empty (v : Json) (h : members.lookup t.needed = some v) (hv : v.isFilled = false)
      (ht : t = write)

def taken (t : Tool) (given : Option Json) : String :=
  if t = write then ((given.filter Json.isFilled).map Json.shown).getD ""
    else (given.getD (.string "")).shown

theorem LeavesOut.taken_blank (h : t.LeavesOut members) :
    Text.isBlankText (t.taken (members.lookup t.needed)) = true := by
  have hnothing : Text.isBlankText "" = true := rfl
  cases h with
  | absent h =>
    rw [h, taken]
    split <;> exact hnothing
  | blank s h hs =>
    rw [h, taken]
    split
    · rw [Option.filter_some]
      split
      · exact hs
      · exact hnothing
    · exact hs
  | empty v h hv ht =>
    rw [h, taken, if_pos ht, Option.filter_some, if_neg (by rw [hv]; decide)]
    exact hnothing

theorem filled?_object (name : String) :
    filled? (.object members) name = .ok ((members.lookup name).filter Json.isFilled) := rfl

theorem call_of_blank [Numerics]
    (h : Text.isBlankText (t.taken (members.lookup t.needed)) = true) (m : Memory) :
    (t.call (.object members)).perform m = (.error t.refusal, m) := by
  cases t with
  | search =>
    have hneeded : neededText (.object members) "query" = .error (.requiredField "query") :=
      (neededText_object members "query").trans (if_pos h)
    rw [call, callSearch, hneeded]
    rfl
  | write =>
    have hcheck : Memory.checkContent (write.taken (members.lookup "content")) =
        .error .blankContent := if_pos h
    rw [taken, if_pos rfl] at hcheck
    simp only [call, callWrite, filled?_object, perform_bind, perform_ofExcept, hcheck]
    rfl
  | get =>
    have hneeded : neededText (.object members) "source" = .error (.requiredField "source") :=
      (neededText_object members "source").trans (if_pos h)
    rw [call, callGet, hneeded]
    rfl

theorem call_null [Numerics] (ht : t ≠ write) (h : members.lookup t.needed = some .null) :
    t.call (.object members) =
      t.call (.object (Json.setMember t.needed (.string "None") members)) := by
  have hneeded : neededText (.object members) t.needed =
      neededText (.object (Json.setMember t.needed (.string "None") members)) t.needed := by
    rw [neededText_object, neededText_object, h, Json.lookup_setMember_self]
    rfl
  cases t with
  | search =>
    have hlimit : hitLimit (.object members) =
        hitLimit (.object (Json.setMember "query" (.string "None") members)) := by
      have hother := Json.lookup_setMember_of_ne (.string "None") members
        (show "max_results" ≠ "query" by decide)
      rw [hitLimit, hitLimit, argument?, argument?, hother]
    simp only [needed] at hneeded ⊢
    rw [call, callSearch, callSearch, hneeded, hlimit]
  | write => exact absurd rfl ht
  | get =>
    simp only [needed] at hneeded ⊢
    rw [call, callGet, callGet, hneeded]

/-- A call that leaves its needed argument out fails with a message of its own, and the memory is as
it was: its rows, and what the embedder was given. A null in a call that does not write is no such
argument: it counts as the text that it is shown as. -/
theorem refuses_left_out [Numerics] (t : Tool) (members : List (String × Json)) :
    (t.LeavesOut members → ∀ m : Memory,
      (execute t (.object members)).run m = (.failure t.refusal.message, m) ∧
      (executeNamed (.string t.name) (.object members)).perform m =
        (.ok (.failure t.refusal.message), m)) ∧
    (t ≠ write → members.lookup t.needed = some .null →
      execute t (.object members) =
        execute t (.object (Json.setMember t.needed (.string "None") members))) := by
  constructor
  · intro h m
    have hexecute : (execute t (.object members)).run m = (.failure t.refusal.message, m) := by
      rw [execute_run, call_of_blank h.taken_blank]
    refine ⟨hexecute, ?_⟩
    rw [executeNamed_perform (of?_name t), hexecute]
  · intro ht h
    rw [execute, execute, call_null ht h]

private def kettle : Memory := .blank 6 2

theorem refuses_left_out_of_kettle :
    write.LeavesOut [("source", .string "A"), ("content", .null)] ∧
      (execute write (.object [("source", .string "A"), ("content", .null)])).run kettle =
        (.failure "content must not be empty", kettle) ∧
      search.LeavesOut [("query", .string " \t"), ("max_results", .bool true)] ∧
      (executeNamed (.string "memory_search")
          (.object [("query", .string " \t"), ("max_results", .bool true)])).perform kettle =
        (.ok (.failure "query is required"), kettle) ∧
      get ≠ write ∧ [("source", Json.null)].lookup get.needed = some .null ∧
      execute get (.object [("source", .null)]) =
        execute get (.object [("source", .string "None")]) := by
  have hwrite : write.LeavesOut [("source", .string "A"), ("content", .null)] :=
    .empty .null rfl rfl rfl
  have hsearch : search.LeavesOut [("query", .string " \t"), ("max_results", .bool true)] :=
    .blank " \t" rfl (by decide)
  have hnull : [("source", Json.null)].lookup get.needed = some .null := rfl
  exact ⟨hwrite, ((refuses_left_out write _).1 hwrite kettle).1,
    hsearch, ((refuses_left_out search _).1 hsearch kettle).2,
    by decide, hnull, (refuses_left_out get _).2 (by decide) hnull⟩

/-- A search for null embeds a text, and null as a source is looked up and not refused. -/
theorem answers_null_of_kettle :
    (¬∃ message, ((execute search (.object [("query", .null)])).run kettle).1 = .failure message) ∧
      kettle.calls = [] ∧ ((execute search (.object [("query", .null)])).run kettle).2.calls =
        [["None"]] ∧
      ((execute get (.object [("source", .null)])).run kettle).1 =
        .text "No memory found at source 'None'." := by
  have hsearch : ((execute search (.object [("query", .null)])).run kettle).1 =
      .text Memory.nothingFound := by
    decide +kernel
  refine ⟨?_, rfl, by decide +kernel, by decide +kernel⟩
  rintro ⟨message, hfailure⟩
  rw [hsearch] at hfailure
  cases hfailure

end Tool
end TextMemory
