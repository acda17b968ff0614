import TextMemory.Memory.Tool
import TextMemory.Proofs.Memory.Operation
import TextMemory.Proofs.Text

/-!
# Calls of tools

A call that fails, or that is answered with a failure, leaves the memory at rest.
-/
namespace TextMemory.Tool

open TextMemory.Action

theorem neededText_object (members : List (String × Json)) (name : String) :
    neededText (.object members) name =
    let text := ((members.lookup name).getD (.string "")).shown
    if Text.isBlankText text then .error (.requiredField name) else .ok (Text.strip text) := by
  rw [neededText, argument?, Result.ok_bind]
  dsimp only
  rw [Text.strip_isEmpty]
  split <;> rfl

theorem callSearch_failsWithin [Numerics] (arguments : Json) :
    FailsWithin Memory.Rests (callSearch arguments) := by
  refine (staysWithin_ofExcept _).failsWithin_bind fun query => ?_
  refine (staysWithin_ofExcept _).failsWithin_bind fun limit => ?_
  refine (Memory.search_reads query limit).failsWithin_bind fun hits => ?_
  split
  · exact (staysWithin_pure _).failsWithin
  · exact (staysWithin_pure _).failsWithin

theorem callWrite_failsWithin (arguments : Json) :
    FailsWithin Memory.Rests (callWrite arguments) := by
  refine (staysWithin_ofExcept _).failsWithin_bind fun content => ?_
  refine (staysWithin_ofExcept _).failsWithin_bind fun source => ?_
  refine (staysWithin_ofExcept _).failsWithin_bind fun title => ?_
  refine (staysWithin_ofExcept _).failsWithin_bind fun _ => ?_
  refine (staysWithin_ofExcept _).failsWithin_bind fun source => ?_
  exact (Memory.write_failsWithin _ _ _).bind_neverFails fun w => neverFails_pure _

theorem callGet_failsWithin (arguments : Json) :
    FailsWithin Memory.Rests (callGet arguments) := by
  refine (staysWithin_ofExcept _).failsWithin_bind fun source => ?_
  exact (Memory.read_reads source).failsWithin_bind fun content => (staysWithin_pure _).failsWithin

theorem call_failsWithin [Numerics] (t : Tool) (arguments : Json) :
    FailsWithin Memory.Rests (t.call arguments) := by
  cases t with
  | search => exact callSearch_failsWithin arguments
  | write => exact callWrite_failsWithin arguments
  | get => exact callGet_failsWithin arguments

inductive Failed : Except Fault Answer → Prop
  | fault (f : Fault) : Failed (.error f)
  | failure (message : String) : Failed (.ok (.failure message))

section

variable [Numerics]

theorem execute_run (t : Tool) (arguments : Json) (m : Memory) :
    (execute t arguments).run m = match (t.call arguments).perform m with
      | (.ok result, n) => (.text result, n)
      | (.error fault, n) => (.failure fault.message, n) := by
  simp only [execute, perform, bind, StateT.run, StateT.bind, ExceptT.run]
  cases h : t.call arguments m with
  | mk r n =>
    cases r with
    | ok result => rfl
    | error f => rfl

theorem execute_rests {t : Tool} {arguments : Json} {m : Memory}
    (h : Failed (.ok ((execute t arguments).run m).1)) :
    Memory.Rests m ((execute t arguments).run m).2 := by
  rw [execute_run] at h ⊢
  cases hc : (t.call arguments).perform m with
  | mk r n =>
    rw [hc] at h
    cases r with
    | ok result => cases h
    | error f => exact call_failsWithin t arguments m f n hc

theorem executeNamed_perform {s : String} {t : Tool} (ht : of? s = some t)
    (arguments : Json) (m : Memory) :
    (executeNamed (.string s) arguments).perform m =
      (.ok ((execute t arguments).run m).1, ((execute t arguments).run m).2) := by
  simp only [executeNamed, ht]
  rfl

theorem executeNamed_rests {name arguments : Json} {m n : Memory}
    {r : Except Fault Answer} (h : (executeNamed name arguments).perform m = (r, n)) (hr : Failed r)
    :
    Memory.Rests m n := by
  have hsame : n = m → Memory.Rests m n := fun hn => hn ▸ refl_of Memory.Rests m
  cases name with
  | string s =>
    cases ht : of? s with
    | none =>
      simp only [executeNamed, ht, perform_pure] at h
      exact hsame (Prod.mk.inj h).2.symm
    | some t =>
      obtain ⟨rfl, rfl⟩ := Prod.mk.inj ((executeNamed_perform ht arguments m).symm.trans h)
      exact execute_rests hr
  | array | object | null | bool | number => exact hsame (Prod.mk.inj h).2.symm

end

end TextMemory.Tool
