import TextMemory.Proofs.Memory.Tool
import TextMemory.Web.Service

/-!
# Requests that fail

A request that is answered with a status of 400 or more, or with a tool's failure, leaves the memory
of the service at rest.
-/
namespace TextMemory.Web

open TextMemory.Action

def Response.Fails (r : Response) : Prop :=
  400 ≤ r.status ∨ ∃ message, r.body = .json (Service.toolAnswer (.failure message))

namespace Service

/-- A handler that leaves the memory at rest whenever it tells of a failure. -/
def Careful (handler : StateM Service Response) : Prop :=
  ∀ s, (handler s).1.Fails → Memory.Rests s.memory (handler s).2.memory

theorem careful_pure (r : Response) : Careful (pure r) := fun s _ => refl_of Memory.Rests s.memory

theorem careful_reading {α : Type} (a : Except Response α) {f : α → StateM Service Response}
    (h : ∀ x, Careful (f x)) : Careful (reading a f) := by
  cases a with
  | ok x => exact h x
  | error r => exact careful_pure r

theorem careful_answer_of_reads {α : Type} {a : Action Memory α} (h : Memory.Reads a)
    (whenOk : α → Response) (whenFault : Fault → Response) :
    Careful (answer a whenOk whenFault) := fun s _ => h s.memory

theorem careful_answer {α : Type} {a : Action Memory α} (h : FailsWithin Memory.Rests a)
    {whenOk : α → Response} (hok : ∀ x, ¬(whenOk x).Fails) (whenFault : Fault → Response) :
    Careful (answer a whenOk whenFault) := by
  intro s hs
  unfold answer at hs ⊢
  cases hp : a.perform s.memory with
  | mk r n =>
    rw [hp] at hs
    cases r with
    | ok x => exact absurd hs (hok x)
    | error f => exact h s.memory f n hp

theorem not_fails_ok {name : String} {v : Json} {members : List (String × Json)}
    (h : name ≠ "ok") : ¬(Response.ok (.object ((name, v) :: members))).Fails := by
  rintro (hs | ⟨message, hb⟩)
  · simp [Response.ok] at hs
  · simp [Response.ok, toolAnswer, h] at hb

theorem careful_get_bind {f : Service → StateM Service Response} (h : ∀ s, Careful (f s)) :
    Careful (get >>= f) := fun s => h s s

theorem careful_search [Numerics] (r : Request) : Careful (search r) := by
  refine careful_get_bind fun s => careful_reading _ fun x => ?_
  obtain ⟨query, limit⟩ := x
  exact careful_answer_of_reads (Memory.search_reads query _) _ _

theorem careful_write (r : Request) : Careful (write r) :=
  careful_reading _ fun x => careful_answer (Memory.write_failsWithin x.1 x.2.1 _)
    (fun _ => not_fails_ok (by decide)) _

theorem careful_readSource (r : Request) : Careful (readSource r) :=
  careful_reading _ fun source => careful_answer_of_reads (Memory.read_reads source) _ _

theorem careful_deleteSource (r : Request) : Careful (deleteSource r) :=
  careful_reading _ fun source => careful_answer (Memory.delete_failsWithin source)
    (fun _ => not_fails_ok (by decide)) _

theorem careful_stats : Careful stats := careful_answer_of_reads Memory.stats_reads _ _

theorem careful_sources : Careful sources := careful_answer_of_reads Memory.sources_reads _ _

theorem careful_publicSettings : Careful publicSettings := fun s _ => refl_of Memory.Rests s.memory

theorem careful_callTool [Numerics] (name : String) (r : Request) : Careful (callTool name r) := by
  refine careful_reading _ fun arguments => ?_
  intro s hs
  unfold answer at hs ⊢
  cases hp : (Tool.executeNamed (.string name) arguments).perform s.memory with
  | mk result n =>
    rw [hp] at hs
    apply Tool.executeNamed_rests hp
    cases result with
    | error f => exact .fault f
    | ok a =>
      cases a with
      | failure message => exact .failure message
      | text t =>
        rcases hs with hs | ⟨message, hb⟩
        · simp [Response.ok] at hs
        · simp [Response.ok, toolAnswer] at hb

theorem careful_page (r : Request) : Careful (page r) := careful_pure _

def Offer.Careful (o : Offer) : Prop := ∀ h ∈ o, ∀ r, Service.Careful (h.2 r)

section

variable [Numerics]

theorem fixedOffers_careful : ∀ o ∈ fixedOffers, Offer.Careful o.2 := by
  intro o ho h hh r
  simp only [fixedOffers, List.mem_cons, List.not_mem_nil, or_false] at ho
  rcases ho with rfl | rfl | rfl | rfl | rfl | rfl | rfl | rfl <;>
    simp only [List.mem_cons, List.not_mem_nil, or_false] at hh
  · rw [hh]
    exact careful_pure _
  · rw [hh]
    exact careful_publicSettings
  · rw [hh]
    exact careful_search r
  · rw [hh]
    exact careful_write r
  · rcases hh with rfl | rfl
    · exact careful_readSource r
    · exact careful_deleteSource r
  · rw [hh]
    exact careful_stats
  · rw [hh]
    exact careful_sources
  · rw [hh]
    exact careful_pure _

theorem offer?_careful {path : List Char} {o : Offer} (h : offer? path = some o) :
    o.Careful := by
  unfold offer? at h
  split at h
  · rename_i p hp
    cases h
    exact fixedOffers_careful p (List.mem_of_find?_eq_some hp)
  · obtain ⟨name, -, rfl⟩ := Option.map_eq_some_iff.mp h
    intro k hk r
    rw [List.mem_singleton.mp hk]
    exact careful_callTool name r

theorem offerAt?_careful {path : List Char} {o : Offer} (h : offerAt? path = some o) :
    o.Careful := by
  unfold offerAt? at h
  split at h
  · cases h
    intro k hk r
    rcases List.mem_pair.mp hk with rfl | rfl <;> exact careful_page r
  · split at h
    · exact offer?_careful h
    · cases h

theorem careful_dispatch (r : Request) : Careful (dispatch r) := by
  unfold dispatch
  dsimp only
  split
  · rename_i offer ho
    split
    · rename_i handler hh
      obtain ⟨before, after, hoffer, -⟩ := List.lookup_eq_some_iff.mp hh
      have hmem : (r.method, handler) ∈ offer := by simp [hoffer]
      exact offerAt?_careful ho _ hmem r
    · exact careful_pure _
  · split
    · exact careful_pure _
    · exact careful_pure _

theorem careful_respond (r : Request) : Careful (respond r) := by
  intro s hs
  have hresponse : (respond r s).1 =
      if Text.upper r.method = "HEAD" then
        { (dispatch { r with method := Text.upper r.method } s).1 with body := .text "" }
      else (dispatch { r with method := Text.upper r.method } s).1 := rfl
  apply careful_dispatch { r with method := Text.upper r.method } s
  rw [hresponse] at hs
  split at hs
  · rcases hs with hs | ⟨message, hb⟩
    · exact .inl hs
    · cases hb
  · exact hs

end

end Service
end TextMemory.Web
