import TextMemory.Proofs.Refinement
import TextMemory.Store.Connection

/-!
# Transactions are whole or nothing

A block of statements runs a function on the copy that its transaction works on. If the function
fails at any statement, what was committed is still there, whatever the statements before it have
made of the copy; otherwise the copy as the function leaves it is what is committed.
-/
namespace TextMemory.Connection

open TextMemory.Action

variable {δ α β : Type}

/-- The copy is given up before the rollback only where no id was left. -/
structure Runs (block : Action (Connection δ) α) (F : δ → Except Fault (α × δ)) : Prop where
  ok : ∀ {d d' : δ} {a : α}, F d = .ok (a, d') → ∀ c,
    block.perform ⟨c, some d⟩ = (.ok a, ⟨c, some d'⟩)
  error : ∀ {d : δ} {f : Fault}, F d = .error f → ∀ c, ∃ w,
    block.perform ⟨c, some d⟩ = (.error f, ⟨c, w⟩) ∧ (w = none → f = .noIdLeft)

section

variable {block : Action (Connection δ) α} {F : δ → Except Fault (α × δ)}

theorem Runs.congr {G : δ → Except Fault (α × δ)} (h : Runs block F) (hFG : ∀ d, F d = G d) :
    Runs block G := funext hFG ▸ h

theorem runs_pure (a : α) : Runs (pure a : Action (Connection δ) α) (fun d => .ok (a, d)) := by
  refine ⟨fun {d d' b} h c => ?_, fun {d f} h c => ?_⟩
  · cases h
    rfl
  · cases h

theorem runs_throw (f : Fault) :
    Runs (throw f : Action (Connection δ) α) (fun _ => .error f) := by
  refine ⟨fun {d d' b} h c => ?_, fun {d f} h c => ?_⟩
  · cases h
  · cases h
    exact ⟨some d, rfl, nofun⟩

theorem runs_current (g : δ → α) :
    Runs (do return g (← get).current) (fun d => .ok (g d, d)) := by
  refine ⟨fun {d d' b} h c => ?_, fun {d f} h c => ?_⟩
  · cases h
    rfl
  · cases h

theorem runs_statement (F : δ → Except Fault (α × δ)) : Runs (statement F) F := by
  refine ⟨fun {d d' a} h c => ?_, fun {d f} h c => ?_⟩
  · rw [statement, perform_get_bind, current, Option.getD_some, h]
    rfl
  · rw [statement, perform_get_bind, current, Option.getD_some, h]
    by_cases hfull : f = .noIdLeft
    · subst hfull
      exact ⟨none, rfl, fun _ => rfl⟩
    · refine ⟨some d, ?_, nofun⟩
      split
      · cases ‹Except.error f = _›
      · exact absurd (Except.error.inj ‹_›) hfull
      · cases ‹Except.error f = _›
        rfl

theorem Runs.bind {next : α → Action (Connection δ) β} {G : α → δ → Except Fault (β × δ)}
    (h : Runs block F) (hnext : ∀ a, Runs (next a) (G a)) :
    Runs (block >>= next) (fun d => (F d).bind fun p => G p.1 p.2) := by
  refine ⟨fun {d d' b} hd c => ?_, fun {d f} hd c => ?_⟩
  · obtain ⟨⟨a, e⟩, ha, hb⟩ := Result.bind_eq_ok.mp hd
    exact perform_bind_ok.mpr ⟨a, _, h.ok ha c, (hnext a).ok hb c⟩
  · cases hF : F d with
    | error g =>
      rw [hF] at hd
      cases hd
      obtain ⟨w, hw, hlost⟩ := h.error hF c
      exact ⟨w, perform_bind_error.mpr (.inl hw), hlost⟩
    | ok p =>
      rw [hF] at hd
      obtain ⟨w, hw, hlost⟩ := (hnext p.1).error hd c
      exact ⟨w, perform_bind_error.mpr (.inr ⟨p.1, _, h.ok hF c, hw⟩), hlost⟩

end

theorem runs_forM {step : δ → β → Except Fault δ} {each : β → Action (Connection δ) Unit}
    (heach : ∀ x, Runs (each x) fun d => (step d x).map fun d => ((), d)) (xs : List β) :
    Runs (xs.forM each) fun d => (xs.foldlM step d).map fun d => ((), d) := by
  induction xs with
  | nil => exact runs_pure ()
  | cons x xs ih =>
    refine ((heach x).bind fun _ => ih).congr fun d => ?_
    rw [List.foldlM_cons]
    cases step d x with
    | error f => rfl
    | ok e => rfl

/-- A transaction whose block fails leaves what was committed, and one whose block succeeds commits
what the block has made of it. -/
theorem transaction_perform {block : Action (Connection δ) α} {F : δ → Except Fault (α × δ)}
    (h : Runs block F) (d : δ) :
    (transaction block).perform ⟨d, none⟩ = ((F d).map Prod.fst, ⟨after F d, none⟩) := by
  have hbegin : (transaction block).perform ⟨d, none⟩ =
      ((tryCatch block fun fault => rollback >>= fun _ => throw fault) >>= fun a =>
        commit >>= fun _ => pure a).perform ⟨d, some d⟩ := rfl
  rw [hbegin, perform_bind, perform_tryCatch]
  cases hF : F d with
  | ok p =>
    rw [h.ok hF d, after_ok hF]
    rfl
  | error f =>
    obtain ⟨w, hw, hlost⟩ := h.error hF d
    rw [hw, after_error hF]
    cases w with
    | none =>
      obtain rfl := hlost rfl
      rfl
    | some e => rfl

end TextMemory.Connection
