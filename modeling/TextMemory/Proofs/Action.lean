import Mathlib.Order.Defs.Unbundled
import TextMemory.Action
import TextMemory.Proofs.Result

/-!
# What actions do to their state

The answer of a sequence and the state after it come from its parts. An action stays within a
relation when every run of it ends in a state related to the first one; it fails within a relation
when every run that fails does. Both go through sequences, the second one as long as nothing that
can fail follows a part that leaves the relation.
-/
namespace TextMemory.Action

variable {σ τ α β : Type}

@[simp] theorem perform_pure (x : α) (s : σ) : (pure x : Action σ α).perform s = (.ok x, s) := rfl

@[simp] theorem perform_throw (f : Fault) (s : σ) :
    (throw f : Action σ α).perform s = (.error f, s) := rfl

@[simp] theorem perform_get (s : σ) : (get : Action σ σ).perform s = (.ok s, s) := rfl

@[simp] theorem perform_set (s t : σ) : (set t : Action σ Unit).perform s = (.ok (), t) := rfl

@[simp] theorem perform_modify (g : σ → σ) (s : σ) :
    (modify g : Action σ Unit).perform s = (.ok (), g s) := rfl

@[simp] theorem perform_ofExcept (r : Except Fault α) (s : σ) :
    (ofExcept r).perform s = (r, s) := by
  cases r with
  | ok x => rfl
  | error f => rfl

theorem perform_bind (a : Action σ α) (f : α → Action σ β) (s : σ) :
    (a >>= f).perform s = match a.perform s with
      | (.ok x, t) => (f x).perform t
      | (.error e, t) => (.error e, t) := by
  simp only [perform, bind, ExceptT.bind, ExceptT.mk, ExceptT.run, StateT.run, StateT.bind]
  cases h : a s with
  | mk r t =>
    cases r with
    | ok x => rfl
    | error e => rfl

theorem perform_tryCatch (a : Action σ α) (h : Fault → Action σ α) (s : σ) :
    (tryCatch a h).perform s = match a.perform s with
      | (.ok x, t) => (.ok x, t)
      | (.error f, t) => (h f).perform t := by
  simp only [perform, tryCatch, tryCatchThe, MonadExceptOf.tryCatch, ExceptT.tryCatch, ExceptT.mk,
    ExceptT.run, StateT.run, bind, StateT.bind]
  cases h : a s with
  | mk r t =>
    cases r with
    | ok x => rfl
    | error e => rfl

@[simp] theorem perform_get_bind (f : σ → Action σ β) (s : σ) :
    (get >>= f).perform s = (f s).perform s := rfl

@[simp] theorem perform_set_bind (t : σ) (f : Unit → Action σ β) (s : σ) :
    (set t >>= f).perform s = (f ()).perform t := rfl

@[simp] theorem perform_map (g : α → β) (a : Action σ α) (s : σ) :
    (g <$> a).perform s = ((a.perform s).1.map g, (a.perform s).2) := by
  simp only [perform, Functor.map, ExceptT.map, ExceptT.mk, ExceptT.run, StateT.run, StateT.bind,
    bind]
  cases h : a s with
  | mk r t =>
    cases r with
    | ok x => rfl
    | error e => rfl

@[simp] theorem perform_onPart (part : σ → τ) (put : τ → σ → σ) (a : Action τ α) (s : σ) :
    (onPart part put a).perform s = ((a.perform (part s)).1, put (a.perform (part s)).2 s) := rfl

theorem perform_bind_ok {a : Action σ α} {f : α → Action σ β} {s u : σ} {y : β} :
    (a >>= f).perform s = (.ok y, u) ↔
      ∃ x t, a.perform s = (.ok x, t) ∧ (f x).perform t = (.ok y, u) := by
  rw [perform_bind]
  cases h : a.perform s with
  | mk r t =>
    cases r with
    | ok x =>
      refine ⟨fun hf => ⟨x, t, rfl, hf⟩, ?_⟩
      rintro ⟨_, _, ⟨⟩, hf⟩
      exact hf
    | error e => simp

theorem perform_bind_error {a : Action σ α} {f : α → Action σ β} {s u : σ} {e : Fault} :
    (a >>= f).perform s = (.error e, u) ↔
      a.perform s = (.error e, u) ∨
        ∃ x t, a.perform s = (.ok x, t) ∧ (f x).perform t = (.error e, u) := by
  rw [perform_bind]
  cases h : a.perform s with
  | mk r t =>
    cases r with
    | ok x =>
      refine ⟨fun hf => .inr ⟨x, t, rfl, hf⟩, ?_⟩
      rintro (he | ⟨_, _, ⟨⟩, hf⟩)
      · simp at he
      · exact hf
    | error e => simp

theorem ofExcept_bind_ok {r : Except Fault α} {f : α → Action σ β} {s u : σ} {y : β} :
    (ofExcept r >>= f).perform s = (.ok y, u) ↔ ∃ x, r = .ok x ∧ (f x).perform s = (.ok y, u) := by
  rw [perform_bind, perform_ofExcept]
  cases r with
  | ok x => simp
  | error e => simp

theorem perform_discard_ok {a : Action σ α} {s t : σ} {u : Unit}
    (h : (discard a).perform s = (.ok u, t)) : ∃ x, a.perform s = (.ok x, t) := by
  have hp : (discard a).perform s = ((a.perform s).1.map fun _ => (), (a.perform s).2) :=
    perform_map (fun _ => ()) a s
  rw [hp] at h
  obtain ⟨hr, ht⟩ := Prod.mk.inj h
  obtain ⟨x, hx, -⟩ := Result.map_eq_ok.mp hr
  exact ⟨x, Prod.ext hx ht⟩

theorem exists_error {p : Except Fault α × σ} (h : p.1.isOk = false) :
    ∃ f t, p = (.error f, t) := by
  obtain ⟨r, t⟩ := p
  cases r with
  | ok x => cases h
  | error f => exact ⟨f, t, rfl⟩

def StaysWithin (R : σ → σ → Prop) (a : Action σ α) : Prop := ∀ s, R s (a.perform s).2

def FailsWithin (R : σ → σ → Prop) (a : Action σ α) : Prop :=
  ∀ s f t, a.perform s = (.error f, t) → R s t

def NeverFails (a : Action σ α) : Prop := ∀ s, ∃ x t, a.perform s = (.ok x, t)

section

variable {R : σ → σ → Prop}

theorem StaysWithin.of_perform {a : Action σ α} (h : StaysWithin R a) {s t : σ}
    {r : Except Fault α} (hp : a.perform s = (r, t)) : R s t := by
  have hs := h s
  rwa [hp] at hs

theorem StaysWithin.failsWithin {a : Action σ α} (h : StaysWithin R a) : FailsWithin R a :=
  fun _ _ _ hp => h.of_perform hp

theorem StaysWithin.map {a : Action σ α} (h : StaysWithin R a) (g : α → β) :
    StaysWithin R (g <$> a) := by
  intro s
  rw [perform_map]
  exact h s

theorem FailsWithin.map {a : Action σ α} (h : FailsWithin R a) (g : α → β) :
    FailsWithin R (g <$> a) := by
  intro s f t hp
  rw [perform_map] at hp
  cases ha : a.perform s with
  | mk r u =>
    rw [ha] at hp
    cases r with
    | ok x => simp [Except.map] at hp
    | error e =>
      have hu : u = t := (Prod.mk.injEq _ _ _ _ ▸ hp).2
      exact hu ▸ h s e u ha

theorem staysWithin_modify {g : σ → σ} (h : ∀ s, R s (g s)) :
    StaysWithin R (modify g : Action σ Unit) := h

variable [IsPreorder σ R]

theorem staysWithin_pure (x : α) : StaysWithin R (pure x : Action σ α) := fun s => refl_of R s

theorem staysWithin_throw (f : Fault) : StaysWithin R (throw f : Action σ α) := fun s => refl_of R s

theorem staysWithin_get : StaysWithin R (get : Action σ σ) := fun s => refl_of R s

theorem staysWithin_ofExcept (r : Except Fault α) : StaysWithin R (ofExcept r : Action σ α) := by
  intro s
  rw [perform_ofExcept]
  exact refl_of R s

theorem StaysWithin.bind {a : Action σ α} {f : α → Action σ β} (ha : StaysWithin R a)
    (hf : ∀ x, StaysWithin R (f x)) : StaysWithin R (a >>= f) := by
  intro s
  have hs := ha s
  rw [perform_bind]
  cases h : a.perform s with
  | mk r t =>
    rw [h] at hs
    cases r with
    | ok x => exact trans_of R hs (hf x t)
    | error e => exact hs

theorem staysWithin_mapM {f : α → Action σ β} {xs : List α} (h : ∀ x ∈ xs, StaysWithin R (f x)) :
    StaysWithin R (xs.mapM f) := by
  induction xs with
  | nil => exact staysWithin_pure []
  | cons x xs ih =>
    rw [List.mapM_cons]
    rw [List.forall_mem_cons] at h
    exact h.1.bind fun y => (ih h.2).bind fun ys => staysWithin_pure (y :: ys)

theorem StaysWithin.failsWithin_bind {a : Action σ α} {f : α → Action σ β} (ha : StaysWithin R a)
    (hf : ∀ x, FailsWithin R (f x)) : FailsWithin R (a >>= f) := by
  intro s e u hp
  rcases perform_bind_error.mp hp with h | ⟨x, t, h, ht⟩
  · exact ha.of_perform h
  · exact trans_of R (ha.of_perform h) (hf x t e u ht)

end

theorem NeverFails.failsWithin {R : σ → σ → Prop} {a : Action σ α} (h : NeverFails a) :
    FailsWithin R a := by
  intro s e u hp
  obtain ⟨x, t, hx⟩ := h s
  rw [hx] at hp
  simp at hp

theorem FailsWithin.bind_neverFails {R : σ → σ → Prop} {a : Action σ α} {f : α → Action σ β}
    (ha : FailsWithin R a) (hf : ∀ x, NeverFails (f x)) : FailsWithin R (a >>= f) := by
  intro s e u hp
  rcases perform_bind_error.mp hp with h | ⟨x, t, _, ht⟩
  · exact ha s e u h
  · obtain ⟨y, v, hy⟩ := hf x t
    rw [hy] at ht
    simp at ht

theorem neverFails_pure (x : α) : NeverFails (pure x : Action σ α) := fun s => ⟨x, s, rfl⟩

theorem neverFails_modify (g : σ → σ) : NeverFails (modify g : Action σ Unit) :=
  fun s => ⟨(), g s, rfl⟩

theorem NeverFails.bind {a : Action σ α} {f : α → Action σ β} (ha : NeverFails a)
    (hf : ∀ x, NeverFails (f x)) : NeverFails (a >>= f) := by
  intro s
  obtain ⟨x, t, hx⟩ := ha s
  obtain ⟨y, u, hy⟩ := hf x t
  exact ⟨y, u, perform_bind_ok.mpr ⟨x, t, hx, hy⟩⟩

section

variable {R : τ → τ → Prop} {Q : σ → σ → Prop} {part : σ → τ} {put : τ → σ → σ} {a : Action τ α}

theorem StaysWithin.onPart (lift : ∀ s t, R (part s) t → Q s (put t s)) (h : StaysWithin R a) :
    StaysWithin Q (onPart part put a) := fun s => lift s _ (h (part s))

theorem FailsWithin.onPart (lift : ∀ s t, R (part s) t → Q s (put t s)) (h : FailsWithin R a) :
    FailsWithin Q (onPart part put a) := by
  intro s f u hp
  rw [perform_onPart] at hp
  cases ha : a.perform (part s) with
  | mk r t =>
    rw [ha] at hp
    cases hp
    exact lift s t (h (part s) f t ha)

theorem NeverFails.onPart (h : NeverFails a) : NeverFails (onPart part put a) := by
  intro s
  obtain ⟨x, t, hx⟩ := h (part s)
  exact ⟨x, put t s, by rw [perform_onPart, hx]⟩

end

end TextMemory.Action
