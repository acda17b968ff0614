import TextMemory.Proofs.Action

/-!
# Actions that compute functions

A relation tells which states of an action are seen as which simpler state. An action computes a
function on the simpler states when it gives the function's answer and ends in a state that is seen
as the one to which the function leads; a function that fails leads nowhere. Of a sequence, the
first action may change the state or the rest may fail, but not both: what was changed before a
failure stays changed.
-/
namespace TextMemory.Action

variable {σ τ υ α β : Type}

def after (F : τ → Except Fault (α × τ)) (t : τ) : τ :=
  match F t with
  | .ok p => p.2
  | .error _ => t

theorem after_ok {F : τ → Except Fault (α × τ)} {t : τ} {p : α × τ} (h : F t = .ok p) :
    after F t = p.2 := by
  rw [after, h]

theorem after_error {F : τ → Except Fault (α × τ)} {t : τ} {f : Fault} (h : F t = .error f) :
    after F t = t := by
  rw [after, h]

def looking (f : τ → Except Fault α) (t : τ) : Except Fault (α × τ) := (f t).map fun x => (x, t)

def Computes (R : τ → σ → Prop) (F : τ → Except Fault (α × τ)) (a : Action σ α) : Prop :=
  ∀ t s, R t s → ∃ u, a.perform s = ((F t).map Prod.fst, u) ∧ R (after F t) u

section

variable {R : τ → σ → Prop} {F : τ → Except Fault (α × τ)} {a : Action σ α}

theorem Computes.error (h : Computes R F a) {t : τ} {s : σ} (hs : R t s) {f : Fault}
    (hf : F t = .error f) : ∃ u, a.perform s = (.error f, u) ∧ R t u := by
  obtain ⟨u, hu, hR⟩ := h t s hs
  rw [hf] at hu
  rw [after_error hf] at hR
  exact ⟨u, hu, hR⟩

theorem Computes.ok (h : Computes R F a) {t t' : τ} {s : σ} (hs : R t s) {x : α}
    (hx : F t = .ok (x, t')) : ∃ u, a.perform s = (.ok x, u) ∧ R t' u := by
  obtain ⟨u, hu, hR⟩ := h t s hs
  rw [hx] at hu
  rw [after_ok hx] at hR
  exact ⟨u, hu, hR⟩

theorem Computes.intro
    (herror : ∀ t s f, R t s → F t = .error f → ∃ u, a.perform s = (.error f, u) ∧ R t u)
    (hok : ∀ t s x t', R t s → F t = .ok (x, t') → ∃ u, a.perform s = (.ok x, u) ∧ R t' u) :
    Computes R F a := by
  intro t s h
  cases hF : F t with
  | error f =>
    obtain ⟨u, hu, hR⟩ := herror t s f h hF
    exact ⟨u, hu, by rwa [after_error hF]⟩
  | ok p =>
    obtain ⟨u, hu, hR⟩ := hok t s p.1 p.2 h hF
    exact ⟨u, hu, by rwa [after_ok hF]⟩

theorem computes_looking {f : τ → Except Fault α} :
    Computes R (looking f) a ↔ ∀ t s, R t s → ∃ u, a.perform s = (f t, u) ∧ R t u := by
  have hfst : ∀ t, (looking f t).map Prod.fst = f t := by
    intro t
    unfold looking
    cases f t <;> rfl
  have hafter : ∀ t, after (looking f) t = t := by
    intro t
    unfold after looking
    cases f t <;> rfl
  simp only [Computes, hfst, hafter]

theorem computes_ofExcept (r : Except Fault α) : Computes R (looking fun _ => r) (ofExcept r) :=
  computes_looking.mpr fun _ s h => ⟨s, perform_ofExcept r s, h⟩

theorem computes_pure (x : α) : Computes R (looking fun _ => .ok x) (pure x) :=
  computes_looking.mpr fun _ s h => ⟨s, rfl, h⟩

theorem Computes.bind {f : τ → Except Fault α} {G : α → τ → Except Fault (β × τ)}
    {k : α → Action σ β} (ha : Computes R (looking f) a) (hk : ∀ x, Computes R (G x) (k x)) :
    Computes R (fun t => (f t).bind fun x => G x t) (a >>= k) := by
  have hlook := computes_looking.mp ha
  refine .intro (fun t s e h he => ?_) fun t s y t' h hy => ?_
  · obtain ⟨u, hu, hR⟩ := hlook t s h
    cases hf : f t with
    | error e' =>
      simp only [hf, Except.bind] at he
      cases he
      exact ⟨u, perform_bind_error.mpr (.inl (hf ▸ hu)), hR⟩
    | ok x =>
      simp only [hf, Except.bind] at he
      obtain ⟨v, hv, hRv⟩ := (hk x).error hR he
      exact ⟨v, perform_bind_error.mpr (.inr ⟨x, u, hf ▸ hu, hv⟩), hRv⟩
  · obtain ⟨u, hu, hR⟩ := hlook t s h
    cases hf : f t with
    | error e' =>
      simp only [hf, Except.bind] at hy
      cases hy
    | ok x =>
      simp only [hf, Except.bind] at hy
      obtain ⟨v, hv, hRv⟩ := (hk x).ok hR hy
      exact ⟨v, perform_bind_ok.mpr ⟨x, u, hf ▸ hu, hv⟩, hRv⟩

theorem Computes.skip {x : α} {G : τ → Except Fault (β × τ)} {k : α → Action σ β}
    (ha : Computes R (looking fun _ => .ok x) a) (hk : ∀ x, Computes R G (k x)) :
    Computes R G (a >>= k) := ha.bind hk

theorem Computes.bind_ok {g : α → β} {k : α → Action σ β} (ha : Computes R F a)
    (hk : ∀ x, Computes R (looking fun _ => .ok (g x)) (k x)) :
    Computes R (fun t => (F t).map fun p => (g p.1, p.2)) (a >>= k) := by
  refine .intro (fun t s f h hf => ?_) fun t s x t' h hx => ?_
  · cases hF : F t with
    | error e =>
      simp only [hF, Except.map] at hf
      cases hf
      obtain ⟨u, hu, hR⟩ := ha.error h hF
      exact ⟨u, perform_bind_error.mpr (.inl hu), hR⟩
    | ok p =>
      simp only [hF, Except.map] at hf
      cases hf
  · cases hF : F t with
    | error e =>
      simp only [hF, Except.map] at hx
      cases hx
    | ok p =>
      simp only [hF, Except.map] at hx
      cases hx
      obtain ⟨u, hu, hR⟩ := ha.ok h hF
      obtain ⟨v, hv, hRv⟩ := computes_looking.mp (hk p.1) p.2 u hR
      exact ⟨v, perform_bind_ok.mpr ⟨p.1, u, hu, hv⟩, hRv⟩

theorem Computes.congr {G : τ → Except Fault (α × τ)} (ha : Computes R F a) (h : ∀ t, F t = G t) :
    Computes R G a := funext h ▸ ha

theorem Computes.map (ha : Computes R F a) (g : α → β) :
    Computes R (fun t => (F t).map fun p => (g p.1, p.2)) (g <$> a) := by
  have hbind : (g <$> a) = a >>= fun x => pure (g x) := (bind_pure_comp g a).symm
  rw [hbind]
  exact ha.bind_ok fun x => computes_pure (g x)

theorem Computes.bind_same {k : α → Action σ α} (ha : Computes R F a)
    (hk : ∀ x, Computes R (looking fun _ => .ok x) (k x)) : Computes R F (a >>= k) := by
  refine (ha.bind_ok hk).congr fun t => ?_
  cases F t <;> rfl

theorem computes_get_bind {k : σ → Action σ α} (hk : ∀ t s, R t s → Computes R F (k s)) :
    Computes R F (get >>= k) := by
  intro t s h
  rw [perform_get_bind]
  exact hk t s h t s h

theorem Computes.onPart {Q : τ → υ → Prop} {part : υ → σ} {put : σ → υ → υ}
    (ha : Computes R F a) (hpart : ∀ t s, Q t s → R t (part s))
    (hput : ∀ t t' s x, Q t s → R t' x → Q t' (put x s)) :
    Computes Q F (onPart part put a) := by
  intro t s h
  obtain ⟨u, hu, hR⟩ := ha t (part s) (hpart t s h)
  refine ⟨put u s, ?_, hput t _ s u h hR⟩
  rw [perform_onPart, hu]

end

end TextMemory.Action
