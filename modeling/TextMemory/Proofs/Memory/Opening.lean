import TextMemory.Proofs.Memory.Commute
import TextMemory.Proofs.Memory.Name

/-!
# Stores that are opened

What a store has opened it has tried, and it stays at its path. In all that memories make of what
lies at a path, an open store finds a database of its own dimensions there, unless each connection
begins with nothing; then nothing can be written.
-/
namespace TextMemory

open TextMemory.Action

namespace Store

structure Tries (s t : Store) : Prop where
  path : t.path = s.path
  tried : (s.opened = true → s.tried = true) → t.opened = true → t.tried = true

instance : IsPreorder Store Tries where
  refl _ := ⟨rfl, id⟩
  trans _ _ _ h k := ⟨k.path.trans h.path, k.tried ∘ h.tried⟩

theorem note_tries (level : LogLevel) (source message : String) :
    StaysWithin Tries (note level source message) :=
  staysWithin_modify fun _ => ⟨rfl, id⟩

theorem ensureOpen_tries : StaysWithin Tries ensureOpen := by
  intro s
  cases hs : s.opened with
  | true =>
    rw [ensureOpen, perform_get_bind, if_pos hs]
    exact refl_of Tries s
  | false =>
    rw [ensureOpen_perform hs]
    split
    · exact ⟨rfl, fun _ _ => rfl⟩
    · exact ⟨rfl, fun _ _ => rfl⟩

theorem amend_tries {α : Type} (f : Table → Except Fault (α × Table)) :
    StaysWithin Tries (amend f) := by
  refine (connect_staysWithin ensureOpen_tries).bind fun db =>
    (staysWithin_ofExcept _).bind fun p => ?_
  refine (staysWithin_modify fun s => ?_).bind fun _ => staysWithin_pure p.1
  exact ⟨rfl, id⟩

theorem Call.tries [Numerics] (c : Call) : StaysWithin Tries c.action :=
  c.staysWithin ensureOpen_tries (note_tries .info "agentmemory.store") amend_tries

theorem Ready.regular {s : Store} (h : s.Ready) : s.medium.Regular := by
  rcases h with ⟨hblank, -⟩ | hdimensions
  · exact .inl hblank
  · obtain ⟨db, hdb, -⟩ := exists_database hdimensions
    exact .inr ⟨db, hdb⟩

theorem ensureOpen_established {s t : Store} {u : Unit} (hs : s.opened = false)
    (h : ensureOpen.perform s = (.ok u, t)) :
    (s.medium.establish s.path s.dimensions).1 = .ok () ∧
    t.medium = s.medium.opened s.dimensions := by
  rw [ensureOpen_perform hs] at h
  cases hr : (s.medium.establish s.path s.dimensions).1 with
  | error f =>
    rw [hr] at h
    cases h
  | ok v =>
    rw [hr] at h
    cases h
    exact ⟨rfl, rfl⟩

/-- A store that has just been opened is ready, and was so before, unless nothing lasts. -/
theorem ready_of_ensureOpen {s t : Store} {u : Unit} (hs : s.opened = false)
    (h : ensureOpen.perform s = (.ok u, t)) :
    (s.Ready ∧ t.Ready) ∨ (s.medium = .fleeting ∧ t.medium = .fleeting) := by
  obtain ⟨hestablished, ht⟩ := ensureOpen_established hs h
  have hdimensions : t.dimensions = s.dimensions := (ensureOpen_reads.of_perform h).dimensions
  rw [Ready, Ready, hdimensions, ht]
  cases hm : s.medium with
  | blank => exact .inl ⟨.inl ⟨rfl, hs⟩, .inr rfl⟩
  | database db =>
    have hsame : db.dimensions = s.dimensions := by
      rw [hm, Medium.establish_database] at hestablished
      by_contra hother
      rw [if_neg hother] at hestablished
      cases hestablished
    exact .inl ⟨.inr (congrArg some hsame), .inr (congrArg some hsame)⟩
  | fleeting => exact .inr ⟨rfl, rfl⟩
  | blocked | refused =>
    rw [hm] at hestablished
    cases hestablished

end Store

namespace Memory

theorem Call.staysFleeting [Numerics] (c : Call) :
    StaysWithin (InvImage Store.StaysFleeting Memory.store) c.action :=
  c.staysWithin_store Store.Call.staysFleeting fun level source message s =>
    (Store.note_reads level source message s).staysFleeting

theorem Call.tries [Numerics] (c : Call) :
    StaysWithin (InvImage Store.Tries Memory.store) c.action :=
  c.staysWithin_store Store.Call.tries Store.note_tries

variable {m n : Memory}

theorem write_database {content : String} {source : Option String} {title : Json} {w : Written}
    (h : (write content source title).perform m = (.ok w, n)) :
      ∃ db, n.store.medium = .database db := by
  obtain ⟨hcount, hpos⟩ := write_count h
  obtain ⟨r, hr⟩ := List.exists_mem_of_length_pos (hcount ▸ hpos)
  exact Medium.exists_of_mem (List.mem_of_mem_filter hr)

theorem write_of_fleeting (hm : m.store.medium = .fleeting) (content : String)
    (source : Option String)
    (title : Json) : ∃ f n, (write content source title).perform m = (.error f, n) := by
  cases hw : (write content source title).perform m with
  | mk answer n =>
    cases answer with
    | error f => exact ⟨f, n, rfl⟩
    | ok w =>
      have hn : n.store.medium = .fleeting :=
        (Call.staysFleeting (.write content source title)).of_perform hw hm
      obtain ⟨db, hdatabase⟩ := write_database hw
      rw [hn] at hdatabase
      cases hdatabase

namespace History

structure Sized (h : History) : Prop where
  settings : ∀ m ∈ h.memories, m.store.dimensions = m.settings.dimensions
  opened : h.medium ≠ .fleeting →
    ∀ m ∈ h.memories, m.store.opened = true → h.medium.dimensions? = some m.store.dimensions

theorem sized_start (medium : Medium) : (start medium).Sized :=
  ⟨fun _ hm => absurd hm List.not_mem_nil, fun _ _ hm => absurd hm List.not_mem_nil⟩

theorem Sized.called [Numerics] {h : History} (hh : h.Sized) (place : Nat) {m : Memory}
    (hmedium : m.store.medium = h.medium) (hsettings : m.store.dimensions = m.settings.dimensions)
    (hopened : h.medium ≠ .fleeting → m.store.opened = true →
      h.medium.dimensions? = some m.store.dimensions)
    (c : Call) : (h.called place m c).Sized := by
  rw [History.called]
  cases hc : c.action.perform m with
  | mk answer n =>
    have hsettles : Settles m n := c.settles.of_perform hc
    refine ⟨fun k hk => ?_, fun hlasting k hk hk' => ?_⟩
    · rcases List.mem_or_eq_of_mem_set hk with hk | rfl
      · exact hh.settings k hk
      · rw [hsettles.store.dimensions, hsettles.settings, hsettings]
    · have hstart : h.medium ≠ .fleeting :=
        fun hf => hlasting (c.staysFleeting.of_perform hc (hmedium.trans hf))
      have hfits : m.store.Fits := ⟨hmedium ▸ hstart, hmedium ▸ hopened hstart⟩
      rcases List.mem_or_eq_of_mem_set hk with hk | rfl
      · have hdimensions := hh.opened hstart k hk hk'
        change n.store.medium.dimensions? = _
        rw [hsettles.store.recorded hfits, hmedium, hdimensions, Option.some_or]
      · exact (hsettles.store.fits hfits).opened hk'

theorem Sized.step [Numerics] {h : History} (hh : h.Sized) (e : Event) : (h.step e).Sized := by
  cases e with
  | enter settings embedder now =>
    simp only [History.step]
    cases hm : create settings h.medium now embedder with
    | error f => exact hh
    | ok m =>
      obtain ⟨rfl, -⟩ := create_ok hm
      refine ⟨fun k hk => ?_, fun hlasting k hk hopened => ?_⟩
      · rcases List.mem_append.mp hk with hk | hk
        · exact hh.settings k hk
        · rw [List.mem_singleton.mp hk]
          rfl
      · rcases List.mem_append.mp hk with hk | hk
        · exact hh.opened hlasting k hk hopened
        · rw [List.mem_singleton.mp hk] at hopened
          cases hopened
  | call place now vectors c =>
    simp only [History.step]
    cases hp : h.memories[place]? with
    | none => exact hh
    | some m =>
      have hmem : m ∈ h.memories := List.mem_of_getElem? hp
      exact hh.called place (m := h.found m now vectors) rfl (hh.settings m hmem)
        (fun hlasting => hh.opened hlasting m hmem) c

theorem Sized.run [Numerics] {h : History} (hh : h.Sized) (es : List Event) : (h.run es).Sized := by
  induction es generalizing h with
  | nil => exact hh
  | cons e es ih => exact ih (hh.step e)

end History
end Memory
end TextMemory
