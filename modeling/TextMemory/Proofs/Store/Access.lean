import TextMemory.Proofs.Store.Dimensions
import TextMemory.Proofs.Store.Shelf

/-!
# What a store makes of its table

A store that finds a database of its own dimensions, or none yet, does with each operation what a
function does with the table; one that finds other dimensions fails with the same mismatch at each.
In all that stores make of a path where nothing was, it is one of the two.
-/
namespace TextMemory

open TextMemory.Action

def Medium.Regular (m : Medium) : Prop := m = .blank ∨ ∃ db, m = .database db

theorem Medium.Regular.opened {m : Medium} (h : m.Regular) (n : Int) : (m.opened n).Regular := by
  rcases h with rfl | ⟨db, rfl⟩
  · exact .inr ⟨_, rfl⟩
  · exact .inr ⟨db, rfl⟩

namespace Store

def KeepsRegular (s t : Store) : Prop := s.medium.Regular → t.medium.Regular

instance : IsPreorder Store KeepsRegular where
  refl _ := id
  trans _ _ _ h k := k ∘ h

theorem Rests.keepsRegular {s t : Store} (h : Rests s t) : KeepsRegular s t := by
  intro hs
  rcases h.medium with hm | hm
  · exact hm ▸ hs
  · exact hm ▸ hs.opened _

theorem Call.keepsRegular [Numerics] (c : Call) : StaysWithin KeepsRegular c.action := by
  refine c.staysWithin (fun s => (ensureOpen_reads s).keepsRegular)
    (fun message s => (tell_reads message s).keepsRegular) fun f s => ?_
  rw [amend_perform]
  cases hc : connect.perform s with
  | mk answer t =>
    have hkeeps : KeepsRegular s t := (connect_reads.of_perform hc).keepsRegular
    cases answer with
    | error e => exact hkeeps
    | ok db =>
      dsimp only
      cases f db.table with
      | error e => exact hkeeps
      | ok p => exact fun _ => .inr ⟨_, rfl⟩

structure Accesses (o : Store) (gate : Except Fault Unit) (t : Table) (s : Store) : Prop where
  dimensions : s.dimensions = o.dimensions
  clock : s.clock = o.clock
  table : s.medium.table = t
  gate : (gate = .ok () ∧ s.Ready) ∨
    ∃ db, s.opened = false ∧ s.medium = .database db ∧ db.dimensions ≠ s.dimensions ∧
      gate = .error (s.foreign db.dimensions)

theorem exists_accesses {s : Store} (hs : s.Fits) (hm : s.medium.Regular) :
    ∃ gate, Accesses s gate s.medium.table s := by
  rcases hm with hm | ⟨db, hm⟩
  · have hclosed : s.opened = false := by
      cases hopened : s.opened with
      | false => rfl
      | true =>
        have hn := hs.opened hopened
        rw [hm] at hn
        cases hn
    exact ⟨.ok (), rfl, rfl, rfl, .inl ⟨rfl, .inl ⟨hm, hclosed⟩⟩⟩
  · have hdimensions : s.medium.dimensions? = some db.dimensions := by
      rw [hm]
      rfl
    by_cases hn : db.dimensions = s.dimensions
    · exact ⟨.ok (), rfl, rfl, rfl, .inl ⟨rfl, .inr (hn ▸ hdimensions)⟩⟩
    · have hclosed : s.opened = false := by
        cases hopened : s.opened with
        | false => rfl
        | true =>
          have hsame := hdimensions.symm.trans (hs.opened hopened)
          exact absurd (Option.some.inj hsame) hn
      exact ⟨_, rfl, rfl, rfl, .inr ⟨db, hclosed, hm, hn, rfl⟩⟩

section

variable {o : Store} {gate : Except Fault Unit}

theorem connect_computes :
    Computes (Accesses o gate) (looking fun t => gate.map fun _ => (⟨o.dimensions, t⟩ : Database))
      connect := by
  apply computes_looking.mpr
  intro t s h
  rcases h.gate with ⟨rfl, hready⟩ | ⟨db, hclosed, hm, hn, rfl⟩
  · obtain ⟨db, u, hconnect, hmedium, hu⟩ := hready.connect
    have hrests := connect_reads.of_perform hconnect
    have hdimensions : db.dimensions = o.dimensions := by
      rcases hu with ⟨hblank, -⟩ | hsome
      · rw [hmedium] at hblank
        cases hblank
      · rw [hmedium] at hsome
        exact (Option.some.inj hsome).trans (hrests.dimensions.trans h.dimensions)
    have htable : db.table = t := (connect_table hconnect).trans h.table
    have hdb : db = ⟨o.dimensions, t⟩ := by
      rw [← hdimensions, ← htable]
    refine ⟨u, hdb ▸ hconnect, hrests.dimensions.trans h.dimensions, hrests.clock.trans h.clock,
      hrests.table.trans h.table, .inl ⟨rfl, hu⟩⟩
  · exact ⟨_, connect_foreign hclosed hm hn, h.dimensions, h.clock, h.table,
      .inr ⟨db, hclosed, hm, hn, rfl⟩⟩

theorem amend_computes {α : Type} (f : Table → Except Fault (α × Table)) :
    Computes (Accesses o gate) (fun t => gate.bind fun _ => f t) (amend f) := by
  intro t s h
  obtain ⟨u, hu, hR⟩ := computes_looking.mp connect_computes t s h
  rw [amend_perform, hu]
  unfold after
  cases gate with
  | error e => exact ⟨u, rfl, hR⟩
  | ok _ =>
    simp only [Except.map, Except.bind]
    cases f t with
    | error e => exact ⟨u, rfl, hR⟩
    | ok p =>
      have hready : ({ u with medium := .database ⟨o.dimensions, p.2⟩ } : Store).Ready :=
        .inr (congrArg some hR.dimensions.symm)
      exact ⟨_, rfl, hR.dimensions, hR.clock, rfl, .inl ⟨rfl, hready⟩⟩

theorem note_computes (level : LogLevel) (source message : String) :
    Computes (Accesses o gate) (looking fun _ => .ok ()) (note level source message) :=
  computes_looking.mpr fun _ _ h => ⟨_, rfl, h.dimensions, h.clock, h.table, h.gate⟩

theorem tell_computes (message : String) :
    Computes (Accesses o gate) (looking fun _ => .ok ()) (tell message) :=
  note_computes .info "agentmemory.store" message

theorem prepareAll_computes (ds : List Draft) :
    Computes (Accesses o gate) (looking fun _ => ds.mapM (prepare o.dimensions o.clock))
      (prepareAll ds) := by
  apply computes_looking.mpr
  intro t s h
  refine ⟨s, ?_, h⟩
  rw [prepareAll_perform, h.dimensions, h.clock]

theorem passOn_computes {α : Type} (message : String) (x : α) :
    Computes (Accesses o gate) (looking fun _ => .ok x) (tell message >>= fun _ => pure x) :=
  (tell_computes message).skip fun _ => computes_pure x

theorem deleteSource_computes (source : String) :
    Computes (Accesses o gate) (fun t => gate.bind fun _ => exchange source [] t)
      (deleteSource source) := by
  rw [deleteSource_eq]
  exact (amend_computes (exchange source [])).bind_same fun n =>
    passOn_computes s!"Deleted {n} chunks for source: {source}" n

theorem replaceSource_computes {source : String} {ds : List Draft}
    (hds : ∀ d ∈ ds, d.source = source) :
    Computes (Accesses o gate)
      (fun t => (ds.mapM (prepare o.dimensions o.clock)).bind fun ps =>
        gate.bind fun _ => exchange source ps t) (replaceSource source ds) := by
  have hnone : (ds.find? fun d => d.source != source) = none := by
    rw [List.find?_eq_none]
    intro d hd
    simp [hds d hd]
  rw [replaceSource_eq, hnone]
  refine (prepareAll_computes ds).bind fun ps => ?_
  exact (amend_computes (exchange source ps)).bind_same fun n => passOn_computes _ n

theorem getSource_computes (source : String) :
    Computes (Accesses o gate)
      (looking fun t => gate.bind fun _ => (t.bySource source).mapM chunkOf)
        (getSource source) := by
  refine (connect_computes.bind fun db => computes_ofExcept _).congr fun t => ?_
  cases gate <;> rfl

theorem stats_computes :
    Computes (Accesses o gate) (looking fun t => gate.map fun _ => t.stats) stats := by
  refine (connect_computes.bind fun db => computes_pure db.table.stats).congr fun t => ?_
  cases gate <;> rfl

theorem sources_computes :
    Computes (Accesses o gate) (looking fun t => gate.map fun _ => t.sources) sources := by
  refine (connect_computes.bind fun db => computes_pure db.table.sources).congr fun t => ?_
  cases gate <;> rfl

end

end Store
end TextMemory
