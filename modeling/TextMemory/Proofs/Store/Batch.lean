import TextMemory.Proofs.Store.Dimensions

/-!
# Many chunks at once

A store that has come to its database comes to it again, so a change that succeeds and one after it
are one change. Hence a batch does what its chunks do one after the other, where all of them are
stored, and chunks in place of a source do what its deletion and a batch do. None of them touches
the rows of another source.
-/
namespace TextMemory.Store

open TextMemory.Action

section

variable {s t u : Store} {db : Database} {d : Draft} {ds : List Draft}

def leaving (s : Store) (db : Database) (table : Table) (log : List LogLine) : Store :=
  { s with medium := .database { db with table := table }, log := log }

theorem amend_eq_ok {α : Type} {f : Table → Except Fault (α × Table)} {a : α} :
    (amend f).perform s = (.ok a, t) ↔ ∃ db u table, connect.perform s = (.ok db, u) ∧
      f db.table = .ok (a, table) ∧ t = u.leaving db table u.log := by
  rw [amend_perform]
  constructor
  · intro h
    split at h
    · cases h
    · rename_i db u hconnect
      split at h
      · cases h
      · rename_i p hp
        cases h
        exact ⟨db, u, p.2, hconnect, hp, rfl⟩
  · rintro ⟨db, u, table, hconnect, hf, rfl⟩
    simp only [hconnect, hf]
    rfl

theorem write_eq_ok {n : Int} :
    (write d).perform s = (.ok n, t) ↔ ∃ p db u, prepare s.dimensions s.clock d = .ok p ∧
      connect.perform s = (.ok db, u) ∧ ∃ table, insertDraft db.table p = .ok table ∧
        n = table.lastId ∧ t = u.leaving db table u.log := by
  rw [write_eq, perform_get_bind, ofExcept_bind_ok]
  simp only [amend_eq_ok, Result.bind_eq_ok, Result.pure_eq_ok, Prod.mk.injEq]
  constructor
  · rintro ⟨p, hp, db, u, table, hconnect, ⟨_, hinsert, rfl, rfl⟩, rfl⟩
    exact ⟨p, db, u, hp, hconnect, _, hinsert, rfl, rfl⟩
  · rintro ⟨p, db, u, hp, hconnect, table, hinsert, rfl, rfl⟩
    exact ⟨p, hp, db, u, table, hconnect, ⟨table, hinsert, rfl, rfl⟩, rfl⟩

theorem writeBatch_eq_ok (hds : ds ≠ []) :
    (writeBatch ds).perform s = (.ok (), t) ↔
    ∃ ps db u, ds.mapM (prepare s.dimensions s.clock) = .ok ps ∧
      connect.perform s = (.ok db, u) ∧ ∃ table, ps.foldlM insertDraft db.table = .ok table ∧
        t = u.leaving db table u.log := by
  rw [writeBatch_eq, if_neg (by simpa using hds), perform_bind, prepareAll_perform]
  cases hps : ds.mapM (prepare s.dimensions s.clock) with
  | error f => simp
  | ok ps =>
    simp only [amend_eq_ok, Result.bind_eq_ok, Result.pure_eq_ok, Prod.mk.injEq, true_and]
    constructor
    · rintro ⟨db, u, table, hconnect, ⟨_, hinsert, rfl⟩, rfl⟩
      exact ⟨ps, db, u, rfl, hconnect, _, hinsert, rfl⟩
    · rintro ⟨_, db, u, ⟨⟩, hconnect, table, hinsert, rfl⟩
      exact ⟨db, u, table, hconnect, ⟨table, hinsert, rfl⟩, rfl⟩

theorem connect_leaving (h : connect.perform s = (.ok db, u)) (table : Table) (log : List LogLine) :
    connect.perform (u.leaving db table log) =
      (.ok { db with table := table }, u.leaving db table log) := by
  have hopened : u.opened = true := connect_opened h
  exact connect_of_opened hopened rfl

theorem writeBatch_leaving (h : connect.perform s = (.ok db, u)) (table : Table)
    (log : List LogLine) :
    (writeBatch ds).perform (u.leaving db table log) = (.ok (), t) ↔ ∃ ps later,
      ds.mapM (prepare s.dimensions s.clock) = .ok ps ∧ ps.foldlM insertDraft table = .ok later ∧
        t = u.leaving db later log := by
  by_cases hds : ds = []
  · subst hds
    simp only [writeBatch, List.isEmpty_nil, if_true, perform_pure, List.mapM_nil,
      Result.pure_eq_ok]
    constructor
    · rintro ⟨⟩
      exact ⟨[], table, rfl, rfl, rfl⟩
    · rintro ⟨_, _, rfl, ⟨⟩, rfl⟩
      rfl
  · have hagain := connect_leaving h table log
    have hrests := connect_reads.of_perform h
    have hdimensions : (u.leaving db table log).dimensions = s.dimensions := hrests.dimensions
    have hclock : (u.leaving db table log).clock = s.clock := hrests.clock
    rw [writeBatch_eq_ok hds, hdimensions, hclock]
    constructor
    · rintro ⟨ps, db', u', hps, hconnect, later, hinsert, rfl⟩
      obtain ⟨⟨⟩, rfl⟩ := Prod.mk.inj (hagain.symm.trans hconnect)
      exact ⟨ps, later, hps, hinsert, rfl⟩
    · rintro ⟨ps, later, hps, hinsert, rfl⟩
      exact ⟨ps, _, _, hps, hagain, later, hinsert, rfl⟩

theorem writeBatch_cons :
    (writeBatch (d :: ds)).perform s = (.ok (), t) ↔
      ∃ n u, (write d).perform s = (.ok n, u) ∧ (writeBatch ds).perform u = (.ok (), t) := by
  rw [writeBatch_eq_ok (List.cons_ne_nil d ds)]
  simp only [write_eq_ok, List.mapM_cons, Result.bind_eq_ok, Result.pure_eq_ok]
  constructor
  · rintro ⟨_, db, u, ⟨p, hp, ps, hps, rfl⟩, hconnect, table, hinsert, rfl⟩
    rw [List.foldlM_cons, Result.bind_eq_ok] at hinsert
    obtain ⟨first, hfirst, hrest⟩ := hinsert
    refine ⟨_, _, ⟨p, db, u, hp, hconnect, first, hfirst, rfl, rfl⟩, ?_⟩
    exact (writeBatch_leaving hconnect first u.log).mpr ⟨ps, table, hps, hrest, rfl⟩
  · rintro ⟨n, _, ⟨p, db, u, hp, hconnect, first, hfirst, rfl, rfl⟩, hbatch⟩
    obtain ⟨ps, table, hps, hrest, rfl⟩ := (writeBatch_leaving hconnect first u.log).mp hbatch
    refine ⟨p :: ps, db, u, ⟨p, hp, ps, hps, rfl⟩, hconnect, table, ?_, rfl⟩
    rw [List.foldlM_cons, Result.bind_eq_ok]
    exact ⟨first, hfirst, hrest⟩

theorem writeBatch_iff_writes :
    (writeBatch ds).perform s = (.ok (), t) ↔ ∃ ids, (ds.mapM write).perform s = (.ok ids, t) := by
  induction ds generalizing s with
  | nil => simp [writeBatch]
  | cons d ds ih =>
    rw [writeBatch_cons, List.mapM_cons]
    simp only [ih, perform_bind_ok, perform_pure]
    constructor
    · rintro ⟨n, u, hwrite, ids, hrest⟩
      exact ⟨n :: ids, n, u, hwrite, ids, t, hrest, rfl⟩
    · rintro ⟨_, n, u, hwrite, ids, t', hrest, h⟩
      cases h
      exact ⟨n, u, hwrite, ids, hrest⟩

variable {source : String} {n : Nat}

theorem deleteSource_eq_ok :
    (deleteSource source).perform s = (.ok n, t) ↔ ∃ db u, connect.perform s = (.ok db, u) ∧
      n = (db.table.rowsOf source).length ∧ t = u.leaving db (db.table.erase source)
        (u.log ++ [⟨.info, "agentmemory.store", s!"Deleted {n} chunks for source: {source}"⟩]) := by
  simp only [deleteSource_eq, perform_bind_ok, amend_eq_ok, tell, note_perform, perform_pure]
  constructor
  · rintro ⟨k, u, ⟨db, v, table, hconnect, ⟨⟩, rfl⟩, _, _, ⟨⟩, ⟨⟩⟩
    exact ⟨db, v, hconnect, rfl, rfl⟩
  · rintro ⟨db, u, hconnect, rfl, rfl⟩
    exact ⟨_, _, ⟨db, u, _, hconnect, rfl, rfl⟩, (), _, rfl, rfl⟩

theorem replaceSource_eq_ok (hds : ∀ d ∈ ds, d.source = source) :
    (replaceSource source ds).perform s = (.ok n, t) ↔ ∃ ps db u,
      ds.mapM (prepare s.dimensions s.clock) = .ok ps ∧ connect.perform s = (.ok db, u) ∧
      ∃ table, ps.foldlM insertDraft (db.table.erase source) = .ok table ∧
        n = (db.table.rowsOf source).length ∧ t = u.leaving db table (u.log ++
          [⟨.info, "agentmemory.store",
            s!"Replaced source {source}: {n} chunks deleted, {ps.length} written"⟩]) := by
  have hnone : (ds.find? fun d => d.source != source) = none := by
    rw [List.find?_eq_none]
    intro d hd
    simp [hds d hd]
  simp only [replaceSource_eq, hnone, perform_bind_ok, prepareAll_perform, amend_eq_ok, tell,
    note_perform, perform_pure, Result.bind_eq_ok, Result.pure_eq_ok]
  constructor
  · rintro ⟨ps, v, hprepared, k, w, ⟨db, u, table, hconnect, ⟨_, hinsert, ⟨⟩⟩, rfl⟩, _, _, ⟨⟩, ⟨⟩⟩
    obtain ⟨hps, rfl⟩ := Prod.mk.inj hprepared
    exact ⟨ps, db, u, hps, hconnect, table, hinsert, rfl, rfl⟩
  · rintro ⟨ps, db, u, hps, hconnect, table, hinsert, rfl, rfl⟩
    exact ⟨ps, s, Prod.ext hps rfl, _, _, ⟨db, u, table, hconnect, ⟨_, hinsert, rfl⟩, rfl⟩, (),
      _, rfl, rfl⟩

def rewrite (source : String) (ds : List Draft) : Action Store Nat := do
  let deleted ← deleteSource source
  writeBatch ds
  return deleted

theorem rewrite_eq_ok :
    (rewrite source ds).perform s = (.ok n, t) ↔ ∃ ps db u,
      ds.mapM (prepare s.dimensions s.clock) = .ok ps ∧ connect.perform s = (.ok db, u) ∧
      ∃ table, ps.foldlM insertDraft (db.table.erase source) = .ok table ∧
        n = (db.table.rowsOf source).length ∧ t = u.leaving db table
          (u.log ++
            [⟨.info, "agentmemory.store", s!"Deleted {n} chunks for source: {source}"⟩]) := by
  simp only [rewrite, perform_bind_ok, deleteSource_eq_ok, perform_pure]
  constructor
  · rintro ⟨k, _, ⟨db, u, hconnect, rfl, rfl⟩, _, v, hbatch, ⟨⟩⟩
    obtain ⟨ps, table, hps, hinsert, rfl⟩ := (writeBatch_leaving hconnect _ _).mp hbatch
    exact ⟨ps, db, u, hps, hconnect, table, hinsert, rfl, rfl⟩
  · rintro ⟨ps, db, u, hps, hconnect, table, hinsert, rfl, rfl⟩
    refine ⟨_, _, ⟨db, u, hconnect, rfl, rfl⟩, (), _, ?_, rfl⟩
    exact (writeBatch_leaving hconnect _ _).mpr ⟨ps, table, hps, hinsert, rfl⟩

theorem replaceSource_iff_rewrite (hds : ∀ d ∈ ds, d.source = source) (m : Medium) :
    (∃ t, (replaceSource source ds).perform s = (.ok n, t) ∧ t.medium = m) ↔
      ∃ t, (rewrite source ds).perform s = (.ok n, t) ∧ t.medium = m := by
  simp only [replaceSource_eq_ok hds, rewrite_eq_ok]
  constructor
  · rintro ⟨_, ⟨ps, db, u, hps, hconnect, table, hinsert, rfl, rfl⟩, rfl⟩
    exact ⟨_, ⟨ps, db, u, hps, hconnect, table, hinsert, rfl, rfl⟩, rfl⟩
  · rintro ⟨_, ⟨ps, db, u, hps, hconnect, table, hinsert, rfl, rfl⟩, rfl⟩
    exact ⟨_, ⟨ps, db, u, hps, hconnect, table, hinsert, rfl, rfl⟩, rfl⟩

end

section

variable {source : String}

/-- The rows of the source are what they were, with their ids and in their order. -/
def KeepsSource (source : String) (s t : Store) : Prop :=
  t.medium.table.rowsOf source = s.medium.table.rowsOf source

instance : IsPreorder Store (KeepsSource source) where
  refl _ := rfl
  trans _ _ _ h k := k.trans h

theorem Rests.keepsSource {s t : Store} (h : Rests s t) : KeepsSource source s t := by
  rw [KeepsSource, h.table]

theorem Call.keepsSource [Numerics] (c : Call) (hds : ∀ d ∈ c.drafts, d.source ≠ source)
    (hremaining : ∀ table, (c.remaining table).rowsOf source = table.rowsOf source) :
    StaysWithin (KeepsSource source) c.action := by
  intro s
  cases h : c.action.perform s with
  | mk answer t =>
    cases answer with
    | error f => exact (c.failsWithin s f t h).keepsSource
    | ok r => exact ((c.stored h).rowsOf_apart hds).trans (hremaining _)

theorem write_keepsSource {d : Draft} (hd : d.source ≠ source) :
    StaysWithin (KeepsSource source) (write d) :=
  Call.keepsSource (.write d) (List.forall_mem_singleton.mpr hd) fun _ => rfl

theorem writeBatch_keepsSource {ds : List Draft} (hds : ∀ d ∈ ds, d.source ≠ source) :
    StaysWithin (KeepsSource source) (writeBatch ds) :=
  Call.keepsSource (.writeBatch ds) hds fun _ => rfl

theorem deleteSource_keepsSource {name : String} (hne : source ≠ name) :
    StaysWithin (KeepsSource source) (deleteSource name) :=
  Call.keepsSource (.deleteSource name) (List.forall_mem_nil _) fun table =>
    table.rowsOf_erase_of_ne hne

theorem replaceSource_keepsSource {name : String} {ds : List Draft} (hne : source ≠ name)
    (hds : ∀ d ∈ ds, d.source = name) : StaysWithin (KeepsSource source) (replaceSource name ds) :=
  Call.keepsSource (.replaceSource name ds) (fun d hd h => hne (h.symm.trans (hds d hd)))
    fun table => table.rowsOf_erase_of_ne hne

theorem rewrite_keepsSource {name : String} {ds : List Draft} (hne : source ≠ name)
    (hds : ∀ d ∈ ds, d.source = name) : StaysWithin (KeepsSource source) (rewrite name ds) := by
  have hother : ∀ d ∈ ds, d.source ≠ source := fun d hd h => hne (h.symm.trans (hds d hd))
  exact (deleteSource_keepsSource hne).bind fun n =>
    (writeBatch_keepsSource hother).bind fun _ => staysWithin_pure n

end

/-- A batch is stored if its chunks, written one after the other, all are, and leaves the store as
they do. Chunks in place of their source are stored if a batch of them is behind its deletion, which
leaves the same table and deletes as many. Whether it succeeds or fails, none of this touches the
rows of a source that is not named. -/
theorem batch_is_writes (s : Store) (ds : List Draft) :
    (∀ t, (writeBatch ds).perform s = (.ok (), t) ↔
      ∃ ids, (ds.mapM write).perform s = (.ok ids, t)) ∧
    (∀ source, (∀ d ∈ ds, d.source = source) → ∀ deleted medium,
      (∃ t, (replaceSource source ds).perform s = (.ok deleted, t) ∧ t.medium = medium) ↔
        ∃ t, (rewrite source ds).perform s = (.ok deleted, t) ∧ t.medium = medium) ∧
    (∀ other, (∀ d ∈ ds, d.source ≠ other) →
      KeepsSource other s ((writeBatch ds).perform s).2 ∧
      KeepsSource other s ((ds.mapM write).perform s).2) ∧
    ∀ source other, (∀ d ∈ ds, d.source = source) → other ≠ source →
      KeepsSource other s ((replaceSource source ds).perform s).2 ∧
        KeepsSource other s ((rewrite source ds).perform s).2 := by
  refine ⟨fun t => writeBatch_iff_writes, ?_, ?_, ?_⟩
  · intro source hds deleted medium
    exact replaceSource_iff_rewrite hds medium
  · intro other hds
    refine ⟨writeBatch_keepsSource hds s, ?_⟩
    exact staysWithin_mapM (fun d hd => write_keepsSource (hds d hd)) s
  · intro source other hds hne
    exact ⟨replaceSource_keepsSource hne hds s, rewrite_keepsSource hne hds s⟩

private def pantry : Store :=
  ((write (.daily "a" "A" [.int 1] 0)).perform ⟨"memory.db", 1, false, false, .blank, .noon, []⟩).2

theorem batch_is_writes_of_pantry :
    let ds : List Draft := [.daily "b" "A" [.int 1] 0, .daily "c" "A" [.int 1] 1]
    (¬∃ ids t, (ds.mapM write).perform pantry = (.ok ids, t)) ∧
      (∀ d ∈ ds, d.source = "A") ∧ "B" ≠ "A" ∧
      (∃ t, (rewrite "A" ds).perform pantry = (.ok 1, t)) ∧
      KeepsSource "B" pantry ((replaceSource "A" ds).perform pantry).2 := by
  intro ds
  have hsource : ∀ d ∈ ds, d.source = "A" := by simp [ds, Draft.daily]
  obtain ⟨hbatch, hreplace, -, hother⟩ := batch_is_writes pantry ds
  refine ⟨?_, hsource, by decide, ?_, (hother "A" "B" hsource (by decide)).1⟩
  · rintro ⟨ids, t, hwrites⟩
    have hstored := (hbatch t).mpr ⟨ids, hwrites⟩
    have hfails : ((writeBatch ds).perform pantry).1.isOk = false := by decide +kernel
    rw [hstored] at hfails
    cases hfails
  · have hcount : ((replaceSource "A" ds).perform pantry).1.toOption = some 1 := by decide +kernel
    obtain ⟨n, hn⟩ :=
      exists_of_isOk (r := ((replaceSource "A" ds).perform pantry).1) (by decide +kernel)
    have hone : n = 1 := by simpa [hn, Except.toOption] using hcount
    subst hone
    obtain ⟨t, ht, -⟩ := (hreplace "A" hsource 1 _).mp ⟨_, Prod.ext hn rfl, rfl⟩
    exact ⟨t, ht⟩

end TextMemory.Store
