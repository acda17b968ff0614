import TextMemory.Proofs.Action
import TextMemory.Proofs.Store.Table
import TextMemory.Proofs.Store.Transaction

/-!
# Operations of a store

An operation that fails leaves the store at rest: what lay at its path lies there still, or has only
been opened, and opening changes no table. An operation that succeeds leaves the table without what
it erased and with its chunks behind all others. The reads leave the store at rest in any case.
-/
namespace TextMemory

namespace Medium

def database? : Medium → Option Database
  | database db => some db
  | _ => none

def table (m : Medium) : Table := (m.database?.map Database.table).getD Table.empty

def opened (dimensions : Int) : Medium → Medium
  | blank => database ⟨dimensions, Table.empty⟩
  | blocked _ later => refused later
  | m => m

theorem setUp_runs (path : String) (n : Int) :
    Connection.Runs (Database.setUp path n) fun found =>
      if (found.getD ⟨n, Table.empty⟩).dimensions = n then
        .ok ((), some (found.getD ⟨n, Table.empty⟩))
      else .error (.mismatch s!"configuration for database {path}"
        (found.getD ⟨n, Table.empty⟩).dimensions n) := by
  have hcheck (recorded : Int) : Connection.Runs
      (if recorded ≠ n then
        throw (.mismatch s!"configuration for database {path}" recorded n) else pure ())
      fun found : Option Database => if recorded = n then .ok ((), found)
        else .error (.mismatch s!"configuration for database {path}" recorded n) := by
    by_cases hn : recorded = n
    · simpa [hn] using Connection.runs_pure ()
    · simpa [hn] using Connection.runs_throw _
  exact (Connection.runs_statement _).bind hcheck

@[simp] theorem establish_blank (path : String) (n : Int) :
    blank.establish path n = (.ok (), database ⟨n, Table.empty⟩) := by
  rw [establish, setUp, Connection.transaction_perform (setUp_runs path n)]
  simp [Action.after, Except.map]

@[simp] theorem establish_database (path : String) (n : Int) (db : Database) :
    (database db).establish path n =
      (if db.dimensions = n then .ok ()
        else .error (.mismatch s!"configuration for database {path}" db.dimensions n),
        database db) := by
  rw [establish, setUp, Connection.transaction_perform (setUp_runs path n)]
  by_cases hn : db.dimensions = n
  · simp [Action.after, Except.map, hn]
  · simp [Action.after, Except.map, hn]

theorem establish_snd (path : String) (n : Int) (m : Medium) :
    (m.establish path n).2 = m.opened n := by
  cases m with
  | blank => rw [establish_blank]; rfl
  | database db => rw [establish_database]; rfl
  | blocked | refused | fleeting => rfl

@[simp] theorem table_database (db : Database) : (database db).table = db.table := rfl

@[simp] theorem opened_opened (m : Medium) (n k : Int) : (m.opened n).opened k = m.opened n := by
  cases m <;> rfl

@[simp] theorem table_opened (m : Medium) (n : Int) : (m.opened n).table = m.table := by
  cases m <;> rfl

end Medium

/-- A database that was there is still there, with its rows, its greatest id and its dimensions.
Where there was none there is none yet, or one without rows. -/
def Database.Kept (before after : Option Database) : Prop :=
  after = before ∨ (before = none ∧ ∃ n, after = some ⟨n, Table.empty⟩)

theorem Medium.kept_opened (m : Medium) (n : Int) :
    Database.Kept m.database? (m.opened n).database? := by
  cases m with
  | blank => exact .inr ⟨rfl, n, rfl⟩
  | database db => exact .inl rfl
  | blocked first later => exact .inl rfl
  | refused f => exact .inl rfl
  | fleeting => exact .inl rfl

namespace Store

open TextMemory.Action

structure Rests (s t : Store) : Prop where
  path : t.path = s.path
  dimensions : t.dimensions = s.dimensions
  clock : t.clock = s.clock
  medium : t.medium = s.medium ∨ t.medium = s.medium.opened s.dimensions

instance : IsPreorder Store Rests where
  refl s := ⟨rfl, rfl, rfl, .inl rfl⟩
  trans s t u h k := by
    refine ⟨k.path.trans h.path, k.dimensions.trans h.dimensions, k.clock.trans h.clock, ?_⟩
    have hk := k.medium
    rw [h.dimensions] at hk
    rcases h.medium with hm | hm <;> rcases hk with hu | hu <;> simp [hm, hu]

theorem Rests.table {s t : Store} (h : Rests s t) : t.medium.table = s.medium.table := by
  rcases h.medium with hm | hm
  · rw [hm]
  · rw [hm, Medium.table_opened]

theorem Rests.kept {s t : Store} (h : Rests s t) :
    Database.Kept s.medium.database? t.medium.database? := by
  rcases h.medium with hm | hm
  · exact .inl (congrArg Medium.database? hm)
  · rw [hm]
    exact Medium.kept_opened _ _

abbrev Reads {α : Type} (a : Action Store α) : Prop := StaysWithin Rests a

theorem note_perform (level : LogLevel) (source message : String) (s : Store) :
    (note level source message).perform s =
      (.ok (), { s with log := s.log ++ [⟨level, source, message⟩] }) := rfl

theorem note_reads (level : LogLevel) (source message : String) :
    Reads (note level source message) :=
  staysWithin_modify fun _ => ⟨rfl, rfl, rfl, .inl rfl⟩

theorem tell_reads (message : String) : Reads (tell message) :=
  note_reads .info "agentmemory.store" message

theorem note_neverFails (level : LogLevel) (source message : String) :
    NeverFails (note level source message) := neverFails_modify _

theorem tell_neverFails (message : String) : NeverFails (tell message) :=
  note_neverFails .info "agentmemory.store" message

theorem establish_perform (n : Int) (s : Store) :
    (establish n).perform s = ((s.medium.establish s.path n).1,
      { s with tried := true, medium := s.medium.opened n }) := by
  rw [establish, perform_get_bind, perform_set_bind, perform_ofExcept, Medium.establish_snd]

theorem ensureOpen_reads : Reads ensureOpen := by
  intro s
  rw [ensureOpen, perform_get_bind]
  split
  · exact refl_of Rests s
  · rw [perform_bind, establish_perform]
    cases (s.medium.establish s.path s.dimensions).1 with
    | ok u => exact ⟨rfl, rfl, rfl, .inr rfl⟩
    | error f => exact ⟨rfl, rfl, rfl, .inr rfl⟩

theorem connect_staysWithin {R : Store → Store → Prop} [IsPreorder Store R]
    (hopen : StaysWithin R ensureOpen) : StaysWithin R connect := by
  refine hopen.bind fun _ => staysWithin_get.bind fun t => ?_
  cases t.medium with
  | database db => exact staysWithin_pure db
  | blocked first later => exact staysWithin_throw first
  | refused f => exact staysWithin_throw f
  | blank => exact staysWithin_throw .noTable
  | fleeting => exact staysWithin_throw .noTable

theorem connect_reads : Reads connect := connect_staysWithin ensureOpen_reads

theorem connect_ok {s t : Store} {db : Database} (h : connect.perform s = (.ok db, t)) :
    t.medium = .database db := by
  obtain ⟨_, u, _, hu⟩ := perform_bind_ok.mp h
  rw [perform_get_bind] at hu
  cases hm : u.medium with
  | database d =>
    simp only [hm, perform_pure] at hu
    cases hu
    exact hm
  | blocked | refused | blank | fleeting => simp [hm] at hu

theorem connect_of_opened {s : Store} {db : Database} (hs : s.opened = true)
    (hm : s.medium = .database db) : connect.perform s = (.ok db, s) := by
  have hopen : ensureOpen.perform s = (.ok (), s) := by
    rw [ensureOpen, perform_get_bind, if_pos hs]
    rfl
  refine perform_bind_ok.mpr ⟨(), s, hopen, ?_⟩
  simp only [perform_get_bind, hm]
  rfl

theorem connect_table {s t : Store} {db : Database} (h : connect.perform s = (.ok db, t)) :
    db.table = s.medium.table := by
  rw [← (connect_reads.of_perform h).table, connect_ok h, Medium.table_database]

/-- One change of the table, whole or not at all. -/
def amend {α : Type} (f : Table → Except Fault (α × Table)) : Action Store α := do
  let db ← connect
  let (a, table) ← Action.ofExcept (f db.table)
  modify fun s => { s with medium := .database { db with table := table } }
  return a

theorem transact_eq_amend {α : Type} {block : Action (Connection Table) α}
    {f : Table → Except Fault (α × Table)} (h : Connection.Runs block f) :
    transact block = amend f := by
  funext s
  change (transact block).perform s = (amend f).perform s
  rw [transact, amend, perform_bind, perform_bind]
  cases hconnect : connect.perform s with
  | mk answer t =>
    cases answer with
    | error e => rfl
    | ok db =>
      have hmedium := connect_ok hconnect
      dsimp only
      rw [Connection.transaction_perform h, after]
      cases f db.table with
      | ok p => rfl
      | error e =>
        have hsame : { t with medium := .database { db with table := db.table } } = t := by
          rw [← hmedium]
        exact Prod.ext rfl hsame

theorem runs_insertion (p : Draft × String × String) :
    Connection.Runs (insertion p) fun t => (insertDraft t p).map fun t => ((), t) :=
  Connection.runs_statement _

theorem runs_erasure (source : String) : Connection.Runs (erasure source) fun t =>
    .ok ((t.rowsOf source).length, t.erase source) :=
  Connection.runs_statement _

theorem write_eq (d : Draft) : write d = (do
    let s ← get
    let p ← Action.ofExcept (prepare s.dimensions s.clock d)
    amend fun t => do
      let t ← insertDraft t p
      return (t.lastId, t)) := by
  have hblock (p : Draft × String × String) : Connection.Runs
      (do insertion p; return (← get).current.lastId)
      fun t => do let t ← insertDraft t p; return (t.lastId, t) := by
    refine ((runs_insertion p).bind fun _ => Connection.runs_current Table.lastId).congr fun t => ?_
    cases insertDraft t p <;> rfl
  simp only [write, fun p => transact_eq_amend (hblock p)]

theorem writeBatch_eq (ds : List Draft) : writeBatch ds = (do
    if ds.isEmpty then return
    let ps ← prepareAll ds
    amend fun t => do
      let t ← ps.foldlM insertDraft t
      return ((), t)) := by
  have hblock (ps : List (Draft × String × String)) : Connection.Runs (ps.forM insertion)
      fun t => do let t ← ps.foldlM insertDraft t; return ((), t) := by
    refine (Connection.runs_forM runs_insertion ps).congr fun t => ?_
    cases ps.foldlM insertDraft t <;> rfl
  simp only [writeBatch, fun ps => transact_eq_amend (hblock ps)]

theorem deleteSource_eq (source : String) : deleteSource source = (do
    let deleted ← amend fun t => .ok ((t.rowsOf source).length, t.erase source)
    tell s!"Deleted {deleted} chunks for source: {source}"
    return deleted) := by
  rw [deleteSource, transact_eq_amend (runs_erasure source)]

theorem replaceSource_eq (source : String) (ds : List Draft) : replaceSource source ds = (do
    match ds.find? fun d => d.source != source with
    | some d => throw (.foreignChunk d.source source)
    | none => pure ()
    let ps ← prepareAll ds
    let deleted ← amend fun t => do
      let t' ← ps.foldlM insertDraft (t.erase source)
      return ((t.rowsOf source).length, t')
    tell s!"Replaced source {source}: {deleted} chunks deleted, {ps.length} written"
    return deleted) := by
  have hblock (ps : List (Draft × String × String)) : Connection.Runs
      (do let deleted ← erasure source; ps.forM insertion; return deleted)
      fun t => do
        let t' ← ps.foldlM insertDraft (t.erase source)
        return ((t.rowsOf source).length, t') := by
    refine ((runs_erasure source).bind fun deleted =>
      (Connection.runs_forM runs_insertion ps).bind fun _ => Connection.runs_pure deleted).congr ?_
    intro t
    cases hps : ps.foldlM insertDraft (t.erase source) <;> simp [Except.bind, Except.map, hps]
  rw [replaceSource]
  cases ds.find? fun d => d.source != source with
  | some d => rfl
  | none => simp only [fun ps => transact_eq_amend (hblock ps)]

theorem amend_failsWithin {α : Type} (f : Table → Except Fault (α × Table)) :
    FailsWithin Rests (amend f) := by
  refine connect_reads.failsWithin_bind fun db => ?_
  refine (staysWithin_ofExcept _).failsWithin_bind fun p => NeverFails.failsWithin ?_
  exact (neverFails_modify _).bind fun _ => neverFails_pure p.1

theorem amend_ok {α : Type} {f : Table → Except Fault (α × Table)} {s t : Store} {a : α}
    (h : (amend f).perform s = (.ok a, t)) : f s.medium.table = .ok (a, t.medium.table) := by
  obtain ⟨db, u, hu, h⟩ := perform_bind_ok.mp h
  obtain ⟨p, v, hv, h⟩ := perform_bind_ok.mp h
  rw [perform_ofExcept] at hv
  rw [← connect_table hu, (Prod.mk.inj hv).1]
  cases h
  rfl

theorem prepareAll_reads (ds : List Draft) : Reads (prepareAll ds) :=
  staysWithin_get.bind fun _ => staysWithin_ofExcept _

theorem prepareAll_perform (ds : List Draft) (s : Store) :
    (prepareAll ds).perform s = (ds.mapM (prepare s.dimensions s.clock), s) := by
  rw [prepareAll, perform_get_bind, perform_ofExcept]

theorem prepare_ok {n : Int} {now : Timestamp} {d : Draft} {p : Draft × String × String}
    (h : prepare n now d = .ok p) :
    d.content ≠ "" ∧ ∃ v, Embedding.floats d.embedding = .ok v ∧
      p = (d, (d.indexedAt.getD now).text, Embedding.write v) := by
  unfold prepare at h
  by_cases hd : d.content.isEmpty
  · rw [if_pos hd] at h
    cases h
  · simp only [hd, Bool.false_eq_true, if_false, Result.bind_eq_ok, Result.pure_eq_ok] at h
    obtain ⟨_, -, v, hv, rfl⟩ := h
    exact ⟨fun he => hd (by simp [he]), v, hv, rfl⟩

structure Keeps (d : Draft) (r : Record) : Prop where
  content : r.content = d.content
  source : r.source = d.source
  kind : Cell.text 3 d.kind = .ok r.kind
  title : Cell.text 4 d.title = .ok r.title
  index : Cell.integer 5 d.index = .ok (some r.index)
  overlap : Cell.integer 6 d.overlap = .ok (some r.overlap)
  time : ∀ now, d.indexedAt = some now → r.indexedAt = now.text
  embedding : ∃ v, Embedding.floats d.embedding = .ok v ∧ r.embedding = Embedding.write v

theorem keeps_of_bind {n : Int} {now : Timestamp} {d : Draft} {p : Draft × String × String}
    {r : Record} (hp : prepare n now d = .ok p) (hr : Store.bind p = .ok r) : Keeps d r := by
  obtain ⟨-, v, hv, rfl⟩ := prepare_ok hp
  obtain ⟨index, overlap, hindex, hoverlap, kind, title, hkind, htitle, rfl⟩ := bind_ok hr
  refine ⟨rfl, rfl, hkind, htitle, hindex, hoverlap, ?_, v, hv, rfl⟩
  intro time htime
  simp [htime]

/-- The table of `t` is that of `s` without what `remaining` takes and with the chunks behind all
others; all of them have passed the checks of `s`. -/
def Stored (remaining : Table → Table) (ds : List Draft) (s t : Store) : Prop :=
  ∃ ps, ds.mapM (prepare s.dimensions s.clock) = .ok ps ∧
    ps.foldlM insertDraft (remaining s.medium.table) = .ok t.medium.table

theorem Rests.stored {s t : Store} (h : Rests s t) : Stored id [] s t :=
  ⟨[], rfl, by rw [List.foldlM_nil, Result.pure_eq_ok, h.table, id]⟩

theorem Stored.between {remaining : Table → Table} {ds : List Draft} {s s' t t' : Store}
    (h : Stored remaining ds s' t) (hs : Rests s s') (ht : Rests t t') :
    Stored remaining ds s t' := by
  obtain ⟨ps, hps, h⟩ := h
  rw [hs.dimensions, hs.clock] at hps
  rw [hs.table] at h
  exact ⟨ps, hps, ht.table ▸ h⟩

theorem Stored.rows {remaining : Table → Table} {ds : List Draft} {s t : Store}
    (h : Stored remaining ds s t) :
    ∃ rs, List.Forall₂ Keeps ds rs ∧
      t.medium.table.rows = (remaining s.medium.table).rows ++
        Row.number ((remaining s.medium.table).lastId + 1) rs ∧
      t.medium.table.lastId = (remaining s.medium.table).lastId + rs.length := by
  obtain ⟨ps, hps, h⟩ := h
  obtain ⟨rs, hrs, hrows, hlast⟩ := insertDrafts_rows h
  refine ⟨rs, ?_, hrows, hlast⟩
  refine Result.forall₂_comp ?_ (Result.mapM_eq_ok.mp hps) hrs
  intro d p r hp hr
  exact keeps_of_bind hp hr

theorem Stored.rowsOf_source {source : String} {ds : List Draft} {s t : Store}
    (h : Stored (fun u => u.erase source) ds s t) (hds : ∀ d ∈ ds, d.source = source) :
    ∃ rs, List.Forall₂ Keeps ds rs ∧
      t.medium.table.rowsOf source = Row.number (s.medium.table.lastId + 1) rs := by
  obtain ⟨rs, hrs, hrows, -⟩ := h.rows
  refine ⟨rs, hrs, ?_⟩
  have hold : (s.medium.table.erase source).rowsOf source = [] := Table.rowsOf_erase_self _ _
  rw [Table.rowsOf] at hold ⊢
  rw [hrows, List.filter_append, hold, List.nil_append]
  apply List.filter_eq_self.mpr
  intro r hr
  obtain ⟨d, hd, hk⟩ := Result.exists_of_mem_right hrs (Row.record_of_mem_number hr)
  exact beq_iff_eq.mpr (hk.source.trans (hds d hd))

theorem Stored.rowsOf_apart {remaining : Table → Table} {other : String} {ds : List Draft}
    {s t : Store} (h : Stored remaining ds s t) (hds : ∀ d ∈ ds, d.source ≠ other) :
    t.medium.table.rowsOf other = (remaining s.medium.table).rowsOf other := by
  obtain ⟨rs, hrs, hrows, -⟩ := h.rows
  have hnew : (Row.number ((remaining s.medium.table).lastId + 1) rs).filter
      (fun r => r.source == other) = [] := by
    apply List.filter_eq_nil_iff.mpr
    intro r hr
    obtain ⟨d, hd, hk⟩ := Result.exists_of_mem_right hrs (Row.record_of_mem_number hr)
    have hsource : r.source = d.source := hk.source
    simp [hsource, hds d hd]
  rw [Table.rowsOf, Table.rowsOf, hrows, List.filter_append, hnew, List.append_nil]

theorem Stored.rowsOf_other {source other : String} {ds : List Draft} {s t : Store}
    (h : Stored (fun u => u.erase source) ds s t) (hds : ∀ d ∈ ds, d.source = source)
    (hne : other ≠ source) : t.medium.table.rowsOf other = s.medium.table.rowsOf other := by
  rw [h.rowsOf_apart fun d hd => hds d hd ▸ hne.symm]
  exact Table.rowsOf_erase_of_ne s.medium.table hne

theorem Stored.sound {remaining : Table → Table} {ds : List Draft} {s t : Store}
    (h : Stored remaining ds s t) (hs : (remaining s.medium.table).Sound) :
    t.medium.table.Sound := by
  obtain ⟨ps, hps, h⟩ := h
  refine insertDrafts_sound hs ?_ h
  intro p hp
  obtain ⟨d, -, hd⟩ := Result.exists_of_mem_right (Result.mapM_eq_ok.mp hps) hp
  obtain ⟨hc, v, -, rfl⟩ := prepare_ok hd
  exact hc

theorem Stored.bounded {remaining : Table → Table} {ds : List Draft} {s t : Store}
    (h : Stored remaining ds s t) (hs : (remaining s.medium.table).Bounded) :
    t.medium.table.Bounded := by
  obtain ⟨ps, -, h⟩ := h
  exact insertDrafts_bounded hs h

theorem write_failsWithin (d : Draft) : FailsWithin Rests (write d) := by
  rw [write_eq]
  exact staysWithin_get.failsWithin_bind fun _ =>
    (staysWithin_ofExcept _).failsWithin_bind fun _ => amend_failsWithin _

theorem write_stored {d : Draft} {s t : Store} {n : Int}
    (h : (write d).perform s = (.ok n, t)) : Stored id [d] s t := by
  rw [write_eq, perform_get_bind] at h
  obtain ⟨p, u, hp, h⟩ := perform_bind_ok.mp h
  rw [perform_ofExcept] at hp
  obtain ⟨hps, rfl⟩ := Prod.mk.inj hp
  obtain ⟨v, hv, h⟩ := Result.bind_eq_ok.mp (amend_ok h)
  cases h
  refine ⟨[p], Result.mapM_eq_ok.mpr (.cons hps .nil), ?_⟩
  rw [List.foldlM_cons, id, hv]
  rfl

theorem writeBatch_failsWithin (ds : List Draft) : FailsWithin Rests (writeBatch ds) := by
  rw [writeBatch_eq]
  split
  · exact (staysWithin_pure ()).failsWithin
  · exact (prepareAll_reads ds).failsWithin_bind fun ps => amend_failsWithin _

theorem writeBatch_stored {ds : List Draft} {s t : Store} {u : Unit}
    (h : (writeBatch ds).perform s = (.ok u, t)) : Stored id ds s t := by
  rw [writeBatch_eq] at h
  split at h
  · rename_i hds
    cases h
    rw [List.isEmpty_iff.mp hds]
    exact (refl_of Rests s).stored
  · obtain ⟨ps, v, hp, h⟩ := perform_bind_ok.mp h
    rw [prepareAll_perform] at hp
    obtain ⟨hps, rfl⟩ := Prod.mk.inj hp
    obtain ⟨w, hw, h⟩ := Result.bind_eq_ok.mp (amend_ok h)
    cases h
    exact ⟨ps, hps, hw⟩

theorem deleteSource_failsWithin (source : String) : FailsWithin Rests (deleteSource source) := by
  rw [deleteSource_eq]
  exact (amend_failsWithin _).bind_neverFails fun n => (tell_neverFails _).bind fun _ =>
    neverFails_pure n

theorem deleteSource_stored {source : String} {s t : Store} {n : Nat}
    (h : (deleteSource source).perform s = (.ok n, t)) :
    Stored (fun u => u.erase source) [] s t := by
  rw [deleteSource_eq] at h
  obtain ⟨k, u, hu, h⟩ := perform_bind_ok.mp h
  obtain ⟨_, v, hv, h⟩ := perform_bind_ok.mp h
  cases h
  refine ⟨[], rfl, ?_⟩
  rw [List.foldlM_nil, ((tell_reads _).of_perform hv).table, Result.pure_eq_ok]
  exact (Prod.mk.inj (Except.ok.inj (amend_ok hu))).2

theorem replaceSource_failsWithin (source : String) (ds : List Draft) :
    FailsWithin Rests (replaceSource source ds) := by
  rw [replaceSource_eq]
  split
  · exact (staysWithin_throw _).failsWithin
  · refine (prepareAll_reads ds).failsWithin_bind fun ps => ?_
    exact (amend_failsWithin _).bind_neverFails fun n => (tell_neverFails _).bind fun _ =>
      neverFails_pure n

theorem replaceSource_stored {source : String} {ds : List Draft} {s t : Store} {n : Nat}
    (h : (replaceSource source ds).perform s = (.ok n, t)) :
    (∀ d ∈ ds, d.source = source) ∧ Stored (fun u => u.erase source) ds s t := by
  rw [replaceSource_eq] at h
  split at h
  · cases h
  · rename_i hds
    refine ⟨fun d hd => by simpa using List.find?_eq_none.mp hds d hd, ?_⟩
    obtain ⟨ps, u, hp, h⟩ := perform_bind_ok.mp h
    rw [prepareAll_perform] at hp
    obtain ⟨hps, rfl⟩ := Prod.mk.inj hp
    obtain ⟨k, v, hv, h⟩ := perform_bind_ok.mp h
    obtain ⟨_, w, hw, h⟩ := perform_bind_ok.mp h
    cases h
    obtain ⟨x, hx, hv⟩ := Result.bind_eq_ok.mp (amend_ok hv)
    obtain ⟨-, rfl⟩ := Prod.mk.inj (Result.pure_eq_ok.mp hv)
    refine ⟨ps, hps, ?_⟩
    rw [((tell_reads _).of_perform hw).table]
    exact hx

theorem getSource_reads (source : String) : Reads (getSource source) :=
  connect_reads.bind fun _ => staysWithin_ofExcept _

theorem getSource_perform {s t : Store} {db : Database} (hconnect : connect.perform s = (.ok db, t))
    (source : String) :
      (getSource source).perform s = ((db.table.bySource source).mapM chunkOf, t) := by
  rw [getSource, perform_bind, hconnect]
  exact perform_ofExcept _ _

def Readable (r : Row) : Prop := ∃ c, chunkOf r = .ok c

theorem mapM_bySource {t : Table} {source : String} (h : ∀ r ∈ t.rowsOf source, Readable r) :
    ∃ cs, (t.bySource source).mapM chunkOf = .ok cs ∧ cs.length = (t.rowsOf source).length := by
  have hsource : ∀ r ∈ t.bySource source, Readable r := fun r hr => h r (List.mem_mergeSort.mp hr)
  obtain ⟨cs, hcs⟩ := Result.exists_forall₂ hsource
  refine ⟨cs, Result.mapM_eq_ok.mpr hcs, ?_⟩
  rw [← hcs.length_eq, Table.bySource, List.length_mergeSort]

theorem getSource_ok {source : String} {s t : Store} {cs : List Chunk}
    (h : (getSource source).perform s = (.ok cs, t)) :
    (s.medium.table.bySource source).mapM chunkOf = .ok cs := by
  obtain ⟨db, u, hu, h⟩ := perform_bind_ok.mp h
  rw [perform_ofExcept, connect_table hu] at h
  exact (Prod.mk.inj h).1

theorem keywordSearch_reads (query : String) (limit : Int) :
    Reads (keywordSearch query limit) := by
  dsimp only [keywordSearch]
  split
  · exact staysWithin_pure []
  · refine connect_reads.bind fun db => (staysWithin_ofExcept _).bind fun n => ?_
    split
    · exact staysWithin_throw .patternTooLong
    · exact staysWithin_pure _

theorem stats_reads : Reads stats := connect_reads.bind fun _ => staysWithin_pure _

theorem sources_reads : Reads sources := connect_reads.bind fun _ => staysWithin_pure _

variable [Numerics]

theorem vectorSearch_reads (query : List Number) (limit : Int) :
    Reads (vectorSearch query limit) := by
  refine staysWithin_get.bind fun s => (staysWithin_ofExcept _).bind fun _ => ?_
  split
  · exact staysWithin_pure []
  · refine connect_reads.bind fun db => ?_
    split
    · exact staysWithin_pure []
    · exact (staysWithin_ofExcept _).bind fun found => staysWithin_pure _

inductive Call
  | ensureOpen
  | write (d : Draft)
  | writeBatch (ds : List Draft)
  | deleteSource (source : String)
  | replaceSource (source : String) (ds : List Draft)
  | getSource (source : String)
  | vectorSearch (query : List Number) (limit : Int)
  | keywordSearch (query : String) (limit : Int)
  | stats
  | sources

namespace Call

abbrev Reply : Call → Type
  | ensureOpen | writeBatch _ => Unit
  | write _ => Int
  | deleteSource _ | replaceSource _ _ => Nat
  | getSource _ => List Chunk
  | vectorSearch _ _ | keywordSearch _ _ => List Hit
  | stats => Stats
  | sources => List SourceInfo

def action : (c : Call) → Action Store c.Reply
  | ensureOpen => Store.ensureOpen
  | write d => Store.write d
  | writeBatch ds => Store.writeBatch ds
  | deleteSource source => Store.deleteSource source
  | replaceSource source ds => Store.replaceSource source ds
  | getSource source => Store.getSource source
  | vectorSearch query limit => Store.vectorSearch query limit
  | keywordSearch query limit => Store.keywordSearch query limit
  | stats => Store.stats
  | sources => Store.sources

def drafts : Call → List Draft
  | write d => [d]
  | writeBatch ds | replaceSource _ ds => ds
  | _ => []

def remaining : Call → Table → Table
  | deleteSource source, t | replaceSource source _, t => t.erase source
  | _, t => t

theorem failsWithin (c : Call) : FailsWithin Rests c.action := by
  cases c with
  | ensureOpen => exact ensureOpen_reads.failsWithin
  | write d => exact write_failsWithin d
  | writeBatch ds => exact writeBatch_failsWithin ds
  | deleteSource source => exact deleteSource_failsWithin source
  | replaceSource source ds => exact replaceSource_failsWithin source ds
  | getSource source => exact (getSource_reads source).failsWithin
  | vectorSearch query limit => exact (vectorSearch_reads query limit).failsWithin
  | keywordSearch query limit => exact (keywordSearch_reads query limit).failsWithin
  | stats => exact stats_reads.failsWithin
  | sources => exact sources_reads.failsWithin

theorem stored (c : Call) {s t : Store} {r : c.Reply} (h : c.action.perform s = (.ok r, t)) :
    Stored c.remaining c.drafts s t := by
  cases c with
  | ensureOpen => exact (ensureOpen_reads.of_perform h).stored
  | write d => exact write_stored h
  | writeBatch ds => exact writeBatch_stored h
  | deleteSource source => exact deleteSource_stored h
  | replaceSource source ds => exact (replaceSource_stored h).2
  | getSource source => exact ((getSource_reads source).of_perform h).stored
  | vectorSearch query limit => exact ((vectorSearch_reads query limit).of_perform h).stored
  | keywordSearch query limit => exact ((keywordSearch_reads query limit).of_perform h).stored
  | stats => exact (stats_reads.of_perform h).stored
  | sources => exact (sources_reads.of_perform h).stored

end Call
end Store
end TextMemory
