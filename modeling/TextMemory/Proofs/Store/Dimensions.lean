import TextMemory.Proofs.Store.Embedding
import TextMemory.Proofs.Store.Grid
import TextMemory.Proofs.Store.History

/-!
# The dimensions of a database

A database has the dimensions of the store that was the first to open it, whatever stores come
later. A store of other dimensions fails at every operation that comes to the database, and what
checks come before leave the store as it is. So the embeddings of all rows are vectors of one
length, and a search with a vector of this length finds them to be a grid.
-/
namespace TextMemory

def Medium.dimensions? (m : Medium) : Option Int := m.database?.map Database.dimensions

theorem Medium.opened_ne_fleeting {m : Medium} (dimensions : Int) (h : m ≠ .fleeting) :
    m.opened dimensions ≠ .fleeting := by
  cases m with
  | fleeting => exact absurd rfl h
  | blank | database | blocked | refused =>
    intro hm
    cases hm

namespace Store

open TextMemory.Action

section

variable {R : Store → Store → Prop} [IsPreorder Store R]

theorem Call.staysWithin [Numerics] (c : Call) (hopen : StaysWithin R Store.ensureOpen)
    (htell : ∀ message, StaysWithin R (tell message))
    (hchange : ∀ {α : Type} (f : Table → Except Fault (α × Table)), StaysWithin R (amend f)) :
    StaysWithin R c.action := by
  have hconnect := connect_staysWithin hopen
  have hprepare : ∀ ds, StaysWithin R (prepareAll ds) := fun ds =>
    staysWithin_get.bind fun _ => staysWithin_ofExcept _
  cases c with
  | ensureOpen => exact hopen
  | write d =>
    rw [Call.action, write_eq]
    exact staysWithin_get.bind fun _ => (staysWithin_ofExcept _).bind fun _ => hchange _
  | writeBatch ds =>
    rw [Call.action, writeBatch_eq]
    split
    · exact staysWithin_pure ()
    · exact (hprepare ds).bind fun _ => hchange _
  | deleteSource source =>
    rw [Call.action, deleteSource_eq]
    exact (hchange _).bind fun n => (htell _).bind fun _ => staysWithin_pure n
  | replaceSource source ds =>
    rw [Call.action, replaceSource_eq]
    split
    · exact staysWithin_throw _
    · refine (hprepare ds).bind fun _ => ?_
      exact (hchange _).bind fun n => (htell _).bind fun _ => staysWithin_pure n
  | getSource source => exact hconnect.bind fun _ => staysWithin_ofExcept _
  | vectorSearch query limit =>
    refine staysWithin_get.bind fun s => (staysWithin_ofExcept _).bind fun _ => ?_
    split
    · exact staysWithin_pure []
    · refine hconnect.bind fun db => ?_
      split
      · exact staysWithin_pure []
      · exact (staysWithin_ofExcept _).bind fun found => staysWithin_pure _
  | keywordSearch query limit =>
    change StaysWithin R (Store.keywordSearch query limit)
    dsimp only [Store.keywordSearch]
    split
    · exact staysWithin_pure []
    · refine hconnect.bind fun db => (staysWithin_ofExcept _).bind fun n => ?_
      split
      · exact staysWithin_throw .patternTooLong
      · exact staysWithin_pure _
  | stats => exact hconnect.bind fun _ => staysWithin_pure _
  | sources => exact hconnect.bind fun _ => staysWithin_pure _

end

def opening (s t : Store) : Option Int := if !s.opened && t.opened then some t.dimensions else none

structure Fits (s : Store) : Prop where
  lasting : s.medium ≠ .fleeting
  opened : s.opened = true → s.medium.dimensions? = some s.dimensions

structure Settles (s t : Store) : Prop where
  dimensions : t.dimensions = s.dimensions
  opened : s.opened = true → t.opened = true
  fits : s.Fits → t.Fits
  recorded : s.Fits → t.medium.dimensions? = s.medium.dimensions?.or (s.opening t)

instance : IsPreorder Store Settles where
  refl s := by
    refine ⟨rfl, id, id, fun _ => ?_⟩
    cases hs : s.opened <;> simp [opening, hs]
  trans s t u h k := by
    refine ⟨k.dimensions.trans h.dimensions, k.opened ∘ h.opened, k.fits ∘ h.fits, fun hs => ?_⟩
    rw [k.recorded (h.fits hs), h.recorded hs, Option.or_assoc]
    congr 1
    -- a store opens once at most, so only one of the two openings tells dimensions
    have hst := h.opened
    have htu := k.opened
    unfold opening
    rw [k.dimensions]
    cases hs : s.opened <;> cases ht : t.opened <;> cases hu : u.opened <;> simp_all

abbrev SettlesAll {α : Type} (a : Action Store α) : Prop := StaysWithin Settles a

theorem note_settles (level : LogLevel) (source message : String) :
    SettlesAll (note level source message) := by
  refine staysWithin_modify fun s => ⟨rfl, id, fun h => ⟨h.lasting, h.opened⟩, fun _ => ?_⟩
  cases hs : s.opened <;> simp [opening, hs]

theorem tell_settles (message : String) : SettlesAll (tell message) :=
  note_settles .info "agentmemory.store" message

theorem create_closed {path : String} {n : Int} {m : Medium} {now : Timestamp} {s : Store}
    (h : create path n m now = .ok s) : s.opened = false := by
  unfold create at h
  split at h
  · cases h
  · cases h
    rfl

theorem ensureOpen_perform {s : Store} (hs : s.opened = false) :
    ensureOpen.perform s = match (s.medium.establish s.path s.dimensions).1 with
      | .ok _ => (.ok (), { s with
          tried := true
          medium := s.medium.opened s.dimensions
          opened := true
          log := s.log ++ [⟨.info, "agentmemory.store",
            s!"Chunk store initialized at {s.path} (dimensions={s.dimensions})"⟩] })
      | .error f =>
          (.error f, { s with tried := true, medium := s.medium.opened s.dimensions }) := by
  rw [ensureOpen, perform_get_bind, if_neg (by simp [hs]), perform_bind, establish_perform]
  cases (s.medium.establish s.path s.dimensions).1 with
  | ok u => rfl
  | error f => rfl

theorem ensureOpen_ok {s t : Store} {u : Unit} (h : ensureOpen.perform s = (.ok u, t)) :
    t.opened = true := by
  cases hs : s.opened with
  | true =>
    rw [ensureOpen, perform_get_bind, if_pos hs] at h
    cases h
    exact hs
  | false =>
    rw [ensureOpen_perform hs] at h
    split at h
    · cases h
      rfl
    · cases h

theorem ensureOpen_settles : SettlesAll ensureOpen := by
  intro s
  cases hs : s.opened with
  | true =>
    rw [ensureOpen, perform_get_bind, if_pos hs]
    exact refl_of Settles s
  | false =>
    have hlasting : s.Fits → s.medium.opened s.dimensions ≠ .fleeting :=
      fun h => Medium.opened_ne_fleeting _ h.lasting
    rw [ensureOpen_perform hs]
    cases hm : s.medium with
    | blank =>
      rw [hm] at hlasting
      rw [Medium.establish_blank]
      refine ⟨rfl, fun _ => rfl, fun h => ⟨hlasting h, fun _ => rfl⟩, fun _ => ?_⟩
      simp [Medium.opened, Medium.dimensions?, Medium.database?, opening, hm, hs]
    | database db =>
      rw [hm] at hlasting
      by_cases hn : db.dimensions = s.dimensions
      · simp only [Medium.establish_database, hn, if_true, Medium.opened]
        refine ⟨rfl, fun _ => rfl, fun h => ⟨hlasting h, fun _ => ?_⟩, fun _ => ?_⟩
        · simp [Medium.dimensions?, Medium.database?, hn]
        · simp [Medium.dimensions?, Medium.database?, opening, hm, hn]
      · simp only [Medium.establish_database, hn, if_false, Medium.opened]
        refine ⟨rfl, fun h => h, fun h => ⟨hlasting h, fun h => ?_⟩, fun _ => ?_⟩
        · exact absurd (hs.symm.trans h) Bool.false_ne_true
        · simp [Medium.dimensions?, Medium.database?, opening, hm, hs]
    | blocked first later =>
      rw [hm] at hlasting
      refine ⟨rfl, fun h => h, fun h => ⟨hlasting h, fun h => ?_⟩, fun _ => ?_⟩
      · exact absurd (hs.symm.trans h) Bool.false_ne_true
      · simp [Medium.establish, Medium.opened, Medium.dimensions?, Medium.database?,
          opening, hm, hs]
    | refused f =>
      rw [hm] at hlasting
      refine ⟨rfl, fun h => h, fun h => ⟨hlasting h, fun h => ?_⟩, fun _ => ?_⟩
      · exact absurd (hs.symm.trans h) Bool.false_ne_true
      · simp [Medium.establish, Medium.opened, Medium.dimensions?, Medium.database?,
          opening, hm, hs]
    | fleeting =>
      exact ⟨rfl, fun _ => rfl, fun h => absurd hm h.lasting, fun h => absurd hm h.lasting⟩

theorem connect_settles : SettlesAll connect := connect_staysWithin ensureOpen_settles

theorem connect_opened {s t : Store} {db : Database} (h : connect.perform s = (.ok db, t)) :
    t.opened = true := by
  obtain ⟨_, u, hu, h⟩ := perform_bind_ok.mp h
  have hopened := ensureOpen_ok hu
  rw [perform_get_bind] at h
  cases hm : u.medium with
  | database d =>
    simp only [hm, perform_pure] at h
    cases h
    exact hopened
  | blocked | refused | blank | fleeting => simp [hm] at h

theorem amend_perform {α : Type} (f : Table → Except Fault (α × Table)) (s : Store) :
    (amend f).perform s = match connect.perform s with
      | (.error e, t) => (.error e, t)
      | (.ok db, t) =>
        match f db.table with
        | .error e => (.error e, t)
        | .ok p => (.ok p.1, { t with medium := .database { db with table := p.2 } }) := by
  rw [amend, perform_bind]
  cases connect.perform s with
  | mk answer t =>
    cases answer with
    | error e => rfl
    | ok db =>
      dsimp only
      rw [perform_bind, perform_ofExcept]
      cases f db.table with
      | error e => rfl
      | ok p => rfl

theorem amend_settles {α : Type} (f : Table → Except Fault (α × Table)) :
    SettlesAll (amend f) := by
  intro s
  rw [amend_perform]
  cases hc : connect.perform s with
  | mk answer t =>
    have hst : Settles s t := connect_settles.of_perform hc
    cases answer with
    | error e => exact hst
    | ok db =>
      refine trans_of Settles hst ?_
      dsimp only
      cases f db.table with
      | error e => exact refl_of Settles t
      | ok p =>
        -- only the table of the database is replaced
        have hdimensions : (Medium.database { db with table := p.2 }).dimensions? =
            t.medium.dimensions? := by
          rw [connect_ok hc]
          rfl
        refine ⟨rfl, id, fun h => ⟨nofun, fun ht => ?_⟩, fun _ => ?_⟩
        · exact hdimensions.trans (h.opened ht)
        · cases ht : t.opened <;> simpa [opening, ht] using hdimensions

theorem amend_opened {α : Type} {f : Table → Except Fault (α × Table)} {s t : Store} {a : α}
    (h : (amend f).perform s = (.ok a, t)) : t.opened = true := by
  rw [amend_perform] at h
  split at h
  · cases h
  · rename_i hc
    have hopened := connect_opened hc
    split at h
    · cases h
    · cases h
      exact hopened

theorem Call.settles [Numerics] (c : Call) : SettlesAll c.action :=
  c.staysWithin ensureOpen_settles tell_settles amend_settles

def StaysFleeting (s t : Store) : Prop := s.medium = .fleeting → t.medium = .fleeting

instance : IsPreorder Store StaysFleeting where
  refl _ := id
  trans _ _ _ h k := k ∘ h

theorem Rests.staysFleeting {s t : Store} (h : Rests s t) : StaysFleeting s t := by
  intro hs
  rcases h.medium with hm | hm
  · exact hm.trans hs
  · rw [hm, hs]
    rfl

theorem amend_staysFleeting {α : Type} (f : Table → Except Fault (α × Table)) :
    StaysWithin StaysFleeting (amend f) := by
  intro s hs
  rw [amend_perform]
  cases hc : connect.perform s with
  | mk answer t =>
    have ht : t.medium = .fleeting := (connect_reads.of_perform hc).staysFleeting hs
    cases answer with
    | error e => exact ht
    | ok db =>
      rw [connect_ok hc] at ht
      cases ht

theorem Call.staysFleeting [Numerics] (c : Call) : StaysWithin StaysFleeting c.action :=
  c.staysWithin (fun s => (ensureOpen_reads s).staysFleeting)
    (fun message s => (tell_reads message s).staysFleeting) amend_staysFleeting

theorem Call.opened_of_drafts [Numerics] {c : Call} {s t : Store} {r : c.Reply} (hd : c.drafts ≠ [])
    (h : c.action.perform s = (.ok r, t)) : t.opened = true := by
  cases c with
  | write d =>
    rw [Call.action, write_eq, perform_get_bind] at h
    obtain ⟨_, _, h⟩ := ofExcept_bind_ok.mp h
    exact amend_opened h
  | writeBatch ds =>
    have hne : ¬ ds.isEmpty = true := fun he => hd (List.isEmpty_iff.mp he)
    rw [Call.action, writeBatch_eq, if_neg hne] at h
    obtain ⟨_, _, _, h⟩ := perform_bind_ok.mp h
    exact amend_opened h
  | replaceSource source ds =>
    rw [Call.action, replaceSource_eq] at h
    split at h
    · cases h
    · obtain ⟨_, _, _, h⟩ := perform_bind_ok.mp h
      obtain ⟨_, u, hu, h⟩ := perform_bind_ok.mp h
      obtain ⟨_, _, ht, h⟩ := perform_bind_ok.mp h
      cases h
      exact ((tell_settles _).of_perform ht).opened (amend_opened hu)
  | ensureOpen | deleteSource | getSource | vectorSearch | keywordSearch | stats | sources =>
    exact absurd rfl hd

/-- The database has the dimensions of the store, or it is still to be made. -/
def Ready (s : Store) : Prop :=
  (s.medium = .blank ∧ s.opened = false) ∨ s.medium.dimensions? = some s.dimensions

theorem exists_database {m : Medium} {n : Int} (h : m.dimensions? = some n) :
    ∃ db, m = .database db ∧ db.dimensions = n := by
  cases m with
  | database db => exact ⟨db, rfl, Option.some.inj h⟩
  | blank | blocked | refused | fleeting => cases h

theorem Ready.ensureOpen {s : Store} (h : s.Ready) :
    ∃ t db, Store.ensureOpen.perform s = (.ok (), t) ∧ t.medium = .database db ∧
      db.dimensions = s.dimensions := by
  rcases h with ⟨hm, hs⟩ | h
  · rw [ensureOpen_perform hs, hm, Medium.establish_blank]
    exact ⟨_, _, rfl, rfl, rfl⟩
  · obtain ⟨db, hm, hn⟩ := exists_database h
    cases hs : s.opened with
    | true =>
      refine ⟨s, db, ?_, hm, hn⟩
      rw [Store.ensureOpen, perform_get_bind, if_pos hs]
      rfl
    | false =>
      rw [ensureOpen_perform hs, hm]
      simp only [Medium.establish_database, hn, if_true]
      exact ⟨_, db, rfl, rfl, hn⟩

theorem Ready.connect {s : Store} (h : s.Ready) :
    ∃ db t, Store.connect.perform s = (.ok db, t) ∧ t.medium = .database db ∧ t.Ready := by
  obtain ⟨t, db, hopen, hm, hn⟩ := h.ensureOpen
  have hconnect : Store.connect.perform s = (.ok db, t) := by
    refine perform_bind_ok.mpr ⟨(), t, hopen, ?_⟩
    simp only [perform_get_bind, hm]
    rfl
  refine ⟨db, t, hconnect, hm, .inr ?_⟩
  rw [hm, (connect_reads.of_perform hconnect).dimensions]
  exact congrArg some hn

def foreign (s : Store) (dimensions : Int) : Fault :=
  .mismatch s!"configuration for database {s.path}" dimensions s.dimensions

/-- Whether a call comes to the database: whether its checks let it pass and it has something to
do. -/
def Call.reaches (s : Store) : Call → Bool
  | write d => (prepare s.dimensions s.clock d).isOk
  | writeBatch ds => !ds.isEmpty && (ds.mapM (prepare s.dimensions s.clock)).isOk
  | replaceSource source ds =>
    (ds.all fun d => d.source == source) && (ds.mapM (prepare s.dimensions s.clock)).isOk
  | vectorSearch query limit => (query.length : Int) = s.dimensions && 0 < limit
  | keywordSearch query limit => !(Keyword.extract query).isEmpty && 0 < limit
  | ensureOpen | deleteSource _ | getSource _ | stats | sources => true

section

variable {s : Store} {db : Database}

theorem ensureOpen_foreign (hs : s.opened = false) (hm : s.medium = .database db)
    (hn : db.dimensions ≠ s.dimensions) :
    ensureOpen.perform s = (.error (s.foreign db.dimensions), { s with tried := true }) := by
  rw [ensureOpen_perform hs, hm, Medium.establish_database, if_neg hn, ← hm]
  simp only [Medium.opened, hm, foreign]

theorem connect_foreign (hs : s.opened = false) (hm : s.medium = .database db)
    (hn : db.dimensions ≠ s.dimensions) :
    connect.perform s = (.error (s.foreign db.dimensions), { s with tried := true }) :=
  perform_bind_error.mpr (.inl (ensureOpen_foreign hs hm hn))

theorem exists_of_isOk {α : Type} {r : Except Fault α} (h : r.isOk = true) : ∃ x, r = .ok x := by
  cases r with
  | ok x => exact ⟨x, rfl⟩
  | error f => cases h

end

theorem prepare_size {n : Int} {now : Timestamp} {d : Draft} {p : Draft × String × String}
    (h : prepare n now d = .ok p) : (d.embedding.length : Int) = n := by
  unfold prepare at h
  split at h
  · cases h
  · obtain ⟨_, hsize, -⟩ := Result.bind_eq_ok.mp h
    unfold checkSize at hsize
    split at hsize
    · assumption
    · cases hsize

/-- The row keeps a vector with as many components as the database has dimensions. -/
def Wide (dimensions : Option Int) (r : Row) : Prop :=
  ∃ v : List Float, Embedding.read r.embedding = .ok (.array (v.map Json.float)) ∧
    dimensions = some (v.length : Int)

theorem Keeps.wide {d : Draft} {r : Row} {n : Int} (h : Keeps d r.toRecord)
    (hd : (d.embedding.length : Int) = n) : Wide (some n) r := by
  obtain ⟨v, hv, hr⟩ := h.embedding
  have hlength : v.length = d.embedding.length := (Result.mapM_eq_ok.mp hv).length_eq.symm
  refine ⟨v, ?_, ?_⟩
  · rw [hr, Embedding.read_write]
  · rw [hlength, hd]

theorem Stored.wide {remaining : Table → Table} {ds : List Draft} {s t : Store}
    (h : Stored remaining ds s t) {r : Row} (hr : r ∈ t.medium.table.rows) :
    r ∈ (remaining s.medium.table).rows ∨ (ds ≠ [] ∧ Wide (some s.dimensions) r) := by
  obtain ⟨rs, hrs, hrows, -⟩ := h.rows
  rw [hrows] at hr
  rcases List.mem_append.mp hr with hr | hr
  · exact .inl hr
  · obtain ⟨d, hd, hkeeps⟩ := Result.exists_of_mem_right hrs (Row.record_of_mem_number hr)
    obtain ⟨ps, hps, -⟩ := h
    obtain ⟨p, -, hp⟩ := Result.exists_of_mem_left (Result.mapM_eq_ok.mp hps) hd
    exact .inr ⟨List.ne_nil_of_mem hd, hkeeps.wide (prepare_size hp)⟩

/-- What lies at a path, and the stores that work on it: those that are open have the dimensions of
the database, and the rows are as wide. -/
structure Tended (m : Medium) (stores : List Store) : Prop where
  lasting : m ≠ .fleeting
  dimensions : ∀ s ∈ stores, s.opened = true → m.dimensions? = some s.dimensions
  wide : ∀ r ∈ m.table.rows, Wide m.dimensions? r

namespace Tended

variable {m : Medium} {stores : List Store}

theorem start (hm : m.database? = none) (hfile : m ≠ .fleeting) : Tended m [] := by
  refine ⟨hfile, fun s hs => absurd hs List.not_mem_nil, fun r hr => ?_⟩
  have hrows : m.table.rows = [] := by
    rw [Medium.table, hm]
    rfl
  rw [hrows] at hr
  cases hr

theorem enter (h : Tended m stores) {s : Store} (hs : s.opened = false) :
    Tended m (stores ++ [s]) := by
  refine ⟨h.lasting, fun t ht hopened => ?_, h.wide⟩
  rcases List.mem_append.mp ht with ht | ht
  · exact h.dimensions t ht hopened
  · rw [List.mem_singleton.mp ht, hs] at hopened
    cases hopened

theorem fits (h : Tended m stores) {s : Store} (hs : s ∈ stores) (now : Timestamp) :
    Fits { s with medium := m, clock := now } :=
  ⟨h.lasting, h.dimensions s hs⟩

theorem change (h : Tended m stores) {s t : Store} (hm : s.medium = m) (hs : s.Fits)
    (hst : Settles s t) (hrows : ∀ r ∈ t.medium.table.rows,
      r ∈ m.table.rows ∨ (t.opened = true ∧ Wide (some s.dimensions) r)) (place : Nat) :
    Tended t.medium (stores.set place t) := by
  have hkeep : ∀ n, m.dimensions? = some n → t.medium.dimensions? = some n := by
    intro n hn
    rw [hst.recorded hs, hm, hn, Option.some_or]
  refine ⟨(hst.fits hs).lasting, ?_, ?_⟩
  · intro u hu hopened
    rcases List.mem_or_eq_of_mem_set hu with hu | rfl
    · exact hkeep _ (h.dimensions u hu hopened)
    · exact (hst.fits hs).opened hopened
  · intro r hr
    rcases hrows r hr with hold | ⟨hopened, hwide⟩
    · obtain ⟨v, hv, hn⟩ := h.wide r hold
      exact ⟨v, hv, hkeep _ hn⟩
    · rw [(hst.fits hs).opened hopened, hst.dimensions]
      exact hwide

end Tended

namespace History

def opening [Numerics] (h : History) : Event → Option Int
  | .enter _ _ _ => none
  | .call place now c =>
    match h.stores[place]?, (h.step (.call place now c)).stores[place]? with
    | some s, some t => s.opening t
    | _, _ => none

abbrev Fixed (h : History) : Prop := Tended h.medium h.stores

section

variable [Numerics]

theorem Fixed.called {h : History} (hh : h.Fixed) (place : Nat) {s : Store}
    (hm : s.medium = h.medium) (hs : s.Fits) (c : Call) : (h.called place s c).Fixed := by
  rw [History.called]
  cases hc : c.action.perform s with
  | mk answer t =>
    refine hh.change hm hs (c.settles.of_perform hc) ?_ place
    intro r hr
    rw [← hm]
    cases answer with
    | error f =>
      rw [(c.failsWithin s f t hc).table] at hr
      exact .inl hr
    | ok reply =>
      rcases (c.stored hc).wide hr with hr | ⟨hds, hwide⟩
      · exact .inl ((c.remaining_sublist _).subset hr)
      · exact .inr ⟨Call.opened_of_drafts hds hc, hwide⟩

theorem Fixed.step {h : History} (hh : h.Fixed) (e : Event) : (h.step e).Fixed := by
  cases e with
  | enter path dimensions now =>
    simp only [History.step]
    cases hs : create path dimensions h.medium now with
    | ok s => exact hh.enter (create_closed hs)
    | error f => exact hh
  | call place now c =>
    simp only [History.step]
    cases hp : h.stores[place]? with
    | some s => exact Fixed.called hh place (by rfl) (hh.fits (List.mem_of_getElem? hp) now) c
    | none => exact hh

theorem Fixed.run {h : History} (hh : h.Fixed) (es : List Event) : (h.run es).Fixed := by
  induction es generalizing h with
  | nil => exact hh
  | cons e es ih => exact ih (Fixed.step hh e)

theorem fleeting_step {h : History} (hh : h.medium = .fleeting) (e : Event) :
    (h.step e).medium = .fleeting := by
  cases e with
  | enter path dimensions now =>
    simp only [History.step]
    cases create path dimensions h.medium now <;> exact hh
  | call place now c =>
    simp only [History.step]
    cases h.stores[place]? with
    | some s => exact c.staysFleeting.of_perform rfl hh
    | none => exact hh

theorem fleeting_run {h : History} (hh : h.medium = .fleeting) (es : List Event) :
    (h.run es).medium = .fleeting := by
  induction es generalizing h with
  | nil => exact hh
  | cons e es ih => exact ih (fleeting_step hh e)

/-- Whatever lay at the path, all rows that have come to it are as wide as what lies there now. -/
theorem wide_run {m : Medium} (hm : m.database? = none) (es : List Event) :
    ∀ r ∈ ((start m).run es).medium.table.rows, Wide ((start m).run es).medium.dimensions? r := by
  by_cases hfile : m = .fleeting
  · rw [fleeting_run hfile es]
    exact fun r hr => absurd hr List.not_mem_nil
  · exact (Fixed.run (.start hm hfile) es).wide

end

private def visits : List Event := [
  .enter "memory.db" 3 .noon,
  .enter "memory.db" 2 .noon,
  .call 1 .noon (.write (.daily "a" "A" [.int 1, .int 2] 0))]

end History

end Store
end TextMemory
