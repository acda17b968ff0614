import TextMemory.Proofs.Memory.Dimensions
import TextMemory.Proofs.Store.Access
import TextMemory.Proofs.Text

/-!
# Changes of different sources

A write or a deletion exchanges the rows of one source. Two of them with different sources give the
same answers in either order, failures included, and leave tables that differ in ids only: what is
then read, counted and listed is the same.
-/
namespace TextMemory

open TextMemory.Action

theorem sourceName_sourceName (now : Timestamp) (given : Option String) :
    sourceName now (some (sourceName now given)) = sourceName now given := by
  have hname : ¬(Text.strip (sourceName now given)).isEmpty = true := by
    rw [strip_sourceName, String.isEmpty_iff]
    exact sourceName_ne_empty now given
  rw [sourceName, Option.getD_some, if_neg hname, strip_sourceName]

def Chunk.anonymous (c : Chunk) : Chunk := { c with id := 0 }

namespace Store

theorem chunkOf_anonymous (r : Row) :
    (chunkOf r).map Chunk.anonymous = chunkOf ⟨r.toRecord, 0⟩ := by
  unfold chunkOf
  cases Timestamp.read r.indexedAt with
  | error f => rfl
  | ok time =>
    cases Embedding.read r.embedding with
    | error f => rfl
    | ok v => rfl

theorem chunks_anonymous (rows : List Row) :
    (rows.mapM chunkOf).map (fun cs => cs.map Chunk.anonymous) =
      (rows.map Row.toRecord).mapM fun r => chunkOf ⟨r, 0⟩ := by
  induction rows with
  | nil => rfl
  | cons r rows ih =>
    rw [List.map_cons, List.mapM_cons, List.mapM_cons, ← ih, ← chunkOf_anonymous]
    cases chunkOf r with
    | error f => rfl
    | ok c => cases rows.mapM chunkOf <;> rfl

end Store

namespace Memory

/-- A memory like `o` whose store finds the table `t` and is let through to it by `gate`, or is
not. -/
structure Accesses (o : Memory) (gate : Except Fault Unit) (t : Table) (m : Memory) : Prop where
  settings : m.settings = o.settings
  embedder : m.embedder = o.embedder
  store : Store.Accesses o.store gate t m.store

variable {o : Memory} {gate : Except Fault Unit} {α : Type}

theorem onStore_computes {F : Table → Except Fault (α × Table)} {a : Action Store α}
    (h : Computes (Store.Accesses o.store gate) F a) : Computes (Accesses o gate) F (onStore a) :=
  h.onPart (fun _ _ hm => hm.store) fun _ _ _ _ hm hs => ⟨hm.settings, hm.embedder, hs⟩

theorem tell_computes (level : LogLevel) (message : String) :
    Computes (Accesses o gate) (looking fun _ => .ok ()) (tell level message) :=
  onStore_computes (Store.note_computes level _ message)

theorem embed_computes (texts : List String) :
    Computes (Accesses o gate) (looking fun _ => o.embedder.embed texts) (embed texts) := by
  apply computes_looking.mpr
  intro t m h
  refine ⟨m.asked texts, ?_, h.settings, h.embedder, h.store⟩
  rw [embed_perform, h.embedder]

theorem holding_computes {F : Table → Except Fault (α × Table)} {a : Action Memory α}
    (h : Computes (Accesses o gate) F a) (source : String) :
    Computes (Accesses o gate) F (holding source a) := by
  intro t m hm
  obtain ⟨n, hn, hR⟩ := h t { m with holders := hold source m.holders }
    ⟨hm.settings, hm.embedder, hm.store⟩
  rw [holding_perform, hn]
  exact ⟨_, rfl, hR.settings, hR.embedder, hR.store⟩

def joined (chunks : List Chunk) : Except Fault (Option String) :=
  if chunks.isEmpty then .ok none
  else (mergeBy (.array (chunks.map fun c => c.overlap.json)) (chunks.map Chunk.content)).map some

theorem joined_anonymous (chunks : List Chunk) :
    joined (chunks.map Chunk.anonymous) = joined chunks := by
  simp [joined, Function.comp_def, Chunk.anonymous]

theorem read_computes (source : String) :
    Computes (Accesses o gate)
      (looking fun t => gate.bind fun _ => ((t.bySource source).mapM Store.chunkOf).bind joined)
      (read source) := by
  have hjoin : ∀ chunks, Computes (Accesses o gate) (looking fun _ => joined chunks)
      (if chunks.isEmpty then pure none else
        Action.ofExcept (mergeBy (.array (chunks.map fun c => c.overlap.json))
          (chunks.map Chunk.content)) >>= fun text => pure (some text)) := by
    intro chunks
    unfold joined
    split
    · exact computes_pure none
    · refine ((computes_ofExcept _).bind fun text => computes_pure (some text)).congr fun t => ?_
      unfold looking
      cases mergeBy (.array (chunks.map fun c => c.overlap.json)) (chunks.map Chunk.content) <;> rfl
  have hchunks : Computes (Accesses o gate)
      (looking fun t => gate.bind fun _ => (t.bySource source).mapM Store.chunkOf)
      (onStore (Store.getSource source)) := onStore_computes (Store.getSource_computes source)
  refine ((tell_computes _ _).bind fun _ => hchunks.bind fun chunks => hjoin chunks).congr ?_
  intro t
  unfold looking
  simp only [Except.bind]
  cases gate with
  | error f => rfl
  | ok _ =>
    dsimp only
    cases (t.bySource source).mapM Store.chunkOf <;> rfl

theorem chunks_computes (source : String) :
    Computes (Accesses o gate)
      (looking fun t => gate.bind fun _ => (t.bySource source).mapM Store.chunkOf)
        (chunks source) :=
  onStore_computes (Store.getSource_computes source)

theorem stats_computes :
    Computes (Accesses o gate) (looking fun t => gate.map fun _ => t.stats) stats :=
  onStore_computes Store.stats_computes

theorem sources_computes :
    Computes (Accesses o gate) (looking fun t => gate.map fun _ => t.sources) sources :=
  onStore_computes Store.sources_computes

def replacing (o : Memory) (gate : Except Fault Unit) (source : String) (ds : List Draft)
    (t : Table) : Except Fault (Nat × Table) :=
  (ds.mapM (Store.prepare o.store.dimensions o.store.clock)).bind fun ps =>
    gate.bind fun _ => Store.exchange source ps t

def shelving (o : Memory) (gate : Except Fault Unit) (content source : String) (title : Json)
    (t : Table) : Except Fault (Nat × Table) :=
  (chunk content o.settings.chunkSize o.settings.chunkOverlap).bind fun pieces =>
    (o.embedder.embed pieces).bind fun vectors =>
      let ds := drafts source title o.settings.chunkOverlap o.store.clock (pieces.zip vectors)
      (replacing o gate source ds t).map fun p => (ds.length, p.2)

def writing (o : Memory) (gate : Except Fault Unit) (content : String) (source : Option String)
    (title : Json) (t : Table) : Except Fault (Written × Table) :=
  (checkContent content).bind fun _ =>
    (shelving o gate content (sourceName o.store.clock source) title t).map fun p =>
      (⟨p.1, sourceName o.store.clock source⟩, p.2)

theorem replace_computes {source : String} {ds : List Draft} (hds : ∀ d ∈ ds, d.source = source) :
    Computes (Accesses o gate)
      (fun t => (replacing o gate source ds t).map fun p => (ds.length, p.2))
      (discard (onStore (Store.replaceSource source ds)) >>= fun _ => pure ds.length) := by
  have hstored : Computes (Accesses o gate) (replacing o gate source ds)
      (onStore (Store.replaceSource source ds)) :=
    onStore_computes (Store.replaceSource_computes hds)
  refine ((hstored.map fun _ => ()).bind_ok fun _ => computes_pure ds.length).congr fun t => ?_
  cases replacing o gate source ds t <;> rfl

theorem write_computes (content : String) (source : Option String) (title : Json) :
    Computes (Accesses o gate) (writing o gate content source title)
      (write content source title) := by
  unfold Memory.write writing
  refine (computes_ofExcept (checkContent content)).bind fun _ => computes_get_bind fun t m hm => ?_
  rw [hm.store.clock, hm.settings]
  refine (tell_computes _ _).skip fun _ => ?_
  have hshelved : Computes (Accesses o gate)
      (shelving o gate content (sourceName o.store.clock source) title)
      (holding (sourceName o.store.clock source) do
        let pieces ← Action.ofExcept (chunk content o.settings.chunkSize o.settings.chunkOverlap)
        let vectors ← embed pieces
        let ds := drafts (sourceName o.store.clock source) title o.settings.chunkOverlap
          o.store.clock (pieces.zip vectors)
        discard (onStore (Store.replaceSource (sourceName o.store.clock source) ds))
        return ds.length) := by
    refine holding_computes ?_ _
    refine (computes_ofExcept _).bind fun pieces => (embed_computes pieces).bind fun vectors => ?_
    exact replace_computes fun d => source_of_mem_drafts
  refine hshelved.bind_ok (g := fun n => Written.mk n (sourceName o.store.clock source)) fun n => ?_
  exact (tell_computes _ _).skip fun _ => computes_pure _

theorem delete_computes (source : String) :
    Computes (Accesses o gate) (fun t => gate.bind fun _ => Store.exchange source [] t)
      (delete source) :=
  holding_computes (onStore_computes (Store.deleteSource_computes source)) source

theorem exchanges_replacing {source : String} {ds : List Draft}
    (hds : ∀ d ∈ ds, d.source = source) :
    Store.Exchanges source ds.length (replacing o gate source ds) := by
  unfold replacing
  refine .bind fun ps hps => .bind fun _ _ => ?_
  have hprepared := Result.mapM_eq_ok.mp hps
  rw [hprepared.length_eq]
  apply Store.exchanges_exchange
  intro p hp
  obtain ⟨d, hd, hdp⟩ := Result.exists_of_mem_right hprepared hp
  obtain ⟨-, v, -, rfl⟩ := Store.prepare_ok hdp
  exact hds d hd

theorem exchanges_shelving (content source : String) (title : Json) :
    Store.Exchanges source content.length (shelving o gate content source title) := by
  unfold shelving
  refine .bind fun pieces hpieces => .bind fun vectors _ => ?_
  have hlength : (drafts source title o.settings.chunkOverlap o.store.clock
      (pieces.zip vectors)).length ≤ content.length := by
    rw [drafts_length, List.length_zip]
    exact (Nat.min_le_left _ _).trans (chunk_length_le hpieces)
  exact ((exchanges_replacing fun d => source_of_mem_drafts).mono hlength).map fun _ => _

theorem exchanges_writing (o : Memory) (gate : Except Fault Unit) (content : String)
    (source : Option String) (title : Json) :
    Store.Exchanges (sourceName o.store.clock source) content.length
      (writing o gate content source title) := by
  unfold writing
  refine .bind fun _ _ => ?_
  exact (exchanges_shelving content (sourceName o.store.clock source) title).map fun n =>
    (⟨n, sourceName o.store.clock source⟩ : Written)

inductive Change
  | write (content : String) (source : Option String) (title : Json)
  | delete (source : String)

namespace Change

def call : Change → Call
  | write content source title => .write content source title
  | delete source => .delete source

def given : Change → Option String
  | write _ source _ => source
  | delete source => some source

def source (now : Timestamp) : Change → String
  | write _ source _ => sourceName now source
  | delete source => source

def size : Change → Nat
  | write content _ _ => content.length
  | delete _ => 0

theorem sourceName_source (c : Change) (now : Timestamp) :
    sourceName now (some (c.source now)) = sourceName now c.given := by
  cases c with
  | write content source title => exact sourceName_sourceName now source
  | delete source => rfl

theorem exchanges [Numerics] (c : Change) (o : Memory) (gate : Except Fault Unit) :
    ∃ F, Store.Exchanges (c.source o.store.clock) c.size F ∧
      Computes (Accesses o gate) F c.call.action := by
  cases c with
  | write content source title =>
    exact ⟨_, exchanges_writing o gate content source title, write_computes content source title⟩
  | delete source =>
    refine ⟨_, .bind fun _ _ => ?_, delete_computes source⟩
    exact Store.exchanges_exchange fun p hp => absurd hp List.not_mem_nil

end Change

/-- Memories whose tables differ in ids only, and which tell the same of them. -/
structure Alike (m n : Memory) : Prop where
  table : m.store.medium.table.Alike n.store.medium.table
  records : (m.store.medium.table.rows.map Row.toRecord).Perm
    (n.store.medium.table.rows.map Row.toRecord)
  read : ∀ source, ((read source).perform m).1 = ((read source).perform n).1
  stats : (stats.perform m).1 = (stats.perform n).1
  sources : (sources.perform m).1 = (sources.perform n).1
  chunks : ∀ source, ((chunks source).perform m).1.map (fun cs => cs.map Chunk.anonymous) =
    ((chunks source).perform n).1.map fun cs => cs.map Chunk.anonymous

section

variable {t u : Table} {m n : Memory}

theorem answer_of_computes {f : Table → Except Fault α} {a : Action Memory α}
    (ha : Computes (Accesses o gate) (looking f) a) (hm : Accesses o gate t m) :
    (a.perform m).1 = f t := by
  obtain ⟨k, hk, -⟩ := computes_looking.mp ha t m hm
  rw [hk]

theorem alike_of_tables (hm : Accesses o gate t m) (hn : Accesses o gate u n) (h : t.Alike u) :
    m.Alike n := by
  have hanonymous : ∀ source,
      ((t.bySource source).mapM Store.chunkOf).map (fun cs => cs.map Chunk.anonymous) =
        ((u.bySource source).mapM Store.chunkOf).map fun cs => cs.map Chunk.anonymous := by
    intro source
    rw [Store.chunks_anonymous, Store.chunks_anonymous, h.bySource]
  have htable : m.store.medium.table.Alike n.store.medium.table := by
    rwa [hm.store.table, hn.store.table]
  refine ⟨htable, htable.records, fun source => ?_, ?_, ?_, fun source => ?_⟩
  · rw [answer_of_computes (read_computes source) hm, answer_of_computes (read_computes source) hn]
    have hjoined : ∀ v : Table, ((v.bySource source).mapM Store.chunkOf).bind joined =
        (((v.bySource source).mapM Store.chunkOf).map fun cs => cs.map Chunk.anonymous).bind
          joined := by
      intro v
      cases (v.bySource source).mapM Store.chunkOf with
      | error f => rfl
      | ok cs => exact (joined_anonymous cs).symm
    rw [hjoined t, hjoined u, hanonymous]
  · rw [answer_of_computes stats_computes hm, answer_of_computes stats_computes hn, h.stats]
  · rw [answer_of_computes sources_computes hm, answer_of_computes sources_computes hn, h.sources]
  · rw [answer_of_computes (chunks_computes source) hm,
      answer_of_computes (chunks_computes source) hn]
    cases gate with
    | error f => rfl
    | ok _ => exact hanonymous source

end

def KeepsRegular (m n : Memory) : Prop := Store.KeepsRegular m.store n.store

theorem Call.keepsRegular [Numerics] (c : Call) : StaysWithin KeepsRegular c.action :=
  c.staysWithin_store Store.Call.keepsRegular fun level source message s =>
    (Store.note_reads level source message s).keepsRegular

namespace History

theorem regular_step [Numerics] {h : History} (hh : h.medium.Regular) (e : Event) :
    (h.step e).medium.Regular := by
  cases e with
  | enter settings embedder now =>
    simp only [History.step]
    cases create settings h.medium now embedder <;> exact hh
  | call place now vectors c =>
    simp only [History.step]
    cases h.memories[place]? with
    | none => exact hh
    | some m =>
      simp only [History.called]
      cases hc : c.action.perform (h.found m now vectors) with
      | mk answer n => exact c.keepsRegular.of_perform hc hh

theorem regular_run [Numerics] {h : History} (hh : h.medium.Regular) (es : List Event) :
    (h.run es).medium.Regular := by
  induction es generalizing h with
  | nil => exact hh
  | cons e es ih => exact ih (regular_step hh e)

/-- Whatever memories have made of a database, two writes or deletions whose names differ once the
blanks around them are taken off give the same answers in either order, be they failures or not, and
leave memories that are alike. The one exception is that the ids given out so far come so near to
the last one that there may be too few for the rows of both, and an answer on one of the ways says
that there is no id left. -/
theorem changes_commute [Numerics] {es : List Event} {mem : Memory}
    (hmem : mem ∈ ((start .blank).run es).memories) (now : Timestamp)
    (vectors : List String → Except Outage (List Vector)) {a b : Change}
    (hne : sourceName now a.given ≠ sourceName now b.given) :
    let m := ((start .blank).run es).found mem now vectors
    let first := a.call.action.perform m
    let second := b.call.action.perform first.2
    let first' := b.call.action.perform m
    let second' := a.call.action.perform first'.2
    (Table.lastWord < m.store.medium.table.lastId + (a.size + b.size : Nat) ∧
      (first.1 = .error .noIdLeft ∨ second.1 = .error .noIdLeft ∨
        first'.1 = .error .noIdLeft ∨ second'.1 = .error .noIdLeft)) ∨
    (first.1 = second'.1 ∧ second.1 = first'.1 ∧ second.2.Alike second'.2) := by
  intro m first second first' second'
  have hstart : (start .blank).Fixed := fixed_start rfl nofun
  have hfixed := hstart.run es
  have hregular : ((start .blank).run es).medium.Regular := regular_run (.inl rfl) es
  have hfits : m.store.Fits := hfixed.tended.fits (List.mem_map_of_mem hmem) now
  obtain ⟨gate, hstore⟩ := Store.exists_accesses hfits hregular
  have hm : Accesses m gate m.store.medium.table m := ⟨rfl, rfl, hstore⟩
  have hsources : a.source now ≠ b.source now := by
    intro h
    apply hne
    rw [← a.sourceName_source, ← b.sourceName_source, h]
  obtain ⟨F, hF, hFa⟩ := a.exchanges m gate
  obtain ⟨G, hG, hGb⟩ := b.exchanges m gate
  obtain ⟨n, hfirst, hn⟩ := hFa _ m hm
  obtain ⟨k, hsecond, hk⟩ := hGb _ n hn
  obtain ⟨n', hfirst', hn'⟩ := hGb _ m hm
  obtain ⟨k', hsecond', hk'⟩ := hFa _ n' hn'
  have hab : second = ((G (after F m.store.medium.table)).map Prod.fst, k) := by
    simp only [second, first, hfirst, hsecond]
  have hba : second' = ((F (after G m.store.medium.table)).map Prod.fst, k') := by
    simp only [second', first', hfirst', hsecond']
  rw [hab, hba]
  simp only [first, first', hfirst, hfirst']
  rcases hF.commute hG hsources m.store.medium.table with
    ⟨hshort, hfull⟩ | ⟨hanswer, hanswer', halike⟩
  · refine .inl ⟨hshort, ?_⟩
    rcases hfull with h | h | h | h
    · exact .inl (by rw [h]; rfl)
    · exact .inr (.inl (by rw [h]; rfl))
    · exact .inr (.inr (.inl (by rw [h]; rfl)))
    · exact .inr (.inr (.inr (by rw [h]; rfl)))
  · exact .inr ⟨hanswer, hanswer', alike_of_tables hk hk' halike⟩

private def serving : List Event := [
  .enter (.cutting 1 4 1) ⟨"test", 1, Embedder.flat⟩ .noon,
  .call 0 .noon Embedder.flat (.write "cold tea" (some "A") .null),
  .call 0 .noon Embedder.flat (.write "soup" (some "B") .null)]

private theorem one_serves : 0 < ((start .blank).run serving).memories.length := by decide +kernel

private def server : Memory := ((start .blank).run serving).memories.get ⟨0, one_serves⟩

theorem changes_commute_of_server :
    let m := ((start .blank).run serving).found server .noon Embedder.flat
    let a : Change := .write "hot tea" (some " A ") .null
    let b : Change := .delete "B"
    server ∈ ((start .blank).run serving).memories ∧
      sourceName .noon a.given ≠ sourceName .noon b.given ∧
      (∃ written, (a.call.action.perform m).1 = .ok written) ∧
      (a.call.action.perform m).1 =
        (a.call.action.perform (b.call.action.perform m).2).1 ∧
      (b.call.action.perform (a.call.action.perform m).2).1 = (b.call.action.perform m).1 ∧
      (b.call.action.perform (a.call.action.perform m).2).2.Alike
        (a.call.action.perform (b.call.action.perform m).2).2 := by
  intro m a b
  have hmem : server ∈ ((start .blank).run serving).memories := List.get_mem _ _
  have hnames : sourceName .noon a.given ≠ sourceName .noon b.given := by decide +kernel
  have hfirst : (a.call.action.perform m).1.isOk = true := by decide +kernel
  have henough : ¬Table.lastWord < m.store.medium.table.lastId + (a.size + b.size : Nat) := by
    decide +kernel
  refine ⟨hmem, hnames, Store.exists_of_isOk hfirst, ?_⟩
  rcases changes_commute hmem .noon Embedder.flat hnames with ⟨hshort, -⟩ | hcommute
  · exact absurd hshort henough
  · exact hcommute

private def clerk : Memory := .blank 4 1

private def cup (source : String) : Draft :=
  ⟨"tea", source, [.float 1], .int 0, .string (SourceKind.of source).text, .null,
    .int 0, some .noon⟩

private def poured (source : String) : Record :=
  ⟨"tea", source, (SourceKind.of source).text, none, .int 0, .int 0, Timestamp.noon.text,
    Embedding.write [1]⟩

private theorem prepare_cup (source : String) :
    Store.prepare 1 .noon (cup source) =
      .ok (cup source, Timestamp.noon.text, Embedding.write [1]) := rfl

private theorem bind_cup (source : String) :
    Store.bind (cup source, Timestamp.noon.text, Embedding.write [1]) = .ok (poured source) := rfl

private theorem shelving_tea (source : String) (t : Table) :
    shelving clerk (.ok ()) "tea" source .null t =
      if t.hasRoom then .ok (1, (t.erase source).adding [poured source])
      else .error .noIdLeft := by
  have hpieces : chunk "tea" 4 1 = .ok ["tea"] := by decide +kernel
  have hreplacing : replacing clerk (.ok ()) source [cup source] t =
      Store.exchange source [(cup source, Timestamp.noon.text, Embedding.write [1])] t := by
    rw [replacing]
    change ([cup source].mapM (Store.prepare 1 .noon)).bind _ = _
    rw [List.mapM_cons, prepare_cup]
    rfl
  have hshelving : shelving clerk (.ok ()) "tea" source .null t =
      (replacing clerk (.ok ()) source [cup source] t).map fun p => (1, p.2) := by
    rw [shelving]
    change (chunk "tea" 4 1).bind _ = _
    rw [hpieces]
    rfl
  have hexchange := Store.exchange_single (bind_cup source) source rfl t
  rw [hshelving, hreplacing, hexchange]
  by_cases hroom : t.hasRoom = true
  · rw [if_pos hroom, if_pos hroom]
    rfl
  · rw [if_neg hroom, if_neg hroom]
    rfl

private theorem writing_tea (name : String) (t : Table) :
    writing clerk (.ok ()) "tea" (some name) .null t =
      (shelving clerk (.ok ()) "tea" (sourceName .noon (some name)) .null t).map fun p =>
        (⟨p.1, sourceName .noon (some name)⟩, p.2) := by
  have hchecked : checkContent "tea" = .ok () := by decide +kernel
  rw [writing, hchecked]
  rfl

private theorem write_tea [Numerics] {m : Memory} {t : Table} (hm : Accesses clerk (.ok ()) t m)
    (name : String) :
    (t.hasRoom = true → ∃ k, (write "tea" (some name) .null).perform m =
      (.ok ⟨1, sourceName .noon (some name)⟩, k) ∧
      let source := sourceName .noon (some name)
      Accesses clerk (.ok ()) ((t.erase source).adding [poured source]) k) ∧
    (t.hasRoom = false → ∃ k,
      (write "tea" (some name) .null).perform m = (.error .noIdLeft, k)) := by
  have hwriting := writing_tea name t
  rw [shelving_tea] at hwriting
  constructor
  · intro hroom
    rw [if_pos hroom] at hwriting
    exact (write_computes "tea" (some name) .null).ok hm hwriting
  · intro hfull
    rw [hfull] at hwriting
    obtain ⟨k, hk, -⟩ := (write_computes "tea" (some name) .null).error hm hwriting
    exact ⟨k, hk⟩

private def queue (n : Nat) : List Event :=
  .enter clerk.settings clerk.embedder .noon ::
    List.replicate n (.call 0 .noon Embedder.flat (.write "tea" (some "C") .null))

private theorem found_clerk {h : History} {t : Table} {m : Memory}
    (hm : Accesses clerk (.ok ()) t m) (hmedium : h.medium = m.store.medium) :
    h.found m .noon Embedder.flat = m := by
  have hclock : Timestamp.noon = m.store.clock := hm.store.clock.symm
  have hvectors : Embedder.flat = m.embedder.vectors := by
    rw [hm.embedder]
    rfl
  rw [found, hmedium, hclock, hvectors]

private theorem queue_run [Numerics] (n : Nat) (hn : (n : Int) ≤ Table.lastWord) :
    ∃ m t, ((start .blank).run (queue n)).memories = [m] ∧
      ((start .blank).run (queue n)).medium = m.store.medium ∧
      Accesses clerk (.ok ()) t m ∧ t.lastId = n := by
  induction n with
  | zero =>
    have hclerk : Accesses clerk (.ok ()) Table.empty clerk :=
      ⟨rfl, rfl, rfl, rfl, rfl, .inl ⟨rfl, .inl ⟨rfl, rfl⟩⟩⟩
    exact ⟨clerk, Table.empty, rfl, rfl, hclerk, rfl⟩
  | succ n ih =>
    obtain ⟨m, t, hmemories, hmedium, hm, ht⟩ := ih (by omega)
    have hroom : t.hasRoom = true := decide_eq_true (by omega)
    obtain ⟨k, hk, hafter⟩ := (write_tea hm "C").1 hroom
    have hrun : (start .blank).run (queue (n + 1)) =
        ((start .blank).run (queue n)).called 0 m (.write "tea" (some "C") .null) := by
      rw [queue, List.replicate_succ', ← List.cons_append, ← queue, run, List.foldl_append,
        List.foldl_cons, List.foldl_nil, ← run, step, hmemories, ← found_clerk hm hmedium]
      rfl
    refine ⟨k, _, ?_, ?_, hafter, ?_⟩
    · rw [hrun, called, Call.action, hk, hmemories]
      rfl
    · rw [hrun, called, Call.action, hk]
    · change t.lastId + 1 = _
      push_cast
      omega

private theorem clash [Numerics] {h : History} {m : Memory} {t : Table}
    (hmemories : h.memories = [m]) (hmedium : h.medium = m.store.medium)
    (hm : Accesses clerk (.ok ()) t m) (ht : t.lastId + 1 = Table.lastWord) :
    ∃ mem ∈ h.memories,
      ((write "tea" (some "A") .null).perform (h.found mem .noon Embedder.flat)).1 = .ok ⟨1, "A"⟩ ∧
        ((write "tea" (some "A") .null).perform
          ((write "tea" (some "B") .null).perform (h.found mem .noon Embedder.flat)).2).1 =
          .error .noIdLeft := by
  have hroom : t.hasRoom = true := decide_eq_true (by omega)
  have hname : sourceName .noon (some "A") = "A" := by decide +kernel
  obtain ⟨_, ha, -⟩ := (write_tea hm "A").1 hroom
  obtain ⟨k, hb, hk⟩ := (write_tea hm "B").1 hroom
  obtain ⟨_, hlast⟩ := (write_tea hk "A").2 (decide_eq_false (Int.not_lt.mpr ht.ge))
  refine ⟨m, by rw [hmemories]; exact List.mem_singleton_self m, ?_⟩
  rw [found_clerk hm hmedium, ha, hb, hlast, hname]
  exact ⟨rfl, rfl⟩

/-- With one id left, the write that comes first has it. -/
theorem changes_clash_at_last_id :
    let h := (start .blank).run (queue 9223372036854775806)
    let a : Change := .write "tea" (some "A") .null
    let b : Change := .write "tea" (some "B") .null
    sourceName .noon a.given ≠ sourceName .noon b.given ∧
      ∃ mem ∈ h.memories,
        let m := h.found mem .noon Embedder.flat
        (a.call.action.perform m).1 = .ok ⟨1, "A"⟩ ∧
          (a.call.action.perform (b.call.action.perform m).2).1 = .error .noIdLeft := by
  have hnames : sourceName .noon (some "A") ≠ sourceName .noon (some "B") := by decide +kernel
  obtain ⟨m, t, hmemories, hmedium, hm, ht⟩ := queue_run 9223372036854775806 (by decide)
  have hlast : t.lastId + 1 = Table.lastWord := by
    rw [ht]
    rfl
  exact ⟨hnames, clash hmemories hmedium hm hlast⟩

end History
end Memory
end TextMemory
