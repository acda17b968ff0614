import TextMemory.Memory.Basic
import TextMemory.Proofs.Embedder.Basic
import TextMemory.Proofs.Store.Operation
import TextMemory.Proofs.Timestamp

/-!
# Operations of a memory

An operation that fails leaves the memory at rest: its store is at rest, and nobody holds a source
who did not hold it before. Of the operations that succeed, writing puts the chunks of the content
in place of all that the source had, deleting erases the source, and all others leave the memory at
rest.
-/
namespace TextMemory

def Settings.cutting (dimensions size overlap : Int) : Settings :=
  ⟨"memory.db", "test", "test", dimensions, size, overlap, .int 1, .int 1, 60, 2⟩

namespace Memory

open TextMemory.Action

def blank (size overlap : Int) : Memory :=
  ⟨.cutting 1 size overlap, ⟨"memory.db", 1, false, false, .blank, .noon, []⟩,
    ⟨"test", 1, Embedder.flat⟩, [], []⟩

def Counted (holders : List (String × Nat)) : Prop := ∀ h ∈ holders, 0 < h.2

theorem Counted.hold {hs : List (String × Nat)} (h : Counted hs) (source : String) :
    Counted (hold source hs) := by
  induction hs with
  | nil =>
    intro k hk
    rw [List.mem_singleton.mp hk]
    exact Nat.one_pos
  | cons k hs ih =>
    have hhs : Counted hs := fun l hl => h l (List.mem_cons_of_mem k hl)
    unfold Memory.hold
    split
    · intro l hl
      rcases List.mem_cons.mp hl with rfl | hl
      · exact Nat.succ_pos _
      · exact hhs l hl
    · intro l hl
      rcases List.mem_cons.mp hl with rfl | hl
      · exact h l List.mem_cons_self
      · exact ih hhs l hl

theorem release_hold {hs : List (String × Nat)} (h : Counted hs) (source : String) :
    release source (hold source hs) = hs := by
  induction hs with
  | nil => simp [hold, release]
  | cons k hs ih =>
    obtain ⟨name, n⟩ := k
    have hn : 0 < n := h (name, n) List.mem_cons_self
    have hhs : Counted hs := fun l hl => h l (List.mem_cons_of_mem _ hl)
    unfold hold
    by_cases hk : name = source
    · have hmore : ¬n + 1 ≤ 1 := by omega
      simp [release, hk, hmore]
    · simp [release, hk, ih hhs]

theorem release_hold_subset (source : String) (hs : List (String × Nat)) :
    release source (hold source hs) ⊆ hs := by
  induction hs with
  | nil => simp [hold, release]
  | cons k hs ih =>
    obtain ⟨name, n⟩ := k
    unfold hold
    by_cases hk : name = source
    · by_cases hn : n = 0
      · simp [release, hk, hn]
      · have hmore : ¬n + 1 ≤ 1 := by omega
        simp [release, hk, hmore]
    · simp only [hk, if_false, release]
      exact List.cons_subset_cons _ ih

/-- The store has at most been opened, and no source is held that was not held before. -/
structure Rests (m n : Memory) : Prop where
  settings : n.settings = m.settings
  embedder : n.embedder = m.embedder
  store : Store.Rests m.store n.store
  entries : n.holders ⊆ m.holders
  holders : Counted m.holders → n.holders = m.holders

instance : IsPreorder Memory Rests where
  refl m := ⟨rfl, rfl, refl_of Store.Rests m.store, List.Subset.refl _, fun _ => rfl⟩
  trans m n k h g := by
    refine ⟨g.settings.trans h.settings, g.embedder.trans h.embedder,
      trans_of Store.Rests h.store g.store, List.Subset.trans g.entries h.entries, ?_⟩
    intro hm
    have hn := h.holders hm
    rw [g.holders (hn ▸ hm), hn]

/-- The database is kept, and no entry of a held source is left behind. -/
structure Keeps (m n : Memory) : Prop where
  database : Database.Kept m.store.medium.database? n.store.medium.database?
  entries : n.holders ⊆ m.holders
  holders : Counted m.holders → n.holders = m.holders

theorem Rests.keeps {m n : Memory} (h : Rests m n) : Keeps m n :=
  ⟨h.store.kept, h.entries, h.holders⟩

def SameHolders (m n : Memory) : Prop := n.holders = m.holders

instance : IsPreorder Memory SameHolders where
  refl _ := rfl
  trans _ _ _ h g := Eq.trans g h

def fresh (settings : Settings) (medium : Medium) (clock : Timestamp)
    (embedder : Embedder) : Memory :=
  ⟨settings, ⟨settings.path, settings.dimensions, false, false, medium, clock, []⟩,
    embedder, [], []⟩

theorem create_ok {settings : Settings} {medium : Medium} {clock : Timestamp} {embedder : Embedder}
    {m : Memory} (h : create settings medium clock embedder = .ok m) :
    m = fresh settings medium clock embedder ∧ embedder.dimensions = settings.dimensions := by
  obtain ⟨store, hstore, h⟩ := Result.bind_eq_ok.mp h
  unfold Store.create at hstore
  split at hstore
  · cases hstore
  · cases hstore
    split at h
    · cases h
    · rename_i hdimensions
      cases h
      exact ⟨rfl, not_not.mp hdimensions⟩

abbrev Reads {α : Type} (a : Action Memory α) : Prop := StaysWithin Rests a

variable {α : Type}

theorem rests_of_store {m : Memory} {s : Store} (h : Store.Rests m.store s) :
    Rests m { m with store := s } := ⟨rfl, rfl, h, List.Subset.refl _, fun _ => rfl⟩

theorem onStore_reads {a : Action Store α} (h : Store.Reads a) : Reads (onStore a) :=
  h.onPart fun _ _ => rests_of_store

theorem onStore_failsWithin {a : Action Store α} (h : FailsWithin Store.Rests a) :
    FailsWithin Rests (onStore a) := h.onPart fun _ _ => rests_of_store

theorem onStore_sameHolders (a : Action Store α) : StaysWithin SameHolders (onStore a) :=
  fun _ => rfl

theorem onStore_neverFails {a : Action Store α} (h : NeverFails a) : NeverFails (onStore a) :=
  h.onPart

theorem onStore_ok {a : Action Store α} {m n : Memory} {x : α}
    (h : (onStore a).perform m = (.ok x, n)) :
    a.perform m.store = (.ok x, n.store) ∧ n = { m with store := n.store } := by
  rw [onStore, perform_onPart] at h
  cases ha : a.perform m.store with
  | mk r t =>
    rw [ha] at h
    cases h
    exact ⟨rfl, rfl⟩

theorem tell_reads (level : LogLevel) (message : String) : Reads (tell level message) :=
  onStore_reads (Store.note_reads level "agentmemory.service" message)

theorem tell_neverFails (level : LogLevel) (message : String) : NeverFails (tell level message) :=
  onStore_neverFails (Store.note_neverFails level "agentmemory.service" message)

def asked (texts : List String) (m : Memory) : Memory :=
  { m with calls := if texts.isEmpty then m.calls else m.calls ++ [texts] }

theorem embed_perform (texts : List String) (m : Memory) :
    (embed texts).perform m = (m.embedder.embed texts, m.asked texts) := by
  rw [embed, perform_get_bind]
  cases htexts : texts.isEmpty with
  | true =>
    have hasked : m.asked texts = m := by simp [asked, htexts]
    rw [hasked]
    exact perform_ofExcept _ _
  | false =>
    have hasked : m.asked texts = { m with calls := m.calls ++ [texts] } := by simp [asked, htexts]
    rw [hasked]
    exact perform_ofExcept _ _

theorem embed_reads (texts : List String) : Reads (embed texts) := by
  intro m
  rw [embed_perform]
  exact ⟨rfl, rfl, refl_of Store.Rests m.store, List.Subset.refl _, fun _ => rfl⟩

theorem embed_sameHolders (texts : List String) : StaysWithin SameHolders (embed texts) := by
  intro m
  rw [embed_perform]
  rfl

theorem embedOne_reads (text : String) : Reads (embedOne text) := by
  refine (embed_reads [text]).bind fun vs => ?_
  cases vs with
  | nil => exact staysWithin_pure []
  | cons v vs => exact staysWithin_pure v

theorem holding_perform (source : String) (a : Action Memory α) (m : Memory) :
    (holding source a).perform m =
      ((a.perform { m with holders := hold source m.holders }).1,
        { (a.perform { m with holders := hold source m.holders }).2 with
          holders := release source
            (a.perform { m with holders := hold source m.holders }).2.holders }) := rfl

theorem rests_of_holding {source : String} {m n : Memory}
    (h : Rests { m with holders := hold source m.holders } n)
    (hn : n.holders = hold source m.holders) :
    Rests m { n with holders := release source n.holders } := by
  refine ⟨h.settings, h.embedder, h.store, ?_, ?_⟩
  · rw [hn]
    exact release_hold_subset source m.holders
  · intro hm
    rw [hn]
    exact release_hold hm source

theorem holding_failsWithin {source : String} {a : Action Memory α} (h : FailsWithin Rests a)
    (hs : StaysWithin SameHolders a) : FailsWithin Rests (holding source a) := by
  intro m f n hp
  rw [holding_perform] at hp
  obtain ⟨hr, rfl⟩ := Prod.mk.inj hp
  exact rests_of_holding (h _ f _ (Prod.ext hr rfl)) (hs _)

theorem holding_ok {source : String} {a : Action Memory α} {m n : Memory} {x : α}
    (h : (holding source a).perform m = (.ok x, n)) :
    ∃ k, a.perform { m with holders := hold source m.holders } = (.ok x, k) ∧
      n = { k with holders := release source k.holders } := by
  rw [holding_perform] at h
  obtain ⟨hr, rfl⟩ := Prod.mk.inj h
  exact ⟨_, Prod.ext hr rfl, rfl⟩

theorem search_reads [Numerics] (query : String) (limit : Int) : Reads (search query limit) := by
  unfold search
  split
  · exact staysWithin_throw _
  · refine (tell_reads _ _).bind fun _ => ?_
    dsimp only
    split
    · exact staysWithin_pure []
    · refine staysWithin_get.bind fun m => (embedOne_reads _).bind fun v => ?_
      refine (onStore_reads (Store.vectorSearch_reads v _)).bind fun near => ?_
      refine (onStore_reads (Store.keywordSearch_reads _ _)).bind fun matching => ?_
      exact staysWithin_ofExcept _

theorem read_reads (source : String) : Reads (read source) := by
  refine (tell_reads _ _).bind fun _ => ?_
  refine (onStore_reads (Store.getSource_reads source)).bind fun chunks => ?_
  split
  · exact staysWithin_pure none
  · exact (staysWithin_ofExcept _).bind fun text => staysWithin_pure (some text)

theorem stats_reads : Reads stats := onStore_reads Store.stats_reads

theorem sources_reads : Reads sources := onStore_reads Store.sources_reads

theorem chunks_reads (source : String) : Reads (chunks source) :=
  onStore_reads (Store.getSource_reads source)

theorem delete_failsWithin (source : String) : FailsWithin Rests (delete source) :=
  holding_failsWithin (onStore_failsWithin (Store.deleteSource_failsWithin source))
    (onStore_sameHolders _)

theorem write_failsWithin (content : String) (source : Option String) (title : Json) :
    FailsWithin Rests (write content source title) := by
  refine (staysWithin_ofExcept _).failsWithin_bind fun _ => ?_
  refine staysWithin_get.failsWithin_bind fun m => (tell_reads _ _).failsWithin_bind fun _ => ?_
  refine FailsWithin.bind_neverFails (holding_failsWithin ?_ ?_) fun n =>
    (tell_neverFails _ _).bind fun _ => neverFails_pure _
  · refine (staysWithin_ofExcept _).failsWithin_bind fun pieces => ?_
    refine (embed_reads pieces).failsWithin_bind fun vectors => ?_
    refine FailsWithin.bind_neverFails ?_ fun _ => neverFails_pure _
    exact (onStore_failsWithin (Store.replaceSource_failsWithin _ _)).map _
  · refine (staysWithin_ofExcept _).bind fun pieces => (embed_sameHolders pieces).bind fun vs => ?_
    exact ((onStore_sameHolders _).map _).bind fun _ => staysWithin_pure _

theorem checkContent_ok {content : String} {u : Unit} (h : checkContent content = .ok u) :
    content ≠ "" := by
  intro he
  rw [he] at h
  cases h

theorem drafts_length (source : String) (title : Json) (overlap : Int) (now : Timestamp)
    (pieces : List (String × Vector)) :
    (drafts source title overlap now pieces).length = pieces.length := by
  simp [drafts]

/-- A write cuts its content, asks the embedder once, for a vector of each piece, has the store put
the pieces with their vectors in place of all that the source had, and tells of it. -/
theorem write_steps {content : String} {source : Option String} {title : Json} {m n : Memory}
    {w : Written} (h : (write content source title).perform m = (.ok w, n)) :
    content ≠ "" ∧ w.source = sourceName m.store.clock source ∧
      ∃ pieces vectors s t deleted line,
        chunk content m.settings.chunkSize m.settings.chunkOverlap = .ok pieces ∧
        m.embedder.embed pieces = .ok vectors ∧ n.calls = (m.asked pieces).calls ∧
        w.chunks = (pieces.zip vectors).length ∧ Store.Rests m.store s ∧
        (Store.replaceSource w.source (drafts w.source title m.settings.chunkOverlap m.store.clock
          (pieces.zip vectors))).perform s = (.ok deleted, t) ∧
        n.store = { t with log := t.log ++ [line] } := by
  obtain ⟨_, hcontent, h⟩ := ofExcept_bind_ok.mp h
  rw [perform_get_bind] at h
  obtain ⟨_, k, hk, h⟩ := perform_bind_ok.mp h
  obtain ⟨count, l, hl, h⟩ := perform_bind_ok.mp h
  obtain ⟨_, n', hn, h⟩ := perform_bind_ok.mp h
  cases h
  have hopened := ((tell_reads _ _).of_perform hk).store
  have hkm := (onStore_ok hk).2
  obtain ⟨o, ho, rfl⟩ := holding_ok hl
  obtain ⟨pieces, hpieces, ho⟩ := ofExcept_bind_ok.mp ho
  obtain ⟨vectors, q, hq, ho⟩ := perform_bind_ok.mp ho
  obtain ⟨_, r, hr, ho⟩ := perform_bind_ok.mp ho
  cases ho
  obtain ⟨deleted, hr⟩ := perform_discard_ok hr
  have hembedded := ((embed_reads pieces).of_perform hq).store
  rw [embed_perform] at hq
  obtain ⟨hvectors, hasked⟩ := Prod.mk.inj hq
  obtain ⟨hstored, ho⟩ := onStore_ok hr
  have htold := (onStore_ok hn).1
  have hn' := (onStore_ok hn).2
  rw [Store.note_perform] at htold
  refine ⟨checkContent_ok hcontent, ?_, pieces, vectors, q.store, o.store, deleted, _,
    hpieces, ?_, ?_, ?_,
    trans_of Store.Rests hopened hembedded, ?_, (Prod.mk.inj htold).2.symm⟩
  · dsimp only
  · rw [hkm] at hvectors
    exact hvectors
  · rw [hn', ho, ← hasked, hkm]
    rfl
  · simp only [drafts_length]
  · dsimp only
    exact hstored

theorem write_stored {content : String} {source : Option String} {title : Json} {m n : Memory}
    {w : Written} (h : (write content source title).perform m = (.ok w, n)) :
    content ≠ "" ∧ w.source = sourceName m.store.clock source ∧
      ∃ pieces vectors, chunk content m.settings.chunkSize m.settings.chunkOverlap = .ok pieces ∧
        m.embedder.embed pieces = .ok vectors ∧ n.calls = (m.asked pieces).calls ∧
        w.chunks = (pieces.zip vectors).length ∧
        Store.Stored (fun t => t.erase w.source)
          (drafts w.source title m.settings.chunkOverlap m.store.clock (pieces.zip vectors))
          m.store n.store := by
  obtain ⟨hne, hsource, pieces, vectors, s, t, _, _, hpieces, hvectors, hcalls, hcount,
    hbefore, hstored,
    htold⟩ := write_steps h
  refine ⟨hne, hsource, pieces, vectors, hpieces, hvectors, hcalls, hcount, ?_⟩
  refine (Store.replaceSource_stored hstored).2.between hbefore ?_
  rw [htold]
  exact ⟨rfl, rfl, rfl, .inl rfl⟩

/-- A content that is written stands, cut into pieces, in place of all that its source had. -/
theorem write_ok {content : String} {source : Option String} {title : Json} {m n : Memory}
    {w : Written} (h : (write content source title).perform m = (.ok w, n)) :
    content ≠ "" ∧ w.source = sourceName m.store.clock source ∧
      ∃ pieces vectors, chunk content m.settings.chunkSize m.settings.chunkOverlap = .ok pieces ∧
        vectors.length = pieces.length ∧ w.chunks = pieces.length ∧
        Store.Stored (fun t => t.erase w.source)
          (drafts w.source title m.settings.chunkOverlap m.store.clock (pieces.zip vectors))
          m.store n.store := by
  obtain ⟨hne, hsource, pieces, vectors, hpieces, hembed, -, hcount, hstored⟩ := write_stored h
  have hvectors := Embedder.embed_ok hembed
  refine ⟨hne, hsource, pieces, vectors, hpieces, hvectors, ?_, hstored⟩
  rw [hcount, List.length_zip, hvectors, Nat.min_self]

theorem read_ok {source : String} {m n : Memory} {answer : Option String}
    (h : (read source).perform m = (.ok answer, n)) :
    ∃ chunks, (m.store.medium.table.bySource source).mapM Store.chunkOf = .ok chunks ∧
      if chunks.isEmpty then answer = none
      else ∃ text, mergeBy (.array (chunks.map fun c => c.overlap.json))
        (chunks.map Chunk.content) = .ok text ∧ answer = some text := by
  obtain ⟨_, k, hk, h⟩ := perform_bind_ok.mp h
  obtain ⟨chunks, l, hl, h⟩ := perform_bind_ok.mp h
  have hk := ((tell_reads _ _).of_perform hk).store.table
  have hchunks := Store.getSource_ok (onStore_ok hl).1
  rw [hk] at hchunks
  refine ⟨chunks, hchunks, ?_⟩
  split at h
  · rename_i hempty
    rw [if_pos hempty]
    cases h
    rfl
  · rename_i hempty
    rw [if_neg hempty]
    obtain ⟨text, htext, h⟩ := ofExcept_bind_ok.mp h
    cases h
    exact ⟨text, htext, rfl⟩

theorem delete_ok {source : String} {m n : Memory} {count : Nat}
    (h : (delete source).perform m = (.ok count, n)) :
    Store.Stored (fun t => t.erase source) [] m.store n.store := by
  obtain ⟨k, hk, rfl⟩ := holding_ok h
  exact Store.deleteSource_stored (onStore_ok hk).1

inductive Call
  | write (content : String) (source : Option String) (title : Json)
  | read (source : String)
  | search (query : String) (limit : Int)
  | delete (source : String)
  | stats
  | sources
  | chunks (source : String)

namespace Call

abbrev Reply : Call → Type
  | write _ _ _ => Written
  | read _ => Option String
  | search _ _ => List Hit
  | delete _ => Nat
  | stats => Stats
  | sources => List SourceInfo
  | chunks _ => List Chunk

def action [Numerics] : (c : Call) → Action Memory c.Reply
  | write content source title => Memory.write content source title
  | read source => Memory.read source
  | search query limit => Memory.search query limit
  | delete source => Memory.delete source
  | stats => Memory.stats
  | sources => Memory.sources
  | chunks source => Memory.chunks source

theorem failsWithin [Numerics] (c : Call) : FailsWithin Rests c.action := by
  cases c with
  | write content source title => exact write_failsWithin content source title
  | read source => exact (read_reads source).failsWithin
  | search query limit => exact (search_reads query limit).failsWithin
  | delete source => exact delete_failsWithin source
  | stats => exact stats_reads.failsWithin
  | sources => exact sources_reads.failsWithin
  | chunks source => exact (chunks_reads source).failsWithin

theorem sound [Numerics] (c : Call) {m n : Memory} {r : Except Fault c.Reply}
    (hm : m.store.medium.table.Sound) (h : c.action.perform m = (r, n)) :
    n.store.medium.table.Sound := by
  cases r with
  | error f => exact (c.failsWithin m f n h).store.table ▸ hm
  | ok r =>
    cases c with
    | write content source title =>
      obtain ⟨-, -, _, _, -, -, -, hstored⟩ := write_ok h
      exact hstored.sound (hm.erase r.source)
    | delete source => exact (delete_ok h).sound (hm.erase source)
    | read source => exact ((read_reads source).of_perform h).store.table ▸ hm
    | search query limit => exact ((search_reads query limit).of_perform h).store.table ▸ hm
    | stats => exact (stats_reads.of_perform h).store.table ▸ hm
    | sources => exact (sources_reads.of_perform h).store.table ▸ hm
    | chunks source => exact ((chunks_reads source).of_perform h).store.table ▸ hm

end Call

end Memory
end TextMemory
