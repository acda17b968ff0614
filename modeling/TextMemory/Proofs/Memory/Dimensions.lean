import TextMemory.Proofs.Memory.History
import TextMemory.Proofs.Store.Dimensions

/-!
# The dimensions of a memory

A memory works on its store by calls of the store, and all that it does besides leaves the store as
it is but for the log. So the database keeps the dimensions of the first store that was opened, the
rows are as wide, and there is an id for each of them.
-/
namespace TextMemory.Memory

open TextMemory.Action

section

variable {R : Memory → Memory → Prop} [IsPreorder Memory R]

theorem Call.staysWithin [Numerics] (c : Call)
    (hstore : ∀ a : Store.Call, StaysWithin R (onStore a.action))
    (htell : ∀ level message, StaysWithin R (tell level message))
    (hembed : ∀ texts, StaysWithin R (embed texts))
    (hhold : ∀ {α : Type} source (a : Action Memory α), StaysWithin R a →
      StaysWithin R (holding source a)) : StaysWithin R c.action := by
  cases c with
  | write content source title =>
    refine (staysWithin_ofExcept _).bind fun _ => staysWithin_get.bind fun m => ?_
    refine (htell _ _).bind fun _ => (hhold _ _ ?_).bind fun count => ?_
    · refine (staysWithin_ofExcept _).bind fun pieces => (hembed pieces).bind fun vectors => ?_
      exact ((hstore (.replaceSource _ _)).map _).bind fun _ => staysWithin_pure _
    · exact (htell _ _).bind fun _ => staysWithin_pure _
  | read source =>
    refine (htell _ _).bind fun _ => (hstore (.getSource source)).bind fun chunks => ?_
    split
    · exact staysWithin_pure none
    · exact (staysWithin_ofExcept _).bind fun text => staysWithin_pure (some text)
  | search query limit =>
    change StaysWithin R (Memory.search query limit)
    rw [Memory.search]
    split
    · exact staysWithin_throw _
    · refine (htell _ _).bind fun _ => ?_
      dsimp only
      split
      · exact staysWithin_pure []
      · refine staysWithin_get.bind fun m => StaysWithin.bind ?_ fun v => ?_
        · refine (hembed [Text.strip query]).bind fun vs => ?_
          cases vs <;> exact staysWithin_pure _
        · have hnear := hstore (.vectorSearch v (limit * m.settings.candidateMultiplier))
          have hmatching :=
            hstore (.keywordSearch (Text.strip query) (limit * m.settings.candidateMultiplier))
          exact hnear.bind fun near => hmatching.bind fun matching => staysWithin_ofExcept _
  | delete source => exact hhold source _ (hstore (.deleteSource source))
  | stats => exact hstore .stats
  | sources => exact hstore .sources
  | chunks source => exact hstore (.getSource source)

end

instance (R : Store → Store → Prop) [IsPreorder Store R] :
    IsPreorder Memory (InvImage R Memory.store) where
  refl m := refl_of R m.store
  trans _ _ _ h k := trans_of R h k

/-- What the calls and the notes of a store keep, those of a memory keep. -/
theorem Call.staysWithin_store [Numerics] {R : Store → Store → Prop} [IsPreorder Store R] (c : Call)
    (hcall : ∀ a : Store.Call, StaysWithin R a.action)
    (hnote : ∀ level source message, StaysWithin R (Store.note level source message)) :
    StaysWithin (InvImage R Memory.store) c.action := by
  refine c.staysWithin (fun a => (hcall a).onPart fun _ _ h => h)
    (fun level message => (hnote level _ message).onPart fun _ _ h => h)
    (fun texts m => ?_) fun source a ha m => ?_
  · rw [embed_perform]
    exact refl_of R m.store
  · exact ha { m with holders := hold source m.holders }

structure Settles (m n : Memory) : Prop where
  settings : n.settings = m.settings
  embedder : n.embedder = m.embedder
  store : Store.Settles m.store n.store

instance : IsPreorder Memory Settles where
  refl m := ⟨rfl, rfl, refl_of Store.Settles m.store⟩
  trans _ _ _ h k := ⟨k.settings.trans h.settings, k.embedder.trans h.embedder,
    trans_of Store.Settles h.store k.store⟩

theorem Call.settles [Numerics] (c : Call) : StaysWithin Settles c.action := by
  refine c.staysWithin (fun a => ?_) (fun level message => ?_) (fun texts => ?_)
    fun source a ha => ?_
  · exact (Store.Call.settles a).onPart fun m s h => ⟨rfl, rfl, h⟩
  · exact (Store.note_settles level _ message).onPart fun m s h => ⟨rfl, rfl, h⟩
  · intro m
    rw [embed_perform]
    exact ⟨rfl, rfl, refl_of Store.Settles m.store⟩
  · intro m
    rw [holding_perform]
    have h := ha { m with holders := hold source m.holders }
    exact ⟨h.settings, h.embedder, h.store⟩

variable {m n : Memory}

theorem write_opened {content : String} {source : Option String} {title : Json} {w : Written}
    (h : (write content source title).perform m = (.ok w, n)) : n.store.opened = true := by
  obtain ⟨hne, -, pieces, vectors, s, t, _, _, hpieces, hvectors, -, -, -, hstored, htold⟩ :=
    write_steps h
  obtain ⟨window, -, rfl⟩ := chunk_ok hne hpieces
  have hcount := Embedder.embed_ok hvectors
  -- there is always a piece, so there is a row to put, and the store must be opened for it
  have hpos := List.length_pos_of_ne_nil (window.pieces_ne_nil content.toList)
  have hdrafts : drafts w.source title m.settings.chunkOverlap m.store.clock
      (((window.pieces content.toList).map String.ofList).zip vectors) ≠ [] := by
    apply List.ne_nil_of_length_pos
    rw [drafts_length, List.length_zip, hcount, Nat.min_self, List.length_map]
    exact hpos
  have hopened : t.opened = true :=
    Store.Call.opened_of_drafts (c := .replaceSource w.source _) hdrafts hstored
  rw [htold]
  exact hopened

theorem Call.stored [Numerics] {c : Call} {r : c.Reply} (h : c.action.perform m = (.ok r, n)) :
    ∃ remaining ds, Store.Stored remaining ds m.store n.store ∧
      (remaining m.store.medium.table).rows.Sublist m.store.medium.table.rows ∧
      (remaining m.store.medium.table).lastId = m.store.medium.table.lastId ∧
      (ds ≠ [] → n.store.opened = true) := by
  have hreads : Rests m n → ∃ remaining ds, Store.Stored remaining ds m.store n.store ∧
      (remaining m.store.medium.table).rows.Sublist m.store.medium.table.rows ∧
      (remaining m.store.medium.table).lastId = m.store.medium.table.lastId ∧
      (ds ≠ [] → n.store.opened = true) := fun hrests =>
    ⟨id, [], hrests.store.stored, .refl _, rfl, fun hne => absurd rfl hne⟩
  cases c with
  | write content source title =>
    obtain ⟨-, -, pieces, vectors, -, -, -, -, hstored⟩ := write_stored h
    exact ⟨_, _, hstored, Table.erase_sublist _ _, rfl, fun _ => write_opened h⟩
  | delete source =>
    exact ⟨_, _, delete_ok h, Table.erase_sublist _ _, rfl, fun hne => absurd rfl hne⟩
  | read source => exact hreads ((read_reads source).of_perform h)
  | search query limit => exact hreads ((search_reads query limit).of_perform h)
  | stats => exact hreads (stats_reads.of_perform h)
  | sources => exact hreads (sources_reads.of_perform h)
  | chunks source => exact hreads ((chunks_reads source).of_perform h)

namespace History

structure Fixed (h : History) : Prop where
  tended : Store.Tended h.medium (h.memories.map Memory.store)
  embedders : ∀ m ∈ h.memories, m.embedder.dimensions = m.store.dimensions
  bounded : h.medium.table.Bounded

theorem Fixed.called [Numerics] {h : History} (hh : h.Fixed) (place : Nat) {m : Memory}
    (hmedium : m.store.medium = h.medium) (hfits : m.store.Fits)
    (hembedder : m.embedder.dimensions = m.store.dimensions) (c : Call) :
    (h.called place m c).Fixed := by
  rw [History.called]
  cases hc : c.action.perform m with
  | mk answer n =>
    have hsettles : Settles m n := c.settles.of_perform hc
    have hrows : (∀ r ∈ n.store.medium.table.rows, r ∈ h.medium.table.rows ∨
        (n.store.opened = true ∧ Store.Wide (some m.store.dimensions) r)) ∧
        n.store.medium.table.Bounded := by
      rw [← hmedium]
      cases answer with
      | error f =>
        rw [(c.failsWithin m f n hc).store.table, hmedium]
        exact ⟨fun r hr => .inl hr, hh.bounded⟩
      | ok reply =>
        obtain ⟨remaining, ds, hstored, hsublist, hlast, hopened⟩ := Call.stored hc
        have hbounded : m.store.medium.table.Bounded := hmedium ▸ hh.bounded
        refine ⟨fun r hr => ?_, hstored.bounded (hbounded.of_sublist hsublist hlast)⟩
        rcases hstored.wide hr with hr | ⟨hds, hwide⟩
        · exact .inl (hsublist.subset hr)
        · exact .inr ⟨hopened hds, hwide⟩
    refine ⟨?_, ?_, hrows.2⟩
    · rw [List.map_set]
      exact hh.tended.change hmedium hfits hsettles.store hrows.1 place
    · intro k hk
      rcases List.mem_or_eq_of_mem_set hk with hk | rfl
      · exact hh.embedders k hk
      · rw [hsettles.embedder, hembedder, hsettles.store.dimensions]

theorem Fixed.step [Numerics] {h : History} (hh : h.Fixed) (e : Event) : (h.step e).Fixed := by
  cases e with
  | enter settings embedder now =>
    simp only [History.step]
    cases hm : create settings h.medium now embedder with
    | ok m =>
      obtain ⟨rfl, hembedder⟩ := create_ok hm
      refine ⟨?_, ?_, hh.bounded⟩
      · rw [List.map_append, List.map_singleton]
        exact hh.tended.enter rfl
      · intro k hk
        rcases List.mem_append.mp hk with hk | hk
        · exact hh.embedders k hk
        · rw [List.mem_singleton.mp hk]
          exact hembedder
    | error f => exact hh
  | call place now vectors c =>
    simp only [History.step]
    cases hp : h.memories[place]? with
    | some m =>
      have hmem : m ∈ h.memories := List.mem_of_getElem? hp
      have hfits := hh.tended.fits (List.mem_map_of_mem hmem) now
      exact hh.called place (m := h.found m now vectors) rfl hfits (hh.embedders m hmem) c
    | none => exact hh

theorem Fixed.run [Numerics] {h : History} (hh : h.Fixed) (es : List Event) : (h.run es).Fixed := by
  induction es generalizing h with
  | nil => exact hh
  | cons e es ih => exact ih (hh.step e)

theorem fixed_start {m : Medium} (hm : m.database? = none) (hfile : m ≠ .fleeting) :
    (start m).Fixed := by
  have htable : m.table = Table.empty := by rw [Medium.table, hm]; rfl
  exact ⟨.start hm hfile, fun m hm => absurd hm List.not_mem_nil, htable ▸ Table.bounded_empty⟩

end History
end TextMemory.Memory
