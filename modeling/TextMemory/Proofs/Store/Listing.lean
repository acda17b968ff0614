import Mathlib.Algebra.BigOperators.Group.List.Lemmas
import TextMemory.Proofs.ByteOrder
import TextMemory.Proofs.Store.Answer
import TextMemory.Proofs.Store.RoundTrip
import TextMemory.Proofs.Store.Shelf

/-!
# Sources and their rows

Each row belongs to one source, so the rows of the sources that are listed are all rows there are,
each counted once. A source that is erased takes its own entry from the list and no other one. What
has come into a table can be read, so the chunks of a source are as many as its rows.
-/
namespace TextMemory

namespace Table

variable {t : Table} {name : String}

theorem mem_sourceNames : name ∈ t.sourceNames ↔ ∃ r ∈ t.rows, r.source = name := by
  rw [sourceNames, List.mem_mergeSort, List.mem_eraseDups, List.mem_map]

theorem nodup_sourceNames (t : Table) : t.sourceNames.Nodup :=
  (List.mergeSort_perm _ _).nodup_iff.mpr (FirstSeen.nodup_eraseDups _)

theorem sourceNames_ascend (t : Table) :
    t.sourceNames.Pairwise fun a b => Text.Utf8.encode a < Text.Utf8.encode b := by
  refine (t.sourceNames_pairwise.and t.nodup_sourceNames).imp ?_
  rintro a b ⟨hle, hne⟩
  exact Text.Utf8.encode_lt (lt_of_le_of_ne hle hne)

theorem sources_ascend (t : Table) :
    t.sources.Pairwise fun i j => Text.Utf8.encode i.source < Text.Utf8.encode j.source :=
  List.pairwise_map.mpr t.sourceNames_ascend

theorem mem_sources : (∃ i ∈ t.sources, i.source = name) ↔ ∃ r ∈ t.rows, r.source = name := by
  rw [← mem_sourceNames, sources]
  constructor
  · rintro ⟨i, hi, rfl⟩
    obtain ⟨name, hname, rfl⟩ := List.mem_map.mp hi
    exact hname
  · intro hname
    exact ⟨t.info name, List.mem_map_of_mem hname, rfl⟩

theorem count_of_mem_sources {i : SourceInfo} (hi : i ∈ t.sources) :
    i.count = (t.rowsOf i.source).length := by
  obtain ⟨name, -, rfl⟩ := List.mem_map.mp hi
  rfl

theorem rowsOf_ne_nil : t.rowsOf name ≠ [] ↔ ∃ r ∈ t.rows, r.source = name := by
  rw [rowsOf, ne_eq, List.filter_eq_nil_iff]
  simp only [beq_iff_eq, not_forall, not_not, exists_prop]

theorem length_rowsOf_eq_count (t : Table) (name : String) :
    (t.rowsOf name).length = (t.rows.map fun r => r.source).count name := by
  rw [List.count, List.countP_map, List.countP_eq_length_filter]
  rfl

theorem length_sources (t : Table) : t.sources.length = t.stats.sources := by
  rw [sources, List.length_map, sourceNames, List.length_mergeSort]
  rfl

theorem sum_counts (t : Table) : (t.sources.map SourceInfo.count).sum = t.rows.length := by
  have hcounts : t.sources.map SourceInfo.count =
      t.sourceNames.map fun name => (t.rows.map fun r => r.source).count name := by
    rw [sources, List.map_map]
    exact List.map_congr_left fun name _ => t.length_rowsOf_eq_count name
  have hnames : t.sourceNames.Perm (t.rows.map fun r => r.source).dedup := by
    rw [List.perm_ext_iff_of_nodup t.nodup_sourceNames (List.nodup_dedup _)]
    intro name
    rw [mem_sourceNames, List.mem_dedup, List.mem_map]
  rw [hcounts, (hnames.map _).sum_eq, List.sum_map_count_dedup_eq_length, List.length_map]

theorem sourceNames_erase (t : Table) (name : String) :
    (t.erase name).sourceNames = t.sourceNames.filter (· ≠ name) := by
  refine List.Perm.eq_of_pairwise (fun a b _ _ => String.le_antisymm) (sourceNames_pairwise _)
    (t.sourceNames_pairwise.filter _) ?_
  rw [List.perm_ext_iff_of_nodup (nodup_sourceNames _) (t.nodup_sourceNames.filter _)]
  intro other
  rw [mem_sourceNames, List.mem_filter, mem_sourceNames, decide_eq_true_eq]
  constructor
  · rintro ⟨r, hr, rfl⟩
    obtain ⟨hrow, hne⟩ := List.mem_filter.mp hr
    exact ⟨⟨r, hrow, rfl⟩, bne_iff_ne.mp hne⟩
  · rintro ⟨⟨r, hr, rfl⟩, hne⟩
    exact ⟨r, List.mem_filter.mpr ⟨hr, bne_iff_ne.mpr hne⟩, rfl⟩

theorem sources_erase (t : Table) (name : String) :
    (t.erase name).sources = t.sources.filter fun i => i.source ≠ name := by
  rw [sources, sourceNames_erase, sources, List.filter_map]
  refine List.map_congr_left fun other hother => ?_
  have hne : other ≠ name := of_decide_eq_true (List.mem_filter.mp hother).2
  rw [info, info, rowsOf_erase_of_ne t hne]

end Table

namespace Store

open TextMemory.Action

theorem Stored.readable {remaining : Table → Table} {ds : List Draft} {s t : Store}
    (h : Stored remaining ds s t) {r : Row} (hr : r ∈ t.medium.table.rows) :
    r ∈ (remaining s.medium.table).rows ∨ Readable r := by
  obtain ⟨ps, hps, hinsert⟩ := h
  obtain ⟨rs, hrs, hrows, -⟩ := insertDrafts_rows hinsert
  rw [hrows] at hr
  rcases List.mem_append.mp hr with hold | hnew
  · exact .inl hold
  · obtain ⟨p, hp, hbind⟩ := Result.exists_of_mem_right hrs (Row.record_of_mem_number hnew)
    obtain ⟨d, -, hprepare⟩ := Result.exists_of_mem_right (Result.mapM_eq_ok.mp hps) hp
    obtain ⟨c, hc, -⟩ := returns_of_bind hprepare hbind r.id
    exact .inr ⟨c, hc⟩

variable {s t : Store} {db : Database}

theorem sources_perform (hconnect : connect.perform s = (.ok db, t)) :
    sources.perform s = (.ok db.table.sources, t) := by
  rw [sources, perform_bind, hconnect]
  rfl

theorem stats_perform (hconnect : connect.perform s = (.ok db, t)) :
    stats.perform s = (.ok db.table.stats, t) := by
  rw [stats, perform_bind, hconnect]
  rfl

theorem deleteSource_sources (hconnect : connect.perform s = (.ok db, t)) (name : String) :
    ∃ u, (deleteSource name).perform s = (.ok (db.table.rowsOf name).length, u) ∧
      sources.perform u = (.ok (db.table.sources.filter fun i => i.source ≠ name), u) := by
  refine ⟨_, deleteSource_eq_ok.mpr ⟨db, t, hconnect, rfl, rfl⟩, ?_⟩
  rw [sources_perform (connect_leaving hconnect _ _), Table.sources_erase]

theorem vectorSearch_none [Numerics] {query : List Number} {limit : Int} {hits : List Hit}
    (hlimit : limit ≤ 0)
    (h : (vectorSearch query limit).perform s = (.ok hits, t)) : hits = [] := by
  rw [vectorSearch, perform_get_bind] at h
  obtain ⟨_, -, h⟩ := ofExcept_bind_ok.mp h
  rw [if_pos hlimit] at h
  cases h
  rfl

theorem vectorSearch_all [Numerics] {query : List Number} {limit : Int} {hits : List Hit}
    (hall : s.medium.table.rows.length ≤ limit)
    (h : (vectorSearch query limit).perform s = (.ok hits, t)) :
    hits.length = s.medium.table.rows.length := by
  by_cases hlimit : 0 < limit
  · obtain ⟨ranked, hranked, rfl⟩ := vectorSearch_ok hlimit h
    have hlength := hranked.length_eq
    rw [List.length_map] at hlength
    rw [List.length_map, List.length_take]
    omega
  · rw [vectorSearch_none (Int.not_lt.mp hlimit) h, List.length_nil]
    omega

theorem Ready.vectorSearch_returns [Numerics] (hs : s.Ready)
    (hwide : ∀ r ∈ s.medium.table.rows, Wide s.medium.dimensions? r) {query : List Number}
    (hquery : (query.length : Int) = s.dimensions) {xs : List Float}
    (hxs : Embedding.floats query = .ok xs)
    (limit : Int) : ∃ hits t, (Store.vectorSearch query limit).perform s = (.ok hits, t) := by
  by_cases hlimit : 0 < limit
  · obtain ⟨t, ht, -⟩ := hs.vectorSearch hwide hquery hxs hlimit
    exact ⟨_, t, ht⟩
  · have hsize : checkSize "query embedding" query.length s.dimensions = .ok () := if_pos hquery
    rw [Store.vectorSearch, perform_get_bind, hsize, perform_bind, perform_ofExcept]
    dsimp only
    rw [if_pos (Int.not_lt.mp hlimit)]
    exact ⟨_, _, rfl⟩

namespace History

variable {h : History}

theorem readable_step [Numerics] (hh : ∀ r ∈ h.medium.table.rows, Readable r) (e : Event) :
    ∀ r ∈ (h.step e).medium.table.rows, Readable r := by
  rcases h.table_step e with hsame | ⟨c, s, t, hs, hstored, hstep⟩
  · rwa [hsame]
  · rw [hstep]
    intro r hr
    rcases hstored.readable hr with hold | hnew
    · rw [hs] at hold
      exact hh r ((c.remaining_sublist _).subset hold)
    · exact hnew

theorem readable_run [Numerics] (hh : ∀ r ∈ h.medium.table.rows, Readable r) (es : List Event) :
    ∀ r ∈ (h.run es).medium.table.rows, Readable r := by
  induction es generalizing h with
  | nil => exact hh
  | cons e es ih => exact ih (readable_step hh e)

/-- Whatever has been called, what the store tells of its sources agrees with what it has. The
sources are listed by the bytes of their names, each with as many chunks as are read and as would be
deleted; the chunks of all of them are all chunks, and as many as a search by a vector finds when it
is asked for that many. Deleting a source takes its entry from the list and changes no other one. -/
theorem sources_tell_rows [Numerics] {m : Medium} (hm : m.database? = none)
    (es : List Event) {s : Store} (hs : s.medium = ((start m).run es).medium) (hready : s.Ready) :
    ∃ infos t, sources.perform s = (.ok infos, t) ∧
      infos.Pairwise (fun i j => Text.Utf8.encode i.source < Text.Utf8.encode j.source) ∧
      (∀ name, (∃ i ∈ infos, i.source = name) ↔ ∃ r ∈ s.medium.table.rows, r.source = name) ∧
      (∃ u, stats.perform s = (.ok ⟨(infos.map SourceInfo.count).sum, infos.length⟩, u)) ∧
      (∀ name, ∃ cs u v w, (getSource name).perform s = (.ok cs, u) ∧
        (∀ i ∈ infos, i.source = name → i.count = cs.length) ∧
        (cs ≠ [] ↔ ∃ i ∈ infos, i.source = name) ∧
        (deleteSource name).perform s = (.ok cs.length, v) ∧
        sources.perform v = (.ok (infos.filter fun i => i.source ≠ name), w)) ∧
      (∀ query xs, (query.length : Int) = s.dimensions → Embedding.floats query = .ok xs →
        ∀ limit, ∃ hits u, (vectorSearch query limit).perform s = (.ok hits, u)) ∧
      ∀ (query : List Number) (limit : Int) hits u,
      ((infos.map SourceInfo.count).sum : Int) ≤ limit →
        (vectorSearch query limit).perform s = (.ok hits, u) →
          hits.length = (infos.map SourceInfo.count).sum := by
  obtain ⟨db, t, hconnect, -, -⟩ := hready.connect
  have htable : db.table = s.medium.table := connect_table hconnect
  have hempty : ∀ r ∈ (start m).medium.table.rows, Readable r := by
    rw [start, Medium.table, hm]
    exact fun r hr => absurd hr List.not_mem_nil
  have hreadable : ∀ r ∈ db.table.rows, Readable r := by
    rw [htable, hs]
    exact readable_run hempty es
  have hwide : ∀ r ∈ s.medium.table.rows, Wide s.medium.dimensions? r := by
    rw [hs]
    exact wide_run hm es
  have hall : (db.table.sources.map SourceInfo.count).sum = s.medium.table.rows.length := by
    rw [Table.sum_counts, htable]
  refine ⟨db.table.sources, t, sources_perform hconnect, db.table.sources_ascend, ?_,
    ⟨t, ?_⟩, ?_, ?_, ?_⟩
  · intro name
    rw [← htable]
    exact Table.mem_sources
  · rw [stats_perform hconnect, hall, Table.length_sources, ← htable]
    rfl
  · intro name
    have hrows : ∀ r ∈ db.table.rowsOf name, Readable r :=
      fun r hr => hreadable r (List.mem_of_mem_filter hr)
    obtain ⟨cs, hread, hlength⟩ := mapM_bySource hrows
    obtain ⟨v, hdelete, hlisted⟩ := deleteSource_sources hconnect name
    have hget : (getSource name).perform s = (.ok cs, t) := by
      rw [getSource_perform hconnect, hread]
    refine ⟨cs, t, v, v, hget, ?_, ?_, hlength ▸ hdelete, hlisted⟩
    · rintro i hi rfl
      rw [Table.count_of_mem_sources hi, hlength]
    · rw [Table.mem_sources, ← Table.rowsOf_ne_nil, ← List.length_pos_iff,
        ← List.length_pos_iff, hlength]
  · intro query xs hquery hxs limit
    exact hready.vectorSearch_returns hwide hquery hxs limit
  · intro query limit hits u hlimit hsearch
    rw [hall] at hlimit ⊢
    exact vectorSearch_all hlimit hsearch

private def stocking : List Event := [
  .enter "memory.db" 1 .noon,
  .call 0 .noon (.writeBatch [
    .daily "green" "thé" [.int 1] 0, .daily "iced" "tea" [.int 1] 0,
    .daily "hot" "tea" [.int 1] 1])]

private def cupboard : Store :=
  ⟨"memory.db", 1, false, false, ((start .blank).run stocking).medium, .noon, []⟩

theorem sources_tell_rows_of_cupboard :
    Medium.blank.database? = none ∧ cupboard.Ready ∧
      ∃ infos t, sources.perform cupboard = (.ok infos, t) ∧
        infos.length = 2 ∧ (infos.map SourceInfo.count).sum = 3 ∧
        ∃ v w, (deleteSource "tea").perform cupboard = (.ok 2, v) ∧
          sources.perform v = (.ok (infos.filter fun i => i.source ≠ "tea"), w) := by
  have hblank : Medium.blank.database? = none := rfl
  have hready : cupboard.Ready := .inr (by decide +kernel)
  obtain ⟨infos, t, hinfos, -, -, ⟨u, hstats⟩, hnames, -⟩ :=
    sources_tell_rows hblank stocking rfl hready
  obtain ⟨cs, -, v, w, -, -, -, hdelete, hlisted⟩ := hnames "tea"
  have hcounted : (stats.perform cupboard).1.toOption = some ⟨3, 2⟩ := by decide +kernel
  have hdeleted : ((deleteSource "tea").perform cupboard).1.toOption = some 2 := by decide +kernel
  rw [hstats] at hcounted
  rw [hdelete] at hdeleted
  obtain ⟨hsum, hlength⟩ := Stats.mk.inj (Option.some.inj hcounted)
  obtain hcount : cs.length = 2 := Option.some.inj hdeleted
  exact ⟨hblank, hready, infos, t, hinfos, hlength, hsum, v, w, hcount ▸ hdelete, hlisted⟩

end History

end Store
end TextMemory
