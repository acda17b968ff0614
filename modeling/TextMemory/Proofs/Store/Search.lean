import Mathlib.Data.List.Nodup
import TextMemory.Proofs.Store.Operation

/-!
# Search in a store

The vector search has all rows in its ranking and cuts it at the limit; the keyword search has some
of the rows. Each hit shows a row, and hits of different rows of a sound table are told apart.
-/
namespace TextMemory

namespace Grid

theorem read_rows {texts : List Json} {g : Grid} (h : Grid.read texts = .ok g) :
    g.rows.length = texts.length := by
  obtain ⟨shape, -, h⟩ := Result.bind_eq_ok.mp h
  obtain ⟨rows, hrows, h⟩ := Result.bind_eq_ok.mp h
  cases h
  exact (Result.mapM_eq_ok.mp hrows).length_eq.symm

theorem distances_length [Numerics] {g : Grid} {query ds : List Float}
    (h : g.distances query = .ok ds) :
    ds.length = g.rows.length := by
  unfold distances at h
  split at h
  · dsimp only at h
    split at h
    · cases h
    · split at h
      · cases h
        exact Similarity.length_distances g.rows query
      · split at h
        · cases h
        · cases h
  · cases h

end Grid

def Row.hitKey (r : Row) : Ranking.Key := (r.source, some r.index.canonical)

namespace Table

/-- The hit is a row of the table, under some score. -/
def Shows (t : Table) (h : Hit) : Prop := ∃ r ∈ t.rows, ∃ x, h = Store.hitOf r x

theorem Sound.nodup_hitKeys {t : Table} (ht : t.Sound) : (t.rows.map Row.hitKey).Nodup := by
  refine List.pairwise_map.mpr (ht.keys.imp fun {a b} hab hkey => hab ?_)
  obtain ⟨hsource, hindex⟩ := Prod.mk.inj hkey
  exact Prod.ext hsource (Option.some.inj hindex)

theorem Sound.eq_of_hitKey {t : Table} (ht : t.Sound) {r s : Row} (hr : r ∈ t.rows)
    (hs : s ∈ t.rows) (h : r.hitKey = s.hitKey) : r = s :=
  List.inj_on_of_nodup_map ht.nodup_hitKeys hr hs h

end Table

namespace Store

open TextMemory.Action

@[simp] theorem key_hitOf (r : Row) (x : Float) : Ranking.key (hitOf r x) = r.hitKey := by
  unfold Ranking.key Row.hitKey hitOf
  cases r.index with
  | number n => rfl
  | text s => rfl

section

variable [Numerics]

theorem rowDistances_rows {rows : List Row} {query : List Number}
    {found : List (Row × Float)}
    (h : rowDistances rows query = .ok found) : found.map Prod.fst = rows := by
  obtain ⟨texts, htexts, h⟩ := Result.bind_eq_ok.mp h
  obtain ⟨grid, hgrid, h⟩ := Result.bind_eq_ok.mp h
  obtain ⟨vector, -, h⟩ := Result.bind_eq_ok.mp h
  obtain ⟨ds, hds, h⟩ := Result.bind_eq_ok.mp h
  cases h
  have hlength : ds.length = rows.length := by
    rw [Grid.distances_length hds, Grid.read_rows hgrid, (Result.mapM_eq_ok.mp htexts).length_eq]
  exact List.map_fst_zip (Nat.le_of_eq hlength.symm)

theorem vectorSearch_ok {query : List Number} {limit : Int} {s t : Store}
    {near : List Hit} (hlimit : 0 < limit)
    (h : (vectorSearch query limit).perform s = (.ok near, t)) :
    ∃ ranked : List (Row × Float), (ranked.map Prod.fst).Perm s.medium.table.rows ∧
      near = (ranked.take limit.toNat).map fun e => hitOf e.1 (Similarity.score e.2) := by
  rw [vectorSearch, perform_get_bind] at h
  obtain ⟨_, -, h⟩ := ofExcept_bind_ok.mp h
  rw [if_neg (Int.not_le.mpr hlimit)] at h
  obtain ⟨db, u, hu, h⟩ := perform_bind_ok.mp h
  rw [← connect_table hu]
  split at h
  · rename_i hempty
    cases h
    refine ⟨[], ?_, ?_⟩
    · rw [List.isEmpty_iff.mp hempty]
      exact .nil
    · rw [List.take_nil, List.map_nil]
  · obtain ⟨found, hfound, h⟩ := ofExcept_bind_ok.mp h
    cases h
    refine ⟨Similarity.nearestFirst found, ?_, rfl⟩
    rw [← rowDistances_rows hfound]
    exact (List.mergeSort_perm _ _).map Prod.fst

theorem vectorSearch_keys {query : List Number} {limit : Int} {s t : Store}
    {near : List Hit} (hs : s.medium.table.Sound) (hlimit : 0 < limit)
    (h : (vectorSearch query limit).perform s = (.ok near, t)) :
    near.length = min limit.toNat s.medium.table.rows.length ∧ (near.map Ranking.key).Nodup := by
  obtain ⟨ranked, hranked, rfl⟩ := vectorSearch_ok hlimit h
  have hkeys := (hranked.map Row.hitKey).nodup_iff.mpr hs.nodup_hitKeys
  rw [List.map_map] at hkeys
  constructor
  · rw [List.length_map, List.length_take, ← hranked.length_eq, List.length_map]
  · rw [List.map_map, List.map_congr_left fun e _ => key_hitOf e.1 (Similarity.score e.2),
      List.map_take]
    exact hkeys.sublist (List.take_sublist _ _)

theorem vectorSearch_shows {query : List Number} {limit : Int} {s t : Store}
    {near : List Hit} (hlimit : 0 < limit)
    (h : (vectorSearch query limit).perform s = (.ok near, t)) :
    ∀ hit ∈ near, s.medium.table.Shows hit := by
  obtain ⟨ranked, hranked, rfl⟩ := vectorSearch_ok hlimit h
  intro hit hhit
  obtain ⟨e, he, rfl⟩ := List.mem_map.mp hhit
  have hmem : e.1 ∈ ranked.map Prod.fst := List.mem_map_of_mem (List.mem_of_mem_take he)
  exact ⟨e.1, hranked.mem_iff.mp hmem, _, rfl⟩

end

theorem keywordSearch_shows {query : String} {limit : Int} {s t : Store} {matching : List Hit}
    (h : (keywordSearch query limit).perform s = (.ok matching, t)) :
    ∀ hit ∈ matching, s.medium.table.Shows hit := by
  dsimp only [keywordSearch] at h
  split at h
  · cases h
    exact fun hit hhit => absurd hhit List.not_mem_nil
  · obtain ⟨db, u, hu, h⟩ := perform_bind_ok.mp h
    obtain ⟨limit, -, h⟩ := ofExcept_bind_ok.mp h
    split at h
    · cases h
    · cases h
      intro hit hhit
      obtain ⟨⟨r, n⟩, he, rfl⟩ := List.mem_map.mp hhit
      have hmatch := List.mem_mergeSort.mp (List.mem_of_mem_take he)
      obtain ⟨row, hrow, heq⟩ := List.mem_map.mp (List.mem_filter.mp hmatch).1
      rw [← connect_table hu]
      exact ⟨r, (Prod.mk.inj heq).1 ▸ hrow, _, rfl⟩

end Store
end TextMemory
