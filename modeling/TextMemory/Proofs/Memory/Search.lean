import Mathlib.Data.List.Perm.Subperm
import TextMemory.Proofs.Memory.History
import TextMemory.Proofs.Ranking
import TextMemory.Proofs.Store.Search
import TextMemory.Proofs.Text

/-!
# What a search finds

The candidates of the vector search are all rows, or at least as many as hits are asked for; so the
merged ranking has enough of them, and all it has are rows, each once. What is left after the cut
are as many hits as were asked for, or all rows there are.
-/
namespace TextMemory

open TextMemory.Action

namespace Memory

section

variable [Numerics]

def merged (query : String) (limit : Int) : Action Memory (List (Hit × Float)) := do
  tell .debug s!"memory search: query={Text.quoted query} max_results={limit}"
  let s := (← get).settings
  let vector ← embedOne (Text.strip query)
  let near ← onStore (Store.vectorSearch vector (limit * s.candidateMultiplier))
  let matching ← onStore (Store.keywordSearch (Text.strip query) (limit * s.candidateMultiplier))
  Action.ofExcept (Ranking.merged Ranking.binary64 (s.vectorWeight, near)
    (s.keywordWeight, matching) s.rankConstant.toNat)

theorem search_ok {query : String} {limit : Int} {m n : Memory} {hits : List Hit}
    (hquery : Text.isBlankText query = false) (hlimit : 1 ≤ limit)
    (h : (search query limit).perform m = (.ok hits, n)) :
    ∃ es k, (merged query limit).perform m = (.ok es, k) ∧
      hits = ((Ranking.ordered Ranking.binary64 es).take limit.toNat).map Ranking.scored := by
  have hstrip : (Text.strip query).isEmpty = false := (Text.strip_isEmpty query).trans hquery
  unfold search at h
  rw [if_neg (Int.not_lt.mpr hlimit)] at h
  obtain ⟨_, m₁, htell, h⟩ := perform_bind_ok.mp h
  simp only [hstrip, Bool.false_eq_true, if_false] at h
  rw [perform_get_bind] at h
  obtain ⟨vector, m₂, hvector, h⟩ := perform_bind_ok.mp h
  obtain ⟨near, m₃, hnear, h⟩ := perform_bind_ok.mp h
  obtain ⟨matching, m₄, hmatching, h⟩ := perform_bind_ok.mp h
  rw [perform_ofExcept] at h
  obtain ⟨-, es, hes, -, rfl⟩ :=
    (Ranking.fuse_eq_ok (Int.lt_of_lt_of_le Int.one_pos hlimit)).mp (Prod.mk.inj h).1
  refine ⟨es, m₄, ?_, rfl⟩
  refine perform_bind_ok.mpr ⟨(), m₁, htell, ?_⟩
  rw [perform_get_bind]
  refine perform_bind_ok.mpr ⟨vector, m₂, hvector, perform_bind_ok.mpr ⟨near, m₃, hnear, ?_⟩⟩
  refine perform_bind_ok.mpr ⟨matching, m₄, hmatching, ?_⟩
  rw [perform_ofExcept, hes]

theorem merged_ok {query : String} {limit : Int} {m n : Memory} {es : List (Hit × Float)}
    (ht : m.store.medium.table.Sound) (hcandidates : 0 < limit * m.settings.candidateMultiplier)
    (h : (merged query limit).perform m = (.ok es, n)) :
    ∃ near matching,
      near.length = min (limit * m.settings.candidateMultiplier).toNat
        m.store.medium.table.rows.length ∧
      (near.map Ranking.key).Nodup ∧
      (∀ hit ∈ near, m.store.medium.table.Shows hit) ∧
      (∀ hit ∈ matching, m.store.medium.table.Shows hit) ∧
      Ranking.merged Ranking.binary64 (m.settings.vectorWeight, near)
        (m.settings.keywordWeight, matching) m.settings.rankConstant.toNat = .ok es := by
  obtain ⟨_, m₁, htell, h⟩ := perform_bind_ok.mp h
  rw [perform_get_bind] at h
  obtain ⟨vector, m₂, hvector, h⟩ := perform_bind_ok.mp h
  obtain ⟨near, m₃, hnear, h⟩ := perform_bind_ok.mp h
  obtain ⟨matching, m₄, hmatching, h⟩ := perform_bind_ok.mp h
  rw [perform_ofExcept] at h
  have hes := (Prod.mk.inj h).1
  -- both searches look at the table that lay there at the beginning
  have htold := (tell_reads _ _).of_perform htell
  have hembedded := (embedOne_reads _).of_perform hvector
  have hsearched := (onStore_reads (Store.vectorSearch_reads _ _)).of_perform hnear
  have hbefore : m₂.store.medium.table = m.store.medium.table :=
    hembedded.store.table.trans htold.store.table
  have hbetween : m₃.store.medium.table = m.store.medium.table :=
    hsearched.store.table.trans hbefore
  rw [htold.settings] at hnear hmatching hes
  have hfound := (onStore_ok hnear).1
  obtain ⟨hlength, hnodup⟩ := Store.vectorSearch_keys (hbefore ▸ ht) hcandidates hfound
  have hnearShows := Store.vectorSearch_shows hcandidates hfound
  have hmatchingShows := Store.keywordSearch_shows (onStore_ok hmatching).1
  rw [hbefore] at hlength hnearShows
  rw [hbetween] at hmatchingShows
  exact ⟨near, matching, hlength, hnodup, hnearShows, hmatchingShows, hes⟩

/-- The merged results are rows, each of them once, and there are enough of them. -/
theorem merged_shows {query : String} {limit : Int} {m n : Memory}
    {es : List (Hit × Float)} (ht : m.store.medium.table.Sound)
    (hcandidates : 0 < limit * m.settings.candidateMultiplier)
    (h : (merged query limit).perform m = (.ok es, n)) :
    (Ranking.keys es).Nodup ∧ (∀ e ∈ es, m.store.medium.table.Shows e.1) ∧
      min (limit * m.settings.candidateMultiplier).toNat m.store.medium.table.rows.length ≤
        es.length := by
  obtain ⟨near, matching, hlength, hnodup, hnear, hmatching, hes⟩ := merged_ok ht hcandidates h
  refine ⟨Ranking.nodup_keys_merged hes, ?_, ?_⟩
  · intro e he
    rcases Ranking.fst_of_mem_merged hes he with hmem | hmem
    · exact hnear e.1 hmem
    · exact hmatching e.1 hmem
  · have hsubset : near.map Ranking.key ⊆ Ranking.keys es := by
      intro c hc
      exact (Ranking.mem_keys_merged hes).mpr (.inl hc)
    have hle := (List.Nodup.subperm hnodup hsubset).length_le
    rw [List.length_map, hlength, Ranking.keys, List.length_map] at hle
    exact hle

end

theorem length_le_of_shows {t : Table} {es : List (Hit × Float)} (hkeys : (Ranking.keys es).Nodup)
    (hes : ∀ e ∈ es, t.Shows e.1) : es.length ≤ t.rows.length := by
  have hsubset : Ranking.keys es ⊆ t.rows.map Row.hitKey := by
    intro c hc
    obtain ⟨e, he, rfl⟩ := List.mem_map.mp hc
    obtain ⟨r, hr, x, hx⟩ := hes e he
    rw [hx, Store.key_hitOf]
    exact List.mem_map_of_mem hr
  have hle := (List.Nodup.subperm hkeys hsubset).length_le
  rwa [Ranking.keys, List.length_map, List.length_map] at hle

namespace History

/-- A search with any words in it finds as many hits as are asked for, or all rows if there are
fewer. Each hit is the one row that is stored under its key, and no key comes twice. If all merged
scores are numbers, no hit has a lower score than one behind it. -/
theorem search_finds_rows [Numerics] {start : Medium} (hstart : start.table = Table.empty)
    (es : List Event) {m n : Memory} (hm : m.store.medium = ((History.start start).run es).medium)
    (hmultiplier : 1 ≤ m.settings.candidateMultiplier) {query : String}
    (hquery : Text.isBlankText query = false) {limit : Int} (hlimit : 1 ≤ limit)
    {hits : List Hit} (h : (search query limit).perform m = (.ok hits, n)) :
    (hits.length : Int) = min limit m.store.medium.table.rows.length ∧
    (hits.map Ranking.key).Nodup ∧
    (∀ hit ∈ hits, ∃ r ∈ m.store.medium.table.rows, hit = Store.hitOf r hit.score ∧
      ∀ s ∈ m.store.medium.table.rows, s.hitKey = Ranking.key hit → s = r) ∧
    ∃ found k, (merged query limit).perform m = (.ok found, k) ∧
      hits = ((Ranking.ordered Ranking.binary64 found).take limit.toNat).map Ranking.scored ∧
      ((∀ e ∈ found, e.2.isNaN = false) → hits.Pairwise fun a b => b.score ≤ a.score) := by
  have ht : m.store.medium.table.Sound := by
    rw [hm]
    exact ((kept_start hstart).run es).sound
  obtain ⟨found, k, hfound, rfl⟩ := search_ok hquery hlimit h
  have hmore : limit * 1 ≤ limit * m.settings.candidateMultiplier :=
    Int.mul_le_mul_of_nonneg_left hmultiplier (by omega)
  have hcandidates : 0 < limit * m.settings.candidateMultiplier := by omega
  obtain ⟨hkeys, hshows, henough⟩ := merged_shows ht hcandidates hfound
  have hperm := Ranking.ordered_perm Ranking.binary64 found
  refine ⟨?_, ?_, ?_, found, k, hfound, rfl, ?_⟩
  · have hmost := length_le_of_shows hkeys hshows
    rw [List.length_map, List.length_take, hperm.length_eq]
    omega
  · rw [List.map_map, List.map_take]
    exact ((hperm.map _).nodup_iff.mpr hkeys).sublist (List.take_sublist _ _)
  · intro hit hhit
    obtain ⟨e, he, rfl⟩ := List.mem_map.mp hhit
    obtain ⟨r, hr, x, hx⟩ := hshows e (hperm.mem_iff.mp (List.mem_of_mem_take he))
    refine ⟨r, hr, ?_, ?_⟩
    · rw [Ranking.scored, hx]
      rfl
    · intro s hs hkey
      refine ht.eq_of_hitKey hs hr (hkey.trans ?_)
      rw [← Store.key_hitOf r x, ← hx]
      rfl
  · intro hnumbers
    rw [List.pairwise_map]
    exact (Ranking.ordered_pairwise hnumbers).sublist (List.take_sublist _ _)

private def changes : List Event := [
  .enter (.cutting 1 400 80) ⟨"test", 1, Embedder.flat⟩ .noon,
  .call 0 .noon Embedder.flat (.write "cold tea" (some "A") .null),
  .call 0 .noon Embedder.flat (.write "milk" (some "B") .null),
  .call 0 .noon Embedder.flat (.write "green tea" (some "A") (.string "Tea")),
  .call 0 .noon Embedder.flat (.delete "B")]

private def reader : Memory :=
  ⟨.cutting 1 400 80, ⟨"memory.db", 1, true, true, ((start .blank).run changes).medium, .noon, []⟩,
    ⟨"test", 1, Embedder.flat⟩, [], []⟩

private def foundText? : Except Fault (List Hit) → Option (List (String × Option String))
  | .ok hits => some (hits.map fun h => (h.content, h.title))
  | .error _ => none

theorem search_finds_rows_of_changes :
    ∃ hits n, (search " is it " 3).perform reader = (.ok hits, n) ∧
      hits.map (fun h => (h.content, h.title)) = [("green tea", some "Tea")] ∧
      (hits.length : Int) = min 3 (reader.store.medium.table.rows.length : Int) ∧
      (hits.map Ranking.key).Nodup := by
  have hfound : foundText? ((search " is it " 3).perform reader).1 =
      some [("green tea", some "Tea")] := by
    decide +kernel
  cases hsearch : (search " is it " 3).perform reader with
  | mk answer n =>
    rw [hsearch] at hfound
    cases answer with
    | ok hits =>
      have hblank : Medium.blank.table = Table.empty := rfl
      have hrows := search_finds_rows hblank changes (m := reader) rfl (by decide) (by decide)
        (by decide) hsearch
      exact ⟨hits, n, rfl, Option.some.inj hfound, hrows.1, hrows.2.1⟩
    | error f => cases hfound

end History
end Memory
end TextMemory
