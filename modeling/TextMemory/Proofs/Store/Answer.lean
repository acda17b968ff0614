import TextMemory.Proofs.Store.Dimensions
import TextMemory.Proofs.Store.Search

/-!
# Which searches of a store give an answer

In rows that are all as wide as the store has dimensions, each vector of that length has its nearest
rows. A search by keywords fails where the limit is no integer of sixty-four bits, and where a
keyword makes too long a pattern and there are rows to try it on.
-/
namespace TextMemory

open TextMemory.Action

def Row.vector (r : Row) : List Float :=
  match Embedding.read r.embedding with
  | .ok (.array items) => items.filterMap fun item =>
    match item with
    | .number (.float x) => some x
    | _ => none
  | _ => []

theorem Row.vector_eq {r : Row} {v : List Float}
    (h : Embedding.read r.embedding = .ok (.array (v.map Json.float))) : r.vector = v := by
  simp [vector, h, List.filterMap_map]

def Table.refusal? (t : Table) (query : String) (limit : Int) : Option Fault :=
  if Keyword.extract query = [] then none
  else if lastWord < limit then some .storedInteger
  else if t.rows ≠ [] ∧
      ∃ w ∈ Keyword.extract query, Keyword.longestPattern < (Keyword.pattern w).utf8ByteSize then
    some .patternTooLong
  else none

namespace Table

variable {t : Table} {query : String} {limit : Int}

theorem refusal?_blank (h : Keyword.extract query = []) : t.refusal? query limit = none := if_pos h

theorem refusal?_storedInteger (hwords : Keyword.extract query ≠ []) (hlimit : lastWord < limit) :
    t.refusal? query limit = some .storedInteger := by
  rw [refusal?, if_neg hwords, if_pos hlimit]

theorem refusal?_patternTooLong (hlimit : ¬(Keyword.extract query ≠ [] ∧ lastWord < limit))
    (hlong : t.rows ≠ [] ∧
      ∃ w ∈ Keyword.extract query, Keyword.longestPattern < (Keyword.pattern w).utf8ByteSize) :
    t.refusal? query limit = some .patternTooLong := by
  obtain ⟨w, hw, -⟩ := hlong.2
  have hwords : Keyword.extract query ≠ [] := List.ne_nil_of_mem hw
  rw [refusal?, if_neg hwords, if_neg fun h => hlimit ⟨hwords, h⟩, if_pos hlong]

theorem refusal?_none (hlimit : ¬(Keyword.extract query ≠ [] ∧ lastWord < limit))
    (hlong : ¬(t.rows ≠ [] ∧
      ∃ w ∈ Keyword.extract query, Keyword.longestPattern < (Keyword.pattern w).utf8ByteSize)) :
    t.refusal? query limit = none := by
  by_cases hwords : Keyword.extract query = []
  · exact refusal?_blank hwords
  · rw [refusal?, if_neg hwords, if_neg fun h => hlimit ⟨hwords, h⟩, if_neg hlong]

end Table

namespace Store

variable {s : Store} {limit : Int}

theorem checkIndex_of_shows {t : Table} {hit : Hit} (h : t.Shows hit) :
    Ranking.checkIndex hit = .ok () := by
  obtain ⟨r, -, x, rfl⟩ := h
  rw [Ranking.checkIndex, hitOf]
  cases r.index with
  | number n => rfl
  | text s => rfl

section

variable {t : Store} {db : Database}

theorem vectorSearch_perform [Numerics] (hconnect : connect.perform s = (.ok db, t))
    {query : List Number} (hquery : (query.length : Int) = s.dimensions) (hlimit : 0 < limit) :
    (vectorSearch query limit).perform s =
      (if db.table.rows.isEmpty then .ok []
        else (rowDistances db.table.rows query).map fun found =>
          ((Similarity.nearestFirst found).take limit.toNat).map fun e =>
            hitOf e.1 (Similarity.score e.2), t) := by
  have hsize : checkSize "query embedding" query.length s.dimensions = .ok () := if_pos hquery
  rw [vectorSearch, perform_get_bind, hsize, perform_bind, perform_ofExcept]
  dsimp only
  rw [if_neg (Int.not_le.mpr hlimit), perform_bind, hconnect]
  dsimp only
  split
  · rfl
  · rw [perform_bind, perform_ofExcept]
    cases rowDistances db.table.rows query <;> rfl

theorem keywordSearch_perform (hconnect : connect.perform s = (.ok db, t)) {query : String}
    (hwords : Keyword.extract query ≠ []) (hlimit : 0 < limit) :
    (keywordSearch query limit).perform s =
      ((Cell.word limit).bind fun n =>
        if !db.table.rows.isEmpty && ((Keyword.extract query).map Keyword.pattern).any
            (fun p => Keyword.longestPattern < p.utf8ByteSize) then .error .patternTooLong
        else .ok (((matching ((Keyword.extract query).map Keyword.pattern) db.table.rows).take
          n.toNat).map fun e => hitOf e.1 (e.2.toFloat / (Keyword.extract query).length.toFloat)),
            t) := by
  have hsearched : ((Keyword.extract query).isEmpty || decide (limit ≤ 0)) = false := by
    simp [hwords, hlimit]
  dsimp only [keywordSearch]
  rw [hsearched, if_neg Bool.false_ne_true, perform_bind, hconnect]
  dsimp only
  rw [perform_bind, perform_ofExcept]
  cases Cell.word limit with
  | error f => rfl
  | ok n =>
    simp only [Except.bind]
    split <;> rfl

end

theorem vectorSearch_length [Numerics] {query : List Number} {t : Store} {near : List Hit}
    (hlimit : 0 < limit) (h : (vectorSearch query limit).perform s = (.ok near, t)) :
    near.length ≤ s.medium.table.rows.length := by
  obtain ⟨ranked, hranked, rfl⟩ := vectorSearch_ok hlimit h
  rw [List.length_map, List.length_take, ← hranked.length_eq, List.length_map]
  exact Nat.min_le_right _ _

theorem Ready.read_vector (hs : s.Ready) {r : Row} (hwide : Wide s.medium.dimensions? r) :
    Embedding.read r.embedding = .ok (.array (r.vector.map Json.float)) ∧
      (r.vector.length : Int) = s.dimensions := by
  obtain ⟨v, hv, hn⟩ := hwide
  rw [Row.vector_eq hv]
  rcases hs with ⟨hblank, -⟩ | hdimensions
  · rw [hblank] at hn
    cases hn
  · rw [hdimensions] at hn
    exact ⟨hv, (Option.some.inj hn).symm⟩

theorem Ready.vectorSearch [Numerics] (hs : s.Ready)
    (hwide : ∀ r ∈ s.medium.table.rows, Wide s.medium.dimensions? r) {query : List Number}
    (hquery : (query.length : Int) = s.dimensions) {xs : List Float}
    (hxs : Embedding.floats query = .ok xs) (hlimit : 0 < limit) :
    ∃ t, (Store.vectorSearch query limit).perform s =
      (.ok (((Similarity.nearestFirst (s.medium.table.rows.zip
        (Similarity.distances (s.medium.table.rows.map Row.vector) xs))).take limit.toNat).map
          fun e => hitOf e.1 (Similarity.score e.2)), t) ∧ t.Ready := by
  obtain ⟨db, t, hconnect, -, ht⟩ := hs.connect
  rw [vectorSearch_perform hconnect hquery hlimit, connect_table hconnect]
  refine ⟨t, ?_, ht⟩
  by_cases hempty : s.medium.table.rows = []
  · simp [hempty, Similarity.nearestFirst]
  · have hvectors : Vectors s.medium.table.rows (s.medium.table.rows.map Row.vector) := by
      rw [Vectors, List.forall₂_map_right_iff, List.forall₂_same]
      exact fun r hr => (hs.read_vector (hwide r hr)).1
    have hwidth : ∀ v ∈ s.medium.table.rows.map Row.vector, v.length = query.length := by
      intro v hv
      obtain ⟨r, hr, rfl⟩ := List.mem_map.mp hv
      have hlength := (hs.read_vector (hwide r hr)).2
      omega
    rw [if_neg (by simpa using hempty), rowDistances_vectors hvectors hempty hwidth, hxs]
    rfl

theorem word_of_le (hlimit : 0 < limit) (hword : limit ≤ Table.lastWord) :
    Cell.word limit = .ok limit := by
  have hwithin : limit ≤ 9223372036854775807 := hword
  have hpositive : -9223372036854775808 ≤ limit := by omega
  simp [Cell.word, Cell.inWord, hwithin, hpositive]

theorem matching_length_le (patterns : List String) (rows : List Row) :
    (matching patterns rows).length ≤ rows.length := by
  rw [matching, List.length_mergeSort]
  exact (List.length_filter_le _ _).trans (Nat.le_of_eq (List.length_map _))

theorem keywordSearch_length {query : String} {t : Store} {found : List Hit}
    (h : (keywordSearch query limit).perform s = (.ok found, t)) :
    found.length ≤ s.medium.table.rows.length := by
  dsimp only [keywordSearch] at h
  split at h
  · cases h
    exact Nat.zero_le _
  · obtain ⟨db, u, hu, h⟩ := perform_bind_ok.mp h
    obtain ⟨limit, -, h⟩ := ofExcept_bind_ok.mp h
    split at h
    · cases h
    · cases h
      rw [List.length_map, List.length_take, ← connect_table hu]
      exact (Nat.min_le_right _ _).trans (matching_length_le _ _)

theorem keywordSearch_none {query : String} (hwords : Keyword.extract query = []) :
    (keywordSearch query limit).perform s = (.ok [], s) := by
  dsimp only [keywordSearch]
  rw [if_pos (by simp [hwords])]
  rfl

theorem Ready.keywordSearch (hs : s.Ready) (query : String) (hlimit : 0 < limit) :
    (s.medium.table.refusal? query limit = none →
      ∃ found t, (Store.keywordSearch query limit).perform s = (.ok found, t)) ∧
    ∀ f, s.medium.table.refusal? query limit = some f →
      ∃ t, (Store.keywordSearch query limit).perform s = (.error f, t) := by
  obtain ⟨db, t, hconnect, -, -⟩ := hs.connect
  rw [Table.refusal?]
  by_cases hwords : Keyword.extract query = []
  · rw [if_pos hwords]
    exact ⟨fun _ => ⟨[], s, keywordSearch_none hwords⟩, fun f hf => nomatch hf⟩
  · rw [if_neg hwords, keywordSearch_perform hconnect hwords hlimit, connect_table hconnect]
    by_cases hword : Table.lastWord < limit
    · have hrefused : Cell.word limit = .error .storedInteger := by
        have hbeyond : 9223372036854775807 < limit := hword
        simp [Cell.word, Cell.inWord, hbeyond]
      rw [if_pos hword, hrefused]
      refine ⟨fun h => (nomatch h), fun f hf => ?_⟩
      cases hf
      exact ⟨t, rfl⟩
    · have hkept := word_of_le hlimit (Int.not_lt.mp hword)
      have hlong :
          (!s.medium.table.rows.isEmpty && ((Keyword.extract query).map Keyword.pattern).any
          (fun p => Keyword.longestPattern < p.utf8ByteSize)) = true ↔ s.medium.table.rows ≠ [] ∧
            ∃ w ∈ Keyword.extract query,
              Keyword.longestPattern < (Keyword.pattern w).utf8ByteSize := by
        simp
      rw [if_neg hword, hkept]
      by_cases hrefused : s.medium.table.rows ≠ [] ∧
          ∃ w ∈ Keyword.extract query, Keyword.longestPattern < (Keyword.pattern w).utf8ByteSize
      · rw [if_pos hrefused]
        simp only [Except.bind, hlong.mpr hrefused, if_true]
        refine ⟨fun h => (nomatch h), fun f hf => ?_⟩
        cases hf
        exact ⟨t, rfl⟩
      · rw [if_neg hrefused]
        simp only [Except.bind, mt hlong.mp hrefused]
        exact ⟨fun _ => ⟨_, t, rfl⟩, fun f hf => nomatch hf⟩

end Store
end TextMemory
