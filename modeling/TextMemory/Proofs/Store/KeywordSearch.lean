import TextMemory.Proofs.Keyword
import TextMemory.Proofs.Precedence
import TextMemory.Proofs.Store.Answer
import TextMemory.Proofs.Text

/-!
# What a search by keywords finds

The rows in which a keyword occurs are ranked by how many of the keywords they have, a keyword that
comes twice counting twice. A merge sort leaves rows that have equally many in the order of their
ids.
-/
namespace TextMemory

open TextMemory.Action

namespace Keyword

variable {query : String}

theorem extract_eq (query : String) :
    extract query =
      (((Text.wordsFrom [] query.toList).filter
        fun run => 3 ≤ run.length).take 5).map String.ofList := by
  simp [extract, Text.words, List.filter_map, List.map_take, Function.comp_def]

theorem mem_of_mem_extract {w : String} (hw : w ∈ extract query) {c : Char} (hc : c ∈ w.toList) :
    c ∈ query.toList := by
  rw [extract_eq] at hw
  obtain ⟨run, hrun, rfl⟩ := List.mem_map.mp hw
  rw [String.toList_ofList] at hc
  exact (Text.runs_iff.mpr rfl).mem (List.mem_of_mem_filter (List.mem_of_mem_take hrun)) hc

def hits (query text : String) : Nat :=
  (extract query).countP fun w => Within w.toList text.toList

theorem matchCount_eq_hits {text : String} (hquery : nul ∉ query.toList)
    (htext : nul ∉ text.toList) :
    matchCount ((extract query).map pattern) text = hits query text := by
  rw [matchCount, List.countP_map, hits]
  apply List.countP_congr
  intro w hw
  have hword : nul ∉ w.toList := fun hc => hquery (mem_of_mem_extract hw hc)
  simpa using like_pattern_within hword htext

theorem hits_pos {text : String} : 0 < hits query text ↔
    ∃ w ∈ extract query, Within w.toList text.toList := by
  simp [hits]

theorem hits_le (query text : String) : hits query text ≤ (extract query).length :=
  List.countP_le_length

theorem extract_length_le (query : String) : (extract query).length ≤ 5 := by
  rw [extract, List.length_take]
  exact Nat.min_le_left _ _

def share (query text : String) : Float :=
  (hits query text).toFloat / (extract query).length.toFloat

theorem quotient_bounds : ∀ k ≤ 5, ∀ n ≤ k, 0 < n →
    0 < n.toFloat / k.toFloat ∧ n.toFloat / k.toFloat ≤ 1 := by
  decide +kernel

theorem share_bounds {text : String} (h : 0 < hits query text) :
    0 < share query text ∧ share query text ≤ 1 :=
  quotient_bounds _ (extract_length_le query) _ (hits_le query text) h

end Keyword

namespace Store

open Keyword

variable {s : Store} {query : String} {rows : List Row}

def found (query : String) (rows : List Row) : List Row :=
  (rows.filter fun r => 0 < hits query r.content).mergeSort fun a b =>
    hits query b.content ≤ hits query a.content

theorem mem_found {r : Row} :
    r ∈ found query rows ↔ r ∈ rows ∧ ∃ w ∈ extract query, Within w.toList r.content.toList := by
  rw [found, List.mem_mergeSort, List.mem_filter, decide_eq_true_eq, hits_pos]

theorem found_ranked (hrows : rows.Pairwise fun a b => a.id < b.id) :
    (found query rows).Pairwise fun a b => hits query b.content < hits query a.content ∨
      hits query a.content = hits query b.content ∧ a.id < b.id := by
  have hsorted := Precedence.pairwise_mergeSort
    (fun a b : Row => hits query b.content ≤ hits query a.content) ?_ ?_
    (hrows.filter fun r => 0 < hits query r.content)
  · refine hsorted.imp fun {a b} hab => ?_
    simp only [decide_eq_true_eq] at hab
    obtain ⟨hmost, hties⟩ := hab
    rcases Nat.lt_or_eq_of_le hmost with hless | hsame
    · exact .inl hless
    · exact .inr ⟨hsame.symm, hties (Nat.le_of_eq hsame.symm)⟩
  · intro a b c hab hbc
    simp only [decide_eq_true_eq] at hab hbc ⊢
    exact Nat.le_trans hbc hab
  · intro a b
    simp only [Bool.or_eq_true, decide_eq_true_eq]
    exact Nat.le_total _ _

theorem matching_eq_found (hquery : nul ∉ query.toList)
    (hrows : ∀ r ∈ rows, nul ∉ r.content.toList) :
    matching ((extract query).map pattern) rows =
      (found query rows).map fun r => (r, hits query r.content) := by
  have hcount : ∀ r ∈ rows, matchCount ((extract query).map pattern) r.content =
      hits query r.content :=
    fun r hr => matchCount_eq_hits hquery (hrows r hr)
  have hpairs : rows.map (fun r => (r, matchCount ((extract query).map pattern) r.content)) =
      rows.map fun r => (r, hits query r.content) :=
    List.map_congr_left fun r hr => by rw [hcount r hr]
  rw [matching, hpairs, List.filter_map, found, List.map_mergeSort]
  · rfl
  · intro a _ b _
    rfl

theorem Ready.keywordSearch_found (hs : s.Ready)
    (hcontents : ∀ r ∈ s.medium.table.rows, nul ∉ r.content.toList) (hquery : nul ∉ query.toList)
    (hshort : ∀ w ∈ extract query, (pattern w).utf8ByteSize ≤ longestPattern)
    {limit : Int} (hlimit : 1 ≤ limit) (hword : limit ≤ Table.lastWord) :
    ∃ t, (Store.keywordSearch query limit).perform s =
      (.ok (((found query s.medium.table.rows).take limit.toNat).map fun r =>
        hitOf r (share query r.content)),
        t) := by
  by_cases hwords : extract query = []
  · have hnone : found query s.medium.table.rows = [] := by
      apply List.eq_nil_iff_forall_not_mem.mpr
      simp [mem_found, hwords]
    rw [keywordSearch_none hwords, hnone, List.take_nil]
    exact ⟨s, rfl⟩
  · obtain ⟨db, t, hconnect, -, -⟩ := hs.connect
    have htried : (!s.medium.table.rows.isEmpty && ((extract query).map pattern).any
        (fun p => longestPattern < p.utf8ByteSize)) = false := by
      rw [Bool.and_eq_false_iff]
      right
      simpa using hshort
    rw [keywordSearch_perform hconnect hwords hlimit, connect_table hconnect,
      word_of_le hlimit hword]
    simp only [Except.bind, htried, Bool.false_eq_true, if_false]
    rw [matching_eq_found hquery hcontents, ← List.map_take, List.map_map]
    exact ⟨t, rfl⟩

namespace History

/-- Whatever has been called, a search by keywords finds the rows in which one of them occurs, if no
text has a NUL and no keyword makes too long a pattern. The keywords are the first five of the
query's maximal runs without blanks that have three characters or more. Rows with more of them come
first, those with equally many by their id, and each is scored by the share of the keywords that it
has. -/
theorem keywordSearch_ranks [Numerics] {m : Medium} (hm : m.table = Table.empty)
    (es : List Event) {s : Store} (hs : s.medium = ((start m).run es).medium) (hready : s.Ready)
    (hcontents : ∀ r ∈ s.medium.table.rows, nul ∉ r.content.toList) {query : String}
    (hquery : nul ∉ query.toList)
    (hshort : ∀ w ∈ extract query, (pattern w).utf8ByteSize ≤ longestPattern) :
    let words := extract query
    let count := fun r : Row => words.countP fun w => Within w.toList r.content.toList
    let score := fun r : Row => (count r).toFloat / words.length.toFloat
    (∃ runs, (∀ other, Text.Runs query.toList other ↔ other = runs) ∧
      words = ((runs.filter fun run => 3 ≤ run.length).take 5).map String.ofList) ∧
    ∃ ranked : List Row,
      (∀ r, r ∈ ranked ↔ r ∈ s.medium.table.rows ∧ ∃ w ∈ words, Within w.toList r.content.toList) ∧
      (ranked.Pairwise fun a b => count b < count a ∨ count a = count b ∧ a.id < b.id) ∧
      (words = [] → ranked = []) ∧
      (∀ r ∈ ranked, 0 < score r ∧ score r ≤ 1) ∧
      ∀ limit : Int, 1 ≤ limit → limit ≤ Table.lastWord →
      ∃ t, (keywordSearch query limit).perform s =
        (.ok ((ranked.take limit.toNat).map fun r => hitOf r (score r)), t) := by
  intro words count score
  have hids : s.medium.table.rows.Pairwise fun a b => a.id < b.id := by
    rw [hs]
    exact ((numbered_start hm).run es).sound.ids
  refine ⟨⟨_, fun other => Text.runs_iff, extract_eq query⟩, found query s.medium.table.rows,
    fun r => mem_found, found_ranked hids, ?_, ?_, ?_⟩
  · intro hnone
    apply List.eq_nil_iff_forall_not_mem.mpr
    intro r hr
    obtain ⟨-, w, hw, -⟩ := mem_found.mp hr
    change w ∈ words at hw
    rw [hnone] at hw
    cases hw
  · intro r hr
    exact share_bounds (hits_pos.mpr (mem_found.mp hr).2)
  · intro limit hlimit hword
    exact hready.keywordSearch_found hcontents hquery hshort hlimit hword

private def jotted (contents : List String) : List Event := [
  .enter "memory.db" 1 .noon,
  .call 0 .noon (.writeBatch (contents.zipIdx.map fun place =>
    .daily place.1 "A" [.int 1] place.2))]

private def drawer (contents : List String) : Store :=
  ⟨"memory.db", 1, false, false, ((start .blank).run (jotted contents)).medium, .noon, []⟩

private def teas : List String := ["Cold TEA", "milk", "tea leaf"]

private def picked : List Row :=
  [2, 0].filterMap fun i => (drawer teas).medium.table.rows[i]?

/-- The word of two letters does not count, so a slip with one of the two others has half of
them. -/
theorem keywordSearch_ranks_of_slip :
    (drawer teas).Ready ∧ (∀ r ∈ (drawer teas).medium.table.rows, nul ∉ r.content.toList) ∧
      nul ∉ "tea of leaf".toList ∧
      (∀ w ∈ extract "tea of leaf", (pattern w).utf8ByteSize ≤ longestPattern) ∧
      ∃ hits t, (keywordSearch "tea of leaf" 3).perform (drawer teas) = (.ok hits, t) ∧
        hits.map (fun hit => (hit.content, hit.score)) = [("tea leaf", 1), ("Cold TEA", 0.5)] := by
  have hready : (drawer teas).Ready := .inr (by decide +kernel)
  have hcontents : ∀ r ∈ (drawer teas).medium.table.rows, nul ∉ r.content.toList := by
    decide +kernel
  have hquery : nul ∉ "tea of leaf".toList := by decide
  have hshort : ∀ w ∈ extract "tea of leaf", (pattern w).utf8ByteSize ≤ longestPattern := by
    decide +kernel
  have hblank : Medium.blank.table = Table.empty := rfl
  obtain ⟨-, ranked, hranked, hsorted, -, -, hsearch⟩ :=
    keywordSearch_ranks hblank (jotted teas) rfl hready hcontents hquery hshort
  have hpicked : ranked = picked := by
    have hdistinct : ranked.Nodup := by
      apply hsorted.imp
      rintro r _ hr rfl
      omega
    have hrows : ∀ r ∈ (drawer teas).medium.table.rows,
        (∃ w ∈ extract "tea of leaf", Within w.toList r.content.toList) ↔ r ∈ picked := by
      decide +kernel
    have hstored : ∀ r ∈ picked, r ∈ (drawer teas).medium.table.rows := by decide +kernel
    have hsame : ∀ r, r ∈ ranked ↔ r ∈ picked := by
      intro r
      rw [hranked]
      constructor
      · rintro ⟨hr, hwithin⟩
        exact (hrows r hr).mp hwithin
      · exact fun hr => ⟨hstored r hr, (hrows r (hstored r hr)).mpr hr⟩
    have hperm := (List.perm_ext_iff_of_nodup hdistinct (by decide +kernel)).mpr hsame
    apply hperm.eq_of_pairwise ?_ hsorted (by decide +kernel)
    intro r r' _ _ hr hr'
    omega
  obtain ⟨t, ht⟩ := hsearch 3 (by decide) (by decide)
  refine ⟨hready, hcontents, hquery, hshort, _, t, ht, ?_⟩
  rw [hpicked]
  decide +kernel

/-- A word of U+FFFE is found where there is only U+FFFD, which no case of letters makes the
same. -/
theorem keywordSearch_of_replacement :
    (drawer ["\ufffd\ufffd\ufffd"]).medium =
      ((start .blank).run (jotted ["\ufffd\ufffd\ufffd"])).medium ∧
      (∃ hits t, (keywordSearch "\ufffe\ufffe\ufffe" 5).perform (drawer ["\ufffd\ufffd\ufffd"]) =
        (.ok hits, t) ∧
        ∃ hit ∈ hits, hit.content = "\ufffd\ufffd\ufffd") ∧
      ∀ w ∈ extract "\ufffe\ufffe\ufffe", ¬∃ part, part <:+: "\ufffd\ufffd\ufffd".toList ∧
        List.Forall₂ (fun x y => x.toLower = y.toLower) w.toList part := by
  have hready : (drawer ["\ufffd\ufffd\ufffd"]).Ready := .inr (by decide +kernel)
  have hcontents : ∀ r ∈ (drawer ["\ufffd\ufffd\ufffd"]).medium.table.rows,
      nul ∉ r.content.toList := by
    decide +kernel
  have hquery : nul ∉ "\ufffe\ufffe\ufffe".toList := by decide
  have hshort : ∀ w ∈ extract "\ufffe\ufffe\ufffe", (pattern w).utf8ByteSize ≤ longestPattern := by
    decide +kernel
  have hlimit : (1 : Int) ≤ 5 := by decide
  obtain ⟨t, ht⟩ := hready.keywordSearch_found hcontents hquery hshort hlimit (by decide)
  refine ⟨rfl, ⟨_, t, ht, ?_⟩, ?_⟩
  · have hrow : ∃ r ∈ (drawer ["\ufffd\ufffd\ufffd"]).medium.table.rows,
        ∃ w ∈ extract "\ufffe\ufffe\ufffe", Within w.toList r.content.toList := by decide +kernel
    have hsame : ∀ r ∈ (drawer ["\ufffd\ufffd\ufffd"]).medium.table.rows,
        r.content = "\ufffd\ufffd\ufffd" := by decide +kernel
    obtain ⟨r, hr⟩ := hrow
    have hmem := mem_found.mpr hr
    cases hfound : found "\ufffe\ufffe\ufffe" (drawer ["\ufffd\ufffd\ufffd"]).medium.table.rows with
    | nil =>
      rw [hfound] at hmem
      cases hmem
    | cons first rest =>
      have hfirst : first ∈ (drawer ["\ufffd\ufffd\ufffd"]).medium.table.rows :=
        (mem_found.mp (hfound ▸ List.mem_cons_self)).1
      exact ⟨_, List.mem_cons_self, hsame first hfirst⟩
  · simp only [exists_part_iff]
    decide +kernel

end History

end Store
end TextMemory
