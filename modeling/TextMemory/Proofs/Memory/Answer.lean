import TextMemory.Proofs.Memory.Dimensions
import TextMemory.Proofs.Memory.Search
import TextMemory.Proofs.Store.Answer

/-!
# Which searches give an answer

A search needs a vector for the words it looks for, rows as wide as that, positions that are
numbers, and keywords that the store does not refuse. In all that memories make of a database, only
the last may be missing: where twice as many results as are asked for are no integer of sixty-four
bits, and where a keyword makes too long a pattern for the rows there are.
-/
namespace TextMemory

structure Settings.RanksByDefault (s : Settings) : Prop where
  vectorWeight : s.vectorWeight = .float 0.7
  keywordWeight : s.keywordWeight = .float 0.3
  rankConstant : s.rankConstant = 60
  candidateMultiplier : s.candidateMultiplier = 2

namespace Memory

open TextMemory.Action

variable {m : Memory} {query : String} {limit : Int}

theorem embedOne_perform {text : String} {v : Vector} (h : m.embedder.embed [text] = .ok [v]) :
    (embedOne text).perform m = (.ok v, m.asked [text]) := by
  rw [embedOne, perform_bind, embed_perform, h]
  rfl

theorem asked_store (texts : List String) (m : Memory) : (m.asked texts).store = m.store := rfl

def told (level : LogLevel) (message : String) (m : Memory) : Memory :=
  { m with store :=
    { m.store with log := m.store.log ++ [⟨level, "agentmemory.service", message⟩] } }

theorem tell_perform (level : LogLevel) (message : String) (m : Memory) :
    (tell level message).perform m = (.ok (), m.told level message) := rfl

def sought (query : String) (limit : Int) (m : Memory) : Memory :=
  m.told .debug s!"memory search: query={Text.quoted query} max_results={limit}"

theorem search_blank [Numerics] (hquery : Text.isBlankText query = true) (hlimit : 1 ≤ limit) :
    (search query limit).perform m = (.ok [], m.sought query limit) := by
  have hstrip : (Text.strip query).isEmpty = true := (Text.strip_isEmpty query).trans hquery
  rw [search, if_neg (Int.not_lt.mpr hlimit), perform_bind, tell_perform]
  dsimp only
  rw [if_pos hstrip]
  rfl

theorem search_perform [Numerics] (hquery : Text.isBlankText query = false) (hlimit : 1 ≤ limit)
    {v : Vector} (hv : m.embedder.embed [Text.strip query] = .ok [v]) {near : List Hit} {t : Store}
    (hnear : (Store.vectorSearch v (limit * m.settings.candidateMultiplier)).perform
      (m.sought query limit).store = (.ok near, t)) :
    ∃ n, (search query limit).perform m =
      (((Store.keywordSearch (Text.strip query)
        (limit * m.settings.candidateMultiplier)).perform t).1.bind fun matching =>
          Ranking.fuse (m.settings.vectorWeight, near) (m.settings.keywordWeight, matching)
          m.settings.rankConstant limit, n) := by
  have hstrip : (Text.strip query).isEmpty = false := (Text.strip_isEmpty query).trans hquery
  have hembed : (embedOne (Text.strip query)).perform (m.sought query limit) =
      (.ok v, (m.sought query limit).asked [Text.strip query]) := embedOne_perform hv
  have htell :
      (tell .debug s!"memory search: query={Text.quoted query} max_results={limit}").perform m =
      (.ok (), m.sought query limit) := rfl
  have hsettings : (m.sought query limit).settings = m.settings := rfl
  have hfound : (onStore (Store.vectorSearch v (limit * m.settings.candidateMultiplier))).perform
      ((m.sought query limit).asked [Text.strip query]) =
        (.ok near, { (m.sought query limit).asked [Text.strip query] with store := t }) := by
    rw [onStore, perform_onPart, asked_store, hnear]
  rw [search, if_neg (Int.not_lt.mpr hlimit), perform_bind, htell]
  dsimp only
  rw [if_neg (by simp [hstrip]), perform_get_bind, perform_bind, hembed]
  dsimp only
  rw [hsettings, perform_bind, hfound]
  dsimp only
  rw [perform_bind, onStore, perform_onPart]
  cases hmatching : (Store.keywordSearch (Text.strip query)
      (limit * m.settings.candidateMultiplier)).perform t with
  | mk answer u =>
    dsimp only
    cases answer with
    | error f => exact ⟨_, rfl⟩
    | ok matching => exact ⟨_, perform_ofExcept _ _⟩

theorem embed_single {e : Embedder} {text : String} {v : Vector} (h : e.vectors [text] = .ok [v])
    (hsize : (v.length : Int) = e.dimensions) : e.embed [text] = .ok [v] := by
  rw [Embedder.embed_eq_ok, if_neg (List.cons_ne_nil text [])]
  exact ⟨h, rfl, List.forall_mem_singleton.mpr hsize⟩

theorem extract_of_blank (hquery : Text.isBlankText query = true) :
    Keyword.extract (Text.strip query) = [] := by
  have hempty : Text.strip query = "" :=
    String.isEmpty_iff.mp ((Text.strip_isEmpty query).trans hquery)
  rw [hempty]
  rfl

theorem search_of_ready [Numerics] (hs : m.store.Ready) (hsettings : m.settings.RanksByDefault)
    (hwide : ∀ r ∈ m.store.medium.table.rows, Store.Wide m.store.medium.dimensions? r)
    (hbounded : m.store.medium.table.Bounded) (hquery : Text.isBlankText query = false)
    (hlimit : 1 ≤ limit) {v : Vector} (hv : m.embedder.embed [Text.strip query] = .ok [v])
    (hsize : (v.length : Int) = m.store.dimensions) {xs : List Float}
    (hxs : Embedding.floats v = .ok xs) :
    (m.store.medium.table.refusal? (Text.strip query) (limit * 2) = none →
      ∃ hits n, (search query limit).perform m = (.ok hits, n)) ∧
    ∀ f, m.store.medium.table.refusal? (Text.strip query) (limit * 2) = some f →
      ∃ n, (search query limit).perform m = (.error f, n) := by
  have hmultiplier := hsettings.candidateMultiplier
  have hpositive : 0 < limit * m.settings.candidateMultiplier := by
    rw [hmultiplier]
    omega
  have hready : (m.sought query limit).store.Ready := hs
  obtain ⟨near, t, hnear, ht⟩ : ∃ near t,
      (Store.vectorSearch v (limit * m.settings.candidateMultiplier)).perform
      (m.sought query limit).store = (.ok near, t) ∧ t.Ready :=
    ⟨_, hready.vectorSearch hwide hsize hxs hpositive⟩
  -- the keywords are looked for in the store as the search for vectors has left it
  have htable : t.medium.table = m.store.medium.table :=
    ((Store.vectorSearch_reads _ _).of_perform hnear).table
  obtain ⟨n, hn⟩ := search_perform hquery hlimit hv hnear
  obtain ⟨hanswers, hrefuses⟩ := ht.keywordSearch (Text.strip query) hpositive
  rw [htable, hmultiplier] at hanswers hrefuses
  rw [hmultiplier] at hn
  constructor
  · intro hrefusal
    obtain ⟨found, u, hfound⟩ := hanswers hrefusal
    have hnearLength := Store.vectorSearch_length hpositive hnear
    change near.length ≤ m.store.medium.table.rows.length at hnearLength
    have hfoundLength := Store.keywordSearch_length hfound
    rw [htable] at hfoundLength
    have hrows := hbounded.rows
    have hlast : m.store.medium.table.lastId ≤ 9223372036854775807 := hbounded.last
    have hindex : ∀ hit ∈ near ++ found, Ranking.checkIndex hit = .ok () := by
      intro hit hhit
      rcases List.mem_append.mp hhit with hhit | hhit
      · exact Store.checkIndex_of_shows (Store.vectorSearch_shows hpositive hnear hit hhit)
      · exact Store.checkIndex_of_shows (Store.keywordSearch_shows hfound hit hhit)
    have hconstant : 0 ≤ m.settings.rankConstant ∧ m.settings.rankConstant.toNat = 60 := by
      rw [hsettings.rankConstant]
      decide
    obtain ⟨hits, hhits⟩ :=
      Ranking.fuse_exists 0.7 0.3 hconstant.1 (Int.lt_of_lt_of_le Int.one_pos hlimit)
      (by omega) (by omega) hindex
    rw [hfound, hsettings.vectorWeight, hsettings.keywordWeight] at hn
    refine ⟨hits, n, hn.trans ?_⟩
    rw [← hhits]
    rfl
  · intro f hf
    obtain ⟨u, hu⟩ := hrefuses f hf
    rw [hu] at hn
    exact ⟨n, hn⟩

namespace History

/-- Whatever memories have made of a database, a search for at least one result under the default
ranking, with a vector as wide as the database or without words, gives an answer, but for two cases.
Where the query has keywords, twice the number of results must be an integer of sixty-four bits; and
where there are rows, no keyword may make a pattern longer than those that are tried. -/
theorem search_answers_unless_refused [Numerics] {es : List Event} {mem : Memory}
    (hmem : mem ∈ ((start .blank).run es).memories) (hsettings : mem.settings.RanksByDefault)
    (hmedium : ((start .blank).run es).medium = .blank ∨
      ((start .blank).run es).medium.dimensions? = some mem.store.dimensions)
    (now : Timestamp) {vectors : List String → Except Outage (List Vector)} {query : String}
    {limit : Int} (hlimit : 1 ≤ limit)
    (hvector : Text.isBlankText query = true ∨ ∃ v xs, vectors [Text.strip query] = .ok [v] ∧
      (v.length : Int) = mem.store.dimensions ∧ Embedding.floats v = .ok xs) :
    let m := ((start .blank).run es).found mem now vectors
    let rows := ((start .blank).run es).medium.table.rows
    let words := Keyword.extract (Text.strip query)
    let tooMany := words ≠ [] ∧ Table.lastWord < limit * 2
    let tooLong :=
      rows ≠ [] ∧ ∃ w ∈ words, Keyword.longestPattern < (Keyword.pattern w).utf8ByteSize
    ((∃ hits n, (search query limit).perform m = (.ok hits, n)) ↔ ¬tooMany ∧ ¬tooLong) ∧
      (tooMany → ∃ n, (search query limit).perform m = (.error .storedInteger, n)) ∧
      (¬tooMany → tooLong → ∃ n, (search query limit).perform m = (.error .patternTooLong, n)) := by
  intro m rows words tooMany tooLong
  have hstart : (start .blank).Fixed := fixed_start rfl nofun
  have hfixed := hstart.run es
  have hready : m.store.Ready := by
    rcases hmedium with hblank | hdimensions
    · refine .inl ⟨hblank, ?_⟩
      cases hopened : mem.store.opened with
      | false => exact hopened
      | true =>
        have hn := hfixed.tended.dimensions mem.store (List.mem_map_of_mem hmem) hopened
        rw [hblank] at hn
        cases hn
    · exact .inr hdimensions
  obtain ⟨hanswers, hrefuses⟩ :
      (m.store.medium.table.refusal? (Text.strip query) (limit * 2) = none →
        ∃ hits n, (search query limit).perform m = (.ok hits, n)) ∧
      ∀ f, m.store.medium.table.refusal? (Text.strip query) (limit * 2) = some f →
        ∃ n, (search query limit).perform m = (.error f, n) := by
    cases hblank : Text.isBlankText query with
    | true =>
      rw [Table.refusal?_blank (extract_of_blank hblank)]
      exact ⟨fun _ => ⟨[], _, search_blank hblank hlimit⟩, fun f hf => nomatch hf⟩
    | false =>
      rw [hblank] at hvector
      obtain ⟨v, xs, hv, hsize, hxs⟩ := hvector.resolve_left Bool.false_ne_true
      have hembed : m.embedder.embed [Text.strip query] = .ok [v] :=
        embed_single hv (hsize.trans (hfixed.embedders mem hmem).symm)
      exact search_of_ready hready hsettings hfixed.tended.wide hfixed.bounded hblank hlimit
        hembed hsize hxs
  have hmany : tooMany → ∃ n, (search query limit).perform m = (.error .storedInteger, n) :=
    fun h => hrefuses _ (Table.refusal?_storedInteger h.1 h.2)
  have hlong : ¬tooMany → tooLong →
      ∃ n, (search query limit).perform m = (.error .patternTooLong, n) :=
    fun h h' => hrefuses _ (Table.refusal?_patternTooLong h h')
  refine ⟨⟨?_, fun h => hanswers (Table.refusal?_none h.1 h.2)⟩, hmany, hlong⟩
  -- an answer leaves no room for either of the faults
  rintro ⟨hits, n, hok⟩
  have hnoError : ∀ f k, (search query limit).perform m ≠ (.error f, k) := by
    intro f k herror
    rw [hok] at herror
    cases herror
  have hfew : ¬tooMany := fun h => by
    obtain ⟨k, hk⟩ := hmany h
    exact hnoError _ k hk
  refine ⟨hfew, fun h => ?_⟩
  obtain ⟨k, hk⟩ := hlong hfew h
  exact hnoError _ k hk

private def ranking : Settings :=
  ⟨"memory.db", "test", "test", 1, 500, 64, .float 0.7, .float 0.3, 60, 2⟩

private def brewing : List Event := [
  .enter ranking ⟨"test", 1, Embedder.flat⟩ .noon,
  .call 0 .noon Embedder.flat (.write "cold tea" (some "A") .null)]

private theorem one_brews : 0 < ((start .blank).run brewing).memories.length := by decide +kernel

private def brewer : Memory := ((start .blank).run brewing).memories.get ⟨0, one_brews⟩

theorem search_answers_of_brewer :
    brewer ∈ ((start .blank).run brewing).memories ∧ brewer.settings.RanksByDefault ∧
      ((start .blank).run brewing).medium.dimensions? = some brewer.store.dimensions ∧
      Embedder.flat ["tea"] = .ok [[.float 1]] ∧ Embedding.floats [.float 1] = .ok [1] ∧
      ∃ hits n,
        (search " tea" 3).perform (((start .blank).run brewing).found brewer .noon Embedder.flat) =
        (.ok hits, n) := by
  have hmem : brewer ∈ ((start .blank).run brewing).memories := List.get_mem _ _
  have hsettings : brewer.settings.RanksByDefault :=
    ⟨by decide +kernel, by decide +kernel, by decide +kernel, by decide +kernel⟩
  have hdimensions : ((start .blank).run brewing).medium.dimensions? =
      some brewer.store.dimensions := by
    decide +kernel
  have hwidth : (([.float 1] : Vector).length : Int) = brewer.store.dimensions := by decide +kernel
  have hfloats : Embedding.floats [.float 1] = .ok [1] := rfl
  have hlimit : (1 : Int) ≤ 3 := by decide
  have hstrip : Text.strip " tea" = "tea" := by decide +kernel
  have hvector : Embedder.flat [Text.strip " tea"] = .ok [[.float 1]] := by rw [hstrip]; rfl
  have hanswers := (search_answers_unless_refused hmem hsettings (.inr hdimensions) .noon hlimit
    (.inr ⟨[.float 1], [1], hvector, hwidth, hfloats⟩)).1
  refine ⟨hmem, hsettings, hdimensions, rfl, hfloats, hanswers.mpr ⟨?_, ?_⟩⟩
  · decide +kernel
  · decide +kernel

/-- A search for so many results that twice as many are no integer of sixty-four bits fails. -/
theorem search_fails_of_brewer :
    brewer ∈ ((start .blank).run brewing).memories ∧ brewer.settings.RanksByDefault ∧
      ((start .blank).run brewing).medium.dimensions? = some brewer.store.dimensions ∧
      Embedder.flat ["tea"] = .ok [[.float 1]] ∧ (1 : Int) ≤ 4611686018427387904 ∧
      ¬∃ hits n, (search "tea" 4611686018427387904).perform
        (((start .blank).run brewing).found brewer .noon Embedder.flat) = (.ok hits, n) := by
  refine ⟨List.get_mem _ _,
    ⟨by decide +kernel, by decide +kernel, by decide +kernel, by decide +kernel⟩,
    by decide +kernel, rfl, by decide, ?_⟩
  rintro ⟨hits, n, h⟩
  have hfails : ((search "tea" 4611686018427387904).perform
      (((start .blank).run brewing).found brewer .noon Embedder.flat)).1.isOk = false := by
    decide +kernel
  rw [h] at hfails
  cases hfails

end History

end Memory
end TextMemory
