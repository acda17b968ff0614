import TextMemory.Proofs.Memory.History
import TextMemory.Proofs.Text

/-!
# What the rows of a source have in common

All rows of a source come from one writing: a content cut by one window at one time, each piece with
its vector. Writing puts them in place of all older rows, deleting takes them all, and a failure
leaves them, so this holds however the windows change from one writing to the next.
-/
namespace TextMemory

/-- A content as it is written: under what name, when, by which window and with which vectors. -/
structure Writing where
  content : String
  given : Option String
  title : Json
  now : Timestamp
  window : Window
  vectors : List Vector

namespace Writing

def source (a : Writing) : String := sourceName a.now a.given

def pieces (a : Writing) : List String := (a.window.pieces a.content.toList).map String.ofList

def drafts (a : Writing) : List Draft :=
  Memory.drafts a.source a.title a.window.overlap a.now (a.pieces.zip a.vectors)

theorem pieces_ne_nil (a : Writing) : a.pieces ≠ [] := by
  rw [pieces, ne_eq, List.map_eq_nil_iff]
  exact a.window.pieces_ne_nil _

end Writing

/-- The rows of the writing's source are its pieces, each with its vector. -/
structure Table.Shelves (t : Table) (a : Writing) : Prop where
  count : a.vectors.length = a.pieces.length
  keeps : List.Forall₂ Store.Keeps a.drafts ((t.rowsOf a.source).map Row.toRecord)

namespace Table.Shelves

variable {t : Table} {a : Writing}

theorem pages (h : t.Shelves a) :
    (t.rowsOf a.source).map (fun r => r.page) = a.window.pages a.content := by
  have hpages := Memory.pages_of_drafts h.count h.keeps
  rwa [List.map_map] at hpages

theorem bySource (h : t.Shelves a) : t.bySource a.source = t.rowsOf a.source :=
  Table.bySource_of_pages h.pages

theorem contents (h : t.Shelves a) : (t.rowsOf a.source).map (fun r => r.content) = a.pieces := by
  rw [Writing.pieces, ← Window.pages_contents, ← h.pages, List.map_map]
  rfl

theorem length (h : t.Shelves a) : (t.rowsOf a.source).length = a.pieces.length := by
  rw [← h.contents, List.length_map]

theorem page_getElem (h : t.Shelves a) {i : Nat} (hi : i < (t.rowsOf a.source).length)
    (hpieces : i < a.pieces.length) :
    ((t.rowsOf a.source)[i]).page = (a.pieces[i], .int i,
      .int (if i = 0 then 0 else a.window.overlap)) := by
  have hpage := List.getElem_of_eq h.pages (by simpa using hi)
  simpa [Window.pages, Writing.pieces] using hpage

theorem alike (h : t.Shelves a) {r : Row} (hr : r ∈ t.rowsOf a.source) :
    Cell.text 4 a.title = .ok r.title ∧ r.indexedAt = a.now.text ∧
      r.kind = some (SourceKind.of a.source).text := by
  obtain ⟨d, hd, hk⟩ := Result.exists_of_mem_right h.keeps (List.mem_map_of_mem hr)
  obtain ⟨p, -, rfl⟩ := List.mem_map.mp hd
  have hkind : Except.ok (some (SourceKind.of a.source).text) = Except.ok r.kind := hk.kind
  exact ⟨hk.title, hk.time _ rfl, (Except.ok.inj hkind).symm⟩

theorem indexes (h : t.Shelves a) :
    (t.rowsOf a.source).map (fun r => r.index) =
      (List.range (t.rowsOf a.source).length).map fun (i : Nat) => Scalar.int i := by
  apply List.ext_getElem
  · simp
  · intro i hi _
    have hi' : i < (t.rowsOf a.source).length := by simpa using hi
    have hindex : ((t.rowsOf a.source)[i]).index = .int i :=
      congrArg (fun p => p.2.1) (h.page_getElem hi' (h.length ▸ hi'))
    simpa using hindex

theorem continues (h : t.Shelves a) :
    (t.rowsOf a.source).IsChain fun r s =>
      ∃ w : Nat, s.overlap = .int w ∧ Window.Continues w r.content.toList s.content.toList := by
  rw [List.isChain_iff_getElem]
  intro i hi
  have hpieces := a.window.pieces_continue a.content.toList
  rw [List.isChain_iff_getElem] at hpieces
  have hcount := h.length
  have hlength : a.pieces.length = (a.window.pieces a.content.toList).length := by
    rw [Writing.pieces, List.length_map]
  have hbefore := h.page_getElem (i := i) (by omega) (by omega)
  have hafter := h.page_getElem (i := i + 1) hi (by omega)
  refine ⟨a.window.overlap, ?_, ?_⟩
  · exact congrArg (fun p => p.2.2) hafter
  · have hr : ((t.rowsOf a.source)[i]).content = a.pieces[i] := congrArg Prod.fst hbefore
    have hs : ((t.rowsOf a.source)[i + 1]).content = a.pieces[i + 1] := congrArg Prod.fst hafter
    rw [hr, hs]
    simp only [Writing.pieces, List.getElem_map, String.toList_ofList]
    exact hpieces i (by omega)

end Table.Shelves

def Embedder.Provides (P : List String → List Vector → Prop) (e : Embedder) : Prop :=
  ∀ texts vectors, e.embed texts = .ok vectors → P texts vectors

/-- Each source that has rows has those of one writing, whose vectors satisfy a condition. -/
def Table.Authored (P : List String → List Vector → Prop) (t : Table) : Prop :=
  ∀ source, t.rowsOf source = [] ∨ ∃ a : Writing, a.source = source ∧
    P a.pieces a.vectors ∧ t.Shelves a

namespace Memory

open TextMemory.Action

variable {m n : Memory} {P : List String → List Vector → Prop}

theorem write_shelves {content : String} {source : Option String} {title : Json} {w : Written}
    (h : (write content source title).perform m = (.ok w, n)) :
    ∃ a : Writing, a.source = w.source ∧ m.embedder.embed a.pieces = .ok a.vectors ∧
      n.calls = m.calls ++ [a.pieces] ∧ n.store.medium.table.Shelves a ∧
      ∀ other ≠ a.source, n.store.medium.table.rowsOf other =
        m.store.medium.table.rowsOf other := by
  obtain ⟨hne, hsource, pieces, vectors, hpieces, hembed, hcalls, -, hstored⟩ := write_stored h
  obtain ⟨window, hwindow, rfl⟩ := chunk_ok hne hpieces
  let a : Writing := ⟨content, source, title, m.store.clock, window, vectors⟩
  have hname : a.source = w.source := hsource.symm
  have hds : ∀ d ∈ drafts w.source title m.settings.chunkOverlap m.store.clock
      (a.pieces.zip a.vectors),
      d.source = w.source := fun d => source_of_mem_drafts
  refine ⟨a, hname, hembed, ?_, ⟨Embedder.embed_ok hembed, ?_⟩, ?_⟩
  · rw [hcalls]
    exact if_neg fun hempty => a.pieces_ne_nil (List.isEmpty_iff.mp hempty)
  · obtain ⟨rs, hrs, hrows⟩ := hstored.rowsOf_source hds
    rw [hname, hrows, Row.number_records, Writing.drafts, hname, overlap_of_window hwindow]
    exact hrs
  · rw [hname]
    exact fun other hother => hstored.rowsOf_other hds hother

/-- A call leaves the rows as they are, takes those of a source, or puts those of a writing in their
place; the rows of other sources stay. -/
theorem Call.rows_of_perform [Numerics] (c : Call) {answer : Except Fault c.Reply}
    (h : c.action.perform m = (answer, n)) :
    n.store.medium.table = m.store.medium.table ∨
      (∃ source, n.store.medium.table.rowsOf source = [] ∧ ∀ other ≠ source,
        n.store.medium.table.rowsOf other = m.store.medium.table.rowsOf other) ∨
      ∃ a : Writing, m.embedder.embed a.pieces = .ok a.vectors ∧ n.store.medium.table.Shelves a ∧
        ∀ other ≠ a.source,
          n.store.medium.table.rowsOf other = m.store.medium.table.rowsOf other := by
  cases answer with
  | error f => exact .inl (c.failsWithin m f n h).store.table
  | ok r =>
    cases c with
    | write content source title =>
      obtain ⟨a, -, hembed, -, hshelves, hothers⟩ := write_shelves h
      exact .inr (.inr ⟨a, hembed, hshelves, hothers⟩)
    | delete source => exact .inr (.inl ⟨source, delete_holds h⟩)
    | read source => exact .inl ((read_reads source).of_perform h).store.table
    | search query limit => exact .inl ((search_reads query limit).of_perform h).store.table
    | stats => exact .inl (stats_reads.of_perform h).store.table
    | sources => exact .inl (sources_reads.of_perform h).store.table
    | chunks source => exact .inl ((chunks_reads source).of_perform h).store.table

theorem Call.authored [Numerics] (c : Call) {answer : Except Fault c.Reply}
    (hP : m.embedder.Provides P) (hm : m.store.medium.table.Authored P)
    (h : c.action.perform m = (answer, n)) : n.store.medium.table.Authored P := by
  have hkept : ∀ source, n.store.medium.table.rowsOf source = m.store.medium.table.rowsOf source →
      n.store.medium.table.rowsOf source = [] ∨
        ∃ a : Writing, a.source = source ∧ P a.pieces a.vectors ∧
          n.store.medium.table.Shelves a := by
    intro source hrows
    rcases hm source with hnone | ⟨a, rfl, hPa, hshelves⟩
    · exact .inl (hrows.trans hnone)
    · exact .inr ⟨a, rfl, hPa, hshelves.count, hrows ▸ hshelves.keeps⟩
  intro source
  rcases c.rows_of_perform h with hsame | ⟨erased, hnone, hothers⟩ | ⟨a, hembed, hshelves, hothers⟩
  · exact hkept source (by rw [hsame])
  · by_cases hs : source = erased
    · exact .inl (hs ▸ hnone)
    · exact hkept source (hothers source hs)
  · by_cases hs : source = a.source
    · exact .inr ⟨a, hs.symm, hP _ _ hembed, hshelves⟩
    · exact hkept source (hothers source hs)

namespace History

def Employs [Numerics] (Q : Embedder → Prop) (h : History) (es : List Event) : Prop :=
  ∀ earlier place now vectors c later m,
    es = earlier ++ .call place now vectors c :: later → (h.run earlier).memories[place]? = some m →
      Q ((h.run earlier).found m now vectors).embedder

theorem Employs.tail [Numerics] {Q : Embedder → Prop} {h : History} {e : Event} {es : List Event}
    (hQ : h.Employs Q (e :: es)) : (h.step e).Employs Q es := by
  intro earlier place now vectors c later m hes hm
  exact hQ (e :: earlier) place now vectors c later m (by rw [hes]; rfl) hm

theorem authored_start {medium : Medium} (hm : medium.table = Table.empty) :
    (start medium).medium.table.Authored P := by
  intro source
  rw [start, hm]
  exact .inl rfl

theorem authored_step [Numerics] {h : History} {e : Event} {es : List Event}
    (hP : h.Employs (Embedder.Provides P) (e :: es)) (hh : h.medium.table.Authored P) :
    (h.step e).medium.table.Authored P := by
  cases e with
  | enter settings embedder now =>
    simp only [History.step]
    cases create settings h.medium now embedder <;> exact hh
  | call place now vectors c =>
    simp only [History.step]
    cases hp : h.memories[place]? with
    | none => exact hh
    | some m =>
      have hembeds := hP [] place now vectors c es m rfl hp
      exact c.authored hembeds hh rfl

theorem authored_run [Numerics] {h : History} {es : List Event}
    (hP : h.Employs (Embedder.Provides P) es)
    (hh : h.medium.table.Authored P) : (h.run es).medium.table.Authored P := by
  induction es generalizing h with
  | nil => exact hh
  | cons e es ih => exact ih hP.tail (authored_step hP hh)

/-- Whatever is called, the rows of a source have the indexes 0, 1, 2, … as they are read; the first
repeats nothing, and each other one repeats as many of the last characters before it as it tells and
is longer than that; all have one title and one time, and the kind of their source, whose name has
no blanks at its ends and is not empty. -/
theorem rows_of_one_writing [Numerics] {medium : Medium} (hm : medium.table = Table.empty)
    (es : List Event) (source : String)
    (hrows : ((start medium).run es).medium.table.rowsOf source ≠ []) :
    let rows := ((start medium).run es).medium.table.bySource source
    rows.map (fun r => r.index) = (List.range rows.length).map (fun (i : Nat) => Scalar.int i) ∧
      (∀ r ∈ rows.head?, r.overlap = .int 0) ∧
      (rows.IsChain fun r s =>
        ∃ w : Nat, s.overlap = .int w ∧ Window.Continues w r.content.toList s.content.toList) ∧
      (∃ title time, ∀ r ∈ rows, r.title = title ∧ r.indexedAt = time ∧
        r.kind = some (SourceKind.of source).text) ∧
      Text.strip source = source ∧ source ≠ "" := by
  intro rows
  have hauthored : ((start medium).run es).medium.table.Authored fun _ _ => True :=
    authored_run (fun _ _ _ _ _ _ _ _ _ _ _ _ => trivial) (authored_start hm)
  obtain ⟨a, rfl, -, h⟩ := (hauthored source).resolve_left hrows
  have hsame : rows = ((start medium).run es).medium.table.rowsOf a.source := h.bySource
  rw [hsame]
  refine ⟨h.indexes, ?_, h.continues, ?_, strip_sourceName _ _, sourceName_ne_empty _ _⟩
  · intro r hr
    rw [List.head?_eq_getElem?] at hr
    obtain ⟨hpos, rfl⟩ := List.getElem?_eq_some_iff.mp hr
    exact congrArg (fun p => p.2.2) (h.page_getElem hpos (h.length ▸ hpos))
  · cases htitle : Cell.text 4 a.title with
    | error f =>
      refine ⟨none, "", fun r hr => ?_⟩
      have hok := (h.alike hr).1
      rw [htitle] at hok
      cases hok
    | ok title =>
      refine ⟨title, a.now.text, fun r hr => ?_⟩
      obtain ⟨hok, htime, hkind⟩ := h.alike hr
      rw [htitle] at hok
      exact ⟨(Except.ok.inj hok).symm, htime, hkind⟩

private def rewriting : List Event := [
  .enter (.cutting 1 3 1) ⟨"test", 1, Embedder.flat⟩ .noon,
  .call 0 .noon Embedder.flat (.write "first" (some " A ") (.string "t")),
  .enter (.cutting 1 4 2) ⟨"test", 1, Embedder.flat⟩ .noon,
  .call 1 .noon Embedder.flat (.write "second" (some "A") .null)]

theorem rows_of_rewriting :
    ((start .blank).run rewriting).medium.table.rowsOf "A" ≠ [] ∧
      (((start .blank).run rewriting).medium.table.rowsOf "A").map
          (fun r => (r.content, r.overlap)) = [("seco", .int 0), ("cond", .int 2)] ∧
      (((start .blank).run rewriting).medium.table.bySource "A").map (fun r => r.index) =
        (List.range (((start .blank).run rewriting).medium.table.bySource "A").length).map
          (fun (i : Nat) => Scalar.int i) := by
  have hrows : ((start .blank).run rewriting).medium.table.rowsOf "A" ≠ [] := by decide +kernel
  obtain ⟨hindexes, -⟩ := rows_of_one_writing rfl rewriting "A" hrows
  exact ⟨hrows, by decide +kernel, hindexes⟩

end History
end Memory
end TextMemory
