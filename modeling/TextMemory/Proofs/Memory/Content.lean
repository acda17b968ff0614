import TextMemory.Proofs.Chunking
import TextMemory.Proofs.Memory.Operation
import TextMemory.Proofs.Precedence

/-!
# The content of a source

A source holds a content when its rows are the pieces into which some window cuts that content, in
their order, each with its place and with what it shares with the one before. What is read from such
a source is the content, whatever window is in use by then.
-/
namespace TextMemory

abbrev Page := String × Scalar × Scalar

def Record.page (r : Record) : Page := (r.content, r.index, r.overlap)

namespace Window

def pages (w : Window) (content : String) : List Page :=
  (w.pieces content.toList).zipIdx.map fun p =>
    (String.ofList p.1, .int p.2, .int (if p.2 = 0 then 0 else w.overlap))

theorem pages_contents (w : Window) (content : String) :
    (w.pages content).map Prod.fst = (w.pieces content.toList).map String.ofList := by
  rw [pages, List.map_map]
  have hfst := congrArg (List.map String.ofList) (List.zipIdx_map_fst 0 (w.pieces content.toList))
  rwa [List.map_map] at hfst

theorem pages_ascend (w : Window) (content : String) :
    (w.pages content).Pairwise fun a b => a.2.1.atMost b.2.1 = true := by
  refine List.pairwise_map.mpr ((Precedence.zipIdx_pairwise (w.pieces content.toList)).imp ?_)
  intro a b hab
  simp only [Scalar.atMost, Number.atMost, Number.ratio?, decide_eq_true_eq]
  omega

theorem pages_overlaps (w : Window) (content : String) :
    (w.pages content).map (fun p => p.2.2.json) =
      (0 :: List.replicate ((w.pieces content.toList).length - 1) (w.overlap : Int)).map
        Json.int := by
  rw [pages, List.map_map]
  cases hps : w.pieces content.toList with
  | nil => exact absurd hps (w.pieces_ne_nil _)
  | cons p ps =>
    rw [List.zipIdx_cons, List.map_cons, List.map_cons, List.map_replicate, List.length_cons,
      Nat.add_sub_cancel]
    refine congrArg (List.cons _) (List.eq_replicate_iff.mpr ⟨by simp, ?_⟩)
    intro j hj
    obtain ⟨q, hq, rfl⟩ := List.mem_map.mp hj
    have hplace := (List.mem_zipIdx hq).1
    have hne : q.2 ≠ 0 := by omega
    simp [hne, Scalar.json, Json.int]

end Window

namespace Table

/-- What a source holds; `none` when it has no rows. -/
def Holds (t : Table) (source : String) : Option String → Prop
  | none => t.rowsOf source = []
  | some content => ∃ w : Window, (t.rowsOf source).map (fun r => r.page) = w.pages content

theorem holds_empty (source : String) : empty.Holds source none := rfl

theorem Holds.of_rowsOf {t u : Table} {source : String} {content? : Option String}
    (h : t.Holds source content?) (hrows : u.rowsOf source = t.rowsOf source) :
    u.Holds source content? := by
  cases content? with
  | none => exact hrows.trans h
  | some content =>
    obtain ⟨w, hw⟩ := h
    exact ⟨w, hrows ▸ hw⟩

end Table

namespace Store

theorem chunkOf_ok {r : Row} {c : Chunk} (h : chunkOf r = .ok c) :
    c.content = r.content ∧ c.overlap = r.overlap := by
  simp only [chunkOf, Result.bind_eq_ok, Result.pure_eq_ok] at h
  obtain ⟨time, -, embedding, -, rfl⟩ := h
  exact ⟨rfl, rfl⟩

theorem chunks_pages {rows : List Row} {chunks : List Chunk}
    (h : rows.mapM chunkOf = .ok chunks) :
    chunks.map (fun c => (c.content, c.overlap)) = rows.map fun r => (r.page.1, r.page.2.2) := by
  refine Result.map_eq_map ?_ (Result.mapM_eq_ok.mp h)
  intro r c hc
  obtain ⟨hcontent, hoverlap⟩ := chunkOf_ok hc
  rw [hcontent, hoverlap]
  rfl

end Store

theorem Table.bySource_of_pages {t : Table} {source content : String} {w : Window}
    (h : (t.rowsOf source).map (fun r => r.page) = w.pages content) :
    t.bySource source = t.rowsOf source := by
  apply List.mergeSort_of_pairwise
  have hpages := w.pages_ascend content
  rw [← h] at hpages
  exact List.pairwise_map.mp hpages

theorem Store.merge_chunks {rows : List Row} {chunks : List Chunk} {content : String} {w : Window}
    (hpages : rows.map (fun r => r.page) = w.pages content)
    (hchunks : rows.mapM chunkOf = .ok chunks) :
    chunks ≠ [] ∧ mergeBy (.array (chunks.map fun c => c.overlap.json)) (chunks.map Chunk.content) =
      .ok content := by
  have hshown := chunks_pages hchunks
  have hcontents : chunks.map Chunk.content = (w.pieces content.toList).map String.ofList := by
    have hfst := congrArg (List.map Prod.fst) hshown
    rw [List.map_map, List.map_map] at hfst
    rw [← w.pages_contents, ← hpages, List.map_map]
    exact hfst
  have hwidths : chunks.map (fun c => c.overlap.json) =
      (0 :: List.replicate ((w.pieces content.toList).length - 1) (w.overlap : Int)).map
        Json.int := by
    have hsnd := congrArg (List.map fun p => p.2.json) hshown
    rw [List.map_map, List.map_map] at hsnd
    rw [← w.pages_overlaps, ← hpages, List.map_map]
    exact hsnd
  refine ⟨?_, ?_⟩
  · rintro rfl
    cases hwidths
  · rw [hwidths, hcontents, mergeBy_pieces, String.ofList_toList]

theorem Memory.read_holds {source : String} {m n : Memory} {answer content? : Option String}
    (hm : m.store.medium.table.Holds source content?)
    (h : (read source).perform m = (.ok answer, n)) : answer = content? := by
  obtain ⟨chunks, hchunks, h⟩ := read_ok h
  cases content? with
  | none =>
    have hnone : m.store.medium.table.bySource source = [] := by
      rw [Table.bySource, show m.store.medium.table.rowsOf source = [] from hm, List.mergeSort_nil]
    rw [hnone] at hchunks
    cases hchunks
    exact h
  | some content =>
    obtain ⟨w, hw⟩ := hm
    rw [Table.bySource_of_pages hw] at hchunks
    obtain ⟨hne, hmerge⟩ := Store.merge_chunks hw hchunks
    rw [if_neg (mt List.isEmpty_iff.mp hne), hmerge] at h
    obtain ⟨text, htext, rfl⟩ := h
    cases htext
    rfl

/-! ### Writing -/

namespace Store

theorem Keeps.page {d : Draft} {r : Record} {i o : Int} (h : Keeps d r) (hi : d.index = .int i)
    (ho : d.overlap = .int o) : r.page = (d.content, .int i, .int o) := by
  have hindex := h.index
  have hoverlap := h.overlap
  rw [hi] at hindex
  rw [ho] at hoverlap
  obtain ⟨_, -, hindex⟩ := Result.map_eq_ok.mp hindex
  obtain ⟨_, -, hoverlap⟩ := Result.map_eq_ok.mp hoverlap
  rw [Record.page, h.content, ← Option.some.inj hindex, ← Option.some.inj hoverlap]

end Store

namespace Memory

theorem source_of_mem_drafts {source : String} {title : Json} {overlap : Int} {now : Timestamp}
    {pieces : List (String × Vector)} {d : Draft}
    (h : d ∈ drafts source title overlap now pieces) : d.source = source := by
  obtain ⟨p, -, rfl⟩ := List.mem_map.mp h
  rfl

theorem pages_of_drafts {source content : String} {title : Json} {now : Timestamp} {w : Window}
    {vectors : List Vector} {rs : List Record}
    (hlen : vectors.length = ((w.pieces content.toList).map String.ofList).length)
    (h : List.Forall₂ Store.Keeps
      (drafts source title w.overlap now
        (((w.pieces content.toList).map String.ofList).zip vectors)) rs) :
    rs.map Record.page = w.pages content := by
  have hrs : rs.map Record.page =
      (((w.pieces content.toList).map String.ofList).zip vectors).zipIdx.map fun p =>
        (p.1.1, .int p.2, .int (if p.2 = 0 then 0 else w.overlap)) := by
    refine Result.map_eq_map ?_ (List.forall₂_map_left_iff.mp h)
    intro p r hk
    exact hk.page rfl rfl
  have hzip : (((w.pieces content.toList).map String.ofList).zip vectors).zipIdx.map
      (Prod.map Prod.fst id) =
        (w.pieces content.toList).zipIdx.map (Prod.map String.ofList id) := by
    rw [List.map_zipIdx, List.map_fst_zip (Nat.le_of_eq hlen.symm), List.zipIdx_map]
  have hpages := congrArg (List.map fun p : String × Nat =>
    ((p.1, .int p.2, .int (if p.2 = 0 then 0 else w.overlap)) : Page)) hzip
  rw [List.map_map, List.map_map] at hpages
  rw [hrs]
  exact hpages

theorem write_holds {content : String} {source : Option String} {title : Json} {m n : Memory}
    {written : Written} (h : (write content source title).perform m = (.ok written, n)) :
    n.store.medium.table.Holds written.source (some content) ∧
      ∀ other ≠ written.source,
        n.store.medium.table.rowsOf other = m.store.medium.table.rowsOf other := by
  obtain ⟨hne, -, pieces, vectors, hpieces, hvectors, -, hstored⟩ := write_ok h
  obtain ⟨w, hw, rfl⟩ := chunk_ok hne hpieces
  have hds : ∀ d ∈ drafts written.source title m.settings.chunkOverlap m.store.clock
      (((w.pieces content.toList).map String.ofList).zip vectors), d.source = written.source :=
    fun d => source_of_mem_drafts
  refine ⟨⟨w, ?_⟩, fun other hother => hstored.rowsOf_other hds hother⟩
  obtain ⟨rs, hrs, hrows⟩ := hstored.rowsOf_source hds
  rw [← overlap_of_window hw] at hrs
  have hpages := pages_of_drafts hvectors hrs
  rw [← hpages, hrows]
  have hrecords := congrArg (List.map Record.page)
    (Row.number_records (m.store.medium.table.lastId + 1) rs)
  rwa [List.map_map] at hrecords

theorem delete_holds {source : String} {m n : Memory} {count : Nat}
    (h : (delete source).perform m = (.ok count, n)) :
    n.store.medium.table.Holds source none ∧
      ∀ other ≠ source,
        n.store.medium.table.rowsOf other = m.store.medium.table.rowsOf other := by
  have hstored := delete_ok h
  have hds : ∀ d ∈ ([] : List Draft), d.source = source := by simp
  refine ⟨?_, fun other hother => hstored.rowsOf_other hds hother⟩
  obtain ⟨rs, hrs, hrows⟩ := hstored.rowsOf_source hds
  cases hrs
  exact hrows

end Memory
end TextMemory
