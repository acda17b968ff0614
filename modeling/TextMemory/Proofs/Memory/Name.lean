import TextMemory.Proofs.Memory.Answer
import TextMemory.Proofs.Memory.Tool
import TextMemory.Proofs.Memory.Vectors

/-!
# Names of sources

A content is written under the name of its source without the blanks around it, and a tool that
reads drops them as well. A memory reads and deletes under the name that it is given. So a name with
blanks around it has nothing of what was written under it.
-/
namespace TextMemory

open TextMemory.Action

theorem Medium.exists_of_mem {m : Medium} {r : Row} (h : r ∈ m.table.rows) :
    ∃ db, m = .database db := by
  cases m with
  | database db => exact ⟨db, rfl⟩
  | blank | blocked | refused | fleeting => cases h

theorem Table.Authored.rowsOf_of_blanks {t : Table} {P : List String → List Vector → Prop}
    {name : String}
    (h : t.Authored P) (hname : Text.strip name ≠ name) : t.rowsOf name = [] := by
  rcases h name with hnone | ⟨a, rfl, -, -⟩
  · exact hnone
  · exact absurd (strip_sourceName _ _) hname

namespace Store

variable {s t : Store} {db : Database}

def Opens (s : Store) : Prop := s.opened = true ∨ s.Ready

theorem Opens.connect (h : s.Opens) (hm : s.medium = .database db) :
    ∃ t, Store.connect.perform s = (.ok db, t) ∧ t.medium = .database db := by
  rcases h with hopened | hready
  · exact ⟨s, connect_of_opened hopened hm, hm⟩
  · obtain ⟨found, t, hconnect, ht, -⟩ := hready.connect
    have hfound : t.medium = .database db := by
      rcases (connect_reads.of_perform hconnect).medium with hsame | hopened
      · exact hsame.trans hm
      · rw [hopened, hm]
        rfl
    obtain rfl : found = db := by
      rw [ht] at hfound
      exact Medium.database.inj hfound
    exact ⟨t, hconnect, ht⟩

theorem deleteSource_perform (hconnect : connect.perform s = (.ok db, t)) (name : String) :
    ∃ u, (deleteSource name).perform s = (.ok (db.table.rowsOf name).length, u) ∧
      u.medium = .database { db with table := db.table.erase name } := by
  rw [deleteSource_eq, perform_bind, amend_perform, hconnect]
  exact ⟨_, rfl, rfl⟩

end Store

namespace Memory

variable {m n : Memory} {name content : String}

/-- What a memory has under a name: what it reads there, and how many rows it deletes. -/
structure Has (m : Memory) (name : String) (content? : Option String) (count : Nat) : Prop where
  reads : ∃ n, (read name).perform m = (.ok content?, n)
  deletes : ∃ n, (delete name).perform m = (.ok count, n) ∧
    n.store.medium.table = m.store.medium.table.erase name

theorem read_perform {chunks : List Chunk} {t : Store}
    (h : (Store.getSource name).perform
      (m.told .debug s!"memory get: source={Text.quoted name}").store =
      (.ok chunks, t)) :
    ∃ n, (read name).perform m = (if chunks.isEmpty then .ok none else
      (mergeBy (.array (chunks.map fun c => c.overlap.json)) (chunks.map Chunk.content)).map some,
      n) := by
  have hchunks : (onStore (Store.getSource name)).perform
      (m.told .debug s!"memory get: source={Text.quoted name}") =
        (.ok chunks,
          { m.told .debug s!"memory get: source={Text.quoted name}" with store := t }) := by
    rw [onStore, perform_onPart, h]
  rw [read, perform_bind, tell_perform]
  dsimp only
  rw [perform_bind, hchunks]
  dsimp only
  split
  · exact ⟨_, rfl⟩
  · rw [perform_bind, perform_ofExcept]
    cases mergeBy (.array (chunks.map fun c => c.overlap.json)) (chunks.map Chunk.content) with
    | error f => exact ⟨_, rfl⟩
    | ok text => exact ⟨_, rfl⟩

theorem delete_perform {count : Nat} {u : Store}
    (h : (Store.deleteSource name).perform m.store = (.ok count, u)) :
    ∃ n, (delete name).perform m = (.ok count, n) ∧ n.store = u := by
  rw [delete, holding_perform, onStore, perform_onPart, h]
  exact ⟨_, rfl, rfl⟩

theorem has_of_holds {db : Database} {content? : Option String} (hm : m.store.medium = .database db)
    (hopens : m.store.Opens) (hholds : db.table.Holds name content?)
    (hrows : ∀ r ∈ db.table.rowsOf name, Store.Readable r) :
    m.Has name content? (db.table.rowsOf name).length := by
  constructor
  · obtain ⟨t, hconnect, -⟩ :=
      Store.Opens.connect (s :=
        (m.told .debug s!"memory get: source={Text.quoted name}").store) hopens hm
    obtain ⟨chunks, hread, -⟩ := Store.mapM_bySource hrows
    obtain ⟨n, hn⟩ := read_perform ((Store.getSource_perform hconnect name).trans (by rw [hread]))
    cases content? with
    | none =>
      have hnone : db.table.bySource name = [] := by
        rw [Table.bySource, show db.table.rowsOf name = [] from hholds, List.mergeSort_nil]
      rw [hnone] at hread
      cases hread
      exact ⟨n, hn⟩
    | some content =>
      obtain ⟨w, hw⟩ := hholds
      rw [Table.bySource_of_pages hw] at hread
      obtain ⟨hne, hmerge⟩ := Store.merge_chunks hw hread
      rw [if_neg (mt List.isEmpty_iff.mp hne), hmerge] at hn
      exact ⟨n, hn⟩
  · obtain ⟨t, hconnect, -⟩ := hopens.connect hm
    obtain ⟨u, hdelete, hu⟩ := Store.deleteSource_perform hconnect name
    obtain ⟨n, hn, rfl⟩ := delete_perform hdelete
    refine ⟨n, hn, ?_⟩
    rw [hu, hm]
    rfl

theorem write_count {source : Option String} {title : Json} {w : Written}
    (h : (write content source title).perform m = (.ok w, n)) :
    (n.store.medium.table.rowsOf w.source).length = w.chunks ∧ 0 < w.chunks := by
  obtain ⟨hne, -, pieces, vectors, hpieces, hvectors, hcount, hstored⟩ := write_ok h
  have hds : ∀ d ∈ drafts w.source title m.settings.chunkOverlap m.store.clock (pieces.zip vectors),
      d.source = w.source := fun d => source_of_mem_drafts
  obtain ⟨rs, hrs, hrows⟩ := hstored.rowsOf_source hds
  obtain ⟨window, -, rfl⟩ := chunk_ok hne hpieces
  constructor
  · rw [hrows, Row.number_length, ← hrs.length_eq, drafts_length, List.length_zip, hvectors,
      Nat.min_self, hcount]
  · rw [hcount, List.length_map]
    exact List.length_pos_of_ne_nil (window.pieces_ne_nil content.toList)

theorem sourceName_of_filled (now : Timestamp) {source : String}
    (hsource : Text.isBlankText source = false) :
    sourceName now (some source) = Text.strip source := by
  exact if_neg (by simp [Text.strip_isEmpty, hsource])

theorem has_of_write {source : String} {title : Json} {w : Written}
    (hm : m.store.medium.table.Authored fun _ _ => True) (hsource : Text.isBlankText source = false)
    (h : (write content (some source) title).perform m = (.ok w, n)) :
    w.source = Text.strip source ∧ ∀ k : Memory, k.store.medium = n.store.medium → k.store.Opens →
      k.Has (Text.strip source) (some content) w.chunks ∧
      k.Has source (if Text.strip source = source then some content else none)
        (if Text.strip source = source then w.chunks else 0) := by
  obtain ⟨a, hname, -, -, hshelves, -⟩ := write_shelves h
  obtain ⟨hholds, -⟩ := write_holds h
  obtain ⟨hcount, hpos⟩ := write_count h
  have hauthored : n.store.medium.table.Authored fun _ _ => True :=
    Call.authored (.write content (some source) title) (fun _ _ _ => trivial) hm h
  have hsame : w.source = Text.strip source :=
    (write_ok h).2.1.trans (sourceName_of_filled m.store.clock hsource)
  refine ⟨hsame, fun k hk hopens => ?_⟩
  have hrow : ∃ r, r ∈ n.store.medium.table.rowsOf w.source :=
    List.exists_mem_of_length_pos (by omega)
  obtain ⟨r, hr⟩ := hrow
  obtain ⟨db, hdb⟩ := Medium.exists_of_mem (List.mem_of_mem_filter hr)
  rw [← hk] at hdb
  rw [← hk, hdb, Medium.table_database] at hholds hcount hshelves hauthored
  have hfound : k.Has (Text.strip source) (some content) w.chunks := by
    rw [← hsame, ← hcount]
    apply has_of_holds hdb hopens hholds
    intro r hr
    rw [← hname] at hr
    obtain ⟨_, -, -, c, hc, -⟩ := hshelves.chunkOf_draft hr
    exact ⟨c, hc⟩
  refine ⟨hfound, ?_⟩
  by_cases hstrip : Text.strip source = source
  · rw [if_pos hstrip, if_pos hstrip]
    rwa [hstrip] at hfound
  · rw [if_neg hstrip, if_neg hstrip]
    have hnone : db.table.Holds source none := hauthored.rowsOf_of_blanks hstrip
    have hlength : (db.table.rowsOf source).length = 0 := by rw [hnone, List.length_nil]
    rw [← hlength]
    apply has_of_holds hdb hopens hnone
    intro r hr
    rw [hnone] at hr
    cases hr

end Memory

theorem Tool.get_perform [Numerics] {members : List (String × Json)} {source content : String}
    {m n : Memory} (hargument : members.lookup "source" = some (.string source))
    (hsource : Text.isBlankText source = false)
    (h : (Memory.read (Text.strip source)).perform m = (.ok (some content), n)) :
    (execute .get (.object members)).run m = (.text content, n) := by
  have hneeded : neededText (.object members) "source" = .ok (Text.strip source) := by
    rw [neededText_object, hargument]
    exact if_neg (ne_true_of_eq_false hsource)
  have hcall : (callGet (.object members)).perform m = (.ok content, n) := by
    rw [callGet, hneeded]
    refine ofExcept_bind_ok.mpr ⟨_, rfl, perform_bind_ok.mpr ⟨some content, n, h, rfl⟩⟩
  rw [execute_run, show call .get (.object members) = callGet (.object members) from rfl, hcall]

end TextMemory
