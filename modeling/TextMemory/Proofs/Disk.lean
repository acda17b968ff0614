import TextMemory.Disk.Medium
import TextMemory.Proofs.Store.Operation

/-!
# Databases on a disk that is worked on

Folders that are made on the way to a database, and companions that are cleared away from beside it,
leave it where it is. So what a store leaves that has at most been opened is what lay at its path,
or an empty database where there was none.
-/
namespace TextMemory

def Entry.database? : Entry → Option Database
  | .database db _ => some db
  | _ => none

namespace Disk

def database? (d : Disk) (place : List String) : Option Database :=
  (d.entry? place).bind Entry.database?

theorem lookup_filter_ne {α β : Type} [BEq α] [LawfulBEq α] {a b : α} (h : b ≠ a)
    (xs : List (α × β)) : (xs.filter fun x => x.1 != a).lookup b = xs.lookup b := by
  induction xs with
  | nil => rfl
  | cons x xs ih =>
    obtain ⟨c, y⟩ := x
    by_cases hc : c = a
    · have hb : (b == c) = false := by simp [hc, h]
      have ha : (c != a) = false := by simp [hc]
      rw [List.filter_cons_of_neg (by simp [ha]), ih, List.lookup_cons, hb]
    · have ha : (c != a) = true := by simp [hc]
      rw [List.filter_cons_of_pos (by simp [ha]), List.lookup_cons, List.lookup_cons, ih]

theorem entry?_remove_of_ne (d : Disk) {place other : List String} (h : other ≠ place) :
    Disk.entry? (d.remove place) other = d.entry? other := by
  unfold entry? remove
  rw [lookup_filter_ne h]

theorem entry?_put_of_ne (d : Disk) (e : Entry) {place other : List String} (h : other ≠ place) :
    Disk.entry? (d.put place e) other = d.entry? other := by
  have hb : (other == place) = false := by simp [h]
  unfold entry? put
  rw [List.lookup_cons, hb, lookup_filter_ne h]

theorem entry?_put_self (d : Disk) (place : List String) (e : Entry) :
    Disk.entry? (d.put place e) place = some e ∨
      Disk.entry? (d.put place e) place = some .folder ∧ d.entry? place = some .folder := by
  by_cases h : place = ["/"] ∨ place.all (· = "..")
  · exact .inr ⟨if_pos h, if_pos h⟩
  · left
    unfold entry?
    rw [if_neg h]
    simp [put]

theorem database?_congr {d e : Disk} {place : List String} (h : d.entry? place = e.entry? place) :
    d.database? place = e.database? place := by
  rw [database?, database?, h]

theorem database?_put {d : Disk} {place : List String} {e : Entry}
    (hd : d.database? place = none) (he : e.database? = none) (other : List String) :
    (d.put place e).database? other = d.database? other := by
  by_cases h : other = place
  · rw [h, hd]
    rcases d.entry?_put_self place e with hput | ⟨hput, -⟩
    · rw [database?, hput, Option.bind_some, he]
    · rw [database?, hput]
      rfl
  · exact database?_congr (d.entry?_put_of_ne e h)

theorem makeFolder_database? {d e : Disk} {p : Path} (h : d.makeFolder p = .ok e)
    (place : List String) : e.database? place = d.database? place := by
  obtain ⟨target, -, h⟩ := Result.bind_eq_ok.mp h
  split at h
  · cases h
  · rename_i hnone
    cases h
    refine database?_put ?_ rfl place
    rw [database?, Option.not_isSome_iff_eq_none.mp hnone, Option.bind_none]

theorem makeFolders_database? (d : Disk) (p : Path) (place : List String) :
    (d.makeFolders p).2.database? place = d.database? place := by
  fun_induction makeFolders d p with
  | case1 => rfl
  | case2 p _ e he => exact makeFolder_database? he place
  | case3 p _ o ho hmore f e he ih => rwa [he] at ih
  | case4 p _ o ho hmore e he g hg ih =>
    rw [he] at ih
    exact (makeFolder_database? hg place).trans ih
  | case5 p _ o ho hmore e he g hg ih => rwa [he] at ih
  | case6 => rfl

/-! ### Companions -/

theorem beside_ne (place : List String) (c : Companion) : place ≠ beside place c := by
  intro h
  have hlast := congrArg (fun l : List String => (l.getLast?.getD "").utf8ByteSize) h
  simp only [beside, List.getLast?_concat, Option.getD_some, String.utf8ByteSize_append] at hlast
  cases c <;> simp [Companion.ending] at hlast

theorem removeBeside_database? (d : Disk) (place : List String) (c : Companion) :
    (d.removeBeside place c).database? place = d.database? place := by
  unfold removeBeside
  split
  · rfl
  · exact database?_congr (d.entry?_remove_of_ne (beside_ne place c))

theorem clearBlankLog_database? (d : Disk) (place : List String) :
    (d.clearBlankLog place).2.database? place = d.database? place := by
  unfold clearBlankLog
  split
  · rfl
  · rfl
  · exact removeBeside_database? d place .log

theorem clearLog_database? (d : Disk) (place : List String) :
    (d.clearLog place).2.database? place = d.database? place := by
  unfold clearLog
  split
  · rfl
  · rfl
  · rfl
  · rfl
  · rw [removeBeside_database?, removeBeside_database?]

theorem clear_database? (d : Disk) (place : List String) :
    (d.clear place).2.database? place = d.database? place := by
  unfold clear
  dsimp only
  split
  · rfl
  · split
    · rw [clearBlankLog_database?]
      split
      · exact removeBeside_database? d place .journal
      · rfl
    · split
      · rfl
      · rw [clearLog_database?]
        split
        · exact removeBeside_database? d place .journal
        · rfl

/-! ### What a store finds and leaves -/

/-- A medium that tells what database lies at a place. -/
structure Tells (m : Medium) (db? : Option Database) : Prop where
  database : ∀ db, m = .database db → db? = some db
  blank : m = .blank → db? = none
  refused : ∀ f, m ≠ .refused f

theorem tells_blankAt {d : Disk} {p : Path} {db? : Option Database} (h : db? = none) :
    Tells (d.blankAt p) db? := by
  unfold blankAt
  split
  · exact ⟨by simp, fun _ => h, by simp⟩
  · exact ⟨by simp, by simp, by simp⟩

theorem tells_blocked (f g : Fault) (db? : Option Database) : Tells (.blocked f g) db? :=
  ⟨by simp, by simp, by simp⟩

theorem tells_found (d : Disk) (p : Path) : Tells (d.found p) (d.database? p.place) := by
  unfold found
  split
  · exact tells_blocked _ _ _
  · cases he : d.entry? p.place with
    | none => exact tells_blankAt (by rw [database?, he]; rfl)
    | some e =>
      cases e with
      | database db past => exact ⟨by simp [database?, he, Entry.database?], by simp, by simp⟩
      | folder => exact tells_blankAt (by rw [database?, he]; rfl)
      | file bytes =>
        simp only
        split
        · exact tells_blankAt (by rw [database?, he]; rfl)
        · exact tells_blocked _ _ _

theorem tells_mediumAt (d : Disk) (path : String) :
    Tells (d.mediumAt path) (d.database? (Path.read path).place) := by
  unfold mediumAt
  dsimp only
  have hmade := d.makeFolders_database? (Path.read path).parent (Path.read path).place
  cases hm : d.makeFolders (Path.read path).parent with
  | mk r made =>
    rw [hm] at hmade
    cases r with
    | error f =>
      simp only
      split
      · exact tells_blocked _ _ _
      · exact tells_blocked _ _ _
    | ok _ =>
      simp only
      split
      · exact tells_blocked _ _ _
      · split
        · exact ⟨by simp, by simp, by simp⟩
        · split
          · exact tells_blocked _ _ _
          · exact hmade ▸ tells_found made (Path.read path)

theorem entryAfter_database? (old : Option Entry) (db : Database) :
    (entryAfter old db).database? = some db := by
  unfold entryAfter
  split <;> rfl

/-- A database that a store leaves lies at its path, unless a folder does from the start. -/
theorem afterAttempt_database (d : Disk) (p : Path) (db : Database) :
    (d.afterAttempt p (.database db)).database? p.place = some db ∨
      ((d.afterAttempt p (.database db)).database? p.place = none ∧
        d.database? p.place = none) := by
  have hmade := d.makeFolders_database? p.parent p.place
  unfold afterAttempt
  cases hf : d.makeFolders p.parent with
  | mk r made =>
    rw [hf] at hmade
    dsimp only
    have hleft := made.clear_database? p.place
    generalize hd : (if made.entry? p.place = some (entryAfter (made.entry? p.place) db) then
      (made.clear p.place).2 else (made.clear p.place).2.removeBeside p.place .journal) = left
    have hsame : left.database? p.place = d.database? p.place := by
      rw [← hmade, ← hleft, ← hd]
      split
      · rfl
      · exact removeBeside_database? _ _ _
    rcases left.entry?_put_self p.place (entryAfter (made.entry? p.place) db) with h | ⟨h, hold⟩
    · left
      rw [database?, h]
      exact entryAfter_database? _ _
    · right
      rw [← hsame, database?, database?, h, hold]
      exact ⟨rfl, rfl⟩

theorem afterAttempt_refused (d : Disk) (p : Path) (f : Fault) :
    (d.afterAttempt p (.refused f)).database? p.place = d.database? p.place := by
  have hmade := d.makeFolders_database? p.parent p.place
  unfold afterAttempt
  cases hf : d.makeFolders p.parent with
  | mk r made =>
    rw [hf] at hmade
    cases r with
    | error g => exact hmade
    | ok _ =>
      dsimp only
      have hleft := made.clear_database? p.place
      split
      · split
        · rename_i hnone
          rw [database?_put ?_ rfl, hleft, hmade]
          rw [database?, Option.isNone_iff_eq_none.mp hnone, Option.bind_none]
        · rw [hleft, hmade]
      · exact hmade

theorem afterAttempt_kept {d : Disk} {p : Path} {m n : Medium} {dimensions : Int}
    (hm : Tells m (d.database? p.place)) (hn : n = m ∨ n = m.opened dimensions) :
    Database.Kept (d.database? p.place) ((d.afterAttempt p n).database? p.place) := by
  cases m with
  | database db =>
    have hdb : n = .database db := by rcases hn with rfl | rfl <;> rfl
    have hd := hm.database db rfl
    rcases d.afterAttempt_database p db with h | ⟨h, hnone⟩
    · exact .inl (by rw [hdb, h, hd])
    · exact .inl (by rw [hdb, h, hnone])
  | blank =>
    have hd := hm.blank rfl
    rcases hn with rfl | rfl
    · exact .inl rfl
    · rcases d.afterAttempt_database p ⟨dimensions, Table.empty⟩ with h | ⟨h, -⟩
      · exact .inr ⟨hd, dimensions, h⟩
      · exact .inl (h.trans hd.symm)
  | blocked first later =>
    rcases hn with rfl | rfl
    · exact .inl rfl
    · exact .inl (d.afterAttempt_refused p later)
  | refused f => exact absurd rfl (hm.refused f)
  | fleeting => rcases hn with rfl | rfl <;> exact .inl rfl

/-- The work of a store that rests keeps the database at its path. -/
theorem keep_kept (d : Disk) {s t : Store} (hs : s.medium = d.mediumAt s.path)
    (h : Store.Rests s t) :
    Database.Kept (d.database? (Path.read s.path).place)
      ((d.keep t).database? (Path.read s.path).place) := by
  unfold keep
  split
  · have hmedium := h.medium
    rw [hs] at hmedium
    rw [h.path]
    exact afterAttempt_kept (d.tells_mediumAt s.path) hmedium
  · exact .inl rfl

/-! ### Places at which a database can lie -/

def Free (place : List String) : Prop := ¬(place = ["/"] ∨ place.all (· = ".."))

theorem entry?_put_of_free (d : Disk) {place : List String} (h : Free place) (e : Entry) :
    Disk.entry? (d.put place e) place = some e := by
  unfold entry?
  rw [if_neg h]
  simp [put]

theorem free_of_clear {d e : Disk} {place : List String} {u : Unit}
    (h : d.clear place = (.ok u, e)) :
    Free place := by
  intro hfolder
  have hentry : d.entry? place = some .folder := if_pos hfolder
  rw [clear, if_pos hentry] at h
  cases h

theorem free_of_found {d : Disk} {p : Path} (h : ∀ f g, d.found p ≠ .blocked f g) :
    Free p.place := by
  cases hclear : d.clear p.place with
  | mk r e =>
    cases r with
    | ok u => exact free_of_clear hclear
    | error f =>
      refine absurd ?_ (h f f)
      rw [found, hclear]

theorem free_of_mediumAt {d : Disk} {path : String}
    (hblocked : ∀ f g, d.mediumAt path ≠ .blocked f g)
    (hfleeting : d.mediumAt path ≠ .fleeting) : Free (Path.read path).place := by
  unfold mediumAt at hblocked hfleeting
  dsimp only at hblocked hfleeting
  cases hm : d.makeFolders (Path.read path).parent with
  | mk r made =>
    rw [hm] at hblocked hfleeting
    cases r with
    | error f =>
      dsimp only at hblocked
      split at hblocked
      · exact absurd rfl (hblocked _ _)
      · exact absurd rfl (hblocked _ _)
    | ok u =>
      dsimp only at hblocked hfleeting
      split at hblocked
      · exact absurd rfl (hblocked _ _)
      · rename_i hnul
        rw [if_neg hnul] at hfleeting
        split at hblocked
        · rename_i hpath
          exact absurd (if_pos hpath) hfleeting
        · split at hblocked
          · exact absurd rfl (hblocked _ _)
          · exact free_of_found hblocked

theorem afterAttempt_database_of_free (d : Disk) {p : Path} (h : Free p.place) (db : Database) :
    (d.afterAttempt p (.database db)).database? p.place = some db := by
  unfold afterAttempt
  cases d.makeFolders p.parent with
  | mk r made =>
    dsimp only
    rw [database?, entry?_put_of_free _ h]
    exact entryAfter_database? _ _

end Disk
end TextMemory
