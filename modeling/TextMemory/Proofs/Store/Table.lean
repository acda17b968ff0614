import TextMemory.Proofs.Result
import TextMemory.Store.Basic

/-!
# Rows of a table

A chunk that is inserted becomes a row behind all others, under the next id; a list of chunks
becomes rows under consecutive ids, in the order of the list. Erasing a source takes its rows and
leaves all others where they are. A table is sound when no two rows have one key, ids ascend up to
the last one given, and no content is empty; insertions and erasures keep it so.
-/
namespace TextMemory

def Row.number (id : Int) : List Record → List Row
  | [] => []
  | r :: rs => ⟨r, id⟩ :: number (id + 1) rs

namespace Row

@[simp] theorem number_length (id : Int) (rs : List Record) :
    (number id rs).length = rs.length := by
  induction rs generalizing id with
  | nil => rfl
  | cons r rs ih => simp [number, ih]

@[simp] theorem number_records (id : Int) (rs : List Record) :
    (number id rs).map Row.toRecord = rs := by
  induction rs generalizing id with
  | nil => rfl
  | cons r rs ih => simp [number, ih]

theorem number_append (id : Int) (rs ss : List Record) :
    number id (rs ++ ss) = number id rs ++ number (id + rs.length) ss := by
  induction rs generalizing id with
  | nil => simp [number]
  | cons r rs ih =>
    have hid : id + 1 + rs.length = id + (r :: rs).length := by
      rw [List.length_cons]
      omega
    rw [List.cons_append, number, number, ih, hid, List.cons_append]

theorem number_getElem (id : Int) (rs : List Record) (j : Nat) (hj : j < (number id rs).length) :
    (number id rs)[j].id = id + j := by
  induction rs generalizing id j with
  | nil => simp [number] at hj
  | cons r rs ih =>
    cases j with
    | zero => simp [number]
    | succ j =>
      simp only [number, List.getElem_cons_succ]
      rw [ih]
      omega

theorem record_of_mem_number {id : Int} {rs : List Record} {r : Row} (h : r ∈ number id rs) :
    r.toRecord ∈ rs := by
  rw [← number_records id rs]
  exact List.mem_map_of_mem h

theorem le_of_mem_number {id : Int} {rs : List Record} {r : Row} (h : r ∈ number id rs) :
    id ≤ r.id := by
  obtain ⟨j, hj, rfl⟩ := List.getElem_of_mem h
  rw [number_getElem]
  omega

end Row

namespace Table

theorem insert_eq_ok {t u : Table} {r : Record} :
    t.insert r = .ok u ↔ t.hasRoom = true ∧ t.hasKey r.key = false ∧
      u = ⟨t.rows ++ [⟨r, t.lastId + 1⟩], t.lastId + 1⟩ := by
  unfold insert
  by_cases hr : t.hasRoom
  · by_cases hk : t.hasKey r.key
    · simp [hr, hk]
    · simp [hr, hk, eq_comm]
  · simp [hr]

theorem hasKey_eq_false {t : Table} {key : String × Scalar} :
    t.hasKey key = false ↔ ∀ r ∈ t.rows, r.key ≠ key := by
  simp [hasKey]

structure Sound (t : Table) : Prop where
  keys : t.rows.Pairwise fun a b => a.key ≠ b.key
  ids : t.rows.Pairwise fun a b => a.id < b.id
  last : ∀ r ∈ t.rows, r.id ≤ t.lastId
  filled : ∀ r ∈ t.rows, r.content ≠ ""

theorem sound_empty : empty.Sound :=
  ⟨.nil, .nil, by simp [empty], by simp [empty]⟩

theorem Sound.insert {t u : Table} {r : Record} (ht : t.Sound) (hr : r.content ≠ "")
    (h : t.insert r = .ok u) : u.Sound := by
  obtain ⟨-, hk, rfl⟩ := insert_eq_ok.mp h
  have hk := hasKey_eq_false.mp hk
  constructor
  · refine List.pairwise_append.mpr ⟨ht.keys, List.pairwise_singleton _ _, ?_⟩
    intro a ha b hb
    rw [List.mem_singleton.mp hb]
    exact hk a ha
  · refine List.pairwise_append.mpr ⟨ht.ids, List.pairwise_singleton _ _, ?_⟩
    intro a ha b hb
    rw [List.mem_singleton.mp hb]
    exact Int.lt_add_one_of_le (ht.last a ha)
  · intro a ha
    rcases List.mem_append.mp ha with ha | ha
    · exact Int.le_of_lt (Int.lt_add_one_of_le (ht.last a ha))
    · obtain rfl := List.mem_singleton.mp ha
      exact Int.le_refl _
  · intro a ha
    rcases List.mem_append.mp ha with ha | ha
    · exact ht.filled a ha
    · rw [List.mem_singleton.mp ha]
      exact hr

structure Bounded (t : Table) : Prop where
  rows : (t.rows.length : Int) ≤ t.lastId
  last : t.lastId ≤ lastWord

theorem bounded_empty : empty.Bounded := ⟨by decide, by decide⟩

theorem Bounded.insert {t u : Table} {r : Record} (ht : t.Bounded) (h : t.insert r = .ok u) :
    u.Bounded := by
  obtain ⟨hroom, -, rfl⟩ := insert_eq_ok.mp h
  have hlast : t.lastId < lastWord := of_decide_eq_true hroom
  have hrows := ht.rows
  refine ⟨?_, Int.add_one_le_of_lt hlast⟩
  rw [List.length_append, List.length_singleton]
  push_cast
  omega

theorem Bounded.of_sublist {t u : Table} (ht : t.Bounded) (hrows : u.rows.Sublist t.rows)
    (hlast : u.lastId = t.lastId) : u.Bounded := by
  refine ⟨?_, hlast ▸ ht.last⟩
  rw [hlast]
  exact Int.le_trans (by exact_mod_cast hrows.length_le) ht.rows

theorem erase_sublist (t : Table) (source : String) : (t.erase source).rows.Sublist t.rows :=
  List.filter_sublist

theorem Sound.erase {t : Table} (ht : t.Sound) (source : String) : (t.erase source).Sound where
  keys := ht.keys.sublist (t.erase_sublist source)
  ids := ht.ids.sublist (t.erase_sublist source)
  last r hr := ht.last r ((t.erase_sublist source).subset hr)
  filled r hr := ht.filled r ((t.erase_sublist source).subset hr)

theorem rowsOf_erase_self (t : Table) (source : String) : (t.erase source).rowsOf source = [] := by
  simp [rowsOf, erase, List.filter_filter]

theorem rowsOf_erase_of_ne (t : Table) {source other : String} (h : other ≠ source) :
    (t.erase source).rowsOf other = t.rowsOf other := by
  simp only [rowsOf, erase, List.filter_filter]
  apply List.filter_congr
  intro r _
  by_cases hr : r.source = other
  · simp [hr, h]
  · simp [hr]

end Table

namespace Store

theorem bind_ok {p : Draft × String × String} {r : Record} (h : Store.bind p = .ok r) :
    ∃ index overlap, Cell.integer 5 p.1.index = .ok (some index) ∧
      Cell.integer 6 p.1.overlap = .ok (some overlap) ∧
      ∃ kind title, Cell.text 3 p.1.kind = .ok kind ∧ Cell.text 4 p.1.title = .ok title ∧
        r = ⟨p.1.content, p.1.source, kind, title, index, overlap, p.2.1, p.2.2⟩ := by
  simp only [Store.bind, Result.bind_eq_ok, Result.pure_eq_ok] at h
  obtain ⟨kind, hkind, title, htitle, index?, hindex, overlap?, hoverlap, index, hi, overlap, ho,
    rfl⟩ := h
  cases index? with
  | none => simp [Cell.needed] at hi
  | some i =>
    cases overlap? with
    | none => simp [Cell.needed] at ho
    | some o =>
      cases hi
      cases ho
      exact ⟨_, _, hindex, hoverlap, kind, title, hkind, htitle, rfl⟩

theorem insertDraft_eq_ok {t u : Table} {p : Draft × String × String} :
    insertDraft t p = .ok u ↔ ∃ r, Store.bind p = .ok r ∧ t.insert r = .ok u :=
  Result.bind_eq_ok

/-- Chunks become rows behind all others, under the next ids and in their order. -/
theorem insertDrafts_rows {ps : List (Draft × String × String)} {t u : Table}
    (h : ps.foldlM insertDraft t = .ok u) :
    ∃ rs, List.Forall₂ (fun p r => Store.bind p = .ok r) ps rs ∧
      u.rows = t.rows ++ Row.number (t.lastId + 1) rs ∧ u.lastId = t.lastId + rs.length := by
  induction ps generalizing t with
  | nil =>
    rw [List.foldlM_nil, Result.pure_eq_ok] at h
    exact ⟨[], .nil, by simp [h, Row.number], by simp [h]⟩
  | cons p ps ih =>
    rw [List.foldlM_cons, Result.bind_eq_ok] at h
    obtain ⟨v, hv, hu⟩ := h
    obtain ⟨r, hr, hi⟩ := insertDraft_eq_ok.mp hv
    obtain ⟨-, -, rfl⟩ := Table.insert_eq_ok.mp hi
    obtain ⟨rs, hrs, hrows, hlast⟩ := ih hu
    refine ⟨r :: rs, .cons hr hrs, ?_, ?_⟩
    · rw [hrows, Row.number, List.append_assoc, List.singleton_append]
    · rw [hlast, List.length_cons]
      push_cast
      omega

theorem insertDrafts_sound {ps : List (Draft × String × String)} {t u : Table} (ht : t.Sound)
    (hps : ∀ p ∈ ps, p.1.content ≠ "") (h : ps.foldlM insertDraft t = .ok u) : u.Sound := by
  induction ps generalizing t with
  | nil =>
    rw [List.foldlM_nil, Result.pure_eq_ok] at h
    exact h ▸ ht
  | cons p ps ih =>
    rw [List.foldlM_cons, Result.bind_eq_ok] at h
    obtain ⟨v, hv, hu⟩ := h
    obtain ⟨r, hr, hi⟩ := insertDraft_eq_ok.mp hv
    obtain ⟨_, _, -, -, _, _, -, -, rfl⟩ := bind_ok hr
    have hv : v.Sound := ht.insert (hps p List.mem_cons_self) hi
    exact ih hv (fun q hq => hps q (List.mem_cons_of_mem p hq)) hu

theorem insertDrafts_bounded {ps : List (Draft × String × String)} {t u : Table} (ht : t.Bounded)
    (h : ps.foldlM insertDraft t = .ok u) : u.Bounded := by
  induction ps generalizing t with
  | nil =>
    rw [List.foldlM_nil, Result.pure_eq_ok] at h
    exact h ▸ ht
  | cons p ps ih =>
    rw [List.foldlM_cons, Result.bind_eq_ok] at h
    obtain ⟨v, hv, hu⟩ := h
    obtain ⟨r, -, hi⟩ := insertDraft_eq_ok.mp hv
    exact ih (ht.insert hi) hu

end Store
end TextMemory
