import TextMemory.Proofs.FirstSeen
import TextMemory.Proofs.Refinement
import TextMemory.Proofs.Store.Table

/-!
# The shelves of a table

Ids aside, a table is a shelf of records for each source. An exchange puts records in place of those
of one source: it sees no other shelf and touches none. So two exchanges of different sources come
to the same in either order, unless the ids run out on the way, and what tables with the same
shelves tell of their sources is the same.
-/
namespace TextMemory

namespace Table

def shelf (t : Table) (source : String) : List Record := (t.rowsOf source).map Row.toRecord

def adding (t : Table) (rs : List Record) : Table :=
  ⟨t.rows ++ Row.number (t.lastId + 1) rs, t.lastId + rs.length⟩

@[simp] theorem adding_nil (t : Table) : t.adding [] = t := by
  simp [adding, Row.number]

theorem adding_append (t : Table) (rs rs' : List Record) :
    t.adding (rs ++ rs') = (t.adding rs).adding rs' := by
  have hnext : t.lastId + 1 + rs.length = t.lastId + rs.length + 1 := by omega
  simp only [adding, Row.number_append, hnext, List.append_assoc, List.length_append]
  congr 1
  push_cast
  omega

theorem insert_eq_adding {t : Table} (r : Record) (hroom : t.hasRoom = true) :
    t.insert r = if t.hasKey r.key then .error (.duplicateKey ["source_path", "chunk_index"])
      else .ok (t.adding [r]) := by
  simp [insert, hroom, adding, Row.number]

theorem hasKey_eq (t : Table) (key : String × Scalar) :
    t.hasKey key = (t.rows.map Row.toRecord).any fun r => r.key == key := by
  rw [hasKey, List.any_map]
  rfl

theorem hasKey_adding (t : Table) (rs : List Record) (key : String × Scalar) :
    (t.adding rs).hasKey key = (t.hasKey key || rs.any fun r => r.key == key) := by
  rw [hasKey_eq, hasKey_eq, adding, List.map_append, Row.number_records, List.any_append]

theorem hasKey_erase {t : Table} {source : String} {key : String × Scalar} (h : key.1 = source) :
    (t.erase source).hasKey key = false := by
  rw [hasKey_eq_false]
  intro r hr hkey
  have hother : r.source ≠ source := by simpa using (List.mem_filter.mp hr).2
  exact hother ((congrArg Prod.fst hkey).trans h)

theorem shelf_eq (t : Table) (source : String) :
    t.shelf source = (t.rows.map Row.toRecord).filter fun r => r.source == source := by
  rw [shelf, rowsOf, List.filter_map]
  rfl

theorem length_rowsOf (t : Table) (source : String) :
    (t.rowsOf source).length = (t.shelf source).length := (List.length_map _).symm

theorem shelf_erase (t : Table) (source other : String) :
    (t.erase source).shelf other = if other = source then [] else t.shelf other := by
  by_cases h : other = source
  · rw [if_pos h, h, shelf, rowsOf_erase_self, List.map_nil]
  · rw [if_neg h, shelf, rowsOf_erase_of_ne t h, shelf]

theorem shelf_adding (t : Table) {source : String} {rs : List Record}
    (h : ∀ r ∈ rs, r.source = source) (other : String) :
    (t.adding rs).shelf other = t.shelf other ++ if other = source then rs else [] := by
  rw [shelf_eq, shelf_eq, adding, List.map_append, Row.number_records, List.filter_append]
  congr 1
  by_cases ho : other = source
  · rw [if_pos ho, List.filter_eq_self]
    exact fun r hr => beq_iff_eq.mpr ((h r hr).trans ho.symm)
  · rw [if_neg ho, List.filter_eq_nil_iff]
    intro r hr hsource
    exact ho ((beq_iff_eq.mp hsource).symm.trans (h r hr))

theorem sourceNames_pairwise (t : Table) : t.sourceNames.Pairwise fun a b => a ≤ b := by
  have hle : ∀ a b : String, (!decide (b < a)) = true ↔ a ≤ b := by
    intro a b
    rw [Bool.not_eq_true', decide_eq_false_iff_not]
    exact String.not_lt
  apply (List.pairwise_mergeSort ?_ ?_ _).imp fun hab => (hle _ _).mp hab
  · intro a b c hab hbc
    exact (hle a c).mpr (String.le_trans ((hle a b).mp hab) ((hle b c).mp hbc))
  · intro a b
    rw [Bool.or_eq_true, hle, hle]
    exact String.le_total a b

def Short (t : Table) (n : Nat) : Prop := lastWord < t.lastId + n

theorem Short.mono {t : Table} {n k : Nat} (h : t.Short n) (hk : n ≤ k) : t.Short k := by
  unfold Short at h ⊢
  omega

theorem Short.of_adding {t : Table} {rs : List Record} {n k : Nat} (h : (t.adding rs).Short k)
    (hrs : rs.length ≤ n) : t.Short (n + k) := by
  simp only [Short, adding] at h ⊢
  push_cast
  omega

theorem short_of_no_room {t : Table} (h : ¬t.hasRoom = true) : t.Short 1 := by
  have hlast : ¬t.lastId < lastWord := fun hlt => h (decide_eq_true hlt)
  unfold Short
  omega

/-- Tables that differ in the ids of their rows only, and in how the rows of different sources are
mixed. -/
structure Alike (t u : Table) : Prop where
  shelf : ∀ source, t.shelf source = u.shelf source
  lastId : t.lastId = u.lastId

namespace Alike

variable {t u : Table}

theorem refl (t : Table) : t.Alike t := ⟨fun _ => rfl, rfl⟩

theorem records (h : t.Alike u) : (t.rows.map Row.toRecord).Perm (u.rows.map Row.toRecord) := by
  rw [List.perm_iff_count]
  intro r
  have hcount : ∀ v : Table, (v.shelf r.source).count r = (v.rows.map Row.toRecord).count r := by
    intro v
    rw [shelf_eq]
    exact List.count_filter (beq_self_eq_true r.source)
  rw [← hcount t, ← hcount u, h.shelf]

theorem bySource (h : t.Alike u) (source : String) :
    (t.bySource source).map Row.toRecord = (u.bySource source).map Row.toRecord := by
  have hsorted : ∀ v : Table, (v.bySource source).map Row.toRecord =
      (v.shelf source).mergeSort fun a b => a.index.atMost b.index :=
    fun v => List.map_mergeSort fun _ _ _ _ => rfl
  rw [hsorted, hsorted, h.shelf]

theorem info (h : t.Alike u) (source : String) : t.info source = u.info source := by
  have hinfo : ∀ v : Table, v.info source =
      ⟨source, (v.shelf source).foldl (fun k r => greaterText k r.kind) none,
        (v.shelf source).length⟩ := by
    intro v
    rw [Table.info, Table.shelf, List.foldl_map, List.length_map]
  rw [hinfo, hinfo, h.shelf]

theorem names (h : t.Alike u) :
    (t.rows.map fun r => r.source).eraseDups.Perm (u.rows.map fun r => r.source).eraseDups := by
  have hsources : (t.rows.map fun r => r.source).Perm (u.rows.map fun r => r.source) := by
    have hmapped := h.records.map Record.source
    rwa [List.map_map, List.map_map] at hmapped
  rw [List.perm_ext_iff_of_nodup (FirstSeen.nodup_eraseDups _) (FirstSeen.nodup_eraseDups _)]
  intro name
  rw [List.mem_eraseDups, List.mem_eraseDups, hsources.mem_iff]

theorem sources (h : t.Alike u) : t.sources = u.sources := by
  have hnames : t.sourceNames = u.sourceNames := by
    refine List.Perm.eq_of_pairwise (fun a b _ _ => String.le_antisymm) (sourceNames_pairwise t)
      (sourceNames_pairwise u) ?_
    exact (List.mergeSort_perm _ _).trans (h.names.trans (List.mergeSort_perm _ _).symm)
  rw [Table.sources, Table.sources, hnames]
  exact List.map_congr_left fun name _ => h.info name

theorem stats (h : t.Alike u) : t.stats = u.stats := by
  have hlength := h.records.length_eq
  rw [List.length_map, List.length_map] at hlength
  rw [Table.stats, Table.stats, hlength, h.names.length_eq]

end Alike
end Table

namespace Store

open TextMemory.Action

variable {α β : Type} {source : String} {n : Nat} {t u : Table}

def Parallel (source : String) (n : Nat) (t u : Table) (r s : Except Fault (α × Table)) : Prop :=
  (∃ f, r = .error f ∧ s = .error f) ∨
    ∃ x rs, (∀ record ∈ rs, record.source = source) ∧ rs.length ≤ n ∧
      r = .ok (x, t.adding rs) ∧ s = .ok (x, u.adding rs)

/-- Two tables go in parallel unless one of them is short of ids. -/
def Agree (source : String) (n : Nat) (t u : Table) (r s : Except Fault (α × Table)) : Prop :=
  (r = .error .noIdLeft ∧ t.Short n) ∨ (s = .error .noIdLeft ∧ u.Short n) ∨
    Parallel source n t u r s

theorem Parallel.answer {r s : Except Fault (α × Table)} (h : Parallel source n t u r s) :
    r.map Prod.fst = s.map Prod.fst := by
  rcases h with ⟨f, rfl, rfl⟩ | ⟨x, rs, -, -, rfl, rfl⟩
  · rfl
  · rfl

theorem Agree.map {r s : Except Fault (α × Table)} (h : Agree source n t u r s) (g : α → β) :
    Agree source n t u (r.map fun p => (g p.1, p.2)) (s.map fun p => (g p.1, p.2)) := by
  rcases h with ⟨rfl, ht⟩ | ⟨rfl, hu⟩ | ⟨f, rfl, rfl⟩ | ⟨x, rs, hrs, hle, rfl, rfl⟩
  · exact .inl ⟨rfl, ht⟩
  · exact .inr (.inl ⟨rfl, hu⟩)
  · exact .inr (.inr (.inl ⟨f, rfl, rfl⟩))
  · exact .inr (.inr (.inr ⟨g x, rs, hrs, hle, rfl, rfl⟩))

theorem Agree.mono {k : Nat} {r s : Except Fault (α × Table)} (h : Agree source n t u r s)
    (hk : n ≤ k) : Agree source k t u r s := by
  rcases h with ⟨hr, ht⟩ | ⟨hs, hu⟩ | h | ⟨x, rs, hrs, hle, hr, hs⟩
  · exact .inl ⟨hr, ht.mono hk⟩
  · exact .inr (.inl ⟨hs, hu.mono hk⟩)
  · exact .inr (.inr (.inl h))
  · exact .inr (.inr (.inr ⟨x, rs, hrs, Nat.le_trans hle hk, hr, hs⟩))

/-- What goes on after tables have gone in parallel starts with the same new records in both. -/
theorem Agree.bind {k : Nat} {r s : Except Fault (α × Table)} {G : Table → Except Fault (β × Table)}
    (h : Agree source n t u r s)
    (hG : ∀ rs, Agree source k (t.adding rs) (u.adding rs) (G (t.adding rs)) (G (u.adding rs))) :
    Agree source (n + k) t u (r.bind fun p => G p.2) (s.bind fun p => G p.2) := by
  rcases h with ⟨rfl, ht⟩ | ⟨rfl, hu⟩ | ⟨f, rfl, rfl⟩ | ⟨x, rs, hrs, hle, rfl, rfl⟩
  · exact .inl ⟨rfl, ht.mono (Nat.le_add_right n k)⟩
  · exact .inr (.inl ⟨rfl, hu.mono (Nat.le_add_right n k)⟩)
  · exact .inr (.inr (.inl ⟨f, rfl, rfl⟩))
  · rcases hG rs with ⟨hr, ht⟩ | ⟨hs, hu⟩ | hfails | ⟨y, rs', hrs', hle', hr, hs⟩
    · exact .inl ⟨hr, ht.of_adding hle⟩
    · exact .inr (.inl ⟨hs, hu.of_adding hle⟩)
    · exact .inr (.inr (.inl hfails))
    · refine .inr (.inr (.inr ⟨y, rs ++ rs', List.forall_mem_append.mpr ⟨hrs, hrs'⟩, ?_, ?_, ?_⟩))
      · rw [List.length_append]
        exact Nat.add_le_add hle hle'
      · rw [Table.adding_append]
        exact hr
      · rw [Table.adding_append]
        exact hs

theorem insert_agree {r : Record} (hr : r.source = source)
    (hkey : t.hasKey r.key = u.hasKey r.key) :
    Agree source 1 t u ((t.insert r).map fun v => ((), v)) ((u.insert r).map fun v => ((), v)) := by
  by_cases ht : t.hasRoom = true
  · by_cases hu : u.hasRoom = true
    · rw [Table.insert_eq_adding r ht, Table.insert_eq_adding r hu, hkey]
      by_cases hk : u.hasKey r.key = true
      · rw [if_pos hk, if_pos hk]
        exact .inr (.inr (.inl ⟨_, rfl, rfl⟩))
      · rw [if_neg hk, if_neg hk]
        exact .inr (.inr (.inr
          ⟨(), [r], List.forall_mem_singleton.mpr hr, Nat.le_refl 1, rfl, rfl⟩))
    · exact .inr (.inl ⟨by simp [Table.insert, hu, Except.map], Table.short_of_no_room hu⟩)
  · exact .inl ⟨by simp [Table.insert, ht, Except.map], Table.short_of_no_room ht⟩

theorem insertDrafts_agree {ps : List (Draft × String × String)}
    (hps : ∀ p ∈ ps, p.1.source = source)
    (hkeys : ∀ key : String × Scalar, key.1 = source → t.hasKey key = u.hasKey key) (x : α) :
    Agree source ps.length t u ((ps.foldlM insertDraft t).map fun v => (x, v))
      ((ps.foldlM insertDraft u).map fun v => (x, v)) := by
  induction ps generalizing t u with
  | nil => exact .inr (.inr (.inr ⟨x, [], nofun, Nat.le_refl 0, by simp; rfl, by simp; rfl⟩))
  | cons p ps ih =>
    rw [List.forall_mem_cons] at hps
    have hfirst : ∀ v, ((p :: ps).foldlM insertDraft v).map (fun w => (x, w)) =
        (Store.bind p).bind fun r => ((v.insert r).map fun w => ((), w)).bind fun q =>
          (ps.foldlM insertDraft q.2).map fun w => (x, w) := by
      intro v
      rw [List.foldlM_cons, insertDraft]
      cases Store.bind p with
      | error f => rfl
      | ok r =>
        simp only [Result.ok_bind, Except.bind]
        cases v.insert r <;> rfl
    rw [hfirst, hfirst]
    cases hp : Store.bind p with
    | error f => exact .inr (.inr (.inl ⟨f, rfl, rfl⟩))
    | ok r =>
      have hr : r.source = source := by
        obtain ⟨_, _, -, -, _, _, -, -, rfl⟩ := bind_ok hp
        exact hps.1
      rw [List.length_cons, Nat.add_comm]
      refine (insert_agree hr (hkeys r.key hr)).bind
        (G := fun v => (ps.foldlM insertDraft v).map fun w => (x, w)) fun rs => ih hps.2 ?_
      intro key hkey
      rw [Table.hasKey_adding, Table.hasKey_adding, hkeys key hkey]

def exchange (source : String) (ps : List (Draft × String × String)) (t : Table) :
    Except Fault (Nat × Table) := do
  let t' ← ps.foldlM insertDraft (t.erase source)
  return ((t.rowsOf source).length, t')

theorem exchange_single {p : Draft × String × String} {r : Record} (hp : Store.bind p = .ok r)
    (source : String) (hr : r.source = source) (t : Table) :
    exchange source [p] t = if t.hasRoom then
      .ok ((t.rowsOf source).length, (t.erase source).adding [r]) else .error .noIdLeft := by
  have hkey : (t.erase source).hasKey r.key = false := Table.hasKey_erase hr
  have hinsert : insertDraft (t.erase source) p = (t.erase source).insert r := by
    rw [insertDraft, hp, Result.ok_bind]
  rw [exchange, List.foldlM_cons, hinsert]
  by_cases hroom : t.hasRoom = true
  · have hsame : (t.erase source).hasRoom = true := hroom
    rw [if_pos hroom, Table.insert_eq_adding r hsame, hkey]
    rfl
  · have hsame : (t.erase source).hasRoom = false := Bool.eq_false_iff.mpr hroom
    rw [if_neg hroom, Table.insert, hsame]
    rfl

/-- A function of tables that sees the shelf of a source only and changes no other; it puts `n`
records on it at most. -/
def Exchanges (source : String) (n : Nat) (F : Table → Except Fault (α × Table)) : Prop :=
  ∀ t u, t.shelf source = u.shelf source →
    Agree source n (t.erase source) (u.erase source) (F t) (F u)

theorem exchanges_exchange {ps : List (Draft × String × String)}
    (hps : ∀ p ∈ ps, p.1.source = source) : Exchanges source ps.length (exchange source ps) := by
  intro t u h
  have hkeys : ∀ key : String × Scalar, key.1 = source →
      (t.erase source).hasKey key = (u.erase source).hasKey key := by
    intro key hkey
    rw [Table.hasKey_erase hkey, Table.hasKey_erase hkey]
  have hcount : (t.rowsOf source).length = (u.rowsOf source).length := by
    rw [Table.length_rowsOf, Table.length_rowsOf, h]
  have hagree := insertDrafts_agree hps hkeys (t.rowsOf source).length
  have hexchange : ∀ v : Table, exchange source ps v =
      (ps.foldlM insertDraft (v.erase source)).map fun w => ((v.rowsOf source).length, w) := by
    intro v
    rw [exchange]
    cases ps.foldlM insertDraft (v.erase source) <;> rfl
  rw [hexchange, hexchange, ← hcount]
  exact hagree

theorem Exchanges.map {F : Table → Except Fault (α × Table)} (h : Exchanges source n F)
    (g : α → β) : Exchanges source n fun t => (F t).map fun p => (g p.1, p.2) :=
  fun t u htu => (h t u htu).map g

theorem Exchanges.mono {k : Nat} {F : Table → Except Fault (α × Table)}
    (h : Exchanges source n F) (hk : n ≤ k) : Exchanges source k F :=
  fun t u htu => (h t u htu).mono hk

theorem Exchanges.bind {r : Except Fault β} {G : β → Table → Except Fault (α × Table)}
    (h : ∀ x, r = .ok x → Exchanges source n (G x)) :
    Exchanges source n fun t => r.bind fun x => G x t := by
  intro t u htu
  cases hr : r with
  | error f => exact .inr (.inr (.inl ⟨f, rfl, rfl⟩))
  | ok x => exact h x hr t u htu

section

variable {F : Table → Except Fault (α × Table)} {G : Table → Except Fault (β × Table)}

/-- An exchange leaves the table as it was or with other records of the source behind the rest. -/
theorem Exchanges.leads (h : Exchanges source n F) (t : Table) :
    after F t = t ∨ ∃ rs, (∀ record ∈ rs, record.source = source) ∧ rs.length ≤ n ∧
      after F t = (t.erase source).adding rs := by
  rcases h t t rfl with ⟨hF, -⟩ | ⟨hF, -⟩ | ⟨f, hF, -⟩ | ⟨x, rs, hrs, hle, hF, -⟩
  · exact .inl (after_error hF)
  · exact .inl (after_error hF)
  · exact .inl (after_error hF)
  · exact .inr ⟨rs, hrs, hle, after_ok hF⟩

theorem Exchanges.shelf_of_ne (h : Exchanges source n F) (t : Table) {other : String}
    (hne : other ≠ source) : (after F t).shelf other = t.shelf other := by
  rcases h.leads t with hsame | ⟨rs, hrs, -, hafter⟩
  · rw [hsame]
  · rw [hafter, Table.shelf_adding _ hrs, Table.shelf_erase, if_neg hne, if_neg hne,
      List.append_nil]

theorem Exchanges.short {k : Nat} (h : Exchanges source n F) {t : Table} {name : String}
    (hshort : ((after F t).erase name).Short k) : t.Short (n + k) := by
  have hafter : (after F t).Short k := hshort
  rcases h.leads t with hsame | ⟨rs, -, hle, hleads⟩
  · rw [hsame] at hafter
    exact hafter.mono (Nat.le_add_left k n)
  · rw [hleads] at hafter
    exact hafter.of_adding hle

/-- Exchanges of two sources give the same answers in either order and come to tables that are
alike, unless there are too few ids for both and they run out on one of the ways. -/
theorem Exchanges.commute {other : String} {k : Nat} (hF : Exchanges source n F)
    (hG : Exchanges other k G) (hne : source ≠ other) (t : Table) :
    (t.Short (n + k) ∧ (F t = .error .noIdLeft ∨ G (after F t) = .error .noIdLeft ∨
      G t = .error .noIdLeft ∨ F (after G t) = .error .noIdLeft)) ∨
    (F t).map Prod.fst = (F (after G t)).map Prod.fst ∧
      (G (after F t)).map Prod.fst = (G t).map Prod.fst ∧
      (after G (after F t)).Alike (after F (after G t)) := by
  have hshort : ∀ {name : String}, (t.erase name).Short n → t.Short (n + k) :=
    fun h => Table.Short.mono h (Nat.le_add_right n k)
  have hshort' : ∀ {name : String}, (t.erase name).Short k → t.Short (n + k) :=
    fun h => Table.Short.mono h (Nat.le_add_left k n)
  rcases hF t (after G t) (hG.shelf_of_ne t hne).symm with ⟨h, hs⟩ | ⟨h, hs⟩ | hFs
  · exact .inl ⟨hshort hs, .inl h⟩
  · exact .inl ⟨Nat.add_comm k n ▸ hG.short hs, .inr (.inr (.inr h))⟩
  rcases hG (after F t) t (hF.shelf_of_ne t (Ne.symm hne)) with ⟨h, hs⟩ | ⟨h, hs⟩ | hGs
  · exact .inl ⟨hF.short hs, .inr (.inl h)⟩
  · exact .inl ⟨hshort' hs, .inr (.inr (.inl h))⟩
  refine .inr ⟨hFs.answer, hGs.answer, ?_⟩
  rcases hFs with ⟨f, hf, hf'⟩ | ⟨x, rs, hrs, -, hx, hx'⟩
  · rcases hGs with ⟨g, hg, hg'⟩ | ⟨y, ss, -, -, hy, hy'⟩
    · rw [after_error hg, after_error hf, after_error hf', after_error hg']
      exact .refl t
    · rw [after_ok hy, after_error hf, after_error hf', after_ok hy']
      exact .refl _
  · rcases hGs with ⟨g, hg, hg'⟩ | ⟨y, ss, hss, -, hy, hy'⟩
    · rw [after_error hg, after_ok hx, after_ok hx', after_error hg']
      exact .refl _
    · rw [after_ok hy, after_ok hx, after_ok hx', after_ok hy']
      refine ⟨fun name => ?_, ?_⟩
      · simp only [Table.shelf_adding _ hrs, Table.shelf_adding _ hss, Table.shelf_erase]
        by_cases h₁ : name = source
        · simp [h₁, hne]
        · by_cases h₂ : name = other
          · simp [h₂, Ne.symm hne]
          · simp [h₁, h₂]
      · simp only [Table.adding, Table.erase]
        omega

end

end Store
end TextMemory
