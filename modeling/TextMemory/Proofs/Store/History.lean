import TextMemory.Proofs.Store.Operation
import TextMemory.Proofs.Timestamp

/-!
# Histories of a database

Any number of stores come to work on what lies at one path and are called in any order, one call
after the other. The history keeps the chunks of the calls that succeeded and the rows that have
ever come into the table.
-/
namespace TextMemory

open TextMemory.Action

def Draft.daily (content source : String) (embedding : List Number) (index : Int) : Draft :=
  ⟨content, source, embedding, .int index, .string "daily", .null, .int 0, some .noon⟩

namespace Store

structure History where
  medium : Medium
  stores : List Store
  drafts : List Draft
  rows : List Row

inductive Event
  | enter (path : String) (dimensions : Int) (now : Timestamp)
  | call (store : Nat) (now : Timestamp) (c : Call)

namespace History

def start (m : Medium) : History := ⟨m, [], [], []⟩

def called [Numerics] (h : History) (place : Nat) (s : Store) (c : Call) : History :=
  let (answer, t) := c.action.perform s
  { medium := t.medium
    stores := h.stores.set place t
    drafts := h.drafts ++ match answer with
      | .ok _ => c.drafts
      | .error _ => []
    rows := h.rows ++ t.medium.table.rows.filter fun r => r ∉ s.medium.table.rows }

def step [Numerics] (h : History) : Event → History
  | .enter path dimensions now =>
    match create path dimensions h.medium now with
    | .ok s => { h with stores := h.stores ++ [s] }
    | .error _ => h
  | .call place now c =>
    match h.stores[place]? with
    | some s => h.called place { s with medium := h.medium, clock := now } c
    | none => h

def run [Numerics] (h : History) (es : List Event) : History := es.foldl step h

/-- The rows have the ids 1, 2, 3, … in the order in which they came, each keeps its chunk, and
those that are stored are some of them, in their order. -/
structure Numbered (h : History) : Prop where
  sound : h.medium.table.Sound
  keeps : List.Forall₂ Keeps h.drafts (h.rows.map Row.toRecord)
  ids : h.rows = Row.number 1 (h.rows.map Row.toRecord)
  last : h.medium.table.lastId = h.rows.length
  stored : h.medium.table.rows.Sublist h.rows

theorem numbered_start {m : Medium} (hm : m.table = Table.empty) : (start m).Numbered where
  sound := hm ▸ Table.sound_empty
  keeps := .nil
  ids := rfl
  last := by rw [start, hm]; rfl
  stored := by rw [start, hm]; exact .slnil

end History

theorem Call.remaining_sublist (c : Call) (t : Table) :
    (c.remaining t).rows.Sublist t.rows := by
  cases c with
  | deleteSource source => exact t.erase_sublist source
  | replaceSource source ds => exact t.erase_sublist source
  | _ => exact .refl _

theorem Call.remaining_lastId (c : Call) (t : Table) : (c.remaining t).lastId = t.lastId := by
  cases c <;> rfl

theorem Call.remaining_sound (c : Call) {t : Table} (ht : t.Sound) : (c.remaining t).Sound := by
  cases c with
  | deleteSource source => exact ht.erase source
  | replaceSource source ds => exact ht.erase source
  | _ => exact ht

/-- What has come into a table is what stands behind the rows that remain of the old one. -/
theorem filter_new {t : Table} {kept : List Row} {rs : List Record} (ht : t.Sound)
    (hk : kept.Sublist t.rows) :
    (kept ++ Row.number (t.lastId + 1) rs).filter (fun r => r ∉ t.rows) =
      Row.number (t.lastId + 1) rs := by
  rw [List.filter_append, List.filter_eq_nil_iff.mpr, List.nil_append, List.filter_eq_self.mpr]
  · intro r hr
    have hlow := Row.le_of_mem_number hr
    apply decide_eq_true
    intro hmem
    have hhigh := ht.last r hmem
    omega
  · intro r hr
    simp [hk.subset hr]

namespace History

section

variable [Numerics]

theorem Numbered.called {h : History} (hh : h.Numbered) (place : Nat) {s : Store}
    (hs : s.medium = h.medium) (c : Call) : (h.called place s c).Numbered := by
  obtain ⟨hsound, hkeeps, hids, hlast, hstored⟩ := hh
  rw [← hs] at hsound hlast hstored
  unfold History.called
  cases hc : c.action.perform s with
  | mk answer t =>
    cases answer with
    | error f =>
      have htable := (c.failsWithin s f t hc).table
      have hnew : t.medium.table.rows.filter (fun r => r ∉ s.medium.table.rows) = [] := by
        rw [htable, List.filter_eq_nil_iff]
        intro r hr
        simp [hr]
      simp only [hnew, List.append_nil]
      exact ⟨htable ▸ hsound, hkeeps, hids, htable ▸ hlast, htable ▸ hstored⟩
    | ok r =>
      have hst := c.stored hc
      obtain ⟨rs, hrs, hrows, hid⟩ := hst.rows
      rw [c.remaining_lastId] at hrows hid
      have hnew : t.medium.table.rows.filter (fun r => r ∉ s.medium.table.rows) =
          Row.number (s.medium.table.lastId + 1) rs := by
        rw [hrows]
        exact filter_new hsound (c.remaining_sublist _)
      simp only [hnew]
      refine ⟨hst.sound (c.remaining_sound hsound), ?_, ?_, ?_, ?_⟩
      · rw [List.map_append, Row.number_records]
        exact List.rel_append hkeeps hrs
      · rw [List.map_append, Row.number_append, ← hids, Row.number_records, List.length_map,
          hlast, Int.add_comm]
      · rw [hid, hlast, List.length_append, Row.number_length]
        push_cast
        rfl
      · rw [hrows]
        exact ((c.remaining_sublist _).trans hstored).append (.refl _)

theorem Numbered.step {h : History} (hh : h.Numbered) (e : Event) :
    (h.step e).Numbered := by
  cases e with
  | enter path dimensions now =>
    simp only [History.step]
    cases create path dimensions h.medium now with
    | ok s => exact ⟨hh.sound, hh.keeps, hh.ids, hh.last, hh.stored⟩
    | error f => exact hh
  | call place now c =>
    simp only [History.step]
    cases hp : h.stores[place]? with
    | some s => exact hh.called place (by rfl) c
    | none => exact hh

/-- A step leaves the table as it is, or it is a call that succeeds. -/
theorem table_step (h : History) (e : Event) :
    (h.step e).medium.table = h.medium.table ∨
      ∃ (c : Call) (s t : Store), s.medium = h.medium ∧ Stored c.remaining c.drafts s t ∧
        (h.step e).medium = t.medium := by
  cases e with
  | enter path dimensions now =>
    rw [step]
    cases create path dimensions h.medium now with
    | ok s => exact .inl rfl
    | error f => exact .inl rfl
  | call place now c =>
    rw [step]
    cases h.stores[place]? with
    | none => exact .inl rfl
    | some s =>
      dsimp only [History.called]
      cases hc : c.action.perform { s with medium := h.medium, clock := now } with
      | mk answer t =>
        cases answer with
        | error f => exact .inl (c.failsWithin _ f t hc).table
        | ok r => exact .inr ⟨c, _, t, rfl, c.stored hc, rfl⟩

theorem Numbered.run {h : History} (hh : h.Numbered) (es : List Event) :
    (h.run es).Numbered := by
  induction es generalizing h with
  | nil => exact hh
  | cons e es ih => exact ih (hh.step e)

/-- Whatever is called, no two stored rows have one key, none is empty, and the ids of the rows that
ever came are their places: they ascend, a deleted row's id does not return, and what fails uses
none up. The rows that ever came are the chunks of the calls that succeeded, in their order. -/
theorem ids_count_commits {m : Medium} (hm : m.table = Table.empty) (es : List Event) :
    let h := (start m).run es
    (h.medium.table.rows.Pairwise fun a b => a.key ≠ b.key) ∧
      (∀ r ∈ h.medium.table.rows, r.content ≠ "") ∧
      (∀ j (hj : j < h.rows.length), h.rows[j].id = j + 1) ∧
      (h.rows.Pairwise fun a b => a.id < b.id) ∧
      List.Forall₂ Keeps h.drafts (h.rows.map Row.toRecord) ∧
      h.medium.table.rows.Sublist h.rows ∧
      h.medium.table.lastId = h.rows.length := by
  intro h
  have hh : h.Numbered := (numbered_start hm).run es
  have hids : ∀ j (hj : j < h.rows.length), h.rows[j].id = j + 1 := by
    intro j hj
    rw [List.getElem_of_eq hh.ids hj, Row.number_getElem, Int.add_comm]
  refine ⟨hh.sound.keys, hh.sound.filled, hids, ?_, hh.keeps, hh.stored, hh.last⟩
  apply List.pairwise_iff_getElem.mpr
  intro i j hi hj hij
  rw [hids i hi, hids j hj]
  omega

end

private def tour : List Event := [
  .enter "memory.db" 1 .noon,
  .call 0 .noon (.writeBatch [.daily "a" "A" [.int 1] 0, .daily "b" "A" [.int 1] 1]),
  .call 0 .noon (.writeBatch [.daily "c" "B" [.int 1] 0, .daily "b" "A" [.int 1] 1]),
  .call 0 .noon (.deleteSource "A"),
  .enter "memory.db" 1 .noon,
  .call 1 .noon (.write (.daily "c" "B" [.int 1] 0))]

theorem ids_of_tour :
    ((start .blank).run tour).rows.map Row.id = [1, 2, 3] ∧
      (∀ j (hj : j < ((start .blank).run tour).rows.length),
        ((start .blank).run tour).rows[j].id = j + 1) ∧
      ((start .blank).run tour).medium.table.lastId = ((start .blank).run tour).rows.length := by
  obtain ⟨-, -, hids, -, -, -, hlast⟩ := ids_count_commits (m := .blank) rfl tour
  exact ⟨by decide +kernel, hids, hlast⟩

end History

end Store
end TextMemory
