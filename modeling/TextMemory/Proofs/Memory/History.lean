import Mathlib.Data.List.Induction
import TextMemory.Proofs.Memory.Content
import TextMemory.Proofs.Timestamp

/-!
# Histories of a memory

Any number of memories come to work on what lies at one path, each with settings and an embedder of
its own, and are called in any order, one call after the other. The history keeps every call with
what came of it. What is read is what was last written, whatever was tried in between.
-/
namespace TextMemory.Memory

open TextMemory.Action

structure Deed where
  now : Timestamp
  call : Call
  answer : Except Fault call.Reply

structure History where
  medium : Medium
  memories : List Memory
  deeds : List Deed

inductive Event
  | enter (settings : Settings) (embedder : Embedder) (now : Timestamp)
  | call (memory : Nat) (now : Timestamp)
      (vectors : List String → Except Outage (List Vector)) (c : Call)

namespace History

def start (m : Medium) : History := ⟨m, [], []⟩

def found (h : History) (m : Memory) (now : Timestamp)
    (vectors : List String → Except Outage (List Vector)) : Memory :=
  { m with
    store := { m.store with medium := h.medium, clock := now }
    embedder := { m.embedder with vectors := vectors } }

def called [Numerics] (h : History) (place : Nat) (m : Memory) (c : Call) : History :=
  let (answer, n) := c.action.perform m
  { medium := n.store.medium
    memories := h.memories.set place n
    deeds := h.deeds ++ [⟨m.store.clock, c, answer⟩] }

def step [Numerics] (h : History) : Event → History
  | .enter settings embedder now =>
    match create settings h.medium now embedder with
    | .ok m => { h with memories := h.memories ++ [m] }
    | .error _ => h
  | .call place now vectors c =>
    match h.memories[place]? with
    | some m => h.called place (h.found m now vectors) c
    | none => h

def run [Numerics] (h : History) (es : List Event) : History := es.foldl step h

end History

namespace Deed

def Wrote (source content : String) : Deed → Prop
  | ⟨_, .write c _ _, .ok w⟩ => w.source = source ∧ c = content
  | _ => False

def Deleted (source : String) : Deed → Prop
  | ⟨_, .delete s, .ok _⟩ => s = source
  | _ => False

def leaves (source : String) (before : Option String) : Deed → Option String
  | ⟨_, .write content _ _, .ok w⟩ => if w.source = source then some content else before
  | ⟨_, .delete s, .ok _⟩ => if s = source then none else before
  | _ => before

theorem leaves_eq_some {source content : String} {before : Option String} {d : Deed} :
    d.leaves source before = some content ↔
      d.Wrote source content ∨
        (before = some content ∧ ¬d.Deleted source ∧ ∀ c, ¬d.Wrote source c) := by
  obtain ⟨now, call, answer⟩ := d
  cases answer with
  | error f => cases call <;> simp [leaves, Wrote, Deleted]
  | ok r =>
    cases call with
    | write c s t =>
      by_cases hs : r.source = source
      · simp [leaves, Wrote, Deleted, hs]
      · simp [leaves, Wrote, Deleted, hs]
    | delete s =>
      by_cases hs : s = source
      · simp [leaves, Wrote, Deleted, hs]
      · simp [leaves, Wrote, Deleted, hs]
    | read | search | stats | sources | chunks => simp [leaves, Wrote, Deleted]

end Deed

/-- The content is the last that was written under the source, and no deletion of the source has
followed. -/
def LastWritten (source content : String) (ds : List Deed) : Prop :=
  ∃ earlier d later, ds = earlier ++ d :: later ∧ d.Wrote source content ∧
    ∀ e ∈ later, ¬e.Deleted source ∧ ∀ c, ¬e.Wrote source c

def lastWritten? (source : String) (ds : List Deed) : Option String :=
  ds.foldl (fun before d => d.leaves source before) none

theorem lastWritten?_append_singleton (source : String) (ds : List Deed) (d : Deed) :
    lastWritten? source (ds ++ [d]) = d.leaves source (lastWritten? source ds) := by
  simp [lastWritten?]

theorem append_singleton_eq {α : Type} {xs earlier later : List α} {x y : α}
    (h : xs ++ [x] = earlier ++ y :: later) :
    (xs = earlier ∧ x = y ∧ later = []) ∨
      ∃ rest, later = rest ++ [x] ∧ xs = earlier ++ y :: rest := by
  rcases List.eq_nil_or_concat later with rfl | ⟨rest, z, rfl⟩
  · left
    obtain ⟨hxs, hx⟩ := List.append_inj' h rfl
    exact ⟨hxs, (List.cons.inj hx).1, rfl⟩
  · right
    rw [List.concat_eq_append] at h ⊢
    rw [← List.cons_append, ← List.append_assoc] at h
    obtain ⟨hxs, hx⟩ := List.append_inj' h rfl
    rw [(List.cons.inj hx).1]
    exact ⟨rest, rfl, hxs⟩

theorem lastWritten_append_singleton {source content : String} {ds : List Deed} {d : Deed} :
    LastWritten source content (ds ++ [d]) ↔
      d.Wrote source content ∨
        (LastWritten source content ds ∧ ¬d.Deleted source ∧ ∀ c, ¬d.Wrote source c) := by
  constructor
  · rintro ⟨earlier, e, later, hds, hwrote, hlater⟩
    rcases append_singleton_eq hds with ⟨-, rfl, -⟩ | ⟨rest, rfl, rfl⟩
    · exact .inl hwrote
    · have hd := hlater d (by simp)
      refine .inr ⟨⟨earlier, e, rest, rfl, hwrote, ?_⟩, hd⟩
      intro f hf
      exact hlater f (by simp [hf])
  · rintro (hwrote | ⟨⟨earlier, e, later, rfl, hwrote, hlater⟩, hd⟩)
    · exact ⟨ds, d, [], rfl, hwrote, by simp⟩
    · refine ⟨earlier, e, later ++ [d], by simp, hwrote, ?_⟩
      intro f hf
      rcases List.mem_append.mp hf with hf | hf
      · exact hlater f hf
      · rwa [List.mem_singleton.mp hf]

theorem lastWritten?_eq_some {source content : String} {ds : List Deed} :
    lastWritten? source ds = some content ↔ LastWritten source content ds := by
  induction ds using List.reverseRecOn with
  | nil => simp [lastWritten?, LastWritten]
  | append_singleton ds d ih =>
    rw [lastWritten?_append_singleton, Deed.leaves_eq_some, lastWritten_append_singleton, ih]

namespace History

/-- What is read is what was last written, and what is written stands under its source's name. -/
def Faithful (earlier : List Deed) : Deed → Prop
  | ⟨_, .read source, .ok answer⟩ => answer = lastWritten? source earlier
  | ⟨now, .write _ source _, .ok written⟩ => written.source = sourceName now source
  | _ => True

/-- Each source holds what was last written under it, and all deeds were faithful. -/
structure Kept (h : History) : Prop where
  sound : h.medium.table.Sound
  holds : ∀ source, h.medium.table.Holds source (lastWritten? source h.deeds)
  faithful : ∀ earlier d later, h.deeds = earlier ++ d :: later → Faithful earlier d

theorem kept_start {m : Medium} (hm : m.table = Table.empty) : (start m).Kept where
  sound := hm ▸ Table.sound_empty
  holds source := by
    rw [start, hm]
    exact Table.holds_empty source
  faithful earlier d later h := by simp [start] at h

section

variable [Numerics]

/-- A call, whether it fails or not, leaves each source with what was last written under it. -/
theorem holds_of_perform {m n : Memory} {c : Call} {answer : Except Fault c.Reply}
    {ds : List Deed} (hm : ∀ source, m.store.medium.table.Holds source (lastWritten? source ds))
    (h : c.action.perform m = (answer, n)) (source : String) :
    n.store.medium.table.Holds source
      (lastWritten? source (ds ++ [⟨m.store.clock, c, answer⟩])) := by
  rw [lastWritten?_append_singleton]
  cases answer with
  | error f =>
    have hleaves : Deed.leaves source (lastWritten? source ds) ⟨m.store.clock, c, .error f⟩ =
        lastWritten? source ds := by cases c <;> rfl
    rw [hleaves, (c.failsWithin m f n h).store.table]
    exact hm source
  | ok r =>
    cases c with
    | write content source? title =>
      obtain ⟨hholds, hothers⟩ := write_holds h
      by_cases hs : r.source = source
      · simp only [Deed.leaves, hs, if_true]
        exact hs ▸ hholds
      · simp only [Deed.leaves, hs, if_false]
        exact (hm source).of_rowsOf (hothers source (Ne.symm hs))
    | delete name =>
      obtain ⟨hholds, hothers⟩ := delete_holds h
      by_cases hs : name = source
      · simp only [Deed.leaves, hs, if_true]
        exact hs ▸ hholds
      · simp only [Deed.leaves, hs, if_false]
        exact (hm source).of_rowsOf (hothers source (Ne.symm hs))
    | read name => exact ((read_reads name).of_perform h).store.table ▸ hm source
    | search query limit => exact ((search_reads query limit).of_perform h).store.table ▸ hm source
    | stats => exact (stats_reads.of_perform h).store.table ▸ hm source
    | sources => exact (sources_reads.of_perform h).store.table ▸ hm source
    | chunks name => exact ((chunks_reads name).of_perform h).store.table ▸ hm source

theorem faithful_of_perform {m n : Memory} {c : Call} {answer : Except Fault c.Reply}
    {ds : List Deed} (hm : ∀ source, m.store.medium.table.Holds source (lastWritten? source ds))
    (h : c.action.perform m = (answer, n)) : Faithful ds ⟨m.store.clock, c, answer⟩ := by
  cases answer with
  | error f => cases c <;> trivial
  | ok r =>
    cases c with
    | write content source title => exact (write_ok h).2.1
    | read source => exact read_holds (hm source) h
    | search | delete | stats | sources | chunks => trivial

theorem Kept.called {h : History} (hh : h.Kept) (place : Nat) {m : Memory}
    (hm : m.store.medium = h.medium) (c : Call) : (h.called place m c).Kept := by
  obtain ⟨hsound, hholds, hfaithful⟩ := hh
  rw [← hm] at hsound hholds
  unfold History.called
  cases hc : c.action.perform m with
  | mk answer n =>
    refine ⟨c.sound hsound hc, holds_of_perform hholds hc, ?_⟩
    intro earlier d later hds
    rcases append_singleton_eq hds with ⟨rfl, rfl, -⟩ | ⟨rest, -, hrest⟩
    · exact faithful_of_perform hholds hc
    · exact hfaithful earlier d rest hrest

theorem Kept.step {h : History} (hh : h.Kept) (e : Event) : (h.step e).Kept := by
  cases e with
  | enter settings embedder now =>
    simp only [History.step]
    cases create settings h.medium now embedder with
    | ok m => exact ⟨hh.sound, hh.holds, hh.faithful⟩
    | error f => exact hh
  | call place now vectors c =>
    simp only [History.step]
    cases hp : h.memories[place]? with
    | some m => exact hh.called place (by rfl) c
    | none => exact hh

theorem Kept.run {h : History} (hh : h.Kept) (es : List Event) : (h.run es).Kept := by
  induction es generalizing h with
  | nil => exact hh
  | cons e es ih => exact ih (hh.step e)

/-- Whatever is called, a read that gives an answer gives the content that was last written under
its source, and none if there is no such content. -/
theorem reads_last_written {m : Medium} (hm : m.table = Table.empty) (es : List Event) :
    (∀ earlier now source answer later,
      ((start m).run es).deeds = earlier ++ ⟨now, .read source, .ok answer⟩ :: later →
        ∀ content, answer = some content ↔ LastWritten source content earlier) ∧
    ∀ earlier now content source title written later,
      ((start m).run es).deeds =
          earlier ++ ⟨now, .write content source title, .ok written⟩ :: later →
        written.source = sourceName now source := by
  have hkept : ((start m).run es).Kept := (kept_start hm).run es
  constructor
  · intro earlier now source answer later hds content
    have hanswer : answer = lastWritten? source earlier := hkept.faithful _ _ _ hds
    rw [hanswer]
    exact lastWritten?_eq_some
  · intro earlier now content source title written later hds
    exact hkept.faithful _ _ _ hds

end

private def visit : List Event := [
  .enter (.cutting 1 6 2) ⟨"test", 1, Embedder.flat⟩ .noon,
  .call 0 .noon Embedder.flat (.write "one" (some " A ") .null),
  .enter (.cutting 1 2 1) ⟨"test", 1, Embedder.flat⟩ .noon,
  .call 1 .noon Embedder.flat (.write " " (some "A") .null),
  .call 1 .noon Embedder.flat (.read "A")]

private def readText? : Deed → Option (Option String)
  | ⟨_, .read _, .ok answer⟩ => some answer
  | _ => none

theorem reads_last_written_of_visit :
    ∃ earlier now source, ((start .blank).run visit).deeds =
        earlier ++ [⟨now, .read source, .ok (some "one")⟩] ∧
      ∀ content, some "one" = some content ↔ LastWritten source content earlier := by
  have hlast : ((start .blank).run visit).deeds.getLast?.bind readText? = some (some "one") := by
    decide +kernel
  obtain ⟨⟨now, call, answer⟩, hd, hread⟩ := Option.bind_eq_some_iff.mp hlast
  obtain ⟨earlier, hdeeds⟩ := List.getLast?_eq_some_iff.mp hd
  cases call with
  | read source =>
    cases answer with
    | ok a =>
      cases hread
      exact ⟨earlier, now, source, hdeeds,
        (reads_last_written (m := .blank) rfl visit).1 _ _ _ _ _ hdeeds⟩
    | error f => cases hread
  | write | search | delete | stats | sources | chunks => cases hread

end History
end TextMemory.Memory
