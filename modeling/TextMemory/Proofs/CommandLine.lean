import TextMemory.CommandLine.Run
import TextMemory.Proofs.Disk
import TextMemory.Proofs.Memory.Operation

/-!
# Runs that fail

A run that ends with a code other than 0 keeps the database that its environment names, unless it
has done all that it was to do and only its output has failed. What a run leaves on the disk does
not depend on its output.
-/
namespace TextMemory.CommandLine

open TextMemory.Action

inductive Unfit : Except Fault (Except String (List String)) → Prop
  | fault (f : Fault) : Unfit (.error f)
  | refusal (message : String) : Unfit (.ok (.error message))

/-! ### The output -/

/-- An outcome of a command that has been done: a line has been refused, or what was kept back has
not got out at the end. -/
inductive Output.Fails (output : Output) (o : Outcome) : Prop
  | refuses {line why : String} (h : output.takes line = .error why) (hcode : o.code = 1) :
      Fails output o
  | loses (h : output.ends o.output o.errors = false) (hcode : o.code = 120) : Fails output o

theorem Output.code_ne_zero (output : Output) {code : Nat} (h : code ≠ 0) (text errors : String) :
    (output.close code text errors).code ≠ 0 := by
  rw [close]
  dsimp only
  split
  · exact h
  · decide

theorem Output.fails_of_close {output : Output} {code : Nat} {text errors : String}
    (h : (output.close code text errors).code ≠ code) :
    output.Fails (output.close code text errors) := by
  cases hends : output.ends text errors with
  | true => exact absurd (if_pos hends) h
  | false => exact .loses hends (if_neg (ne_true_of_eq_false hends))

theorem Output.fails_of_refusal {output : Output} {line why : String}
    (h : output.takes line = .error why) (text errors : String) :
    output.Fails (output.close 1 text errors) := by
  by_cases hcode : (output.close 1 text errors).code = 1
  · exact .refuses h hcode
  · exact fails_of_close hcode

theorem print_open (lines : List String) : (print .open lines).2 = none := by
  induction lines with
  | nil => rfl
  | cons line lines ih => exact ih

theorem outcome_open (least : Nat) (log : List LogLine) (lines : List String) :
    (outcome .open least log (.ok (.ok lines))).code = 0 := by
  have hopen := print_open lines
  cases hp : print .open lines with
  | mk text refusal =>
    rw [hp] at hopen
    obtain rfl : refusal = none := hopen
    simp only [outcome, hp]
    rfl

theorem exists_of_print {output : Output} {lines : List String} {why : String}
    (h : (print output lines).2 = some why) : ∃ line ∈ lines, output.takes line = .error why := by
  induction lines with
  | nil => cases h
  | cons line lines ih =>
    rw [print] at h
    cases hline : output.takes line with
    | error told =>
      rw [hline] at h
      obtain rfl := Option.some.inj h
      exact ⟨line, List.mem_cons_self, hline⟩
    | ok _ =>
      rw [hline] at h
      obtain ⟨later, hmem, hlater⟩ := ih h
      exact ⟨later, List.mem_cons_of_mem line hmem, hlater⟩

/-- What fails is the command, or else its output alone. -/
theorem unfit_or_fails {output : Output} {least : Nat} {log : List LogLine}
    {answer : Except Fault (Except String (List String))}
    (h : (outcome output least log answer).code ≠ 0) :
    Unfit answer ∨ output.Fails (outcome output least log answer) ∧
      (outcome .open least log answer).code = 0 := by
  cases answer with
  | error f => exact .inl (.fault f)
  | ok result =>
    cases result with
    | error message => exact .inl (.refusal message)
    | ok lines =>
      refine .inr ⟨?_, outcome_open least log lines⟩
      cases hp : print output lines with
      | mk text refusal =>
        simp only [outcome, hp] at h ⊢
        cases refusal with
        | none => exact Output.fails_of_close h
        | some why =>
          obtain ⟨line, -, hline⟩ := exists_of_print (congrArg Prod.snd hp)
          exact Output.fails_of_refusal hline text _

/-! ### The database -/

theorem path_of_read {root : String} {env : Environment} {settings : Settings}
    {warnings : List LogLine} (h : Settings.read root env = .ok (settings, warnings)) :
    settings.path = Settings.databasePath root env := by
  unfold Settings.read at h
  dsimp only at h
  split at h
  · cases h
  · have hsettings := congrArg Settings.path (Prod.mk.inj (Except.ok.inj h)).1
    exact hsettings.symm

section

variable [Numerics]

theorem write_rests {input : List UInt8} {disk : Disk} {file source title : Option String}
    {m n : Memory} {answer : Except Fault (Except String (List String))} (ha : Unfit answer)
    (h : (perform input disk (.write file source title)).perform m = (answer, n)) :
    Memory.Rests m n := by
  have hfails : FailsWithin Memory.Rests (perform input disk (.write file source title)) := by
    refine (staysWithin_ofExcept _).failsWithin_bind fun text => ?_
    exact (Memory.write_failsWithin _ _ _).bind_neverFails fun w => neverFails_pure _
  cases ha with
  | fault f => exact hfails m f n h
  | refusal message =>
    obtain ⟨text, _, h⟩ := ofExcept_bind_ok.mp h
    obtain ⟨w, k, _, h⟩ := perform_bind_ok.mp h
    cases h

theorem delete_rests {input : List UInt8} {disk : Disk} {source : String}
    {m n : Memory} {answer : Except Fault (Except String (List String))} (ha : Unfit answer)
    (h : (perform input disk (.delete source)).perform m = (answer, n)) :
    Memory.Rests m n := by
  have hfails : FailsWithin Memory.Rests (perform input disk (.delete source)) :=
    (Memory.delete_failsWithin source).bind_neverFails fun w => neverFails_pure _
  cases ha with
  | fault f => exact hfails m f n h
  | refusal message =>
    obtain ⟨w, k, _, h⟩ := perform_bind_ok.mp h
    cases h

theorem perform_rests {input : List UInt8} {disk : Disk} {c : Command} {m n : Memory}
    {answer : Except Fault (Except String (List String))} (ha : Unfit answer)
    (h : (perform input disk c).perform m = (answer, n)) : Memory.Rests m n := by
  cases c with
  | write file source title => exact write_rests ha h
  | delete source => exact delete_rests ha h
  | search query limit =>
    have hreads : Memory.Reads (perform input disk (.search query limit)) := by
      refine (Memory.search_reads query limit).bind fun hits => ?_
      split
      · exact staysWithin_pure _
      · exact staysWithin_pure _
    exact hreads.of_perform h
  | get source =>
    have hreads : Memory.Reads (perform input disk (.get source)) := by
      refine (Memory.read_reads source).bind fun content => ?_
      split
      · exact staysWithin_pure _
      · exact staysWithin_pure _
    exact hreads.of_perform h
  | stats =>
    have hreads : Memory.Reads (perform input disk .stats) :=
      Memory.stats_reads.bind fun s => staysWithin_pure _
    exact hreads.of_perform h

/-- What a command answers and leaves is there before its output is. -/
theorem exists_answer (w : Surroundings) (least : Nat) (disk : Disk) (c : Command) :
    ∃ log answer after, (∀ output, runCommand { w with output := output } least disk c =
        (outcome output least log answer, after)) ∧
      (Unfit answer → Database.Kept
        (disk.database? (Path.read (Settings.databasePath w.root w.environment)).place)
        (after.database? (Path.read (Settings.databasePath w.root w.environment)).place)) := by
  cases hr : Settings.read w.root w.environment with
  | error f => exact ⟨[], .error f, disk, fun _ => by simp only [runCommand, hr], fun _ => .inl rfl⟩
  | ok read =>
    obtain ⟨settings, warnings⟩ := read
    have hpath := path_of_read hr
    cases hc : Memory.create settings (disk.mediumAt settings.path) w.clock
        (w.embedder settings) with
    | error f =>
      exact ⟨warnings, .error f, disk, fun _ => by simp only [runCommand, hr, hc],
        fun _ => .inl rfl⟩
    | ok m =>
      obtain ⟨hfresh, -⟩ := Memory.create_ok hc
      have hstore : m.store.path = settings.path := by rw [hfresh]; rfl
      have hmedium : m.store.medium = disk.mediumAt settings.path := by rw [hfresh]; rfl
      cases hp : (perform w.input disk c).perform m with
      | mk answer n =>
        refine ⟨warnings ++ n.store.log, answer, disk.keep n.store,
          fun _ => by simp only [runCommand, hr, hc, hp], fun hunfit => ?_⟩
        have hrests := perform_rests hunfit hp
        rw [← hpath, ← hstore]
        exact disk.keep_kept (hstore ▸ hmedium) hrests.store

inductive Failed : Except Fault Outcome → Prop
  | fault (f : Fault) : Failed (.error f)
  | code (o : Outcome) (h : o.code ≠ 0) : Failed (.ok o)

/-- Nothing has failed but the output: one that takes everything makes the same run a success, which
leaves the same on the disk. -/
structure Unheard (w : Surroundings) (args : List String) (disk : Disk) : Prop where
  fails : ∃ o, (run w args disk).1 = .ok o ∧ w.output.Fails o
  done : ∃ o, run { w with output := .open } args disk = (.ok o, (run w args disk).2) ∧ o.code = 0

theorem run_kept {w : Surroundings} {args : List String} {disk : Disk}
    (h : Failed (run w args disk).1) :
    Database.Kept
      (disk.database? (Path.read (Settings.databasePath w.root w.environment)).place)
      ((run w args disk).2.database?
        (Path.read (Settings.databasePath w.root w.environment)).place) ∨ Unheard w args disk := by
  cases ht : threshold w.environment with
  | error f =>
    left
    simp only [run, ht]
    exact .inl rfl
  | ok least =>
    cases hc : Command.read args with
    | error stop =>
      left
      simp only [run, ht, hc]
      exact .inl rfl
    | ok command =>
      obtain ⟨log, answer, after, hanswer, hkept⟩ := exists_answer w least disk command
      have hrun : ∀ output, run { w with output := output } args disk =
          (.ok (outcome output least log answer), after) := fun output => by
        simp only [run, ht, hc, hanswer output]
      have hself : run w args disk = (.ok (outcome w.output least log answer), after) :=
        hrun w.output
      rw [hself] at h
      cases h with
      | code _ hcode =>
        rcases unfit_or_fails hcode with hunfit | ⟨hfails, hzero⟩
        · left
          rw [hself]
          exact hkept hunfit
        · right
          refine ⟨⟨_, congrArg Prod.fst hself, hfails⟩, _, ?_, hzero⟩
          rw [hself]
          exact hrun .open

end

end TextMemory.CommandLine
