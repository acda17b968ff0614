import TextMemory.Proofs.CommandLine
import TextMemory.Proofs.Timestamp
import TextMemory.Proofs.Web

/-!
# Failures

Whatever fails, and however much of it was done by then, the database is what it was before: calls
of a store and of a memory, calls of tools, runs of the program and requests to the service. A run
that was only not heard has done its work. What lies beside a database under the name of one of its
companions is no other database to it, and can be cleared away.
-/
namespace TextMemory

/-- A call, a run or a request that fails keeps the database with its rows, its greatest id and its
dimensions, and leaves no entry of a held source behind. The one exception are runs of which nothing
but the output has failed. -/
theorem failures_keep_database [Numerics] :
    (∀ (c : Store.Call) (s t : Store) (f : Fault), c.action.perform s = (.error f, t) →
      Database.Kept s.medium.database? t.medium.database?) ∧
    (∀ (c : Memory.Call) (m n : Memory) (f : Fault), c.action.perform m = (.error f, n) →
      m.Keeps n) ∧
    (∀ (name arguments : Json) (m n : Memory) (r : Except Fault Tool.Answer),
      (Tool.executeNamed name arguments).perform m = (r, n) → Tool.Failed r → m.Keeps n) ∧
    (∀ (w : CommandLine.Surroundings) (args : List String) (disk : Disk),
      CommandLine.Failed (CommandLine.run w args disk).1 →
        Database.Kept
          (disk.database? (Path.read (Settings.databasePath w.root w.environment)).place)
          ((CommandLine.run w args disk).2.database?
            (Path.read (Settings.databasePath w.root w.environment)).place) ∨
        CommandLine.Unheard w args disk) ∧
    ∀ (r : Web.Request) (s : Web.Service), (Web.Service.respond r s).1.Fails →
      s.memory.Keeps (Web.Service.respond r s).2.memory := by
  refine ⟨?_, ?_, ?_, ?_, ?_⟩
  · intro c s t f h
    exact (c.failsWithin s f t h).kept
  · intro c m n f h
    exact (c.failsWithin m f n h).keeps
  · intro name arguments m n r h hr
    exact (Tool.executeNamed_rests h hr).keeps
  · intro w args disk h
    exact CommandLine.run_kept h
  · intro r s h
    exact (Web.Service.careful_respond r s h).keeps

private def filled : Database :=
  ⟨1, ⟨[⟨⟨"kept", "A", none, none, .int 0, .int 0, Timestamp.noon.text, "[1.0]"⟩, 4⟩], 7⟩⟩

private def shelf : Store := ⟨"memory.db", 1, false, false, .database filled, .noon, []⟩

private def desk : Memory :=
  ⟨.cutting 1 6 2, shelf, Embedder.counting "test" 1, [], [("B", 1)]⟩

private def copy (content : String) : Draft :=
  ⟨content, "A", [.int 1], .int 0, .null, .null, .int 0, none⟩

private def around : CommandLine.Surroundings where
  environment := [("AGENTMEMORY_DB_PATH", "memory.db"), ("AGENTMEMORY_DIMENSIONS", "1")]
  root := "."
  clock := .noon
  input := []
  embedder := fun s => Embedder.counting "test" s.dimensions

private def cabinet : Disk := Disk.empty.put ["memory.db"] (.database filled [])

private def nowhere : Web.Request := ⟨"GET", ⟨"/nowhere", []⟩, ⟨"", []⟩, none⟩

/-- A source is replaced by two chunks of one index, blanks are written, a tool is called that there
is not, and what is not there is asked for. -/
theorem failures_keep_filled :
    (∃ f t, (Store.Call.replaceSource "A" [copy "b", copy "c"]).action.perform shelf =
      (.error f, t) ∧ Database.Kept (some filled) t.medium.database?) ∧
    (∃ f n, (Memory.Call.write " " (some "B") .null).action.perform desk = (.error f, n) ∧
      desk.Keeps n) ∧
    (∃ r n, (Tool.executeNamed (.string "forget") .null).perform desk = (r, n) ∧
      Tool.Failed r ∧ desk.Keeps n) ∧
    Database.Kept (cabinet.database? ["memory.db"])
      ((CommandLine.run around ["get", "B"] cabinet).2.database? ["memory.db"]) ∧
    desk.Keeps (Web.Service.respond nowhere ⟨⟨"", "", 50⟩, desk⟩).2.memory := by
  obtain ⟨hstore, hmemory, htool, hrun, hrespond⟩ := failures_keep_database
  refine ⟨?_, ?_, ?_, ?_, ?_⟩
  · obtain ⟨f, t, h⟩ := Action.exists_error (p := (Store.Call.replaceSource "A"
      [copy "b", copy "c"]).action.perform shelf) (by decide +kernel)
    exact ⟨f, t, h, hstore _ _ _ _ h⟩
  · obtain ⟨f, n, h⟩ := Action.exists_error (p := (Memory.Call.write " " (some "B")
      .null).action.perform desk) (by decide +kernel)
    exact ⟨f, n, h, hmemory _ _ _ _ h⟩
  · exact ⟨_, _, rfl, .failure _, htool (.string "forget") .null _ _ _ rfl (.failure _)⟩
  · have hplace : (Path.read (Settings.databasePath around.root around.environment)).place =
        ["memory.db"] := by decide +kernel
    have hcode : (CommandLine.run around ["get", "B"] cabinet).1.toOption.map (fun o => o.code) =
        some 1 := by decide +kernel
    have hfailed : CommandLine.Failed (CommandLine.run around ["get", "B"] cabinet).1 := by
      cases hr : (CommandLine.run around ["get", "B"] cabinet).1 with
      | error f => exact .fault f
      | ok o =>
        rw [hr] at hcode
        have ho : o.code = 1 := Option.some.inj hcode
        exact .code o (by omega)
    rcases hrun around ["get", "B"] cabinet hfailed with hkept | hunheard
    · rwa [hplace] at hkept
    · obtain ⟨o, -, hfails⟩ := hunheard.fails
      cases hfails with
      | refuses h => cases h
      | loses h => cases h
  · refine hrespond nowhere ⟨⟨"", "", 50⟩, desk⟩ (.inl ?_)
    decide +kernel

private def spoken : CommandLine.Output where
  takes line := if line.toList.all fun c => c.val < 128 then .ok () else .error "no such character"
  ends _ _ := true

private def given : CommandLine.Surroundings :=
  { around with input := "tea".toUTF8.toList, output := spoken }

private def crowded : Disk := cabinet.put ["memory.db-journal"] (.database filled [])

/-- A chunk is written, which cannot be told of; and where nothing is found, a database goes that
lies at the place of a journal. -/
theorem failures_change_databases :
    ((CommandLine.run given ["write", "--source", "café.md"] cabinet).1.toOption.map
        (fun o => o.code) = some 1 ∧
      (cabinet.database? ["memory.db"]).map (fun db => db.table.rows.length) = some 1 ∧
      ((CommandLine.run given ["write", "--source", "café.md"] cabinet).2.database?
        ["memory.db"]).map (fun db => db.table.rows.length) = some 2) ∧
    (CommandLine.run around ["get", "B"] crowded).1.toOption.map (fun o => o.code) = some 1 ∧
      crowded.database? ["memory.db-journal"] = some filled ∧
      (CommandLine.run around ["get", "B"] crowded).2.database? ["memory.db-journal"] = none := by
  decide +kernel

end TextMemory
