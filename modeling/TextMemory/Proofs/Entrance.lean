import TextMemory.Proofs.CommandLine
import TextMemory.Proofs.Memory.Argument
import TextMemory.Proofs.Memory.Opening
import TextMemory.Proofs.Utf8
import TextMemory.Proofs.Web.Source

/-!
# Four ways to write

A content is written by the memory itself, by a tool, by a request to the web service or by a
command. Each way reads and completes what it is given on its own, and hands it to the one operation
of the memory. On what a service has started with, all of them refuse it, or all write it, tell the
same of it and leave the same table.
-/
namespace TextMemory

open TextMemory.Action

structure Submission where
  content : String
  source : Option String
  title : Option String
  titled : title ≠ some ""

/-- What comes of a submission: what is told of it and the table then, or nothing where it is
refused. -/
abbrev Upshot := Option (Written × Table)

namespace Upshot

def ShownBy {α : Type} (u : Upshot) (granted : Written → α → Prop) (refused : α → Prop) (answer : α)
    (table? : Option Table) : Prop :=
  match u with
  | some (w, t) => granted w answer ∧ table? = some t
  | none => refused answer

theorem shownBy_some {α : Type} {granted : Written → α → Prop} {refused : α → Prop} {answer : α}
    {table? : Option Table} {w : Written} {t : Table} :
    ShownBy (some (w, t)) granted refused answer table? ↔ granted w answer ∧
    table? = some t := Iff.rfl

def ShownByTool (u : Upshot) (ended : Tool.Answer × Memory) : Prop :=
  u.ShownBy (fun w answer => answer = .text w.text)
    (fun answer => ∃ message, answer = .failure message)
    ended.1 (some ended.2.store.medium.table)

def ShownByService (u : Upshot) (ended : Web.Response × Web.Service) : Prop :=
  u.ShownBy
    (fun w response => response = .ok (.object
      [("chunks_written", .int w.chunks), ("source", .string w.source)]))
    (fun response => 400 ≤ response.status)
    ended.1 (some ended.2.memory.store.medium.table)

/-- The table is that of the database at a path. What is told of it is told as far as the output
takes it, and the code is another one if the outputs do not get out what they have kept back. -/
def ShownByCommand (u : Upshot) (output : CommandLine.Output) (path : String)
    (ended : CommandLine.Outcome × Disk) : Prop :=
  u.ShownBy
    (fun w o => match output.takes w.text with
      | .ok _ => o.output = w.text ++ "\n" ∧
          o.code = if output.ends o.output o.errors then 0 else 120
      | .error _ => o.output = "" ∧ o.code = if output.ends o.output o.errors then 1 else 120)
    (fun o => o.code ≠ 0)
    ended.1 ((ended.2.database? (Path.read path).place).map Database.table)

end Upshot

namespace Submission

def write (a : Submission) : Action Memory Written :=
  Memory.write a.content a.source (Json.textOrNull a.title)

def upshot (a : Submission) (m : Memory) : Upshot :=
  match a.write.perform m with
  | (.ok w, n) => some (w, n.store.medium.table)
  | (.error _, _) => none

structure SaidBy (a : Submission) (members : List (String × Json)) : Prop where
  content : members.lookup "content" = some (.string a.content)
  source : (members.lookup "source").getD .null = Json.textOrNull a.source
  title : (members.lookup "title").getD .null = Json.textOrNull a.title

structure PostedBy (a : Submission) (r : Web.Request) : Prop where
  method : Text.upper r.method = "POST"
  path : r.target.path = "/api/v1/memory/write"
  body : ∃ members, Web.Service.bodyValue r.content = .ok (some (.object members)) ∧
    a.SaidBy members

def SuppliedBy (a : Submission) (w : CommandLine.Surroundings) (disk : Disk)
    (file : Option String) : Prop :=
  let bytes := Text.Utf8.encode a.content
  if file.getD "" = "" ∨ file.getD "" = "-" then w.input = bytes
  else disk.read (file.getD "") = .ok bytes

end Submission

section

variable [Numerics]

/-- The tool that writes and a web service show an upshot, whatever says what is to be written. -/
structure Memory.Shows (m : Memory) (a : Submission) (u : Upshot) : Prop where
  tool : ∀ members, a.SaidBy members → u.ShownByTool ((Tool.execute .write (.object members)).run m)
  web : ∀ options r, a.PostedBy r → u.ShownByService (Web.Service.respond r ⟨options, m⟩)

/-- The command that writes shows an upshot, wherever the content comes from, and so does each
command line that is read as this command, unless nothing is done at all since there is no log level
of the name that the environment gives. -/
structure CommandLine.Surroundings.Shows (w : CommandLine.Surroundings) (disk : Disk)
    (a : Submission) (u : Upshot) : Prop where
  command : ∀ least file, a.SuppliedBy w disk file →
    u.ShownByCommand w.output (Settings.databasePath w.root w.environment)
      (CommandLine.runCommand w least disk (.write file a.source a.title))
  line : ∀ least args file, a.SuppliedBy w disk file →
    CommandLine.threshold w.environment = .ok least →
    CommandLine.Command.read args = .ok (.write file a.source a.title) →
      ∃ o after, CommandLine.run w args disk = (.ok o, after) ∧
        u.ShownByCommand w.output (Settings.databasePath w.root w.environment) (o, after)
  unstarted : ∀ f args, CommandLine.threshold w.environment = .error f →
    CommandLine.run w args disk = (.error f, disk)

end

namespace Submission

variable {a : Submission} {m : Memory} {members : List (String × Json)}

theorem write_of_source {given : Option String} (h : given.getD "" = a.source.getD "") :
    Memory.write a.content given (Json.textOrNull a.title) = a.write := by
  have hname : ∀ now, sourceName now given = sourceName now a.source := fun now => by
    rw [sourceName, sourceName, h]
  unfold write Memory.write
  simp only [hname]

theorem upshot_of_ok {n : Memory} {w : Written} (h : a.write.perform m = (.ok w, n)) :
    a.upshot m = some (w, n.store.medium.table) := by
  rw [upshot, h]

theorem upshot_of_error {n : Memory} {f : Fault} (h : a.write.perform m = (.error f, n)) :
    a.upshot m = none := by
  rw [upshot, h]

/-! ### The tool -/

theorem filter_textOrNull {given : Option Json} {text : Option String}
    (h : given.getD .null = Json.textOrNull text) (htext : text ≠ some "") :
    given.filter Json.isFilled = text.map Json.string := by
  cases text with
  | none =>
    cases given with
    | none => rfl
    | some v =>
      obtain rfl : v = .null := h
      rfl
  | some s =>
    have hs : s ≠ "" := fun hempty => htext (congrArg some hempty)
    cases given with
    | none => cases h
    | some v =>
      obtain rfl : v = .string s := h
      exact if_pos (bne_iff_ne.mpr hs)

theorem sourceArgument_textOrNull {given : Option Json} {text : Option String}
    (h : given.getD .null = Json.textOrNull text) :
    ∃ name, Tool.sourceArgument (given.filter Json.isFilled) = .ok name ∧
      name.getD "" = text.getD "" := by
  by_cases htext : text = some ""
  · have hnone : given.filter Json.isFilled = none := by
      cases given with
      | none => rfl
      | some v =>
        obtain rfl : v = .string "" := h.trans (congrArg Json.textOrNull htext)
        rfl
    exact ⟨none, by rw [hnone]; rfl, by rw [htext]; rfl⟩
  · refine ⟨text, ?_, rfl⟩
    rw [filter_textOrNull h htext]
    cases text <;> rfl

theorem SaidBy.content_shown (h : a.SaidBy members) :
    (((members.lookup "content").filter Json.isFilled).map Json.shown).getD "" = a.content := by
  rw [h.content, Option.filter_some]
  split
  · rfl
  · rename_i hempty
    exact (by simpa [Json.isFilled] using hempty : a.content = "").symm

theorem SaidBy.callWrite_perform (h : a.SaidBy members) (m : Memory) :
    (Tool.callWrite (.object members)).perform m =
      ((a.write.perform m).1.map Written.text, (a.write.perform m).2) := by
  obtain ⟨name, hname, hsame⟩ := sourceArgument_textOrNull h.source
  have htitle : ((members.lookup "title").filter Json.isFilled).getD .null =
      Json.textOrNull a.title := by
    rw [filter_textOrNull h.title a.titled, Json.textOrNull]
  simp only [Tool.callWrite, Tool.filled?_object, perform_bind, perform_ofExcept, h.content_shown,
    hname, htitle,
    write_of_source hsame]
  cases hcheck : Memory.checkContent a.content with
  | error f =>
    have hrefused : a.write.perform m = (.error f, m) := by
      rw [write, Memory.write, hcheck]
      rfl
    rw [hrefused]
    rfl
  | ok u =>
    dsimp only
    cases hw : a.write.perform m with
    | mk answer n => cases answer <;> rfl

theorem SaidBy.shown [Numerics] (h : a.SaidBy members) (m : Memory) :
    (a.upshot m).ShownByTool ((Tool.execute .write (.object members)).run m) := by
  rw [Tool.execute_run, Tool.call, h.callWrite_perform]
  cases hw : a.write.perform m with
  | mk answer n =>
    cases answer with
    | error f =>
      rw [upshot_of_error hw]
      exact ⟨f.message, rfl⟩
    | ok w =>
      rw [upshot_of_ok hw]
      exact ⟨rfl, rfl⟩

/-! ### The web service -/

theorem optionalText_textOrNull {f : Web.Field} {text : Option String}
    (h : f.value.getD .null = Json.textOrNull text) : f.optionalText = .ok text := by
  unfold Web.Field.optionalText
  cases hvalue : f.value with
  | none =>
    rw [hvalue] at h
    cases text with
    | none => rfl
    | some s => cases h
  | some v =>
    rw [hvalue] at h
    obtain rfl : v = Json.textOrNull text := h
    cases text <;> rfl

theorem write_of_empty (h : a.content = "") (m : Memory) :
    a.write.perform m = (.error .blankContent, m) := by
  rw [write, Memory.write, h]
  rfl

theorem PostedBy.shown [Numerics] {r : Web.Request} (h : a.PostedBy r) (options : Web.Options)
    (m : Memory) :
    (a.upshot m).ShownByService (Web.Service.respond r ⟨options, m⟩) := by
  have hhandler : Web.Service.respond r ⟨options, m⟩ =
      Web.Service.write { r with method := "POST" } ⟨options, m⟩ :=
    Web.Service.respond_offer h.path h.method Web.Service.offerAt_write rfl (by decide)
  obtain ⟨members, hbody, hsaid⟩ := h.body
  have hsource := optionalText_textOrNull
    (f := ⟨["body", "source"], .object members, members.lookup "source"⟩) hsaid.source
  have htitle := optionalText_textOrNull
    (f := ⟨["body", "title"], .object members, members.lookup "title"⟩) hsaid.title
  rw [hhandler, Web.Service.write, Web.Service.withFields_object hbody]
  dsimp only
  rw [hsource, htitle, Web.Field.filledText, hsaid.content]
  dsimp only
  split
  · rename_i hempty
    rw [upshot_of_error (write_of_empty (String.isEmpty_iff.mp hempty) m)]
    exact Web.Service.invalid_status _
  · change (a.upshot m).ShownByService (Web.Service.answer a.write _ _ ⟨options, m⟩)
    cases hw : a.write.perform m with
    | mk answer n =>
      rw [Web.Service.answer, hw]
      cases answer with
      | error f =>
        rw [upshot_of_error hw]
        exact Web.Service.ofFault_status f
      | ok w =>
        rw [upshot_of_ok hw]
        exact ⟨rfl, rfl⟩

/-! ### The command -/

theorem contentOf_encode {text : String} (h : '\r' ∉ text.toList) :
    CommandLine.contentOf (Text.Utf8.encode text) = .ok text := by
  rw [CommandLine.contentOf, Text.Utf8.decode_encode, Result.ok_bind,
    Text.unifyLineEnds_of_no_return h]
  exact congrArg Except.ok String.ofList_toList

theorem SuppliedBy.content {w : CommandLine.Surroundings} {disk : Disk} {file : Option String}
    (h : a.SuppliedBy w disk file) (hreturn : '\r' ∉ a.content.toList) :
    CommandLine.content w.input disk file = .ok a.content := by
  rw [CommandLine.content]
  dsimp only [SuppliedBy] at h ⊢
  simp only [Bool.or_eq_true, decide_eq_true_eq]
  split at h
  · rename_i hinput
    rw [if_pos hinput, h, contentOf_encode hreturn]
  · rename_i hfile
    rw [if_neg hfile, h, Result.ok_bind, contentOf_encode hreturn]

theorem SuppliedBy.perform [Numerics] {w : CommandLine.Surroundings} {disk : Disk}
    {file : Option String} (h : a.SuppliedBy w disk file)
    (hreturn : '\r' ∉ a.content.toList) (m : Memory) :
    (CommandLine.perform w.input disk (.write file a.source a.title)).perform m =
      ((a.write.perform m).1.map fun written => .ok [written.text], (a.write.perform m).2) := by
  have hwrite : Memory.write a.content a.source ((a.title.map Json.string).getD .null) = a.write :=
    rfl
  rw [CommandLine.perform, perform_bind, perform_ofExcept, h.content hreturn]
  dsimp only
  rw [hwrite, perform_bind]
  cases hw : a.write.perform m with
  | mk answer n => cases answer <;> rfl

theorem keep_database {settings : Settings} {disk : Disk} {now : Timestamp} {embedder : Embedder}
    {n : Memory} {w : Written}
    (hm : Memory.create settings (disk.mediumAt settings.path) now embedder = .ok m)
    (hready : m.store.Ready) (hw : a.write.perform m = (.ok w, n)) :
    ((disk.keep n.store).database? (Path.read settings.path).place).map Database.table =
      some n.store.medium.table := by
  obtain ⟨rfl, -⟩ := Memory.create_ok hm
  have htries :=
    (Memory.Call.tries (.write a.content a.source (Json.textOrNull a.title))).of_perform hw
  have htried : n.store.tried = true := htries.tried nofun (Memory.write_opened hw)
  obtain ⟨db, hdb⟩ := Memory.write_database hw
  have hfree : Disk.Free (Path.read settings.path).place := by
    have hregular : (disk.mediumAt settings.path).Regular := hready.regular
    refine Disk.free_of_mediumAt (d := disk) (fun f g hblocked => ?_) fun hfleeting => ?_
    · rcases hregular with h | ⟨db, h⟩ <;> rw [hblocked] at h <;> cases h
    · rcases hregular with h | ⟨db, h⟩ <;> rw [hfleeting] at h <;> cases h
  have hpath : n.store.path = settings.path := htries.path
  rw [Disk.keep, if_pos htried, hpath, hdb, disk.afterAttempt_database_of_free hfree]
  rfl

theorem outcome_line (output : CommandLine.Output) (least : Nat) (log : List LogLine)
    (line : String) :
    let o := CommandLine.outcome output least log (.ok (.ok [line]))
    match output.takes line with
    | .ok _ => o.output = line ++ "\n" ∧
        o.code = if output.ends o.output o.errors then 0 else 120
    | .error _ => o.output = "" ∧ o.code = if output.ends o.output o.errors then 1 else 120 := by
  intro o
  cases hline : output.takes line with
  | ok _ => simp [o, CommandLine.outcome, CommandLine.print, CommandLine.Output.close, hline]
  | error why => simp [o, CommandLine.outcome, CommandLine.print, CommandLine.Output.close, hline]

theorem shown_of_created [Numerics] {w : CommandLine.Surroundings} {disk : Disk}
    {settings : Settings} {warnings : List LogLine}
    (hsettings : Settings.read w.root w.environment = .ok (settings, warnings))
    (hm : Memory.create settings (disk.mediumAt settings.path) w.clock (w.embedder settings) =
      .ok m)
    (hready : m.store.Ready ∨ m.store.medium = .fleeting) (hreturn : '\r' ∉ a.content.toList)
    (least : Nat) {file : Option String} (hsupplied : a.SuppliedBy w disk file) :
    (a.upshot m).ShownByCommand w.output (Settings.databasePath w.root w.environment)
      (CommandLine.runCommand w least disk (.write file a.source a.title)) := by
  have hrun : CommandLine.runCommand w least disk (.write file a.source a.title) =
      (CommandLine.outcome w.output least (warnings ++ (a.write.perform m).2.store.log)
        ((a.write.perform m).1.map fun written => .ok [written.text]),
        disk.keep (a.write.perform m).2.store) := by
    simp only [CommandLine.runCommand, hsettings, hm, hsupplied.perform hreturn]
  rw [hrun, ← CommandLine.path_of_read hsettings]
  cases hw : a.write.perform m with
  | mk answer n =>
    cases answer with
    | error f =>
      rw [upshot_of_error hw]
      exact w.output.code_ne_zero Nat.one_ne_zero _ _
    | ok written =>
      rw [upshot_of_ok hw]
      refine ⟨outcome_line _ _ _ _, ?_⟩
      rcases hready with hready | hfleeting
      · exact keep_database hm hready hw
      · obtain ⟨f, k, hfails⟩ :=
          Memory.write_of_fleeting hfleeting a.content a.source (Json.textOrNull a.title)
        cases hw.symm.trans hfails

theorem shows_of_shown [Numerics] {w : CommandLine.Surroundings} {disk : Disk} {u : Upshot}
    (h : ∀ least file, a.SuppliedBy w disk file →
      u.ShownByCommand w.output (Settings.databasePath w.root w.environment)
        (CommandLine.runCommand w least disk (.write file a.source a.title))) :
    w.Shows disk a u := by
  refine ⟨h, fun least args file hsupplied hthreshold hread => ?_,
    fun f args hthreshold => by rw [CommandLine.run, hthreshold]⟩
  have hshown := h least file hsupplied
  cases hrun : CommandLine.runCommand w least disk (.write file a.source a.title) with
  | mk o after =>
    rw [hrun] at hshown
    exact ⟨o, after, by simp only [CommandLine.run, hthreshold, hread, hrun], hshown⟩

/-! ### One upshot -/

theorem upshot_of_accesses {o : Memory} {t : Table} (h : Memory.Accesses o (.ok ()) t m) :
    a.upshot m =
      (Memory.writing o (.ok ()) a.content a.source (Json.textOrNull a.title) t).toOption := by
  obtain ⟨n, hn, hafter⟩ := Memory.write_computes a.content a.source (Json.textOrNull a.title) t m h
  cases hF : Memory.writing o (.ok ()) a.content a.source (Json.textOrNull a.title) t with
  | error f =>
    rw [hF] at hn
    exact upshot_of_error hn
  | ok p =>
    rw [hF] at hn
    rw [after_ok hF] at hafter
    rw [upshot_of_ok hn, hafter.store.table]
    rfl

theorem upshot_of_fleeting (h : m.store.medium = .fleeting) : a.upshot m = none := by
  obtain ⟨f, n, hfails⟩ := Memory.write_of_fleeting h a.content a.source (Json.textOrNull a.title)
  exact upshot_of_error hfails

theorem shows [Numerics] (a : Submission) (m : Memory) : m.Shows a (a.upshot m) :=
  ⟨fun _ h => h.shown m, fun options _ h => h.shown options m⟩

end Submission

/-- A service starts in these surroundings, with the settings, the clock and the embedder of a
memory, and finds on the disk what the memory finds. -/
structure Memory.StartsIn (m : Memory) (w : CommandLine.Surroundings) (disk : Disk)
    (s : Web.Service) : Prop where
  settings : ∃ warnings, Settings.read w.root w.environment = .ok (m.settings, warnings)
  clock : w.clock = m.store.clock
  embedder : w.embedder m.settings = m.embedder
  medium : disk.mediumAt m.settings.path = m.store.medium
  starts : Web.Service.start w.root w.environment disk.mediumAt w.clock (w.embedder m.settings) =
    .ok s

namespace Memory.StartsIn

variable {m : Memory} {w : CommandLine.Surroundings} {disk : Disk} {s : Web.Service}

theorem exists_created (h : m.StartsIn w disk s) :
    ∃ k, create m.settings (disk.mediumAt m.settings.path) w.clock (w.embedder m.settings) = .ok k ∧
      (onStore Store.ensureOpen).perform k = (.ok (), s.memory) := by
  obtain ⟨warnings, hsettings⟩ := h.settings
  obtain ⟨options, -, hstart⟩ := Result.bind_eq_ok.mp h.starts
  rw [hsettings, Result.ok_bind] at hstart
  obtain ⟨k, hk, hstart⟩ := Result.bind_eq_ok.mp hstart
  refine ⟨k, hk, ?_⟩
  split at hstart
  · rename_i n hopened
    cases hstart
    exact hopened
  · cases hstart

theorem upshots_eq (h : m.StartsIn w disk s)
    (hdimensions : m.store.dimensions = m.settings.dimensions)
    (hopened : m.store.medium ≠ .fleeting → m.store.opened = true →
      m.store.medium.dimensions? = some m.store.dimensions) (a : Submission) :
    a.upshot s.memory = a.upshot m ∧
      ∃ k, create m.settings (disk.mediumAt m.settings.path) w.clock (w.embedder m.settings) =
        .ok k ∧
        (k.store.Ready ∨ k.store.medium = .fleeting) ∧ a.upshot k = a.upshot m := by
  obtain ⟨k, hk, hstarted⟩ := h.exists_created
  obtain ⟨hfresh, -⟩ := create_ok hk
  obtain ⟨hensured, hmemory⟩ := onStore_ok hstarted
  have hrests := Store.ensureOpen_reads.of_perform hensured
  have hsettings : m.settings = k.settings := by rw [hfresh]; rfl
  have hembedder : m.embedder = k.embedder := by rw [hfresh, ← h.embedder]; rfl
  have hclock : m.store.clock = k.store.clock := by rw [hfresh, ← h.clock]; rfl
  have hmedium : m.store.medium = k.store.medium := by rw [hfresh, ← h.medium]; rfl
  have hsize : m.store.dimensions = k.store.dimensions := by rw [hdimensions, hfresh]; rfl
  have hclosed : k.store.opened = false := by rw [hfresh]; rfl
  rcases Store.ready_of_ensureOpen hclosed hensured with ⟨hready, hserves⟩ | ⟨hfleeting, hserves⟩
  · have hfinds : m.store.Ready := by
      rw [Store.Ready, hmedium, hsize]
      refine hready.imp_left fun hblank => ⟨hblank.1, ?_⟩
      cases hm : m.store.opened with
      | false => rfl
      | true =>
        have hblank' : m.store.medium = .blank := hmedium.trans hblank.1
        have hn := hopened (by simp [hblank']) hm
        rw [hblank'] at hn
        cases hn
    have hkAccesses : Accesses k (.ok ()) k.store.medium.table k :=
      ⟨rfl, rfl, rfl, rfl, rfl, .inl ⟨rfl, hready⟩⟩
    have hsAccesses : Accesses k (.ok ()) k.store.medium.table s.memory := by
      rw [hmemory]
      exact ⟨rfl, rfl, hrests.dimensions, hrests.clock, hrests.table, .inl ⟨rfl, hserves⟩⟩
    have hmAccesses : Accesses k (.ok ()) k.store.medium.table m :=
      ⟨hsettings, hembedder, hsize, hclock, congrArg Medium.table hmedium, .inl ⟨rfl, hfinds⟩⟩
    rw [Submission.upshot_of_accesses hsAccesses, Submission.upshot_of_accesses hmAccesses]
    exact ⟨rfl, k, hk, .inl hready, Submission.upshot_of_accesses hkAccesses⟩
  · rw [Submission.upshot_of_fleeting hserves,
      Submission.upshot_of_fleeting (hmedium.trans hfleeting)]
    exact ⟨rfl, k, hk, .inr hfleeting, Submission.upshot_of_fleeting hfleeting⟩

end Memory.StartsIn

/-- Whatever memories have made of what lies at a path, a submission comes to one upshot where a
service starts with the settings, the clock and the embedder of one of them: with that memory and
with the one of the service, each by its own operation, by the tool and over the web; and, if there
is no carriage return in the content, with a command. -/
theorem entrances_agree [Numerics] {medium : Medium} {es : List Memory.Event} {mem : Memory}
    (hmem : mem ∈ ((Memory.History.start medium).run es).memories) (now : Timestamp)
    (vectors : List String → Except Outage (List Vector)) {w : CommandLine.Surroundings}
    {disk : Disk} {s : Web.Service}
    (h : (((Memory.History.start medium).run es).found mem now vectors).StartsIn w disk s)
    (a : Submission) :
    let m := ((Memory.History.start medium).run es).found mem now vectors
    let u := a.upshot m
    m.Shows a u ∧ a.upshot s.memory = u ∧ s.memory.Shows a u ∧
      ('\r' ∉ a.content.toList → w.Shows disk a u) := by
  intro m u
  have hsized := (Memory.History.sized_start medium).run es
  obtain ⟨hservice, k, hk, hready, hcommand⟩ :=
    h.upshots_eq (hsized.settings mem hmem) (fun hlasting => hsized.opened hlasting mem hmem) a
  obtain ⟨warnings, hsettings⟩ := h.settings
  refine ⟨a.shows m, hservice, ?_, fun hreturn =>
    Submission.shows_of_shown fun least file hsupplied => ?_⟩
  · rw [show u = a.upshot s.memory from hservice.symm]
    exact a.shows s.memory
  · rw [show u = a.upshot k from hcommand.symm]
    exact Submission.shown_of_created hsettings hk hready hreturn least hsupplied

private def oven : Embedder := ⟨"test", 1, Embedder.flat⟩

private def baking : Settings :=
  ⟨"memory.db", "fastembed", Settings.localModel, 1, 500, 64, .float 0.7, .float 0.3, 60, 2⟩

private def batches : List Memory.Event := [
  .enter baking oven .noon,
  .call 0 .noon Embedder.flat (.write "white bread" (some "A") .null)]

private def bakery : CommandLine.Surroundings where
  environment := [("AGENTMEMORY_DB_PATH", "memory.db"), ("AGENTMEMORY_DIMENSIONS", "1")]
  root := "."
  clock := .noon
  input := Text.Utf8.encode "rye bread"
  embedder := fun _ => oven

private def counter : Disk :=
  let db? := ((Memory.History.start .blank).run batches).medium.database?
  Disk.empty.put ["memory.db"] (.database (db?.getD ⟨1, Table.empty⟩) [])

private def loaf : Submission := ⟨"rye bread", some " A ", some "Bread", by decide⟩

private def docket : List (String × Json) :=
  [("title", .string "Bread"), ("content", .string "rye bread"), ("source", .string " A ")]

private def ticket : Web.Request :=
  ⟨"post", ⟨"/api/v1/memory/write", []⟩, ⟨"application/json",
    Text.Utf8.encode
      "\x7b\"content\": \"rye bread\", \"source\": \" A \", \"title\": \"Bread\"\x7d"⟩, none⟩

private theorem said_docket : loaf.SaidBy docket := ⟨rfl, rfl, rfl⟩

private theorem supplied_bakery : loaf.SuppliedBy bakery counter none := rfl

private theorem settings_bakery :
    Settings.read bakery.root bakery.environment = .ok (baking, []) := by
  rfl

private theorem medium_counter :
    counter.mediumAt "memory.db" = ((Memory.History.start .blank).run batches).medium := by
  decide +kernel

private theorem one_bakes : 0 < ((Memory.History.start .blank).run batches).memories.length := by
  decide +kernel

private def baker : Memory :=
  ((Memory.History.start .blank).run batches).memories.get ⟨0, one_bakes⟩

private def textsOf? : Except Web.Response (Option Json) → Option (String × String × String)
  | .ok (some (.object members)) =>
    match members.lookup "content", members.lookup "source", members.lookup "title" with
    | some (.string content), some (.string source), some (.string title) =>
        some (content, source, title)
    | _, _, _ => none
  | _ => none

private theorem posted_ticket : loaf.PostedBy ticket := by
  have htexts : textsOf? (Web.Service.bodyValue ticket.content) =
      some ("rye bread", " A ", "Bread") := by
    decide +kernel
  refine ⟨by decide +kernel, rfl, ?_⟩
  unfold textsOf? at htexts
  split at htexts
  · rename_i members hbody
    split at htexts
    · rename_i content source title hcontent hsource htitle
      cases htexts
      exact ⟨members, hbody, hcontent, congrArg (fun v => v.getD Json.null) hsource,
        congrArg (fun v => v.getD Json.null) htitle⟩
    · cases htexts
  · cases htexts

private theorem starts_bakery :
    ∃ s, Web.Service.start bakery.root bakery.environment counter.mediumAt .noon oven = .ok s :=
  Store.exists_of_isOk (by decide +kernel)

theorem entrances_agree_of_bakery :
    let m := ((Memory.History.start .blank).run batches).found baker .noon Embedder.flat
    let args := ["write", "--source", " A ", "--title=Bread"]
    baker ∈ ((Memory.History.start .blank).run batches).memories ∧
      loaf.SaidBy docket ∧ loaf.PostedBy ticket ∧ loaf.SuppliedBy bakery counter none ∧
      '\r' ∉ loaf.content.toList ∧
      CommandLine.Command.read args = .ok (.write none loaf.source loaf.title) ∧
      ∃ s w t, m.StartsIn bakery counter s ∧ loaf.upshot m = some (w, t) ∧
        ((Tool.execute .write (.object docket)).run m).1 = .text w.text ∧
        ((Tool.execute .write (.object docket)).run m).2.store.medium.table = t ∧
        (Web.Service.respond ticket s).1 =
          .ok (.object [("chunks_written", .int w.chunks), ("source", .string w.source)]) ∧
        (Web.Service.respond ticket s).2.memory.store.medium.table = t ∧
        ∃ o after, CommandLine.run bakery args counter = (.ok o, after) ∧ o.code = 0 ∧
          o.output = w.text ++ "\n" ∧
          (after.database? ["memory.db"]).map Database.table = some t := by
  intro m args
  have hmem : baker ∈ ((Memory.History.start .blank).run batches).memories := List.get_mem _ _
  have hreturn : '\r' ∉ loaf.content.toList := by decide +kernel
  have hargs : CommandLine.Command.read args = .ok (.write none loaf.source loaf.title) := by
    decide +kernel
  have hsettings : m.settings = baking := by decide +kernel
  have hembedder : m.embedder = oven := by
    have hname : baker.embedder.name = "test" := by decide +kernel
    have hdimensions : baker.embedder.dimensions = 1 := by decide +kernel
    change Embedder.mk baker.embedder.name baker.embedder.dimensions Embedder.flat = oven
    rw [oven, hname, hdimensions]
  obtain ⟨s, hs⟩ := starts_bakery
  have hstarts : m.StartsIn bakery counter s :=
    ⟨⟨[], hsettings ▸ settings_bakery⟩, rfl, hembedder.symm, hsettings ▸ medium_counter, hs⟩
  obtain ⟨w, t, hupshot⟩ : ∃ w t, loaf.upshot m = some (w, t) := by
    obtain ⟨w, hw⟩ := Store.exists_of_isOk (r := (loaf.write.perform m).1) (by decide +kernel)
    exact ⟨w, _, Submission.upshot_of_ok (Prod.ext hw rfl)⟩
  have hplace : (Path.read (Settings.databasePath bakery.root bakery.environment)).place =
      ["memory.db"] := by
    decide +kernel
  obtain ⟨hmemory, -, hservice, hcommand⟩ := entrances_agree hmem .noon Embedder.flat hstarts loaf
  obtain ⟨o, after, hrun, hends⟩ :=
    (hcommand hreturn).line 30 args none supplied_bakery (by rfl) hargs
  have htool := hmemory.tool docket said_docket
  have hweb := hservice.web s.options ticket posted_ticket
  have hserver : (⟨s.options, s.memory⟩ : Web.Service) = s := rfl
  rw [hupshot, Upshot.ShownByTool, Upshot.shownBy_some] at htool
  rw [hupshot, hserver, Upshot.ShownByService, Upshot.shownBy_some] at hweb
  rw [hupshot, Upshot.ShownByCommand, hplace, Upshot.shownBy_some] at hends
  obtain ⟨htext, htable⟩ := htool
  obtain ⟨hresponse, hstored⟩ := hweb
  obtain ⟨⟨houtput, hcode⟩, hkept⟩ := hends
  exact ⟨hmem, said_docket, posted_ticket, supplied_bakery, hreturn, hargs, s, w, t, hstarts,
    hupshot, htext,
    Option.some.inj htable, hresponse, Option.some.inj hstored, o, after, hrun, hcode,
    houtput, hkept⟩

private def loud : CommandLine.Surroundings :=
  { bakery with environment := ("AGENTMEMORY_LOG_LEVEL", "LOUD") :: bakery.environment }

private def full : CommandLine.Surroundings :=
  { bakery with output := ⟨fun _ => .error "[Errno 28] No space left on device", fun _ _ => true⟩ }

/-- Where the memory, the tool and the web service write, a command does nothing under a log level
that there is not, and fails after its work where the output is full. -/
theorem command_differs_at_bakery :
    let m := ((Memory.History.start .blank).run batches).found baker .noon Embedder.flat
    let args := ["write", "--source", " A ", "--title=Bread"]
    (loaf.write.perform m).1.isOk ∧
      (∃ w, ((Tool.execute .write (.object docket)).run m).1 = .text w) ∧
      (Web.Service.start loud.root loud.environment counter.mediumAt .noon oven).toOption.map
        (fun s => (Web.Service.respond ticket s).1.status) = some 200 ∧
      (CommandLine.run loud args counter).1.isOk = false ∧
      (CommandLine.run loud args counter).2 = counter ∧
      (CommandLine.run full args counter).1.toOption.map (fun o => o.code) = some 1 ∧
      ((CommandLine.run full args counter).2.database? ["memory.db"]).map Database.table =
        (loaf.upshot m).map Prod.snd := by
  intro m args
  have hanswer : (loaf.write.perform m).1.isOk := by decide +kernel
  refine ⟨hanswer, ?_, by decide +kernel, by decide +kernel, ?_, by decide +kernel,
    by decide +kernel⟩
  · obtain ⟨w, hw⟩ := Store.exists_of_isOk hanswer
    have htool := said_docket.shown m
    rw [Submission.upshot_of_ok (Prod.ext hw rfl)] at htool
    exact ⟨w.text, htool.1⟩
  · rfl

end TextMemory
