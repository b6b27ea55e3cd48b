import ApiTree.Command.Execute
import ApiTree.Convert.Launching
import ApiTree.Proofs.Files.Moving

namespace ApiTree.Convert

open ApiTree.Files (Disk FileFault Place)
open ApiTree.Interp (TypeParser)

/-!
# All or nothing

A run touches its output in one step, when the finished file is moved there.  If it
fails before, the disk is as the interpreter left it, and if it does not, the output
is the project.  What can still fail after that step is that the report is printed:
the exit code is that of a failure then, and the output has been replaced.
-/

/-- That a disk is as a run found it, or as the interpreter left it when it was launched. -/
def AsLaunched
    (launcher : Launcher)
    (before after : Disk) :
    Prop :=
  after = before ∨ ∃ expressions, after = (launcher before expressions).2

theorem asLaunched_diskAfterBatch
    (request : Request)
    (launcher : Launcher)
    (disk : Disk)
    (content : Except FileFault String) :
    AsLaunched launcher disk (diskAfterBatch request launcher disk content) := by
  cases content with
  | error fault => exact .inl rfl
  | ok text =>
      simp only [diskAfterBatch]
      split
      · rename_i expressions _
        exact .inr ⟨expressions, rfl⟩
      · exact .inl rfl

/-- Without an interpreter the disk is as the run found it. -/
theorem AsLaunched.of_silent
    {launcher : Launcher}
    {before after : Disk}
    (asLaunched : AsLaunched silentLauncher before after) :
    AsLaunched launcher before after := by
  rcases asLaunched with same | ⟨expressions, same⟩
  · exact .inl same
  · exact .inl same

theorem eq_ok_of_step
    {α : Type}
    {mishap : Option FileFault}
    {result : Except FileFault α}
    {found : α}
    (steps : step mishap result = .ok found) :
    result = .ok found := by
  cases mishap with
  | some fault => cases steps
  | none => exact steps

/-- A text that was written has been moved to its place, and nothing else happened. -/
theorem exists_place_of_writeText
    {mishaps : Mishaps}
    {disk written : Disk}
    {path text : String}
    (writes : writeText mishaps disk path text = .ok written) :
    ∃ place, disk.destination path = .ok place ∧
      written = disk.put place (.file text.toUTF8 false) := by
  simp only [writeText] at writes
  split at writes
  · cases writes
  split at writes
  · cases writes
  · cases writes
  split at writes
  · cases writes
  rename_i place moves
  cases writes
  exact ⟨place, eq_ok_of_step moves, rfl⟩

/-- How a run ends. -/
inductive RunEnds
    (launcher : Launcher)
    (disk : Disk)
    (request : Request) :
    Except Failure Report × Disk → Prop
  /-- It fails, and nothing was put in place. -/
  | failed
      (failure : Failure)
      (after : Disk)
      (asLaunched : AsLaunched launcher disk after) :
      RunEnds launcher disk request (.error failure, after)
  /-- Its project was put in place. -/
  | finished
      (text : String)
      (parser : TypeParser)
      (conversion : Conversion)
      (left : Disk)
      (place : Place)
      (isText : disk.readText request.input = .ok text)
      (converts : convert request.settings.options parser text = .ok conversion)
      (asLaunched : AsLaunched launcher disk left)
      (isPlace : left.destination request.output = .ok place) :
      RunEnds launcher disk request
        (.ok (reportOf request conversion.stats),
          left.put place (.file (projectText conversion.project).toUTF8 false))

/-- What is written and reported comes from one conversion of the content. -/
theorem exists_conversion_of_prepare
    {request : Request}
    {parser : TypeParser}
    {content : Except FileFault String}
    {written : String}
    {report : Report}
    (prepared : prepare request parser content = .ok (written, report)) :
    ∃ text conversion, content = .ok text ∧
      convert request.settings.options parser text = .ok conversion ∧
        written = projectText conversion.project ∧
          report = reportOf request conversion.stats := by
  cases content with
  | error fault => cases prepared
  | ok text =>
      simp only [prepare] at prepared
      split at prepared
      · cases prepared
      rename_i conversion converts
      cases prepared
      exact ⟨text, conversion, rfl, converts, rfl, rfl⟩

theorem runEnds
    (launcher : Launcher)
    (mishaps : Mishaps)
    (disk : Disk)
    (request : Request) :
    RunEnds launcher disk request (run launcher mishaps disk request) := by
  have asLaunched (content : Except FileFault String) :
      AsLaunched launcher disk
        (diskAfterBatch request
          (if request.resolvesTypes then launcher else silentLauncher) disk content) := by
    split
    · exact asLaunched_diskAfterBatch request launcher disk content
    · exact (asLaunched_diskAfterBatch request silentLauncher disk content).of_silent
  simp only [run]
  split
  · exact .failed _ _ (asLaunched _)
  rename_i written report prepared
  obtain ⟨text, conversion, isText, converts, rfl, rfl⟩ :=
    exists_conversion_of_prepare prepared
  split
  · exact .failed _ _ (asLaunched _)
  rename_i after writes
  obtain ⟨place, isPlace, rfl⟩ := exists_place_of_writeText writes
  exact .finished text _ conversion _ place (eq_ok_of_step isText) converts
    (asLaunched _) isPlace

end ApiTree.Convert

namespace ApiTree.Command

open ApiTree.Convert
open ApiTree.Files (Disk FileFault Place)
open ApiTree.Interp (TypeParser)

/-! ## Command lines -/

/-- That a disk is as a command line found it, or as the interpreter left it. -/
def AsFound
    (launcher : Settings → Launcher)
    (before after : Disk) :
    Prop :=
  ∃ settings, AsLaunched (launcher settings) before after

/-- What stands at a path is left alone unless the interpreter changes it. -/
theorem AsFound.find_eq
    {launcher : Settings → Launcher}
    {before after : Disk}
    {path : String}
    (asFound : AsFound launcher before after)
    (keeps : ∀ settings expressions,
      (launcher settings before expressions).2.find path = before.find path) :
    after.find path = before.find path := by
  obtain ⟨settings, rfl | ⟨expressions, rfl⟩⟩ := asFound
  · rfl
  · exact keeps settings expressions

/-- That the project of the input stands at the output, and what is to be reported. -/
inductive InPlace
    (launcher : Settings → Launcher)
    (before : Disk)
    (arguments : Arguments) :
    Report → Disk → Prop where
  | moved
      (settings : Settings)
      (text : String)
      (parser : TypeParser)
      (conversion : Conversion)
      (left : Disk)
      (place : Place)
      (isText : before.readText arguments.input = .ok text)
      (converts : convert settings.options parser text = .ok conversion)
      (asFound : AsFound launcher before left)
      (isPlace : left.destination arguments.output = .ok place) :
      InPlace launcher before arguments
        (reportOf (requestFor arguments settings) conversion.stats)
        (left.put place (.file (projectText conversion.project).toUTF8 false))

/-- How a command line ends. -/
inductive Ends
    (launcher : Settings → Launcher)
    (mishaps : Mishaps)
    (disk : Disk)
    (arguments : List String) :
    Outcome → Prop
  /-- No run is asked for. -/
  | unasked
      (ending : Ending)
      (isEnding : Arguments.read arguments = .error ending) :
      Ends launcher mishaps disk arguments ⟨ending.exitCode, ending.output, disk⟩
  /-- The run fails, and nothing was put in place. -/
  | failed
      (failure : Failure)
      (after : Disk)
      (asFound : AsFound launcher disk after) :
      Ends launcher mishaps disk arguments (failedOutcome mishaps failure after)
  /-- The run has finished, and its report is printed unless that fails. -/
  | finished
      (asked : Arguments)
      (report : Report)
      (after : Disk)
      (isAsked : Arguments.read arguments = .ok asked)
      (inPlace : InPlace launcher disk asked report after) :
      Ends launcher mishaps disk arguments (finishedOutcome mishaps report after)

variable
    (launcher : Settings → Launcher)
    (mishaps : Mishaps)
    (disk : Disk)

theorem ends_executeRun
    {arguments : List String}
    {asked : Arguments}
    (isAsked : Arguments.read arguments = .ok asked) :
    Ends launcher mishaps disk arguments
      (executeRun launcher mishaps disk asked) := by
  simp only [executeRun]
  split
  · exact .failed _ disk ⟨{}, .inl rfl⟩
  rename_i settings _
  have ends := runEnds (launcher settings) mishaps disk (requestFor asked settings)
  split
  · rename_i failure after isRun
    rw [isRun] at ends
    cases ends with
    | failed _ _ asLaunched => exact .failed failure after ⟨settings, asLaunched⟩
  · rename_i report after isRun
    rw [isRun] at ends
    cases ends with
    | finished text parser conversion left place isText converts asLaunched isPlace =>
        exact .finished asked _ _ isAsked
          (.moved settings text parser conversion left place isText converts
            ⟨settings, asLaunched⟩ isPlace)

theorem ends_execute (arguments : List String) :
    Ends launcher mishaps disk arguments
      (execute launcher mishaps disk arguments) := by
  rw [execute]
  cases isAsked : Arguments.read arguments with
  | error ending => exact .unasked ending isAsked
  | ok asked => exact ends_executeRun launcher mishaps disk isAsked

/-- The project that was put in place is read at the output. -/
theorem InPlace.readText_output
    {launcher : Settings → Launcher}
    {before after : Disk}
    {arguments : Arguments}
    {report : Report}
    (inPlace : InPlace launcher before arguments report after) :
    ∃ settings text parser conversion,
      before.readText arguments.input = .ok text ∧
        convert settings.options parser text = .ok conversion ∧
        after.readText arguments.output = .ok (projectText conversion.project) ∧
        report = reportOf (requestFor arguments settings) conversion.stats := by
  cases inPlace with
  | moved settings text parser conversion left place isText converts _ isPlace =>
      exact ⟨settings, text, parser, conversion, isText, converts,
        Disk.readText_put isPlace, rfl⟩

theorem failure_code_ne_zero (failure : Failure) : failure.code ≠ 0 := by
  cases failure <;> exact Nat.succ_ne_zero _

/--
All or nothing: a command line that ends with a failure leaves everything as it was
that the interpreter left alone, its output included.  The one failure that comes too
late for that is that a finished run cannot print its report.  A command line that asks
for a run and ends without a failure has put the project of its input in place and
printed its report.
-/
theorem failed_commands_keep_output (arguments : List String) :
    let outcome := execute launcher mishaps disk arguments
    (outcome.exitCode ≠ 0 →
        (AsFound launcher disk outcome.disk ∧
          ∀ path, (∀ settings expressions,
              (launcher settings disk expressions).2.find path = disk.find path) →
            outcome.disk.find path = disk.find path) ∨
        (mishaps.print.isSome ∧ outcome.exitCode = 10 ∧ outcome.output = "" ∧
          ∃ asked report, Arguments.read arguments = .ok asked ∧
            InPlace launcher disk asked report outcome.disk)) ∧
      ∀ asked, Arguments.read arguments = .ok asked → outcome.exitCode = 0 →
        mishaps.print = none ∧
          ∃ settings text parser conversion,
            disk.readText asked.input = .ok text ∧
              convert settings.options parser text = .ok conversion ∧
              outcome.disk.readText asked.output =
                .ok (projectText conversion.project) ∧
              outcome.output =
                envelope (reportOf (requestFor asked settings) conversion.stats).json := by
  intro outcome
  have ends : Ends launcher mishaps disk arguments outcome :=
    ends_execute launcher mishaps disk arguments
  clear_value outcome
  cases ends with
  | unasked ending isEnding =>
      refine ⟨fun _ => .inl ⟨⟨{}, .inl rfl⟩, fun path _ => rfl⟩, ?_⟩
      intro asked isAsked
      rw [isEnding] at isAsked
      cases isAsked
  | failed failure after asFound =>
      refine ⟨fun _ => .inl ⟨asFound, fun path => asFound.find_eq⟩, ?_⟩
      intro asked isAsked succeeds
      exact (failure_code_ne_zero failure succeeds).elim
  | finished asked report after isAsked inPlace =>
      cases printed : mishaps.print with
      | some fault =>
          have late : finishedOutcome mishaps report after = ⟨10, "", after⟩ := by
            simp [finishedOutcome, failedOutcome, printed, Failure.code]
          rw [late]
          refine ⟨fun _ => .inr ⟨rfl, rfl, rfl, asked, report, isAsked, inPlace⟩, ?_⟩
          intro _ _ succeeds
          cases succeeds
      | none =>
          have inTime : finishedOutcome mishaps report after =
              ⟨0, envelope report.json, after⟩ := by
            simp [finishedOutcome, printed]
          rw [inTime]
          refine ⟨fun fails => (fails rfl).elim, ?_⟩
          intro other isOther _
          obtain rfl := Except.ok.inj (isAsked.symm.trans isOther)
          obtain ⟨settings, text, parser, conversion, isText, converts, isWritten, rfl⟩ :=
            inPlace.readText_output
          exact ⟨rfl, settings, text, parser, conversion, isText, converts, isWritten, rfl⟩

/-- An interpreter that does not answer in time leaves the output of an earlier run. -/
theorem failed_commands_keep_output_of_timeout :
    let disk : Disk :=
      ⟨[(["in.json"], .file "[]".toUTF8 false),
        (["api.json"], .file "previous".toUTF8 false)]⟩
    let outcome := execute (fun _ disk _ => (.error (.timeout 120), disk)) {} disk
      ["--input", "in.json", "--output", "api.json"]
    outcome.exitCode = 3 ∧ outcome.disk.find "api.json" = disk.find "api.json" := by
  intro disk outcome
  have code : outcome.exitCode = 3 := by decide +kernel
  have fails : outcome.exitCode ≠ 0 := by
    rw [code]
    decide
  have conclusion := failed_commands_keep_output (fun _ disk _ => (.error (.timeout 120), disk))
    {} disk ["--input", "in.json", "--output", "api.json"]
  rcases conclusion.1 fails with ⟨-, kept⟩ | ⟨unprinted, -⟩
  · exact ⟨code, kept "api.json" fun _ _ => rfl⟩
  · cases unprinted

/--
Two command lines that end with a failure although the output has changed: one that
cannot print its report, and one whose interpreter writes to the output and then fails.
-/
theorem failing_commands_may_change_output :
    (let disk : Disk :=
      ⟨[(["in.json"], .file "[]".toUTF8 false),
        (["api.json"], .file "previous".toUTF8 false)]⟩
    let outcome := execute (fun _ => silentLauncher)
      { print := some (.other "No space left on device (os error 28)") } disk
      ["--input", "in.json", "--output", "api.json", "--no-type-resolution"]
    outcome.exitCode = 10 ∧
      (disk.readText "api.json").toOption = some "previous" ∧
      (outcome.disk.readText "api.json").toOption ≠ some "previous") ∧
    let disk : Disk :=
      ⟨[(["in.json"],
          .file "[\x7b\"name\":\"key\",\"type\":\"data\",\"datatype\":\"int\"\x7d]".toUTF8 false),
        (["api.json"], .file "previous".toUTF8 false),
        (["py"], .file "#!/bin/sh\necho changed > api.json\nexit 1\n".toUTF8 true)] ++
        Interp.systemDisk.entries⟩
    let outcome := execute (interpreterLauncher [] Interp.systemSearchPath) {} disk
      ["--input", "in.json", "--output", "api.json", "--python", "./py"]
    outcome.exitCode = 3 ∧
      (disk.readText "api.json").toOption = some "previous" ∧
      (outcome.disk.readText "api.json").toOption = some "changed\n" := by
  decide +kernel

end ApiTree.Command
