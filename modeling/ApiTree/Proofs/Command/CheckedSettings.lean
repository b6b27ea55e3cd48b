import ApiTree.Command.Execute

namespace ApiTree.Convert.Settings

open ApiTree.Files (FileFault)
open ApiTree.Text (isAllBlank)

/-!
# Checked settings

Settings are checked where they are read from a file; those that need no file pass the
same check.  The arguments of a command override the interpreter and the name of the
project afterwards, and nothing checks the settings again.  So the settings of every run
allow a batch at least one second, and they pass the whole check unless the arguments
give the project a blank name.
-/

/-- The check asks for one second at least and a name that is not blank. -/
theorem problem?_eq_none_iff
    {settings : Settings} :
    settings.problem? = none ↔
      1 ≤ settings.timeout ∧ isAllBlank settings.projectName = false := by
  unfold problem?
  split
  · rename_i isZero
    simp [isZero]
  · rename_i notZero
    have positive : 1 ≤ settings.timeout := Nat.pos_of_ne_zero notZero
    cases isAllBlank settings.projectName <;> simp [positive]

theorem problem?_ofContent
    {path : String}
    {content : Except FileFault String}
    {settings : Settings}
    (found : ofContent path content = .ok settings) :
    settings.problem? = none := by
  simp only [ofContent] at found
  split at found
  · cases found
  split at found
  · cases found
  split at found
  · cases found
  rename_i passes
  cases found
  exact passes

/-- Settings pass the check when they have been loaded, with a file or without one. -/
theorem problem?_load
    {read : String → Except FileFault String}
    {path? : Option String}
    {settings : Settings}
    (loaded : load read path? = .ok settings) :
    settings.problem? = none := by
  cases path? with
  | some path =>
      exact problem?_ofContent loaded
  | none =>
      cases loaded
      decide

/-- All that can be wrong with settings after overriding is a blank name given there. -/
theorem problem?_override
    {settings : Settings}
    (passes : settings.problem? = none)
    (interpreter projectName : Option String) :
    (settings.override interpreter projectName).problem? =
      if projectName.any isAllBlank then
        some (.invalid "project_name" "must not be empty")
      else
        none := by
  obtain ⟨positive, named⟩ := problem?_eq_none_iff.mp passes
  have notZero : settings.timeout ≠ 0 := Nat.ne_of_gt positive
  cases projectName with
  | none => simp [problem?, override, notZero, named]
  | some name => simp [problem?, override, notZero]

end ApiTree.Convert.Settings

namespace ApiTree.Command

open ApiTree.Convert
open ApiTree.Files (Disk FileFault)
open ApiTree.Text (isAllBlank)

/-- The request of a command line that comes as far as a run. -/
def requested?
    (mishaps : Mishaps)
    (disk : Disk)
    (arguments : List String) :
    Option Request :=
  match Arguments.read arguments with
  | .error _ => none
  | .ok asked =>
      match settingsFor (fun path => step mishaps.readSettings (disk.readText path))
          asked with
      | .error _ => none
      | .ok settings => some (requestFor asked settings)

/-- The end of a command line whose request is run. -/
def runOutcome
    (launcher : Settings → Launcher)
    (mishaps : Mishaps)
    (disk : Disk)
    (request : Request) :
    Outcome :=
  match run (launcher request.settings) mishaps disk request with
  | (.error failure, after) => failedOutcome mishaps failure after
  | (.ok report, after) => finishedOutcome mishaps report after

variable
    (launcher : Settings → Launcher)
    (mishaps : Mishaps)
    (disk : Disk)

/-- A command line that asks for no run, or has no settings, touches nothing. -/
theorem disk_execute_of_not_requested
    {arguments : List String}
    (notRequested : requested? mishaps disk arguments = none) :
    (execute launcher mishaps disk arguments).disk = disk := by
  unfold requested? at notRequested
  unfold execute
  cases isAsked : Arguments.read arguments with
  | error ending => rfl
  | ok asked =>
      simp only [isAsked] at notRequested
      split at notRequested
      · rename_i unset
        simp only [executeRun, unset]
        rfl
      · cases notRequested

/-- A request has the settings of its arguments, and it is what is run. -/
theorem execute_of_requested
    {arguments : List String}
    {asked : Arguments}
    {request : Request}
    (isAsked : Arguments.read arguments = .ok asked)
    (isRequested : requested? mishaps disk arguments = some request) :
    settingsFor (fun path => step mishaps.readSettings (disk.readText path)) asked =
        .ok request.settings ∧
      execute launcher mishaps disk arguments =
        runOutcome launcher mishaps disk request := by
  simp only [requested?, isAsked] at isRequested
  simp only [execute, isAsked]
  split at isRequested
  · cases isRequested
  · rename_i settings found
    cases isRequested
    refine ⟨found, ?_⟩
    simp only [executeRun, found]
    rfl

/-- The settings for arguments are loaded ones with what the arguments override. -/
theorem exists_load_of_settingsFor
    {read : String → Except FileFault String}
    {asked : Arguments}
    {settings : Settings}
    (found : settingsFor read asked = .ok settings) :
    ∃ loaded, Settings.load read asked.config = .ok loaded ∧
      settings = loaded.override asked.interpreter asked.projectName := by
  unfold settingsFor at found
  cases loads : Settings.load read asked.config with
  | error _ =>
      rw [loads] at found
      cases found
  | ok loaded =>
      rw [loads] at found
      cases found
      exact ⟨loaded, rfl, rfl⟩

/--
A command line comes as far as a run with settings that allow a batch one second at
least, and they pass the check unless the arguments give the project a blank name; then
the blank name is what is wrong with them.  A command line that does not come so far
leaves everything as it is.
-/
theorem settings_of_runs_checked_unless_overridden (arguments : List String) :
    (requested? mishaps disk arguments = none →
        (execute launcher mishaps disk arguments).disk = disk) ∧
      ∀ asked request, Arguments.read arguments = .ok asked →
        requested? mishaps disk arguments = some request →
          execute launcher mishaps disk arguments =
              runOutcome launcher mishaps disk request ∧
            1 ≤ request.settings.timeout ∧
            request.settings.problem? =
              if asked.projectName.any isAllBlank then
                some (.invalid "project_name" "must not be empty")
              else
                none := by
  refine ⟨disk_execute_of_not_requested launcher mishaps disk, ?_⟩
  intro asked request isAsked isRequested
  obtain ⟨found, executes⟩ :=
    execute_of_requested launcher mishaps disk isAsked isRequested
  obtain ⟨loaded, loads, overridden⟩ := exists_load_of_settingsFor found
  have passes := Settings.problem?_load loads
  refine ⟨executes, ?_, ?_⟩
  · rw [overridden]
    exact (Settings.problem?_eq_none_iff.mp passes).1
  · rw [overridden]
    exact Settings.problem?_override passes asked.interpreter asked.projectName

/-- A file sets the time of a batch, and an argument gives the project its name. -/
theorem settings_of_runs_checked_unless_overridden_of_file :
    let disk : Disk :=
      ⟨[(["in.json"], .file "[]".toUTF8 false),
        (["c.json"],
          .file "\x7b\"type_parser_timeout_secs\": 5, \"python\": \"py\"\x7d".toUTF8 false)]⟩
    let arguments := ["--input", "in.json", "--output", "api.json", "--config", "c.json",
      "--project-name", "zoo"]
    ∃ request, requested? {} disk arguments = some request ∧
      request.settings =
        { projectName := "zoo", interpreter := some "py", timeout := 5 } ∧
      1 ≤ request.settings.timeout ∧ request.settings.problem? = none := by
  intro disk arguments
  have read : ∃ asked, Arguments.read arguments = .ok asked ∧
      asked.projectName = some "zoo" := by
    simp only [Arguments.read]
    exact ⟨_, rfl, rfl⟩
  have found : (requested? {} disk arguments).map (·.settings) =
      some { projectName := "zoo", interpreter := some "py", timeout := 5 } := by
    decide +kernel
  obtain ⟨asked, isAsked, named⟩ := read
  obtain ⟨request, isRequested, settingsEq⟩ := Option.map_eq_some_iff.mp found
  obtain ⟨-, enough, passes⟩ :=
    (settings_of_runs_checked_unless_overridden (fun _ => silentLauncher) {} disk
      arguments).2 asked request isAsked isRequested
  rw [named, if_neg (by decide)] at passes
  exact ⟨request, isRequested, settingsEq, enough, passes⟩

/-- The check refuses a blank name in a file, but not one that an argument gives. -/
theorem blank_name_reaches_run :
    let disk : Disk :=
      ⟨[(["in.json"], .file "[]".toUTF8 false),
        (["c.json"], .file "\x7b\"project_name\": \"\"\x7d".toUTF8 false)]⟩
    let arguments := ["--input", "in.json", "--output", "api.json", "--no-type-resolution"]
    requested? {} disk (arguments ++ ["--config", "c.json"]) = none ∧
      (∃ request, requested? {} disk (arguments ++ ["--project-name="]) = some request ∧
        request.settings.projectName = "" ∧ request.settings.problem? ≠ none) ∧
      (execute (fun _ => silentLauncher) {} disk
        (arguments ++ ["--project-name="])).exitCode = 0 := by
  intro disk arguments
  have reaches : (requested? {} disk (arguments ++ ["--project-name="])).map
      (fun request => (request.settings.projectName, request.settings.problem?.isSome)) =
        some ("", true) := by
    decide +kernel
  obtain ⟨request, isRequested, found⟩ := Option.map_eq_some_iff.mp reaches
  obtain ⟨isBlank, refused⟩ := Prod.mk.inj found
  refine ⟨?_, ⟨request, isRequested, isBlank, Option.isSome_iff_ne_none.mp refused⟩, ?_⟩
  · exact Option.isNone_iff_eq_none.mp (by decide +kernel)
  · decide +kernel

end ApiTree.Command
