import ApiTree.Interp.Discovery
import Mathlib.Data.List.Forall2

namespace ApiTree.Interp

open ApiTree.Files (Disk joinPath)

/-!
# Candidates for an interpreter

If no interpreter is asked for, each place that is looked at offers candidates: the path
that a variable holds, two paths in the active virtual environment, and two names in
every directory of the search path.  The first candidate that passes the check of its
place is taken.  The search path asks for a file that may be run.  The other places ask
only for something that may be run, and a directory passes too; so the first file that
may be run is found unless a directory is taken before it.
-/

namespace Environment

variable (environment : Environment)

/-- The path that the variable for interpreters holds. -/
def variableCandidates : List FoundInterpreter :=
  (environment.valueOf? interpreterVariable).toList.map fun path => ⟨path, .variable⟩

/-- The paths of interpreters in the active virtual environment. -/
def virtualCandidates : List FoundInterpreter :=
  (environment.valueOf? virtualVariable).toList.flatMap fun directory =>
    interpreterNames.map fun name =>
      ⟨joinPath (joinPath directory "bin") name, .virtualEnvironment⟩

/-- The paths of interpreters on the search path: one name everywhere, then the next. -/
def searchPathCandidates : List FoundInterpreter :=
  interpreterNames.flatMap fun name =>
    environment.searchPath.map fun directory => ⟨joinPath directory name, .searchPath⟩

/-- The places that are looked at, in order, and what each offers. -/
def offers : List (String × List FoundInterpreter) :=
  [ ("$DOCSPEC_PYTHON", environment.variableCandidates),
    ("$VIRTUAL_ENV", environment.virtualCandidates),
    ("$PATH (python3/python)", environment.searchPathCandidates) ]

/-- What may be taken for an interpreter, the preferred candidate first. -/
def candidates : List FoundInterpreter :=
  environment.offers.flatMap (·.2)

/-- Whether a candidate is a file that may be run. -/
def isUsable (candidate : FoundInterpreter) : Bool :=
  environment.disk.isRunnableFile candidate.path

/-- Whether a candidate passes the check of its place. -/
def passes (candidate : FoundInterpreter) : Bool :=
  match candidate.source with
  | .searchPath => environment.disk.isRunnableFile candidate.path
  | _ => environment.disk.isRunnable candidate.path

/--
That the first candidate which is accepted is found, under the name of its place, and
that every place is reported, in order, if none is accepted.
-/
def FindsFirst (accepts : FoundInterpreter → Bool) : Prop :=
  match environment.candidates.find? accepts with
  | some found => environment.findInterpreter none = .ok found
  | none =>
      ∃ attempts, environment.findInterpreter none = .error (.notFound attempts) ∧
        attempts.map (·.source) =
          ["--python", "$DOCSPEC_PYTHON", "$VIRTUAL_ENV", "$PATH (python3/python)"]

end Environment

/-! ## Places in order -/

/-- That a place gives its first candidate that is accepted, or says that it has none. -/
inductive Gives
    (accepts : FoundInterpreter → Bool)
    (source : String)
    (candidates : List FoundInterpreter) :
    Except Attempt FoundInterpreter → Prop where
  | found
      {first : FoundInterpreter}
      (isFirst : candidates.find? accepts = some first) :
      Gives accepts source candidates (.ok first)
  | nothing
      {failed : Attempt}
      (refused : candidates.find? accepts = none)
      (source_eq : failed.source = source) :
      Gives accepts source candidates (.error failed)

/-- The first accepted candidate of all places is found, or all places are reported. -/
theorem Environment.firstFound_of_gives
    {accepts : FoundInterpreter → Bool}
    {offers : List (String × List FoundInterpreter)}
    {places : List (Except Attempt FoundInterpreter)}
    (give : List.Forall₂ (fun offer => Gives accepts offer.1 offer.2) offers places)
    (attempts : List Attempt) :
    match (offers.flatMap (·.2)).find? accepts with
    | some first => firstFound attempts places = .ok first
    | none =>
        ∃ failed, firstFound attempts places = .error (.notFound (attempts ++ failed)) ∧
          failed.map (·.source) = offers.map (·.1) := by
  induction give generalizing attempts with
  | nil =>
      exact ⟨[], by rw [List.append_nil]; rfl, rfl⟩
  | @cons offer place others rest gives _ inductionHypothesis =>
      rw [List.flatMap_cons, List.find?_append]
      cases gives with
      | found isFirst =>
          rw [isFirst]
          rfl
      | @nothing failed refused source_eq =>
          have restGives := inductionHypothesis (attempts ++ [failed])
          rw [refused, Option.none_or]
          split
          · rename_i first isFirst
            rw [isFirst] at restGives
            exact restGives
          · rename_i noneInRest
            rw [noneInRest] at restGives
            obtain ⟨failedToo, fails, sources_eq⟩ := restGives
            refine ⟨failed :: failedToo, ?_, ?_⟩
            · rw [← List.append_cons] at fails
              exact fails
            · rw [List.map_cons, List.map_cons, source_eq, sources_eq]

/-! ## What each place accepts -/

/-- What may be run exists. -/
theorem exists?_of_isRunnable
    {disk : Disk}
    {path : String}
    (isRunnable : disk.isRunnable path = true) :
    disk.exists? path = true := by
  unfold Disk.isRunnable at isRunnable
  unfold Disk.exists?
  cases found : disk.find path with
  | ok entry => rfl
  | error fault =>
      rw [found] at isRunnable
      cases isRunnable

namespace Environment

variable (environment : Environment)

theorem gives_fromVariable :
    Gives environment.passes "$DOCSPEC_PYTHON" environment.variableCandidates
      environment.fromVariable := by
  unfold fromVariable variableCandidates
  cases environment.valueOf? interpreterVariable with
  | none =>
      exact .nothing rfl rfl
  | some path =>
      by_cases isRunnable : environment.disk.isRunnable path = true
      · simp only [exists?_of_isRunnable isRunnable, isRunnable]
        exact .found (List.find?_cons_of_pos isRunnable)
      · have refused : [(⟨path, .variable⟩ : FoundInterpreter)].find? environment.passes =
            none :=
          List.find?_cons_of_neg isRunnable
        simp only [Bool.not_eq_true] at isRunnable
        simp only [isRunnable, Bool.not_false, if_true]
        split <;> exact .nothing refused rfl

theorem gives_fromVirtualEnvironment :
    Gives environment.passes "$VIRTUAL_ENV" environment.virtualCandidates
      environment.fromVirtualEnvironment := by
  unfold fromVirtualEnvironment virtualCandidates
  cases environment.valueOf? virtualVariable with
  | none =>
      exact .nothing rfl rfl
  | some directory =>
      simp only [Option.toList_some, List.flatMap_singleton]
      generalize interpreterNames = names
      have sameSearch :
          (names.map fun name =>
              (⟨joinPath (joinPath directory "bin") name, .virtualEnvironment⟩ :
                FoundInterpreter)).find? environment.passes =
            ((names.map (joinPath (joinPath directory "bin"))).find?
              environment.disk.isRunnable).map (⟨·, .virtualEnvironment⟩) := by
        simp only [List.find?_map, Option.map_map]
        rfl
      cases found : (names.map (joinPath (joinPath directory "bin"))).find?
          environment.disk.isRunnable with
      | some path =>
          exact .found (by rw [sameSearch, found]; rfl)
      | none =>
          exact .nothing (by rw [sameSearch, found]; rfl) rfl

theorem gives_fromSearchPath :
    Gives environment.passes "$PATH (python3/python)" environment.searchPathCandidates
      environment.fromSearchPath := by
  have sameSearch :
      environment.searchPathCandidates.find? environment.passes =
        (interpreterNames.findSome? environment.onSearchPath?).map (⟨·, .searchPath⟩) := by
    unfold searchPathCandidates
    induction interpreterNames with
    | nil =>
        rfl
    | cons name rest inductionHypothesis =>
        have inDirectories :
            (environment.searchPath.map fun directory =>
                (⟨joinPath directory name, .searchPath⟩ : FoundInterpreter)).find?
                environment.passes =
              (environment.onSearchPath? name).map (⟨·, .searchPath⟩) := by
          simp only [onSearchPath?, List.find?_map, Option.map_map]
          rfl
        rw [List.flatMap_cons, List.find?_append, inDirectories, inductionHypothesis,
          List.findSome?_cons]
        cases environment.onSearchPath? name <;> rfl
  unfold fromSearchPath
  cases found : interpreterNames.findSome? environment.onSearchPath? with
  | some path =>
      exact .found (by rw [sameSearch, found]; rfl)
  | none =>
      exact .nothing (by rw [sameSearch, found]; rfl) rfl

/-- The first candidate that passes the check of its place is found. -/
theorem findsFirst_passes : environment.FindsFirst environment.passes := by
  have give :
      List.Forall₂ (fun offer => Gives environment.passes offer.1 offer.2)
        environment.offers
        [ environment.fromVariable,
          environment.fromVirtualEnvironment,
          environment.fromSearchPath ] :=
    .cons environment.gives_fromVariable
      (.cons environment.gives_fromVirtualEnvironment
        (.cons environment.gives_fromSearchPath .nil))
  have searched :=
    firstFound_of_gives give [attempt InterpreterSource.requested.text none .notSet]
  rw [FindsFirst, candidates]
  cases isFirst : (environment.offers.flatMap (·.2)).find? environment.passes with
  | some first =>
      rw [isFirst] at searched
      exact searched
  | none =>
      rw [isFirst] at searched
      obtain ⟨failed, fails, sources_eq⟩ := searched
      exact ⟨_, fails, by rw [List.map_append, sources_eq]; rfl⟩

/-! ## Directories -/

theorem isUsable_eq_true_iff
    {candidate : FoundInterpreter} :
    environment.isUsable candidate = true ↔
      environment.passes candidate = true ∧
        environment.disk.find candidate.path ≠ .ok .directory := by
  obtain ⟨path, source⟩ := candidate
  unfold isUsable passes Disk.isRunnableFile Disk.isRunnable
  cases environment.disk.find path with
  | ok entry =>
      cases entry <;> cases source <;> simp
  | error fault =>
      cases source <;> simp

/--
Without a request the first candidate that passes the check of its place is found.  It
is the first file that may be run, and all places are reported exactly if there is none,
unless what is found is a directory.
-/
theorem first_usable_is_found_unless_directory :
    environment.FindsFirst environment.passes ∧
      (environment.FindsFirst environment.isUsable ↔
        ∀ found, environment.findInterpreter none = .ok found →
          environment.disk.find found.path ≠ .ok .directory) := by
  have findsPassing := environment.findsFirst_passes
  refine ⟨findsPassing, ?_⟩
  unfold FindsFirst at findsPassing ⊢
  constructor
  · intro findsUsable found isFound
    split at findsUsable
    · rename_i first isFirst
      obtain rfl : first = found := Except.ok.inj (findsUsable.symm.trans isFound)
      exact (environment.isUsable_eq_true_iff.mp (List.find?_some isFirst)).2
    · obtain ⟨attempts, fails, -⟩ := findsUsable
      rw [fails] at isFound
      cases isFound
  · intro noDirectory
    have refusedToo {candidate : FoundInterpreter}
        (refused : environment.passes candidate = false) :
        environment.isUsable candidate = false := by
      rw [← Bool.not_eq_true, environment.isUsable_eq_true_iff, refused]
      exact fun usable => Bool.false_ne_true usable.1
    split at findsPassing
    · rename_i first isFirst
      obtain ⟨isPassing, before, after, shape, earlier⟩ :=
        List.find?_eq_some_iff_append.mp isFirst
      have isUsable := environment.isUsable_eq_true_iff.mpr
        ⟨isPassing, noDirectory first findsPassing⟩
      have isFirstUsable : environment.candidates.find? environment.isUsable =
          some first :=
        List.find?_eq_some_iff_append.mpr ⟨isUsable, before, after, shape,
          fun candidate isEarlier => by
            simpa using refusedToo (by simpa using earlier candidate isEarlier)⟩
      rw [isFirstUsable]
      exact findsPassing
    · rename_i refused
      have noneUsable : environment.candidates.find? environment.isUsable = none := by
        rw [List.find?_eq_none] at refused ⊢
        intro candidate isCandidate
        simpa using refusedToo (by simpa using refused candidate isCandidate)
      rw [noneUsable]
      exact findsPassing

/-- A file that may not be run is passed over, and so is a directory on the search path. -/
theorem first_usable_is_found_unless_directory_of_layers :
    let environment : Environment :=
      { bindings := [("DOCSPEC_PYTHON", "notes"), ("VIRTUAL_ENV", "none")]
        searchPath := ["bin", "usr"]
        disk := ⟨[(["notes"], .file .empty false), (["bin"], .directory),
          (["bin", "python3"], .directory), (["usr"], .directory),
          (["usr", "python3"], .file .empty true)]⟩ }
    environment.findInterpreter none = .ok ⟨"usr/python3", .searchPath⟩ ∧
      environment.FindsFirst environment.isUsable := by
  intro environment
  have isFound : environment.findInterpreter none = .ok ⟨"usr/python3", .searchPath⟩ :=
    rfl
  have isUsable : environment.isUsable ⟨"usr/python3", .searchPath⟩ = true := by
    decide +kernel
  refine ⟨isFound, (first_usable_is_found_unless_directory environment).2.mpr ?_⟩
  intro found finds
  obtain rfl := Except.ok.inj (isFound.symm.trans finds)
  exact (environment.isUsable_eq_true_iff.mp isUsable).2

/-- A directory that the variable names hides the interpreter on the search path. -/
theorem directory_is_taken_for_interpreter :
    let environment : Environment :=
      { bindings := [("DOCSPEC_PYTHON", "tools")]
        searchPath := ["bin"]
        disk := ⟨[(["tools"], .directory), (["bin"], .directory),
          (["bin", "python3"], .file .empty true)]⟩ }
    environment.findInterpreter none = .ok ⟨"tools", .variable⟩ ∧
      environment.candidates.find? environment.isUsable =
        some ⟨"bin/python3", .searchPath⟩ ∧
      ¬ environment.FindsFirst environment.isUsable := by
  intro environment
  have isFound : environment.findInterpreter none = .ok ⟨"tools", .variable⟩ :=
    rfl
  have isFirst : environment.candidates.find? environment.isUsable =
      some ⟨"bin/python3", .searchPath⟩ := by
    decide +kernel
  refine ⟨isFound, isFirst, fun finds => ?_⟩
  rw [FindsFirst, isFirst, isFound] at finds
  exact absurd (Except.ok.inj finds) (by decide)

end Environment

end ApiTree.Interp
