import ApiTree.Files.Disk
import Mathlib.Data.List.Basic

namespace ApiTree.Files.Disk

/-!
# Files that are moved to their place

What is stored at a place is found there, and everything else is found as before.  A
path still leads where it led, because a file is only moved to a place that is no
directory, and every place that a path passes through is one.
-/

variable
    {disk : Disk}
    {place : Place}
    {entry : Entry}

/-! ## Storing at a place -/

theorem lookup_filter_ne
    {other : Place}
    (different : other ≠ place)
    (entries : List (Place × Entry)) :
    (entries.filter (·.1 != place)).lookup other = entries.lookup other := by
  induction entries with
  | nil => rfl
  | cons first rest inductionHypothesis =>
      by_cases isPlace : first.1 = place
      · have notOther : (other == first.1) = false :=
          beq_eq_false_iff_ne.mpr (isPlace ▸ different)
        rw [List.filter_cons_of_neg (by simp [isPlace]), inductionHypothesis,
          List.lookup_cons, notOther]
      · rw [List.filter_cons_of_pos (by simp [isPlace]), List.lookup_cons,
          List.lookup_cons, inductionHypothesis]

/-- At every other place is what was there before. -/
theorem entry?_put_of_ne
    {other : Place}
    (different : other ≠ place) :
    entry? (disk.put place entry) other = disk.entry? other := by
  have notOther : (other == place) = false := beq_eq_false_iff_ne.mpr different
  rw [ entry?, entry?, put, List.lookup_cons, notOther, lookup_filter_ne different]

/-- At the place is what was stored there, unless a path may start there. -/
theorem entry?_put_self
    (notStart : isStart place = false) :
    entry? (disk.put place entry) place = some entry := by
  simp [ entry?, put, notStart]

/-- Directories stay where they are when something is stored elsewhere. -/
theorem entry?_put_of_directory
    {other : Place}
    (notDirectory : disk.entry? place ≠ some .directory)
    (isDirectory : disk.entry? other = some .directory) :
    entry? (disk.put place entry) other = some .directory := by
  rw [entry?_put_of_ne, isDirectory]
  rintro rfl
  exact notDirectory isDirectory

/-! ## Following a path -/

/-- A name below a directory that a path leads to is one step further. -/
theorem follow_append
    {other : Disk}
    {parts : List String}
    {directory : Place}
    {last : String}
    (isName : last ≠ "." ∧ last ≠ parentName)
    (fits : ¬ nameLimit < last.utf8ByteSize)
    (agree : ∀ one, disk.entry? one = some .directory →
      other.entry? one = some .directory)
    (followed : disk.follow place parts = .ok directory)
    (isDirectory : disk.entry? directory = some .directory) :
    other.follow place (parts ++ [last]) = .ok (directory ++ [last]) := by
  induction parts generalizing place with
  | nil =>
      cases followed
      simp [follow, isName, fits]
  | cons part rest inductionHypothesis =>
      simp only [follow] at followed
      split at followed
      · cases followed
      · rename_i partFits
        rw [List.cons_append, follow, if_neg partFits, if_neg (by simp)]
        split at followed
        · -- The part leads to the directory itself.
          rename_i noRest
          obtain rfl := List.isEmpty_iff.mp noRest
          cases followed
          simp only [agree _ isDirectory]
          simp [follow, isName, fits]
        · split at followed
          · rename_i nextDirectory
            simp only [agree _ nextDirectory]
            exact inductionHypothesis followed
          · cases followed
          · cases followed

/-- What it takes to be the place that a file may be moved to. -/
structure IsDestination
    (disk : Disk)
    (path : String)
    (place : Place) :
    Prop where
  readable : pathFault? path = none
  isFile : endsInSlash path = false
  notDirectory : disk.entry? place ≠ some .directory
  leads : ∀ other : Disk,
    (∀ one, disk.entry? one = some .directory → other.entry? one = some .directory) →
      other.follow (startOf path) (pathParts path) = .ok place

/-- A directory that the parts of a path lead to. -/
theorem directoryAt_eq_ok
    {path : String}
    {parts : List String}
    {directory : Place}
    (found : disk.directoryAt path parts = .ok directory) :
    disk.follow (startOf path) parts = .ok directory ∧
      disk.entry? directory = some .directory := by
  rw [directoryAt] at found
  cases followed : disk.follow (startOf path) parts with
  | error fault =>
      rw [followed] at found
      cases found
  | ok place =>
      simp only [followed, bind, Except.bind] at found
      split at found
      · rename_i isDirectory
        cases found
        exact ⟨rfl, isDirectory⟩
      · cases found
      · cases found

/-- A place that a file may be moved to is the one that the path leads to. -/
theorem isDestination
    {path : String}
    (found : disk.destination path = .ok place) :
    disk.IsDestination path place := by
  rw [destination] at found
  cases fault : pathFault? path with
  | some fault =>
      rw [fault] at found
      cases found
  | none =>
      simp only [fault, bind, Except.bind] at found
      split at found
      · cases found
      rename_i directory isDirectory
      obtain ⟨followed, directoryHere⟩ := directoryAt_eq_ok isDirectory
      split at found
      · cases found
      rename_i last isLast
      split at found
      · cases found
      rename_i isName
      split at found
      · cases found
      rename_i fits
      split at found
      · cases found
      rename_i isFile
      split at found
      · cases found
      rename_i notDirectory
      cases found
      have parts : (pathParts path).dropLast ++ [last] = pathParts path :=
        List.dropLast_append_getLast? last isLast
      refine ⟨fault, Bool.eq_false_iff.mpr isFile, notDirectory, ?_⟩
      intro other agree
      rw [← parts]
      exact follow_append (not_or.mp isName) fits agree followed directoryHere

/-- A file that was moved to a path is found there. -/
theorem find_put
    {path : String}
    {content : ByteArray}
    {isExecutable : Bool}
    (found : disk.destination path = .ok place) :
    (disk.put place (.file content isExecutable)).find path =
      .ok (.file content isExecutable) := by
  obtain ⟨readable, isFile, notDirectory, leads⟩ := isDestination found
  have notStart : isStart place = false := by
    refine Bool.eq_false_iff.mpr fun starts => notDirectory ?_
    rw [ entry?, if_pos starts]
  have located : (disk.put place (.file content isExecutable)).locate path =
      .ok place := by
    rw [locate, readable]
    exact leads _ fun _ => entry?_put_of_directory notDirectory
  rw [find, located]
  simp [bind, Except.bind, entry?_put_self notStart, isFile]

/-- A text that was moved to a path is read there. -/
theorem readText_put
    {path text : String}
    {isExecutable : Bool}
    (found : disk.destination path = .ok place) :
    (disk.put place (.file text.toUTF8 isExecutable)).readText path = .ok text := by
  have isText : String.fromUTF8? text.toUTF8 = some text := dif_pos text.isValidUTF8
  rw [readText, readBytes, find_put found]
  simp only [bind, Except.bind, isText]

end ApiTree.Files.Disk
