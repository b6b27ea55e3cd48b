import ApiTree.Proofs.Convert.Walk

namespace ApiTree.Convert

open ApiTree.Decl
open ApiTree.Dump (ApiObject Facts)

/-!
# What objects do for their owner

An owner gets one member for each declaration among its objects, wrappers opened, and
the alternative signatures among them wait for these members, both in the order of the
dump.  What stands below an alias or below an alternative signature is never walked.
-/

mutual

/-- The objects that make members of the owner, in order. -/
def declaring : ApiObject → List ApiObject
  | .mk facts members =>
      match roleOf facts with
      | .wrapper => declaringAmong members
      | .declaration => [.mk facts members]
      | .typeAlias | .alternative => []

/-- The objects among several that make members of the owner, in order. -/
def declaringAmong : List ApiObject → List ApiObject
  | [] => []
  | first :: rest => declaring first ++ declaringAmong rest

end

mutual

/-- The alternative signatures that wait for members of the owner, in order. -/
def waiting : ApiObject → List Facts
  | .mk facts members =>
      match roleOf facts with
      | .wrapper => waitingAmong members
      | .alternative => [facts]
      | .typeAlias | .declaration => []

/-- The alternative signatures among several objects that wait, in order. -/
def waitingAmong : List ApiObject → List Facts
  | [] => []
  | first :: rest => waiting first ++ waitingAmong rest

end

mutual

/--
The alternative signatures that the walk comes to: all but those below an alias or
below another alternative signature.
-/
def reached : ApiObject → List Facts
  | .mk facts members =>
      match roleOf facts with
      | .wrapper | .declaration => reachedAmong members
      | .alternative => [facts]
      | .typeAlias => []

/-- The alternative signatures among several objects that the walk comes to. -/
def reachedAmong : List ApiObject → List Facts
  | [] => []
  | first :: rest => reached first ++ reachedAmong rest

end

theorem declaringAmong_append (first second : List ApiObject) :
    declaringAmong (first ++ second) =
      declaringAmong first ++ declaringAmong second := by
  induction first with
  | nil =>
      rfl
  | cons object rest inductionHypothesis =>
      simp [declaringAmong, inductionHypothesis]

theorem waitingAmong_append (first second : List ApiObject) :
    waitingAmong (first ++ second) =
      waitingAmong first ++ waitingAmong second := by
  induction first with
  | nil =>
      rfl
  | cons object rest inductionHypothesis =>
      simp [waitingAmong, inductionHypothesis]

end ApiTree.Convert
