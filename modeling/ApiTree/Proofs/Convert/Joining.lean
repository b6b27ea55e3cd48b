import ApiTree.Proofs.Convert.Overloads

namespace ApiTree.Convert

open ApiTree.Decl
open ApiTree.Dump (ApiObject Facts)

/-!
# The modules that alternative signatures join

Modules make no declarations, so all of them share the members of the project and what
waits for these.  An alternative signature joins the first member that suits it in the
order of the dump, whichever module made it.  If its own module makes one that suits, it
stays in its module unless an earlier module made one too.
-/

/-- That objects are others with wrappers opened in place. -/
inductive Unfolds (objects : List ApiObject) : List ApiObject → Prop where
  | refl : Unfolds objects objects
  | opens
      {before members after : List ApiObject}
      {facts : Facts}
      (unfolded : Unfolds objects (before ++ .mk facts members :: after))
      (isWrapper : roleOf facts = .wrapper) :
      Unfolds objects (before ++ members ++ after)

namespace Unfolds

variable
    {objects unfolded : List ApiObject}

/-- The same alternative signatures wait. -/
theorem waitingAmong_eq
    (unfolds : Unfolds objects unfolded) :
    waitingAmong unfolded = waitingAmong objects := by
  induction unfolds with
  | refl =>
      rfl
  | opens _ isWrapper inductionHypothesis =>
      rw [← inductionHypothesis]
      simp [waitingAmong_append, waitingAmong, waiting, isWrapper]

end Unfolds

/-- Whether a member is callable under the name of an alternative signature. -/
def suits
    (overload : Facts)
    (member : Declaration) :
    Bool :=
  member.kind.isCallable && member.name == overload.displayName

/-- That the member at a position is one that objects make, others being before them. -/
def MadeAt
    (earlier own : List ApiObject)
    (position : Nat) :
    Prop :=
  (declaringAmong earlier).length ≤ position ∧
    position < (declaringAmong earlier).length + (declaringAmong own).length

/-- The members that objects make, others being before them. -/
def madeBy
    (earlier own : List ApiObject)
    (owner : Declaration) :
    List Declaration :=
  (owner.children.drop (declaringAmong earlier).length).take
    (declaringAmong own).length

theorem exists_madeAt_of_mem
    {earlier own : List ApiObject}
    {owner member : Declaration}
    (isMade : member ∈ madeBy earlier own owner) :
    ∃ position, MadeAt earlier own position ∧
      owner.children[position]? = some member := by
  obtain ⟨index, inside, rfl⟩ := List.getElem_of_mem isMade
  simp only [madeBy, List.length_take, List.length_drop] at inside
  refine ⟨(declaringAmong earlier).length + index, ⟨by omega, by omega⟩, ?_⟩
  simp [madeBy]

/-- If some member suits an alternative signature, a first one does. -/
theorem exists_callablePosition?
    {members : List Declaration}
    {member : Declaration}
    {overload : Facts}
    (isMember : member ∈ members)
    (suitsMember : suits overload member = true) :
    ∃ position, callablePosition? overload.displayName members = some position := by
  refine Option.ne_none_iff_exists'.mp fun absent => ?_
  have doesNot := callablePosition?_eq_none_iff.mp absent member isMember
  exact doesNot (by simpa [suits] using suitsMember)

/-- What waits for a member has made one of its signatures. -/
theorem AccountsFor.exists_signature
    {objects : List ApiObject}
    {node joined : Declaration}
    {warnings : List String}
    {overload : Facts}
    {position : Nat}
    (accounts : AccountsFor objects node warnings)
    (waits : overload ∈ waitingAmong objects)
    (joins : joinsAt node.children position overload = true)
    (found : node.children[position]? = some joined) :
    ∃ signature ∈ joined.signatures, IsSignatureOf overload signature := by
  cases accounts with
  | intro parts _ childrenEq signed _ =>
      rw [childrenEq, List.getElem?_map, Option.map_eq_some_iff] at found
      obtain ⟨part, isPart, rfl⟩ := found
      obtain ⟨-, signatures⟩ := signed position part isPart
      have isSigner : overload ∈ ownSignature part.object.facts part.node ++
          (waitingAmong objects).filter (joinsAt node.children position) :=
        List.mem_append_right _ (List.mem_filter.mpr ⟨waits, joins⟩)
      obtain ⟨signature, isSignature, related⟩ :=
        exists_of_mem_right signatures.flip isSigner
      exact ⟨signature, isSignature, related⟩

/--
An alternative signature whose module makes a member that suits it joins the first
member of the project that does.  This is one of its own module if and only if no member
that was made before those of the module suits it.
-/
theorem overload_joins_own_module_iff
    {options : Options}
    {modules earlier members later : List ApiObject}
    {facts overload : Facts}
    (unfolds : Unfolds modules (earlier ++ .mk facts members :: later))
    (isModule : facts.isModule = true)
    (waits : overload ∈ waitingAmong members)
    (ownSuits : ∃ own ∈ madeBy earlier members (assemble options modules).1,
      suits overload own = true) :
    ∃ position joined,
      (assemble options modules).1.children[position]? = some joined ∧
        suits overload joined = true ∧
        (∀ other ∈ (assemble options modules).1.children.take position,
          suits overload other = false) ∧
        (∃ signature ∈ joined.signatures, IsSignatureOf overload signature) ∧
        (MadeAt earlier members position ↔
          ∀ other ∈ (assemble options modules).1.children.take
              (declaringAmong earlier).length,
            suits overload other = false) := by
  have isWrapper : roleOf facts = .wrapper := by
    simp [roleOf, isModule]
  have waitsInAll : overload ∈ waitingAmong modules := by
    rw [← unfolds.waitingAmong_eq, waitingAmong_append]
    simp [waitingAmong, waiting, isWrapper, waits]
  have accounts := accountsFor_assemble options modules
  obtain ⟨own, isOwn, suitsOwn⟩ := ownSuits
  generalize (assemble options modules).1 = root at accounts isOwn ⊢
  obtain ⟨ownPosition, ⟨-, ownEnd⟩, ownFound⟩ := exists_madeAt_of_mem isOwn
  obtain ⟨ownInside, rfl⟩ := List.getElem?_eq_some_iff.mp ownFound
  obtain ⟨position, joins⟩ :=
    exists_callablePosition? (List.getElem_mem ownInside) suitsOwn
  obtain ⟨inside, suitsJoined, earlierDoNot⟩ :=
    List.findIdx?_eq_some_iff_getElem.mp joins
  have noneBefore (bound : Nat) (notBeyond : bound ≤ position) :
      ∀ other ∈ root.children.take bound, suits overload other = false := by
    intro other isOther
    obtain ⟨index, isBefore, rfl⟩ := List.getElem_of_mem isOther
    rw [List.length_take] at isBefore
    simpa [suits] using earlierDoNot index (by omega)
  -- The first that suits is not behind the one that the module makes.
  have notBehind : position ≤ ownPosition := by
    refine Nat.le_of_not_lt fun isBefore => ?_
    exact earlierDoNot ownPosition isBefore suitsOwn
  refine ⟨position, root.children[position], List.getElem?_eq_getElem inside,
    suitsJoined, noneBefore position (Nat.le_refl _), ?_, ?_⟩
  · exact accounts.exists_signature waitsInAll (by simp [joinsAt, joins])
      (List.getElem?_eq_getElem inside)
  · constructor
    · rintro ⟨notEarlier, -⟩
      exact noneBefore _ notEarlier
    · intro noneEarlier
      refine ⟨Nat.le_of_not_lt fun isEarlier => ?_, by omega⟩
      have isTaken : root.children[position] ∈
          root.children.take (declaringAmong earlier).length :=
        List.mem_take_iff_getElem.mpr ⟨position, by omega, rfl⟩
      exact absurd suitsJoined (ne_true_of_eq_false (noneEarlier _ isTaken))

/-- A module with a function. -/
def alphaModule : ApiObject :=
  .mk { name := "alpha", tag := "module" } [.mk { name := "f", tag := "function" } []]

/-- Another signature of a function of the same name. -/
def signatureOfF : Facts :=
  { name := "f", tag := "function", decorators := [⟨"overload", none⟩] }

/-- The members of a module with such a function and another signature of it. -/
def betaMembers : List ApiObject :=
  [.mk { name := "f", tag := "function" } [], .mk signatureOfF []]

/-- The module of these members. -/
def betaModule : ApiObject :=
  .mk { name := "beta", tag := "module" } betaMembers

theorem waitingAmong_betaMembers :
    waitingAmong betaMembers = [signatureOfF] := by
  have isDeclaration : roleOf { name := "f", tag := "function" } = .declaration := by
    decide +kernel
  have isAlternative : roleOf signatureOfF = .alternative := by
    decide +kernel
  simp [betaMembers, waitingAmong, waiting, isDeclaration, isAlternative]

/-- If the other module comes later, the signature stays in its own. -/
theorem overload_joins_own_module_of_first :
    ∃ position joined,
      (assemble {} [betaModule, alphaModule]).1.children[position]? = some joined ∧
        (∃ signature ∈ joined.signatures, IsSignatureOf signatureOfF signature) ∧
        MadeAt [] betaMembers position := by
  have unfolds : Unfolds [betaModule, alphaModule]
      ([] ++ .mk { name := "beta", tag := "module" } betaMembers :: [alphaModule]) :=
    .refl
  have waits : signatureOfF ∈ waitingAmong betaMembers :=
    waitingAmong_betaMembers ▸ List.mem_singleton_self signatureOfF
  have ownSuits : ∃ own ∈ madeBy [] betaMembers
      (assemble {} [betaModule, alphaModule]).1, suits signatureOfF own = true := by
    decide +kernel
  obtain ⟨position, joined, found, -, -, isSigned, stays⟩ :=
    overload_joins_own_module_iff unfolds (by decide) waits ownSuits
  exact ⟨position, joined, found, isSigned, stays.mpr (List.forall_mem_nil _)⟩

/-- That alternative signatures stay in a module that makes a member that suits them. -/
def OverloadsStay
    (options : Options)
    (modules : List ApiObject) :
    Prop :=
  ∀ earlier facts members later,
    modules = earlier ++ .mk facts members :: later → facts.isModule = true →
      ∀ overload ∈ waitingAmong members, ∀ position,
        joinsAt (assemble options modules).1.children position overload = true →
          (∃ own ∈ madeBy earlier members (assemble options modules).1,
            suits overload own = true) →
          MadeAt earlier members position

/-- If the other module comes first, the signature joins the function there. -/
theorem overloads_leave_their_module :
    ¬ ∀ options modules, OverloadsStay options modules := by
  intro stay
  have left := stay {} [alphaModule, betaModule] [alphaModule] _ betaMembers [] rfl
    rfl signatureOfF (waitingAmong_betaMembers ▸ List.mem_singleton_self _) 0
    (by decide +kernel) (by decide +kernel)
  exact absurd left.1 (by decide +kernel)

end ApiTree.Convert
