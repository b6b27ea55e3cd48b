import ApiTree.Convert.Conversion
import ApiTree.Proofs.Convert.Roles

namespace ApiTree.Dump

/-!
# Hidden objects without their wrapper

A hidden object hands the walk of its members on as it is: the owner, the module and
the docstring around it stay what they are, and its file is that of the members that
have none.  So with the members in its place, such members given its file, a conversion
has the same result.
-/

/-- The facts with another file. -/
def Facts.withFile
    (file : String)
    (facts : Facts) :
    Facts :=
  { facts with location := { facts.location with file := file } }

/-- The facts of an object in a file that counts if the object has none of its own. -/
def Facts.inFile
    (file : String)
    (facts : Facts) :
    Facts :=
  if facts.location.file.isEmpty then facts.withFile file else facts

/-- The object in a file that counts if it has none of its own. -/
def ApiObject.inFile
    (file : String) :
    ApiObject → ApiObject
  | .mk facts members => .mk (facts.inFile file) members

theorem Facts.exists_inFile_eq
    (file : String)
    (facts : Facts) :
    ∃ other, facts.inFile file = facts.withFile other := by
  rw [inFile]
  split
  · exact ⟨file, rfl⟩
  · exact ⟨facts.location.file, rfl⟩

end ApiTree.Dump

namespace ApiTree.Convert

open ApiTree.Decl
open ApiTree.Dump (ApiObject Docstring Facts)
open ApiTree.Interp (TypeParser)

/-- Entering a member of what was entered is entering the member in the file of that. -/
theorem enter_inFile
    (site : Site)
    (around facts : Facts) :
    (site.enter around).enter facts =
      site.enter (facts.inFile around.location.file) := by
  by_cases ownMissing : facts.location.file.isEmpty = true <;>
    by_cases outerMissing : around.location.file.isEmpty = true <;>
      simp [Site.enter, Facts.inFile, Facts.withFile, ownMissing, outerMissing]

/-! ## States that differ in files of what waits -/

/-- That two states are the same but for files of the alternative signatures that wait. -/
structure SameButFiles (first second : Owner × Assembly) : Prop where
  node_eq : second.1.node = first.1.node
  overloads_eq : second.1.overloads.map (Facts.withFile "") =
    first.1.overloads.map (Facts.withFile "")
  assembly_eq : second.2 = first.2

namespace SameButFiles

variable
    {first second : Owner × Assembly}

theorem refl (state : Owner × Assembly) : SameButFiles state state :=
  ⟨rfl, rfl, rfl⟩

/-- Where an alternative signature was found is no matter when it joins. -/
theorem mergeOverloads_map
    (overloads : List Facts)
    (node : Declaration)
    (assembly : Assembly) :
    assembly.mergeOverloads (overloads.map (Facts.withFile "")) node =
      assembly.mergeOverloads overloads node := by
  induction overloads generalizing node assembly with
  | nil =>
      rfl
  | cons overload rest inductionHypothesis =>
      exact inductionHypothesis (assembly.mergeOverload node overload).1
        (assembly.mergeOverload node overload).2

/-- From states that are alike the same is merged. -/
theorem mergeOverloads_eq
    (alike : SameButFiles first second)
    (based : Assembly) :
    based.mergeOverloads second.1.overloads second.1.node =
      based.mergeOverloads first.1.overloads first.1.node := by
  rw [← mergeOverloads_map, alike.overloads_eq, mergeOverloads_map, alike.node_eq]

/-- From states that are alike the same declaration is completed. -/
theorem complete_eq
    (alike : SameButFiles first second)
    (facts : Facts)
    (docstring : Docstring) :
    second.2.complete facts docstring second.1 =
      first.2.complete facts docstring first.1 := by
  simp only [Assembly.complete, alike.mergeOverloads_eq]
  rw [alike.node_eq, alike.assembly_eq]

/-- An object that is closed makes owners that were alike alike again. -/
theorem closed
    {owner other : Owner}
    {assembly : Assembly}
    (owners : SameButFiles (owner, assembly) (other, assembly))
    (inside : SameButFiles first second)
    (usesGroups : Bool)
    (here : Site)
    (facts : Facts) :
    SameButFiles (Assembly.closed usesGroups here facts owner first)
      (Assembly.closed usesGroups here facts other second) := by
  have completed := inside.complete_eq facts (docstringAt here facts)
  have nodeEq : other.node = owner.node := owners.node_eq
  refine ⟨?_, owners.overloads_eq, ?_⟩
  · simp only [Assembly.closed, completed, nodeEq]
  · simp only [Assembly.closed, completed]

end SameButFiles

/-! ## The walk -/

theorem walkAll_append
    (options : Options)
    (usesGroups : Bool)
    (site : Site)
    (front back : List ApiObject)
    (state : Owner × Assembly) :
    walkAll options usesGroups site (front ++ back) state =
      walkAll options usesGroups site back
        (walkAll options usesGroups site front state) := by
  induction front generalizing state with
  | nil =>
      rfl
  | cons object rest inductionHypothesis =>
      exact inductionHypothesis _

section

variable
    (options : Options)
    (usesGroups : Bool)

/-- That objects do the same as others at some site, whatever states that are alike. -/
def WalkAlike
    (objects others : List ApiObject) :
    Prop :=
  ∀ site first second, SameButFiles first second →
    SameButFiles (walkAll options usesGroups site objects first)
      (walkAll options usesGroups site others second)

variable
    {options usesGroups}

/--
An object does the same as another one if the two differ in their files only, these lead
to the same site, and their members do the same.
-/
theorem sameButFiles_walk
    {facts : Facts}
    {members others : List ApiObject}
    {site otherSite : Site}
    {file : String}
    {first second : Owner × Assembly}
    (same_here : otherSite.enter (facts.withFile file) = site.enter facts)
    (membersAlike : WalkAlike options usesGroups members others)
    (alike : SameButFiles first second) :
    SameButFiles (walk options usesGroups site (.mk facts members) first)
      (walk options usesGroups otherSite (.mk (facts.withFile file) others)
        second) := by
  obtain ⟨owner, assembly⟩ := first
  obtain ⟨other, otherAssembly⟩ := second
  obtain rfl : assembly = otherAssembly := alike.assembly_eq.symm
  -- What an object does for its owner has nothing to do with its file.
  have otherRole : roleOf (facts.withFile file) = roleOf facts := rfl
  cases role : roleOf facts with
  | wrapper =>
      rw [role] at otherRole
      rw [walk_wrapper _ _ _ _ _ role, walk_wrapper _ _ _ _ _ otherRole, same_here]
      exact membersAlike _ _ _ alike
  | typeAlias =>
      rw [role] at otherRole
      rw [walk_typeAlias _ _ _ _ _ _ role, walk_typeAlias _ _ _ _ _ _ otherRole]
      exact ⟨alike.node_eq, alike.overloads_eq, rfl⟩
  | alternative =>
      rw [role] at otherRole
      rw [walk_alternative _ _ _ _ _ _ role,
        walk_alternative _ _ _ _ _ _ otherRole]
      refine ⟨alike.node_eq, ?_, rfl⟩
      rw [List.map_append, List.map_append, alike.overloads_eq]
      rfl
  | declaration =>
      rw [role] at otherRole
      have sameNode : other.node = owner.node := alike.node_eq
      rw [walk_declaration _ _ _ _ _ _ role, walk_declaration _ _ _ _ _ _ otherRole,
        same_here, sameNode]
      exact alike.closed (membersAlike _ _ _ (.refl _)) usesGroups _ facts

namespace WalkAlike

variable
    {objects others firstObjects firstOthers : List ApiObject}

theorem nil : WalkAlike options usesGroups [] [] :=
  fun _ _ _ alike => alike

theorem cons
    {object other : ApiObject}
    (headAlike : ∀ site first second, SameButFiles first second →
      SameButFiles (walk options usesGroups site object first)
        (walk options usesGroups site other second))
    (restAlike : WalkAlike options usesGroups objects others) :
    WalkAlike options usesGroups (object :: objects) (other :: others) :=
  fun site _ _ alike => restAlike site _ _ (headAlike site _ _ alike)

/-- What objects do depends on no file of what waits. -/
theorem refl (objects : List ApiObject) :
    WalkAlike options usesGroups objects objects := by
  have each (object : ApiObject) (site : Site) (first second : Owner × Assembly)
      (alike : SameButFiles first second) :
      SameButFiles (walk options usesGroups site object first)
        (walk options usesGroups site object second) := by
    induction object using objectInduction generalizing site first second with
    | mk facts members membersHold =>
        have membersAlike : WalkAlike options usesGroups members members := by
          clear alike
          induction members with
          | nil =>
              exact nil
          | cons object rest inductionHypothesis =>
              obtain ⟨headHolds, restHold⟩ := List.forall_mem_cons.mp membersHold
              exact cons headHolds (inductionHypothesis restHold)
        exact sameButFiles_walk rfl membersAlike alike
  induction objects with
  | nil =>
      exact nil
  | cons object rest inductionHypothesis =>
      exact cons (each object) inductionHypothesis

theorem append
    (frontAlike : WalkAlike options usesGroups firstObjects firstOthers)
    (backAlike : WalkAlike options usesGroups objects others) :
    WalkAlike options usesGroups (firstObjects ++ objects)
      (firstOthers ++ others) := by
  intro site first second alike
  rw [walkAll_append, walkAll_append]
  exact backAlike site _ _ (frontAlike site _ _ alike)

/-- Members that are entered behind an object do what they do in the file of it. -/
theorem walkAll_enter
    (site : Site)
    (around : Facts)
    (members : List ApiObject)
    {first second : Owner × Assembly}
    (alike : SameButFiles first second) :
    SameButFiles (walkAll options usesGroups (site.enter around) members first)
      (walkAll options usesGroups site
        (members.map (ApiObject.inFile around.location.file)) second) := by
  induction members generalizing first second with
  | nil =>
      exact alike
  | cons object rest inductionHypothesis =>
      refine inductionHypothesis ?_
      cases object with
      | mk facts inner =>
          obtain ⟨file, movedEq⟩ := facts.exists_inFile_eq around.location.file
          have sameHere : site.enter (facts.withFile file) =
              (site.enter around).enter facts := by
            rw [← movedEq, enter_inFile]
          rw [ApiObject.inFile, movedEq]
          exact sameButFiles_walk sameHere (refl inner) alike

/-- A hidden object does what its members do in its file. -/
theorem unwrap
    {facts : Facts}
    (members : List ApiObject)
    (isHidden : facts.isHidden = true)
    (notModule : facts.isModule = false) :
    WalkAlike options usesGroups [.mk facts members]
      (members.map (ApiObject.inFile facts.location.file)) := by
  intro site first second alike
  have role : roleOf facts = .wrapper := by
    simp [roleOf, isHidden]
  have within : siteWithin (site.enter facts) facts = site.enter facts := by
    simp [siteWithin, notModule]
  rw [walkAll, walkAll, walk_wrapper _ _ _ _ _ role, within]
  exact walkAll_enter site facts members alike

end WalkAlike

end

/-! ## Taking a hidden object away -/

/--
That objects are others with a hidden object, anywhere among or below them, replaced by
its members in its file.  The hidden object names no group.
-/
inductive Unwraps : List ApiObject → List ApiObject → Prop where
  | here
      (before after : List ApiObject)
      {facts : Facts}
      {members : List ApiObject}
      (isHidden : facts.isHidden = true)
      (notModule : facts.isModule = false)
      (otherName : facts.name ≠ groupDecorator)
      (undecorated : facts.hasDecorator groupDecorator = false) :
      Unwraps (before ++ .mk facts members :: after)
        (before ++ (members.map (ApiObject.inFile facts.location.file) ++ after))
  | inside
      (before after : List ApiObject)
      (facts : Facts)
      {members replaced : List ApiObject}
      (unwraps : Unwraps members replaced) :
      Unwraps (before ++ .mk facts members :: after)
        (before ++ .mk facts replaced :: after)

theorem anyMentions_append
    (name : String)
    (front back : List ApiObject) :
    ApiObject.anyMentions name (front ++ back) =
      (ApiObject.anyMentions name front || ApiObject.anyMentions name back) := by
  induction front with
  | nil =>
      rfl
  | cons object rest inductionHypothesis =>
      simp only [List.cons_append, ApiObject.anyMentions, inductionHypothesis,
        Bool.or_assoc]

/-- What objects mention has nothing to do with files. -/
theorem anyMentions_map_inFile
    (name file : String)
    (objects : List ApiObject) :
    ApiObject.anyMentions name (objects.map (ApiObject.inFile file)) =
      ApiObject.anyMentions name objects := by
  induction objects with
  | nil =>
      rfl
  | cons object rest inductionHypothesis =>
      have same : (object.inFile file).mentions name = object.mentions name := by
        cases object with
        | mk facts members =>
            obtain ⟨other, movedEq⟩ := facts.exists_inFile_eq file
            rw [ApiObject.inFile, movedEq]
            rfl
      simp only [List.map_cons, ApiObject.anyMentions, same, inductionHypothesis]

namespace Unwraps

variable
    {objects replaced : List ApiObject}

/-- The objects that are left name a group if and only if one did. -/
theorem anyMentions_eq
    (unwraps : Unwraps objects replaced) :
    ApiObject.anyMentions groupDecorator replaced =
      ApiObject.anyMentions groupDecorator objects := by
  induction unwraps with
  | @here before after facts members isHidden notModule otherName undecorated =>
      have unnamed : (facts.name == groupDecorator) = false :=
        beq_eq_false_iff_ne.mpr otherName
      simp [anyMentions_append, anyMentions_map_inFile, ApiObject.anyMentions,
        ApiObject.mentions, unnamed, undecorated]
  | inside before after facts unwraps inductionHypothesis =>
      simp [anyMentions_append, ApiObject.anyMentions, ApiObject.mentions,
        inductionHypothesis]

/-- The objects that are left do what all did. -/
theorem walkAlike
    (options : Options)
    (usesGroups : Bool)
    (unwraps : Unwraps objects replaced) :
    WalkAlike options usesGroups objects replaced := by
  induction unwraps with
  | here before after isHidden notModule otherName undecorated =>
      exact .append (.refl before)
        (.append (.unwrap _ isHidden notModule) (.refl after))
  | inside before after facts unwraps membersAlike =>
      refine .append (.refl before) (.cons ?_ (.refl after))
      intro site first second alike
      exact sameButFiles_walk rfl membersAlike alike

/-- The same declarations are made. -/
theorem assemble_eq
    (options : Options)
    (unwraps : Unwraps objects replaced) :
    assemble options replaced = assemble options objects := by
  have alike :=
    unwraps.walkAlike options (ApiObject.anyMentions groupDecorator objects) {}
      ({ node := emptyRoot options }, {}) _ (.refl _)
  simp only [assemble, unwraps.anyMentions_eq]
  rw [alike.mergeOverloads_eq, alike.assembly_eq]

end Unwraps

/--
Hidden objects are transparent.  A conversion of modules has the same result, be it an
error or the project with its warnings and counts, if somewhere below one of them a
hidden object that is no module and names no group is replaced by its members, those
without a file being given its file.
-/
theorem convertModules_unwrap
    {members replaced : List ApiObject}
    (unwraps : Unwraps members replaced)
    (options : Options)
    (parser : TypeParser)
    (before after : List ApiObject)
    (facts : Facts) :
    convertModules options parser (before ++ .mk facts replaced :: after) =
      convertModules options parser (before ++ .mk facts members :: after) := by
  have sameAssembled := (Unwraps.inside before after facts unwraps).assemble_eq options
  simp only [convertModules, sameAssembled, List.length_append, List.length_cons]

/-- A hidden class with another signature of a method of the class around it. -/
def hiddenFacts : Facts :=
  { name := "Typing", tag := "class", location := { file := "typing.py" }
    decorators := [⟨"ignore_docs", none⟩] }

/-- The signature in it. -/
def hiddenSignature : ApiObject :=
  .mk { name := "open", tag := "function", decorators := [⟨"overload", none⟩] } []

/-- The class around it. -/
def storageWith (inside : List ApiObject) : ApiObject :=
  .mk { name := "Storage", tag := "class" }
    (.mk { name := "open", tag := "function" } [] :: inside)

/-- The hidden class may be left out if its signature gets its file. -/
theorem convertModules_unwrap_hidden_class :
    convertModules {} TypeParser.silent
        [.mk { name := "io", tag := "module" }
          [storageWith [hiddenSignature.inFile "typing.py"]]] =
      convertModules {} TypeParser.silent
        [.mk { name := "io", tag := "module" }
          [storageWith [.mk hiddenFacts [hiddenSignature]]]] := by
  have isHidden : hiddenFacts.isHidden = true := by decide +kernel
  have unwraps : Unwraps [storageWith [.mk hiddenFacts [hiddenSignature]]]
      [storageWith [hiddenSignature.inFile "typing.py"]] :=
    .inside [] [] _ (.here [_] [] isHidden (by decide) (by decide) (by decide))
  exact convertModules_unwrap unwraps {} TypeParser.silent [] [] _

end ApiTree.Convert
