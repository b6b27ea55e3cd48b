import ApiTree.Convert.Assembly

namespace ApiTree.Convert

open ApiTree.Decl
open ApiTree.Dump (ApiObject Argument Docstring Facts)

/-!
# Induction over the walk

The walk asks what an object is in a fixed order.  A module or a hidden object is a
wrapper, whose members move up.  Of the other objects, aliases are recorded,
alternative signatures are put aside, and the rest make declarations around what their
members make.  A relation between the states before and after that holds of each of
these steps holds of the whole walk.  It may say where the objects stand and what they
do, or leave either open.
-/

namespace Assembly

/-- An owner for the members of an object, its declaration made. -/
def opened
    (options : Options)
    (here : Site)
    (facts : Facts)
    (ownerKind : Kind)
    (assembly : Assembly) :
    Owner × Assembly :=
  let made :=
    assembly.declaration options here ownerKind facts (docstringAt here facts)
  ({ node := made.1 }, made.2)

/-- The owner of an object whose members are walked, the object entered. -/
def closed
    (usesGroups : Bool)
    (here : Site)
    (facts : Facts)
    (owner : Owner)
    (inside : Owner × Assembly) :
    Owner × Assembly :=
  let done := inside.2.complete facts (docstringAt here facts) inside.1
  ( { owner with
      node := (enterGroup usesGroups done.1 owner.node).addChild
        done.1.sortMembers },
    done.2 )

/-- The site of the members of an object. -/
def siteInside
    (here : Site)
    (facts : Facts)
    (node : Declaration) :
    Site :=
  if node.kind = .classDecl then
    { here with context := some (docstringAt here facts) }
  else
    here

end Assembly

/-- What holds of an object whenever it holds of its members holds of every object. -/
@[elab_as_elim]
theorem objectInduction
    {motive : ApiObject → Prop}
    (mk : ∀ facts members,
      (∀ member ∈ members, motive member) → motive (.mk facts members))
    (object : ApiObject) :
    motive object := by
  refine @ApiObject.rec motive (fun members => ∀ one ∈ members, motive one)
    mk ?_ ?_ object
  · intro one member
    cases member
  · intro first rest firstHolds restHolds one member
    rcases List.mem_cons.mp member with isFirst | inRest
    · exact isFirst ▸ firstHolds
    · exact restHolds one inRest

/-! ## Walking by roles -/

/-- What an object does for its owner. -/
inductive Role where
  /-- A module or a hidden object: its members move up. -/
  | wrapper
  | typeAlias
  /-- A signature that waits until the members of the owner are complete. -/
  | alternative
  | declaration
  deriving DecidableEq

/-- The role of an object. -/
def roleOf (facts : Facts) : Role :=
  if facts.isModule || facts.isHidden then .wrapper
  else if facts.isTypeAlias then .typeAlias
  else if facts.isOverload then .alternative
  else .declaration

/-- The site of the members of a wrapper that was entered. -/
def siteWithin
    (here : Site)
    (facts : Facts) :
    Site :=
  if facts.isModule then { here with moduleName := facts.name } else here

/-- What is no wrapper is neither a module nor hidden. -/
theorem not_wrapper
    {facts : Facts}
    (role : roleOf facts ≠ .wrapper) :
    facts.isModule = false ∧ facts.isHidden = false := by
  rw [← Bool.or_eq_false_iff, ← Bool.not_eq_true]
  intro isWrapper
  exact role (if_pos isWrapper)

section

variable
    (options : Options)
    (usesGroups : Bool)
    (site : Site)
    {facts : Facts}
    (members : List ApiObject)
    (owner : Owner)
    (assembly : Assembly)

/-- A wrapper makes what its members make. -/
theorem walk_wrapper
    (state : Owner × Assembly)
    (role : roleOf facts = .wrapper) :
    walk options usesGroups site (.mk facts members) state =
      walkAll options usesGroups (siteWithin (site.enter facts) facts) members
        state := by
  obtain ⟨owner, assembly⟩ := state
  by_cases isModule : facts.isModule = true
  · simp only [walk, siteWithin, isModule, ↓reduceIte]
  · have isHidden : facts.isHidden = true := by
      revert role
      simp only [roleOf, isModule]
      cases facts.isHidden <;> cases facts.isTypeAlias <;>
        cases facts.isOverload <;> decide
    simp only [walk, siteWithin, isModule, isHidden, Bool.false_eq_true, ↓reduceIte]

theorem walk_typeAlias
    (role : roleOf facts = .typeAlias) :
    walk options usesGroups site (.mk facts members) (owner, assembly) =
      (owner, assembly.addAlias facts) := by
  obtain ⟨notModule, notHidden⟩ := @not_wrapper facts (by rw [role]; decide)
  have isAlias : facts.isTypeAlias = true := by
    revert role
    simp only [roleOf, notModule, notHidden]
    cases facts.isTypeAlias <;> cases facts.isOverload <;> decide
  simp only [walk, notModule, notHidden, isAlias, Bool.false_eq_true, ↓reduceIte]

theorem walk_alternative
    (role : roleOf facts = .alternative) :
    walk options usesGroups site (.mk facts members) (owner, assembly) =
      ({ owner with overloads := owner.overloads ++ [facts] }, assembly) := by
  obtain ⟨notModule, notHidden⟩ := @not_wrapper facts (by rw [role]; decide)
  have isOverload : facts.isTypeAlias = false ∧ facts.isOverload = true := by
    revert role
    simp only [roleOf, notModule, notHidden]
    cases facts.isTypeAlias <;> cases facts.isOverload <;> decide
  simp only [walk, notModule, notHidden, isOverload, Bool.false_eq_true, ↓reduceIte]

/-- A declaration is opened, gets its members, and is closed. -/
theorem walk_declaration
    (role : roleOf facts = .declaration) :
    let here := site.enter facts
    let opened := assembly.opened options here facts owner.node.kind
    walk options usesGroups site (.mk facts members) (owner, assembly) =
      Assembly.closed usesGroups here facts owner
        (walkAll options usesGroups
          (Assembly.siteInside here facts opened.1.node) members opened) := by
  obtain ⟨notModule, notHidden⟩ := @not_wrapper facts (by rw [role]; decide)
  have isNeither : facts.isTypeAlias = false ∧ facts.isOverload = false := by
    revert role
    simp only [roleOf, notModule, notHidden]
    cases facts.isTypeAlias <;> cases facts.isOverload <;> decide
  simp only [walk, notModule, notHidden, isNeither, Bool.false_eq_true, ↓reduceIte]
  rfl

end

/-! ## Laws of the walk -/

/--
The steps that a relation between objects, where they stand, and the states before and
after their walk has to allow.
-/
structure SiteLaw
    (options : Options)
    (usesGroups : Bool)
    (relation :
      Site → List ApiObject → Owner × Assembly → Owner × Assembly → Prop) :
    Prop where
  nil : ∀ site state, relation site [] state state
  cons : ∀ site object rest first second third,
    relation site [object] first second → relation site rest second third →
      relation site (object :: rest) first third
  opens : ∀ site facts members before after,
    roleOf facts = .wrapper →
      relation (siteWithin (site.enter facts) facts) members before after →
        relation site [.mk facts members] before after
  addsAlias : ∀ site facts members owner assembly,
    roleOf facts = .typeAlias →
      relation site [.mk facts members] (owner, assembly)
        (owner, assembly.addAlias facts)
  waits : ∀ site facts members owner assembly,
    roleOf facts = .alternative →
      relation site [.mk facts members] (owner, assembly)
        ({ owner with overloads := owner.overloads ++ [facts] }, assembly)
  declares : ∀ site facts members owner assembly inside,
    roleOf facts = .declaration →
      let here := site.enter facts
      let opened := assembly.opened options here facts owner.node.kind
      relation (Assembly.siteInside here facts opened.1.node) members opened
          inside →
        relation site [.mk facts members] (owner, assembly)
          (Assembly.closed usesGroups here facts owner inside)

namespace SiteLaw

variable
    {options : Options}
    {usesGroups : Bool}
    {relation : Site → List ApiObject → Owner × Assembly → Owner × Assembly → Prop}

/-- What the walk of each object allows, the walk of several in a row allows. -/
theorem walkAll_of_each
    (law : SiteLaw options usesGroups relation)
    {objects : List ApiObject}
    (each : ∀ object ∈ objects, ∀ site state,
      relation site [object] state
        (Convert.walk options usesGroups site object state))
    (site : Site)
    (state : Owner × Assembly) :
    relation site objects state
      (Convert.walkAll options usesGroups site objects state) := by
  induction objects generalizing state with
  | nil =>
      exact law.nil site state
  | cons first rest inductionHypothesis =>
      exact law.cons _ _ _ _ _ _
        (each first List.mem_cons_self site state)
        (inductionHypothesis
          (fun object member => each object (List.mem_cons_of_mem _ member)) _)

theorem walk
    (law : SiteLaw options usesGroups relation)
    (object : ApiObject)
    (site : Site)
    (state : Owner × Assembly) :
    relation site [object] state
      (Convert.walk options usesGroups site object state) := by
  induction object using objectInduction generalizing site state with
  | mk facts members membersHold =>
      have inside (site : Site) (state : Owner × Assembly) :
          relation site members state
            (Convert.walkAll options usesGroups site members state) :=
        law.walkAll_of_each membersHold site state
      obtain ⟨owner, assembly⟩ := state
      cases role : roleOf facts with
      | wrapper =>
          rw [walk_wrapper options usesGroups site members _ role]
          exact law.opens _ _ _ _ _ role (inside _ _)
      | typeAlias =>
          rw [walk_typeAlias options usesGroups site members owner assembly role]
          exact law.addsAlias _ _ _ _ _ role
      | alternative =>
          rw [walk_alternative options usesGroups site members owner assembly role]
          exact law.waits _ _ _ _ _ role
      | declaration =>
          rw [walk_declaration options usesGroups site members owner assembly role]
          exact law.declares _ _ _ _ _ _ role (inside _ _)

/-- A relation that allows the steps allows the walk of several objects. -/
theorem walkAll
    (law : SiteLaw options usesGroups relation)
    (objects : List ApiObject)
    (site : Site)
    (state : Owner × Assembly) :
    relation site objects state
      (Convert.walkAll options usesGroups site objects state) :=
  law.walkAll_of_each (fun object _ => law.walk object) site state

end SiteLaw

/-- The steps that a relation has to allow if it does not say where objects stand. -/
structure RoleLaw
    (options : Options)
    (usesGroups : Bool)
    (relation :
      List ApiObject → Owner × Assembly → Owner × Assembly → Prop) :
    Prop where
  nil : ∀ state, relation [] state state
  cons : ∀ object rest first second third,
    relation [object] first second → relation rest second third →
      relation (object :: rest) first third
  opens : ∀ facts members before after,
    roleOf facts = .wrapper →
      relation members before after → relation [.mk facts members] before after
  addsAlias : ∀ facts members owner assembly,
    roleOf facts = .typeAlias →
      relation [.mk facts members] (owner, assembly)
        (owner, assembly.addAlias facts)
  waits : ∀ facts members owner assembly,
    roleOf facts = .alternative →
      relation [.mk facts members] (owner, assembly)
        ({ owner with overloads := owner.overloads ++ [facts] }, assembly)
  declares : ∀ here facts members owner assembly inside,
    roleOf facts = .declaration →
      relation members (assembly.opened options here facts owner.node.kind)
          inside →
        relation [.mk facts members] (owner, assembly)
          (Assembly.closed usesGroups here facts owner inside)

namespace RoleLaw

variable
    {options : Options}
    {usesGroups : Bool}
    {relation : List ApiObject → Owner × Assembly → Owner × Assembly → Prop}

/-- Such a relation allows the steps wherever objects stand. -/
theorem siteLaw
    (law : RoleLaw options usesGroups relation) :
    SiteLaw options usesGroups fun _ => relation where
  nil _ := law.nil
  cons _ := law.cons
  opens _ := law.opens
  addsAlias _ := law.addsAlias
  waits _ := law.waits
  declares site facts := law.declares (site.enter facts) facts

/-- A relation that allows the steps allows the walk of several objects. -/
theorem walkAll
    (law : RoleLaw options usesGroups relation)
    (objects : List ApiObject)
    (site : Site)
    (state : Owner × Assembly) :
    relation objects state
      (Convert.walkAll options usesGroups site objects state) :=
  law.siteLaw.walkAll objects site state

end RoleLaw

/-- The steps that a relation has to allow if it does not say what objects do either. -/
structure WalkLaw
    (options : Options)
    (usesGroups : Bool)
    (relation : Owner × Assembly → Owner × Assembly → Prop) :
    Prop where
  refl : ∀ state, relation state state
  trans : ∀ first second third,
    relation first second → relation second third → relation first third
  addsAlias : ∀ owner assembly facts,
    relation (owner, assembly) (owner, assembly.addAlias facts)
  waits : ∀ owner assembly facts,
    relation (owner, assembly)
      ({ owner with overloads := owner.overloads ++ [facts] }, assembly)
  declares : ∀ here facts owner assembly inside,
    relation (assembly.opened options here facts owner.node.kind) inside →
      relation (owner, assembly)
        (Assembly.closed usesGroups here facts owner inside)

namespace WalkLaw

variable
    {options : Options}
    {usesGroups : Bool}
    {relation : Owner × Assembly → Owner × Assembly → Prop}

/-- Such a relation allows the steps whatever the objects do. -/
theorem roleLaw
    (law : WalkLaw options usesGroups relation) :
    RoleLaw options usesGroups fun _ => relation where
  nil := law.refl
  cons _ _ := law.trans
  opens _ _ _ _ _ inside := inside
  addsAlias facts _ owner assembly _ := law.addsAlias owner assembly facts
  waits facts _ owner assembly _ := law.waits owner assembly facts
  declares here facts _ owner assembly inside _ :=
    law.declares here facts owner assembly inside

/-- A relation that allows the steps allows the walk of several objects. -/
theorem walkAll
    (law : WalkLaw options usesGroups relation)
    (objects : List ApiObject)
    (site : Site)
    (state : Owner × Assembly) :
    relation state (Convert.walkAll options usesGroups site objects state) :=
  law.roleLaw.walkAll objects site state

end WalkLaw

end ApiTree.Convert
