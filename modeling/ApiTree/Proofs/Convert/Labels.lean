import ApiTree.Proofs.Convert.Composition
import ApiTree.Proofs.Convert.Documentation
import ApiTree.Proofs.Convert.RootGroups
import ApiTree.Proofs.Convert.Sources
import ApiTree.Proofs.Decl.Alike
import ApiTree.Proofs.Text.Trimming

namespace ApiTree.Convert

open ApiTree.Decl
open ApiTree.Dump (ApiObject Facts)
open ApiTree.Interp (TypeParser)

/-!
# Module labels

A declaration is labelled by its module, or by the shortcut for its module and its own
name if there is one.  The walk asks for shortcuts at every depth and looks at nothing
but the two names.  So the declarations inside others keep the name of their module only
as long as no shortcut for a symbol of the module has the name of one of them.
-/

/-! ## Shortcuts -/

/--
That a dotted path exports a name from a module: the module stands before the name, or
it is the path itself if that does not end with the name.
-/
def ExportedFrom (path name label : String) : Prop :=
  path = label ++ "." ++ name ∨
    path = label ∧ ∀ front, path ≠ front ++ "." ++ name

/-- What label the shortcuts give a name in a module. -/
inductive LabelledBy
    (shortcuts : List (String × String))
    (moduleName name : String) :
    Option String → Prop where
  /-- Outside of modules nothing has a label. -/
  | outside
      (unnamed : moduleName = "") :
      LabelledBy shortcuts moduleName name none
  | ownModule
      (named : moduleName ≠ "")
      (noShortcut : shortcuts.lookup (moduleName ++ "." ++ name) = none) :
      LabelledBy shortcuts moduleName name (some moduleName)
  | shortcut
      {path label : String}
      (named : moduleName ≠ "")
      (isShortcut : shortcuts.lookup (moduleName ++ "." ++ name) = some path)
      (exported : ExportedFrom path name label) :
      LabelledBy shortcuts moduleName name (some label)

/-- A path exports a name from one module only. -/
theorem ExportedFrom.unique
    {path name label other : String}
    (exported : ExportedFrom path name label)
    (exportedToo : ExportedFrom path name other) :
    label = other := by
  rcases exported with isFront | ⟨isPath, notFront⟩
  · rcases exportedToo with isFrontToo | ⟨-, notFront⟩
    · have same := congrArg String.toList (isFront.symm.trans isFrontToo)
      simp only [String.toList_append, List.append_cancel_right_eq] at same
      exact String.toList_injective same
    · exact (notFront label isFront).elim
  · rcases exportedToo with isFront | ⟨isPathToo, -⟩
    · exact (notFront other isFront).elim
    · exact isPath.symm.trans isPathToo

/-- The walk gives the label that the shortcuts give. -/
theorem labelledBy_moduleLabel
    (options : Options)
    (site : Site)
    (name : String) :
    LabelledBy options.shortcuts site.moduleName name (moduleLabel options site name) := by
  unfold moduleLabel
  split
  · rename_i isEmpty
    exact .outside (by simpa using isEmpty)
  · rename_i notEmpty
    have named : site.moduleName ≠ "" := by simpa using notEmpty
    split
    · rename_i noShortcut
      exact .ownModule named noShortcut
    · rename_i path isShortcut
      refine .shortcut named isShortcut ?_
      have fronts (front : String) : path = front ++ "." ++ name ↔
          Text.dropEnd? ("." ++ name).toList path.toList = some front.toList := by
        rw [Text.dropEnd?_eq_some_iff, ← String.toList_append, String.toList_inj,
          String.append_assoc]
      split
      · rename_i chars isFront
        refine .inl ((fronts _).mpr ?_)
        rw [isFront, String.toList_ofList]
      · rename_i noFront
        refine .inr ⟨rfl, fun front isFront => ?_⟩
        rw [(fronts front).mp isFront] at noFront
        cases noFront

/-- The label of a declaration that no shortcut relabels. -/
def ownLabel (moduleName : String) : Option String :=
  if moduleName = "" then none else some moduleName

/-- A shortcut keeps the label of a module exactly if it exports the name from there. -/
theorem LabelledBy.eq_ownLabel_iff
    {shortcuts : List (String × String)}
    {moduleName name : String}
    {label : Option String}
    (labelled : LabelledBy shortcuts moduleName name label) :
    label = ownLabel moduleName ↔
      (moduleName ≠ "" → ∀ path,
        shortcuts.lookup (moduleName ++ "." ++ name) = some path →
          ExportedFrom path name moduleName) := by
  cases labelled with
  | outside unnamed =>
      simp [ownLabel, unnamed]
  | ownModule named noShortcut =>
      simp [ownLabel, named, noShortcut]
  | shortcut named isShortcut exported =>
      rw [ownLabel, if_neg named, Option.some.injEq]
      constructor
      · rintro rfl - path isPath
        obtain rfl := Option.some.inj (isShortcut.symm.trans isPath)
        exact exported
      · intro keeps
        exact exported.unique (keeps named _ isShortcut)

/-! ## Declarations in order -/

/-- A declaration that the walk makes: of which object, where, and whether inside another. -/
structure Emitted where
  nested : Bool
  moduleName : String
  facts : Facts

mutual

/-- The declarations that an object makes in a module, in the order of the walk. -/
def emitted (nested : Bool) (moduleName : String) : ApiObject → List Emitted
  | .mk facts members =>
      match roleOf facts with
      | .wrapper =>
          emittedAmong nested (if facts.isModule then facts.name else moduleName) members
      | .declaration =>
          ⟨nested, moduleName, facts⟩ :: emittedAmong true moduleName members
      | .typeAlias | .alternative => []

/-- The declarations that several objects make in a module, in the order of the walk. -/
def emittedAmong (nested : Bool) (moduleName : String) : List ApiObject → List Emitted
  | [] => []
  | first :: rest => emitted nested moduleName first ++ emittedAmong nested moduleName rest

end

/-- What a declaration in a tree shows of itself, and whether it is inside another. -/
structure Placed where
  nested : Bool
  id : DeclId
  name : String
  label : Option String
  deriving Repr, DecidableEq

/-- What a declaration shows. -/
def Placed.of
    (nested : Bool)
    (info : Info) :
    Placed :=
  ⟨nested, info.id, info.name, info.moduleLabel⟩

mutual

/-- What a declaration and the members inside it show, owners first. -/
def placed (nested : Bool) : Declaration → List Placed
  | .node info children _ _ => .of nested info :: placedAmong true children

/-- What several declarations and the members inside them show, owners first. -/
def placedAmong (nested : Bool) : List Declaration → List Placed
  | [] => []
  | first :: rest => placed nested first ++ placedAmong nested rest

end

/-- That a declaration was made of an object and is labelled as the shortcuts say. -/
structure Labelled
    (shortcuts : List (String × String))
    (emitted : Emitted)
    (placed : Placed) :
    Prop where
  nested_eq : placed.nested = emitted.nested
  name_eq : placed.name = emitted.facts.displayName
  label : LabelledBy shortcuts emitted.moduleName emitted.facts.name placed.label

theorem placed_eq (nested : Bool) (declaration : Declaration) :
    placed nested declaration =
      .of nested declaration.info :: placedAmong true declaration.children := by
  cases declaration
  rfl

theorem placedAmong_eq_flatMap (nested : Bool) (declarations : List Declaration) :
    placedAmong nested declarations = declarations.flatMap (placed nested) := by
  induction declarations with
  | nil =>
      rfl
  | cons first rest inductionHypothesis =>
      rw [placedAmong, inductionHypothesis, List.flatMap_cons]

theorem emittedAmong_append
    (nested : Bool)
    (moduleName : String)
    (first second : List ApiObject) :
    emittedAmong nested moduleName (first ++ second) =
      emittedAmong nested moduleName first ++ emittedAmong nested moduleName second := by
  induction first with
  | nil =>
      rfl
  | cons object rest inductionHypothesis =>
      rw [List.cons_append, emittedAmong, emittedAmong, inductionHypothesis,
        List.append_assoc]

/-- What is a member shows itself, wherever it is inside. -/
theorem of_mem_placed
    {declaration : Declaration}
    {info : Info}
    (composed : declaration.WellComposed)
    (isInfo : info ∈ declaration.infos)
    (isMember : info.kind ∈ Kind.ofMembers) :
    .of true info ∈ placed true declaration := by
  induction declaration using Declaration.ownedInduction with
  | node top children signatures parameters childrenHold _ _ =>
      rw [Declaration.infos_eq_cons_ownedInfos, List.mem_cons] at isInfo
      rw [placed_eq]
      rcases isInfo with rfl | isOwned
      · exact List.mem_cons_self
      · obtain ⟨child, isChild, inChild⟩ := composed.exists_child_of_owned isOwned isMember
        refine List.mem_cons_of_mem _ ?_
        rw [placedAmong_eq_flatMap]
        exact List.mem_flatMap.mpr
          ⟨child, isChild, childrenHold child isChild (composed.child isChild) inChild⟩

/-- A member whose number is not at the top shows itself inside a member. -/
theorem placed_of_copied
    {root : Declaration}
    (composed : root.WellComposed)
    {info : Info}
    (isInfo : info ∈ root.infos)
    (isMember : info.kind ∈ Kind.ofMembers)
    (isCopied : info.id ∉ root.topIds) :
    .of true info ∈ placedAmong false root.children := by
  rw [Declaration.topIds, List.mem_cons, not_or] at isCopied
  obtain ⟨notTop, notMember⟩ := isCopied
  rw [Declaration.infos_eq_cons_ownedInfos, List.mem_cons] at isInfo
  rcases isInfo with rfl | isOwned
  · exact (notTop rfl).elim
  · obtain ⟨child, isChild, inChild⟩ := composed.exists_child_of_owned isOwned isMember
    have shown := of_mem_placed (composed.child isChild) inChild isMember
    rw [placed_eq, List.mem_cons] at shown
    rcases shown with isItself | isInside
    · have sameId : info.id = child.id := congrArg Placed.id isItself
      exact (notMember (sameId ▸ List.mem_map_of_mem isChild)).elim
    · rw [placedAmong_eq_flatMap]
      refine List.mem_flatMap.mpr ⟨child, isChild, ?_⟩
      rw [placed_eq]
      exact List.mem_cons_of_mem _ isInside

/-- What is shown of the members at the top and not inside them. -/
theorem filter_placedAmong (children : List Declaration) :
    (placedAmong false children).filter (!·.nested) =
      children.map fun child => .of false child.info := by
  have inside (declaration : Declaration) :
      ∀ one ∈ placed true declaration, one.nested = true := by
    induction declaration using Declaration.ownedInduction with
    | node info children signatures parameters childrenHold _ _ =>
        rw [placed_eq, placedAmong_eq_flatMap]
        refine List.forall_mem_cons.mpr ⟨rfl, ?_⟩
        exact List.forall_mem_flatMap.mpr childrenHold
  have noneInside (children : List Declaration) :
      (placedAmong true children).filter (!·.nested) = [] := by
    refine List.filter_eq_nil_iff.mpr ?_
    rw [placedAmong_eq_flatMap]
    refine List.forall_mem_flatMap.mpr fun child _ one isOne => ?_
    simp [inside child one isOne]
  induction children with
  | nil =>
      rfl
  | cons first rest inductionHypothesis =>
      rw [placedAmong, placed_eq, List.filter_append, inductionHypothesis,
        List.filter_cons_of_pos rfl, noneInside, List.map_cons, List.singleton_append]

/-! ## The walk -/

/-- Entering an object does not leave the module. -/
theorem moduleName_enter
    (site : Site)
    (facts : Facts) :
    (site.enter facts).moduleName = site.moduleName := by
  unfold Site.enter
  split <;> rfl

/-- The members of a declaration are in its module. -/
theorem moduleName_siteInside
    (here : Site)
    (facts : Facts)
    (node : Declaration) :
    (Assembly.siteInside here facts node).moduleName = here.moduleName := by
  unfold Assembly.siteInside
  split <;> rfl

/-- Alternative signatures that join members show nothing. -/
theorem placedAmong_mergeOverloads
    (nested : Bool)
    (overloads : List Facts)
    (node : Declaration)
    (assembly : Assembly) :
    placedAmong nested (assembly.mergeOverloads overloads node).1.children =
      placedAmong nested node.children := by
  have merged := Assembly.merged_mergeOverloads overloads node assembly
  have same : (assembly.mergeOverloads overloads node).1.children.map (placed nested) =
      node.children.map (placed nested) := by
    refine List.ext_getElem (by simpa using merged.length_eq) ?_
    intro position inside wasInside
    rw [List.length_map] at inside wasInside
    have signed := merged.children_signed position _ _
      (List.getElem?_eq_getElem wasInside) (List.getElem?_eq_getElem inside)
    rw [List.getElem_map, List.getElem_map, placed_eq, placed_eq, signed.info_eq,
      signed.children_eq]
  rw [placedAmong_eq_flatMap, placedAmong_eq_flatMap, List.flatMap_def, same,
    ← List.flatMap_def]

/-- What walking objects adds to an owner: the declarations they make, with their labels. -/
structure Emits
    (options : Options)
    (site : Site)
    (objects : List ApiObject)
    (before after : Owner × Assembly) :
    Prop where
  regroups : Regroups before after
  added : ∃ members, after.1.node.children = before.1.node.children ++ members ∧
    ∀ nested, List.Forall₂ (Labelled options.shortcuts)
      (emittedAmong nested site.moduleName objects) (placedAmong nested members)

namespace Emits

variable
    {options : Options}
    {site : Site}
    {objects : List ApiObject}

/-- Where no declaration is made nothing is added. -/
theorem of_nothing
    {before after : Owner × Assembly}
    (node_eq : after.1.node = before.1.node)
    (nothing : ∀ nested, emittedAmong nested site.moduleName objects = []) :
    Emits options site objects before after where
  regroups := .of_info_eq (by rw [node_eq])
  added := ⟨[], by rw [node_eq, List.append_nil], fun nested => nothing nested ▸ .nil⟩

theorem append
    {others : List ApiObject}
    {first second third : Owner × Assembly}
    (firstStep : Emits options site objects first second)
    (secondStep : Emits options site others second third) :
    Emits options site (objects ++ others) first third where
  regroups := firstStep.regroups.trans secondStep.regroups
  added := by
    obtain ⟨firstMembers, firstEq, firstLabelled⟩ := firstStep.added
    obtain ⟨secondMembers, secondEq, secondLabelled⟩ := secondStep.added
    refine ⟨firstMembers ++ secondMembers,
      by rw [secondEq, firstEq, List.append_assoc], fun nested => ?_⟩
    rw [emittedAmong_append, placedAmong_eq_flatMap, List.flatMap_append,
      ← placedAmong_eq_flatMap, ← placedAmong_eq_flatMap]
    exact List.rel_append (firstLabelled nested) (secondLabelled nested)

section

variable
    {facts : Facts}
    {members : List ApiObject}
    {owner : Owner}
    {assembly : Assembly}
    {inside : Owner × Assembly}

/-- A declaration and what is inside it are labelled once they are complete. -/
theorem labelled_complete
    (steps :
      let here := site.enter facts
      let opened := assembly.opened options here facts owner.node.kind
      Emits options (Assembly.siteInside here facts opened.1.node) members opened inside) :
    let here := site.enter facts
    let member := (inside.2.complete facts (docstringAt here facts) inside.1).1
    (∀ nested, Labelled options.shortcuts ⟨nested, site.moduleName, facts⟩
      (.of nested member.info)) ∧
      List.Forall₂ (Labelled options.shortcuts) (emittedAmong true site.moduleName members)
        (placedAmong true member.children) := by
  intro here member
  have sameModule : here.moduleName = site.moduleName := moduleName_enter site facts
  constructor
  · intro nested
    obtain ⟨id, kind, type, groups, infoEq⟩ := steps.regroups.exists_info_complete
    refine ⟨rfl, congrArg Info.name infoEq, ?_⟩
    have labelEq : member.info.moduleLabel = moduleLabel options here facts.name :=
      congrArg Info.moduleLabel infoEq
    have labelled := labelledBy_moduleLabel options here facts.name
    rw [← labelEq, sameModule] at labelled
    exact labelled
  · obtain ⟨based, memberEq⟩ := Assembly.exists_complete_eq facts
      (docstringAt here facts) inside.1 inside.2
    obtain ⟨added, childrenEq, labelled⟩ := steps.added
    -- A declaration is made without members, so all it has were walked inside it.
    have noneBefore : (assembly.opened options here facts owner.node.kind).1.node.children
        = [] :=
      (Assembly.making_declaration options here owner.node.kind facts
        (docstringAt here facts) assembly).begins.children_eq
    rw [noneBefore, List.nil_append] at childrenEq
    have labelledInside := labelled true
    rw [moduleName_siteInside, sameModule, ← childrenEq] at labelledInside
    rw [show member = _ from memberEq, placedAmong_mergeOverloads]
    exact labelledInside

end

/-- A declaration that is closed is labelled with all that is inside it. -/
theorem closed
    {usesGroups : Bool}
    {facts : Facts}
    {members : List ApiObject}
    {owner : Owner}
    {assembly : Assembly}
    {inside : Owner × Assembly}
    (role : roleOf facts = .declaration)
    (steps :
      let here := site.enter facts
      let opened := assembly.opened options here facts owner.node.kind
      Emits options (Assembly.siteInside here facts opened.1.node) members opened inside) :
    Emits options site [.mk facts members] (owner, assembly)
      (Assembly.closed usesGroups (site.enter facts) facts owner inside) := by
  have emittedEq (nested : Bool) : emittedAmong nested site.moduleName [.mk facts members] =
      ⟨nested, site.moduleName, facts⟩ :: emittedAmong true site.moduleName members := by
    simp [emittedAmong, emitted, role]
  obtain ⟨-, childrenEq⟩ :=
    Assembly.joined_closed usesGroups (site.enter facts) facts owner inside
  obtain ⟨atTop, labelledInside⟩ := steps.labelled_complete
  refine
    { regroups := .closed _ _ _ _ _ _
      added := ⟨_, childrenEq, fun nested => ?_⟩ }
  · rw [emittedEq, placedAmong, placedAmong, List.append_nil, placed_eq,
      Declaration.children_sortMembers]
    refine .cons ?_ labelledInside
    -- Ordering the groups changes nothing that is shown.
    have labelled := atTop nested
    generalize (inside.2.complete facts (docstringAt (site.enter facts) facts)
      inside.1).1 = member at labelled
    cases member
    exact labelled

end Emits

/-- The walk of objects makes what they emit. -/
theorem siteLaw_emits
    (options : Options)
    (usesGroups : Bool) :
    SiteLaw options usesGroups (Emits options) where
  nil _ _ := .of_nothing rfl fun _ => rfl
  cons _ _ _ _ _ _ firstStep restSteps := firstStep.append restSteps
  opens site facts members before after role inside := by
    have sameEmitted (nested : Bool) :
        emittedAmong nested site.moduleName [.mk facts members] =
          emittedAmong nested (siteWithin (site.enter facts) facts).moduleName members := by
      have sameModule : (siteWithin (site.enter facts) facts).moduleName =
          if facts.isModule then facts.name else site.moduleName := by
        unfold siteWithin
        split
        · rfl
        · exact moduleName_enter site facts
      simp [emittedAmong, emitted, role, sameModule]
    exact
      { inside with
        added := by simpa only [sameEmitted] using inside.added }
  addsAlias site facts members owner assembly role :=
    .of_nothing rfl fun nested => by simp [emittedAmong, emitted, role]
  waits site facts members owner assembly role :=
    .of_nothing rfl fun nested => by simp [emittedAmong, emitted, role]
  declares _ _ _ _ _ _ role steps := .closed role steps

/-- Every declaration of the assembled tree is labelled, in the order of the walk. -/
theorem labelled_assemble
    (options : Options)
    (modules : List ApiObject) :
    List.Forall₂ (Labelled options.shortcuts) (emittedAmong false "" modules)
      (placedAmong false (assemble options modules).1.children) := by
  have walked := (siteLaw_emits options
    (ApiObject.anyMentions groupDecorator modules)).walkAll modules {}
      ({ node := emptyRoot options }, {})
  obtain ⟨members, childrenEq, labelled⟩ := walked.added
  simp only [assemble]
  rw [placedAmong_mergeOverloads, childrenEq]
  exact labelled false

/-! ## Declarations that others go back to -/

/--
That a declaration in the inherited tree goes back to a node of the assembled one: it is
inherited from it, or it is that node, or a copy of it, or a copy of a copy.
-/
def GoesBackTo
    (options : Options)
    (modules : List ApiObject)
    (info : Info)
    (number : DeclId) :
    Prop :=
  info.source?.map (inherited options modules).copies.home = some number

/-- What the project owns is in one of its members. -/
theorem exists_member_of_owned
    {root node : Declaration}
    (composed : root.WellComposed)
    (isProject : root.kind = .project)
    (isOwned : node ∈ root.owned) :
    ∃ member ∈ root.children, node ∈ member.nodes := by
  have unsigned : root.signatures = [] := by
    by_contra signed
    have isCallable := composed.atTop.signed_iff.mp signed
    rw [isProject] at isCallable
    exact absurd isCallable (by decide)
  have unparametrized : root.parameters = [] := by
    by_contra parametrized
    have isSignature := composed.atTop.parametrized parametrized
    rw [isProject] at isSignature
    cases isSignature
  cases root with
  | node info children signatures parameters =>
      obtain rfl : signatures = [] := unsigned
      obtain rfl : parameters = [] := unparametrized
      simpa [Declaration.owned] using isOwned

/-- What is inside a declaration of the inherited tree has no number at the top. -/
theorem not_mem_topIds_of_nested
    {options : Options}
    {modules : List ApiObject}
    {node child : Declaration}
    (isOwned : node ∈ (inherited options modules).root.owned)
    (isChild : child ∈ node.children) :
    child.id ∉ (assemble options modules).1.topIds := by
  obtain ⟨composed, isProject⟩ := wellComposed_inherited options modules
  obtain ⟨member, isMember, inMember⟩ := exists_member_of_owned composed isProject isOwned
  rw [← (sameTop_inherited options modules).topIds_eq]
  exact Declaration.not_mem_topIds_of_member (numberedFrom_inherited options modules).distinct
    isMember (List.mem_map_of_mem (Declaration.mem_owned_of_child inMember isChild))

/-- What the assembled tree shows was made of the object at the same place in the dump. -/
theorem exists_emitted_of_placed
    {options : Options}
    {modules : List ApiObject}
    {index : Nat}
    {placed : Placed}
    (isPlaced : (placedAmong false (assemble options modules).1.children)[index]? =
      some placed) :
    ∃ emitted, (emittedAmong false "" modules)[index]? = some emitted ∧
      Labelled options.shortcuts emitted placed := by
  have atIndex := forall₂_iff_getElem?.mp (labelled_assemble options modules) index
  rw [isPlaced] at atIndex
  generalize (emittedAmong false "" modules)[index]? = found at atIndex ⊢
  cases atIndex with
  | some labelled => exact ⟨_, rfl, labelled⟩

/--
Every declaration inside another one in the inherited tree goes back to one that is inside
another in the assembled tree, and is labelled like the object that this was made of.
-/
theorem exists_emitted_of_inherited
    {options : Options}
    {modules : List ApiObject}
    {node child : Declaration}
    (isOwned : node ∈ (inherited options modules).root.owned)
    (isChild : child ∈ node.children) :
    ∃ (index : Nat) (emitted : Emitted) (placed : Placed),
      (emittedAmong false "" modules)[index]? = some emitted ∧
        (placedAmong false (assemble options modules).1.children)[index]? = some placed ∧
        GoesBackTo options modules child.info placed.id ∧ emitted.nested = true ∧
        Labelled options.shortcuts emitted (.of true child.info) := by
  have isNode := Declaration.mem_nodes_of_owned isOwned
  have childKind : child.info.kind ∈ Kind.ofMembers :=
    ((wellComposed_inherited options modules).1 node isNode).children_kind child isChild
  have isInfo : child.info ∈ (inherited options modules).root.infos :=
    List.mem_map_of_mem
      (Declaration.mem_nodes_of_owned (Declaration.mem_owned_of_child isNode isChild))
  obtain ⟨own, origin, descends⟩ := derived_inherited options modules child.info isInfo
  have isPlaced := placed_of_copied (wellComposed_assemble options modules).1
    descends.origin_mem (descends.echoes.kind_eq ▸ childKind)
    (descends.copied_origin (not_mem_topIds_of_nested isOwned isChild))
  obtain ⟨index, placedFound⟩ := List.getElem?_of_mem isPlaced
  obtain ⟨emitted, emittedFound, labelled⟩ := exists_emitted_of_placed placedFound
  have sameLabel : (Placed.of true child.info).label = (Placed.of true origin).label :=
    descends.echoes.moduleLabel_eq
  exact ⟨index, emitted, _, emittedFound, placedFound, descends.origin_id,
    labelled.nested_eq.symm,
    { nested_eq := labelled.nested_eq
      name_eq := descends.echoes.name_eq.trans labelled.name_eq
      label := sameLabel ▸ labelled.label }⟩

/-! ## The converted project -/

/-- That no shortcut for a symbol of a module leads a declaration inside another away. -/
def Undisturbed
    (shortcuts : List (String × String))
    (emits : List Emitted) :
    Prop :=
  ∀ emitted ∈ emits, emitted.nested = true → emitted.moduleName ≠ "" → ∀ path,
    shortcuts.lookup (emitted.moduleName ++ "." ++ emitted.facts.name) = some path →
      ExportedFrom path emitted.facts.name emitted.moduleName

/-- That a declaration has the name of its module as its label if it is inside another. -/
def KeepsModule
    (emitted : Emitted)
    (placed : Placed) :
    Prop :=
  emitted.nested = true → placed.label = ownLabel emitted.moduleName

instance (emitted : Emitted) (placed : Placed) : Decidable (KeepsModule emitted placed) :=
  inferInstanceAs (Decidable (_ → _))

/-- Two lists that match keep modules exactly if no shortcut of the first leads away. -/
theorem forall₂_keepsModule_iff
    {shortcuts : List (String × String)}
    {emits : List Emitted}
    {shown : List Placed}
    (labelled : List.Forall₂ (Labelled shortcuts) emits shown) :
    List.Forall₂ KeepsModule emits shown ↔ Undisturbed shortcuts emits := by
  induction labelled with
  | nil =>
      exact ⟨fun _ => List.forall_mem_nil _, fun _ => .nil⟩
  | cons firstLabelled _ inductionHypothesis =>
      rw [List.forall₂_cons, inductionHypothesis, KeepsModule,
        firstLabelled.label.eq_ownLabel_iff, Undisturbed, Undisturbed,
        List.forall_mem_cons]

variable
    {options : Options}
    {parser : TypeParser}
    {modules : List ApiObject}
    {conversion : Conversion}
    {answers : Resolve.Answers}

/-- Finishing changes nothing that a declaration shows. -/
theorem Placed.of_finishInfo
    (nested : Bool)
    (resolved : Resolve.Resolved)
    (lookup : String → Option DeclId)
    (info : Info) :
    Placed.of nested (finishInfo resolved lookup info) = .of nested info := by
  obtain ⟨_, _, _, finishEq⟩ := exists_finishInfo_eq resolved lookup info
  rw [finishEq]
  rfl

/-- Groups and links do not decide what a declaration shows. -/
theorem Placed.map_of_relinked
    {before after : List Info}
    (relinked : List.Forall₂ Relinked before after)
    (nested : Bool) :
    after.map (Placed.of nested) = before.map (Placed.of nested) := by
  induction relinked with
  | nil =>
      rfl
  | cons firstRelinked _ inductionHypothesis =>
      obtain ⟨_, _, _, rfl⟩ := firstRelinked
      rw [List.map_cons, List.map_cons, inductionHypothesis]
      rfl

/-- The members of a converted project show what those of the assembled tree do. -/
theorem Finished.map_of_children
    (finished : Finished options parser modules conversion answers) :
    (conversion.project.root.children.map fun child => Placed.of false child.info) =
      (assemble options modules).1.children.map fun child => .of false child.info := by
  have finishing : (conversion.project.root.children.map fun child =>
        Placed.of false child.info) =
      (inherited options modules).root.children.map fun child =>
        .of false child.info := by
    rw [finished.root_eq, Declaration.children_sortMembers, Declaration.children_mapInfo,
      List.map_map]
    refine List.map_congr_left fun child _ => ?_
    rw [Function.comp_apply, Declaration.info_mapInfo, Placed.of_finishInfo]
  have inheriting := Placed.map_of_relinked (sameTop_inherited options modules).members false
  rw [List.map_map, List.map_map] at inheriting
  exact finishing.trans inheriting

/--
The members of a converted project are labelled by the shortcuts for their modules and
names, or else by their modules, in the order of the dump.  So is every declaration
inside another one, at any depth, and after inheriting too: it is labelled like the object
of the dump whose declaration it goes back to, which was inside another one as well.  The
declarations inside others keep the names of their modules exactly if no shortcut leads
one of them away.
-/
theorem labels_follow_shortcuts
    (converted : convertModules options parser modules = .ok conversion) :
    let emits := emittedAmong false "" modules
    let shown := placedAmong false (assemble options modules).1.children
    List.Forall₂ (Labelled options.shortcuts) (emits.filter (!·.nested))
        (conversion.project.root.children.map fun child => .of false child.info) ∧
      (∀ node ∈ conversion.project.root.owned, ∀ child ∈ node.children,
        ∃ (index : Nat) (emitted : Emitted) (placed : Placed),
          emits[index]? = some emitted ∧ shown[index]? = some placed ∧
            (∃ before ∈ (inherited options modules).root.infos,
              before.id = child.id ∧ GoesBackTo options modules before placed.id) ∧
            emitted.nested = true ∧ Labelled options.shortcuts emitted (.of true child.info) ∧
            (Undisturbed options.shortcuts emits →
              child.info.moduleLabel = ownLabel emitted.moduleName)) ∧
      List.Forall₂ (Labelled options.shortcuts) emits shown ∧
      (List.Forall₂ KeepsModule emits shown ↔ Undisturbed options.shortcuts emits) := by
  intro emits shown
  obtain ⟨answers, finished⟩ := exists_finished converted
  have assembled := labelled_assemble options modules
  refine ⟨?_, ?_, assembled, forall₂_keepsModule_iff assembled⟩
  · rw [finished.map_of_children, ← filter_placedAmong]
    refine List.rel_filter ?_ assembled
    intro emitted placed labelled
    simp only [labelled.nested_eq]
  · rw [owned_finished finished]
    refine List.forall_mem_map.mpr fun node isNode => ?_
    rw [Declaration.children_mapInfo]
    refine List.forall_mem_map.mpr fun child isChild => ?_
    obtain ⟨index, emitted, placed, isEmitted, isPlaced, goesBack, isNested, labelled⟩ :=
      exists_emitted_of_inherited isNode isChild
    have isInfo : child.info ∈ (inherited options modules).root.infos :=
      List.mem_map_of_mem (Declaration.mem_nodes_of_owned
        (Declaration.mem_owned_of_child (Declaration.mem_nodes_of_owned isNode) isChild))
    have finishedShows : Placed.of true (child.mapInfo (finishInfo
        (resolvedTypes options modules answers) (declaredAs options modules))).info =
        .of true child.info := by
      rw [Declaration.info_mapInfo, Placed.of_finishInfo]
    have sameId := congrArg Placed.id finishedShows
    rw [← finishedShows] at labelled
    refine ⟨index, emitted, placed, isEmitted, isPlaced,
      ⟨child.info, isInfo, sameId.symm, goesBack⟩, isNested, labelled, fun undisturbed => ?_⟩
    exact labelled.label.eq_ownLabel_iff.mpr
      (undisturbed emitted (List.mem_of_getElem? isEmitted) isNested)

/-- A class that is exported again, with a method, and a class that is not. -/
def exportedModules : List ApiObject :=
  [ .mk { name := "pkg._a", tag := "module" }
      [ .mk { name := "Dataset", tag := "class" }
          [.mk { name := "push", tag := "function" } []],
        .mk { name := "Other", tag := "class", bases := ["Dataset"] } [] ] ]

/-- The class has the label of its shortcut, and its method and the other class do not. -/
theorem labels_follow_shortcuts_of_export :
    let options : Options := { shortcuts := [("pkg._a.Dataset", "pkg.Dataset")] }
    ∃ conversion,
      convertModules options TypeParser.silent exportedModules = .ok conversion ∧
        (conversion.project.root.children.map (·.info.moduleLabel)) =
          [some "pkg", some "pkg._a"] ∧
        List.Forall₂ (Labelled options.shortcuts)
          ((emittedAmong false "" exportedModules).filter (!·.nested))
          (conversion.project.root.children.map fun child => .of false child.info) ∧
        ∀ node ∈ conversion.project.root.owned, ∀ child ∈ node.children,
          child.info.moduleLabel = some "pkg._a" := by
  intro options
  obtain ⟨conversion, converted⟩ :=
    exists_silent_conversion (failure_inherited options exportedModules)
  obtain ⟨answers, finished⟩ := exists_finished converted
  cases finished.answered
  obtain ⟨atTop, inside, -, -⟩ := labels_follow_shortcuts converted
  have insideModule : ∀ emitted ∈ emittedAmong false "" exportedModules,
      emitted.nested = true → emitted.moduleName = "pkg._a" ∧
        options.shortcuts.lookup (emitted.moduleName ++ "." ++ emitted.facts.name) =
          none := by
    decide +kernel
  have undisturbed : Undisturbed options.shortcuts
      (emittedAmong false "" exportedModules) := by
    intro emitted isEmitted isNested _ path isPath
    rw [(insideModule emitted isEmitted isNested).2] at isPath
    cases isPath
  refine ⟨conversion, converted, ?_, atTop, ?_⟩
  · rw [finished.root_eq]
    decide +kernel
  · intro node isNode child isChild
    obtain ⟨_, emitted, _, isEmitted, -, -, isNested, -, kept⟩ :=
      inside node isNode child isChild
    rw [kept undisturbed,
      (insideModule emitted (List.mem_of_getElem? isEmitted) isNested).1]
    rfl

/-- A class that is exported again, and a member of another class with its name. -/
def shadowingSymbols : List ApiObject :=
  [ .mk { name := "pkg._a", tag := "module" }
      [ .mk { name := "A", tag := "class" } [.mk { name := "B", tag := "data" } []],
        .mk { name := "B", tag := "class" } [] ] ]

/-- The member gets the label of the shortcut for the class. -/
theorem member_labelled_as_export :
    let options : Options := { shortcuts := [("pkg._a.B", "pkg.B")] }
    ∃ conversion,
      convertModules options TypeParser.silent shadowingSymbols = .ok conversion ∧
        ¬ List.Forall₂ KeepsModule (emittedAmong false "" shadowingSymbols)
          (placedAmong false conversion.project.root.children) := by
  intro options
  obtain ⟨conversion, converted⟩ :=
    exists_silent_conversion (failure_inherited options shadowingSymbols)
  obtain ⟨answers, finished⟩ := exists_finished converted
  cases finished.answered
  refine ⟨conversion, converted, ?_⟩
  rw [finished.root_eq]
  decide +kernel

end ApiTree.Convert
