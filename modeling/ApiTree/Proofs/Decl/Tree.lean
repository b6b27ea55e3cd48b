import ApiTree.Decl.Grouping
import ApiTree.Decl.Renumber
import Mathlib.Data.List.Nodup

namespace ApiTree.Decl

/-!
# Nodes of a declaration

A declaration is a node with three lists of declarations below it.  The lists of
all nodes, of their numbers and of their information follow that shape, so every
fact about a whole tree is a fact about one node and about its three lists.
-/

namespace Declaration

/-! ## One node -/

@[simp] theorem info_node
    (info : Info)
    (children signatures parameters : List Declaration) :
    (node info children signatures parameters).info = info :=
  rfl

@[simp] theorem children_node
    (info : Info)
    (children signatures parameters : List Declaration) :
    (node info children signatures parameters).children = children :=
  rfl

@[simp] theorem signatures_node
    (info : Info)
    (children signatures parameters : List Declaration) :
    (node info children signatures parameters).signatures = signatures :=
  rfl

@[simp] theorem parameters_node
    (info : Info)
    (children signatures parameters : List Declaration) :
    (node info children signatures parameters).parameters = parameters :=
  rfl

@[simp] theorem id_node
    (info : Info)
    (children signatures parameters : List Declaration) :
    (node info children signatures parameters).id = info.id :=
  rfl

@[simp] theorem info_updateInfo
    (change : Info → Info)
    (declaration : Declaration) :
    (declaration.updateInfo change).info = change declaration.info := by
  cases declaration
  rfl

@[simp] theorem children_updateInfo
    (change : Info → Info)
    (declaration : Declaration) :
    (declaration.updateInfo change).children = declaration.children := by
  cases declaration
  rfl

@[simp] theorem info_setChildren
    (children : List Declaration)
    (declaration : Declaration) :
    (declaration.setChildren children).info = declaration.info := by
  cases declaration
  rfl

@[simp] theorem children_setChildren
    (children : List Declaration)
    (declaration : Declaration) :
    (declaration.setChildren children).children = children := by
  cases declaration
  rfl

@[simp] theorem info_addChild
    (declaration child : Declaration) :
    (declaration.addChild child).info = declaration.info := by
  cases declaration
  rfl

@[simp] theorem children_addChild
    (declaration child : Declaration) :
    (declaration.addChild child).children = declaration.children ++ [child] := by
  cases declaration
  rfl

@[simp] theorem id_updateInfo
    (change : Info → Info)
    (declaration : Declaration) :
    (declaration.updateInfo change).id = (change declaration.info).id := by
  cases declaration
  rfl

@[simp] theorem name_updateInfo
    (change : Info → Info)
    (declaration : Declaration) :
    (declaration.updateInfo change).name = (change declaration.info).name := by
  cases declaration
  rfl

theorem node_parts (declaration : Declaration) :
    node declaration.info declaration.children declaration.signatures
      declaration.parameters = declaration := by
  cases declaration
  rfl

/-- What holds of a node whenever it holds of all that the node owns holds everywhere. -/
@[elab_as_elim]
theorem ownedInduction
    {motive : Declaration → Prop}
    (node : ∀ info children signatures parameters,
      (∀ child ∈ children, motive child) →
      (∀ signature ∈ signatures, motive signature) →
      (∀ parameter ∈ parameters, motive parameter) →
      motive (.node info children signatures parameters))
    (declaration : Declaration) :
    motive declaration := by
  -- The recursor treats the three lists as one nested type with a motive of its own.
  refine @Declaration.rec motive (fun owned => ∀ one ∈ owned, motive one)
    node ?_ ?_ declaration
  · intro one member
    cases member
  · intro first rest firstHolds restHolds one member
    rcases List.mem_cons.mp member with isFirst | inRest
    · exact isFirst ▸ firstHolds
    · exact restHolds one inRest

/-! ## All nodes -/

theorem nodesOfAll_eq_flatMap (declarations : List Declaration) :
    nodesOfAll declarations = declarations.flatMap nodes := by
  induction declarations with
  | nil =>
      rfl
  | cons first rest inductionHypothesis =>
      simp [nodesOfAll, inductionHypothesis]

/-- Everything below a declaration, owners first. -/
def owned (declaration : Declaration) : List Declaration :=
  declaration.children.flatMap nodes ++
    (declaration.signatures.flatMap nodes ++
      declaration.parameters.flatMap nodes)

/-- The numbers of everything below a declaration. -/
def ownedIds (declaration : Declaration) : List DeclId :=
  declaration.owned.map id

/-- The nodes of a declaration are itself and what it owns. -/
theorem nodes_eq_cons_owned (declaration : Declaration) :
    declaration.nodes = declaration :: declaration.owned := by
  cases declaration
  simp [nodes, owned, nodesOfAll_eq_flatMap]

/-- The numbers in a declaration are its own and those below it. -/
theorem ids_eq_cons_ownedIds (declaration : Declaration) :
    declaration.ids = declaration.id :: declaration.ownedIds := by
  simp [ids, ownedIds, nodes_eq_cons_owned]

/-- The numbers below a declaration, list by list. -/
theorem ownedIds_eq (declaration : Declaration) :
    declaration.ownedIds =
      declaration.children.flatMap ids ++
        (declaration.signatures.flatMap ids ++
          declaration.parameters.flatMap ids) := by
  simp only [ownedIds, owned, List.map_append, List.map_flatMap]
  rfl

theorem ids_node
    (info : Info)
    (children signatures parameters : List Declaration) :
    (node info children signatures parameters).ids =
      info.id ::
        (children.flatMap ids ++
          (signatures.flatMap ids ++ parameters.flatMap ids)) := by
  simp [ids_eq_cons_ownedIds, ownedIds_eq]

theorem infos_node
    (info : Info)
    (children signatures parameters : List Declaration) :
    (node info children signatures parameters).infos =
      info ::
        (children.flatMap infos ++
          (signatures.flatMap infos ++ parameters.flatMap infos)) := by
  rw [infos, nodes_eq_cons_owned]
  simp only [owned, List.map_cons, List.map_append, List.map_flatMap]
  rfl

/-- The numbers in a tree are those that its nodes' information holds. -/
theorem ids_eq_map_infos (declaration : Declaration) :
    declaration.ids = declaration.infos.map Info.id := by
  simp [ids, infos, Function.comp_def, id]

theorem id_mem_ids (declaration : Declaration) :
    declaration.id ∈ declaration.ids := by
  simp [ids_eq_cons_ownedIds]

/-- The numbers in a member are numbers below its owner. -/
theorem ids_subset_ownedIds
    {declaration child : Declaration}
    (member : child ∈ declaration.children) :
    child.ids ⊆ declaration.ownedIds := by
  intro number inChild
  rw [ownedIds_eq]
  exact List.mem_append_left _ (List.mem_flatMap.mpr ⟨child, member, inChild⟩)

theorem info_mem_infos (declaration : Declaration) :
    declaration.info ∈ declaration.infos := by
  simp [infos, nodes_eq_cons_owned]

theorem mem_infos_iff
    {declaration : Declaration}
    {info : Info} :
    info ∈ declaration.infos ↔
      ∃ one ∈ declaration.nodes, one.info = info := by
  simp [infos]

/-! ## Changing every node -/

theorem mapInfoOfAll_eq_map
    (change : Info → Info)
    (declarations : List Declaration) :
    mapInfoOfAll change declarations =
      declarations.map (mapInfo change) := by
  induction declarations with
  | nil =>
      rfl
  | cons first rest inductionHypothesis =>
      simp [mapInfoOfAll, inductionHypothesis]

theorem mapInfo_node
    (change : Info → Info)
    (info : Info)
    (children signatures parameters : List Declaration) :
    (node info children signatures parameters).mapInfo change =
      node (change info)
        (children.map (mapInfo change))
        (signatures.map (mapInfo change))
        (parameters.map (mapInfo change)) := by
  simp [mapInfo, mapInfoOfAll_eq_map]

@[simp] theorem info_mapInfo
    (change : Info → Info)
    (declaration : Declaration) :
    (declaration.mapInfo change).info = change declaration.info := by
  cases declaration
  rfl

/-- Changing every node changes the information of every node. -/
theorem infos_mapInfo
    (change : Info → Info)
    (declaration : Declaration) :
    (declaration.mapInfo change).infos = declaration.infos.map change := by
  induction declaration using ownedInduction with
  | node info children signatures parameters
      childrenHold signaturesHold parametersHold =>
      simp only [mapInfo_node, infos_node, List.flatMap_map, List.map_cons,
        List.map_append, List.map_flatMap]
      rw [List.flatMap_congr childrenHold, List.flatMap_congr signaturesHold,
        List.flatMap_congr parametersHold]

theorem ids_mapInfo
    {change : Info → Info}
    (keeps : ∀ info, (change info).id = info.id)
    (declaration : Declaration) :
    (declaration.mapInfo change).ids = declaration.ids := by
  simp [ids_eq_map_infos, infos_mapInfo, Function.comp_def, keeps]

theorem mapInfo_mapInfo
    (first second : Info → Info)
    (declaration : Declaration) :
    (declaration.mapInfo first).mapInfo second =
      declaration.mapInfo fun info => second (first info) := by
  induction declaration using ownedInduction with
  | node info children signatures parameters
      childrenHold signaturesHold parametersHold =>
      simp only [mapInfo_node, List.map_map, Function.comp_def]
      rw [List.map_congr_left childrenHold,
        List.map_congr_left signaturesHold,
        List.map_congr_left parametersHold]

/-! ## Changing one node -/

/-- A change of one node's information that keeps its number keeps all numbers. -/
theorem ids_updateInfo
    {change : Info → Info}
    (declaration : Declaration)
    (keeps : (change declaration.info).id = declaration.info.id) :
    (declaration.updateInfo change).ids = declaration.ids := by
  cases declaration
  simp_all [updateInfo, ids_node]

@[simp] theorem ownedIds_updateInfo
    (change : Info → Info)
    (declaration : Declaration) :
    (declaration.updateInfo change).ownedIds = declaration.ownedIds := by
  cases declaration
  simp [updateInfo, ownedIds_eq]

@[simp] theorem ids_sortMembers (declaration : Declaration) :
    declaration.sortMembers.ids = declaration.ids :=
  ids_updateInfo declaration rfl

/-- A member that is added brings its numbers. -/
theorem count_ids_addChild
    (number : DeclId)
    (declaration child : Declaration) :
    (declaration.addChild child).ids.count number =
      declaration.ids.count number + child.ids.count number := by
  cases declaration
  simp only [addChild, ids_node, List.count_cons, List.count_append,
    List.flatMap_append, List.flatMap_singleton]
  omega

theorem count_ids_addSignature
    (number : DeclId)
    (declaration signature : Declaration) :
    (declaration.addSignature signature).ids.count number =
      declaration.ids.count number + signature.ids.count number := by
  cases declaration
  simp only [addSignature, ids_node, List.count_cons, List.count_append,
    List.flatMap_append, List.flatMap_singleton]
  omega

/-- An element of a list and its replacement, with what stands around them. -/
theorem exists_around
    {members : List Declaration}
    {position : Nat}
    {own : Declaration}
    (found : members[position]? = some own) :
    ∃ before after,
      members = before ++ own :: after ∧
        before.length = position ∧
        ∀ replacement,
          members.set position replacement =
            before ++ replacement :: after := by
  obtain ⟨inside, isOwn⟩ := List.getElem?_eq_some_iff.mp found
  refine ⟨members.take position, members.drop (position + 1), ?_, ?_, ?_⟩
  · rw [← isOwn, List.getElem_cons_drop, List.take_append_drop]
  · exact List.length_take_of_le (Nat.le_of_lt inside)
  · intro replacement
    rw [List.set_eq_take_append_cons_drop, if_pos inside]

end Declaration

end ApiTree.Decl
