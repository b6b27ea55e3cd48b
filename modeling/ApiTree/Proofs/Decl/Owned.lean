import ApiTree.Proofs.Decl.Tree

namespace ApiTree.Decl

/-!
# What a declaration owns

A declaration owns everything below it.  Its tree is made of itself and of what it
owns, and the members of every node of the tree are owned.
-/

namespace Declaration

variable
    {declaration node child : Declaration}

/-- The information of everything below a declaration. -/
def ownedInfos (declaration : Declaration) : List Info :=
  declaration.owned.map info

theorem infos_eq_cons_ownedInfos (declaration : Declaration) :
    declaration.infos = declaration.info :: declaration.ownedInfos := by
  rw [infos, nodes_eq_cons_owned, List.map_cons, ownedInfos]

theorem ownedIds_eq_map_ownedInfos (declaration : Declaration) :
    declaration.ownedIds = declaration.ownedInfos.map Info.id := by
  rw [ownedIds, ownedInfos, List.map_map]
  rfl

@[simp] theorem ownedInfos_updateInfo
    (change : Info → Info)
    (declaration : Declaration) :
    (declaration.updateInfo change).ownedInfos = declaration.ownedInfos := by
  cases declaration
  rfl

theorem ownedInfos_mapInfo
    (change : Info → Info)
    (declaration : Declaration) :
    (declaration.mapInfo change).ownedInfos =
      declaration.ownedInfos.map change := by
  have sameInfos := infos_mapInfo change declaration
  rw [infos_eq_cons_ownedInfos, infos_eq_cons_ownedInfos declaration,
    List.map_cons] at sameInfos
  exact (List.cons.inj sameInfos).2

theorem ownedIds_subset_ids (declaration : Declaration) :
    declaration.ownedIds ⊆ declaration.ids := by
  rw [ids_eq_cons_ownedIds]
  exact List.subset_cons_self _ _

theorem id_mem_ids_of_info
    {info : Info}
    (isInfo : info ∈ declaration.infos) :
    info.id ∈ declaration.ids := by
  rw [ids_eq_map_infos]
  exact List.mem_map_of_mem isInfo

theorem mem_nodes_of_owned
    (isOwned : node ∈ declaration.owned) :
    node ∈ declaration.nodes := by
  rw [nodes_eq_cons_owned]
  exact List.mem_cons_of_mem _ isOwned

theorem mem_nodes (declaration : Declaration) :
    declaration ∈ declaration.nodes := by
  rw [nodes_eq_cons_owned]
  exact List.mem_cons_self

theorem ownedInfos_subset_infos (declaration : Declaration) :
    declaration.ownedInfos ⊆ declaration.infos := by
  rw [infos_eq_cons_ownedInfos]
  exact List.subset_cons_self _ _

/-! ## Members -/

/-- A member of a node is below what the node is in. -/
theorem mem_owned_of_child
    (isNode : node ∈ declaration.nodes)
    (isChild : child ∈ node.children) :
    child ∈ declaration.owned := by
  induction declaration using ownedInduction with
  | node info children signatures parameters
      childrenHold signaturesHold parametersHold =>
      have below {one : Declaration} (step : node ∈ one.nodes → child ∈ one.owned)
          (isNode : node ∈ one.nodes) : child ∈ one.nodes :=
        mem_nodes_of_owned (step isNode)
      rw [nodes_eq_cons_owned] at isNode
      simp only [owned, List.mem_cons, List.mem_append, List.mem_flatMap]
        at isNode ⊢
      rcases isNode with rfl | ⟨one, isOne, isNode⟩ | ⟨one, isOne, isNode⟩ |
        ⟨one, isOne, isNode⟩
      · exact .inl ⟨child, isChild, child.mem_nodes⟩
      · exact .inl ⟨one, isOne, below (childrenHold one isOne) isNode⟩
      · exact .inr (.inl ⟨one, isOne, below (signaturesHold one isOne) isNode⟩)
      · exact .inr (.inr ⟨one, isOne, below (parametersHold one isOne) isNode⟩)

theorem info_mem_ownedInfos_of_child
    (isNode : node ∈ declaration.nodes)
    (isChild : child ∈ node.children) :
    child.info ∈ declaration.ownedInfos :=
  List.mem_map_of_mem (mem_owned_of_child isNode isChild)

theorem infos_subset_of_child
    (isChild : child ∈ declaration.children) :
    child.infos ⊆ declaration.infos := by
  cases declaration
  rw [infos_node]
  intro info inChild
  exact List.mem_cons_of_mem _ (List.mem_append_left _
    (List.mem_flatMap.mpr ⟨child, isChild, inChild⟩))

theorem info_mem_infos_of_child
    (isChild : child ∈ declaration.children) :
    child.info ∈ declaration.infos :=
  infos_subset_of_child isChild child.info_mem_infos

/-- The numbers of a node are among those of the tree, in the same order. -/
theorem ids_sublist_of_mem_nodes
    (isNode : node ∈ declaration.nodes) :
    node.ids.Sublist declaration.ids := by
  induction declaration using ownedInduction with
  | node info children signatures parameters
      childrenHold signaturesHold parametersHold =>
      have inList {list : List Declaration} {one : Declaration} (isOne : one ∈ list)
          (below : node.ids.Sublist one.ids) :
          node.ids.Sublist (list.flatMap ids) :=
        below.trans (List.sublist_flatten_of_mem (List.mem_map_of_mem isOne))
      rw [nodes_eq_cons_owned] at isNode
      simp only [owned, List.mem_cons, List.mem_append, List.mem_flatMap] at isNode
      rw [ids_node]
      rcases isNode with rfl | ⟨one, isOne, isNode⟩ | ⟨one, isOne, isNode⟩ |
        ⟨one, isOne, isNode⟩
      · rw [ids_node]
      · refine .cons _ (List.sublist_append_of_sublist_left ?_)
        exact inList isOne (childrenHold one isOne isNode)
      · refine .cons _ (List.sublist_append_of_sublist_right ?_)
        refine List.sublist_append_of_sublist_left ?_
        exact inList isOne (signaturesHold one isOne isNode)
      · refine .cons _ (List.sublist_append_of_sublist_right ?_)
        refine List.sublist_append_of_sublist_right ?_
        exact inList isOne (parametersHold one isOne isNode)

theorem nodup_ids_of_child
    (distinct : declaration.ids.Nodup)
    (isChild : child ∈ declaration.children) :
    child.ids.Nodup :=
  distinct.sublist (ids_sublist_of_mem_nodes
    (mem_nodes_of_owned (mem_owned_of_child declaration.mem_nodes isChild)))

/-- Members have different numbers if all nodes have. -/
theorem nodup_ids_children
    (distinct : declaration.ids.Nodup) :
    (declaration.children.map id).Nodup := by
  rw [ids_eq_cons_ownedIds, ownedIds_eq] at distinct
  have inChildren :=
    (List.nodup_append.mp (List.nodup_cons.mp distinct).2).1
  refine List.pairwise_map.mpr ((List.nodup_flatMap.mp inChildren).2.imp ?_)
  intro one other disjoint same
  exact disjoint one.id_mem_ids (same ▸ other.id_mem_ids)

end Declaration

end ApiTree.Decl
