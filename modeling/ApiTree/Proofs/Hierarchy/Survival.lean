import ApiTree.Proofs.Hierarchy.Filling
import ApiTree.Proofs.Hierarchy.Order

namespace ApiTree.Decl

/-!
# What survives when members flow

Entering a member, following an edge and a whole run of inheriting let a tree
evolve.  Members are filled in only in declarations that extend another.
-/

variable
    {floor : Nat}
    {allowed : Path → Prop}

/-! ## One step -/

namespace Injecting

/-- Entering a member lets a class evolve that may be filled in. -/
theorem Enters.evolves
    {ancestorName : String}
    {before after : Injecting}
    {member : Declaration}
    (enters : Enters ancestorName before member after)
    (mayFill : allowed [])
    (floorLe : floor ≤ before.supply.next) :
    Evolves floor allowed before.target after.target := by
  cases enters with
  | halted _ same => exact same ▸ evolves_refl _
  | stands _ _ _ _ _ _ same => exact same ▸ evolves_refl _
  | refused _ _ _ same => exact same ▸ evolves_refl _
  | appends _ _ _ _ regrouped children_eq =>
      refine evolves_of_regrouped regrouped ?_
      rw [children_eq]
      refine membersEvolve_concat ⟨?_, ?_⟩ _
      · rw [copyOf, stamp, Declaration.info_updateInfo]
        rfl
      · intro number isNew
        rcases (covers_copyOf _ _ _).mem_or_taken isNew with wasThere | isTaken
        · cases wasThere
        · exact Nat.le_trans floorLe isTaken.1
  | fills position own _ first found undocumented regrouped children_eq =>
      refine evolves_of_regrouped regrouped ?_
      rw [children_eq]
      refine membersEvolve_set found (.inr ⟨mayFill, ?_⟩)
      obtain ⟨named, namedFound, isNamed⟩ := exists_of_memberPosition? first
      obtain rfl : own = named := Option.some.inj (found.symm.trans namedFound)
      refine
        { undocumented := undocumented
          id_eq := id_fillingOf _ _ _ _
          name_eq := (name_fillingOf _ _ _ _).trans isNamed.symm
          inherited := ?_
          owned_new := ?_ }
      · rw [fillingOf, stamp, Declaration.info_updateInfo]
        rfl
      · intro number isOwned
        rcases (covers_fillingOf _ _ _ _).mem_or_taken isOwned with
            wasThere | isTaken
        · cases wasThere
        · exact Nat.le_trans floorLe isTaken.1

theorem evolves_foldl_inject
    (ancestorName : String)
    (members : List Declaration)
    {before : Injecting}
    (mayFill : allowed [])
    (floorLe : floor ≤ before.supply.next) :
    Evolves floor allowed before.target
      (members.foldl (inject ancestorName) before).target := by
  have both :
      Evolves floor allowed before.target
          (members.foldl (inject ancestorName) before).target ∧
        floor ≤ (members.foldl (inject ancestorName) before).supply.next :=
    foldl_inject_induction
      (motive := fun injecting =>
        Evolves floor allowed before.target injecting.target ∧
          floor ≤ injecting.supply.next)
      ⟨evolves_refl _, floorLe⟩
      fun _ _ _ _ enters evolved =>
        ⟨evolves_trans evolved.1 (enters.evolves mayFill evolved.2),
          Nat.le_trans evolved.2 enters.covers_target.le⟩
  exact both.1

end Injecting

namespace Inheriting

/-- What receives members evolves, if it may be filled in. -/
theorem evolves_received
    {before : Inheriting}
    (edge : Edge)
    (ancestor descendant : Declaration)
    (mayFill : allowed [])
    (floorLe : floor ≤ before.supply.next) :
    Evolves floor allowed descendant
      (received before edge ancestor descendant).target := by
  have linked :
      Evolves floor allowed descendant
        (linkTo edge.1 ancestor.name descendant) :=
    evolves_of_updateInfo
      ⟨descendant.info.groups, _, descendant.info.extendedBy, rfl⟩
  have entered :
      Evolves floor allowed (opening before edge ancestor descendant).target
        (received before edge ancestor descendant).target :=
    Injecting.evolves_foldl_inject ancestor.name ancestor.children mayFill
      floorLe
  exact evolves_trans linked entered

/-- An edge lets the tree evolve if the descendant may be filled in. -/
theorem Flows.evolves
    {paths : List (DeclId × Path)}
    {before after : Inheriting}
    {edge : Edge}
    (flows : Flows paths before edge after)
    (mayFill : ∀ path, paths.lookup edge.2 = some path → allowed path)
    (floorLe : floor ≤ before.supply.next) :
    Evolves floor allowed before.root after.root := by
  refine flows.root_induction (evolves_refl _) ?_ ?_
  · intro ancestorPath descendantPath ancestor descendant meets
    have receives :
        Evolves floor (fun path => allowed (descendantPath ++ path)) descendant
          (received before edge ancestor descendant).target :=
      evolves_received edge ancestor descendant
        (by simpa using mayFill descendantPath meets.descendant_path) floorLe
    refine ⟨evolves_replaceAt meets.descendant_found receives,
      evolves_replaceAt meets.descendant_found (evolves_trans receives ?_)⟩
    refine evolves_of_regrouped (.of_sortMembers _) ?_
    rw [Declaration.children_sortMembers]
    exact membersEvolve_refl 0 _
  · intro ancestorPath descendantPath ancestor descendant _ middle found evolved
      leads
    refine evolves_trans evolved (evolves_replaceAt leads (evolves_of_updateInfo ?_))
    exact ⟨found.info.groups, found.info.extendedTypes, _, rfl⟩

end Inheriting

namespace Hierarchy

/-! ## A whole run -/

/-- The paths of declarations that extend another. -/
def ExtendsAt
    (root : Declaration)
    (edges : List Edge)
    (path : Path) :
    Prop :=
  ∃ edge ∈ edges, ∃ found,
    root.descendant? path = some found ∧ found.id = edge.2

/-- How far a run is: the tree has evolved, and numbers were taken. -/
structure Progress
    (root : Declaration)
    (supply : IdSupply)
    (known : List Edge)
    (now : Inheriting) :
    Prop where
  evolves : Evolves supply.next (ExtendsAt root known) root now.root
  next_le : supply.next ≤ now.supply.next

theorem progress_start
    (root : Declaration)
    (supply : IdSupply)
    (known : List Edge) :
    Progress root supply known { root := root, supply := supply } :=
  ⟨evolves_refl root, Nat.le_refl _⟩

theorem Progress.step
    {root : Declaration}
    {supply : IdSupply}
    {known : List Edge}
    {before after : Inheriting}
    {edge : Edge}
    (progress : Progress root supply known before)
    (isKnown : edge ∈ known)
    (flows : Inheriting.Flows root.childPaths before edge after) :
    Progress root supply known after := by
  refine ⟨evolves_trans progress.evolves (flows.evolves ?_ progress.next_le),
    Nat.le_trans progress.next_le flows.covers_root.le⟩
  intro path looked
  exact ⟨edge, isKnown, Declaration.exists_of_lookup_childPaths looked⟩

/-- A run lets a tree evolve; only members of what extends another are filled in. -/
theorem evolves_flowAlong
    {known edges : List Edge}
    (included : edges ⊆ known)
    (root : Declaration)
    (supply : IdSupply) :
    Evolves supply.next (ExtendsAt root known) root
      (flowAlong root supply edges).root := by
  have progress : Progress root supply known (flowAlong root supply edges) :=
    flowAlong_induction (progress_start root supply known)
      fun _ _ _ isEdge flows progress => progress.step (included isEdge) flows
  exact progress.evolves

theorem evolves_resolve
    (hierarchy : Hierarchy)
    (root : Declaration)
    (supply : IdSupply) :
    Evolves supply.next (ExtendsAt root hierarchy.resolvedEdges) root
      (hierarchy.resolve root supply).root := by
  rw [resolve_eq_flowAlong]
  exact evolves_flowAlong (schedule_subset _) root supply

end Hierarchy

end ApiTree.Decl
