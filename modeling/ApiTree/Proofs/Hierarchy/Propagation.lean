import ApiTree.Proofs.Hierarchy.Injecting
import Mathlib.Data.List.Induction

namespace ApiTree.Decl

/-!
# Members flowing along edges

An edge names an ancestor and a descendant.  Both are looked for at the paths
that they had before anything was inherited.  If both paths lead somewhere, the
members found at the first are entered into the declaration found at the second;
otherwise nothing happens.  A run of inheriting is one such step after another.
-/

namespace Inheriting

/-- An edge whose two paths lead to two declarations. -/
structure Meets
    (paths : List (DeclId × Path))
    (root : Declaration)
    (edge : Edge)
    (ancestorPath descendantPath : Path)
    (ancestor descendant : Declaration) :
    Prop where
  ancestor_path : paths.lookup edge.1 = some ancestorPath
  descendant_path : paths.lookup edge.2 = some descendantPath
  ancestor_found : root.descendant? ancestorPath = some ancestor
  descendant_found : root.descendant? descendantPath = some descendant

/-- An edge meets nothing but what its paths lead to. -/
theorem Meets.unique
    {paths : List (DeclId × Path)}
    {root ancestor descendant otherAncestor otherDescendant : Declaration}
    {edge : Edge}
    {ancestorPath descendantPath otherAncestorPath otherDescendantPath : Path}
    (meets : Meets paths root edge ancestorPath descendantPath
      ancestor descendant)
    (other : Meets paths root edge otherAncestorPath otherDescendantPath
      otherAncestor otherDescendant) :
    ancestorPath = otherAncestorPath ∧
      descendantPath = otherDescendantPath ∧
      ancestor = otherAncestor ∧
      descendant = otherDescendant := by
  obtain rfl : ancestorPath = otherAncestorPath :=
    Option.some.inj (meets.ancestor_path.symm.trans other.ancestor_path)
  obtain rfl : descendantPath = otherDescendantPath :=
    Option.some.inj (meets.descendant_path.symm.trans other.descendant_path)
  have sameAncestor : ancestor = otherAncestor :=
    Option.some.inj (meets.ancestor_found.symm.trans other.ancestor_found)
  have sameDescendant : descendant = otherDescendant :=
    Option.some.inj (meets.descendant_found.symm.trans other.descendant_found)
  exact ⟨rfl, rfl, sameAncestor, sameDescendant⟩

/-- The declaration with the ancestor among the types that it extends. -/
def linkTo
    (ancestor : DeclId)
    (name : String)
    (declaration : Declaration) :
    Declaration :=
  declaration.updateInfo fun info =>
    { info with extendedTypes := info.extendedTypes ++ [⟨name, some ancestor⟩] }

/-- The declaration with the descendant among the types that extend it. -/
def linkBack
    (descendant : DeclId)
    (name : String)
    (declaration : Declaration) :
    Declaration :=
  declaration.updateInfo fun info =>
    { info with extendedBy := info.extendedBy ++ [⟨name, some descendant⟩] }

/-- A declaration that is linked to its ancestor and has received nothing yet. -/
def opening
    (before : Inheriting)
    (edge : Edge)
    (ancestor descendant : Declaration) :
    Injecting where
  target := linkTo edge.1 ancestor.name descendant
  supply := before.supply
  members := before.members
  copies := before.copies

@[simp] theorem children_opening
    (before : Inheriting)
    (edge : Edge)
    (ancestor descendant : Declaration) :
    (opening before edge ancestor descendant).target.children =
      descendant.children :=
  Declaration.children_updateInfo _ descendant

/-- What one declaration receives from another along an edge. -/
def received
    (before : Inheriting)
    (edge : Edge)
    (ancestor descendant : Declaration) :
    Injecting :=
  ancestor.children.foldl (Injecting.inject ancestor.name)
    (opening before edge ancestor descendant)

/-- What an edge does. -/
inductive Flows
    (paths : List (DeclId × Path))
    (before : Inheriting)
    (edge : Edge)
    (after : Inheriting) :
    Prop where
  /-- There was a failure before. -/
  | halted
      (failed : before.failure ≠ none)
      (same : after = before)
  /-- A path leads nowhere. -/
  | skipped
      (running : before.failure = none)
      (apart : ∀ ancestorPath descendantPath ancestor descendant,
        ¬ Meets paths before.root edge
          ancestorPath descendantPath ancestor descendant)
      (same : after = before)
  /-- A member belongs to no group. -/
  | fails
      (ancestorPath descendantPath : Path)
      (ancestor descendant : Declaration)
      (error : HierarchyError)
      (running : before.failure = none)
      (meets : Meets paths before.root edge
        ancestorPath descendantPath ancestor descendant)
      (failed :
        (received before edge ancestor descendant).failure = some error)
      (root_eq : after.root =
        before.root.replaceAt
          (received before edge ancestor descendant).target descendantPath)
      (supply_eq : after.supply =
        (received before edge ancestor descendant).supply)
      (failure_eq : after.failure = some error)
  /-- All members are entered. -/
  | flows
      (ancestorPath descendantPath : Path)
      (ancestor descendant : Declaration)
      (running : before.failure = none)
      (meets : Meets paths before.root edge
        ancestorPath descendantPath ancestor descendant)
      (entered : (received before edge ancestor descendant).failure = none)
      (root_eq : after.root =
        (before.root.replaceAt
          (received before edge ancestor descendant).target.sortMembers
          descendantPath).updateAt ancestorPath
            (linkBack edge.2 descendant.name))
      (supply_eq : after.supply =
        (received before edge ancestor descendant).supply)
      (runs : after.failure = none)

/-- An edge does one of these things. -/
theorem flows_propagate
    (paths : List (DeclId × Path))
    (before : Inheriting)
    (edge : Edge) :
    Flows paths before edge (propagate paths before edge) := by
  cases running : before.failure with
  | some error =>
      exact .halted (by simp [running]) (by simp [propagate, running])
  | none =>
      by_cases met : ∃ ancestorPath descendantPath ancestor descendant,
          Meets paths before.root edge
            ancestorPath descendantPath ancestor descendant
      · obtain ⟨ancestorPath, descendantPath, ancestor, descendant, meets⟩ :=
          met
        cases failed : (received before edge ancestor descendant).failure with
        | some error =>
            refine .fails ancestorPath descendantPath ancestor descendant error
              running meets failed ?_ ?_ ?_ <;>
              simp only [propagate, running, meets.ancestor_path,
                meets.descendant_path, meets.ancestor_found,
                meets.descendant_found]
            · rw [received, opening, linkTo] at failed ⊢
              simp only [failed]
            · rw [received, opening, linkTo] at failed ⊢
              simp only [failed]
            · rw [received, opening, linkTo] at failed
              simp only [failed]
        | none =>
            refine .flows ancestorPath descendantPath ancestor descendant
              running meets failed ?_ ?_ ?_ <;>
              simp only [propagate, running, meets.ancestor_path,
                meets.descendant_path, meets.ancestor_found,
                meets.descendant_found]
            · rw [received, opening, linkTo] at failed ⊢
              simp only [failed]
              rfl
            · rw [received, opening, linkTo] at failed ⊢
              simp only [failed]
            · rw [received, opening, linkTo] at failed
              simp only [failed]
      · refine .skipped running
          (fun ancestorPath descendantPath ancestor descendant meets =>
            met ⟨ancestorPath, descendantPath, ancestor, descendant, meets⟩) ?_
        simp only [propagate, running]
        split
        · rename_i ancestorPath descendantPath ancestorLooked descendantLooked
          split
          · rename_i ancestor descendant ancestorFound descendantFound
            exact (met ⟨ancestorPath, descendantPath, ancestor, descendant,
              ancestorLooked, descendantLooked, ancestorFound,
              descendantFound⟩).elim
          · rfl
        · rfl

/-- An edge enters what its paths lead to, if no member is refused. -/
theorem Flows.entered
    {paths : List (DeclId × Path)}
    {before after : Inheriting}
    {edge : Edge}
    {ancestorPath descendantPath : Path}
    {ancestor descendant : Declaration}
    (flows : Flows paths before edge after)
    (running : before.failure = none)
    (meets : Meets paths before.root edge ancestorPath descendantPath
      ancestor descendant)
    (entered : (received before edge ancestor descendant).failure = none) :
    after.failure = none ∧
      after.root =
        (before.root.replaceAt
          (received before edge ancestor descendant).target.sortMembers
          descendantPath).updateAt ancestorPath
            (linkBack edge.2 descendant.name) := by
  cases flows with
  | halted failed => exact (failed running).elim
  | skipped _ apart => exact (apart _ _ _ _ meets).elim
  | fails _ _ _ _ error _ other failed =>
      obtain ⟨rfl, rfl, rfl, rfl⟩ := meets.unique other
      rw [entered] at failed
      cases failed
  | flows _ _ _ _ _ other _ root_eq _ runs =>
      obtain ⟨rfl, rfl, rfl, rfl⟩ := meets.unique other
      exact ⟨runs, root_eq⟩

/-- An edge that is followed reports what the class has received. -/
theorem copies_propagate
    {paths : List (DeclId × Path)}
    {before : Inheriting}
    {edge : Edge}
    {ancestorPath descendantPath : Path}
    {ancestor descendant : Declaration}
    (running : before.failure = none)
    (meets : Meets paths before.root edge ancestorPath descendantPath
      ancestor descendant) :
    (propagate paths before edge).copies =
      (received before edge ancestor descendant).copies := by
  simp only [propagate, running, meets.ancestor_path, meets.descendant_path,
    meets.ancestor_found, meets.descendant_found]
  cases failed : (received before edge ancestor descendant).failure <;>
    rw [received, opening, linkTo] at failed ⊢ <;> simp only [failed]

/--
A fact about trees is kept by an edge if it holds when what the descendant received
stands in its place, in order or not, and is kept by a link back to the descendant.
-/
theorem Flows.root_induction
    {motive : Declaration → Prop}
    {paths : List (DeclId × Path)}
    {before after : Inheriting}
    {edge : Edge}
    (flows : Flows paths before edge after)
    (start : motive before.root)
    (replaced : ∀ ancestorPath descendantPath ancestor descendant,
      Meets paths before.root edge ancestorPath descendantPath
          ancestor descendant →
        let target := (received before edge ancestor descendant).target
        motive (before.root.replaceAt target descendantPath) ∧
          motive (before.root.replaceAt target.sortMembers descendantPath))
    (linked : ∀ ancestorPath descendantPath ancestor descendant,
      Meets paths before.root edge ancestorPath descendantPath
          ancestor descendant →
        ∀ middle found, motive middle → middle.descendant? ancestorPath = some found →
          motive (middle.replaceAt (linkBack edge.2 descendant.name found)
            ancestorPath)) :
    motive after.root := by
  cases flows with
  | halted _ same => exact same ▸ start
  | skipped _ _ same => exact same ▸ start
  | fails _ _ _ _ _ _ meets _ root_eq =>
      rw [root_eq]
      exact (replaced _ _ _ _ meets).1
  | flows ancestorPath descendantPath ancestor descendant _ meets _ root_eq =>
      obtain ⟨-, sortedHolds⟩ := replaced _ _ _ _ meets
      rw [root_eq]
      -- The ancestor may stand inside what was just replaced, so it is looked up anew.
      generalize before.root.replaceAt _ descendantPath = middle at sortedHolds ⊢
      cases leads : middle.descendant? ancestorPath with
      | none =>
          rw [Declaration.updateAt_of_none leads]
          exact sortedHolds
      | some found =>
          rw [Declaration.updateAt_eq_replaceAt leads]
          exact linked _ _ _ _ meets middle found sortedHolds leads

theorem covers_received
    (before : Inheriting)
    (edge : Edge)
    (ancestor descendant : Declaration) :
    Covers before.supply.next
      (received before edge ancestor descendant).supply.next
      descendant.ids (received before edge ancestor descendant).target.ids := by
  have sameIds :
      (linkTo edge.1 ancestor.name descendant).ids = descendant.ids :=
    Declaration.ids_updateInfo _ rfl
  rw [← sameIds]
  exact Injecting.covers_foldl_inject ancestor.name ancestor.children
    (opening before edge ancestor descendant)

/-- Numbers are taken in a tree as they are in a descendant that is replaced. -/
theorem covers_replaceAt
    {first last : Nat}
    {root found replacement : Declaration}
    {path : Path}
    (leads : root.descendant? path = some found)
    (covers : Covers first last found.ids replacement.ids) :
    Covers first last root.ids (root.replaceAt replacement path).ids := by
  obtain ⟨front, back, shape, replacedShape⟩ :=
    Declaration.exists_ids_around leads
  rw [shape, replacedShape replacement]
  exact covers.around front back

/-- An edge takes its numbers from the supply. -/
theorem Flows.covers_root
    {paths : List (DeclId × Path)}
    {before after : Inheriting}
    {edge : Edge}
    (flows : Flows paths before edge after) :
    Covers before.supply.next after.supply.next
      before.root.ids after.root.ids := by
  cases flows with
  | halted _ same => exact same ▸ .refl _ _
  | skipped _ _ same => exact same ▸ .refl _ _
  | fails ancestorPath descendantPath ancestor descendant error _ meets _
      root_eq supply_eq =>
      rw [root_eq, supply_eq]
      exact covers_replaceAt meets.descendant_found
        (covers_received before edge ancestor descendant)
  | flows ancestorPath descendantPath ancestor descendant _ meets _
      root_eq supply_eq =>
      have keeps (found : Declaration) :
          (linkBack edge.2 descendant.name found).ids = found.ids :=
        Declaration.ids_updateInfo _ rfl
      rw [root_eq, supply_eq, Declaration.ids_updateAt keeps]
      refine covers_replaceAt meets.descendant_found ?_
      refine (covers_received before edge ancestor descendant).trans ?_
      exact (Regrouped.of_sortMembers _).covers
        (by rw [Declaration.children_sortMembers]; exact .refl _ _)

/-- What is received changes nothing that is not a member, a group or a link. -/
theorem regrouped_received
    (before : Inheriting)
    (edge : Edge)
    (ancestor descendant : Declaration) :
    Regrouped (linkTo edge.1 ancestor.name descendant)
      (received before edge ancestor descendant).target :=
  Injecting.regrouped_foldl_inject ancestor.name ancestor.children
    (opening before edge ancestor descendant)

theorem id_received
    (before : Inheriting)
    (edge : Edge)
    (ancestor descendant : Declaration) :
    (received before edge ancestor descendant).target.id = descendant.id := by
  rw [(regrouped_received before edge ancestor descendant).id_eq, linkTo,
    Declaration.id_updateInfo]
  rfl

theorem Flows.id_root
    {paths : List (DeclId × Path)}
    {before after : Inheriting}
    {edge : Edge}
    (flows : Flows paths before edge after) :
    after.root.id = before.root.id := by
  cases flows with
  | halted _ same => rw [same]
  | skipped _ _ same => rw [same]
  | fails ancestorPath descendantPath ancestor descendant error _ meets _
      root_eq =>
      rw [root_eq]
      exact Declaration.id_replaceAt meets.descendant_found
        (id_received before edge ancestor descendant)
  | flows ancestorPath descendantPath ancestor descendant _ meets _ root_eq =>
      have keeps (found : Declaration) :
          (linkBack edge.2 descendant.name found).id = found.id :=
        Declaration.id_updateInfo _ found
      rw [root_eq, Declaration.id_updateAt keeps]
      refine Declaration.id_replaceAt meets.descendant_found ?_
      rw [(Regrouped.of_sortMembers _).id_eq]
      exact id_received before edge ancestor descendant

end Inheriting

namespace Hierarchy

/-- What inheriting has done after some edges, at the paths of the first tree. -/
def flowAlong
    (root : Declaration)
    (supply : IdSupply)
    (edges : List Edge) :
    Inheriting :=
  edges.foldl (Inheriting.propagate root.childPaths)
    { root := root, supply := supply }

/-- Resolving a hierarchy lets members flow along its scheduled edges. -/
theorem resolve_eq_flowAlong
    (hierarchy : Hierarchy)
    (root : Declaration)
    (supply : IdSupply) :
    hierarchy.resolve root supply =
      flowAlong root supply (schedule hierarchy.resolvedEdges) :=
  rfl

theorem flowAlong_concat
    (root : Declaration)
    (supply : IdSupply)
    (edges : List Edge)
    (edge : Edge) :
    flowAlong root supply (edges ++ [edge]) =
      (flowAlong root supply edges).propagate root.childPaths edge := by
  simp [flowAlong]

/-- What every edge preserves, a run preserves. -/
theorem flowAlong_induction
    {motive : Inheriting → Prop}
    {root : Declaration}
    {supply : IdSupply}
    {edges : List Edge}
    (start : motive { root := root, supply := supply })
    (step : ∀ before after, ∀ edge ∈ edges,
      Inheriting.Flows root.childPaths before edge after →
        motive before → motive after) :
    motive (flowAlong root supply edges) := by
  induction edges using List.reverseRecOn with
  | nil =>
      exact start
  | append_singleton earlier last inductionHypothesis =>
      rw [flowAlong_concat]
      refine step _ _ last (by simp)
        (Inheriting.flows_propagate root.childPaths _ last) ?_
      exact inductionHypothesis fun before after edge member =>
        step before after edge (List.mem_append_left _ member)

/-- A run takes its numbers from the supply. -/
theorem covers_flowAlong
    (root : Declaration)
    (supply : IdSupply)
    (edges : List Edge) :
    Covers supply.next (flowAlong root supply edges).supply.next
      root.ids (flowAlong root supply edges).root.ids :=
  flowAlong_induction
    (motive := fun inheriting =>
      Covers supply.next inheriting.supply.next root.ids inheriting.root.ids)
    (.refl _ _)
    fun _ _ _ _ flows covers => covers.trans flows.covers_root

/-- More edges take no fewer numbers. -/
theorem next_le_flowAlong_append
    (root : Declaration)
    (supply : IdSupply)
    (earlier later : List Edge) :
    (flowAlong root supply earlier).supply.next ≤
      (flowAlong root supply (earlier ++ later)).supply.next := by
  induction later using List.reverseRecOn with
  | nil => simp only [List.append_nil, Nat.le_refl]
  | append_singleton later last inductionHypothesis =>
      rw [← List.append_assoc, flowAlong_concat]
      have flows := Inheriting.flows_propagate root.childPaths
        (flowAlong root supply (earlier ++ later)) last
      exact Nat.le_trans inductionHypothesis flows.covers_root.le

theorem id_flowAlong
    (root : Declaration)
    (supply : IdSupply)
    (edges : List Edge) :
    (flowAlong root supply edges).root.id = root.id :=
  flowAlong_induction
    (motive := fun inheriting => inheriting.root.id = root.id)
    rfl
    fun _ _ _ _ flows same => flows.id_root.trans same

/-- A run keeps a tree numbered from its supply. -/
theorem numberedFrom_flowAlong
    {root : Declaration}
    {supply : IdSupply}
    (numbered : NumberedFrom supply root)
    (edges : List Edge) :
    NumberedFrom (flowAlong root supply edges).supply
      (flowAlong root supply edges).root :=
  numbered.of_covers (covers_flowAlong root supply edges)

open Inheriting in
/--
That a member of an ancestor is entered at some point of a run, into the class at a path,
which has received what the run entered before.
-/
inductive EntersAt
    (root : Declaration)
    (supply : IdSupply)
    (edges : List Edge) :
    Path → String → Injecting → Declaration → Prop where
  | intro
      {earlier later : List Edge}
      {edge : Edge}
      {ancestorPath descendantPath : Path}
      {ancestor descendant member : Declaration}
      {entered left : List Declaration}
      (edges_eq : edges = earlier ++ edge :: later)
      (running : (flowAlong root supply earlier).failure = none)
      (meets : Meets root.childPaths (flowAlong root supply earlier).root edge
        ancestorPath descendantPath ancestor descendant)
      (members_eq : ancestor.children = entered ++ member :: left) :
      EntersAt root supply edges descendantPath ancestor.name
        (entered.foldl (Injecting.inject ancestor.name)
          (opening (flowAlong root supply earlier) edge ancestor descendant))
        member

end Hierarchy

end ApiTree.Decl
