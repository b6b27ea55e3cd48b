import ApiTree.Proofs.Hierarchy.Survival

namespace ApiTree.Decl

/-!
# Which declarations an edge reaches

Both ends of an edge are looked for at paths that were taken down before any
member flowed.  A path leads to the declaration it was taken down for unless
something around that declaration was filled in meanwhile.  Then the declaration
is gone, and its path leads nowhere or into what was filled in.
-/

namespace Inheriting

/-- The tree after members flowed from one declaration to another. -/
def flowedRoot
    (before : Inheriting)
    (edge : Edge)
    (ancestorPath descendantPath : Path)
    (ancestor descendant : Declaration) :
    Declaration :=
  let entered := received before edge ancestor descendant
  match entered.failure with
  | some _ => before.root.replaceAt entered.target descendantPath
  | none =>
      (before.root.replaceAt entered.target.sortMembers descendantPath).updateAt
        ancestorPath (linkBack edge.2 descendant.name)

/--
An edge is followed: the members of the ancestor are read, and they and the link
are entered into the descendant.
-/
structure Follows
    (paths : List (DeclId × Path))
    (before : Inheriting)
    (edge : Edge)
    (after : Inheriting)
    (ancestor descendant : Declaration) :
    Prop where
  meets : ∃ ancestorPath descendantPath,
    Meets paths before.root edge ancestorPath descendantPath
        ancestor descendant ∧
      after.root =
        flowedRoot before edge ancestorPath descendantPath ancestor descendant

variable
    {paths : List (DeclId × Path)}
    {before after : Inheriting}
    {edge : Edge}

/-- An edge whose paths lead to two declarations is followed between them. -/
theorem Flows.follows
    {ancestorPath descendantPath : Path}
    {ancestor descendant : Declaration}
    (flows : Flows paths before edge after)
    (running : before.failure = none)
    (meets : Meets paths before.root edge ancestorPath descendantPath
      ancestor descendant) :
    Follows paths before edge after ancestor descendant := by
  cases flows with
  | halted failed => exact (failed running).elim
  | skipped _ apart => exact (apart _ _ _ _ meets).elim
  | fails _ _ _ _ error _ other failed root_eq =>
      obtain ⟨rfl, rfl, rfl, rfl⟩ := meets.unique other
      refine ⟨ancestorPath, descendantPath, meets, ?_⟩
      simp only [root_eq, flowedRoot, failed]
  | flows _ _ _ _ _ other entered root_eq =>
      obtain ⟨rfl, rfl, rfl, rfl⟩ := meets.unique other
      refine ⟨ancestorPath, descendantPath, meets, ?_⟩
      simp only [root_eq, flowedRoot, entered]

/-- An edge one of whose paths leads nowhere is skipped. -/
theorem Flows.skips
    (flows : Flows paths before edge after)
    (apart : ∀ ancestorPath descendantPath ancestor descendant,
      ¬ Meets paths before.root edge
        ancestorPath descendantPath ancestor descendant) :
    after = before := by
  cases flows with
  | halted _ same => exact same
  | skipped _ _ same => exact same
  | fails _ _ _ _ _ _ meets => exact (apart _ _ _ _ meets).elim
  | flows _ _ _ _ _ meets => exact (apart _ _ _ _ meets).elim

end Inheriting

namespace Hierarchy

open Inheriting

variable
    {root : Declaration}
    {supply : IdSupply}
    {known earlier : List Edge}

/-- That something around a declaration was filled in while members flowed. -/
def Buried
    (root : Declaration)
    (supply : IdSupply)
    (known : List Edge)
    (now : Declaration)
    (number : DeclId) :
    Prop :=
  ∃ path, root.childPaths.lookup number = some path ∧
    FilledAround supply.next (ExtendsAt root known) root now path

/-- The path of a declaration that is not buried leads to it. -/
theorem exists_of_not_buried
    {now : Declaration}
    {number : DeclId}
    {path : Path}
    (evolves : Evolves supply.next (ExtendsAt root known) root now)
    (looked : root.childPaths.lookup number = some path)
    (notBuried : ¬ Buried root supply known now number) :
    ∃ found, now.descendant? path = some found ∧ found.id = number := by
  obtain ⟨declared, leads, isNumber⟩ :=
    Declaration.exists_of_lookup_childPaths looked
  have notFilled :
      ¬ FilledAround supply.next (ExtendsAt root known) root now path :=
    fun filled => notBuried ⟨path, looked, filled⟩
  obtain ⟨first, kept, firstLeads, keptLeads, isKept⟩ :=
    staysAt_of_not_filledAround evolves leads notFilled (List.prefix_refl path)
  obtain rfl : declared = first :=
    Option.some.inj (leads.symm.trans firstLeads)
  exact ⟨kept, keptLeads, isKept.id_eq.trans isNumber⟩

/-- The path of a buried declaration leads to nothing that was there at first. -/
theorem Buried.next_le
    {now found : Declaration}
    {number : DeclId}
    {path : Path}
    (buried : Buried root supply known now number)
    (looked : root.childPaths.lookup number = some path)
    (leads : now.descendant? path = some found) :
    supply.next ≤ found.id := by
  obtain ⟨other, otherLooked, filled⟩ := buried
  obtain rfl : other = path :=
    Option.some.inj (otherLooked.symm.trans looked)
  exact filled.floor_le leads

/-- A declaration that is buried is not in the tree any more. -/
theorem Buried.not_reaches
    {now : Declaration}
    {number : DeclId}
    (buried : Buried root supply known now number)
    (numbered : NumberedFrom supply root)
    (evolves : Evolves supply.next (ExtendsAt root known) root now) :
    ¬ now.Reaches number := by
  obtain ⟨path, looked, filled⟩ := buried
  obtain ⟨declared, leads, rfl⟩ :=
    Declaration.exists_of_lookup_childPaths looked
  exact filled.not_reaches numbered evolves leads

/-- What becomes of an edge when its turn comes, by what became of its two ends. -/
structure EdgeOutcome
    (root : Declaration)
    (supply : IdSupply)
    (known : List Edge)
    (before : Inheriting)
    (edge : Edge)
    (after : Inheriting) :
    Prop where
  /-- Between two declarations that are not buried members flow as the edge says. -/
  delivers :
    root.Reaches edge.1 → root.Reaches edge.2 →
      ¬ Buried root supply known before.root edge.1 →
        ¬ Buried root supply known before.root edge.2 →
          ∃ ancestor descendant,
            Follows root.childPaths before edge after ancestor descendant ∧
              ancestor.id = edge.1 ∧ descendant.id = edge.2
  /-- An edge of a declaration that was never in the tree is skipped. -/
  skips : ¬ root.Reaches edge.1 ∨ ¬ root.Reaches edge.2 → after = before
  /-- An edge of a buried declaration is skipped or strays into what is new. -/
  strays :
    Buried root supply known before.root edge.1 ∨
        Buried root supply known before.root edge.2 →
      after = before ∨
        ∃ ancestor descendant,
          Follows root.childPaths before edge after ancestor descendant ∧
            (supply.next ≤ ancestor.id ∨ supply.next ≤ descendant.id)
  /-- What is buried is no longer in the tree. -/
  gone : NumberedFrom supply root → ∀ number,
    Buried root supply known before.root number →
      ¬ before.root.Reaches number

/-- A number that is found on some path has a path kept for it. -/
theorem exists_lookup_of_reaches
    {number : DeclId}
    (reaches : root.Reaches number) :
    ∃ path, root.childPaths.lookup number = some path := by
  obtain ⟨path, found, leads, rfl⟩ := reaches
  exact Declaration.exists_lookup_childPaths leads

/-- Every edge has this outcome when its turn comes. -/
theorem edgeOutcome_flowAlong
    (included : earlier ⊆ known)
    (edge : Edge)
    (running : (flowAlong root supply earlier).failure = none) :
    EdgeOutcome root supply known (flowAlong root supply earlier) edge
      (flowAlong root supply (earlier ++ [edge])) := by
  have evolves := evolves_flowAlong included root supply
  have flows :
      Flows root.childPaths (flowAlong root supply earlier) edge
        (flowAlong root supply (earlier ++ [edge])) := by
    rw [flowAlong_concat]
    exact flows_propagate root.childPaths _ edge
  constructor
  · intro ancestorReached descendantReached ancestorStands descendantStands
    obtain ⟨ancestorPath, ancestorLooked⟩ :=
      exists_lookup_of_reaches ancestorReached
    obtain ⟨descendantPath, descendantLooked⟩ :=
      exists_lookup_of_reaches descendantReached
    obtain ⟨ancestor, ancestorLeads, isAncestor⟩ :=
      exists_of_not_buried evolves ancestorLooked ancestorStands
    obtain ⟨descendant, descendantLeads, isDescendant⟩ :=
      exists_of_not_buried evolves descendantLooked descendantStands
    have meets :
        Meets root.childPaths (flowAlong root supply earlier).root edge
          ancestorPath descendantPath ancestor descendant :=
      ⟨ancestorLooked, descendantLooked, ancestorLeads, descendantLeads⟩
    exact ⟨ancestor, descendant, flows.follows running meets, isAncestor,
      isDescendant⟩
  · intro absent
    refine flows.skips ?_
    intro ancestorPath descendantPath ancestor descendant meets
    rcases absent with ancestorAbsent | descendantAbsent
    · exact ancestorAbsent ⟨ancestorPath,
        Declaration.exists_of_lookup_childPaths meets.ancestor_path⟩
    · exact descendantAbsent ⟨descendantPath,
        Declaration.exists_of_lookup_childPaths meets.descendant_path⟩
  · intro buried
    -- Both paths may still lead somewhere, but not to what they were taken for.
    by_cases met : ∃ ancestorPath descendantPath ancestor descendant,
        Meets root.childPaths (flowAlong root supply earlier).root edge
          ancestorPath descendantPath ancestor descendant
    · obtain ⟨ancestorPath, descendantPath, ancestor, descendant, meets⟩ := met
      refine .inr ⟨ancestor, descendant, flows.follows running meets, ?_⟩
      rcases buried with ancestorBuried | descendantBuried
      · exact .inl
          (ancestorBuried.next_le meets.ancestor_path meets.ancestor_found)
      · exact .inr
          (descendantBuried.next_le meets.descendant_path
            meets.descendant_found)
    · refine .inl (flows.skips ?_)
      intro ancestorPath descendantPath ancestor descendant meets
      exact met ⟨ancestorPath, descendantPath, ancestor, descendant, meets⟩
  · intro numbered number buried
    exact buried.not_reaches numbered evolves

/-! ## Trees in which nothing is buried -/

/--
That every member on the way down a path has a summary where its owner extends
another declaration.
-/
def DocumentedAlong
    (root : Declaration)
    (known : List Edge)
    (path : Path) :
    Prop :=
  ∀ (owner : Path) (index : Nat) (declared : Declaration),
    owner ++ [index] <+: path →
      ExtendsAt root known owner →
        root.descendant? (owner ++ [index]) = some declared →
          declared.info.hasSummary = true

/-- Along documented members nothing is filled in. -/
theorem DocumentedAlong.not_filledAt
    {now : Declaration}
    {path front : Path}
    (documented : DocumentedAlong root known path)
    (isFront : front <+: path) :
    ¬ FilledAt supply.next (ExtendsAt root known) root now front := by
  rintro ⟨owner, index, declared, filled, rfl, ownerExtends, leads, -, isFilled⟩
  have hasSummary := documented owner index declared isFront ownerExtends leads
  rw [isFilled.undocumented] at hasSummary
  cases hasSummary

end Hierarchy

end ApiTree.Decl
