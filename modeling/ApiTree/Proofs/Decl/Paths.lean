import ApiTree.Proofs.Decl.Owned

namespace ApiTree.Decl

/-!
# Following paths

A path is followed one member at a time.  What stands at a path can be replaced:
the nodes of the tree are then those before it, those of the replacement, and
those after it.  The paths of a tree are exactly those of its descendants, and a
number that occurs only once has one path.
-/

namespace Declaration

/-! ## Descendants -/

/-- The first step of a path leads to a member. -/
theorem descendant?_cons_eq_some_iff
    {declaration found : Declaration}
    {index : Nat}
    {rest : Path} :
    declaration.descendant? (index :: rest) = some found ↔
      ∃ child, declaration.children[index]? = some child ∧
        child.descendant? rest = some found := by
  simp [descendant?, Option.bind_eq_some_iff]

theorem descendant?_singleton
    (declaration : Declaration)
    (index : Nat) :
    declaration.descendant? [index] = declaration.children[index]? := by
  cases found : declaration.children[index]? <;> simp [descendant?, found]

theorem descendant?_append
    (declaration : Declaration)
    (first second : Path) :
    declaration.descendant? (first ++ second) =
      (declaration.descendant? first).bind (·.descendant? second) := by
  induction first generalizing declaration with
  | nil =>
      rfl
  | cons index rest inductionHypothesis =>
      simp only [List.cons_append, descendant?]
      cases declaration.children[index]? with
      | none =>
          rfl
      | some child =>
          exact inductionHypothesis child

/-- What stands around a path that leads somewhere leads somewhere too. -/
theorem exists_descendant?_of_prefix
    {declaration found : Declaration}
    {path front : Path}
    (leads : declaration.descendant? path = some found)
    (isFront : front <+: path) :
    ∃ owner, declaration.descendant? front = some owner := by
  obtain ⟨rest, rfl⟩ := isFront
  rw [descendant?_append, Option.bind_eq_some_iff] at leads
  obtain ⟨owner, ownerFound, -⟩ := leads
  exact ⟨owner, ownerFound⟩

/-- A descendant is one of the nodes. -/
theorem infos_subset_of_descendant?
    {declaration found : Declaration}
    {path : Path}
    (leads : declaration.descendant? path = some found) :
    found.infos ⊆ declaration.infos := by
  induction path generalizing declaration with
  | nil =>
      cases leads
      exact List.Subset.refl _
  | cons index rest inductionHypothesis =>
      obtain ⟨child, isChild, below⟩ :=
        descendant?_cons_eq_some_iff.mp leads
      exact List.Subset.trans (inductionHypothesis below)
        (infos_subset_of_child (List.mem_of_getElem? isChild))

theorem ids_subset_of_descendant?
    {declaration found : Declaration}
    {path : Path}
    (leads : declaration.descendant? path = some found) :
    found.ids ⊆ declaration.ids := by
  rw [ids_eq_map_infos, ids_eq_map_infos]
  exact List.map_subset _ (infos_subset_of_descendant? leads)

/-- What is found further down is owned. -/
theorem id_mem_ownedIds_of_descendant?
    {declaration found : Declaration}
    {path : Path}
    (leads : declaration.descendant? path = some found)
    (below : path ≠ []) :
    found.id ∈ declaration.ownedIds := by
  cases path with
  | nil =>
      exact (below rfl).elim
  | cons index rest =>
      obtain ⟨child, isChild, leadsOn⟩ :=
        descendant?_cons_eq_some_iff.mp leads
      exact ids_subset_ownedIds (List.mem_of_getElem? isChild)
        (ids_subset_of_descendant? leadsOn found.id_mem_ids)

/-- That a declaration of a number is found on some path. -/
def Reaches
    (declaration : Declaration)
    (number : DeclId) :
    Prop :=
  ∃ path found, declaration.descendant? path = some found ∧ found.id = number

/-- That a declaration of a name and a number is found on some path. -/
def Names
    (declaration : Declaration)
    (name : String)
    (number : DeclId) :
    Prop :=
  ∃ path found, declaration.descendant? path = some found ∧
    found.name = name ∧ found.id = number

/-- That a declaration of a name and a number is found below the top. -/
def NamesBelow
    (declaration : Declaration)
    (name : String)
    (number : DeclId) :
    Prop :=
  ∃ child ∈ declaration.children, child.Names name number

/-- What is found is the declaration itself or is found below it. -/
theorem names_iff
    {declaration : Declaration}
    {name : String}
    {number : DeclId} :
    declaration.Names name number ↔
      (declaration.name = name ∧ declaration.id = number) ∨
        declaration.NamesBelow name number := by
  constructor
  · rintro ⟨path, found, leads, isNamed, isNumber⟩
    cases path with
    | nil =>
        cases leads
        exact .inl ⟨isNamed, isNumber⟩
    | cons index rest =>
        obtain ⟨child, isChild, leadsOn⟩ :=
          descendant?_cons_eq_some_iff.mp leads
        exact .inr ⟨child, List.mem_of_getElem? isChild, rest, found, leadsOn,
          isNamed, isNumber⟩
  · rintro (⟨isNamed, isNumber⟩ | ⟨child, member, rest, found, leadsOn, isNamed,
      isNumber⟩)
    · exact ⟨[], declaration, rfl, isNamed, isNumber⟩
    · obtain ⟨index, isChild⟩ := List.getElem?_of_mem member
      exact ⟨index :: rest, found,
        descendant?_cons_eq_some_iff.mpr ⟨child, isChild, leadsOn⟩, isNamed,
        isNumber⟩

theorem Names.reaches
    {declaration : Declaration}
    {name : String}
    {number : DeclId}
    (names : declaration.Names name number) :
    declaration.Reaches number := by
  obtain ⟨path, found, leads, -, isNumber⟩ := names
  exact ⟨path, found, leads, isNumber⟩

/-- A number that is found on some path is one of the numbers. -/
theorem Reaches.mem_ids
    {declaration : Declaration}
    {number : DeclId}
    (reaches : declaration.Reaches number) :
    number ∈ declaration.ids := by
  obtain ⟨path, found, leads, rfl⟩ := reaches
  exact ids_subset_of_descendant? leads found.id_mem_ids

/-! ## Replacing -/

@[simp] theorem replaceAt_nil (declaration replacement : Declaration) :
    declaration.replaceAt replacement [] = replacement :=
  rfl

/-- Replacing below a member replaces in that member. -/
theorem replaceAt_cons
    {declaration child : Declaration}
    {index : Nat}
    (found : declaration.children[index]? = some child)
    (replacement : Declaration)
    (rest : Path) :
    declaration.replaceAt replacement (index :: rest) =
      declaration.setChildren
        (declaration.children.set index (child.replaceAt replacement rest)) := by
  simp [replaceAt, found]

@[simp] theorem info_replaceAt_cons
    (declaration replacement : Declaration)
    (index : Nat)
    (rest : Path) :
    (declaration.replaceAt replacement (index :: rest)).info =
      declaration.info := by
  simp only [replaceAt]
  split <;> simp

/-- A replacement of the same number leaves the number at the top alone. -/
theorem id_replaceAt
    {declaration found replacement : Declaration}
    {path : Path}
    (leads : declaration.descendant? path = some found)
    (sameId : replacement.id = found.id) :
    (declaration.replaceAt replacement path).id = declaration.id := by
  cases path with
  | nil =>
      cases leads
      exact sameId
  | cons index rest =>
      rw [id, info_replaceAt_cons]
      rfl

theorem descendant?_replaceAt_self
    {declaration found : Declaration}
    {path : Path}
    (leads : declaration.descendant? path = some found)
    (replacement : Declaration) :
    (declaration.replaceAt replacement path).descendant? path =
      some replacement := by
  induction path generalizing declaration with
  | nil =>
      rfl
  | cons index rest inductionHypothesis =>
      obtain ⟨child, isChild, below⟩ :=
        descendant?_cons_eq_some_iff.mp leads
      rw [replaceAt_cons isChild, descendant?_cons_eq_some_iff]
      refine ⟨child.replaceAt replacement rest, ?_,
        inductionHypothesis below⟩
      obtain ⟨inside, -⟩ := List.getElem?_eq_some_iff.mp isChild
      rw [children_setChildren, List.getElem?_set_self inside]

/-- Replacing a descendant changes nothing on the paths that lead elsewhere. -/
theorem descendant?_replaceAt_of_not_prefix
    {declaration : Declaration}
    {path other : Path}
    (replacement : Declaration)
    (notBelow : ¬ path <+: other)
    (notAbove : ¬ other <+: path) :
    (declaration.replaceAt replacement path).descendant? other =
      declaration.descendant? other := by
  induction path generalizing declaration other with
  | nil =>
      exact (notBelow List.nil_prefix).elim
  | cons index rest inductionHypothesis =>
      cases other with
      | nil =>
          exact (notAbove List.nil_prefix).elim
      | cons otherIndex otherRest =>
          cases isChild : declaration.children[index]? with
          | none =>
              simp [replaceAt, isChild]
          | some child =>
              rw [replaceAt_cons isChild, descendant?, descendant?,
                children_setChildren]
              by_cases same : index = otherIndex
              · subst same
                obtain ⟨inside, -⟩ := List.getElem?_eq_some_iff.mp isChild
                rw [List.getElem?_set_self inside, isChild]
                exact inductionHypothesis
                  (fun below =>
                    notBelow (List.cons_prefix_cons.mpr ⟨rfl, below⟩))
                  (fun above =>
                    notAbove (List.cons_prefix_cons.mpr ⟨rfl, above⟩))
              · rw [List.getElem?_set_ne same]

/--
The information in a tree with a descendant replaced is that before the
descendant, that of the replacement, and that after the descendant.
-/
theorem exists_infos_around
    {declaration found : Declaration}
    {path : Path}
    (leads : declaration.descendant? path = some found) :
    ∃ before after,
      declaration.infos = before ++ (found.infos ++ after) ∧
        ∀ replacement,
          (declaration.replaceAt replacement path).infos =
            before ++ (replacement.infos ++ after) := by
  induction path generalizing declaration with
  | nil =>
      cases leads
      exact ⟨[], [], by simp, fun replacement => by simp⟩
  | cons index rest inductionHypothesis =>
      obtain ⟨child, isChild, below⟩ :=
        descendant?_cons_eq_some_iff.mp leads
      obtain ⟨inBefore, inAfter, childShape, replacedShape⟩ :=
        inductionHypothesis below
      obtain ⟨front, back, shape, -, setShape⟩ := exists_around isChild
      cases declaration with
      | node info children signatures parameters =>
          simp only [children_node] at isChild shape setShape
          refine
            ⟨info :: (front.flatMap infos ++ inBefore),
              inAfter ++ (back.flatMap infos ++
                (signatures.flatMap infos ++ parameters.flatMap infos)),
              ?_, ?_⟩
          · rw [infos_node, shape]
            simp [childShape]
          · intro replacement
            rw [replaceAt_cons (by simpa using isChild), children_node,
              setShape, setChildren, infos_node]
            simp [replacedShape replacement]

theorem exists_ids_around
    {declaration found : Declaration}
    {path : Path}
    (leads : declaration.descendant? path = some found) :
    ∃ before after,
      declaration.ids = before ++ (found.ids ++ after) ∧
        ∀ replacement,
          (declaration.replaceAt replacement path).ids =
            before ++ (replacement.ids ++ after) := by
  obtain ⟨before, after, shape, replacedShape⟩ := exists_infos_around leads
  refine ⟨before.map Info.id, after.map Info.id, ?_, ?_⟩
  · simp [ids_eq_map_infos, shape]
  · intro replacement
    simp [ids_eq_map_infos, replacedShape replacement]

theorem nodup_ids_of_descendant?
    {declaration found : Declaration}
    {path : Path}
    (distinct : declaration.ids.Nodup)
    (leads : declaration.descendant? path = some found) :
    found.ids.Nodup := by
  obtain ⟨before, after, shape, -⟩ := exists_ids_around leads
  rw [shape] at distinct
  exact distinct.of_append_right.of_append_left

theorem updateAt_eq_replaceAt
    {declaration found : Declaration}
    {path : Path}
    (leads : declaration.descendant? path = some found)
    (change : Declaration → Declaration) :
    declaration.updateAt path change =
      declaration.replaceAt (change found) path := by
  simp [updateAt, leads]

theorem updateAt_of_none
    {declaration : Declaration}
    {path : Path}
    (leadsNowhere : declaration.descendant? path = none)
    (change : Declaration → Declaration) :
    declaration.updateAt path change = declaration := by
  simp [updateAt, leadsNowhere]

theorem ids_updateAt
    {change : Declaration → Declaration}
    (keeps : ∀ found, (change found).ids = found.ids)
    (declaration : Declaration)
    (path : Path) :
    (declaration.updateAt path change).ids = declaration.ids := by
  cases leads : declaration.descendant? path with
  | none =>
      rw [updateAt_of_none leads]
  | some found =>
      obtain ⟨before, after, shape, replacedShape⟩ := exists_ids_around leads
      rw [updateAt_eq_replaceAt leads, replacedShape, keeps, shape]

theorem id_updateAt
    {change : Declaration → Declaration}
    (keeps : ∀ found, (change found).id = found.id)
    (declaration : Declaration)
    (path : Path) :
    (declaration.updateAt path change).id = declaration.id := by
  cases leads : declaration.descendant? path with
  | none =>
      rw [updateAt_of_none leads]
  | some found =>
      rw [updateAt_eq_replaceAt leads]
      exact id_replaceAt leads (keeps found)

/-! ## The paths of a tree -/

theorem mem_pathsOfChildren_iff
    {base : Path}
    {index : Nat}
    {members : List Declaration}
    {entry : DeclId × Path} :
    entry ∈ pathsOfChildren base index members ↔
      ∃ (offset : Nat) (child : Declaration),
        members[offset]? = some child ∧
          entry ∈ child.pathsFrom (base ++ [index + offset]) := by
  induction members generalizing index with
  | nil =>
      simp [pathsOfChildren]
  | cons first rest inductionHypothesis =>
      rw [pathsOfChildren, List.mem_append, inductionHypothesis]
      constructor
      · rintro (⟨offset, child, isChild, inChild⟩ | inFirst)
        · refine ⟨offset + 1, child, by simpa using isChild, ?_⟩
          rwa [Nat.add_right_comm, Nat.add_assoc] at inChild
        · exact ⟨0, first, rfl, by simpa using inFirst⟩
      · rintro ⟨offset, child, isChild, inChild⟩
        cases offset with
        | zero =>
            obtain rfl : first = child := by simpa using isChild
            exact .inr (by simpa using inChild)
        | succ offset =>
            refine .inl ⟨offset, child, by simpa using isChild, ?_⟩
            rwa [Nat.add_right_comm, Nat.add_assoc]

/-- The paths below a base are those of the descendants. -/
theorem mem_pathsFrom_iff
    {declaration : Declaration}
    {base path : Path}
    {number : DeclId} :
    (number, path) ∈ declaration.pathsFrom base ↔
      ∃ (below : Path) (found : Declaration),
        path = base ++ below ∧
          declaration.descendant? below = some found ∧
          found.id = number := by
  induction declaration using ownedInduction generalizing base path with
  | node info children signatures parameters childrenHold _ _ =>
      rw [pathsFrom, List.mem_cons, mem_pathsOfChildren_iff]
      constructor
      · rintro (isTop | ⟨offset, child, isChild, inChild⟩)
        · cases isTop
          exact ⟨[], _, by simp, rfl, rfl⟩
        · obtain ⟨below, found, rfl, leads, isNumber⟩ :=
            (childrenHold child (List.mem_of_getElem? isChild)).mp inChild
          refine ⟨offset :: below, found, by simp, ?_, isNumber⟩
          exact descendant?_cons_eq_some_iff.mpr ⟨child, isChild, leads⟩
      · rintro ⟨below, found, rfl, leads, isNumber⟩
        cases below with
        | nil =>
            cases leads
            exact .inl (by simp [← isNumber])
        | cons offset rest =>
            obtain ⟨child, isChild, leadsOn⟩ :=
              descendant?_cons_eq_some_iff.mp leads
            refine .inr ⟨offset, child, isChild, ?_⟩
            exact (childrenHold child (List.mem_of_getElem? isChild)).mpr
              ⟨rest, found, by simp, leadsOn, isNumber⟩

/-- Members have as many paths for a number as they have nodes of it, or fewer. -/
theorem count_pathsOfChildren_le
    {number : DeclId}
    {members : List Declaration}
    (each : ∀ child ∈ members, ∀ base,
      ((child.pathsFrom base).map (·.1)).count number ≤
        child.ids.count number)
    (base : Path)
    (index : Nat) :
    ((pathsOfChildren base index members).map (·.1)).count number ≤
      (members.flatMap ids).count number := by
  induction members generalizing index with
  | nil =>
      simp [pathsOfChildren]
  | cons first rest inductionHypothesis =>
      have restLe :=
        inductionHypothesis
          (fun child member => each child (List.mem_cons_of_mem _ member))
          (index + 1)
      have firstLe := each first List.mem_cons_self (base ++ [index])
      simp only [pathsOfChildren, List.map_append, List.count_append,
        List.flatMap_cons]
      omega

theorem count_pathsFrom_le
    (number : DeclId)
    (declaration : Declaration)
    (base : Path) :
    ((declaration.pathsFrom base).map (·.1)).count number ≤
      declaration.ids.count number := by
  induction declaration using ownedInduction generalizing base with
  | node info children signatures parameters childrenHold _ _ =>
      have childrenLe :=
        count_pathsOfChildren_le childrenHold base 0
      simp only [pathsFrom, ids_node, List.map_cons, List.count_cons,
        List.count_append]
      omega

/-- The first entries are among the entries. -/
theorem mem_of_mem_keepFirst
    {seen : List DeclId}
    {entries : List (DeclId × Path)}
    {entry : DeclId × Path}
    (kept : entry ∈ keepFirst seen entries) :
    entry ∈ entries := by
  induction entries generalizing seen with
  | nil =>
      cases kept
  | cons first rest inductionHypothesis =>
      obtain ⟨number, path⟩ := first
      rw [keepFirst] at kept
      split at kept
      · exact List.mem_cons_of_mem _ (inductionHypothesis kept)
      · rcases List.mem_cons.mp kept with isFirst | inRest
        · exact isFirst ▸ List.mem_cons_self
        · exact List.mem_cons_of_mem _ (inductionHypothesis inRest)

/-- Every number that was not seen before keeps an entry. -/
theorem exists_mem_keepFirst
    {seen : List DeclId}
    {entries : List (DeclId × Path)}
    {number : DeclId}
    (listed : number ∈ entries.map (·.1))
    (unseen : number ∉ seen) :
    ∃ path, (keepFirst seen entries).lookup number = some path := by
  induction entries generalizing seen with
  | nil =>
      cases listed
  | cons first rest inductionHypothesis =>
      obtain ⟨firstNumber, firstPath⟩ := first
      rw [keepFirst]
      by_cases same : number = firstNumber
      · subst same
        rw [if_neg (by simpa using unseen)]
        exact ⟨firstPath, List.lookup_cons_self⟩
      · have inRest : number ∈ rest.map (·.1) := by
          simpa [same] using listed
        split
        · exact inductionHypothesis inRest unseen
        · obtain ⟨path, found⟩ :=
            inductionHypothesis inRest (List.not_mem_cons_of_ne_of_not_mem same unseen)
          refine ⟨path, ?_⟩
          rw [List.lookup_cons, beq_eq_false_iff_ne.mpr same]
          exact found

theorem mem_of_lookup_eq_some
    {β : Type}
    {entries : List (DeclId × β)}
    {number : DeclId}
    {found : β}
    (looked : entries.lookup number = some found) :
    (number, found) ∈ entries := by
  obtain ⟨before, after, rfl, -⟩ := List.lookup_eq_some_iff.mp looked
  simp

/-- The path that is kept for a number leads to a declaration of that number. -/
theorem exists_of_lookup_childPaths
    {declaration : Declaration}
    {number : DeclId}
    {path : Path}
    (looked : declaration.childPaths.lookup number = some path) :
    ∃ found, declaration.descendant? path = some found ∧
      found.id = number := by
  have listed := mem_of_mem_keepFirst (mem_of_lookup_eq_some looked)
  obtain ⟨below, found, rfl, leads, isNumber⟩ :=
    mem_pathsFrom_iff.mp listed
  exact ⟨found, by simpa using leads, isNumber⟩

/-- Two descendants of one number are one, if no number occurs twice. -/
theorem path_eq_of_id_eq
    {declaration first second : Declaration}
    {firstPath secondPath : Path}
    (distinct : declaration.ids.Nodup)
    (firstLeads : declaration.descendant? firstPath = some first)
    (secondLeads : declaration.descendant? secondPath = some second)
    (sameId : first.id = second.id) :
    firstPath = secondPath := by
  have once :
      ((declaration.pathsFrom []).map (·.1)).Nodup :=
    List.nodup_iff_count_le_one.mpr fun number =>
      Nat.le_trans (count_pathsFrom_le number declaration [])
        (List.nodup_iff_count_le_one.mp distinct number)
  have firstListed :
      (first.id, firstPath) ∈ declaration.pathsFrom [] :=
    mem_pathsFrom_iff.mpr ⟨firstPath, first, rfl, firstLeads, rfl⟩
  have secondListed :
      (first.id, secondPath) ∈ declaration.pathsFrom [] :=
    mem_pathsFrom_iff.mpr
      ⟨secondPath, second, rfl, secondLeads, sameId.symm⟩
  have sameEntry :=
    List.inj_on_of_nodup_map once firstListed secondListed rfl
  exact congrArg Prod.snd sameEntry

/-- A path is kept for the number of every descendant. -/
theorem exists_lookup_childPaths
    {declaration found : Declaration}
    {path : Path}
    (leads : declaration.descendant? path = some found) :
    ∃ kept, declaration.childPaths.lookup found.id = some kept := by
  have listed : (found.id, path) ∈ declaration.pathsFrom [] :=
    mem_pathsFrom_iff.mpr ⟨path, found, rfl, leads, rfl⟩
  exact exists_mem_keepFirst (List.mem_map.mpr ⟨_, listed, rfl⟩)
    (List.not_mem_nil : found.id ∉ [])

/-- The path of a descendant is found under its number. -/
theorem lookup_childPaths
    {declaration found : Declaration}
    {path : Path}
    (distinct : declaration.ids.Nodup)
    (leads : declaration.descendant? path = some found) :
    declaration.childPaths.lookup found.id = some path := by
  obtain ⟨kept, looked⟩ := exists_lookup_childPaths leads
  obtain ⟨other, otherLeads, sameId⟩ := exists_of_lookup_childPaths looked
  rw [path_eq_of_id_eq distinct leads otherLeads sameId.symm]
  exact looked

end Declaration

end ApiTree.Decl
