import ApiTree.Proofs.Convert.Links
import ApiTree.Proofs.Convert.References
import ApiTree.Proofs.Hierarchy.Standing

namespace ApiTree.Convert

open ApiTree.Decl
open ApiTree.Dump (ApiObject Argument Docstring Facts)
open ApiTree.Interp (TypeParser)
open ApiTree.Resolve (Answers Resolved)

/-!
# Targets of links in a converted project

Inheriting links classes to each other and members to their origins.  When
references are pointed at declarations afterwards, a link follows the newest
declaration of its name that is in the tree, and keeps its target if there is
none.  So its target is in the tree unless it was lost when members flowed, and
between classes it changes only if a newer declaration bears the same name.
-/

/-- That a declaration of a project was lost when members were inherited. -/
def LostInProject
    (options : Options)
    (modules : List ApiObject)
    (number : DeclId) :
    Prop :=
  Hierarchy.LostAlong (assemble options modules).1
    (assemble options modules).2.supply
    (Hierarchy.schedule (assemble options modules).2.hierarchy.resolvedEdges)
    number

section

variable
    {options : Options}
    {modules : List ApiObject}

/-- What was lost when members were inherited is not in the inherited tree. -/
theorem LostInProject.not_mem_ids
    {number : DeclId}
    (lost : LostInProject options modules number) :
    number ∉ (inherited options modules).root.ids :=
  Hierarchy.LostAlong.not_mem_ids (numberedFrom_assemble options modules) lost

theorem unlinked_assemble
    (options : Options)
    (modules : List ApiObject) :
    (assemble options modules).1.Everywhere fun info => info.links = [] := by
  obtain ⟨plain, -⟩ := enrolls_assemble options modules
  exact fun info member => (plain info member).links_eq_nil

/-- In the inherited tree every link leads to what it names, or that was lost. -/
theorem linksStand_inherited
    (options : Options)
    (modules : List ApiObject) :
    (inherited options modules).root.Everywhere
      (LinksHold
        (Hierarchy.ClassLinkStands (assemble options modules).1
          (assemble options modules).2.supply
          (assemble options modules).2.hierarchy.resolvedEdges
          (Hierarchy.schedule
            (assemble options modules).2.hierarchy.resolvedEdges))
        (Hierarchy.OriginLinkStands (assemble options modules).1
          (assemble options modules).2.supply
          (Hierarchy.schedule
            (assemble options modules).2.hierarchy.resolvedEdges))) :=
  Hierarchy.linksStand_flowAlong (numberedFrom_assemble options modules)
    (unlinked_assemble options modules) (Hierarchy.schedule_subset _)

/-- The target of a link is in the inherited tree or was lost. -/
theorem mem_ids_or_lost
    {info : Info}
    (member : info ∈ (inherited options modules).root.infos)
    {link : Link}
    (isLink : link ∈ info.links)
    {target : DeclId}
    (isTarget : link.target = some target) :
    target ∈ (inherited options modules).root.ids ∨
      LostInProject options modules target := by
  have stands := linksStand_inherited options modules info member
  rcases List.mem_append.mp isLink with isClassLink | isOrigin
  · obtain ⟨-, -, names | lost⟩ := stands.extended link isClassLink target isTarget
    · exact .inl names.reaches.mem_ids
    · exact .inr lost
  · obtain ⟨owner, name, -, names | lost⟩ :=
      stands.inherited link (Option.mem_toList.mp isOrigin) target isTarget
    · exact .inl names.reaches.mem_ids
    · exact .inr lost

/-- Without disturbed classes no target of a link is lost. -/
theorem ClassesUndisturbed.mem_ids
    (undisturbed : ClassesUndisturbed options modules)
    {info : Info}
    (member : info ∈ (inherited options modules).root.infos)
    {link : Link}
    (isLink : link ∈ info.links)
    {target : DeclId}
    (isTarget : link.target = some target) :
    target ∈ (inherited options modules).root.ids := by
  have anchored :=
    Hierarchy.linksAnchored_flowAlong (unlinked_assemble options modules)
      (Hierarchy.schedule_subset _) undisturbed info member
  have atEnd := undisturbed _ (List.prefix_refl _)
  refine atEnd.mem_ids (evolves_inherited options modules) ?_
  rcases List.mem_append.mp isLink with isClassLink | isOrigin
  · exact anchored.extended link isClassLink target isTarget
  · exact anchored.inherited link (Option.mem_toList.mp isOrigin) target isTarget

end

/-! ## Links after pointing references -/

section

variable
    {options : Options}
    {parser : TypeParser}
    {modules : List ApiObject}
    {conversion : Conversion}
    {answers : Answers}

/-- The links of a finished node are those of the node, pointed. -/
theorem FinishesNode.links_eq
    {resolved : Resolved}
    {lookup : String → Option DeclId}
    {before after : Info}
    (finishes : FinishesNode resolved lookup before after) :
    after.links = before.links.map (Info.retarget.point lookup) := by
  rw [Info.links, finishes.extendedTypes_eq, finishes.extendedBy_eq,
    finishes.inheritedFrom_eq, Info.links, List.map_append, List.map_append]
  cases before.inheritedFrom <;> rfl

/-- A link keeps its target or follows a declaration that is in the tree. -/
theorem Finished.mem_ids_or_kept
    (finished : Finished options parser modules conversion answers)
    {info : Info}
    (member : info ∈ conversion.project.root.infos)
    {link : Link}
    (isLink : link ∈ info.links)
    {target : DeclId}
    (isTarget : link.target = some target) :
    target ∈ conversion.project.root.ids ∨
      ∃ before ∈ (inherited options modules).root.infos,
        ∃ earlier ∈ before.links, earlier.target = some target := by
  obtain ⟨before, isBefore, finishes⟩ :=
    exists_of_mem_right finished.forall₂_infos member
  rw [finishes.links_eq] at isLink
  obtain ⟨earlier, wasLink, rfl⟩ := List.mem_map.mp isLink
  simp only [Info.retarget.point] at isTarget
  cases found : declaredAs options modules earlier.name with
  | none =>
      rw [found] at isTarget
      exact .inr ⟨before, isBefore, earlier, wasLink, isTarget⟩
  | some number =>
      rw [found] at isTarget
      obtain rfl : number = target := Option.some.inj isTarget
      exact .inl (finished.declaredAs_eq_some_iff.mp found).isPresent

/--
The target of a link in a converted project is in the tree exactly if it was not
lost when members were inherited, that is if no member it stood below was filled
in.  While the classes of the project are undisturbed no target is lost.
-/
theorem link_targets_present_unless_lost
    (converted : convertModules options parser modules = .ok conversion) :
    let root := conversion.project.root
    (∀ info ∈ root.infos, ∀ link ∈ info.links, ∀ target,
      link.target = some target →
        (target ∈ root.ids ↔ ¬ LostInProject options modules target)) ∧
      (ClassesUndisturbed options modules →
        ∀ info ∈ root.infos, ∀ link ∈ info.links, ∀ target,
          link.target = some target → target ∈ root.ids) := by
  obtain ⟨answers, finished⟩ := exists_finished converted
  constructor
  · intro info member link isLink target isTarget
    constructor
    · intro isPresent lost
      rw [finished.ids_eq] at isPresent
      exact lost.not_mem_ids isPresent
    · intro notLost
      rcases finished.mem_ids_or_kept member isLink isTarget with
          isPresent | ⟨before, isBefore, earlier, wasLink, wasTarget⟩
      · exact isPresent
      · rw [finished.ids_eq]
        exact (mem_ids_or_lost isBefore wasLink wasTarget).resolve_right notLost
  · intro undisturbed info member link isLink target isTarget
    rcases finished.mem_ids_or_kept member isLink isTarget with
        isPresent | ⟨before, isBefore, earlier, wasLink, wasTarget⟩
    · exact isPresent
    · rw [finished.ids_eq]
      exact undisturbed.mem_ids isBefore wasLink wasTarget

end

/-- The two classes of this project and their methods stay, and so do all targets. -/
theorem link_targets_present_unless_lost_of_override :
    ∃ conversion,
      convertModules {} TypeParser.silent overridingModules = .ok conversion ∧
        ∀ info ∈ conversion.project.root.infos, ∀ link ∈ info.links,
          ∀ target, link.target = some target →
            target ∈ conversion.project.root.ids := by
  have inherits : (inherited {} overridingModules).failure = none := by
    decide +kernel
  have undisturbed : ClassesUndisturbed {} overridingModules := fun front _ =>
    Hierarchy.DocumentedEnds.undisturbed classesDocumented_overridingModules _ _
  obtain ⟨conversion, converted⟩ := exists_silent_conversion inherits
  obtain ⟨-, present⟩ := link_targets_present_unless_lost converted
  exact ⟨conversion, converted, present undisturbed⟩

/--
A nested class that another class extends, inside a class that is filled in
afterwards.
-/
def danglingModules : List ApiObject :=
  [ .mk { name := "User", tag := "class", bases := ["Deep"] } [],
    .mk { name := "Base", tag := "class" }
      [documentedObject "Inner" "class" "Inner of base" []],
    .mk { name := "Derived", tag := "class", bases := ["Base"] }
      [.mk { name := "Inner", tag := "class" }
        [.mk { name := "Deep", tag := "class" } []]] ]

/-- The nested class is lost, and the class that extends it still points at it. -/
theorem extended_class_is_lost :
    ∃ conversion,
      convertModules {} TypeParser.silent danglingModules = .ok conversion ∧
        ∃ info ∈ conversion.project.root.infos, ∃ link ∈ info.extendedTypes,
          ∃ target, link.target = some target ∧
            target ∉ conversion.project.root.ids := by
  have inherits : (inherited {} danglingModules).failure = none := by
    decide +kernel
  obtain ⟨conversion, converted⟩ := exists_silent_conversion inherits
  obtain ⟨answers, finished⟩ := exists_finished converted
  cases finished.answered
  refine ⟨conversion, converted, ?_⟩
  rw [finished.root_eq]
  have dangling :
      (((inherited {} danglingModules).root.mapInfo
        (finishInfo (resolvedTypes {} danglingModules [])
          (declaredAs {} danglingModules))).sortMembers.infos.any fun info =>
            info.extendedTypes.any fun link =>
              link.target.any fun target =>
                target ∉ ((inherited {} danglingModules).root.mapInfo
                  (finishInfo (resolvedTypes {} danglingModules [])
                    (declaredAs {} danglingModules))).sortMembers.ids) =
        true := by
    decide +kernel
  simpa [List.any_eq_true, Option.any_eq_true] using dangling

/-! ## Links that change -/

/-- What pointing references at declarations does to a link: it follows its name. -/
structure Redirects
    (options : Options)
    (modules : List ApiObject)
    (present : List DeclId)
    (before after : Link) :
    Prop where
  name_eq : after.name = before.name
  follows : ∀ number, IsNewest options modules present before.name number →
    after.target = some number
  stays : (∀ number,
      (assemble options modules).1.NamesBelow before.name number →
        number ∉ present) →
    after.target = before.target

/--
That a link whose target is still in the tree keeps it exactly if no declaration
of the link's name that was made later is still in the tree.
-/
def KeptUnlessHidden
    (options : Options)
    (modules : List ApiObject)
    (present : List DeclId)
    (before after : Link) :
    Prop :=
  ∀ target ∈ present, before.target = some target →
    (after.target = some target ↔
      ∀ number, (assemble options modules).1.NamesBelow before.name number →
        number ∈ present → number ≤ target)

/--
That a link whose target is still in the tree keeps it exactly if no declaration
of the link's name is in the tree at all.
-/
def KeptUnlessNamed
    (options : Options)
    (modules : List ApiObject)
    (present : List DeclId)
    (before after : Link) :
    Prop :=
  ∀ target ∈ present, before.target = some target →
    (after.target = some target ↔
      ∀ number, (assemble options modules).1.NamesBelow before.name number →
        number ∉ present)

/-- What pointing references at declarations does to the links of a node. -/
structure RedirectsNode
    (options : Options)
    (modules : List ApiObject)
    (present : List DeclId)
    (before after : Info) :
    Prop where
  id_eq : after.id = before.id
  extendedTypes : List.Forall₂
    (fun first second => Redirects options modules present first second ∧
      KeptUnlessHidden options modules present first second)
    before.extendedTypes after.extendedTypes
  extendedBy : List.Forall₂
    (fun first second => Redirects options modules present first second ∧
      KeptUnlessHidden options modules present first second)
    before.extendedBy after.extendedBy
  inheritedFrom : Option.Rel
    (fun first second => Redirects options modules present first second ∧
      KeptUnlessNamed options modules present first second)
    before.inheritedFrom after.inheritedFrom

section

variable
    {options : Options}
    {parser : TypeParser}
    {modules : List ApiObject}
    {conversion : Conversion}
    {answers : Answers}

/-- A number in the inherited tree is that of one node only. -/
theorem Bears.name_unique
    {first second : String}
    {number : DeclId}
    (bears : Bears (inherited options modules).root first number)
    (other : Bears (inherited options modules).root second number) :
    first = second := by
  obtain ⟨info, member, isNumber, rfl⟩ := bears
  obtain ⟨same, otherMember, sameNumber, rfl⟩ := other
  have distinct := (numberedFrom_inherited options modules).distinct
  rw [Declaration.ids_eq_map_infos] at distinct
  rw [List.inj_on_of_nodup_map distinct member otherMember
    (isNumber.trans sameNumber.symm)]

/-- A class that is linked and still in the tree is declared under the link's name. -/
theorem declared_of_classLinkStands
    {edges : List Edge}
    {link : Link}
    {target : DeclId}
    (stands : Hierarchy.ClassLinkStands (assemble options modules).1
      (assemble options modules).2.supply
      (assemble options modules).2.hierarchy.resolvedEdges edges link)
    (isTarget : link.target = some target)
    (bears : Bears (inherited options modules).root link.name target) :
    (assemble options modules).1.NamesBelow link.name target := by
  obtain ⟨⟨edge, isEdge, isEnd⟩, ⟨path, declared, leads, rfl⟩, -⟩ :=
    stands target isTarget
  have numbered := numberedFrom_assemble options modules
  have distinct := numbered.distinct
  rw [Declaration.ids_eq_map_infos] at distinct
  have declaredMember :=
    Declaration.infos_subset_of_descendant? leads declared.info_mem_infos
  -- The target is an old number, so it has had the same name from the start.
  have sameName : declared.name = link.name := by
    obtain ⟨info, member, isNumber, isNamed⟩ := bears
    rcases keeps_or_new_of_evolves (evolves_inherited options modules) member with
        ⟨old, inAssembled, sameId, oldName⟩ | isNew
    · rw [Declaration.name,
        ← List.inj_on_of_nodup_map distinct inAssembled declaredMember
          (sameId.trans isNumber)]
      exact oldName.trans isNamed
    · rw [isNumber] at isNew
      refine (Nat.not_lt.mpr isNew (numbered.below _ ?_)).elim
      exact Declaration.ids_subset_of_descendant? leads declared.id_mem_ids
  have enrolled :
      Enrolled (assemble options modules).2.hierarchy declared.id := by
    obtain ⟨ancestorEnrolled, descendantEnrolled⟩ :=
      enrolled_of_mem_resolvedEdges isEdge
    rcases isEnd with isAncestor | isDescendant
    · exact isAncestor ▸ ancestorEnrolled
    · exact isDescendant ▸ descendantEnrolled
  obtain ⟨classInfo, classMember, sameId, isClass⟩ :=
    (enrolls_assemble options modules).2 _ enrolled
  have names : (assemble options modules).1.Names link.name declared.id :=
    ⟨path, declared, leads, sameName, rfl⟩
  rcases Declaration.names_iff.mp names with ⟨-, isRoot⟩ | below
  · -- The project itself is no class.
    have isProject := kind_assemble options modules
    rw [Declaration.kind, List.inj_on_of_nodup_map distinct
      (Declaration.info_mem_infos _) classMember (isRoot.trans sameId.symm),
      isClass] at isProject
    cases isProject
  · exact below

/-- A link is pointed at the newest declaration of its name, if there is one. -/
theorem Finished.redirects_point
    (finished : Finished options parser modules conversion answers)
    (link : Link) :
    Redirects options modules conversion.project.root.ids link
      (Info.retarget.point (declaredAs options modules) link) where
  name_eq := rfl
  follows number newest := by
    rw [Info.retarget.point, finished.declaredAs_eq_some_iff.mpr newest]
    rfl
  stays absent := by
    cases found : declaredAs options modules link.name with
    | none =>
        rw [Info.retarget.point, found]
        rfl
    | some number =>
        have newest := finished.declaredAs_eq_some_iff.mp found
        exact (absent number newest.declared newest.isPresent).elim

/-- A link to a declaration of its own name moves to a newer one only. -/
theorem Redirects.kept_iff_of_declared
    {present : List DeclId}
    {before after : Link}
    {target : DeclId}
    (redirects : Redirects options modules present before after)
    (isNewest : ∃ number, IsNewest options modules present before.name number)
    (declared :
      (assemble options modules).1.NamesBelow before.name target)
    (isPresent : target ∈ present) :
    after.target = some target ↔
      ∀ number, (assemble options modules).1.NamesBelow before.name number →
        number ∈ present → number ≤ target := by
  obtain ⟨newest, isNewest⟩ := isNewest
  rw [redirects.follows newest isNewest, Option.some.injEq]
  constructor
  · rintro rfl
    exact isNewest.last
  · intro isLast
    exact Nat.le_antisymm (isLast newest isNewest.declared isNewest.isPresent)
      (isNewest.last target declared isPresent)

/-- No text is the last part of itself. -/
theorem qualified_ne (owner member : String) :
    owner ++ "." ++ member ≠ member := by
  intro same
  have lengths := congrArg String.length same
  simp only [String.length_append] at lengths
  have oneDot : ".".length = 1 := rfl
  omega

/-- What becomes of a link between classes. -/
theorem Finished.keptUnlessHidden_point
    (finished : Finished options parser modules conversion answers)
    {info : Info}
    (member : info ∈ (inherited options modules).root.infos)
    {link : Link}
    (isLink : link ∈ info.extendedTypes ++ info.extendedBy) :
    KeptUnlessHidden options modules conversion.project.root.ids link
      (Info.retarget.point (declaredAs options modules) link) := by
  intro target isPresent isTarget
  have stands :=
    (linksStand_inherited options modules info member).extended link isLink
  obtain ⟨-, -, accounted⟩ := stands target isTarget
  rw [finished.ids_eq] at isPresent
  have names := accounted.resolve_right fun lost =>
    LostInProject.not_mem_ids lost isPresent
  have declared :=
    declared_of_classLinkStands stands isTarget (bears_of_names names)
  rw [← finished.ids_eq] at isPresent
  have known : (declaredAs options modules link.name).isSome = true := by
    rw [finished.isSome_declaredAs_iff]
    exact ⟨target, declared, finished.bears_iff.mpr (bears_of_names names)⟩
  obtain ⟨newest, isNewest⟩ := Option.isSome_iff_exists.mp known
  exact (finished.redirects_point link).kept_iff_of_declared
    ⟨newest, finished.declaredAs_eq_some_iff.mp isNewest⟩ declared isPresent

/-- What becomes of a link to an origin. -/
theorem Finished.keptUnlessNamed_point
    (finished : Finished options parser modules conversion answers)
    {info : Info}
    (member : info ∈ (inherited options modules).root.infos)
    {link : Link}
    (isLink : info.inheritedFrom = some link) :
    KeptUnlessNamed options modules conversion.project.root.ids link
      (Info.retarget.point (declaredAs options modules) link) := by
  intro target isPresent isTarget
  have stands :=
    (linksStand_inherited options modules info member).inherited link isLink
  obtain ⟨owner, name, nameEq, accounted⟩ := stands target isTarget
  rw [finished.ids_eq] at isPresent
  have names := accounted.resolve_right fun lost =>
    LostInProject.not_mem_ids lost isPresent
  have redirects := finished.redirects_point link
  constructor
  · intro kept number declared stillPresent
    have known : (declaredAs options modules link.name).isSome = true := by
      rw [finished.isSome_declaredAs_iff]
      rw [finished.ids_eq] at stillPresent
      exact ⟨number, declared,
        finished.bears_iff.mpr (bears_inherited declared stillPresent)⟩
    obtain ⟨newest, found⟩ := Option.isSome_iff_exists.mp known
    have isNewest := finished.declaredAs_eq_some_iff.mp found
    have isThat := redirects.follows newest isNewest
    obtain rfl : newest = target :=
      Option.some.inj (isThat.symm.trans kept)
    -- A declaration of the qualified name would be the member of the plain name.
    have qualified :=
      finished.bears_iff.mp (finished.bears_of_isNewest isNewest)
    refine qualified_ne owner name ?_
    rw [← nameEq]
    exact qualified.name_unique (bears_of_names names)
  · intro absent
    rw [redirects.stays absent]
    exact isTarget

/--
In a converted project a link has the target that inheriting gave it unless a
declaration of the link's name is in the tree: then it has the last of them that
was made.  A link between classes whose target is still in the tree therefore
keeps it exactly if no such declaration was made later, and a link to an origin
exactly if there is none.
-/
theorem links_follow_newest
    (converted : convertModules options parser modules = .ok conversion) :
    List.Forall₂
      (RedirectsNode options modules conversion.project.root.ids)
      (inherited options modules).root.infos conversion.project.root.infos := by
  obtain ⟨answers, finished⟩ := exists_finished converted
  have each (info : Info) (member : info ∈ (inherited options modules).root.infos)
      (after : Info)
      (finishes : FinishesNode (resolvedTypes options modules answers)
        (declaredAs options modules) info after) :
      RedirectsNode options modules conversion.project.root.ids info after := by
    refine
      { id_eq := finishes.id_eq
        extendedTypes := ?_
        extendedBy := ?_
        inheritedFrom := ?_ }
    · rw [finishes.extendedTypes_eq, List.forall₂_map_right_iff]
      refine List.forall₂_same.mpr fun link isLink => ?_
      exact ⟨finished.redirects_point link,
        finished.keptUnlessHidden_point member (List.mem_append_left _ isLink)⟩
    · rw [finishes.extendedBy_eq, List.forall₂_map_right_iff]
      refine List.forall₂_same.mpr fun link isLink => ?_
      exact ⟨finished.redirects_point link,
        finished.keptUnlessHidden_point member (List.mem_append_right _ isLink)⟩
    · rw [finishes.inheritedFrom_eq]
      cases isLink : info.inheritedFrom with
      | none =>
          exact .none
      | some link =>
          exact .some ⟨finished.redirects_point link,
            finished.keptUnlessNamed_point member isLink⟩
  rw [List.forall₂_iff_zip]
  refine ⟨finished.forall₂_infos.length_eq, ?_⟩
  intro before after isPair
  exact each before (List.of_mem_zip isPair).1 after
    (List.forall₂_zip finished.forall₂_infos isPair)

end

/-- A class that another extends, and a later attribute of the same name. -/
def hidingModules : List ApiObject :=
  [ .mk { name := "Animal", tag := "class" } [],
    .mk { name := "Dog", tag := "class", bases := ["Animal"] } [],
    .mk { name := "Zoo", tag := "class" }
      [.mk { name := "Animal", tag := "data" } []] ]

/-- The links of this project follow the newest declarations of their names. -/
theorem links_follow_newest_of_hiding :
    ∃ conversion,
      convertModules {} TypeParser.silent hidingModules = .ok conversion ∧
        List.Forall₂
          (RedirectsNode {} hidingModules conversion.project.root.ids)
          (inherited {} hidingModules).root.infos
          conversion.project.root.infos := by
  have inherits : (inherited {} hidingModules).failure = none := by
    decide +kernel
  obtain ⟨conversion, converted⟩ := exists_silent_conversion inherits
  exact ⟨conversion, converted, links_follow_newest converted⟩

/-- The class that is extended gives way to the attribute of its name. -/
theorem attribute_hides_class :
    ∃ conversion,
      convertModules {} TypeParser.silent hidingModules = .ok conversion ∧
        conversion.project.root.infos.map
            (fun info => info.extendedTypes.map Link.target) ≠
          (inherited {} hidingModules).root.infos.map
            (fun info => info.extendedTypes.map Link.target) := by
  have inherits : (inherited {} hidingModules).failure = none := by
    decide +kernel
  obtain ⟨conversion, converted⟩ := exists_silent_conversion inherits
  obtain ⟨answers, finished⟩ := exists_finished converted
  cases finished.answered
  refine ⟨conversion, converted, ?_⟩
  rw [finished.root_eq]
  decide +kernel

end ApiTree.Convert
