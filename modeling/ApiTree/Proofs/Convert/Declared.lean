import ApiTree.Proofs.Convert.Classes

namespace ApiTree.Convert

open ApiTree.Decl
open ApiTree.Dump (ApiObject Argument Docstring Facts)

/-!
# Names of assembled declarations

Every declaration is made known under its name when it gets its number, and
nothing else is.  So the table of names lists the declarations of the assembled
tree, the project itself apart, and the newest of them come first.  Looking a
name up among the declarations that are still present gives the last of that
name that was made.
-/

/-- Entries of numbers between two, those of higher numbers first. -/
structure NewestFirst
    (first last : Nat)
    (entries : List (String × DeclId)) :
    Prop where
  inside : ∀ entry ∈ entries, first ≤ entry.2 ∧ entry.2 < last
  ordered : entries.Pairwise fun newer older => older.2 < newer.2

namespace NewestFirst

theorem nil (first last : Nat) : NewestFirst first last [] :=
  ⟨by simp, .nil⟩

theorem single
    {name : String}
    {number last : Nat}
    (taken : number < last) :
    NewestFirst number last [(name, number)] := by
  refine ⟨?_, List.pairwise_singleton _ _⟩
  intro entry member
  obtain rfl := List.mem_singleton.mp member
  exact ⟨Nat.le_refl _, taken⟩

/-- Entries that are made later come before those made earlier. -/
theorem append
    {first middle last : Nat}
    {newer older : List (String × DeclId)}
    (later : NewestFirst middle last newer)
    (earlier : NewestFirst first middle older)
    (firstLe : first ≤ middle)
    (middleLe : middle ≤ last) :
    NewestFirst first last (newer ++ older) := by
  constructor
  · intro entry member
    rcases List.mem_append.mp member with isNewer | isOlder
    · have isInside := later.inside entry isNewer
      exact ⟨Nat.le_trans firstLe isInside.1, isInside.2⟩
    · have isInside := earlier.inside entry isOlder
      exact ⟨isInside.1, Nat.lt_of_lt_of_le isInside.2 middleLe⟩
  · refine List.pairwise_append.mpr ⟨later.ordered, earlier.ordered, ?_⟩
    intro newer isNewer older isOlder
    exact Nat.lt_of_lt_of_le (earlier.inside older isOlder).2
      (later.inside newer isNewer).1

theorem mono
    {first last bound : Nat}
    {entries : List (String × DeclId)}
    (newestFirst : NewestFirst first last entries)
    (lastLe : last ≤ bound) :
    NewestFirst first bound entries :=
  ⟨fun entry member =>
    (newestFirst.inside entry member).imp_right fun isBelow =>
      Nat.lt_of_lt_of_le isBelow lastLe,
    newestFirst.ordered⟩

end NewestFirst

/-- The first entry that is wanted has the highest number of those that are. -/
theorem find?_eq_some_iff_of_ordered
    {wanted : String × DeclId → Bool}
    {entries : List (String × DeclId)}
    {entry : String × DeclId}
    (ordered : entries.Pairwise fun newer older => older.2 < newer.2) :
    entries.find? wanted = some entry ↔
      entry ∈ entries ∧ wanted entry = true ∧
        ∀ other ∈ entries, wanted other = true → other.2 ≤ entry.2 := by
  induction entries with
  | nil =>
      simp
  | cons first rest inductionHypothesis =>
      obtain ⟨newest, restOrdered⟩ := List.pairwise_cons.mp ordered
      cases isWanted : wanted first with
      | true =>
          rw [List.find?_cons_of_pos isWanted]
          constructor
          · rintro ⟨⟩
            refine ⟨List.mem_cons_self, isWanted, ?_⟩
            intro other member _
            rcases List.mem_cons.mp member with rfl | inRest
            · exact Nat.le_refl _
            · exact Nat.le_of_lt (newest other inRest)
          · rintro ⟨member, -, highest⟩
            rcases List.mem_cons.mp member with rfl | inRest
            · rfl
            · have below := newest entry inRest
              have above := highest first List.mem_cons_self isWanted
              exact (Nat.not_lt.mpr above below).elim
      | false =>
          rw [List.find?_cons_of_neg (by simp [isWanted]),
            inductionHypothesis restOrdered]
          have notFirst {other : String × DeclId}
              (otherWanted : wanted other = true) :
              other ∈ first :: rest ↔ other ∈ rest := by
            have differs : other ≠ first := by
              rintro rfl
              rw [isWanted] at otherWanted
              cases otherWanted
            simp [differs]
          constructor
          · rintro ⟨member, entryWanted, highest⟩
            exact ⟨(notFirst entryWanted).mpr member, entryWanted,
              fun other isOther otherWanted =>
                highest other ((notFirst otherWanted).mp isOther) otherWanted⟩
          · rintro ⟨member, entryWanted, highest⟩
            exact ⟨(notFirst entryWanted).mp member, entryWanted,
              fun other isOther => highest other (List.mem_cons_of_mem _ isOther)⟩

/-! ## The walk -/

/-- What is found below with a member added was found before or is in the member. -/
theorem namesBelow_addChild_iff
    (owner child : Declaration)
    {name : String}
    {number : DeclId} :
    (owner.addChild child).NamesBelow name number ↔
      owner.NamesBelow name number ∨ child.Names name number := by
  cases owner
  simp [Declaration.NamesBelow, Declaration.addChild, or_and_right, exists_or]

theorem names_sortMembers_iff
    (declaration : Declaration)
    {name : String}
    {number : DeclId} :
    declaration.sortMembers.Names name number ↔
      declaration.Names name number := by
  cases declaration
  rw [Declaration.names_iff, Declaration.names_iff]
  rfl

/-- Entering a group changes nothing that is named. -/
theorem named_enterGroup
    (usesGroups : Bool)
    (member owner : Declaration) :
    (enterGroup usesGroups member owner).name = owner.name ∧
      (enterGroup usesGroups member owner).id = owner.id ∧
      (enterGroup usesGroups member owner).kind = owner.kind ∧
      ∀ name number,
        (enterGroup usesGroups member owner).NamesBelow name number ↔
          owner.NamesBelow name number := by
  unfold enterGroup
  split
  · exact ⟨rfl, rfl, rfl, fun _ _ => Iff.rfl⟩
  · split
    · cases owner
      exact ⟨rfl, rfl, rfl, fun _ _ => Iff.rfl⟩
    · exact ⟨rfl, rfl, rfl, fun _ _ => Iff.rfl⟩

/-- Entering a member changes the groups of its owner at most. -/
theorem exists_enterGroup_eq
    (usesGroups : Bool)
    (member owner : Declaration) :
    ∃ groups, enterGroup usesGroups member owner =
      owner.updateInfo fun info => { info with groups := groups } := by
  cases owner with
  | node info children signatures parameters =>
      unfold enterGroup
      split
      · exact ⟨info.groups, rfl⟩
      · split
        · exact ⟨_, rfl⟩
        · exact ⟨info.groups, rfl⟩

/-- What completing a declaration does to names: nothing. -/
theorem Assembly.named_complete
    (facts : Facts)
    (docstring : Docstring)
    (owner : Owner)
    (assembly : Assembly) :
    let completed := assembly.complete facts docstring owner
    completed.2.declared = assembly.declared ∧
      completed.1.info = owner.node.info ∧
      ∀ name number,
        completed.1.NamesBelow name number ↔
          owner.node.NamesBelow name number := by
  have merges (based : Assembly) :=
    merges_mergeOverloads owner.overloads owner.node based
  have declaredEq (based : Assembly)
      (sameDeclared : based.declared = assembly.declared) :
      (based.mergeOverloads owner.overloads owner.node).2.declared =
        assembly.declared :=
    (merges based).adds.declared_eq.trans sameDeclared
  refine ⟨?_, ?_, ?_⟩
  · simp only [complete]
    split <;> split <;> exact declaredEq _ rfl
  · exact (merges _).info_eq
  · exact (merges _).namesBelow_iff

/-- What a walk does to names: each is that of a new declaration below the owner. -/
structure Registers (before after : Owner × Assembly) : Prop where
  name_eq : after.1.node.name = before.1.node.name
  id_eq : after.1.node.id = before.1.node.id
  kind_eq : after.1.node.kind = before.1.node.kind
  next_le : before.2.supply.next ≤ after.2.supply.next
  exists_new : ∃ new,
    after.2.declared = new ++ before.2.declared ∧
      NewestFirst before.2.supply.next after.2.supply.next new ∧
      ∀ name number,
        after.1.node.NamesBelow name number ↔
          before.1.node.NamesBelow name number ∨ (name, number) ∈ new

namespace Registers

/-- A step that makes no declaration registers nothing. -/
theorem of_same
    {before after : Owner × Assembly}
    (nodeEq : after.1.node = before.1.node)
    (supplyEq : after.2.supply = before.2.supply)
    (declaredEq : after.2.declared = before.2.declared) :
    Registers before after where
  name_eq := by rw [nodeEq]
  id_eq := by rw [nodeEq]
  kind_eq := by rw [nodeEq]
  next_le := Nat.le_of_eq (congrArg IdSupply.next supplyEq.symm)
  exists_new := ⟨[], declaredEq, .nil _ _, by simp [nodeEq]⟩

theorem trans
    {first second third : Owner × Assembly}
    (firstStep : Registers first second)
    (secondStep : Registers second third) :
    Registers first third := by
  obtain ⟨firstNew, firstDeclared, firstOrdered, firstNamed⟩ :=
    firstStep.exists_new
  obtain ⟨secondNew, secondDeclared, secondOrdered, secondNamed⟩ :=
    secondStep.exists_new
  refine
    { name_eq := secondStep.name_eq.trans firstStep.name_eq
      id_eq := secondStep.id_eq.trans firstStep.id_eq
      kind_eq := secondStep.kind_eq.trans firstStep.kind_eq
      next_le := Nat.le_trans firstStep.next_le secondStep.next_le
      exists_new := ⟨secondNew ++ firstNew, ?_, ?_, ?_⟩ }
  · rw [secondDeclared, firstDeclared, List.append_assoc]
  · exact secondOrdered.append firstOrdered firstStep.next_le secondStep.next_le
  · intro name number
    rw [secondNamed, firstNamed, List.mem_append, or_assoc,
      or_comm (a := (name, number) ∈ firstNew)]

/-- The member itself is the oldest entry, what stands inside it is newer. -/
theorem names_complete
    {options : Options}
    {here : Site}
    {facts : Facts}
    {ownerKind : Kind}
    {assembly : Assembly}
    {inside : Owner × Assembly}
    {new : List (String × DeclId)}
    (registers : Registers (assembly.opened options here facts ownerKind) inside)
    (named : ∀ name number,
      inside.1.node.NamesBelow name number ↔
        (assembly.opened options here facts ownerKind).1.node.NamesBelow name
            number ∨
          (name, number) ∈ new)
    {name : String}
    {number : DeclId} :
    (inside.2.complete facts (docstringAt here facts) inside.1).1.Names name
        number ↔
      (name, number) ∈ new ++ [(facts.displayName, assembly.supply.next)] := by
  have declares :=
    Assembly.declares_declaration options here ownerKind facts
      (docstringAt here facts) assembly
  obtain ⟨-, sameInfo, sameBelow⟩ :=
    Assembly.named_complete facts (docstringAt here facts) inside.1 inside.2
  have isNamed : inside.1.node.info.name = facts.displayName :=
    registers.name_eq.trans declares.name_eq
  have isNumber : inside.1.node.info.id = assembly.supply.next :=
    registers.id_eq.trans declares.id_eq
  have nothingBefore :
      ¬ (assembly.opened options here facts ownerKind).1.node.NamesBelow name
        number := by
    simp [Declaration.NamesBelow, Assembly.opened, declares.children_eq]
  rw [Declaration.names_iff, sameBelow, named, Declaration.name,
    Declaration.id, sameInfo, isNamed, isNumber, List.mem_append,
    List.mem_singleton, Prod.mk.injEq]
  constructor
  · rintro (⟨isName, isThat⟩ | wasBelow | isNew)
    · exact .inr ⟨isName.symm, isThat.symm⟩
    · exact (nothingBefore wasBelow).elim
    · exact .inl isNew
  · rintro (isNew | ⟨isName, isThat⟩)
    · exact .inr (.inr isNew)
    · exact .inl ⟨isName.symm, isThat.symm⟩

/-- A declaration is registered before what its members register. -/
theorem closed
    {options : Options}
    {usesGroups : Bool}
    {here : Site}
    {facts : Facts}
    {owner : Owner}
    {assembly : Assembly}
    {inside : Owner × Assembly}
    (registers :
      Registers (assembly.opened options here facts owner.node.kind) inside) :
    Registers (owner, assembly)
      (Assembly.closed usesGroups here facts owner inside) := by
  have declares :=
    Assembly.declares_declaration options here owner.node.kind facts
      (docstringAt here facts) assembly
  have made :=
    Assembly.covers_declaration options here owner.node.kind facts
      (docstringAt here facts) assembly
  have completing :=
    Assembly.covers_complete facts (docstringAt here facts) inside.1 inside.2
  obtain ⟨sameDeclared, -, -⟩ :=
    Assembly.named_complete facts (docstringAt here facts) inside.1 inside.2
  obtain ⟨new, declaredEq, ordered, named⟩ := registers.exists_new
  obtain ⟨ownerName, ownerId, ownerKind, ownerBelow⟩ :=
    named_enterGroup usesGroups
      (inside.2.complete facts (docstringAt here facts) inside.1).1 owner.node
  refine
    { name_eq := ?_
      id_eq := ?_
      kind_eq := ?_
      next_le := Nat.le_trans made.le
        (Nat.le_trans registers.next_le completing.le)
      exists_new :=
        ⟨new ++ [(facts.displayName, assembly.supply.next)], ?_, ?_, ?_⟩ }
  · simp only [Assembly.closed, Declaration.name, Declaration.info_addChild]
    exact ownerName
  · simp only [Assembly.closed, Declaration.id, Declaration.info_addChild]
    exact ownerId
  · simp only [Assembly.closed, Declaration.kind, Declaration.info_addChild]
    exact ownerKind
  · simp only [Assembly.closed, sameDeclared, declaredEq, Assembly.opened,
      declares.declared_eq, declares.name_eq, declares.id_eq, List.append_assoc,
      List.cons_append, List.nil_append]
  · have single :
        NewestFirst assembly.supply.next
          (assembly.opened options here facts owner.node.kind).2.supply.next
          [(facts.displayName, assembly.supply.next)] :=
      .single (declares.id_eq ▸ Assembly.id_declaration_lt _ _ _ _ _ _)
    exact (ordered.append single made.le registers.next_le).mono completing.le
  · intro name number
    simp only [Assembly.closed]
    rw [namesBelow_addChild_iff, names_sortMembers_iff, ownerBelow,
      registers.names_complete named]

end Registers

/-- Every walk registers what it makes. -/
theorem walkLaw_registers
    (options : Options)
    (usesGroups : Bool) :
    WalkLaw options usesGroups Registers where
  refl _ := .of_same rfl rfl rfl
  trans _ _ _ := .trans
  addsAlias _ _ _ := .of_same rfl rfl rfl
  waits _ _ _ := .of_same rfl rfl rfl
  declares _ _ _ _ _ := .closed

/--
The table of names lists the declarations below the project, each under its
number, and the declarations that were made later come first.
-/
theorem registered_assemble
    (options : Options)
    (modules : List ApiObject) :
    (∀ name number,
      (name, number) ∈ (assemble options modules).2.declared ↔
        (assemble options modules).1.NamesBelow name number) ∧
      (assemble options modules).2.declared.Pairwise fun newer older =>
        older.2 < newer.2 := by
  have walked :=
    (walkLaw_registers options
      (ApiObject.anyMentions groupDecorator modules)).walkAll modules {}
        ({ node := emptyRoot options }, {})
  have merges := fun overloads node assembly =>
    Assembly.merges_mergeOverloads overloads node assembly
  obtain ⟨new, declaredEq, ordered, named⟩ := walked.exists_new
  have startBelow (name : String) (number : DeclId) :
      ¬ (emptyRoot options).NamesBelow name number := by
    simp [Declaration.NamesBelow, emptyRoot, Declaration.ofInfo]
  simp only [assemble]
  rw [(merges _ _ _).adds.declared_eq, declaredEq, List.append_nil]
  refine ⟨?_, ordered.ordered⟩
  intro name number
  rw [(merges _ _ _).namesBelow_iff, named]
  exact (or_iff_right (startBelow name number)).symm

/-- The root of what is assembled is the project. -/
theorem kind_assemble
    (options : Options)
    (modules : List ApiObject) :
    (assemble options modules).1.kind = .project := by
  have walked :=
    (walkLaw_registers options
      (ApiObject.anyMentions groupDecorator modules)).walkAll modules {}
        ({ node := emptyRoot options }, {})
  simp only [assemble]
  rw [Declaration.kind, (Assembly.merges_mergeOverloads _ _ _).info_eq]
  exact walked.kind_eq

/-! ## Looking names up -/

/-- The declaration of a name that was made last among those that are present. -/
structure IsNewest
    (options : Options)
    (modules : List ApiObject)
    (present : List DeclId)
    (name : String)
    (number : DeclId) :
    Prop where
  declared : (assemble options modules).1.NamesBelow name number
  isPresent : number ∈ present
  last : ∀ other, (assemble options modules).1.NamesBelow name other →
    other ∈ present → other ≤ number

/-- A name is looked up as the newest declaration of that name that is present. -/
theorem newestDeclared?_eq_some_iff
    {options : Options}
    {modules : List ApiObject}
    {present : List DeclId}
    {name : String}
    {number : DeclId} :
    newestDeclared? (assemble options modules).2.declared present name =
        some number ↔
      IsNewest options modules present name number := by
  obtain ⟨registered, ordered⟩ := registered_assemble options modules
  have wanted_iff (entry : String × DeclId) :
      (entry.1 == name && present.contains entry.2) = true ↔
        entry.1 = name ∧ entry.2 ∈ present := by
    simp
  rw [newestDeclared?, Option.map_eq_some_iff]
  constructor
  · rintro ⟨⟨entryName, entryNumber⟩, found, rfl⟩
    rw [find?_eq_some_iff_of_ordered ordered, wanted_iff] at found
    obtain ⟨member, ⟨rfl, isPresent⟩, highest⟩ := found
    refine ⟨(registered _ _).mp member, isPresent, ?_⟩
    intro other isDeclared otherPresent
    exact highest (_, other) ((registered _ _).mpr isDeclared)
      ((wanted_iff _).mpr ⟨rfl, otherPresent⟩)
  · intro newest
    refine ⟨(name, number), ?_, rfl⟩
    rw [find?_eq_some_iff_of_ordered ordered, wanted_iff]
    refine ⟨(registered _ _).mpr newest.declared, ⟨rfl, newest.isPresent⟩, ?_⟩
    rintro ⟨otherName, other⟩ member otherWanted
    obtain ⟨rfl, otherPresent⟩ := (wanted_iff _).mp otherWanted
    exact newest.last other ((registered _ _).mp member) otherPresent

/-- There is a newest declaration of a name if there is any that is present. -/
theorem isSome_newestDeclared?_iff
    {options : Options}
    {modules : List ApiObject}
    {present : List DeclId}
    {name : String} :
    (newestDeclared? (assemble options modules).2.declared present
        name).isSome = true ↔
      ∃ number, (assemble options modules).1.NamesBelow name number ∧
        number ∈ present := by
  obtain ⟨registered, -⟩ := registered_assemble options modules
  rw [newestDeclared?, Option.isSome_map, List.find?_isSome]
  constructor
  · rintro ⟨⟨entryName, number⟩, member, isWanted⟩
    simp only [Bool.and_eq_true, beq_iff_eq, List.contains_eq_mem,
      decide_eq_true_eq] at isWanted
    obtain ⟨rfl, isPresent⟩ := isWanted
    exact ⟨number, (registered _ _).mp member, isPresent⟩
  · rintro ⟨number, isDeclared, isPresent⟩
    exact ⟨(name, number), (registered _ _).mpr isDeclared, by simp [isPresent]⟩

end ApiTree.Convert
