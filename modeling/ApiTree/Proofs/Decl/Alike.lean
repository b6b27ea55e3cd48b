import ApiTree.Proofs.Decl.Renaming
import Mathlib.Data.List.Forall2
import Mathlib.Data.Option.Basic

namespace ApiTree.Decl

/-!
# Trees alike but for numbers

Two trees are alike under names of numbers if one is the other renamed, apart from
the order in which the nodes list what extends them.  Trees are alike when the
nodes on all paths are.
-/

/-- Information that is renamed, and lists what extends a node in any order. -/
structure InfoAlike
    (names : DeclId → DeclId)
    (first second : Info) :
    Prop where
  same : second =
    { Declaration.renameInfo names first with extendedBy := second.extendedBy }
  extendedBy : first.extendedBy.Perm second.extendedBy

/-- Trees whose nodes correspond one by one and bear information that is alike. -/
inductive Alike (names : DeclId → DeclId) : Declaration → Declaration → Prop where
  | node
      {firstInfo secondInfo : Info}
      {firstChildren firstSignatures firstParameters : List Declaration}
      {secondChildren secondSignatures secondParameters : List Declaration}
      (info : InfoAlike names firstInfo secondInfo)
      (children : List.Forall₂ (Alike names) firstChildren secondChildren)
      (signatures : List.Forall₂ (Alike names) firstSignatures secondSignatures)
      (parameters : List.Forall₂ (Alike names) firstParameters secondParameters) :
      Alike names
        (.node firstInfo firstChildren firstSignatures firstParameters)
        (.node secondInfo secondChildren secondSignatures secondParameters)

/-- Nodes that are alike apart from their members. -/
structure TopAlike
    (names : DeclId → DeclId)
    (first second : Declaration) :
    Prop where
  info : InfoAlike names first.info second.info
  signatures : List.Forall₂ (Alike names) first.signatures second.signatures
  parameters : List.Forall₂ (Alike names) first.parameters second.parameters

variable
    {names : DeclId → DeclId}
    {first second : Declaration}

theorem alike_iff :
    Alike names first second ↔
      TopAlike names first second ∧
        List.Forall₂ (Alike names) first.children second.children := by
  constructor
  · rintro ⟨info, children, signatures, parameters⟩
    exact ⟨⟨info, signatures, parameters⟩, children⟩
  · rintro ⟨⟨info, signatures, parameters⟩, children⟩
    cases first
    cases second
    exact .node info children signatures parameters

theorem infoAlike_renameInfo
    (names : DeclId → DeclId)
    (info : Info) :
    InfoAlike names info (Declaration.renameInfo names info) :=
  ⟨rfl, .refl _⟩

/-- Information is like itself, but for the order of what extends its node. -/
theorem infoAlike_of_fixed
    {info : Info}
    {extendedBy : List Link}
    (fixed : ∀ number ∈ info.mentions, names number = number)
    (reordered : info.extendedBy.Perm extendedBy) :
    InfoAlike names info { info with extendedBy := extendedBy } := by
  refine ⟨?_, reordered⟩
  rw [Declaration.renameInfo_congr fixed, Declaration.renameInfo_id]

/-- A tree and the renamed tree are alike. -/
theorem alike_rename
    (names : DeclId → DeclId)
    (declaration : Declaration) :
    Alike names declaration (declaration.rename names) := by
  have each {declarations : List Declaration}
      (holds : ∀ one ∈ declarations, Alike names one (one.rename names)) :
      List.Forall₂ (Alike names) declarations
        (declarations.map (·.rename names)) :=
    List.forall₂_map_right_iff.mpr (List.forall₂_same.mpr holds)
  induction declaration using Declaration.ownedInduction with
  | node info children signatures parameters
      childrenHold signaturesHold parametersHold =>
      rw [Declaration.rename, Declaration.mapInfo_node]
      exact .node (infoAlike_renameInfo names info) (each childrenHold)
        (each signaturesHold) (each parametersHold)

/-- A tree is like itself under names that leave alone what it mentions. -/
theorem alike_self
    {declaration : Declaration}
    (fixed : ∀ number ∈ declaration.mentions, names number = number) :
    Alike names declaration declaration := by
  have same : declaration.rename names = declaration := by
    rw [Declaration.rename_congr fixed, Declaration.rename_id]
  have alike := alike_rename names declaration
  rwa [same] at alike

theorem alike_self_of_forall
    {declarations : List Declaration}
    (fixed : ∀ one ∈ declarations, ∀ number ∈ one.mentions,
      names number = number) :
    List.Forall₂ (Alike names) declarations declarations :=
  List.forall₂_same.mpr fun one isOne => alike_self (fixed one isOne)

/-- Lists correspond if their elements do at every position. -/
theorem forall₂_iff_getElem?
    {α β : Type}
    {relation : α → β → Prop}
    {firsts : List α}
    {seconds : List β} :
    List.Forall₂ relation firsts seconds ↔
      ∀ position : Nat,
        Option.Rel relation firsts[position]? seconds[position]? := by
  constructor
  · intro each
    induction each with
    | nil =>
        exact fun _ => .none
    | cons isFirst _ inductionHypothesis =>
        intro position
        cases position with
        | zero =>
            exact .some isFirst
        | succ position =>
            exact inductionHypothesis position
  · intro each
    induction firsts generalizing seconds with
    | nil =>
        cases seconds with
        | nil =>
            exact .nil
        | cons second rest =>
            cases each 0
    | cons first rest inductionHypothesis =>
        cases seconds with
        | nil =>
            cases each 0
        | cons second others =>
            cases each 0 with
            | some isFirst =>
                exact .cons isFirst
                  (inductionHypothesis fun position => each (position + 1))

/-- On every path trees that are alike lead to nodes that are. -/
theorem Alike.descendant?
    (alike : Alike names first second)
    (path : Path) :
    Option.Rel (Alike names) (first.descendant? path)
      (second.descendant? path) := by
  induction path generalizing first second with
  | nil =>
      exact .some alike
  | cons index rest inductionHypothesis =>
      obtain ⟨-, children⟩ := alike_iff.mp alike
      have atIndex := forall₂_iff_getElem?.mp children index
      unfold Declaration.descendant?
      generalize first.children[index]? = firstChild at atIndex ⊢
      generalize second.children[index]? = secondChild at atIndex ⊢
      cases atIndex with
      | none =>
          exact .none
      | some childAlike =>
          exact inductionHypothesis childAlike

/-- Trees are alike if on every path there are nodes that are. -/
theorem alike_of_paths
    (onPaths : ∀ path, Option.Rel (TopAlike names) (first.descendant? path)
      (second.descendant? path)) :
    Alike names first second := by
  induction first using Declaration.ownedInduction generalizing second with
  | node info children signatures parameters childrenHold _ _ =>
      have atTop : TopAlike names (.node info children signatures parameters)
          second := by
        cases onPaths [] with
        | some top => exact top
      refine alike_iff.mpr ⟨atTop, forall₂_iff_getElem?.mpr fun index => ?_⟩
      have below (rest : Path) := onPaths (index :: rest)
      unfold Declaration.descendant? at below
      simp only [Declaration.children_node] at below ⊢
      cases isChild : children[index]? with
      | none =>
          have alone := below []
          simp only [isChild] at alone
          generalize second.children[index]? = secondChild at alone ⊢
          cases secondChild with
          | none => exact .none
          | some other => cases alone
      | some child =>
          have alone := below []
          simp only [isChild] at alone below
          generalize second.children[index]? = secondChild at alone below ⊢
          cases secondChild with
          | none => cases alone
          | some other =>
              exact .some
                (childrenHold child (List.mem_of_getElem? isChild) below)

end ApiTree.Decl
