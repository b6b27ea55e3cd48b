import ApiTree.Json.Value
import Mathlib.Data.List.Nodup
import Mathlib.Data.String.Basic

namespace ApiTree.Json

/-!
# Members by name

Sorting members by name changes no answer: if each name occurs once, it is found with
the content that it had.  Sorted members are left as they are when they are sorted
again.
-/

variable
    {α : Type}

theorem lookup_cons_eq
    (name other : String)
    (content : α)
    (members : List (String × α)) :
    ((name, content) :: members).lookup other =
      if other = name then some content else members.lookup other := by
  rw [List.lookup_cons]
  by_cases same : other = name
  · simp [same]
  · simp [same, beq_eq_false_iff_ne.mpr same]

/-- A member that was put in is found; every other one is found as before. -/
theorem lookup_insertMember
    (name other : String)
    (content : α)
    (members : List (String × α)) :
    (insertMember name content members).lookup other =
      if other = name then some content else members.lookup other := by
  induction members with
  | nil => exact lookup_cons_eq name other content []
  | cons first rest inductionHypothesis =>
      obtain ⟨firstName, firstContent⟩ := first
      rw [insertMember]
      split
      · exact lookup_cons_eq name other content _
      · split
        · rename_i same
          subst same
          simp only [lookup_cons_eq]
          split <;> rfl
        · rename_i different
          simp only [lookup_cons_eq, inductionHypothesis]
          by_cases isFirst : other = firstName
          · subst isFirst
            simp [Ne.symm different]
          · simp [isFirst]

theorem lookup_eq_none_of_not_mem
    {name : String}
    {members : List (String × α)}
    (absent : name ∉ members.map Prod.fst) :
    members.lookup name = none := by
  rw [List.lookup_eq_none_iff]
  intro entry isMember
  refine bne_iff_ne.mpr ?_
  rintro rfl
  exact absent (List.mem_map_of_mem isMember)

theorem lookup_foldl_insertMember
    (members sorted : List (String × α))
    (name : String) :
    (members.foldl (fun sorted entry => insertMember entry.1 entry.2 sorted)
        sorted).lookup name =
      (members.reverse.lookup name).or (sorted.lookup name) := by
  induction members generalizing sorted with
  | nil => rfl
  | cons first rest inductionHypothesis =>
      rw [List.foldl_cons, inductionHypothesis, lookup_insertMember, List.reverse_cons,
        List.lookup_append, lookup_cons_eq]
      split <;> simp

/-- Of several members of one name the last is found. -/
theorem lookup_sortMembers_eq_reverse
    (members : List (String × α))
    (name : String) :
    (sortMembers members).lookup name = members.reverse.lookup name :=
  (lookup_foldl_insertMember members [] name).trans Option.or_none

theorem lookup_reverse
    {members : List (String × α)}
    (distinct : (members.map Prod.fst).Nodup)
    (name : String) :
    members.reverse.lookup name = members.lookup name := by
  induction members with
  | nil => rfl
  | cons first rest inductionHypothesis =>
      obtain ⟨absent, restDistinct⟩ := List.nodup_cons.mp distinct
      rw [List.reverse_cons, List.lookup_append, inductionHypothesis restDistinct,
        lookup_cons_eq, lookup_cons_eq]
      by_cases isFirst : name = first.1
      · subst isFirst
        rw [lookup_eq_none_of_not_mem absent]
        simp
      · simp [isFirst]

/-- Sorted members are found as they were, if each name occurs once. -/
theorem lookup_sortMembers
    {members : List (String × α)}
    (distinct : (members.map Prod.fst).Nodup)
    (name : String) :
    (sortMembers members).lookup name = members.lookup name := by
  rw [lookup_sortMembers_eq_reverse, lookup_reverse distinct]

theorem lookup_eq_some_of_mem
    {members : List (String × α)}
    (distinct : (members.map Prod.fst).Nodup)
    {entry : String × α}
    (isMember : entry ∈ members) :
    members.lookup entry.1 = some entry.2 := by
  induction members with
  | nil => cases isMember
  | cons first rest inductionHypothesis =>
      obtain ⟨absent, restDistinct⟩ := List.nodup_cons.mp distinct
      rw [lookup_cons_eq]
      rcases List.mem_cons.mp isMember with rfl | inRest
      · exact if_pos rfl
      · rw [if_neg, inductionHypothesis restDistinct inRest]
        intro same
        exact absent (same ▸ List.mem_map_of_mem inRest)

/-! ## The order of members -/

/-- That members stand in the order of their names, each name once. -/
def Ascending (members : List (String × α)) : Prop :=
  members.Pairwise fun first second => first.1 < second.1

theorem mem_insertMember
    {name : String}
    {content : α}
    {members : List (String × α)}
    {entry : String × α}
    (isMember : entry ∈ insertMember name content members) :
    entry = (name, content) ∨ entry ∈ members := by
  induction members with
  | nil => exact .inl (List.mem_singleton.mp isMember)
  | cons first rest inductionHypothesis =>
      obtain ⟨firstName, firstContent⟩ := first
      rw [insertMember] at isMember
      split at isMember
      · exact List.mem_cons.mp isMember
      · split at isMember
        · rcases List.mem_cons.mp isMember with isNew | inRest
          · exact .inl isNew
          · exact .inr (List.mem_cons_of_mem _ inRest)
        · rcases List.mem_cons.mp isMember with isFirst | inRest
          · exact .inr (isFirst ▸ List.mem_cons_self)
          · exact (inductionHypothesis inRest).imp_right (List.mem_cons_of_mem _)

/-- A member is put in where its name belongs. -/
theorem Ascending.insertMember
    {members : List (String × α)}
    (ascending : Ascending members)
    (name : String)
    (content : α) :
    Ascending (insertMember name content members) := by
  induction members with
  | nil => exact List.pairwise_singleton _ _
  | cons first rest inductionHypothesis =>
      obtain ⟨firstName, firstContent⟩ := first
      obtain ⟨firstLeast, restAscending⟩ := List.pairwise_cons.mp ascending
      rw [Json.insertMember]
      split
      · rename_i before
        refine List.pairwise_cons.mpr ⟨?_, ascending⟩
        intro entry isMember
        rcases List.mem_cons.mp isMember with rfl | inRest
        · exact before
        · exact lt_trans before (firstLeast entry inRest)
      · rename_i notBefore
        split
        · rename_i same
          exact List.pairwise_cons.mpr ⟨same ▸ firstLeast, restAscending⟩
        · rename_i different
          refine List.pairwise_cons.mpr ⟨?_, inductionHypothesis restAscending⟩
          intro entry isMember
          rcases mem_insertMember isMember with rfl | inRest
          · exact lt_of_le_of_ne (not_lt.mp notBefore) (Ne.symm different)
          · exact firstLeast entry inRest

/-- A member whose name comes last is put in at the end. -/
theorem insertMember_eq_append
    {name : String}
    {content : α}
    {members : List (String × α)}
    (last : ∀ entry ∈ members, entry.1 < name) :
    insertMember name content members = members ++ [(name, content)] := by
  induction members with
  | nil => rfl
  | cons first rest inductionHypothesis =>
      obtain ⟨firstLess, restLess⟩ := List.forall_mem_cons.mp last
      rw [insertMember, if_neg (lt_asymm firstLess), if_neg (ne_of_gt firstLess),
        inductionHypothesis restLess, List.cons_append]

theorem foldl_insertMember_eq_append
    (sorted members : List (String × α))
    (ascending : Ascending (sorted ++ members)) :
    members.foldl (fun sorted entry => insertMember entry.1 entry.2 sorted) sorted =
      sorted ++ members := by
  induction members generalizing sorted with
  | nil => exact (List.append_nil sorted).symm
  | cons first rest inductionHypothesis =>
      have last : ∀ entry ∈ sorted, entry.1 < first.1 := fun entry isMember =>
        (List.pairwise_append.mp ascending).2.2 entry isMember first List.mem_cons_self
      have split : sorted ++ first :: rest = (sorted ++ [first]) ++ rest := by simp
      rw [List.foldl_cons, insertMember_eq_append last, split]
      exact inductionHypothesis _ (split ▸ ascending)

/-- Members that stand in the order of their names are left as they are. -/
theorem Ascending.sortMembers_eq
    {members : List (String × α)}
    (ascending : Ascending members) :
    sortMembers members = members :=
  foldl_insertMember_eq_append [] members ascending

/-- What holds of an empty list and is kept by each insertion holds of sorted members. -/
theorem sortMembers_induction
    {motive : List (String × α) → Prop}
    (members : List (String × α))
    (nil : motive [])
    (insert : ∀ entry ∈ members, ∀ sorted, motive sorted →
      motive (insertMember entry.1 entry.2 sorted)) :
    motive (sortMembers members) := by
  have fold (sorted : List (String × α)) (holds : motive sorted) :
      motive (members.foldl
        (fun sorted entry => insertMember entry.1 entry.2 sorted) sorted) := by
    induction members generalizing sorted with
    | nil => exact holds
    | cons first rest inductionHypothesis =>
        obtain ⟨firstKeeps, restKeep⟩ := List.forall_mem_cons.mp insert
        exact inductionHypothesis restKeep _ (firstKeeps sorted holds)
  exact fold [] nil

/-- Sorted members stand in the order of their names. -/
theorem ascending_sortMembers (members : List (String × α)) :
    Ascending (sortMembers members) :=
  sortMembers_induction members List.Pairwise.nil fun entry _ _ ascending =>
    ascending.insertMember entry.1 entry.2

/-- Sorting adds no members. -/
theorem mem_of_mem_sortMembers
    {members : List (String × α)}
    {entry : String × α} :
    entry ∈ sortMembers members → entry ∈ members := by
  refine sortMembers_induction
    (motive := fun sorted => entry ∈ sorted → entry ∈ members) members ?_ ?_
  · intro isMember
    cases isMember
  · intro added isAdded sorted kept isMember
    rcases mem_insertMember isMember with rfl | inSorted
    · exact isAdded
    · exact kept inSorted

end ApiTree.Json
