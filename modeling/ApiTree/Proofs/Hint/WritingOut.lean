import ApiTree.Proofs.Decl.Unions
import ApiTree.Proofs.Hint.Forming
import ApiTree.Proofs.Hint.Typed
import ApiTree.Proofs.Resolve.Pending

namespace ApiTree.Hint

open ApiTree.Decl (TypeExpr)
open ApiTree.Hint.Interpreter (itemRoom itemRoom_cases)
open ApiTree.Resolve (replaceBare replaceBareAll replaceBareAll_eq_map)

/-!
# Writing names out

A name may stand for an expression.  Writing that expression in the place of the name,
and then describing the whole, gives the same type as putting the type of the
expression in the place of the name, and then flattening unions.
-/

/-! ## Flat types -/

theorem type_unionOf (members : List Descriptor) :
    (Descriptor.unionOf members).type =
      .union ((members.map Descriptor.type).flatMap TypeExpr.alternatives) := by
  rw [Descriptor.unionOf, Descriptor.type, Descriptor.typesOf_eq_map,
    List.map_flatMap, List.flatMap_map]
  congr 2
  funext descriptor
  cases descriptor with
  | union parts => exact (Descriptor.typesOf_eq_map parts).symm
  | reference _ _ | literal _ | tuple _ => rfl

/-- That the type of a descriptor is flat. -/
def Descriptor.IsFlat (descriptor : Descriptor) : Prop :=
  descriptor.type.isFlat

theorem Descriptor.isFlat_unionOf
    {members : List Descriptor}
    (flat : ∀ member ∈ members, member.IsFlat) :
    (Descriptor.unionOf members).IsFlat := by
  rw [IsFlat, type_unionOf]
  exact TypeExpr.isFlat_union_flatMap (List.forall_mem_map.mpr flat)

theorem Descriptor.isFlat_literal (value : Constant) :
    (Descriptor.literal value).IsFlat :=
  rfl

theorem Descriptor.isFlat_ofValues (values : List Constant) :
    (Descriptor.ofValues values).IsFlat := by
  match values with
  | [value] => exact isFlat_literal value
  | [] => rfl
  | first :: second :: rest =>
      exact isFlat_unionOf (List.forall_mem_map.mpr fun value _ => isFlat_literal value)

theorem Descriptor.isFlat_reference
    {name : String}
    {arguments : List Descriptor}
    (flat : ∀ argument ∈ arguments, argument.IsFlat) :
    (Descriptor.reference name arguments).IsFlat := by
  rw [IsFlat, type, TypeExpr.isFlat_named_iff, typesOf_eq_map]
  exact List.forall_mem_map.mpr flat

theorem Descriptor.isFlat_tuple
    {elements : List Descriptor}
    (flat : ∀ element ∈ elements, element.IsFlat) :
    (Descriptor.tuple elements).IsFlat := by
  rw [IsFlat, type, TypeExpr.isFlat_tuple_iff, typesOf_eq_map]
  exact List.forall_mem_map.mpr flat

/-- A described expression has a flat type. -/
theorem isFlat_of_describe
    [Interpreter]
    {bound : Nat}
    {expr : Expr}
    {descriptor : Descriptor}
    (described : describe bound expr = .ok descriptor) :
    descriptor.IsFlat := by
  induction bound using Nat.twoStepInduction generalizing expr descriptor with
  | zero | one => cases described
  | more bound flat flatNext =>
      have each {items : List Expr} {found : List Descriptor}
          (all : DescribesAll (itemRoom bound) items found) :
          ∀ one ∈ found, one.IsFlat := by
        induction all with
        | nil => simp
        | cons isFirst _ inductionHypothesis =>
            refine List.forall_mem_cons.mpr ⟨?_, inductionHypothesis⟩
            exact itemRoom_cases (motive := fun room => ∀ {expr descriptor},
              describe room expr = .ok descriptor → descriptor.IsFlat) flat flatNext isFirst
      cases formed_of_describe described with
      | spelled _ formed => exact flat formed
      | nothing | ellipsis | name | dotted | literal => rfl
      | either formedLeft formedRight =>
          refine Descriptor.isFlat_unionOf ?_
          simp [flatNext formedLeft, flatNext formedRight]
      | applied _ formed =>
          cases formed with
          | optional _ _ formed =>
              refine Descriptor.isFlat_unionOf ?_
              simp [flatNext formed, Descriptor.nothing, Descriptor.isFlat_literal]
          | union _ _ formed => exact Descriptor.isFlat_unionOf (each formed)
          | values => exact Descriptor.isFlat_ofValues _
          | reference _ _ _ formed => exact Descriptor.isFlat_reference (each formed)
      | list formed | tuple formed => exact Descriptor.isFlat_tuple (each formed)

/-! ## Expressions written out -/

namespace Expr

/-- The name that dots and names spell, however many dots there are. -/
def fullName? : Expr → Option String
  | .name id => some id
  | .attribute value field => (fullName? value).map fun base => base ++ "." ++ field
  | _ => none

theorem fullName?_eq
    {bound : Nat}
    {expr : Expr}
    {name : String}
    (dotted : dottedName? bound expr = some name) :
    expr.fullName? = some name := by
  induction bound generalizing expr name with
  | zero => cases dotted
  | succ bound inductionHypothesis =>
      match expr, dotted with
      | .name id, rfl => rfl
      | .attribute value field, dotted =>
          rw [dottedName?] at dotted
          obtain ⟨base, isBase, rfl⟩ := Option.map_eq_some_iff.mp dotted
          rw [fullName?, inductionHypothesis isBase]
          rfl

/-- Whether an expression is none that a type is written with. -/
def isUntyped : Expr → Bool
  | .unary _ _ | .set _ | .dict _ _ | .call _ _ | .starred _ | .other => true
  | _ => false

end Expr

/--
That one expression is another with each name that stands for an expression written
out, item for item and also inside strings.  Such names stand alone, without dots or
brackets behind them.
-/
inductive WrittenOut
    [Interpreter]
    (meaning? : String → Option Expr) :
    Expr → Expr → Prop where
  | named
      {name : String} {expr : Expr}
      (stands : meaning? name = some expr) :
      WrittenOut meaning? (.name name) expr
  | name
      {name : String}
      (own : meaning? name = none) :
      WrittenOut meaning? (.name name) (.name name)
  | dotted
      {value : Expr} {field : String}
      (own : ∀ name ∈ (Expr.attribute value field).fullName?, meaning? name = none) :
      WrittenOut meaning? (.attribute value field) (.attribute value field)
  /-- A string that spells an expression. -/
  | spelled
      {points outPoints : List Nat} {inner out : Expr}
      (spells : Spells points inner)
      (outSpells : Spells outPoints out)
      (writtenOut : WrittenOut meaning? inner out) :
      WrittenOut meaning? (.constant (.text points)) (.constant (.text outPoints))
  | constant
      {constant : Constant}
      (unspelled : ∀ points, constant = .text points → ∀ inner, ¬ Spells points inner) :
      WrittenOut meaning? (.constant constant) (.constant constant)
  | binary
      {op : BinaryOp} {left right outLeft outRight : Expr}
      (leftOut : WrittenOut meaning? left outLeft)
      (rightOut : WrittenOut meaning? right outRight) :
      WrittenOut meaning? (.binary op left right) (.binary op outLeft outRight)
  /-- Brackets behind a name: what stands between them, item for item. -/
  | applied
      {value index out : Expr}
      (own : ∀ name ∈ value.fullName?, meaning? name = none)
      (typed : ∀ name ∈ value.fullName?, name ∉ literalNames)
      (each : List.Forall₂ (WrittenOut meaning?) index.subscriptItems
        out.subscriptItems) :
      WrittenOut meaning? (.subscript value index) (.subscript value out)
  /-- Literal types hold values, in which nothing is a name. -/
  | literals
      {value index : Expr}
      (own : ∀ name ∈ value.fullName?, meaning? name = none)
      (valued : ∀ name ∈ value.fullName?, name ∈ literalNames) :
      WrittenOut meaning? (.subscript value index) (.subscript value index)
  | list
      {items outs : List Expr}
      (each : List.Forall₂ (WrittenOut meaning?) items outs) :
      WrittenOut meaning? (.list items) (.list outs)
  | tuple
      {items outs : List Expr}
      (each : List.Forall₂ (WrittenOut meaning?) items outs) :
      WrittenOut meaning? (.tuple items) (.tuple outs)
  | untyped
      {expr : Expr}
      (isUntyped : expr.isUntyped) :
      WrittenOut meaning? expr expr

/-! ## Types of written out expressions -/

section Substitution

variable
    {meaning? : String → Option Expr}
    {types : String → Option TypeExpr}

/-- That a table has the types of the expressions that names stand for, and no others. -/
structure Understood
    [Interpreter]
    (meaning? : String → Option Expr)
    (types : String → Option TypeExpr) :
    Prop where
  own : ∀ name, meaning? name = none → types name = none
  stands : ∀ name expr, meaning? name = some expr →
    ∃ bound descriptor, describe bound expr = .ok descriptor ∧
      types name = some descriptor.type

/-- A type with types put in the place of names, and unions inside unions flattened. -/
def substituted
    (types : String → Option TypeExpr)
    (type : TypeExpr) :
    TypeExpr :=
  (replaceBare types type).flatten

/-- What a type adds to a union after substitution, its parts add after it. -/
theorem flatMap_alternatives_substituted (type : TypeExpr) :
    (type.alternatives.map (substituted types)).flatMap TypeExpr.alternatives =
      (substituted types type).alternatives := by
  cases type with
  | union members =>
      rw [substituted, replaceBare, TypeExpr.flatten, TypeExpr.flattenAll_eq_map,
        replaceBareAll_eq_map, List.map_map]
      rfl
  | named _ _ _ _ | literal _ | tuple _ => exact List.flatMap_singleton _ _

theorem substituted_union_flatMap (members : List TypeExpr) :
    substituted types (.union (members.flatMap TypeExpr.alternatives)) =
      .union ((members.map (substituted types)).flatMap TypeExpr.alternatives) := by
  rw [substituted, replaceBare, TypeExpr.flatten, TypeExpr.flattenAll_eq_map,
    replaceBareAll_eq_map, List.map_map, List.map_flatMap, List.flatMap_assoc,
    List.flatMap_map]
  congr 2
  funext member
  exact flatMap_alternatives_substituted member

theorem substituted_named
    (name : String)
    (arguments : List TypeExpr)
    (own : arguments = [] → types name = none) :
    substituted types (.named name none arguments none) =
      .named name none (arguments.map (substituted types)) none := by
  cases arguments with
  | nil =>
      rw [substituted, replaceBare, own rfl]
      rfl
  | cons first rest =>
      rw [substituted, replaceBare, TypeExpr.flatten, TypeExpr.flattenAll_eq_map,
        replaceBareAll_eq_map, List.map_map]
      rfl

theorem substituted_tuple (elements : List TypeExpr) :
    substituted types (.tuple elements) =
      .tuple (elements.map (substituted types)) := by
  rw [substituted, replaceBare, TypeExpr.flatten, TypeExpr.flattenAll_eq_map,
    replaceBareAll_eq_map, List.map_map]
  rfl

/-- That the type of one descriptor is that of another after substitution. -/
def SubstitutedTo
    (types : String → Option TypeExpr)
    (descriptor out : Descriptor) :
    Prop :=
  out.type = substituted types descriptor.type

namespace SubstitutedTo

theorem map_type
    {descriptors outs : List Descriptor}
    (each : List.Forall₂ (SubstitutedTo types) descriptors outs) :
    outs.map Descriptor.type =
      (descriptors.map Descriptor.type).map (substituted types) := by
  induction each with
  | nil => rfl
  | cons first _ inductionHypothesis =>
      rw [List.map_cons, List.map_cons, List.map_cons, inductionHypothesis, first]

theorem unionOf
    {members outs : List Descriptor}
    (each : List.Forall₂ (SubstitutedTo types) members outs) :
    SubstitutedTo types (.unionOf members) (.unionOf outs) := by
  rw [SubstitutedTo, type_unionOf, type_unionOf, substituted_union_flatMap,
    map_type each]

theorem reference
    {name : String}
    {arguments outs : List Descriptor}
    (own : arguments = [] → types name = none)
    (each : List.Forall₂ (SubstitutedTo types) arguments outs) :
    SubstitutedTo types (.reference name arguments) (.reference name outs) := by
  rw [SubstitutedTo, Descriptor.type, Descriptor.type, Descriptor.typesOf_eq_map,
    Descriptor.typesOf_eq_map, substituted_named, map_type each]
  exact fun none => own (List.map_eq_nil_iff.mp none)

theorem tuple
    {elements outs : List Descriptor}
    (each : List.Forall₂ (SubstitutedTo types) elements outs) :
    SubstitutedTo types (.tuple elements) (.tuple outs) := by
  rw [SubstitutedTo, Descriptor.type, Descriptor.type, Descriptor.typesOf_eq_map,
    Descriptor.typesOf_eq_map, substituted_tuple, map_type each]

theorem literal (value : Constant) :
    SubstitutedTo types (.literal value) (.literal value) :=
  rfl

theorem bareName
    {name : String}
    (own : types name = none) :
    SubstitutedTo types (.reference name []) (.reference name []) :=
  reference (fun _ => own) .nil

theorem ofValues (values : List Constant) :
    SubstitutedTo types (.ofValues values) (.ofValues values) := by
  match values with
  | [value] => exact literal value
  | [] => rfl
  | first :: second :: rest =>
      refine unionOf (List.forall₂_same.mpr fun descriptor isLiteral => ?_)
      obtain ⟨value, -, rfl⟩ := List.mem_map.mp isLiteral
      exact literal value

end SubstitutedTo

theorem literalNames_apart :
    ∀ name ∈ literalNames, name ∉ optionalNames ∧ name ∉ unionNames := by
  decide

variable [Interpreter]

/--
That describing an expression with names written out is the same as substituting
their types, where so many calls may be nested.
-/
def Commutes
    (meaning? : String → Option Expr)
    (types : String → Option TypeExpr)
    (bound : Nat) :
    Prop :=
  ∀ {expr out : Expr} {descriptor outDescriptor : Descriptor},
    WrittenOut meaning? expr out →
      describe bound expr = .ok descriptor →
        describe bound out = .ok outDescriptor →
          SubstitutedTo types descriptor outDescriptor

theorem forall₂_substitutedTo
    {bound : Nat}
    (holds : Commutes meaning? types bound)
    {items outs : List Expr}
    {found outFound : List Descriptor}
    (each : List.Forall₂ (WrittenOut meaning?) items outs)
    (described : DescribesAll bound items found)
    (outDescribed : DescribesAll bound outs outFound) :
    List.Forall₂ (SubstitutedTo types) found outFound := by
  induction each generalizing found outFound with
  | nil =>
      cases described
      cases outDescribed
      exact .nil
  | cons writtenOut _ inductionHypothesis =>
      cases described with
      | cons first rest =>
          cases outDescribed with
          | cons outFirst outRest =>
              exact .cons (holds writtenOut first outFirst)
                (inductionHypothesis rest outRest)

/-- What names for types give when they are applied to items written out. -/
theorem substitutedTo_of_applied
    {bound : Nat}
    {name : String}
    {items outs : List Expr}
    {descriptor outDescriptor : Descriptor}
    (holdsItem : Commutes meaning? types (itemRoom bound))
    (holdsNext : Commutes meaning? types (bound + 1))
    (own : types name = none)
    (typed : name ∉ literalNames)
    (each : List.Forall₂ (WrittenOut meaning?) items outs)
    (formed : FormedApplied bound name items descriptor)
    (outFormed : FormedApplied bound name outs outDescriptor) :
    SubstitutedTo types descriptor outDescriptor := by
  cases formed with
  | optional isOptional startsWith first =>
      cases outFormed with
      | optional _ outStarts outFirst =>
          rw [startsWith, outStarts] at each
          cases each with
          | cons firstOut _ =>
              exact .unionOf (.cons (holdsNext firstOut first outFirst)
                (.cons (.literal .null) .nil))
      | union notOptional | values notOptional | reference notOptional =>
          exact (notOptional isOptional).elim
  | union notOptional isUnion formed =>
      cases outFormed with
      | optional isOptional => exact (notOptional isOptional).elim
      | union _ _ outFormed =>
          exact .unionOf (forall₂_substitutedTo holdsItem each formed outFormed)
      | values _ notUnion | reference _ notUnion => exact (notUnion isUnion).elim
  | values _ _ isLiteral => exact (typed isLiteral).elim
  | reference notOptional notUnion notLiteral formed =>
      cases outFormed with
      | optional isOptional => exact (notOptional isOptional).elim
      | union _ isUnion => exact (notUnion isUnion).elim
      | values _ _ isLiteral => exact (notLiteral isLiteral).elim
      | reference _ _ _ outFormed =>
          exact .reference (fun _ => own)
            (forall₂_substitutedTo holdsItem each formed outFormed)

theorem substitutedTo_of_literals
    {bound : Nat}
    {name : String}
    {items : List Expr}
    {descriptor : Descriptor}
    (isLiteral : name ∈ literalNames)
    (formed : FormedApplied bound name items descriptor) :
    SubstitutedTo types descriptor descriptor := by
  obtain ⟨notOptional, notUnion⟩ := literalNames_apart name isLiteral
  cases formed with
  | optional isOptional => exact (notOptional isOptional).elim
  | union _ isUnion => exact (notUnion isUnion).elim
  | values => exact .ofValues _
  | reference _ _ notLiteral => exact (notLiteral isLiteral).elim

/--
The type of an expression with names written out is the type of the expression with
the types of those names put in, and unions inside unions flattened.
-/
theorem commutes
    (understood : Understood meaning? types)
    (noEllipsis : types "..." = none)
    (bound : Nat) :
    Commutes meaning? types bound := by
  induction bound using Nat.twoStepInduction with
  | zero | one =>
      intro expr out descriptor outDescriptor writtenOut described
      cases described
  | more bound holds holdsNext =>
      intro expr out descriptor outDescriptor writtenOut described outDescribed
      have holdsItem : Commutes meaning? types (itemRoom bound) :=
        itemRoom_cases (motive := Commutes meaning? types) holds holdsNext
      have formed := formed_of_describe described
      have outFormed := formed_of_describe outDescribed
      cases writtenOut with
      | named stands =>
          cases formed
          obtain ⟨alone, known, isKnown, hasType⟩ := understood.stands _ _ stands
          obtain rfl := describe_unique isKnown outDescribed
          rw [SubstitutedTo, substituted, Descriptor.type, Descriptor.typesOf,
            replaceBare, hasType]
          exact (TypeExpr.flatten_eq_self_of_isFlat (isFlat_of_describe isKnown)).symm
      | name own =>
          cases formed
          cases outFormed
          exact .bareName (understood.own _ own)
      | dotted own =>
          obtain rfl := describe_unique described outDescribed
          cases formed with
          | dotted isName =>
              exact .bareName (understood.own _ (own _ (Expr.fullName?_eq isName)))
      | spelled spells outSpells writtenOut =>
          obtain ⟨inner, isInner, formed⟩ := describe_text_eq_ok_iff.mp described
          obtain ⟨out, isOut, outFormed⟩ := describe_text_eq_ok_iff.mp outDescribed
          obtain rfl := spells.unique ⟨bound, isInner⟩
          obtain rfl := outSpells.unique ⟨bound, isOut⟩
          exact holds writtenOut formed outFormed
      | constant unspelled =>
          obtain rfl := describe_unique described outDescribed
          cases formed with
          | spelled spells => exact (unspelled _ rfl _ ⟨bound, spells⟩).elim
          | nothing => exact .literal .null
          | ellipsis => exact .bareName noEllipsis
          | literal => exact .literal _
      | binary leftOut rightOut =>
          cases formed with
          | either formedLeft formedRight =>
              cases outFormed with
              | either outLeft outRight =>
                  exact .unionOf (.cons (holdsNext leftOut formedLeft outLeft)
                    (.cons (holdsNext rightOut formedRight outRight) .nil))
      | applied own typed each =>
          cases formed with
          | applied dotted formed =>
              cases outFormed with
              | applied outDotted outFormed =>
                  obtain rfl := Option.some.inj (dotted.symm.trans outDotted)
                  have isName := Expr.fullName?_eq dotted
                  exact substitutedTo_of_applied holdsItem holdsNext
                    (understood.own _ (own _ isName)) (typed _ isName) each
                    formed outFormed
      | literals _ valued =>
          obtain rfl := describe_unique described outDescribed
          cases formed with
          | applied dotted formed =>
              exact substitutedTo_of_literals
                (valued _ (Expr.fullName?_eq dotted)) formed
      | list each =>
          cases formed with
          | list formed =>
              cases outFormed with
              | list outFormed =>
                  exact .tuple (forall₂_substitutedTo holdsItem each formed outFormed)
      | tuple each =>
          cases formed with
          | tuple formed =>
              cases outFormed with
              | tuple outFormed =>
                  exact .tuple (forall₂_substitutedTo holdsItem each formed outFormed)
      | untyped isUntyped => cases formed <;> cases isUntyped

end Substitution

end ApiTree.Hint
