import ApiTree.Proofs.Decl.Renaming
import ApiTree.Proofs.Resolve.Expansion

namespace ApiTree.Resolve

open ApiTree.Decl (Declaration Info TypeExpr)
open ApiTree.Json (Mismatch Value)

/-!
# Placeholders and what replaces them

Every request is given a placeholder of its own.  The texts of all requests are answered
in one batch, each text once, and a placeholder that stands anywhere in a tree is
replaced by the type of its text.  What replaces it waits in no slot, so there is nothing
to replace a second time.
-/

/-! ## The batch -/

namespace Pending

theorem mem_distinct_iff
    {seen texts : List String}
    {text : String} :
    text ∈ distinct seen texts ↔ text ∈ texts ∧ text ∉ seen := by
  induction texts generalizing seen with
  | nil =>
      simp [distinct]
  | cons first rest inductionHypothesis =>
      rw [distinct]
      split
      · rename_i isSeen
        have isSeen : first ∈ seen := List.contains_iff_mem.mp isSeen
        rw [inductionHypothesis, List.mem_cons]
        refine ⟨fun ⟨inRest, isNew⟩ => ⟨.inr inRest, isNew⟩, ?_⟩
        rintro ⟨rfl | inRest, isNew⟩
        · exact absurd isSeen isNew
        · exact ⟨inRest, isNew⟩
      · rename_i notSeen
        have notSeen : first ∉ seen := fun isSeen =>
          notSeen (List.contains_iff_mem.mpr isSeen)
        rw [List.mem_cons, inductionHypothesis, List.mem_cons, List.mem_cons, not_or]
        by_cases isFirst : text = first
        · simp [isFirst, notSeen]
        · simp [isFirst]

/-- Elements other than the first keep the order in which they first occur. -/
theorem pairwise_idxOf_cons
    {first : String}
    {rest texts : List String}
    (others : ∀ text ∈ texts, text ≠ first)
    (ordered : texts.Pairwise fun one other => rest.idxOf one < rest.idxOf other) :
    texts.Pairwise fun one other =>
      (first :: rest).idxOf one < (first :: rest).idxOf other := by
  refine ordered.imp_of_mem fun isText isOther before => ?_
  rw [List.idxOf_cons_ne _ (others _ isText).symm,
    List.idxOf_cons_ne _ (others _ isOther).symm]
  exact Nat.succ_lt_succ before

/-- What is distinct among some texts comes in the order of its first occurrences. -/
theorem pairwise_distinct
    (chosen : String → Bool)
    (seen texts : List String) :
    (distinct seen (texts.filter chosen)).Pairwise fun first second =>
      texts.idxOf first < texts.idxOf second := by
  induction texts generalizing seen with
  | nil =>
      exact .nil
  | cons first rest inductionHypothesis =>
      rw [List.filter_cons]
      split
      · rw [distinct]
        split
        · rename_i isSeen
          refine pairwise_idxOf_cons ?_ (inductionHypothesis seen)
          rintro text isText rfl
          exact (mem_distinct_iff.mp isText).2 (List.contains_iff_mem.mp isSeen)
        · have others : ∀ text ∈ distinct (first :: seen) (rest.filter chosen),
              text ≠ first := by
            rintro text isText rfl
            exact (mem_distinct_iff.mp isText).2 List.mem_cons_self
          refine List.pairwise_cons.mpr ⟨fun text isText => ?_,
            pairwise_idxOf_cons others (inductionHypothesis _)⟩
          rw [List.idxOf_cons_self, List.idxOf_cons_ne _ (others text isText).symm]
          exact Nat.succ_pos _
      · rename_i notChosen
        refine pairwise_idxOf_cons ?_ (inductionHypothesis seen)
        rintro text isText rfl
        exact notChosen (List.mem_filter.mp (mem_distinct_iff.mp isText).1).2

end Pending

/--
That a batch holds every text of some requests once, but not the empty one, in the order
in which they are first requested.
-/
structure BatchOf
    (requests : List Request)
    (batch : List String) :
    Prop where
  mem_iff : ∀ text,
    text ∈ batch ↔ text ≠ "" ∧ ∃ request ∈ requests, request.text = text
  nodup : batch.Nodup
  ordered : batch.Pairwise fun first second =>
    (requests.map Request.text).idxOf first < (requests.map Request.text).idxOf second

theorem batchOf_collect (requests : List Request) :
    BatchOf requests (Pending.collect requests).batch := by
  have ordered := Pending.pairwise_distinct (!·.isEmpty) [] (requests.map Request.text)
  rw [← Pending.expressions_collect] at ordered
  refine ⟨fun text => ?_, ordered.imp fun before same => ?_, ?_⟩
  · rw [Pending.batch, Pending.mem_distinct_iff, List.mem_filter,
      Pending.expressions_collect, List.mem_map]
    simp [and_comm]
  · exact absurd before (by rw [same]; exact Nat.lt_irrefl _)
  · rw [← Pending.expressions_collect]
    exact ordered

/-! ## Types of requests -/

/-- The text that a name stands for: that of the last request with the name as alias. -/
def lastMeaning?
    (requests : List Request)
    (name : String) :
    Option String :=
  (requests.reverse.find? (·.aliasName == some name)).map Request.text

/-- A request is given a placeholder of its text in a slot of its own. -/
theorem register_request
    (pending : Pending)
    (request : Request) :
    pending.register request.raw request.aliasName =
      ( .placeholder request.text pending.expressions.length,
        { expressions := pending.expressions ++ [request.text]
          aliases :=
            match request.aliasName with
            | some known => (known, request.text) :: pending.aliases
            | none => pending.aliases } ) :=
  rfl

/-- The last request with a name as its alias decides what the name stands for. -/
theorem lookup_aliases_collect
    (requests : List Request)
    (name : String) :
    (Pending.collect requests).aliases.lookup name = lastMeaning? requests name := by
  have grows (pending : Pending) :
      (requests.foldl
        (fun pending request => (pending.register request.raw request.aliasName).2)
        pending).aliases.lookup name =
          (lastMeaning? requests name).or (pending.aliases.lookup name) := by
    induction requests generalizing pending with
    | nil =>
        rfl
    | cons first rest inductionHypothesis =>
        -- The requests that follow come first in the reversed list.
        rw [List.foldl_cons, inductionHypothesis, lastMeaning?, lastMeaning?,
          List.reverse_cons, List.find?_append, Option.map_or, Option.or_assoc]
        congr 1
        rw [register_request]
        cases isAlias : first.aliasName with
        | none =>
            simp [isAlias]
        | some known =>
            by_cases isName : known = name
            · simp [isAlias, isName]
            · have differs : (name == known) = false := beq_false_of_ne (Ne.symm isName)
              simp [isAlias, isName, List.lookup_cons, differs]
  rw [Pending.collect, grows, Pending.empty]
  exact Option.or_none

/--
The type that answers give to a text of some requests: what its own alias stands for if
that is understood, and else what it says, with aliases followed.
-/
def typeOf?
    (requests : List Request)
    (answers : Answers)
    (text : String) :
    Option TypeExpr :=
  let decoded := Pending.decodeAnswers answers
  let aliasType? (name : String) :=
    (lastMeaning? requests name).bind fun meaning => decoded.lookup meaning
  (aliasType? text <|> decoded.lookup text).map (expandAliases aliasType? aliasLimit)

/-- A slot has the type of the text that was requested for it. -/
theorem get?_resolve_collect
    (requests : List Request)
    (answers : Answers)
    (slot : Nat) :
    ((Pending.collect requests).resolve answers).get? slot =
      requests[slot]?.bind fun request => typeOf? requests answers request.text := by
  have aliasTypes : (Pending.collect requests).aliasType? (Pending.decodeAnswers answers) =
      fun name => (lastMeaning? requests name).bind fun meaning =>
        (Pending.decodeAnswers answers).lookup meaning := by
    funext name
    rw [Pending.aliasType?, lookup_aliases_collect]
  rw [Pending.get?_resolve, Pending.descriptor?, Pending.expressions_collect, aliasTypes,
    List.getElem?_map]
  cases requests[slot]? <;> rfl

/-! ## Types that are read -/

/-- That no type that is read waits in a slot. -/
def Slotless (reading : Except Mismatch TypeExpr) : Prop :=
  ∀ type, reading = .ok type → type.slot? = none

theorem slotless_error (mismatch : Mismatch) : Slotless (.error mismatch) := by
  rintro type ⟨⟩

theorem slotless_ok
    {type : TypeExpr}
    (slotless : type.slot? = none) :
    Slotless (.ok type) := by
  rintro same ⟨⟩
  exact slotless

theorem slotless_bind
    {α : Type}
    {first : Except Mismatch α}
    {next : α → Except Mismatch TypeExpr}
    (each : ∀ found, Slotless (next found)) :
    Slotless (first >>= next) := by
  cases first with
  | error mismatch => exact slotless_error mismatch
  | ok found => exact each found

theorem slotless_bind_ok
    {α : Type}
    {first : Except Mismatch α}
    {type : α → TypeExpr}
    (slotless : ∀ found, (type found).slot? = none) :
    Slotless (first >>= fun found => .ok (type found)) :=
  slotless_bind fun found => slotless_ok (slotless found)

/-- A type that is read waits in no slot, whatever form it is read from. -/
theorem slotless_readAt
    (nested : Bool)
    (value : Value) :
    Slotless (TypeExpr.readAt nested value) := by
  match value with
  | .object members =>
      rw [TypeExpr.readAt]
      refine slotless_bind fun tag => slotless_bind fun variant => ?_
      cases variant with
      | named =>
          exact slotless_bind fun _ => slotless_bind fun _ => slotless_bind fun _ =>
            slotless_bind_ok fun _ => rfl
      | literal => exact slotless_bind_ok fun _ => rfl
      | union => exact slotless_bind fun _ => slotless_bind_ok fun _ => rfl
      | tuple => exact slotless_bind_ok fun _ => rfl
  | .array [] =>
      rw [TypeExpr.readAt]
      exact slotless_error _
  | .array [tag] =>
      rw [TypeExpr.readAt]
      refine slotless_bind fun variant => ?_
      cases variant with
      | named | literal | union => exact slotless_error _
      | tuple => exact slotless_ok rfl
  | .array [tag, _] =>
      rw [TypeExpr.readAt]
      refine slotless_bind fun variant => ?_
      cases variant with
      | named | literal => exact slotless_bind_ok fun _ => rfl
      | union | tuple => exact slotless_bind fun _ => slotless_bind_ok fun _ => rfl
  | .array [tag, _, _] =>
      rw [TypeExpr.readAt]
      refine slotless_bind fun variant => ?_
      cases variant with
      | literal => exact slotless_bind_ok fun _ => rfl
      | named | union | tuple => exact slotless_bind fun _ => slotless_bind_ok fun _ => rfl
  | .array (tag :: _ :: _ :: _ :: _) =>
      rw [TypeExpr.readAt]
      refine slotless_bind fun variant => ?_
      cases variant with
      | named =>
          exact slotless_bind fun _ => slotless_bind fun _ => slotless_bind fun _ =>
            slotless_bind_ok fun _ => rfl
      | literal => exact slotless_bind_ok fun _ => rfl
      | union | tuple => exact slotless_bind fun _ => slotless_bind_ok fun _ => rfl
  | .null | .bool _ | .number _ | .string _ =>
      rw [TypeExpr.readAt]
      · exact slotless_error _
      all_goals simp

theorem slot?_of_replaceBare
    {lookup : String → Option TypeExpr}
    (replacements : ∀ name replacement,
      lookup name = some replacement → replacement.slot? = none)
    {type : TypeExpr}
    (slotless : type.slot? = none) :
    (replaceBare lookup type).slot? = none := by
  match type, slotless with
  | .named name target [] slot, slotless =>
      rw [replaceBare]
      cases isKnown : lookup name with
      | none => exact slotless
      | some replacement => exact replacements name replacement isKnown
  | .named _ _ (_ :: _) _, slotless => exact slotless
  | .literal _, _ | .union _, _ | .tuple _, _ => rfl

/-- A type that a slot is resolved to waits in no slot. -/
theorem Pending.slot?_of_get?_resolve
    {pending : Pending}
    {answers : Answers}
    {slot : Nat}
    {type : TypeExpr}
    (isResolved : (pending.resolve answers).get? slot = some type) :
    type.slot? = none :=
  holds_of_get?_resolve slot?_of_replaceBare
    (fun answer _ => slotless_readAt false answer.2) isResolved

/-! ## Placeholders in a tree -/

/-- The placeholders that requests are given one after another. -/
def placeholdersFrom (pending : Pending) : List Request → List TypeExpr
  | [] => []
  | request :: rest =>
      let (placeholder, registered) := pending.register request.raw request.aliasName
      placeholder :: placeholdersFrom registered rest

/-- Every request is given a placeholder of its text in the next slot. -/
theorem getElem?_placeholdersFrom
    (pending : Pending)
    (requests : List Request)
    (position : Nat) :
    (placeholdersFrom pending requests)[position]? =
      requests[position]?.map fun request =>
        .placeholder request.text (pending.expressions.length + position) := by
  induction requests generalizing pending position with
  | nil =>
      rfl
  | cons first rest inductionHypothesis =>
      cases position with
      | zero =>
          rfl
      | succ position =>
          rw [placeholdersFrom, List.getElem?_cons_succ, inductionHypothesis,
            List.getElem?_cons_succ, register_request, List.length_append,
            List.length_singleton, Nat.add_assoc, Nat.add_comm 1]

/-- That every placeholder in a tree was given to one of some requests. -/
def HoldsPlaceholdersOf
    (requests : List Request)
    (root : Declaration) :
    Prop :=
  root.Everywhere fun info => ∀ type, info.type = some type → type.slot?.isSome →
    type ∈ placeholdersFrom .empty requests

/-- The type that replaces a type, if it is a placeholder of a text that has one. -/
def settled?
    (typeOf? : String → Option TypeExpr) :
    TypeExpr → Option TypeExpr
  | .named name _ _ (some _) => typeOf? name
  | _ => none

/-- The type of a node with its placeholder replaced. -/
def settleInfo
    (typeOf? : String → Option TypeExpr)
    (info : Info) :
    Info :=
  { info with type := info.type.map fun type => (settled? typeOf? type).getD type }

namespace Resolved

variable
    {resolved : Resolved}
    {requests : List Request}
    {typeOf? : String → Option TypeExpr}

/-- A placeholder is replaced by the type of its text. -/
theorem replacement?_eq
    (bySlot : ∀ slot,
      resolved.get? slot = requests[slot]?.bind fun request => typeOf? request.text)
    {info : Info}
    (isGiven : ∀ type, info.type = some type → type.slot?.isSome →
      type ∈ placeholdersFrom .empty requests) :
    resolved.replacement? info = info.type.bind (settled? typeOf?) := by
  rw [replacement?]
  cases isType : info.type with
  | none =>
      rfl
  | some type =>
      cases isSlot : type.slot? with
      | none =>
          match type, isSlot with
          | .named _ _ _ none, _ | .literal _, _ | .union _, _ | .tuple _, _ => rfl
      | some slot =>
          obtain ⟨position, isPosition⟩ :=
            List.mem_iff_getElem?.mp (isGiven type isType (by rw [isSlot]; rfl))
          rw [getElem?_placeholdersFrom] at isPosition
          obtain ⟨request, isRequest, rfl⟩ := Option.map_eq_some_iff.mp isPosition
          -- The slot in the placeholder is the position of its request.
          obtain rfl : slot = position := by
            have same := Option.some.inj isSlot
            simpa [Pending.empty] using same.symm
          rw [Option.bind_some, Option.bind_some, isSlot, Option.bind_some, bySlot, isRequest]
          rfl

theorem applyInfo_eq_settleInfo
    {info : Info}
    (replaces : resolved.replacement? info = info.type.bind (settled? typeOf?)) :
    resolved.applyInfo info = settleInfo typeOf? info := by
  rw [applyInfo, replaces, settleInfo]
  cases isType : info.type with
  | none =>
      show info = { info with type := none }
      rw [← isType]
  | some type =>
      rw [Option.bind_some, Option.map_some]
      cases settled? typeOf? type with
      | none =>
          show info = { info with type := some type }
          rw [← isType]
      | some replacement =>
          rfl

/-- Nothing is left to replace in a node whose placeholder was replaced. -/
theorem replacement?_applyInfo
    (slotless : ∀ slot type, resolved.get? slot = some type → type.slot? = none)
    (info : Info) :
    resolved.replacement? (resolved.applyInfo info) = none := by
  rw [applyInfo]
  cases isReplaced : resolved.replacement? info with
  | none =>
      exact isReplaced
  | some type =>
      obtain ⟨slot, -, isResolved⟩ := Option.bind_eq_some_iff.mp isReplaced
      rw [replacement?, Option.bind_some, slotless slot type isResolved]
      rfl

/-- Applying types a second time replaces nothing. -/
theorem apply_apply
    (slotless : ∀ slot type, resolved.get? slot = some type → type.slot? = none)
    (root : Declaration) :
    resolved.apply (resolved.apply root).1 = ((resolved.apply root).1, 0) := by
  have stays (info : Info) :
      resolved.applyInfo (resolved.applyInfo info) = resolved.applyInfo info := by
    rw [applyInfo, replacement?_applyInfo slotless]
  have sameTree : ((resolved.apply root).1).mapInfo resolved.applyInfo =
      (resolved.apply root).1 := by
    rw [apply, Declaration.mapInfo_mapInfo]
    exact congrArg (Declaration.mapInfo · root) (funext stays)
  have noneLeft : ((resolved.apply root).1.infos.filter fun info =>
      (resolved.replacement? info).isSome) = [] := by
    rw [apply, Declaration.infos_mapInfo, List.filter_eq_nil_iff]
    intro info isInfo
    obtain ⟨before, -, rfl⟩ := List.mem_map.mp isInfo
    rw [replacement?_applyInfo slotless]
    exact Bool.false_ne_true
  rw [apply, sameTree, noneLeft]
  rfl

/--
That applying resolved types to a tree replaces the placeholders of texts that have a
type, counts the nodes where it does, changes nothing else, and leaves nothing to replace.
-/
structure SettlesOnce
    (typeOf? : String → Option TypeExpr)
    (resolved : Resolved)
    (root : Declaration) :
    Prop where
  tree_eq : (resolved.apply root).1 = root.mapInfo (settleInfo typeOf?)
  count_eq : (resolved.apply root).2 =
    root.infos.countP fun info => (info.type.bind (settled? typeOf?)).isSome
  again : resolved.apply (resolved.apply root).1 = ((resolved.apply root).1, 0)

theorem settlesOnce
    (bySlot : ∀ slot,
      resolved.get? slot = requests[slot]?.bind fun request => typeOf? request.text)
    (slotless : ∀ slot type, resolved.get? slot = some type → type.slot? = none)
    {root : Declaration}
    (holds : HoldsPlaceholdersOf requests root) :
    SettlesOnce typeOf? resolved root where
  tree_eq :=
    Declaration.mapInfo_congr root fun info isInfo =>
      applyInfo_eq_settleInfo (replacement?_eq bySlot (holds info isInfo))
  count_eq := by
    rw [apply, ← List.countP_eq_length_filter]
    refine List.countP_congr fun info isInfo => ?_
    rw [replacement?_eq bySlot (holds info isInfo)]
  again := apply_apply slotless root

end Resolved

/-! ## Asking the parser -/

/-- The parser that also notes the batches that it is sent. -/
def noting
    {σ ε : Type}
    (parser : List String → σ → Except ε Answers × σ)
    (batch : List String)
    (state : σ × List (List String)) :
    Except ε Answers × (σ × List (List String)) :=
  let (answers, after) := parser batch state.1
  (answers, after, state.2 ++ [batch])

/--
Whatever types are requested, and whatever the parser does, the parser is sent one batch:
every text of the requests once, but not the empty one, in the order in which they are
first requested.  If it fails, so does the resolution.  If it answers, every slot has the
type of the text that was requested for it; in a tree that holds placeholders of these
requests, as often and on whatever nodes it may be, each is replaced by the type of its
text if there is one, the nodes where this happens are counted, nothing else changes, and
a second time there is nothing to replace.
-/
theorem placeholders_are_settled_once
    {σ ε : Type}
    (requests : List Request)
    (parser : List String → σ → Except ε Answers × σ)
    (state : σ)
    {root : Declaration}
    (holds : HoldsPlaceholdersOf requests root) :
    let pending := Pending.collect requests
    let (outcome, after, sent) := pending.resolveAll (noting parser) (state, [])
    sent = [pending.batch] ∧
      after = (parser pending.batch state).2 ∧
      BatchOf requests pending.batch ∧
      match (parser pending.batch state).1 with
      | .error error => outcome = .error error
      | .ok answers =>
          ∃ resolved, outcome = .ok resolved ∧
            (∀ slot, resolved.get? slot =
              requests[slot]?.bind fun request => typeOf? requests answers request.text) ∧
            Resolved.SettlesOnce (typeOf? requests answers) resolved root := by
  intro pending
  refine ⟨rfl, rfl, batchOf_collect requests, ?_⟩
  cases isAnswer : (parser pending.batch state).1 with
  | error error =>
      rfl
  | ok answers =>
      have bySlot := get?_resolve_collect requests answers
      exact ⟨pending.resolve answers, rfl, bySlot, Resolved.settlesOnce bySlot
        (fun _ _ => Pending.slot?_of_get?_resolve) holds⟩

/-- Requests of a list of keys twice, of an alias, and of a text that is not understood. -/
def keyRequests : List Request :=
  [ { raw := some "list[Key]" },
    { raw := some "str", aliasName := some "Key" },
    { raw := some "list[Key]  # again" },
    { raw := some "Weird[" } ]

/-- A tree in which the placeholder of the first request stands on two nodes. -/
def keyTree : Declaration :=
  .node { id := 0, name := "api", kind := .project }
    [ .ofInfo
        { id := 1, name := "keys", kind := .property,
          type := some (.placeholder "list[Key]" 0) },
      .node { id := 2, name := "find", kind := .method } []
        [ .node
            { id := 3, name := "find", kind := .callSignature,
              type := some (.placeholder "Weird[" 3) }
            [] []
            [ .ofInfo
                { id := 4, name := "key", kind := .parameter,
                  type := some (.placeholder "list[Key]" 0) } ] ]
        [] ]
    [] []

/-- Answers to the list and to what the alias stands for. -/
def keyAnswers : Answers :=
  [ ("list[Key]", (TypeExpr.named "list" none [.ofName "Key"] none).json),
    ("str", (TypeExpr.ofName "str").json) ]

/-- Gives these answers and counts the batches. -/
def keyParser (_ : List String) (count : Nat) : Except String Answers × Nat :=
  (.ok keyAnswers, count + 1)

/--
The parser is sent three texts in one batch, the two placeholders of the list are
replaced, and that of the text that is not understood stays.
-/
theorem placeholders_are_settled_once_of_keys :
    HoldsPlaceholdersOf keyRequests keyTree ∧
      ((Pending.collect keyRequests).resolveAll (noting keyParser) (0, [])).2 =
        (1, [["list[Key]", "str", "Weird["]]) ∧
      ∃ resolved,
        ((Pending.collect keyRequests).resolveAll (noting keyParser) (0, [])).1 =
            .ok resolved ∧
          (resolved.apply keyTree).2 = 2 ∧
          (resolved.apply (resolved.apply keyTree).1).2 = 0 := by
  have listGiven : .placeholder "list[Key]" 0 ∈ placeholdersFrom .empty keyRequests :=
    List.mem_of_getElem? (getElem?_placeholdersFrom .empty keyRequests 0)
  have textGiven : .placeholder "Weird[" 3 ∈ placeholdersFrom .empty keyRequests :=
    List.mem_of_getElem? (getElem?_placeholdersFrom .empty keyRequests 3)
  have holds : HoldsPlaceholdersOf keyRequests keyTree := by
    have untyped {info : Info} (noType : info.type = none) :
        ∀ type, info.type = some type → type.slot?.isSome →
          type ∈ placeholdersFrom .empty keyRequests := by
      intro type isType
      rw [noType] at isType
      cases isType
    have placed {info : Info} {given : TypeExpr} (isGiven : info.type = some given)
        (isOwn : given ∈ placeholdersFrom .empty keyRequests) :
        ∀ type, info.type = some type → type.slot?.isSome →
          type ∈ placeholdersFrom .empty keyRequests := by
      intro type isType _
      obtain rfl := Option.some.inj (isGiven.symm.trans isType)
      exact isOwn
    exact List.forall_mem_cons.mpr ⟨untyped rfl, List.forall_mem_cons.mpr ⟨placed rfl listGiven,
      List.forall_mem_cons.mpr ⟨untyped rfl, List.forall_mem_cons.mpr ⟨placed rfl textGiven,
        List.forall_mem_cons.mpr ⟨placed rfl listGiven, List.forall_mem_nil _⟩⟩⟩⟩⟩
  have isBatch : (Pending.collect keyRequests).batch = ["list[Key]", "str", "Weird["] := by
    decide +kernel
  have counted : (keyTree.infos.countP fun info =>
      (info.type.bind (settled? (typeOf? keyRequests keyAnswers))).isSome) = 2 := by
    decide +kernel
  obtain ⟨isSent, isAfter, -, resolved, isResolved, -, settles⟩ :=
    placeholders_are_settled_once keyRequests keyParser 0 holds
  refine ⟨holds, ?_, resolved, isResolved, ?_, ?_⟩
  · rw [← isBatch]
    exact Prod.ext isAfter isSent
  · rw [settles.count_eq]
    exact counted
  · rw [settles.again]

end ApiTree.Resolve
