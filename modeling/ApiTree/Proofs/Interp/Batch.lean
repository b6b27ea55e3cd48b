import ApiTree.Interp.Response
import ApiTree.Proofs.Hint.Writing
import ApiTree.Proofs.Json.Members

namespace ApiTree.Hint

open ApiTree.Json (Reads Value)
open ApiTree.Json.Reads (objectAt)

/-!
# Batches of expressions

Each expression of a batch is answered for itself: what the others are decides only
whether there is a response at all.  There is one exactly if no expression stops the
evaluation and every descriptor can be written and read back.  This is so under every
interpreter, whatever stops it.
-/

/-! ## The descriptors of a batch -/

section Batch

variable
    [Interpreter]
    {seen texts : List String}
    {described : List (String × Descriptor)}

/-- The descriptor of a text, if it has one. -/
def descriptor? (text : String) : Option Descriptor :=
  (descriptorOf text).toOption

/-- What is described is new, each text once, and found with its descriptor. -/
structure Describes
    (seen texts : List String)
    (described : List (String × Descriptor)) :
    Prop where
  unseen : ∀ text ∈ described.map Prod.fst, text ∉ seen
  distinct : (described.map Prod.fst).Nodup
  lookup_eq : ∀ text, described.lookup text =
    if text ∈ texts ∧ text ∉ seen then descriptor? text else none

namespace Describes

/-- A text that was seen before adds nothing. -/
theorem skip
    {first : String}
    (describes : Describes seen texts described)
    (isSeen : first ∈ seen) :
    Describes seen (first :: texts) described where
  unseen := describes.unseen
  distinct := describes.distinct
  lookup_eq text := by
    rw [describes.lookup_eq]
    refine if_congr ?_ rfl rfl
    refine ⟨fun both => ⟨List.mem_cons_of_mem _ both.1, both.2⟩, ?_⟩
    rintro ⟨isText, notSeen⟩
    rcases List.mem_cons.mp isText with rfl | inRest
    · exact (notSeen isSeen).elim
    · exact ⟨inRest, notSeen⟩

theorem lookup_eq_of_ne
    {first text : String}
    (describes : Describes (first :: seen) texts described)
    (other : text ≠ first) :
    described.lookup text =
      if text ∈ first :: texts ∧ text ∉ seen then descriptor? text else none := by
  rw [describes.lookup_eq]
  simp [other]

theorem lookup_first
    {first : String}
    (describes : Describes (first :: seen) texts described) :
    described.lookup first = none := by
  rw [describes.lookup_eq]
  simp

/-- A new text without a descriptor adds nothing. -/
theorem reject
    {first : String}
    (describes : Describes (first :: seen) texts described)
    (rejected : descriptor? first = none) :
    Describes seen (first :: texts) described where
  unseen text isNamed isSeen :=
    describes.unseen text isNamed (List.mem_cons_of_mem _ isSeen)
  distinct := describes.distinct
  lookup_eq text := by
    by_cases isFirst : text = first
    · rw [isFirst, describes.lookup_first, rejected, ite_self]
    · exact describes.lookup_eq_of_ne isFirst

/-- A new text with a descriptor adds it. -/
theorem add
    {first : String}
    {descriptor : Descriptor}
    (describes : Describes (first :: seen) texts described)
    (notSeen : first ∉ seen)
    (answered : descriptor? first = some descriptor) :
    Describes seen (first :: texts) ((first, descriptor) :: described) where
  unseen text isNamed isSeen := by
    rcases List.mem_cons.mp isNamed with rfl | inRest
    · exact notSeen isSeen
    · exact describes.unseen text inRest (List.mem_cons_of_mem _ isSeen)
  distinct := by
    rw [List.map_cons, List.nodup_cons]
    exact ⟨fun isNamed => describes.unseen first isNamed List.mem_cons_self,
      describes.distinct⟩
  lookup_eq text := by
    rw [Json.lookup_cons_eq]
    by_cases isFirst : text = first
    · rw [if_pos isFirst, isFirst, answered, if_pos ⟨List.mem_cons_self, notSeen⟩]
    · rw [if_neg isFirst]
      exact describes.lookup_eq_of_ne isFirst

end Describes

theorem describeAll_of_seen
    {first : String}
    (isSeen : first ∈ seen)
    (texts : List String) :
    describeAll seen (first :: texts) = describeAll seen texts := by
  rw [describeAll, if_pos (List.contains_iff_mem.mpr isSeen)]

theorem describeAll_of_new
    {first : String}
    (notSeen : first ∉ seen)
    (texts : List String) :
    describeAll seen (first :: texts) =
      match descriptorOf first with
      | .ok descriptor => do
          let others ← describeAll (first :: seen) texts
          .ok ((first, descriptor) :: others)
      | .error .rejected => describeAll (first :: seen) texts
      | .error .crashed => .error .crashed :=
  if_neg (mt List.contains_iff_mem.mp notSeen)

/-- That a new text of a batch stops its evaluation. -/
def StopsIn (seen texts : List String) : Prop :=
  ∃ text ∈ texts, text ∉ seen ∧ descriptorOf text = .error .crashed

theorem stopsIn_cons_of_not_stops
    {first : String}
    (goesOn : descriptorOf first ≠ .error .crashed)
    (seen texts : List String) :
    StopsIn seen (first :: texts) ↔ StopsIn (first :: seen) texts := by
  constructor
  · rintro ⟨text, isText, notSeen, stops⟩
    have other : text ≠ first := by
      rintro rfl
      exact goesOn stops
    refine ⟨text, List.mem_of_ne_of_mem other isText, ?_, stops⟩
    exact fun isSeen => notSeen (List.mem_of_ne_of_mem other isSeen)
  · rintro ⟨text, isText, notSeen, stops⟩
    exact ⟨text, List.mem_cons_of_mem _ isText,
      fun isSeen => notSeen (List.mem_cons_of_mem _ isSeen), stops⟩

theorem stopsIn_cons_of_seen
    {first : String}
    (isSeen : first ∈ seen)
    (texts : List String) :
    StopsIn seen (first :: texts) ↔ StopsIn seen texts := by
  constructor
  · rintro ⟨text, isText, notSeen, stops⟩
    rcases List.mem_cons.mp isText with rfl | inRest
    · exact (notSeen isSeen).elim
    · exact ⟨text, inRest, notSeen, stops⟩
  · rintro ⟨text, isText, stops⟩
    exact ⟨text, List.mem_cons_of_mem _ isText, stops⟩

/-- What becomes of a batch. -/
inductive Described (seen texts : List String) : Prop where
  /-- Everything new in it that has a descriptor is described. -/
  | described
      (described : List (String × Descriptor))
      (ok : describeAll seen texts = .ok described)
      (describes : Describes seen texts described)
      (goesOn : ¬ StopsIn seen texts)
  /-- Something new in it stops the evaluation. -/
  | stopped
      (error : describeAll seen texts = .error .crashed)
      (stops : StopsIn seen texts)

/-- A batch is described unless something new in it stops the evaluation. -/
theorem described_cases (seen texts : List String) : Described seen texts := by
  induction texts generalizing seen with
  | nil =>
      refine .described [] rfl ⟨by simp, by simp, by simp⟩ ?_
      rintro ⟨text, isText, -⟩
      cases isText
  | cons first rest inductionHypothesis =>
      by_cases isSeen : first ∈ seen
      · have unfolds := describeAll_of_seen isSeen rest
        have sameStops := stopsIn_cons_of_seen isSeen rest
        cases inductionHypothesis seen with
        | described described ok describes goesOn =>
            exact .described described (unfolds.trans ok) (describes.skip isSeen)
              (mt sameStops.mp goesOn)
        | stopped error stops =>
            exact .stopped (unfolds.trans error) (sameStops.mpr stops)
      · have unfolds := describeAll_of_new isSeen rest
        cases outcome : descriptorOf first with
        | ok descriptor =>
            have sameStops := stopsIn_cons_of_not_stops
              (by rw [outcome]; simp : descriptorOf first ≠ .error .crashed) seen rest
            rw [outcome] at unfolds
            cases inductionHypothesis (first :: seen) with
            | described described ok describes goesOn =>
                refine .described ((first, descriptor) :: described) ?_
                  (describes.add isSeen (by rw [descriptor?, outcome]; rfl))
                  (mt sameStops.mp goesOn)
                rw [unfolds, ok]
                rfl
            | stopped error stops =>
                refine .stopped ?_ (sameStops.mpr stops)
                rw [unfolds, error]
                rfl
        | error trouble =>
            cases trouble with
            | rejected =>
                have sameStops := stopsIn_cons_of_not_stops
                  (by rw [outcome]; simp : descriptorOf first ≠ .error .crashed)
                  seen rest
                rw [outcome] at unfolds
                cases inductionHypothesis (first :: seen) with
                | described described ok describes goesOn =>
                    exact .described described (unfolds.trans ok)
                      (describes.reject (by rw [descriptor?, outcome]; rfl))
                      (mt sameStops.mp goesOn)
                | stopped error stops =>
                    exact .stopped (unfolds.trans error) (sameStops.mpr stops)
            | crashed =>
                rw [outcome] at unfolds
                exact .stopped unfolds
                  ⟨first, List.mem_cons_self, isSeen, outcome⟩

end Batch

/-! ## The response to a batch -/

/-- The value that is read back from a descriptor, if it can be written and read. -/
def Descriptor.answer? (descriptor : Descriptor) : Option Value := do
  let _ ← descriptor.write?
  descriptor.valueAt (Json.levelLimit - 1)

/-- What is read back from a response. -/
theorem reads_responseText?
    {described : List (String × Descriptor)}
    {text : String}
    (writes : responseText? described = some text) :
    Reads text.toList
      (objectAt fun levels => described.mapM fun entry =>
        (entry.2.valueAt levels).map (entry.1, ·)) := by
  rw [responseText?, Option.bind_eq_bind, Option.bind_eq_some_iff] at writes
  obtain ⟨texts, written, writes⟩ := writes
  cases writes
  refine reads_writeMembers written ?_
  intro entry _ text writes
  rw [Option.bind_eq_bind, Option.bind_eq_some_iff] at writes
  obtain ⟨content, contentWritten, writes⟩ := writes
  cases writes
  exact exists_entry_of_writeMember entry.1 (entry.2.reads contentWritten)

/-- Two things are done to all of a list if both are done to each. -/
theorem mapM_bind_mapM
    {α β γ : Type}
    (first : α → Option β)
    (second : α → Option γ)
    (items : List α) :
    ((items.mapM first).bind fun _ => items.mapM second) =
      items.mapM fun item => (first item).bind fun _ => second item := by
  induction items with
  | nil => rfl
  | cons item items inductionHypothesis =>
      simp only [List.mapM_cons, Option.bind_eq_bind, Option.pure_def,
        ← inductionHypothesis]
      cases first item with
      | none => rfl
      | some _ =>
          cases items.mapM first with
          | none =>
              cases second item <;> rfl
          | some _ => rfl

end ApiTree.Hint

namespace ApiTree.Interp

open ApiTree.Hint (Described Descriptor StopsIn descriptor? descriptorOf responseText?)
open ApiTree.Json (Value)
open ApiTree.Json.Reads (innerLevel? objectAt)

/-- The answers to what is described, if all of it can be written and read back. -/
def answersTo? (described : List (String × Descriptor)) : Option Resolve.Answers :=
  described.mapM fun entry => entry.2.answer?.map (entry.1, ·)

/-- A written member of a response. -/
def writeAnswer? (entry : String × Descriptor) : Option String := do
  let written ← entry.2.write?
  some (Descriptor.writeMember entry.1 written)

theorem toOption_readResponse_eq (text : String) :
    (readResponse text).toOption =
      (Json.decode (Json.Decoder.map Json.Decoder.value) text).toOption := by
  rw [readResponse]
  cases Json.decode (Json.Decoder.map Json.Decoder.value) text <;> rfl

/-- The members of the outermost object are read one level further in. -/
theorem asObject?_objectAt
    (namedAt : Nat → Option (List (String × Value))) :
    (objectAt namedAt Json.levelLimit).bind Value.asObject? =
      (namedAt (Json.levelLimit - 1)).map Json.sortMembers := by
  have inner : innerLevel? Json.levelLimit = some (Json.levelLimit - 1) := rfl
  rw [objectAt, inner, Option.bind_eq_bind, Option.bind_some]
  cases namedAt (Json.levelLimit - 1) <;> rfl

/-- A response is read if each of its descriptors can be written and read back. -/
theorem toOption_readResponse (described : List (String × Descriptor)) :
    ((responseText? described).bind fun text => (readResponse text).toOption) =
      (answersTo? described).map Json.sortMembers := by
  have splits : answersTo? described =
      (described.mapM writeAnswer?).bind fun _ =>
        described.mapM fun entry =>
          (entry.2.valueAt (Json.levelLimit - 1)).map (entry.1, ·) := by
    rw [Hint.mapM_bind_mapM, answersTo?]
    congr
    funext entry
    rw [Descriptor.answer?, writeAnswer?]
    cases entry.2.write? <;> rfl
  have writes : responseText? described =
      (described.mapM writeAnswer?).map Hint.Constant.writeMembers := by
    change (described.mapM writeAnswer?).bind _ = _
    cases described.mapM writeAnswer? <;> rfl
  rw [splits]
  cases written : described.mapM writeAnswer? with
  | none =>
      rw [writes, written]
      rfl
  | some texts =>
      rw [written] at writes
      rw [writes, Option.map_some, Option.bind_some, Option.bind_some,
        toOption_readResponse_eq,
        (Hint.reads_responseText? writes).toOption_decode, asObject?_objectAt]

theorem isSome_mapM_iff
    {α β : Type}
    {change : α → Option β}
    {items : List α} :
    (items.mapM change).isSome ↔ ∀ item ∈ items, (change item).isSome := by
  induction items with
  | nil => simp
  | cons item items inductionHypothesis =>
      rw [List.mapM_cons, List.forall_mem_cons, ← inductionHypothesis]
      cases change item <;> cases items.mapM change <;> simp

theorem lookup_answersTo?
    {described : List (String × Descriptor)}
    {answers : Resolve.Answers}
    (answered : answersTo? described = some answers) :
    answers.map Prod.fst = described.map Prod.fst ∧
      ∀ text, answers.lookup text =
        (described.lookup text).bind Descriptor.answer? := by
  rw [answersTo?] at answered
  induction described generalizing answers with
  | nil =>
      cases answered
      exact ⟨rfl, fun _ => rfl⟩
  | cons entry described inductionHypothesis =>
      rw [List.mapM_cons, Option.bind_eq_bind, Option.bind_eq_some_iff] at answered
      obtain ⟨first, firstAnswered, answered⟩ := answered
      rw [Option.bind_eq_bind, Option.bind_eq_some_iff] at answered
      obtain ⟨others, othersAnswered, answered⟩ := answered
      cases answered
      obtain ⟨value, isAnswer, rfl⟩ := Option.map_eq_some_iff.mp firstAnswered
      obtain ⟨sameNames, found⟩ := inductionHypothesis othersAnswered
      refine ⟨by rw [List.map_cons, List.map_cons, sameNames], ?_⟩
      intro text
      rw [Json.lookup_cons_eq, found, Json.lookup_cons_eq entry.1 text entry.2]
      split
      · exact isAnswer.symm
      · rfl

theorem eq_ok_iff_toOption
    {ε α : Type}
    {outcome : Except ε α}
    {found : α} :
    outcome = .ok found ↔ outcome.toOption = some found := by
  cases outcome <;> simp [Except.toOption]

theorem exists_error_of_toOption
    {ε α : Type}
    {outcome : Except ε α}
    (fails : outcome.toOption = none) :
    ∃ error, outcome = .error error := by
  cases outcome with
  | ok => cases fails
  | error error => exact ⟨error, rfl⟩

/-! ## Answers -/

section Answers

variable [Hint.Interpreter]

/-- The answer to a text, if it has a descriptor that can be written and read back. -/
def answerTo? (text : String) : Option Value :=
  (descriptor? text).bind Descriptor.answer?

/--
That a text can be answered: it does not stop the evaluation, and its descriptor, if
it has one, can be written and read back.
-/
structure Answerable (text : String) : Prop where
  goesOn : descriptorOf text ≠ .error .crashed
  readable : ∀ descriptor, descriptorOf text = .ok descriptor →
    descriptor.answer?.isSome

/-- What becomes of a batch that is evaluated. -/
inductive Evaluated (texts : List String) : Prop where
  /-- Each text can be answered, and has the answer that it has by itself. -/
  | answered
      (answers : Resolve.Answers)
      (ok : evaluator texts = .ok answers)
      (lookup_eq : ∀ text, answers.lookup text =
        if text ∈ texts then answerTo? text else none)
      (answerable : ∀ text ∈ texts, Answerable text)
  /-- Some text cannot be answered, and there are no answers. -/
  | failed
      (error : ParserError)
      (fails : evaluator texts = .error error)
      (text : String)
      (isText : text ∈ texts)
      (notAnswerable : ¬ Answerable text)

theorem toOption_evaluator (texts : List String) :
    (evaluator texts).toOption =
      (Hint.respond? texts).bind fun text => (readResponse text).toOption := by
  rw [evaluator]
  cases Hint.respond? texts <;> rfl

/-- What is described is described as by itself. -/
theorem descriptorOf_of_mem
    {texts : List String}
    {described : List (String × Descriptor)}
    (describes : Hint.Describes [] texts described)
    {entry : String × Descriptor}
    (isDescribed : entry ∈ described) :
    entry.1 ∈ texts ∧ descriptorOf entry.1 = .ok entry.2 := by
  have found := Json.lookup_eq_some_of_mem describes.distinct isDescribed
  rw [describes.lookup_eq] at found
  split at found
  · rename_i isText
    exact ⟨isText.1, eq_ok_iff_toOption.mpr found⟩
  · cases found

/-- A batch is answered if each of its texts can be. -/
theorem evaluated (texts : List String) : Evaluated texts := by
  cases Hint.described_cases [] texts with
  | stopped error stops =>
      obtain ⟨text, isText, -, stopsHere⟩ := stops
      have noResponse : Hint.respond? texts = none := by
        rw [Hint.respond?, error]
      obtain ⟨fault, fails⟩ : ∃ fault, evaluator texts = .error fault := by
        rw [evaluator, noResponse]
        exact ⟨_, rfl⟩
      exact .failed fault fails text isText fun answerable =>
        answerable.goesOn stopsHere
  | described described ok describes goesOn =>
      have outcome : (evaluator texts).toOption =
          (answersTo? described).map Json.sortMembers := by
        have response : Hint.respond? texts = responseText? described := by
          rw [Hint.respond?, ok]
        rw [toOption_evaluator, response, toOption_readResponse]
      cases answered : answersTo? described with
      | none =>
          rw [answered] at outcome
          obtain ⟨fault, fails⟩ := exists_error_of_toOption outcome
          have notAll : ¬ (answersTo? described).isSome := by simp [answered]
          rw [answersTo?, isSome_mapM_iff] at notAll
          push Not at notAll
          obtain ⟨entry, isDescribed, unreadable⟩ := notAll
          obtain ⟨isText, hasDescriptor⟩ :=
            descriptorOf_of_mem describes isDescribed
          refine .failed fault fails entry.1 isText fun answerable => unreadable ?_
          rw [Option.isSome_map]
          exact answerable.readable entry.2 hasDescriptor
      | some answers =>
          obtain ⟨sameNames, found⟩ := lookup_answersTo? answered
          rw [answered] at outcome
          refine .answered (Json.sortMembers answers) (eq_ok_iff_toOption.mpr outcome)
            ?_ ?_
          · intro text
            rw [Json.lookup_sortMembers (sameNames ▸ describes.distinct), found,
              describes.lookup_eq]
            by_cases isText : text ∈ texts
            · rw [if_pos ⟨isText, List.not_mem_nil⟩, if_pos isText, answerTo?]
            · rw [if_neg fun both => isText both.1, if_neg isText, Option.bind_none]
          · intro text isText
            refine ⟨fun stops => goesOn ⟨text, isText, List.not_mem_nil, stops⟩, ?_⟩
            intro descriptor hasDescriptor
            have all : (answersTo? described).isSome := by simp [answered]
            rw [answersTo?, isSome_mapM_iff] at all
            have isDescribed : (text, descriptor) ∈ described := by
              have found : described.lookup text = some descriptor := by
                rw [describes.lookup_eq, if_pos ⟨isText, List.not_mem_nil⟩,
                  descriptor?, hasDescriptor]
                rfl
              obtain ⟨front, back, rfl, -⟩ := List.lookup_eq_some_iff.mp found
              simp
            simpa using all _ isDescribed

theorem answerable_of_isSome
    {text : String}
    (answered : (answerTo? text).isSome) :
    Answerable text := by
  obtain ⟨value, isAnswer⟩ := Option.isSome_iff_exists.mp answered
  obtain ⟨descriptor, described, read⟩ := Option.bind_eq_some_iff.mp isAnswer
  have ok := eq_ok_iff_toOption.mpr described
  constructor
  · simp [ok]
  · intro other isOther
    obtain rfl := Except.ok.inj (ok.symm.trans isOther)
    simp [read]

/-- Texts that each have an answer are answered together. -/
theorem exists_answers
    {texts : List String}
    (each : ∀ text ∈ texts, (answerTo? text).isSome) :
    ∃ answers, evaluator texts = .ok answers ∧
      ∀ text ∈ texts, ∃ value, answers.lookup text = some value := by
  cases evaluated texts with
  | answered answers ok lookup_eq =>
      refine ⟨answers, ok, fun text isText => ?_⟩
      rw [lookup_eq, if_pos isText]
      exact Option.isSome_iff_exists.mp (each text isText)
  | failed _ _ text isText notAnswerable =>
      exact (notAnswerable (answerable_of_isSome (each text isText))).elim

/-- A text by itself is answered if it can be, and gets the answer to it. -/
theorem evaluator_singleton (text : String) :
    (Answerable text ∧ ∃ alone, evaluator [text] = .ok alone ∧
        alone.lookup text = answerTo? text) ∨
      (¬ Answerable text ∧ ∃ error, evaluator [text] = .error error) := by
  cases evaluated [text] with
  | answered alone ok lookup_eq answerable =>
      refine .inl ⟨answerable text List.mem_cons_self, alone, ok, ?_⟩
      rw [lookup_eq, if_pos List.mem_cons_self]
  | failed error fails other isOther notAnswerable =>
      obtain rfl := List.mem_singleton.mp isOther
      exact .inr ⟨notAnswerable, error, fails⟩

/--
A batch is answered if and only if each of its texts can be answered by itself, and
then the answer to each text, or that it has none, is what it is by itself.  A text
can be answered unless it stops the evaluation or has a descriptor that cannot be
written or read back.
-/
theorem answers_do_not_depend_on_batch (texts : List String) :
    ((∃ answers, evaluator texts = .ok answers) ↔
        ∀ text ∈ texts, ∃ alone, evaluator [text] = .ok alone) ∧
      (∀ text, (∃ alone, evaluator [text] = .ok alone) ↔ Answerable text) ∧
        ∀ answers, evaluator texts = .ok answers →
          (∀ text ∈ texts, ∃ alone, evaluator [text] = .ok alone ∧
            answers.lookup text = alone.lookup text) ∧
          ∀ text, text ∉ texts → answers.lookup text = none := by
  have single (text : String) :
      (∃ alone, evaluator [text] = .ok alone) ↔ Answerable text := by
    rcases evaluator_singleton text with
      ⟨answerable, alone, ok, -⟩ | ⟨notAnswerable, error, fails⟩
    · exact ⟨fun _ => answerable, fun _ => ⟨alone, ok⟩⟩
    · refine ⟨?_, fun answerable => (notAnswerable answerable).elim⟩
      rintro ⟨alone, ok⟩
      rw [fails] at ok
      cases ok
  refine ⟨?_, single, ?_⟩
  · simp only [single]
    cases evaluated texts with
    | answered answers ok lookup_eq answerable =>
        exact ⟨fun _ => answerable, fun _ => ⟨answers, ok⟩⟩
    | failed error fails text isText notAnswerable =>
        refine ⟨?_, fun answerable => (notAnswerable (answerable text isText)).elim⟩
        rintro ⟨answers, ok⟩
        rw [fails] at ok
        cases ok
  · intro answers isAnswer
    cases evaluated texts with
    | answered others ok lookup_eq answerable =>
        obtain rfl : answers = others :=
          Except.ok.inj (isAnswer.symm.trans ok)
        refine ⟨?_, fun text notText => by rw [lookup_eq, if_neg notText]⟩
        intro text isText
        rcases evaluator_singleton text with
          ⟨-, alone, aloneOk, found⟩ | ⟨notAnswerable, -⟩
        · exact ⟨alone, aloneOk, by rw [lookup_eq, if_pos isText, found]⟩
        · exact (notAnswerable (answerable text isText)).elim
    | failed error fails =>
        rw [fails] at isAnswer
        cases isAnswer

end Answers

/-- A union is answered next to a text that is no expression as it is by itself. -/
theorem answers_do_not_depend_on_batch_of_union :
    ∃ answers alone,
      evaluator ["x y", "str | None"] = .ok answers ∧
        evaluator ["str | None"] = .ok alone ∧
        (alone.lookup "str | None").isSome ∧
        answers.lookup "str | None" = alone.lookup "str | None" ∧
        answers.lookup "int" = none := by
  have unstopped : (evaluator ["x y", "str | None"]).toOption.isSome = true := by
    decide +kernel
  have described : (answerTo? "str | None").isSome = true := by
    decide +kernel
  obtain ⟨answers, isAnswer⟩ := Option.isSome_iff_exists.mp unstopped
  have isAnswer := eq_ok_iff_toOption.mpr isAnswer
  obtain ⟨sameAlone, others⟩ :=
    (answers_do_not_depend_on_batch ["x y", "str | None"]).2.2 answers isAnswer
  obtain ⟨alone, aloneOk, sameAnswer⟩ := sameAlone "str | None" (by simp)
  refine ⟨answers, alone, isAnswer, aloneOk, ?_, sameAnswer, others "int" (by simp)⟩
  rcases evaluator_singleton "str | None" with ⟨-, other, ok, found⟩ | ⟨-, _, fails⟩
  · obtain rfl : alone = other := Except.ok.inj (aloneOk.symm.trans ok)
    rw [found, described]
  · rw [fails] at aloneOk
    cases aloneOk

/-- An optional type of nothing leaves the other text of its batch without an answer. -/
theorem optional_of_nothing_stops_batch :
    (∃ alone, evaluator ["int"] = .ok alone ∧ (alone.lookup "int").isSome) ∧
      ∃ error, evaluator ["int", "Optional[()]"] = .error error := by
  have described : (answerTo? "int").isSome = true := by decide +kernel
  have answered : (evaluator ["int"]).toOption.isSome = true := by decide +kernel
  have stopped : (evaluator ["int", "Optional[()]"]).toOption = none := by
    rw [← Option.isNone_iff_eq_none]
    decide +kernel
  refine ⟨?_, exists_error_of_toOption stopped⟩
  rcases evaluator_singleton "int" with ⟨-, alone, ok, found⟩ | ⟨-, _, fails⟩
  · exact ⟨alone, ok, by rw [found, described]⟩
  · rw [fails] at answered
    cases answered

end ApiTree.Interp
