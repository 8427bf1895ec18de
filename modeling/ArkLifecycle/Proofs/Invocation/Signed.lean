import ArkLifecycle.Proofs.CallGraph.Completeness
import ArkLifecycle.Proofs.Invocation.Strict
import ArkLifecycle.Proofs.Signature.RoundTrip
import ArkLifecycle.Proofs.Text.Search

/-! Invocations by signature.

Data flows name what is invoked and call graphs lead to it. Both take it from the same text: the one
reads a receiver and a method, the other a signature in brackets. Where a text invokes a method by
its signature, they read the same, whatever stands among the arguments.
-/

namespace ArkLifecycle

/-- None of the marks occurs in the text. -/
def Text.Lacks (marks : List Char) (s : Text) : Prop :=
  ∀ mark ∈ marks, .char mark ∉ s.toList

instance (marks : List Char) (s : Text) : Decidable (s.Lacks marks) :=
  List.decidableBAll (fun mark => Letter.char mark ∉ s.toList) marks

-----------------------------------------------------------------------------------------
-- Signatures in a text
-----------------------------------------------------------------------------------------

namespace Signature

variable {signature : Signature}

/-- What stands before the first bracket is passed over. -/
theorem embeddedChars?_append {head : List Letter} (absent : .char '<' ∉ head)
    (rest : List Letter)
    : embeddedChars? (head ++ rest) = embeddedChars? rest := by
  induction head with
  | nil => rfl
  | cons first more ih =>
      obtain ⟨other, absent⟩ := List.ne_and_not_mem_of_not_mem_cons absent
      rw [List.cons_append, embeddedChars?, if_neg (by simpa using Ne.symm other)]
      exact ih absent

/-- A signature in the first brackets of a text is the one that is embedded in it. -/
theorem embedded?_bracketed {before : Text} (absent : .char '<' ∉ before.toList)
    (inside : .char '>' ∉ (render signature).toList) (after : Text)
    : embedded? (before ++ "<" ++ render signature ++ ">" ++ after) = some (render signature) := by
  obtain ⟨inner, written⟩ := exists_toList_render signature
  have long : 2 ≤ (inner ++ [Letter.char ')']).length := by
    have length := congrArg List.length (written.symm.trans (toList_render signature))
    simp at length ⊢
    omega
  rw [written] at inside
  have found
      : embeddedHere? ((render signature).toList ++ .char '>' :: after.toList)
        = some (render signature).toList := by
    rw [written, List.cons_append, embeddedHere?,
      Text.beforeFirst_append (List.not_mem_of_not_mem_cons inside)]
    exact if_pos ⟨long, List.getLast?_concat⟩
  have letters
      : (before ++ "<" ++ render signature ++ ">" ++ after).toList
        = before.toList ++ .char '<' :: ((render signature).toList ++ .char '>' :: after.toList)
      := by
    simp [Text.ofString, Text.ofChars]
  rw [embedded?, letters, embeddedChars?_append absent, embeddedChars?,
    if_pos BEq.rfl, found]
  rfl

end Signature

namespace Invocation

-----------------------------------------------------------------------------------------
-- The first invocation
-----------------------------------------------------------------------------------------

/-- Where the word does not occur before, it does not begin before either.
Witness: an occurrence that begins earlier would end in this one, whose first letter stands nowhere
else in the word.
-/
theorem length_le_of_invoke {before rest earlier later : List Letter}
    (fresh : ¬ invokeLetters <:+: before)
    (same : before ++ (invokeLetters ++ rest) = earlier ++ (invokeLetters ++ later))
    : before.length ≤ earlier.length := by
  rcases List.append_eq_append_iff.mp same with ⟨gap, rfl, -⟩ | ⟨gap, rfl, inside⟩
  · simp
  rcases List.append_eq_append_iff.mp inside with ⟨more, rfl, -⟩ | ⟨more, parted, begins⟩
  · exact absurd ⟨earlier, more, by simp⟩ fresh
  cases gap with
  | nil => simp
  | cons first gap =>
      cases more with
      | nil => exact absurd ⟨earlier, [], by simp [parted]⟩ fresh
      | cons letter more =>
          have initial : letter = .char 'i' := by
            have head := congrArg List.head? begins
            exact (Option.some.inj head).symm
          have inner : Letter.char 'i' ∈ invokeLetters.tail := by
            rw [parted, initial]
            simp
          exact absurd inner (by decide)

/-- A mark that stands before the first stop is one of the letters before it. -/
theorem mem_of_before_stop {mark stop : Letter} {inner rest head tail : List Letter}
    (same : inner ++ mark :: rest = head ++ stop :: tail) (absent : stop ∉ inner)
    (other : mark ≠ stop)
    : mark ∈ head := by
  induction inner generalizing head with
  | nil =>
      cases head with
      | nil => exact absurd (List.cons.inj same).1 other
      | cons first more => exact (List.cons.inj same).1 ▸ List.mem_cons_self
  | cons letter inner ih =>
      obtain ⟨different, absent⟩ := List.ne_and_not_mem_of_not_mem_cons absent
      cases head with
      | nil => exact absurd (List.cons.inj same).1.symm different
      | cons first more => exact List.mem_cons_of_mem _ (ih (List.cons.inj same).2 absent)

/-- A reading is the first one if the word does not occur before it, and no colon stands between the
colon of its path and the closing bracket.
-/
theorem StrictReading.isFirst_of {text : Text} {reading : StrictReading text}
    (fresh : ¬ ("invoke" : Text).Occurs reading.before)
    (plain
      : .char ':' ∉ (reading.gap ++ reading.className ++ "." ++ reading.method ++ "("
          ++ reading.parameters ++ ")").toList)
    : reading.IsFirst := by
  intro other
  have written := reading.toList_text.symm.trans other.toList_text
  rcases (length_le_of_invoke fresh written).lt_or_eq with earlier | same
  · exact .inl earlier
  refine .inr ⟨same, ?_⟩
  have behind := List.append_cancel_left (List.append_inj written same).2
  have inner := (reading.opens.unique (behind ▸ other.opens)).2
  rcases List.append_eq_append_iff.mp inner with ⟨gap, longer, rest⟩ | ⟨gap, shorter, -⟩
  · -- A longer path would end at a colon behind that of the reading.
    cases gap with
    | nil => simp [Text.length, longer]
    | cons colon gap =>
        have call : gap ++ .char ':' :: other.call
            = (reading.gap ++ reading.className ++ "." ++ reading.method ++ "("
                ++ reading.parameters ++ ")").toList ++ .char '>' :: reading.after.toList := by
          refine (List.cons.inj rest).2.symm.trans ?_
          simp [StrictReading.call, Text.ofString, Text.ofChars]
        have absent : .char '>' ∉ gap := fun member =>
          other.path_open (longer ▸ List.mem_append_right _ (List.mem_cons_of_mem _ member))
        exact absurd (mem_of_before_stop call absent (by decide)) plain
  · simp [Text.length, shorter]

-----------------------------------------------------------------------------------------
-- Signed calls
-----------------------------------------------------------------------------------------

/-- The parts of an invocation by signature, and what stands before it. -/
structure SignedCall where
  before : Text
  receiver : Text
  signature : Signature
  arguments : Text

namespace SignedCall

variable {call : SignedCall}

/-- (text call) writes the invocation. -/
def text (call : SignedCall) : Text :=
  call.before ++ "invoke " ++ call.receiver ++ ".<" ++ call.signature.render ++ ">("
    ++ call.arguments ++ ")"

/-- (target call) is the receiver and the method. -/
def target (call : SignedCall) : Text :=
  call.receiver ++ "." ++ call.signature.method

/-- No part of the invocation has a mark that ends it, and no other invocation stands before. The
arguments may be anything.
-/
structure Legible (call : SignedCall) : Prop where
  before_fresh : ¬ ("invoke" : Text).Occurs call.before
  before_open : call.before.Lacks ['<']
  receiver_some : call.receiver ≠ ""
  receiver_only : ∀ letter ∈ call.receiver.toList, isReceiver letter = true
  file : call.signature.file.Lacks [':', '<', '>']
  className_only : ∀ letter ∈ call.signature.className.toList, isReceiver letter = true
  method_some : call.signature.method ≠ ""
  method_only : ∀ letter ∈ call.signature.method.toList, Text.isWord letter = true
  parameters : call.signature.parameters.Lacks [':', '(', ')', '<', '>', '\n']

/-- No mark is a letter of receivers, so that none occurs in what is made of such letters. -/
theorem not_mem_of_only (mark : Letter) {test : Letter → Bool} {letters : List Letter}
    (only : ∀ letter ∈ letters, test letter = true) (other : test mark = false)
    : mark ∉ letters := by
  intro member
  simp [only mark member] at other

/-- (reading call legible) is the strict reading of the invocation. -/
def reading (call : SignedCall) (legible : call.Legible) : StrictReading call.text where
  before := call.before
  blanks := " "
  receiver := call.receiver
  path := "@" ++ call.signature.file
  gap := " "
  className := call.signature.className
  method := call.signature.method
  parameters := call.signature.parameters
  after := "(" ++ call.arguments ++ ")"
  written := by
    rw [Text.eq_iff_toList]
    simp [text, Signature.render, Text.ofString, Text.ofChars]
  blanks_some := by decide
  blanks_only := by decide
  receiver_some := legible.receiver_some
  receiver_only := legible.receiver_only
  path_open := by
    simpa [Text.ofString, Text.ofChars] using legible.file '>'
  gap_only := by decide
  className_only := legible.className_only
  method_some := legible.method_some
  method_only := legible.method_only
  parameters_open := legible.parameters ')' (by simp)

theorem reading_isFirst (legible : call.Legible) : (call.reading legible).IsFirst := by
  refine StrictReading.isFirst_of legible.before_fresh ?_
  have className := not_mem_of_only (.char ':') legible.className_only (by decide)
  have method := not_mem_of_only (.char ':') legible.method_only (by decide)
  have parameters := legible.parameters ':' (by simp)
  simp [reading, Text.ofString, Text.ofChars, className, method, parameters]

/-- The target of the invocation is its receiver and its method. -/
theorem target?_text (legible : call.Legible) : target? call.text = some call.target := by
  have read : strict? call.text.toList = some call.target.toList :=
    strict?_eq_some_iff.mpr ⟨_, reading_isFirst legible, rfl⟩
  rw [target?, read]

/-- Neither bracket occurs in the signature. -/
theorem render_open (legible : call.Legible) {bracket : Char} (is_bracket : bracket ∈ ['<', '>'])
    : .char bracket ∉ call.signature.render.toList := by
  have either : bracket = '<' ∨ bracket = '>' := by simpa using is_bracket
  have unreceived : isReceiver (.char bracket) = false := by
    rcases either with rfl | rfl <;> decide
  have unworded : Text.isWord (.char bracket) = false := by
    rcases either with rfl | rfl <;> decide
  have file := legible.file bracket (List.mem_cons_of_mem _ is_bracket)
  have className := not_mem_of_only _ legible.className_only unreceived
  have method := not_mem_of_only _ legible.method_only unworded
  have parameters : .char bracket ∉ call.signature.parameters.toList := by
    refine legible.parameters bracket ?_
    rcases either with rfl | rfl <;> simp
  rcases either with rfl | rfl <;>
    simp [Signature.toList_render, file, className, method, parameters]

/-- The signature in brackets is the one that is embedded in the invocation. -/
theorem embedded?_text (legible : call.Legible)
    : Signature.embedded? call.text = some call.signature.render := by
  have receiver := not_mem_of_only (.char '<') legible.receiver_only (by decide)
  have before := legible.before_open '<' (by simp)
  have written
      : call.text
        = (call.before ++ "invoke " ++ call.receiver ++ ".") ++ "<" ++ call.signature.render ++ ">"
          ++ ("(" ++ call.arguments ++ ")") := by
    simp [text, Text.eq_iff_toList, Text.ofString, Text.ofChars]
  rw [written]
  refine Signature.embedded?_bracketed ?_ (render_open legible (by simp)) _
  simp [Text.ofString, Text.ofChars, receiver, before]

/-- The signature is read with its class and its method unchanged. -/
theorem parse?_signature (legible : call.Legible)
    : Signature.parse? call.signature.render
      = some { call.signature with
          file := ⟨Text.trim call.signature.file.toList⟩
          parameters := ⟨Text.trim call.signature.parameters.toList⟩ } := by
  have className := not_mem_of_only (.char '(') legible.className_only (by decide)
  have method (mark : Letter) (other : Text.isWord mark = false) :=
    not_mem_of_only mark legible.method_only other
  have worded : ∀ letter ∈ call.signature.method.toList, Text.isBlank letter = false := by
    intro letter member
    refine isBlank_of_isReceiver ?_
    simp [isReceiver, legible.method_only letter member]
  rw [Signature.parse?_of_marks (Signature.unwrapChars_render_alone _) (legible.file ':' (by simp))
    className legible.method_some ⟨method _ (by decide), method _ (by decide)⟩
    (legible.parameters '\n' (by simp))]
  rw [Signature.ofLetters, Text.trim_eq_of_solid worded,
    Text.trim_eq_of_solid fun letter member =>
      isBlank_of_isReceiver (legible.className_only letter member)]

/-- (namesakes call files) are the methods of the program that have the name of the method. -/
def namesakes (call : SignedCall) (files : List SourceFile) : List Method :=
  (Program.methodsOf files).filter fun method => method.name == call.signature.method

/-- The invocation leads to the method of its signature, if the program declares it, or else to all
methods of that name, or to the signature itself if there are none.
-/
structure LeadsTo (call : SignedCall) (files : List SourceFile) (targets : List Text) : Prop where
  declared
    : CallGraph.Declared files call.signature.render → targets = [call.signature.render]
  named
    : ¬ CallGraph.Declared files call.signature.render
      → call.namesakes files ≠ []
      → targets = (call.namesakes files).map Method.signature
  foreign
    : ¬ CallGraph.Declared files call.signature.render
      → call.namesakes files = []
      → targets = [call.signature.render]

/-- A call to the signature is resolved by it and the name in it. -/
theorem resolveTarget_leadsTo (files : List SourceFile)
    (named : Signature.methodName call.signature.render = call.signature.method)
    : call.LeadsTo files (CallGraph.resolveTarget (.ofFiles files) call.signature.render) := by
  have found : (Program.ofFiles files).methodsNamed call.signature.method = call.namesakes files :=
    Program.methodsNamed_ofFiles files _
  have missing (undeclared : ¬ CallGraph.Declared files call.signature.render)
      : ¬ ((Program.ofFiles files).method? call.signature.render).isSome = true :=
    fun some => undeclared ((CallGraph.isSome_method?_iff files _).mp some)
  constructor
  case declared => exact CallGraph.resolveTarget_declared
  case named =>
    intro undeclared some
    rw [CallGraph.resolveTarget, if_neg (missing undeclared), named, found]
    split
    · next none => exact absurd none some
    · rfl
  case foreign =>
    intro undeclared none
    rw [CallGraph.resolveTarget, if_neg (missing undeclared), named, found, none]

/-- The flow that is recorded of an invocation and the calls of it in the call graph are read alike:
the one names the receiver and the method, the other takes the signature as it stands in the
brackets, with the class and the method of it, and leads to that method in every program. Nothing
among the arguments changes that.
-/
theorem reads_alike (legible : call.Legible)
    : target? call.text = some call.target
      ∧ label call.text = call.target
      ∧ Signature.embedded? call.text = some call.signature.render
      ∧ Signature.methodName call.signature.render = call.signature.method
      ∧ Signature.classNameOf call.signature.render = call.signature.className
      ∧ ∀ files expr,
          expr.text = call.text
          → expr.callee = .unresolved
          → ∃ targets,
              CallGraph.resolve (.ofFiles files) expr = .ok targets ∧ call.LeadsTo files targets
    := by
  have read := target?_text legible
  have embedded := embedded?_text legible
  have parsed := parse?_signature legible
  have named : Signature.methodName call.signature.render = call.signature.method := by
    rw [Signature.methodName, parsed]
  refine ⟨read, ?_, embedded, named, ?_, ?_⟩
  · rw [label, read, Option.getD_some]
  · rw [Signature.classNameOf, parsed]
  · intro files expr same callee
    have targets : expr.Targets call.signature.render :=
      .inr ⟨callee, (congrArg Signature.embedded? same).trans embedded⟩
    exact ⟨_, CallGraph.resolve_targets _ targets, resolveTarget_leadsTo files named⟩

/-- (nesting) invokes a function without a class, and has another invocation by signature among its
arguments, with a call inside.
-/
def nesting : SignedCall where
  before := "x = "
  receiver := "%0"
  signature := ⟨"b.ets", "", "g", "n"⟩
  arguments := "invoke y.<@a.ets: A.f()>(h(1))"

/-- The other invocation changes nothing, and the call leads to both methods with the name. -/
theorem reads_alike_nesting
    : nesting.Legible
      ∧ target? "x = invoke %0.<@b.ets: .g(n)>(invoke y.<@a.ets: A.f()>(h(1)))" = some "%0.g"
      ∧ Signature.embedded? "x = invoke %0.<@b.ets: .g(n)>(invoke y.<@a.ets: A.f()>(h(1)))"
        = some "@b.ets: .g(n)"
      ∧ CallGraph.resolve (.ofFiles [CallGraph.forkFile])
          ⟨"x = invoke %0.<@b.ets: .g(n)>(invoke y.<@a.ets: A.f()>(h(1)))", .unresolved⟩
        = .ok ["@a.ets: B.g()", "@a.ets: C.g()"] := by
  have legible : nesting.Legible := by
    constructor <;> decide
  have written
      : nesting.text = "x = invoke %0.<@b.ets: .g(n)>(invoke y.<@a.ets: A.f()>(h(1)))" := by
    rw [Text.eq_iff_toList]
    simp [nesting, text, Signature.render, Text.ofString, Text.ofChars]
  obtain ⟨target, -, embedded, -, -, resolves⟩ := reads_alike legible
  obtain ⟨targets, resolved, leads⟩ :=
    resolves [CallGraph.forkFile] ⟨nesting.text, .unresolved⟩ rfl rfl
  have undeclared : ¬ CallGraph.Declared [CallGraph.forkFile] nesting.signature.render := by
    simp only [CallGraph.Declared]
    decide
  rw [written] at target embedded resolved
  rw [leads.named undeclared (by decide)] at resolved
  exact ⟨legible, target, embedded, resolved⟩

end SignedCall

end Invocation

end ArkLifecycle
