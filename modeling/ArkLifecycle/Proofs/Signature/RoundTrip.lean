import ArkLifecycle.Program.Reader
import ArkLifecycle.Proofs.Session.Inquiry
import ArkLifecycle.Proofs.Text.Cutting

/-! Signatures are read back from what is written of them.

The parts of a signature are admissible when no mark that divides them stands where it would be
mistaken for one. What is read from a text with a named method is always of this kind, so it can be
written and read again without a loss.
-/

namespace ArkLifecycle.Signature

/-- Nothing in the parts is lost or mistaken for a mark between them when they are written. -/
structure Admissible (signature : Signature) : Prop where
  trimmed
    : ∀ part ∈ [signature.file, signature.className, signature.method, signature.parameters],
        part.IsTrimmed
  file : .char ':' ∉ signature.file.toList
  className : .char '(' ∉ signature.className.toList
  named : signature.method ≠ ""
  method : .char '.' ∉ signature.method.toList ∧ .char '(' ∉ signature.method.toList
  parameters : .char '\n' ∉ signature.parameters.toList

instance (signature : Signature) : Decidable signature.Admissible :=
  decidable_of_iff
    ((∀ part ∈ [signature.file, signature.className, signature.method, signature.parameters],
        part.IsTrimmed)
      ∧ .char ':' ∉ signature.file.toList
      ∧ .char '(' ∉ signature.className.toList
      ∧ signature.method ≠ ""
      ∧ (.char '.' ∉ signature.method.toList ∧ .char '(' ∉ signature.method.toList)
      ∧ .char '\n' ∉ signature.parameters.toList)
    ⟨fun ⟨trimmed, file, className, named, method, parameters⟩ =>
        ⟨trimmed, file, className, named, method, parameters⟩,
      fun ⟨trimmed, file, className, named, method, parameters⟩ =>
        ⟨trimmed, file, className, named, method, parameters⟩⟩

-----------------------------------------------------------------------------------------
-- The parts of a text
-----------------------------------------------------------------------------------------

/-- The last dot divides class and method, and there is no class without one. -/
theorem splitOwner_eq_some_iff {name className method : List Letter}
    : splitOwner name = some (className, method)
      ↔ method ≠ []
        ∧ .char '.' ∉ method
        ∧ (name = className ++ .char '.' :: method ∨ className = [] ∧ name = method) := by
  unfold splitOwner
  split
  · next before cut =>
      obtain ⟨rfl, -⟩ := Text.beforeLast_eq_some_iff.mp cut
      constructor
      · rintro ⟨⟩
      · rintro ⟨some, undivided, written | ⟨-, rfl⟩⟩
        · cases cut.symm.trans (Text.beforeLast_eq_some_iff.mpr ⟨written, undivided⟩)
          exact absurd rfl some
        · exact absurd (List.mem_append_right _ List.mem_cons_self) undivided
  · next before after some cut =>
      obtain ⟨rfl, last⟩ := Text.beforeLast_eq_some_iff.mp cut
      constructor
      · rintro ⟨⟩
        exact ⟨some, last, Or.inl rfl⟩
      · rintro ⟨-, undivided, written | ⟨-, rfl⟩⟩
        · exact cut.symm.trans (Text.beforeLast_eq_some_iff.mpr ⟨written, undivided⟩)
        · exact absurd (List.mem_append_right _ List.mem_cons_self) undivided
  · next cut =>
      have undivided := Text.beforeLast_eq_none_iff.mp cut
      cases name <;> grind

theorem splitParameters_eq_some_iff {letters parameters : List Letter}
    : splitParameters letters = some parameters
      ↔ letters = parameters ++ [.char ')'] ∧ .char '\n' ∉ parameters := by
  simp only [splitParameters, Option.ite_none_right_eq_some, List.getLast?_eq_some_iff]
  constructor
  · rintro ⟨⟨⟨before, rfl⟩, oneLine⟩, same⟩
    rw [Option.some_inj, List.dropLast_concat] at same
    subst same
    exact ⟨rfl, fun broken => oneLine (List.mem_append_left _ broken)⟩
  · rintro ⟨rfl, oneLine⟩
    refine ⟨⟨⟨parameters, rfl⟩, ?_⟩, congrArg some List.dropLast_concat⟩
    simpa using oneLine

/-- (ofLetters file className method parameters) is the signature with the parts that are left of
these letters when they are trimmed.
-/
def ofLetters (file className method parameters : List Letter) : Signature :=
  ⟨⟨Text.trim file⟩, ⟨Text.trim className⟩, ⟨Text.trim method⟩, ⟨Text.trim parameters⟩⟩

/-- A signature is read from a text exactly if the text, without what is around it, is made of an
at sign, the file, a colon, the name with an owner or without, and the parameters in parentheses.
-/
theorem parse?_eq_some_iff {s : Text} {signature : Signature}
    : parse? s = some signature
      ↔ ∃ file name className method parameters,
          unwrapChars s.toList
            = .char '@' :: (file ++ .char ':' :: (name ++ .char '(' :: (parameters ++ [.char ')'])))
          ∧ .char ':' ∉ file
          ∧ .char '(' ∉ name
          ∧ splitOwner name = some (className, method)
          ∧ .char '\n' ∉ parameters
          ∧ signature = ofLetters file className method parameters := by
  unfold parse?
  split
  · next rest unwrapped =>
      simp only [bind, Option.bind_eq_some_iff, Prod.exists, Text.beforeFirst_eq_some_iff,
        splitParameters_eq_some_iff, Option.pure_def, Option.some_inj, unwrapped, List.cons.injEq,
        true_and]
      constructor
      · rintro ⟨file, _, ⟨rfl, noColon⟩, name, _, ⟨rfl, flat⟩, className, method, owned, parameters,
          ⟨rfl, oneLine⟩, rfl⟩
        exact ⟨file, name, className, method, parameters, rfl, noColon, flat, owned, oneLine, rfl⟩
      · rintro ⟨file, name, className, method, parameters, rfl, noColon, flat, owned, oneLine, rfl⟩
        exact ⟨file, _, ⟨rfl, noColon⟩, name, _, ⟨rfl, flat⟩, className, method, owned, parameters,
          ⟨rfl, oneLine⟩, rfl⟩
  · next other =>
      constructor
      · rintro ⟨⟩
      · rintro ⟨_, _, _, _, _, unwrapped, -⟩
        exact absurd unwrapped (other _)

/-- What is read from a text is admissible, if there is a method in it. -/
theorem admissible_of_parse? {s : Text} {signature : Signature}
    (parsed : parse? s = some signature) (named : signature.method ≠ "")
    : Admissible signature := by
  obtain ⟨file, name, className, method, parameters, -, noColon, flat, owned, oneLine, rfl⟩ :=
    parse?_eq_some_iff.mp parsed
  obtain ⟨-, undivided, owner⟩ := splitOwner_eq_some_iff.mp owned
  have free {letter : Letter} {letters : List Letter} (absent : letter ∉ letters)
      : letter ∉ Text.trim letters :=
    fun member => absent ((Text.trim_infix letters).subset member)
  have inside : className ⊆ name ∧ method ⊆ name := by
    rcases owner with rfl | ⟨rfl, rfl⟩ <;> simp
  exact {
    trimmed := by simp [ofLetters, Text.trim_isTrimmed]
    file := free noColon
    className := free fun member => flat (inside.1 member)
    named
    method := ⟨free undivided, free fun member => flat (inside.2 member)⟩
    parameters := free oneLine }

-----------------------------------------------------------------------------------------
-- Signatures as they are written
-----------------------------------------------------------------------------------------

theorem toList_render (signature : Signature)
    : (render signature).toList
      = .char '@' :: (signature.file.toList ++ .char ':' ::
          ((.char ' ' :: (signature.className.toList ++ .char '.' :: signature.method.toList))
            ++ .char '(' :: (signature.parameters.toList ++ [.char ')']))) := by
  simp [render, Text.ofString, Text.ofChars]

theorem exists_toList_render (signature : Signature)
    : ∃ inner, (render signature).toList = .char '@' :: (inner ++ [.char ')']) := by
  refine ⟨signature.file.toList ++ .char ':' ::
    ((.char ' ' :: (signature.className.toList ++ .char '.' :: signature.method.toList))
      ++ .char '(' :: signature.parameters.toList), ?_⟩
  simp [toList_render]

/-- A written signature has no blanks around it. -/
theorem render_isTrimmed (signature : Signature) : (render signature).IsTrimmed := by
  obtain ⟨inner, written⟩ := exists_toList_render signature
  rw [Text.eq_iff_toList (t := ⟨_⟩) |>.mpr written]
  exact Text.isTrimmed_between (by decide) (by decide) inner

/-- Blanks around a written signature are left out. -/
theorem unwrapChars_render (signature : Signature) {before after : Text} (leading : before.IsBlanks)
    (trailing : after.IsBlanks)
    : unwrapChars (before ++ render signature ++ after).toList = (render signature).toList := by
  obtain ⟨inner, written⟩ := exists_toList_render signature
  rw [unwrapChars, Text.toList_append, Text.toList_append, Text.trim_between leading trailing,
    (render_isTrimmed signature).trim_eq, written]
  rfl

theorem unwrapChars_render_alone (signature : Signature)
    : unwrapChars (render signature).toList = (render signature).toList := by
  have none : (⟨[]⟩ : Text).IsBlanks := by simp [Text.IsBlanks]
  simpa using unwrapChars_render signature none none

/-- Brackets around a written signature are left out, with the blanks on both sides of them. -/
theorem unwrapChars_bracketed (signature : Signature) {before after lead trail : Text}
    (leading : before.IsBlanks) (trailing : after.IsBlanks) (first : lead.IsBlanks)
    (last : trail.IsBlanks)
    : unwrapChars (before ++ "<" ++ lead ++ render signature ++ trail ++ ">" ++ after).toList
      = (render signature).toList := by
  have written
      : (before ++ "<" ++ lead ++ render signature ++ trail ++ ">" ++ after).toList
        = before.toList
          ++ (.char '<' :: (lead.toList ++ (render signature).toList ++ trail.toList
            ++ [.char '>']))
          ++ after.toList := by
    simp [Text.ofString, Text.ofChars]
  have opening : Text.isBlank (.char '<') = false := by decide
  have closing : Text.isBlank (.char '>') = false := by decide
  have bracketed := Text.isTrimmed_between opening closing
    (lead.toList ++ (render signature).toList ++ trail.toList)
  rw [unwrapChars, written, Text.trim_between leading trailing, bracketed.trim_eq]
  change (if _ = some (Letter.char '>') then Text.trim (List.dropLast _) else _) = _
  rw [if_pos List.getLast?_concat, List.dropLast_concat, Text.trim_between first last,
    (render_isTrimmed signature).trim_eq]

/-- What is written of a signature is divided at its own marks, if no other ones stand where they
would be taken for them.
-/
theorem parse?_of_marks {s : Text} {signature : Signature}
    (unwrapped : unwrapChars s.toList = (render signature).toList)
    (file : .char ':' ∉ signature.file.toList) (className : .char '(' ∉ signature.className.toList)
    (named : signature.method ≠ "")
    (method : .char '.' ∉ signature.method.toList ∧ .char '(' ∉ signature.method.toList)
    (parameters : .char '\n' ∉ signature.parameters.toList)
    : parse? s
      = some (ofLetters signature.file.toList signature.className.toList signature.method.toList
          signature.parameters.toList) := by
  have blank : ∀ letter ∈ [Letter.char ' '], Text.isBlank letter = true := by decide
  have spaced
      : Text.trim (.char ' ' :: signature.className.toList)
        = Text.trim signature.className.toList := by
    have kept
        : Text.trim ([.char ' '] ++ signature.className.toList ++ [])
          = Text.trim signature.className.toList :=
      Text.trim_between blank (by simp)
    rwa [List.append_nil] at kept
  refine parse?_eq_some_iff.mpr
    ⟨_, _, .char ' ' :: signature.className.toList, signature.method.toList, _,
      unwrapped.trans (toList_render signature), file, ?_, ?_, parameters, ?_⟩
  · simp [className, method.2]
  · refine splitOwner_eq_some_iff.mpr ⟨?_, method.1, Or.inl rfl⟩
    exact fun none => named (Text.eq_iff_toList.mpr none)
  · rw [ofLetters, ofLetters, spaced]

/-- An admissible signature is read from each text that is left of it when brackets and blanks are
taken off.
Witness: no mark stands in a part that ends at it, and every part is trimmed.
-/
theorem parse?_of_unwrapped {s : Text} {signature : Signature} (admissible : Admissible signature)
    (unwrapped : unwrapChars s.toList = (render signature).toList)
    : parse? s = some signature := by
  obtain ⟨trimmed, file, className, named, method, parameters⟩ := admissible
  simp only [List.forall_mem_cons, List.not_mem_nil, false_imp_iff, implies_true, and_true]
    at trimmed
  obtain ⟨fileTrimmed, classTrimmed, methodTrimmed, parametersTrimmed⟩ := trimmed
  rw [parse?_of_marks unwrapped file className named method parameters, ofLetters,
    fileTrimmed.trim_eq, classTrimmed.trim_eq, methodTrimmed.trim_eq, parametersTrimmed.trim_eq]

-----------------------------------------------------------------------------------------
-- Round trips
-----------------------------------------------------------------------------------------

/-- An admissible signature is read from what is written of it, also among blanks. -/
theorem parse?_render {signature : Signature} (admissible : Admissible signature)
    {before after : Text} (leading : before.IsBlanks) (trailing : after.IsBlanks)
    : parse? (before ++ render signature ++ after) = some signature :=
  parse?_of_unwrapped admissible (unwrapChars_render signature leading trailing)

theorem parse?_render_alone {signature : Signature} (admissible : Admissible signature)
    : parse? (render signature) = some signature :=
  parse?_of_unwrapped admissible (unwrapChars_render_alone signature)

/-- A method that is read without a signature has the default one. -/
theorem signature_of_readMethod {className filePath : Text} {v : Json} {method : Method}
    (read : Program.readMethod className filePath v = .ok method)
    (absent : v.textFieldOrNone "signature" = .ok "")
    : method.signature = Method.defaultSignature method.filePath method.className method.name := by
  unfold Program.readMethod at read
  obtain ⟨name, -, read⟩ := bind_eq_ok read
  obtain ⟨signature, given, read⟩ := bind_eq_ok read
  obtain ⟨line, -, read⟩ := bind_eq_ok read
  obtain ⟨column, -, read⟩ := bind_eq_ok read
  obtain ⟨body, -, read⟩ := bind_eq_ok read
  obtain ⟨cfg, -, read⟩ := bind_eq_ok read
  cases absent.symm.trans given
  cases read
  rfl

/-- What is written of an admissible signature is read back, within blanks, and also in brackets.
What is read with a method in it is admissible, so that writing and reading it again changes
nothing. And the default signature of a method, which one that is read without a signature has,
gives its file, class and name, whenever these are admissible.
-/
theorem parse?_inverse
    : (∀ signature,
        Admissible signature
        → ∀ before after lead trail : Text,
            before.IsBlanks → after.IsBlanks → lead.IsBlanks → trail.IsBlanks
            → parse? (before ++ render signature ++ after) = some signature
              ∧ parse? (before ++ "<" ++ lead ++ render signature ++ trail ++ ">" ++ after)
                = some signature)
      ∧ (∀ s signature,
          parse? s = some signature
          → signature.method ≠ ""
          → Admissible signature ∧ parse? (render signature) = some signature)
      ∧ (∀ file className name,
          Admissible ⟨file, className, name, ""⟩
          → parse? (Method.defaultSignature file className name)
            = some ⟨file, className, name, ""⟩)
      ∧ ∀ className filePath v method,
          Program.readMethod className filePath v = .ok method
          → v.textFieldOrNone "signature" = .ok ""
          → Admissible ⟨method.filePath, method.className, method.name, ""⟩
          → parse? method.signature
            = some ⟨method.filePath, method.className, method.name, ""⟩ := by
  refine ⟨?_, ?_, fun _ _ _ => parse?_render_alone, ?_⟩
  · intro signature admissible before after lead trail leading trailing first last
    exact ⟨parse?_render admissible leading trailing,
      parse?_of_unwrapped admissible (unwrapChars_bracketed signature leading trailing first last)⟩
  · intro s signature parsed named
    have admissible := admissible_of_parse? parsed named
    exact ⟨admissible, parse?_render_alone admissible⟩
  · intro className filePath v method read absent admissible
    rw [signature_of_readMethod read absent]
    exact parse?_render_alone admissible

/-- A class in a namespace is told from its method, whose parameters have parentheses themselves. -/
theorem parse?_inverse_nested
    : parse? " < @entry/a.ets: ns.Index.build(f: (x) => void)> "
      = some ⟨"entry/a.ets", "ns.Index", "build", "f: (x) => void"⟩ :=
  (parse?_inverse.1 ⟨"entry/a.ets", "ns.Index", "build", "f: (x) => void"⟩ (by decide) " " " " " "
    "" (by decide) (by decide) (by decide) (by decide)).2

end ArkLifecycle.Signature
