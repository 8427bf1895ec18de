import ArkLifecycle.Invocation
import ArkLifecycle.Proofs.Text.Cutting

/-! The strict reading of invocations.

A text may read strictly in several ways: at more than one `invoke`, and after more than one colon
of the bracketed signature. The reading that counts is the one at the first `invoke`, and after the
last colon there.
-/

namespace ArkLifecycle.Invocation

-----------------------------------------------------------------------------------------
-- Strict readings
-----------------------------------------------------------------------------------------

/-- A way to read a text strictly: the parts of an invocation in it, and what stands around them. -/
structure StrictReading (text : Text) where
  before : Text
  blanks : Text
  receiver : Text
  path : Text
  gap : Text
  className : Text
  method : Text
  parameters : Text
  after : Text
  written
    : text
      = before ++ "invoke" ++ blanks ++ receiver ++ ".<" ++ path ++ ":" ++ gap ++ className ++ "."
        ++ method ++ "(" ++ parameters ++ ")>" ++ after
  blanks_some : blanks ≠ ""
  blanks_only : blanks.IsBlanks
  receiver_some : receiver ≠ ""
  receiver_only : ∀ letter ∈ receiver.toList, isReceiver letter = true
  path_open : .char '>' ∉ path.toList
  gap_only : gap.IsBlanks
  className_only : ∀ letter ∈ className.toList, isReceiver letter = true
  method_some : method ≠ ""
  method_only : ∀ letter ∈ method.toList, Text.isWord letter = true
  parameters_open : .char ')' ∉ parameters.toList

variable {text : Text}

namespace StrictReading

/-- (target reading) is the receiver and the method. -/
def target (reading : StrictReading text) : Text :=
  reading.receiver ++ "." ++ reading.method

/-- No other reading begins at an earlier `invoke`, or at the same one with a longer path. -/
def IsFirst (reading : StrictReading text) : Prop :=
  ∀ other : StrictReading text,
    reading.before.length < other.before.length
    ∨ reading.before.length = other.before.length
      ∧ other.path.length ≤ reading.path.length

end StrictReading

-----------------------------------------------------------------------------------------
-- The call of a member
-----------------------------------------------------------------------------------------

theorem isBlank_of_isReceiver {letter : Letter} (receives : isReceiver letter = true)
    : Text.isBlank letter = false := by
  by_contra blank
  have spaced : Text.isBlank letter = true := by simpa using blank
  rw [isReceiver, Text.isWord_of_isBlank spaced, Bool.false_or, Bool.or_eq_true, beq_iff_eq,
    beq_iff_eq] at receives
  rcases receives with rfl | rfl <;> cases spaced

theorem not_isReceiver_dot : isReceiver (.char '.') = false := by
  decide

/-- Letters that begin with receiver letters or a dot have no blanks to leave out. -/
theorem trimStart_gap {gap run rest : List Letter}
    (blank : ∀ letter ∈ gap, Text.isBlank letter = true)
    (run_only : ∀ letter ∈ run, isReceiver letter = true)
    : Text.trimStart (gap ++ (run ++ .char '.' :: rest)) = run ++ .char '.' :: rest := by
  rw [Text.trimStart, List.dropWhile_append_of_pos blank]
  cases run with
  | nil => rfl
  | cons first more =>
      exact List.dropWhile_cons_of_neg (by simp [isBlank_of_isReceiver (run_only first (by simp))])

/-- A member call is blanks, a class, a dot, a method, and parameters in parentheses before a
closing bracket.
-/
structure CallsMember (letters gap className method parameters after : List Letter) : Prop where
  written
    : letters
      = gap ++ (className ++ .char '.' :: (method ++ .char '(' :: (parameters
        ++ .char ')' :: .char '>' :: after)))
  gap_only : ∀ letter ∈ gap, Text.isBlank letter = true
  className_only : ∀ letter ∈ className, isReceiver letter = true
  method_some : method ≠ []
  method_only : ∀ letter ∈ method, Text.isWord letter = true
  parameters_open : .char ')' ∉ parameters

theorem memberCall?_eq_some_iff {letters method : List Letter}
    : memberCall? letters = some method
      ↔ ∃ gap className parameters after,
          CallsMember letters gap className method parameters after := by
  constructor
  · intro read
    unfold memberCall? at read
    split at read
    · next rest dotted =>
        dsimp only at read
        split at read
        · cases read
        · next opened present =>
            split at read
            · next parameters after closed =>
                cases read
                obtain ⟨rfl, parameters_open⟩ := Text.beforeFirst_eq_some_iff.mp closed
                refine ⟨letters.takeWhile Text.isBlank,
                  (Text.trimStart letters).takeWhile isReceiver, parameters, after, ?_⟩
                constructor
                case written =>
                  rw [← opened, List.takeWhile_append_dropWhile, ← dotted,
                    List.takeWhile_append_dropWhile, Text.trimStart,
                    List.takeWhile_append_dropWhile]
                case gap_only => exact fun letter => List.mem_takeWhile_imp
                case className_only => exact fun letter => List.mem_takeWhile_imp
                case method_some => exact present
                case method_only => exact fun letter => List.mem_takeWhile_imp
                case parameters_open => exact parameters_open
            · cases read
        · cases read
    · cases read
  · rintro ⟨gap, className, parameters, after, calls⟩
    have dotted := (Text.cut_run calls.className_only not_isReceiver_dot
      (method ++ .char '(' :: (parameters ++ .char ')' :: .char '>' :: after))).2
    have other : Text.isWord (.char '(') = false := by decide
    obtain ⟨named, opened⟩ := Text.cut_run calls.method_only other
      (parameters ++ .char ')' :: .char '>' :: after)
    have closed := Text.beforeFirst_append calls.parameters_open (.char '>' :: after)
    cases method with
    | nil => exact absurd rfl calls.method_some
    | cons first more =>
        simp only [memberCall?, calls.written, trimStart_gap calls.gap_only calls.className_only,
          dotted, named, opened, closed]

-----------------------------------------------------------------------------------------
-- The bracketed signature
-----------------------------------------------------------------------------------------

/-- A member is found after every colon that is followed by one, if no bracket closes before.
Witness: induction over the path before the colon.
-/
theorem isSome_lastMember? {path rest : List Letter} (path_open : .char '>' ∉ path)
    (called : (memberCall? rest).isSome = true)
    : (lastMember? (path ++ .char ':' :: rest)).isSome = true := by
  induction path with
  | nil =>
      rw [List.nil_append, lastMember?, if_neg (by decide)]
      cases lastMember? rest with
      | some method => rfl
      | none => simpa using called
  | cons first more ih =>
      have later := ih (fun member => path_open (List.mem_cons_of_mem first member))
      obtain ⟨method, found⟩ := Option.isSome_iff_exists.mp later
      have other : ¬ (first == .char '>') = true := by
        intro same
        rw [beq_iff_eq] at same
        exact path_open (same ▸ List.mem_cons_self)
      rw [List.cons_append, lastMember?, if_neg other, found]
      rfl

/-- The member that is found is called after a colon, which is the last one of this kind.
Witness: induction over the letters; a colon counts only if no later one does.
-/
theorem lastMember?_eq_some {letters method : List Letter}
    (found : lastMember? letters = some method)
    : ∃ path rest,
        letters = path ++ .char ':' :: rest
        ∧ .char '>' ∉ path
        ∧ memberCall? rest = some method
        ∧ ∀ longer later,
            letters = longer ++ .char ':' :: later
            → .char '>' ∉ longer
            → (memberCall? later).isSome = true
            → longer.length ≤ path.length := by
  induction letters with
  | nil => cases found
  | cons first rest ih =>
      rw [lastMember?] at found
      split at found
      · cases found
      · next open_ =>
          have other : first ≠ .char '>' := by simpa using open_
          split at found
          · next member later =>
              cases found
              obtain ⟨path, after, rfl, path_open, called, last⟩ := ih later
              refine ⟨first :: path, after, rfl, ?_, called, ?_⟩
              · simpa [Ne.symm other] using path_open
              · rintro (_ | ⟨letter, longer⟩) more same longer_open calls
                · exact Nat.zero_le _
                · obtain ⟨-, same⟩ := List.cons.inj same
                  refine Nat.succ_le_succ (last longer more same ?_ calls)
                  exact fun member => longer_open (List.mem_cons_of_mem _ member)
          · next none =>
              split at found
              · next colon =>
                  rw [beq_iff_eq] at colon
                  subst colon
                  refine ⟨[], rest, rfl, by simp, found, ?_⟩
                  rintro (_ | ⟨letter, longer⟩) more same longer_open calls
                  · exact Nat.le_refl _
                  · have inside : rest = longer ++ .char ':' :: more := (List.cons.inj same).2
                    have also := isSome_lastMember?
                      (fun member => longer_open (List.mem_cons_of_mem _ member)) calls
                    rw [← inside, none] at also
                    cases also
              · cases found

-----------------------------------------------------------------------------------------
-- After the word
-----------------------------------------------------------------------------------------

/-- Behind the word `invoke` stand blanks, the receiver, a dot and an opening bracket. -/
structure Opens (letters blanks receiver inner : List Letter) : Prop where
  written : letters = blanks ++ (receiver ++ .char '.' :: .char '<' :: inner)
  blanks_some : blanks ≠ []
  blanks_only : ∀ letter ∈ blanks, Text.isBlank letter = true
  receiver_some : receiver ≠ []
  receiver_only : ∀ letter ∈ receiver, isReceiver letter = true

/-- Without the blanks, the receiver is what stands before the first dot. -/
theorem Opens.cut {letters blanks receiver inner : List Letter}
    (opens : Opens letters blanks receiver inner)
    : (Text.trimStart letters).takeWhile isReceiver = receiver
      ∧ (Text.trimStart letters).dropWhile isReceiver = .char '.' :: .char '<' :: inner := by
  rw [opens.written, trimStart_gap opens.blanks_only opens.receiver_only]
  exact Text.cut_run opens.receiver_only not_isReceiver_dot (.char '<' :: inner)

/-- There is at most one way to read this. -/
theorem Opens.unique {letters blanks receiver inner others receiver' inner' : List Letter}
    (opens : Opens letters blanks receiver inner) (also : Opens letters others receiver' inner')
    : receiver = receiver' ∧ inner = inner' := by
  obtain ⟨run, opened⟩ := opens.cut
  obtain ⟨run', opened'⟩ := also.cut
  have left := opened.symm.trans opened'
  exact ⟨run.symm.trans run', by simpa using left⟩

theorem Opens.isBlank_head {first : Letter} {rest blanks receiver inner : List Letter}
    (opens : Opens (first :: rest) blanks receiver inner)
    : Text.isBlank first = true := by
  obtain ⟨blank, more, same⟩ := List.exists_cons_of_ne_nil opens.blanks_some
  have begins := opens.written
  rw [same, List.cons_append] at begins
  exact (List.cons.inj begins).1 ▸ opens.blanks_only blank (by simp [same])

/-- (strictAt? letters) names the receiver and the member that is called last. -/
theorem strictAt?_eq_some_iff {letters target : List Letter}
    : strictAt? letters = some target
      ↔ ∃ blanks receiver inner method,
          Opens letters blanks receiver inner
          ∧ lastMember? inner = some method
          ∧ target = receiver ++ .char '.' :: method := by
  constructor
  · intro read
    unfold strictAt? at read
    split at read
    · next first rest =>
        split at read
        · next blank =>
            dsimp only at read
            split at read
            · cases read
            · next inner opened present =>
                obtain ⟨method, found, same⟩ := Option.map_eq_some_iff.mp read
                refine ⟨(first :: rest).takeWhile Text.isBlank,
                  (Text.trimStart (first :: rest)).takeWhile isReceiver, inner, method,
                  ⟨?_, ?_, fun letter => List.mem_takeWhile_imp, present,
                    fun letter => List.mem_takeWhile_imp⟩, found, same.symm⟩
                · rw [← opened, List.takeWhile_append_dropWhile, Text.trimStart,
                    List.takeWhile_append_dropWhile]
                · rw [List.takeWhile_cons_of_pos blank]
                  exact List.cons_ne_nil _ _
            · cases read
        · cases read
    · cases read
  · rintro ⟨blanks, receiver, inner, method, opens, found, rfl⟩
    obtain ⟨run, opened⟩ := opens.cut
    cases letters with
    | nil => simpa using opens.written
    | cons first rest =>
        cases receiver with
        | nil => exact absurd rfl opens.receiver_some
        | cons letter others =>
            simp only [strictAt?, opens.isBlank_head, if_true, run, opened, found, Option.map_some]

-----------------------------------------------------------------------------------------
-- At the word
-----------------------------------------------------------------------------------------

/-- (invokeLetters) are the letters of the word that begins an invocation. -/
def invokeLetters : List Letter :=
  ("invoke" : Text).toList

/-- The letters begin with the word, and what follows it reads strictly. -/
def ReadsStrictly (letters target : List Letter) : Prop :=
  ∃ rest, letters = invokeLetters ++ rest ∧ strictAt? rest = some target

theorem ReadsStrictly.strict?_eq {letters target : List Letter}
    (reads : ReadsStrictly letters target)
    : strict? letters = some target := by
  obtain ⟨rest, rfl, found⟩ := reads
  have spelled
      : invokeLetters ++ rest
        = .char 'i' :: .char 'n' :: .char 'v' :: .char 'o' :: .char 'k' :: .char 'e' :: rest :=
    rfl
  rw [spelled, strict?]
  simp only [found]

theorem strict?_cons {first : Letter} {rest target : List Letter}
    (found : strict? (first :: rest) = some target)
    : ReadsStrictly (first :: rest) target ∨ strict? rest = some target := by
  rw [strict?] at found
  split at found
  · next after begins =>
      split at found
      · next here =>
          cases found
          exact .inl ⟨after, begins, here⟩
      · exact .inr found
  · exact .inr found

theorem isSome_strict?_cons (first : Letter) {rest : List Letter}
    (found : (strict? rest).isSome = true)
    : (strict? (first :: rest)).isSome = true := by
  rw [strict?]
  split
  · split
    · rfl
    · exact found
  · exact found

/-- A place that reads strictly is enough for a target. Witness: induction over what is before. -/
theorem isSome_strict? (before : List Letter) {rest target : List Letter}
    (reads : ReadsStrictly rest target)
    : (strict? (before ++ rest)).isSome = true := by
  induction before with
  | nil => exact Option.isSome_iff_exists.mpr ⟨target, reads.strict?_eq⟩
  | cons first more ih => exact isSome_strict?_cons first ih

/-- The target is read at the first place that reads strictly. Witness: induction over the letters.
-/
theorem strict?_eq_some {letters target : List Letter} (found : strict? letters = some target)
    : ∃ before rest,
        letters = before ++ rest
        ∧ ReadsStrictly rest target
        ∧ ∀ earlier later other,
            letters = earlier ++ later
            → ReadsStrictly later other
            → before.length ≤ earlier.length := by
  induction letters with
  | nil => cases found
  | cons first rest ih =>
      by_cases here : ∃ other, ReadsStrictly (first :: rest) other
      · obtain ⟨other, reads⟩ := here
        cases reads.strict?_eq.symm.trans found
        exact ⟨[], first :: rest, rfl, reads, fun _ _ _ _ _ => Nat.zero_le _⟩
      · have later := (strict?_cons found).resolve_left fun reads => here ⟨target, reads⟩
        obtain ⟨before, after, rfl, reads, leftmost⟩ := ih later
        refine ⟨first :: before, after, rfl, reads, ?_⟩
        rintro (_ | ⟨letter, earlier⟩) tail other same also
        · exact absurd ⟨other, same ▸ also⟩ here
        · exact Nat.succ_le_succ (leftmost earlier tail other (List.cons.inj same).2 also)

-----------------------------------------------------------------------------------------
-- Readings and targets
-----------------------------------------------------------------------------------------

namespace StrictReading

/-- (call reading) are the letters behind the last colon of the path. -/
def call (reading : StrictReading text) : List Letter :=
  reading.gap.toList ++ (reading.className.toList ++ .char '.' :: (reading.method.toList
    ++ .char '(' :: (reading.parameters.toList ++ .char ')' :: .char '>' :: reading.after.toList)))

/-- (inner reading) are the letters behind the opening bracket. -/
def inner (reading : StrictReading text) : List Letter :=
  reading.path.toList ++ .char ':' :: reading.call

/-- (behind reading) are the letters behind the word. -/
def behind (reading : StrictReading text) : List Letter :=
  reading.blanks.toList ++ (reading.receiver.toList ++ .char '.' :: .char '<' :: reading.inner)

theorem toList_text (reading : StrictReading text)
    : text.toList = reading.before.toList ++ (invokeLetters ++ reading.behind) := by
  conv_lhs => rw [reading.written]
  simp [behind, inner, call, invokeLetters, Text.ofString, Text.ofChars]

theorem opens (reading : StrictReading text)
    : Opens reading.behind reading.blanks.toList reading.receiver.toList reading.inner where
  written := rfl
  blanks_some := fun none => reading.blanks_some (Text.eq_iff_toList.mpr none)
  blanks_only := reading.blanks_only
  receiver_some := fun none => reading.receiver_some (Text.eq_iff_toList.mpr none)
  receiver_only := reading.receiver_only

theorem callsMember (reading : StrictReading text)
    : CallsMember reading.call reading.gap.toList reading.className.toList reading.method.toList
        reading.parameters.toList reading.after.toList where
  written := rfl
  gap_only := reading.gap_only
  className_only := reading.className_only
  method_some := fun none => reading.method_some (Text.eq_iff_toList.mpr none)
  method_only := reading.method_only
  parameters_open := reading.parameters_open

theorem memberCall?_call (reading : StrictReading text)
    : memberCall? reading.call = some reading.method.toList :=
  memberCall?_eq_some_iff.mpr ⟨_, _, _, _, reading.callsMember⟩

/-- The place of a reading reads strictly. -/
theorem readsStrictly (reading : StrictReading text)
    : ∃ target, ReadsStrictly (invokeLetters ++ reading.behind) target := by
  have called : (memberCall? reading.call).isSome = true :=
    Option.isSome_iff_exists.mpr ⟨_, reading.memberCall?_call⟩
  obtain ⟨method, found⟩ :=
    Option.isSome_iff_exists.mp (isSome_lastMember? reading.path_open called)
  exact ⟨_, reading.behind, rfl,
    strictAt?_eq_some_iff.mpr ⟨_, _, reading.inner, method, reading.opens, found, rfl⟩⟩

/-- A text with a reading has a target. -/
theorem isSome (reading : StrictReading text) : (strict? text.toList).isSome = true := by
  obtain ⟨_, reads⟩ := reading.readsStrictly
  rw [reading.toList_text]
  exact isSome_strict? reading.before.toList reads

/-- Two first readings name the same target. Witness: they begin at the same word, open the same
bracket there, and cut it at the same colon.
-/
theorem IsFirst.target_eq {reading other : StrictReading text} (leads : reading.IsFirst)
    (also : other.IsFirst)
    : reading.target = other.target := by
  have near := leads other
  have far := also reading
  have beginning : reading.before.toList.length = other.before.toList.length := by
    simp only [Text.length] at near far
    omega
  have length : reading.path.toList.length = other.path.toList.length := by
    simp only [Text.length] at near far
    omega
  have written := reading.toList_text.symm.trans other.toList_text
  have behind := List.append_cancel_left (List.append_inj written beginning).2
  obtain ⟨receiver, inner⟩ := reading.opens.unique (behind ▸ other.opens)
  have call := (List.cons.inj (List.append_inj inner length).2).2
  have method : reading.method.toList = other.method.toList :=
    Option.some.inj (reading.memberCall?_call.symm.trans (call ▸ other.memberCall?_call))
  rw [target, target, Text.eq_iff_toList.mpr receiver, Text.eq_iff_toList.mpr method]

end StrictReading

/-- A target is named by a first reading. -/
theorem exists_isFirst {target : List Letter} (found : strict? text.toList = some target)
    : ∃ reading : StrictReading text, reading.IsFirst ∧ target = reading.target.toList := by
  obtain ⟨before, rest, written, ⟨behind, rfl, here⟩, leftmost⟩ := strict?_eq_some found
  obtain ⟨blanks, receiver, inner, method, opens, last, rfl⟩ := strictAt?_eq_some_iff.mp here
  obtain ⟨path, call, rfl, path_open, called, longest⟩ := lastMember?_eq_some last
  obtain ⟨gap, className, parameters, after, calls⟩ := memberCall?_eq_some_iff.mp called
  let reading : StrictReading text := {
    before := ⟨before⟩
    blanks := ⟨blanks⟩
    receiver := ⟨receiver⟩
    path := ⟨path⟩
    gap := ⟨gap⟩
    className := ⟨className⟩
    method := ⟨method⟩
    parameters := ⟨parameters⟩
    after := ⟨after⟩
    written := by
      rw [Text.eq_iff_toList, written, opens.written, calls.written]
      simp [invokeLetters, Text.ofString, Text.ofChars]
    blanks_some := fun none => opens.blanks_some (Text.eq_iff_toList.mp none)
    blanks_only := opens.blanks_only
    receiver_some := fun none => opens.receiver_some (Text.eq_iff_toList.mp none)
    receiver_only := opens.receiver_only
    path_open
    gap_only := calls.gap_only
    className_only := calls.className_only
    method_some := fun none => calls.method_some (Text.eq_iff_toList.mp none)
    method_only := calls.method_only
    parameters_open := calls.parameters_open }
  refine ⟨reading, ?_, ?_⟩
  · intro other
    obtain ⟨_, reads⟩ := other.readsStrictly
    rcases (leftmost _ _ _ other.toList_text reads).lt_or_eq with earlier | same
    · exact .inl earlier
    · refine .inr ⟨same, ?_⟩
      have behind_eq := List.append_cancel_left
        (List.append_inj (written.symm.trans other.toList_text) same).2
      have inner_eq := (opens.unique (behind_eq ▸ other.opens)).2
      exact longest _ _ inner_eq other.path_open
        (Option.isSome_iff_exists.mpr ⟨_, other.memberCall?_call⟩)
  · simp [reading, StrictReading.target, Text.ofString, Text.ofChars]

/-- The strict reading names the target of the first reading. -/
theorem strict?_eq_some_iff {target : Text}
    : strict? text.toList = some target.toList
      ↔ ∃ reading : StrictReading text, reading.IsFirst ∧ target = reading.target := by
  constructor
  · intro found
    obtain ⟨reading, leads, named⟩ := exists_isFirst found
    exact ⟨reading, leads, Text.eq_iff_toList.mpr named⟩
  · rintro ⟨reading, leads, rfl⟩
    obtain ⟨target, found⟩ := Option.isSome_iff_exists.mp reading.isSome
    obtain ⟨other, also, rfl⟩ := exists_isFirst found
    rw [found, leads.target_eq also]

/-- There is no target exactly where there is no reading. -/
theorem strict?_eq_none_iff : strict? text.toList = none ↔ IsEmpty (StrictReading text) := by
  constructor
  · intro absent
    exact ⟨fun reading => by simpa [absent] using reading.isSome⟩
  · intro unread
    cases found : strict? text.toList with
    | none => rfl
    | some target =>
        obtain ⟨reading, -, -⟩ := exists_isFirst found
        exact unread.elim reading

end ArkLifecycle.Invocation
