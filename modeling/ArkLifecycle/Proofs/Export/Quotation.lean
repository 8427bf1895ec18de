import ArkLifecycle.Proofs.Export.Drawing
import ArkLifecycle.Proofs.Export.NodeCap
import ArkLifecycle.Proofs.Text.Cutting

/-! What a reader of the DOT notation takes from the text of the graph of callbacks.

In that notation a string stands in double quotes, and ends at the first double quote that no
backslash escapes. Identifiers hold neither quotes nor backslashes, and labels hold them escaped
only, so no name ends the string that it stands in: the strings that are read are those that were
written. A label is shortened before it is escaped, and gives the name back when its escapes are
undone.
-/

namespace ArkLifecycle.Export

-----------------------------------------------------------------------------------------
-- Reading quoted strings
-----------------------------------------------------------------------------------------

/-- Where a reader of the notation stands. Inside of a string it knows what it has read of it. -/
inductive ReadState where
  | outside
  | inside (read : List Letter)
  /-- The next letter is escaped by a backslash. -/
  | escaping (read : List Letter)

/-- (stringsFrom state letters) are the strings that are read from here on, none if one of them does
not end. Backslashes pair from the left.
-/
def stringsFrom : ReadState → List Letter → Option (List Text)
  | .outside, [] => some []
  | .inside _, [] => none
  | .escaping _, [] => none
  | .outside, letter :: rest =>
      if letter = '"' then stringsFrom (.inside []) rest else stringsFrom .outside rest
  | .inside read, letter :: rest =>
      if letter = '"' then
        (stringsFrom .outside rest).map (⟨read⟩ :: ·)
      else if letter = '\\' then
        stringsFrom (.escaping (read ++ [letter])) rest
      else
        stringsFrom (.inside (read ++ [letter])) rest
  | .escaping read, letter :: rest => stringsFrom (.inside (read ++ [letter])) rest

/-- (quotedStrings text) are the quoted strings of a text in order, without their quotes. -/
def quotedStrings (text : Text) : Option (List Text) :=
  stringsFrom .outside text.toList

/-- (unescaped letters) undoes escapes from left to right. Only backslashes and double quotes are
escaped.
-/
def unescaped : List Letter → Option (List Letter)
  | [] => some []
  | [letter] => if letter = '\\' then none else some [letter]
  | letter :: next :: rest =>
      if letter = '\\' then
        if next = '\\' ∨ next = '"' then (unescaped rest).map (next :: ·) else none
      else
        (unescaped (next :: rest)).map (letter :: ·)

/-- Letters in a string that do not end it, whatever was read of it before. -/
def StaysInside (letters : List Letter) : Prop :=
  ∀ read rest,
    stringsFrom (.inside read) (letters ++ rest) = stringsFrom (.inside (read ++ letters)) rest

theorem StaysInside.nil : StaysInside [] :=
  fun read rest => by rw [List.nil_append, List.append_nil]

theorem StaysInside.append {first second : List Letter} (begun : StaysInside first)
    (ended : StaysInside second)
    : StaysInside (first ++ second) := by
  intro read rest
  rw [List.append_assoc, begun, ended, List.append_assoc]

theorem StaysInside.letter {letter : Letter} (quote : letter ≠ '"') (backslash : letter ≠ '\\')
    : StaysInside [letter] := by
  intro read rest
  rw [List.singleton_append, stringsFrom, if_neg quote, if_neg backslash]

theorem StaysInside.escaped (letter : Letter) : StaysInside ['\\', letter] := by
  intro read rest
  have backslash : (Letter.char '\\') ≠ '"' := by decide
  rw [List.cons_append, List.singleton_append, stringsFrom, if_neg backslash, if_pos rfl,
    stringsFrom, List.append_assoc]
  rfl

/-- Letters that are written one by one. Witness: induction over the letters. -/
theorem StaysInside.flatMap {write : Letter → List Letter} {letters : List Letter}
    (each : ∀ letter ∈ letters, StaysInside (write letter))
    : StaysInside (letters.flatMap write) := by
  induction letters with
  | nil => exact .nil
  | cons letter rest ih =>
      rw [List.flatMap_cons]
      exact (each letter List.mem_cons_self).append
        (ih fun other member => each other (List.mem_cons_of_mem _ member))

/-- The strings of these letters are known, and they all end. -/
def Quotes (letters : List Letter) (strings : List Text) : Prop :=
  ∀ rest,
    stringsFrom .outside (letters ++ rest) = (stringsFrom .outside rest).map (strings ++ ·)

theorem Quotes.append {first second : List Letter} {strings more : List Text}
    (begun : Quotes first strings) (ended : Quotes second more)
    : Quotes (first ++ second) (strings ++ more) := by
  intro rest
  rw [List.append_assoc, begun, ended, Option.map_map]
  refine congrArg (Option.map · _) (funext fun later => ?_)
  exact (List.append_assoc strings more later).symm

/-- Letters without quotes have no strings. Witness: induction over the letters. -/
theorem Quotes.plain {letters : List Letter} (absent : .char '"' ∉ letters)
    : Quotes letters [] := by
  intro rest
  induction letters with
  | nil => exact (congrFun Option.map_id _).symm
  | cons letter more ih =>
      have other : letter ≠ '"' := fun same => absent (same ▸ List.mem_cons_self)
      rw [List.cons_append, stringsFrom, if_neg other]
      exact ih fun member => absent (List.mem_cons_of_mem _ member)

theorem Quotes.string {content : Text} (stays : StaysInside content.toList)
    : Quotes (.char '"' :: content.toList ++ [.char '"']) [content] := by
  intro rest
  rw [List.cons_append, List.cons_append, stringsFrom, if_pos rfl, List.append_assoc, stays,
    List.singleton_append, stringsFrom, if_pos rfl]
  rfl

theorem Quotes.quotedStrings_eq {text : Text} {strings : List Text}
    (quotes : Quotes text.toList strings)
    : quotedStrings text = some strings := by
  have whole := quotes []
  rw [List.append_nil] at whole
  rw [quotedStrings, whole, stringsFrom, Option.map_some, List.append_nil]

/-- Lines that are put together have the strings of all lines. Witness: induction over the lines;
there is no quote between two of them.
-/
theorem Quotes.joinWith {separator : Text} (absent : .char '"' ∉ separator.toList)
    {lines : List Text} {strings : List (List Text)}
    (each : List.Forall₂ (fun line found => Quotes line.toList found) lines strings)
    : Quotes (Text.joinWith separator lines).toList strings.flatten := by
  induction each with
  | nil => exact .plain (by simp [Text.joinWith, Text.ofString, Text.ofChars])
  | cons first others ih =>
      cases others with
      | nil => simpa [Text.joinWith] using first
      | cons second more =>
          have together := (first.append (.plain absent)).append ih
          rwa [List.append_nil] at together

-----------------------------------------------------------------------------------------
-- Identifiers and labels
-----------------------------------------------------------------------------------------

/-- There are only ASCII letters, digits, underscores and points in the text. -/
def IsIdentifier (text : Text) : Prop :=
  ∀ letter ∈ text.toList, ∃ c : Char, letter = c ∧ (c.isAlphanum ∨ c = '_' ∨ c = '.')

theorem identifier_isIdentifier (text : Text) : IsIdentifier (identifier text) := by
  intro letter member
  obtain ⟨original, -, rfl⟩ := List.mem_map.mp member
  cases original with
  | char c =>
      split
      · next kept => exact ⟨c, rfl, by simpa [Letter.satisfies, or_assoc] using kept⟩
      · exact ⟨'_', rfl, by simp⟩
  | half index => exact ⟨'_', by simp [Letter.satisfies], by simp⟩

theorem IsIdentifier.staysInside {text : Text} (valid : IsIdentifier text)
    : StaysInside text.toList := by
  have each : StaysInside (text.toList.flatMap fun letter => [letter]) := by
    refine .flatMap fun letter member => ?_
    obtain ⟨c, rfl, known⟩ := valid letter member
    refine .letter ?_ ?_
    · rintro ⟨⟩
      exact absurd known (by decide)
    · rintro ⟨⟩
      exact absurd known (by decide)
  simpa using each

theorem escapedLabel_staysInside (text : Text) : StaysInside (escapedLabel text).toList := by
  rw [escapedLabel_eq]
  refine .flatMap fun letter _ => ?_
  by_cases backslash : letter = '\\'
  · subst backslash
    exact .escaped _
  · by_cases quote : letter = '"'
    · subst quote
      exact .escaped _
    · simpa [backslash, quote] using StaysInside.letter quote backslash

theorem unescaped_cons {letter : Letter} (other : letter ≠ '\\') (rest : List Letter)
    : unescaped (letter :: rest) = (unescaped rest).map (letter :: ·) := by
  cases rest with
  | nil => exact if_neg other
  | cons next more => rw [unescaped, if_neg other]

theorem unescaped_escape {letter : Letter} (escaped : letter = '\\' ∨ letter = '"')
    (rest : List Letter)
    : unescaped ('\\' :: letter :: rest) = (unescaped rest).map (letter :: ·) := by
  rw [unescaped, if_pos rfl, if_pos escaped]

/-- Undoing escapes undoes the escaping. Witness: induction over the letters. -/
theorem unescaped_escapedLabel (text : Text)
    : unescaped (escapedLabel text).toList = some text.toList := by
  obtain ⟨letters⟩ := text
  induction letters with
  | nil => rfl
  | cons letter rest ih =>
      have step
          : (escapedLabel ⟨letter :: rest⟩).toList
            = (if letter = '\\' then ['\\', '\\']
                else if letter = '"' then ['\\', '"'] else [letter] : List Letter)
              ++ (escapedLabel ⟨rest⟩).toList := by
        rw [escapedLabel_eq, escapedLabel_eq]
        rfl
      have undone := congrArg (Option.map (letter :: ·)) ih
      rw [step]
      by_cases backslash : letter = '\\'
      · subst backslash
        exact (unescaped_escape (.inl rfl) _).trans undone
      · by_cases quote : letter = '"'
        · subst quote
          exact (unescaped_escape (.inr rfl) _).trans undone
        · rw [if_neg backslash, if_neg quote]
          exact (unescaped_cons backslash _).trans undone

/-- (labelled name) is what is read from a label: a name that has at most forty letters, and of
others the first 37 and three points.
-/
def labelled (name : Text) : List Letter :=
  if name.length ≤ 40 then name.toList else name.toList.take 37 ++ List.replicate 3 (.char '.')

theorem shortened_eq_labelled (name : Text) : (shortened name).toList = labelled name := by
  by_cases few : name.length ≤ 40
  · have fits : ¬labelLength < name.toList.length := Nat.not_lt.mpr few
    rw [labelled, if_pos few, shortened, if_neg fits]
  · have long : labelLength < name.toList.length := Nat.not_le.mp few
    rw [labelled, if_neg few, shortened, if_pos long]
    rfl

-----------------------------------------------------------------------------------------
-- The text of a picture
-----------------------------------------------------------------------------------------

namespace Picture

/-- (identifiers picture) are the identifiers that a picture is written with. -/
def identifiers (picture : Picture) : List Text :=
  picture.nodes.map Declaration.identifier ++ picture.edges.flatMap fun edge => [edge.1, edge.2]

/-- (strings picture) are the strings of a picture: identifier and label of every node, then the
two identifiers of every edge.
-/
def strings (picture : Picture) : List Text :=
  (picture.nodes.flatMap fun node => [node.identifier, node.label])
    ++ picture.edges.flatMap fun edge => [edge.1, edge.2]

theorem nodeLine_quotes {node : Declaration} (identifier : StaysInside node.identifier.toList)
    (label : StaysInside node.label.toList) (colour : .char '"' ∉ node.colour.toList)
    : Quotes (nodeLine node).toList [node.identifier, node.label] := by
  have apart : Quotes (Text.ofString " [label=").toList [] := .plain (by decide)
  have opening : Quotes (Text.ofString "    ").toList [] := .plain (by decide)
  have closing : Quotes (Text.ofString ", fillcolor=" ++ node.colour ++ "];").toList [] := by
    refine .plain ?_
    simp only [Text.toList_append, List.mem_append, not_or]
    exact ⟨⟨by decide, colour⟩, by decide⟩
  have whole :=
    (((opening.append (.string identifier)).append apart).append (.string label)).append closing
  simpa [nodeLine, Text.toList_append, Text.ofString, Text.ofChars] using whole

theorem edgeLine_quotes {edge : Text × Text} (source : StaysInside edge.1.toList)
    (target : StaysInside edge.2.toList)
    : Quotes (edgeLine edge).toList [edge.1, edge.2] := by
  have opening : Quotes (Text.ofString "    ").toList [] := .plain (by decide)
  have apart : Quotes (Text.ofString " -> ").toList [] := .plain (by decide)
  have closing : Quotes (Text.ofString ";").toList [] := .plain (by decide)
  have whole :=
    (((opening.append (.string source)).append apart).append (.string target)).append closing
  simpa [edgeLine, Text.toList_append, Text.ofString, Text.ofChars] using whole

/-- Lines without quotes have no strings. -/
theorem plainLines_quote {lines : List Text} (absent : ∀ line ∈ lines, .char '"' ∉ line.toList)
    : List.Forall₂ (fun line found => Quotes line.toList found) lines (lines.map fun _ => []) := by
  rw [List.forall₂_map_right_iff]
  exact List.forall₂_same.mpr fun line member => .plain (absent line member)

/-- No string of the picture holds anything that ends it. -/
structure Sealed (picture : Picture) : Prop where
  identifiers : ∀ id ∈ picture.identifiers, StaysInside id.toList
  labels : ∀ node ∈ picture.nodes, StaysInside node.label.toList
  colours : ∀ node ∈ picture.nodes, .char '"' ∉ node.colour.toList

/-- From the text of a picture its strings are read. Witness: every line has the strings of what it
declares or joins, and the other lines have none.
-/
theorem Sealed.quotedStrings_written {picture : Picture} (closed : picture.Sealed)
    : quotedStrings picture.written = some picture.strings := by
  have nodes
      : List.Forall₂ (fun line found => Quotes line.toList found) (picture.nodes.map nodeLine)
          (picture.nodes.map fun node => [node.identifier, node.label]) := by
    rw [List.forall₂_map_left_iff, List.forall₂_map_right_iff]
    refine List.forall₂_same.mpr fun node member => ?_
    have named : node.identifier ∈ picture.identifiers :=
      List.mem_append_left _ (List.mem_map_of_mem member)
    exact nodeLine_quotes (closed.identifiers _ named) (closed.labels node member)
      (closed.colours node member)
  have edges
      : List.Forall₂ (fun line found => Quotes line.toList found) (picture.edges.map edgeLine)
          (picture.edges.map fun edge => [edge.1, edge.2]) := by
    rw [List.forall₂_map_left_iff, List.forall₂_map_right_iff]
    refine List.forall₂_same.mpr fun edge member => ?_
    have ends {id : Text} (ending : id ∈ [edge.1, edge.2]) : id ∈ picture.identifiers :=
      List.mem_append_right _ (List.mem_flatMap.mpr ⟨edge, member, ending⟩)
    exact edgeLine_quotes (closed.identifiers _ (ends (by simp)))
      (closed.identifiers _ (ends (by simp)))
  have all
      : List.Forall₂ (fun line found => Quotes line.toList found) picture.lines
          ([[], [], [], [], []]
            ++ picture.nodes.map (fun node => [node.identifier, node.label])
            ++ [[]]
            ++ picture.edges.map (fun edge => [edge.1, edge.2])
            ++ [[]]) :=
    List.rel_append
      (List.rel_append
        (List.rel_append (List.rel_append (plainLines_quote (by decide)) nodes)
          (plainLines_quote (by decide)))
        edges)
      (plainLines_quote (by decide))
  have lines : Quotes (Text.joinWith "\n" picture.lines).toList _ := .joinWith (by decide) all
  have last : Quotes (Text.ofString "\n").toList [] := .plain (by decide)
  refine (Quotes.quotedStrings_eq (lines.append last)).trans ?_
  simp [strings, List.flatMap_def]

section Shown

variable {callbacks : List Text} {names : List Scalar} {joined : List (Text × Scalar)}
  {picture : Picture}

/-- Whatever the names are, the identifiers of a picture are identifiers of the notation. -/
theorem Of.isIdentifier (shows : Picture.Of callbacks names joined picture)
    : ∀ id ∈ picture.identifiers, IsIdentifier id := by
  intro id member
  rcases List.mem_append.mp member with declared | linked
  · obtain ⟨node, listed, rfl⟩ := List.mem_map.mp declared
    obtain ⟨name, -, text, -, rfl⟩ := exists_item_of_forall₂ shows.nodes listed
    exact identifier_isIdentifier text
  · obtain ⟨line, listed, ending⟩ := List.mem_flatMap.mp linked
    obtain ⟨edge, -, text, -, rfl⟩ := exists_item_of_forall₂ shows.edges listed
    rcases List.mem_pair.mp ending with rfl | rfl
    · exact identifier_isIdentifier edge.1
    · exact identifier_isIdentifier text

theorem Of.sealed (shows : Picture.Of callbacks names joined picture) : picture.Sealed where
  identifiers id member := (shows.isIdentifier id member).staysInside
  labels node member := by
    obtain ⟨name, -, text, -, rfl⟩ := exists_item_of_forall₂ shows.nodes member
    exact escapedLabel_staysInside _
  colours node member := by
    obtain ⟨name, -, text, -, rfl⟩ := exists_item_of_forall₂ shows.nodes member
    dsimp only [declare]
    split
    · exact by decide
    · exact by decide

end Shown

end Picture

-----------------------------------------------------------------------------------------
-- The text of a graph
-----------------------------------------------------------------------------------------

/-- What is read from the text of a graph are the strings of its picture: an identifier and a label
for each of the first nodes, and two identifiers for each of the first edges.
-/
structure Reads (names : List Scalar) (joined : List (Text × Scalar)) (text : Text)
    (picture : Picture) : Prop where
  strings : quotedStrings text = some picture.strings
  identifiers : ∀ id ∈ picture.identifiers, IsIdentifier id
  nodes
    : List.Forall₂
        (fun name node =>
          ∃ written,
            name = .text written
            ∧ node.identifier = identifier written
            ∧ unescaped node.label.toList = some (labelled written))
        (names.take drawnNodes) picture.nodes
  edges : List.Forall₂ Picture.Joins (joined.take drawnEdges) picture.edges

/-- Names cannot end the strings that they stand in, whatever the names are. -/
theorem reads_of_dot {κ : Type} [Datum κ] {records : List (Record κ)} {text : Text}
    (done : dot records = .ok text)
    : ∃ sources names picture,
        List.Forall₂ Source.Of (lifecycleRecords records) sources
        ∧ Scalar.FirstsOf (sources.flatMap Source.nodes) names
        ∧ Reads names (sources.flatMap Source.edges) text picture := by
  obtain ⟨drawn, picture, begun, shows, rfl⟩ := dot_eq_ok_iff.mp done
  obtain ⟨sources, all, firsts, edges, -⟩ := drawing_eq_ok begun
  refine ⟨sources, drawn.nodes, picture, all, firsts, ?_⟩
  constructor
  case strings => exact shows.sealed.quotedStrings_written
  case identifiers => exact shows.isIdentifier
  case nodes =>
    refine shows.nodes.imp fun name node ⟨text, told, declared⟩ => ⟨text, told, ?_, ?_⟩
    · rw [declared, declare]
    · rw [declared, declare, unescaped_escapedLabel, shortened_eq_labelled]
  case edges => exact edges ▸ shows.edges

/-- The graph of callbacks with typed bodies is written, and its strings are read as they were
written.
-/
theorem dot_quotes {records : List Record}
    (typed : ∀ record ∈ records, ∀ method ∈ record.method, CallGraph.CallsTyped method)
    : ∃ text sources names picture,
        dot records = .ok text
        ∧ List.Forall₂ Source.Of (lifecycleRecords records) sources
        ∧ Scalar.FirstsOf (sources.flatMap Source.nodes) names
        ∧ Reads names (sources.flatMap Source.edges) text picture := by
  obtain ⟨text, done⟩ := dot_typed typed
  obtain ⟨sources, names, picture, all, firsts, reads⟩ := reads_of_dot done
  exact ⟨text, sources, names, picture, done, all, firsts, reads⟩

/-- (unruly) are a name with a backslash before a quote and a line end, that ends in a backslash,
and a long name that is cut after a backslash.
-/
def unruly : List Text :=
  ["say \\\"hi\\\\\"\n\\", ⟨List.replicate 41 (.char '\\')⟩]

/-- The strings around unruly names are read. -/
theorem dot_quotes_unruly
    : (∀ record ∈ [calling unruly], ∀ method ∈ record.method, CallGraph.CallsTyped method)
      ∧ ∃ text sources names picture,
          dot [calling unruly] = .ok text
          ∧ List.Forall₂ Source.Of (lifecycleRecords [calling unruly]) sources
          ∧ Scalar.FirstsOf (sources.flatMap Source.nodes) names
          ∧ Reads names (sources.flatMap Source.edges) text picture := by
  have typed
      : ∀ record ∈ [calling unruly], ∀ method ∈ record.method, CallGraph.CallsTyped method := by
    rw [List.forall_mem_singleton]
    exact calling_typed unruly
  exact ⟨typed, dot_quotes typed⟩

end ArkLifecycle.Export
