import ArkLifecycle.Proofs.Export.Grouping
import ArkLifecycle.Proofs.Export.NodeCap
import ArkLifecycle.Proofs.Text.Cutting
import Mathlib.Data.List.Chain

/-! The shape of the tables in the Markdown text.

A row is one line, and bars part its cells, but for a bar right after a backslash. Targets are
written as cells and never break a row. Names of methods are written as they are: a row of the
ranking keeps its shape exactly if the name has no line end, and no bar without a backslash.
-/

namespace ArkLifecycle.Export

-----------------------------------------------------------------------------------------
-- Reading rows
-----------------------------------------------------------------------------------------

/-- (cut previous letters) are the parts of letters between bars, where `previous` stands before the
letters. A bar right after a backslash is part of its cell.
-/
def cut : Letter → List Letter → List (List Letter)
  | _, [] => [[]]
  | previous, letter :: rest =>
      if letter = '|' ∧ previous ≠ '\\' then
        [] :: cut letter rest
      else
        (cut letter rest).modifyHead (letter :: ·)

/-- The text is a row of three cells on one line. -/
def IsRow (row : Text) : Prop :=
  .char '\n' ∉ row.toList
  ∧ ∃ cells, cells.length = 3 ∧ cut '\n' row.toList = [] :: cells ++ [[]]

/-- Of two letters in a row, the second one does not end a cell. -/
def Shields (letter next : Letter) : Prop :=
  next = '|' → letter = '\\'

/-- The text has no line end, and a backslash stands right before each of its bars. -/
def IsCell (text : Text) : Prop :=
  .char '\n' ∉ text.toList ∧ (Letter.char ' ' :: text.toList).IsChain Shields

instance : DecidableRel Shields :=
  fun letter next => inferInstanceAs (Decidable (next = .char '|' → letter = .char '\\'))

instance (text : Text) : Decidable (IsCell text) :=
  inferInstanceAs (Decidable (_ ∧ _))

theorem length_cut_pos (previous : Letter) (letters : List Letter)
    : 0 < (cut previous letters).length := by
  induction letters generalizing previous with
  | nil => exact Nat.one_pos
  | cons letter rest ih =>
      rw [cut]
      split
      · exact Nat.succ_pos _
      · rw [List.length_modifyHead]
        exact ih letter

/-- Letters are one part if none of their bars ends a cell. Witness: induction over the letters. -/
theorem cut_of_isChain {previous : Letter} {letters : List Letter}
    (shielded : (previous :: letters).IsChain Shields)
    : cut previous letters = [letters] := by
  induction letters generalizing previous with
  | nil => rfl
  | cons letter rest ih =>
      obtain ⟨first, others⟩ := List.isChain_cons_cons.mp shielded
      rw [cut, if_neg (not_and_not_right.mpr first), ih others]
      rfl

/-- Letters are one part only if none of their bars ends a cell. Witness: induction over the
letters.
-/
theorem length_cut_eq_one_iff {previous : Letter} {letters : List Letter}
    : (cut previous letters).length = 1 ↔ (previous :: letters).IsChain Shields := by
  refine ⟨fun one => ?_, fun shielded => by rw [cut_of_isChain shielded]; rfl⟩
  induction letters generalizing previous with
  | nil => exact .singleton previous
  | cons letter rest ih =>
      have some := length_cut_pos letter rest
      rw [cut] at one
      split at one
      · rw [List.length_cons] at one
        omega
      · next shielded =>
          rw [List.length_modifyHead] at one
          exact .cons_cons (not_and_not_right.mp shielded) (ih one)

/-- A bar ends what stands before it, unless that ends in a backslash. Witness: induction over the
letters.
-/
theorem cut_append_bar {previous : Letter} {letters : List Letter}
    (bare : (previous :: letters).getLast (List.cons_ne_nil _ _) ≠ '\\') (rest : List Letter)
    : cut previous (letters ++ .char '|' :: rest)
      = cut previous letters ++ cut '|' rest := by
  induction letters generalizing previous with
  | nil =>
      rw [List.nil_append, cut.eq_def previous (_ :: _)]
      exact if_pos ⟨rfl, bare⟩
  | cons letter more ih =>
      rw [List.getLast_cons_cons] at bare
      rw [List.cons_append, cut, cut, ih bare]
      split
      · rfl
      · obtain ⟨first, others, begun⟩ :=
          List.exists_cons_of_ne_nil (List.length_pos_iff.mp (length_cut_pos letter more))
        rw [begun]
        rfl

/-- (padded text) is a text between two blanks. -/
def padded (text : Text) : List Letter :=
  .char ' ' :: (text.toList ++ [.char ' '])

/-- (rowOf first second third) is a row of three texts. -/
def rowOf (first second third : Text) : Text :=
  "| " ++ first ++ " | " ++ second ++ " | " ++ third ++ " |"

theorem toList_rowOf (first second third : Text)
    : (rowOf first second third).toList
      = .char '|' :: (padded first ++ .char '|'
          :: (padded second ++ .char '|' :: (padded third ++ [.char '|']))) := by
  simp [rowOf, padded, Text.ofString, Text.ofChars]

theorem cut_padded_bar (text : Text) (rest : List Letter)
    : cut '|' (padded text ++ .char '|' :: rest) = cut '|' (padded text) ++ cut '|' rest := by
  refine cut_append_bar ?_ rest
  have last : (Letter.char '|' :: padded text).getLast (List.cons_ne_nil _ _) = ' ' := by
    simp [padded]
  rw [last]
  decide

theorem cut_rowOf (first second third : Text)
    : cut '\n' (rowOf first second third).toList
      = [] :: (cut '|' (padded first) ++ cut '|' (padded second) ++ cut '|' (padded third))
          ++ [[]] := by
  have bar : (Letter.char '|' = '|') ∧ (Letter.char '\n' ≠ '\\') := by decide
  rw [toList_rowOf, cut, if_pos bar, cut_padded_bar, cut_padded_bar, cut_padded_bar]
  simp [cut]

/-- A text between two blanks is one part exactly if its bars are shielded. -/
theorem length_cut_padded_eq_one_iff {text : Text}
    : (cut '|' (padded text)).length = 1
      ↔ (Letter.char ' ' :: text.toList).IsChain Shields := by
  have blank (letter : Letter) : Shields letter ' ' := by
    rintro ⟨⟩
  rw [length_cut_eq_one_iff, padded, List.isChain_cons_cons, ← List.cons_append,
    List.isChain_append]
  simp [blank]

theorem not_mem_padded_iff (text : Text)
    : .char '\n' ∉ padded text ↔ .char '\n' ∉ text.toList := by
  simp [padded]

/-- Three texts make a row exactly if each of them is a cell. -/
theorem isRow_rowOf_iff {first second third : Text}
    : IsRow (rowOf first second third) ↔ IsCell first ∧ IsCell second ∧ IsCell third := by
  have line
      : .char '\n' ∉ (rowOf first second third).toList
        ↔ .char '\n' ∉ first.toList ∧ .char '\n' ∉ second.toList ∧ .char '\n' ∉ third.toList := by
    rw [toList_rowOf, ← not_mem_padded_iff first, ← not_mem_padded_iff second,
      ← not_mem_padded_iff third]
    simp [List.mem_append, List.mem_cons]
  have cells
      : (∃ cells, cells.length = 3
          ∧ cut '\n' (rowOf first second third).toList = [] :: cells ++ [[]])
        ↔ (cut '|' (padded first)).length = 1
          ∧ (cut '|' (padded second)).length = 1
          ∧ (cut '|' (padded third)).length = 1 := by
    have left := length_cut_pos '|' (padded first)
    have middle := length_cut_pos '|' (padded second)
    have right := length_cut_pos '|' (padded third)
    rw [cut_rowOf]
    constructor
    · rintro ⟨cells, three, same⟩
      have count := congrArg List.length same
      simp only [List.length_append, List.length_cons, List.length_nil] at count
      omega
    · rintro ⟨one, two, three⟩
      refine ⟨_, ?_, rfl⟩
      rw [List.length_append, List.length_append, one, two, three]
  rw [IsRow, line, cells, IsCell, IsCell, IsCell, length_cut_padded_eq_one_iff,
    length_cut_padded_eq_one_iff, length_cut_padded_eq_one_iff]
  tauto

-----------------------------------------------------------------------------------------
-- Cells
-----------------------------------------------------------------------------------------

/-- A text without line ends and bars is a cell. -/
theorem isCell_of_not_mem {text : Text} (line : .char '\n' ∉ text.toList)
    (bars : .char '|' ∉ text.toList)
    : IsCell text := by
  have absent : Letter.char '|' ∉ Letter.char ' ' :: text.toList := by simp [bars]
  refine ⟨line, List.Pairwise.isChain (List.pairwise_of_forall_mem_list ?_)⟩
  exact fun _ _ next member same => absurd (same ▸ member) absent

/-- Numbers are written with digits and a sign. -/
theorem mem_toString {n : Int} {letter : Letter}
    (member : letter ∈ (Text.ofString (toString n)).toList)
    : ∃ c : Char, letter = c ∧ (c.isDigit = true ∨ c = '-') := by
  have digits {m : Nat} {c : Char} (inside : c ∈ (Nat.repr m).toList) : c.isDigit = true := by
    rw [Nat.repr, String.toList_ofList] at inside
    exact Nat.isDigit_of_mem_toDigits (by decide) (by decide) inside
  obtain ⟨c, inside, rfl⟩ := List.mem_map.mp member
  refine ⟨c, rfl, ?_⟩
  cases n with
  | ofNat m => exact .inl (digits inside)
  | negSucc m =>
      have signed : c ∈ ("-" ++ Nat.repr (m + 1)).toList := inside
      rw [String.toList_append] at signed
      rcases List.mem_append.mp signed with sign | rest
      · exact .inr (List.mem_singleton.mp sign)
      · exact .inl (digits rest)

/-- Numbers are cells. -/
theorem isCell_toString (n : Int) : IsCell (toString n) := by
  refine isCell_of_not_mem (fun member => ?_) (fun member => ?_)
  all_goals
    obtain ⟨c, same, written⟩ := mem_toString member
    cases same
    revert written
    decide

/-- Whatever a text is, it is written as a cell. Witness: induction over the letters. -/
theorem isCell_cell (text : Text) : IsCell (cell text) := by
  rw [cell_eq]
  constructor
  · intro member
    obtain ⟨letter, -, inside⟩ := List.mem_flatMap.mp member
    grind
  · have walk (previous : Letter) (letters : List Letter)
        : (previous :: letters.flatMap fun (letter : Letter) =>
            if letter = '|' then ['\\', '|']
            else if letter = '\n' then [' ']
            else [letter]).IsChain Shields := by
      induction letters generalizing previous with
      | nil => exact .singleton _
      | cons letter rest ih =>
          rw [List.flatMap_cons]
          split
          · exact .cons_cons (by rintro ⟨⟩) (.cons_cons (fun _ => rfl) (ih _))
          · split
            · exact .cons_cons (by rintro ⟨⟩) (ih _)
            · next bar _ => exact .cons_cons (fun same => absurd same bar) (ih _)
    exact walk ' ' text.toList

/-- Some letter is written for a number. -/
theorem toString_ne_nil (n : Int) : (Text.ofString (toString n)).toList ≠ [] := by
  have written : (toString n).toList ≠ [] := by
    cases n with
    | ofNat m =>
        change (Nat.repr m).toList ≠ []
        rw [Nat.repr, String.toList_ofList]
        exact Nat.toDigits_ne_nil
    | negSucc m =>
        change ("-" ++ Nat.repr (m + 1)).toList ≠ []
        simp
  exact fun none => written (List.map_eq_nil_iff.mp none)

/-- (fromEnd row) is the last letter of the last cell of a row: the third letter from its end. -/
def fromEnd (row : Text) : Option Letter :=
  row.toList.reverse[2]?

/-- A row that ends with a number does not end like a title. -/
theorem fromEnd_rowOf (first second : Text) (n : Int)
    : ∃ c : Char, fromEnd (rowOf first second (toString n)) = some (.char c)
        ∧ (c.isDigit = true ∨ c = '-') := by
  obtain ⟨front, last, split⟩ := (List.eq_nil_or_concat _).resolve_left (toString_ne_nil n)
  have member : last ∈ (Text.ofString (toString n)).toList := by rw [split]; simp
  obtain ⟨c, rfl, written⟩ := mem_toString member
  refine ⟨c, ?_, written⟩
  rw [fromEnd, toList_rowOf, padded, padded, padded, split]
  simp

-----------------------------------------------------------------------------------------
-- Reading tables
-----------------------------------------------------------------------------------------

/-- (rowsUnder title lines) are the rows of all tables with a title: the lines after the rule below
the title, up to an empty line.
-/
def rowsUnder (title : Text) : List Text → List Text
  | [] => []
  | line :: rest =>
      if line = title then
        (rest.drop 1).takeWhile (!Text.isEmpty ·) ++ rowsUnder title rest
      else
        rowsUnder title rest

theorem rowsUnder_append {title : Text} {lines : List Text} (absent : title ∉ lines)
    (rest : List Text)
    : rowsUnder title (lines ++ rest) = rowsUnder title rest := by
  induction lines with
  | nil => rfl
  | cons line more ih =>
      have other : line ≠ title := fun same => absent (same ▸ List.mem_cons_self)
      rw [List.cons_append, rowsUnder, if_neg other]
      exact ih fun member => absent (List.mem_cons_of_mem _ member)

theorem rowsUnder_of_not_mem {title : Text} {lines : List Text} (absent : title ∉ lines)
    : rowsUnder title lines = [] := by
  rw [← List.append_nil lines]
  exact rowsUnder_append absent []

/-- The rows of a table are read up to the empty line below them. -/
theorem rowsUnder_table {title rule blank : Text} {rows : List Text}
    (filled : ∀ row ∈ rows, row.isEmpty = false) (empty : blank.isEmpty = true)
    (fresh : title ∉ rule :: (rows ++ [blank])) (rest : List Text)
    : rowsUnder title (title :: rule :: (rows ++ blank :: rest))
      = rows ++ rowsUnder title rest := by
  have table : rule :: (rows ++ blank :: rest) = rule :: (rows ++ [blank]) ++ rest := by simp
  have read : (rows ++ blank :: rest).takeWhile (!Text.isEmpty ·) = rows := by
    rw [List.takeWhile_append_of_pos (by simpa using filled)]
    simp [empty]
  rw [rowsUnder, if_pos rfl, List.drop_one, List.tail_cons, read, table, rowsUnder_append fresh]

-----------------------------------------------------------------------------------------
-- The tables of a text
-----------------------------------------------------------------------------------------

/-- (rankTitle) is the title of the ranking of methods. -/
def rankTitle : Text := "| Rank | Method | Data Flows |"

/-- (targetTitle) is the title of the targets of a method. -/
def targetTitle : Text := "| Target | Calls | Example Line |"

/-- The line is not a title: it does not begin with a bar, or does not end like a title. -/
def IsNoTitle (line : Text) : Prop :=
  line.toList.head? ≠ some '|'
  ∨ ∃ c : Char, fromEnd line = some (.char c) ∧ (c.isDigit = true ∨ c = '-')

theorem IsNoTitle.ne {line : Text} (noTitle : IsNoTitle line)
    : rankTitle ≠ line ∧ targetTitle ≠ line := by
  have ends
      : (rankTitle.toList.head? = some '|' ∧ fromEnd rankTitle = some 's')
        ∧ targetTitle.toList.head? = some '|' ∧ fromEnd targetTitle = some 'e' := by
    decide +kernel
  rcases noTitle with begins | ⟨c, last, written⟩
  · exact ⟨fun same => begins (same ▸ ends.1.1), fun same => begins (same ▸ ends.2.1)⟩
  · constructor
    · rintro rfl
      cases ends.1.2.symm.trans last
      revert written
      decide
    · rintro rfl
      cases ends.2.2.symm.trans last
      revert written
      decide

theorem not_mem_of_noTitle {lines : List Text} (none : ∀ line ∈ lines, IsNoTitle line)
    : rankTitle ∉ lines ∧ targetTitle ∉ lines :=
  ⟨fun member => (none _ member).ne.1 rfl, fun member => (none _ member).ne.2 rfl⟩

theorem rankTitle_ne_targetTitle : rankTitle ≠ targetTitle := by
  decide +kernel

theorem noTitle_of_all {lines : List Text}
    (begin : lines.all (fun line => line.toList.head? ≠ some '|') = true)
    : ∀ line ∈ lines, IsNoTitle line :=
  fun line member => .inl (of_decide_eq_true (List.all_eq_true.mp begin line member))

theorem overview_noTitle (listing : FlowListing) (timestamp : Text)
    : ∀ line ∈ overview listing timestamp, IsNoTitle line :=
  noTitle_of_all (by simp [overview, Text.ofString, Text.ofChars])

theorem statistics_noTitle {listing : FlowListing} {ending : List Text}
    (ends : statistics listing = .ok ending)
    : ∀ line ∈ ending, IsNoTitle line := by
  rw [statistics, perMethod] at ends
  split at ends
  · cases ends
  · cases ends
    exact noTitle_of_all (by simp [Text.ofString, Text.ofChars])

theorem rankLine_eq_rowOf (rank : Nat) (entry : Text × Nat)
    : rankLine rank entry = rowOf (toString rank) entry.1 (toString entry.2) :=
  rfl

theorem targetLine_eq_rowOf (use : TargetUse)
    : targetLine use = rowOf (cell use.target) (toString use.calls) (toString use.line) :=
  rfl

/-- The rows of targets are always rows. -/
theorem isRow_targetLine (use : TargetUse) : IsRow (targetLine use) := by
  rw [targetLine_eq_rowOf, isRow_rowOf_iff]
  exact ⟨isCell_cell _, isCell_toString use.calls, isCell_toString use.line⟩

/-- The row of a method is a row exactly if the name of the method is a cell as it is. -/
theorem isRow_rankLine_iff (rank : Nat) (entry : Text × Nat)
    : IsRow (rankLine rank entry) ↔ IsCell entry.1 := by
  have numbers : IsCell (toString rank) ∧ IsCell (toString entry.2) :=
    ⟨isCell_toString rank, isCell_toString entry.2⟩
  rw [rankLine_eq_rowOf, isRow_rowOf_iff, and_iff_right numbers.1, and_iff_left numbers.2]

theorem isEmpty_rowOf (first second third : Text) : (rowOf first second third).isEmpty = false := by
  rw [Text.isEmpty, toList_rowOf]
  rfl

/-- (topGroups listing) are the groups of flows that the text shows. -/
def topGroups (listing : FlowListing) : List (Text × List DataFlow) :=
  (ranked (bySource listing.flows)).take rankedMethods

/-- (rankedRows groups) are the rows of a ranking. -/
def rankedRows (groups : List (Text × List DataFlow)) : List Text :=
  (groups.zipIdx 1).map fun row => rankLine row.2 (row.1.1, row.1.2.length)

/-- (shownUses group) are the targets that the section about a method shows. -/
def shownUses (group : Text × List DataFlow) : List TargetUse :=
  (usesOf group.2).take shownTargets

/-- (sectionOf group) is the section about a method. -/
def sectionOf (group : Text × List DataFlow) : List Text :=
  detailLines group (usesOf group.2)

/-- The rows of the ranking are no titles, and are not empty. -/
theorem rankedRows_noTitle (groups : List (Text × List DataFlow))
    : ∀ row ∈ rankedRows groups, IsNoTitle row ∧ row.isEmpty = false := by
  intro row member
  obtain ⟨⟨group, rank⟩, -, rfl⟩ := List.mem_map.mp member
  rw [rankLine_eq_rowOf]
  exact ⟨.inr (fromEnd_rowOf (toString rank) group.1 group.2.length), isEmpty_rowOf _ _ _⟩

/-- The rows of targets are no titles, and are not empty. -/
theorem targetLines_noTitle (uses : List TargetUse)
    : ∀ row ∈ uses.map targetLine, IsNoTitle row ∧ row.isEmpty = false := by
  intro row member
  obtain ⟨use, -, rfl⟩ := List.mem_map.mp member
  rw [targetLine_eq_rowOf]
  exact ⟨.inr (fromEnd_rowOf (cell use.target) (toString use.calls) use.line),
    isEmpty_rowOf _ _ _⟩

/-- (blank) is the empty line below a table. -/
def blank : Text := ""

theorem blank_noTitle : IsNoTitle blank :=
  .inl (by rintro ⟨⟩)

/-- Where there are flows, the text can be written if the lines of all targets in it can be shown.
-/
theorem markdownLines_of_flows {listing : FlowListing} (some : listing.flows ≠ [])
    (timestamp : Text)
    : ∃ ending,
        statistics listing = .ok ending
        ∧ markdownLines listing timestamp
          = if ∀ group ∈ (topGroups listing).take detailedMethods,
                ∀ use ∈ shownUses group, Showable use.line then
              .ok (overview listing timestamp
                ++ rankHead
                ++ rankedRows (topGroups listing)
                ++ detailsHead
                ++ ((topGroups listing).take detailedMethods).flatMap sectionOf
                ++ ending)
            else
              .error .integerTooLongToShow := by
  obtain ⟨ending, ends⟩ := statistics_eq_ok some
  have first
      : (topGroups listing).take detailedMethods = (ranked (bySource listing.flows)).take 10 := by
    rw [topGroups, List.take_take]
    rfl
  have rows
      : rankedRows (topGroups listing)
        = ((((ranked (bySource listing.flows)).map fun group =>
              (group.1, group.2.length)).take 20).zipIdx 1).map
            fun row => rankLine row.2 row.1 := by
    rw [rankedRows, topGroups, ← List.map_take, List.zipIdx_map, List.map_map]
    rfl
  refine ⟨ending, ends, ?_⟩
  rw [markdownLines_eq_ite some ends, first, rows, List.flatMap_def]
  rfl

/-- Where there are flows, the text has one ranking, and nothing else but the sections has titles.
-/
theorem parts_of_flows {listing : FlowListing} {timestamp : Text} {lines : List Text}
    (some : listing.flows ≠ []) (written : markdownLines listing timestamp = .ok lines)
    : ∃ before rule between ending,
        lines
          = before ++ rankTitle :: rule
              :: (rankedRows (topGroups listing) ++ blank
                :: (between ++ ((topGroups listing).take detailedMethods).flatMap sectionOf
                  ++ ending))
        ∧ (∀ line ∈ before, IsNoTitle line)
        ∧ IsNoTitle rule
        ∧ (∀ line ∈ between, IsNoTitle line)
        ∧ ∀ line ∈ ending, IsNoTitle line := by
  let titled : List Text := ["## Top Methods by Data Flow (Top 20)", ""]
  let between : List Text := ["## Data Flow Details", ""]
  obtain ⟨ending, ends, lined⟩ := markdownLines_of_flows some timestamp
  refine ⟨overview listing timestamp ++ titled, "|------|--------|------------|", between, ending,
    ?_, ?_, ?_, ?_, statistics_noTitle ends⟩
  · rw [lined] at written
    split at written
    · cases written
      simp [titled, between, rankHead, detailsHead, rankTitle, blank]
    · cases written
  · rw [List.forall_mem_append]
    exact ⟨overview_noTitle _ _, noTitle_of_all (by simp [titled, Text.ofString, Text.ofChars])⟩
  · exact .inr ⟨'-', by decide +kernel, .inr rfl⟩
  · exact noTitle_of_all (by simp [between, Text.ofString, Text.ofChars])

/-- A section has one table of targets. -/
theorem sectionOf_eq (group : Text × List DataFlow)
    : ∃ before rule,
        sectionOf group
          = before ++ targetTitle :: rule :: ((shownUses group).map targetLine ++ [blank])
        ∧ (∀ line ∈ before, IsNoTitle line)
        ∧ IsNoTitle rule := by
  let before : List Text :=
    ["### " ++ group.1, "", "**Data flows**: " ++ toString group.2.length, ""]
  refine ⟨before, "|--------|-------|--------------|", ?_, ?_, ?_⟩
  · rfl
  · exact noTitle_of_all (by simp [before, Text.ofString, Text.ofChars])
  · exact .inr ⟨'-', by decide +kernel, .inr rfl⟩

/-- Where there are no flows, the text can be written and has no tables. -/
theorem markdownLines_of_nil {listing : FlowListing} (none : listing.flows = [])
    (timestamp : Text)
    : topGroups listing = []
      ∧ ∃ lines,
          markdownLines listing timestamp = .ok lines
          ∧ rowsUnder rankTitle lines = []
          ∧ rowsUnder targetTitle lines = [] := by
  let silence : List Text :=
    ["No data flows extracted (status: " ++ listing.status ++ ")."]
  have empty : ranked (bySource listing.flows) = [] := by
    rw [none]
    exact (rankBy_perm _ _).eq_nil
  have plain : ∀ line ∈ overview listing timestamp ++ silence, IsNoTitle line := by
    rw [List.forall_mem_append]
    exact ⟨overview_noTitle _ _, noTitle_of_all (by simp [silence, Text.ofString, Text.ofChars])⟩
  obtain ⟨ranks, targets⟩ := not_mem_of_noTitle plain
  refine ⟨by rw [topGroups, empty, List.take_nil], overview listing timestamp ++ silence, ?_,
    rowsUnder_of_not_mem ranks, rowsUnder_of_not_mem targets⟩
  rw [markdownLines, none]
  rfl

/-- Sections have no ranking of methods. -/
theorem rankTitle_not_mem_sectionOf (group : Text × List DataFlow)
    : rankTitle ∉ sectionOf group := by
  obtain ⟨before, rule, same, plain, ruled⟩ := sectionOf_eq group
  have rows := not_mem_of_noTitle fun row member =>
    (targetLines_noTitle (shownUses group) row member).1
  rw [same]
  simp only [List.mem_append, List.mem_cons, List.not_mem_nil, or_false, not_or]
  exact ⟨(not_mem_of_noTitle plain).1, rankTitle_ne_targetTitle, ruled.ne.1, rows.1,
    blank_noTitle.ne.1⟩

/-- The rows of targets are read from all sections. Witness: induction over the sections. -/
theorem rowsUnder_flatMap_sectionOf (groups : List (Text × List DataFlow)) (rest : List Text)
    : rowsUnder targetTitle (groups.flatMap sectionOf ++ rest)
      = (groups.flatMap fun group => (shownUses group).map targetLine)
        ++ rowsUnder targetTitle rest := by
  induction groups with
  | nil => rfl
  | cons group others ih =>
      obtain ⟨before, rule, same, plain, ruled⟩ := sectionOf_eq group
      have rows := targetLines_noTitle (shownUses group)
      have fresh : targetTitle ∉ rule :: ((shownUses group).map targetLine ++ [blank]) := by
        simp only [List.mem_append, List.mem_cons, List.not_mem_nil, or_false, not_or]
        exact ⟨ruled.ne.2, (not_mem_of_noTitle fun row member => (rows row member).1).2,
          blank_noTitle.ne.2⟩
      have parted
          : sectionOf group ++ (others.flatMap sectionOf ++ rest)
            = before ++ targetTitle :: rule
                :: ((shownUses group).map targetLine ++ blank
                  :: (others.flatMap sectionOf ++ rest)) := by
        simp [same]
      rw [List.flatMap_cons, List.flatMap_cons, List.append_assoc, List.append_assoc, parted,
        rowsUnder_append (not_mem_of_noTitle plain).2,
        rowsUnder_table (fun row member => (rows row member).2) rfl fresh, ih]

section Rows

variable {listing : FlowListing} {timestamp : Text} {lines : List Text}

/-- The rows under the title of the ranking are those of the ranking. -/
theorem rowsUnder_rankTitle (written : markdownLines listing timestamp = .ok lines)
    : rowsUnder rankTitle lines = rankedRows (topGroups listing) := by
  by_cases none : listing.flows = []
  · obtain ⟨groups, others, also, ranks, -⟩ := markdownLines_of_nil none timestamp
    cases written.symm.trans also
    rw [ranks, groups]
    rfl
  · obtain ⟨before, rule, between, ending, rfl, plain, ruled, middle, last⟩ :=
      parts_of_flows none written
    have rows := rankedRows_noTitle (topGroups listing)
    have fresh : rankTitle ∉ rule :: (rankedRows (topGroups listing) ++ [blank]) := by
      simp only [List.mem_append, List.mem_cons, List.not_mem_nil, or_false, not_or]
      exact ⟨ruled.ne.1, (not_mem_of_noTitle fun row member => (rows row member).1).1,
        blank_noTitle.ne.1⟩
    have rest
        : rankTitle
          ∉ between ++ ((topGroups listing).take detailedMethods).flatMap sectionOf
            ++ ending := by
      simp only [List.mem_append, List.mem_flatMap, not_or, not_exists, not_and]
      exact ⟨⟨(not_mem_of_noTitle middle).1, fun group _ => rankTitle_not_mem_sectionOf group⟩,
        (not_mem_of_noTitle last).1⟩
    rw [rowsUnder_append (not_mem_of_noTitle plain).1,
      rowsUnder_table (fun row member => (rows row member).2) rfl fresh,
      rowsUnder_of_not_mem rest, List.append_nil]

/-- The rows under the titles of targets are those of all sections. -/
theorem rowsUnder_targetTitle (written : markdownLines listing timestamp = .ok lines)
    : rowsUnder targetTitle lines
      = ((topGroups listing).take detailedMethods).flatMap fun group =>
          (shownUses group).map targetLine := by
  by_cases none : listing.flows = []
  · obtain ⟨groups, others, also, -, targets⟩ := markdownLines_of_nil none timestamp
    cases written.symm.trans also
    rw [targets, groups]
    rfl
  · obtain ⟨before, rule, between, ending, rfl, plain, ruled, middle, last⟩ :=
      parts_of_flows none written
    have rows := not_mem_of_noTitle fun row member =>
      (rankedRows_noTitle (topGroups listing) row member).1
    have head
        : targetTitle
          ∉ before ++ rankTitle :: rule
              :: (rankedRows (topGroups listing) ++ blank :: between) := by
      simp only [List.mem_append, List.mem_cons, not_or]
      exact ⟨(not_mem_of_noTitle plain).2, rankTitle_ne_targetTitle.symm, ruled.ne.2, rows.2,
        blank_noTitle.ne.2, (not_mem_of_noTitle middle).2⟩
    have parted
        : before ++ rankTitle :: rule
              :: (rankedRows (topGroups listing) ++ blank
                :: (between ++ ((topGroups listing).take detailedMethods).flatMap sectionOf
                  ++ ending))
          = before ++ rankTitle :: rule :: (rankedRows (topGroups listing) ++ blank :: between)
            ++ (((topGroups listing).take detailedMethods).flatMap sectionOf ++ ending) := by
      simp
    rw [parted, rowsUnder_append head, rowsUnder_flatMap_sectionOf,
      rowsUnder_of_not_mem (not_mem_of_noTitle last).2, List.append_nil]

end Rows

/-- Every row of the ranking is a row exactly if the name of its method is a cell. -/
theorem forall₂_rankedRows (groups : List (Text × List DataFlow))
    : List.Forall₂ (fun group row => IsRow row ↔ IsCell group.1) groups (rankedRows groups) := by
  have indexed := List.zipIdx_map_fst 1 groups
  conv => arg 2; rw [← indexed]
  rw [rankedRows, List.forall₂_map_left_iff, List.forall₂_map_right_iff, List.forall₂_same]
  exact fun row _ => isRow_rankLine_iff row.2 (row.1.1, row.1.2.length)

theorem forall_mem_iff_of_forall₂ {α β : Type} {left : α → Prop} {right : β → Prop}
    {items : List α} {others : List β}
    (all : List.Forall₂ (fun item other => right other ↔ left item) items others)
    : (∀ other ∈ others, right other) ↔ ∀ item ∈ items, left item := by
  induction all with
  | nil => simp
  | cons first _ ih => rw [List.forall_mem_cons, List.forall_mem_cons, first, ih]

/-- The text can be written exactly if all lines that it shows can be shown. -/
theorem markdownLines_ok_iff (listing : FlowListing) (timestamp : Text)
    : (∃ lines, markdownLines listing timestamp = .ok lines)
      ↔ ∀ group ∈ (topGroups listing).take detailedMethods,
          ∀ use ∈ shownUses group, Showable use.line := by
  by_cases none : listing.flows = []
  · obtain ⟨groups, lines, written, -⟩ := markdownLines_of_nil none timestamp
    rw [groups, List.take_nil]
    exact ⟨fun _ => List.forall_mem_nil _, fun _ => ⟨lines, written⟩⟩
  · obtain ⟨ending, -, lined⟩ := markdownLines_of_flows none timestamp
    rw [lined]
    split
    · next shown => exact ⟨fun _ => shown, fun _ => ⟨_, rfl⟩⟩
    · next long => exact ⟨nofun, fun shown => absurd shown long⟩

/-- The tables in the lines of a text about these groups of flows. There is a row for every method,
and for every target that the section about a method shows. Every row of a target is one line with
three cells. The row of a method is so exactly if the name of the method has no line end, and a
backslash right before each of its bars.
-/
structure Tabular (groups : List (Text × List DataFlow)) (lines : List Text) : Prop where
  targets
    : rowsUnder targetTitle lines
      = (groups.take detailedMethods).flatMap fun group => (shownUses group).map targetLine
  targetRows : ∀ row ∈ rowsUnder targetTitle lines, IsRow row
  methods : rowsUnder rankTitle lines = rankedRows groups
  methodRows
    : List.Forall₂ (fun group row => IsRow row ↔ IsCell group.1) groups (rowsUnder rankTitle lines)
  keeps : (∀ row ∈ rowsUnder rankTitle lines, IsRow row) ↔ ∀ group ∈ groups, IsCell group.1

/-- The text of any flows is the lines that are written for it, and these have the rows of all
methods and targets that are shown. Only rows of the ranking can be broken, by the names of their
methods.
Witness: targets and numbers are written as cells, and names as they are.
-/
theorem markdown_keepsTables_iff (listing : FlowListing) (timestamp : Text)
    : ((∃ lines, markdownLines listing timestamp = .ok lines)
        ↔ ∀ group ∈ (topGroups listing).take detailedMethods,
            ∀ use ∈ shownUses group, Showable use.line)
      ∧ ∀ lines,
          markdownLines listing timestamp = .ok lines
          → markdown listing timestamp = .ok (Text.joinWith "\n" lines ++ "\n")
            ∧ Tabular (topGroups listing) lines := by
  have each := forall₂_rankedRows (topGroups listing)
  refine ⟨markdownLines_ok_iff listing timestamp, fun lines written => ⟨?_, ?_⟩⟩
  · rw [markdown, written]
    rfl
  · have methods := rowsUnder_rankTitle written
    have targets := rowsUnder_targetTitle written
    constructor
    case targets => exact targets
    case targetRows =>
      rw [targets]
      intro row member
      obtain ⟨group, -, listed⟩ := List.mem_flatMap.mp member
      obtain ⟨use, -, rfl⟩ := List.mem_map.mp listed
      exact isRow_targetLine use
    case methods => exact methods
    case methodRows =>
      rw [methods]
      exact each
    case keeps =>
      rw [methods]
      exact forall_mem_iff_of_forall₂ each

/-- (barred) are the flows of a callback with a bar in its name. -/
def barred : FlowListing where
  records := [{ calling [] with className := "A|B" }]
  flows := [⟨"A|B.onCreate", "b.load", 2, []⟩]
  catalogVersion := "v3-framework"
  status := "ok"

/-- A bar in the name of a method ends a cell of the ranking. -/
theorem markdown_barred
    : (∃ lines,
        markdownLines barred "2024-01-01" = .ok lines
        ∧ rowsUnder rankTitle lines = [Text.ofString "| 1 | A|B.onCreate | 1 |"])
      ∧ ¬IsRow "| 1 | A|B.onCreate | 1 |" := by
  constructor
  · have shown
        : ∀ group ∈ (topGroups barred).take detailedMethods,
            ∀ use ∈ shownUses group, Showable use.line := by
      decide +kernel
    obtain ⟨lines, written⟩ := (markdownLines_ok_iff barred "2024-01-01").mpr shown
    refine ⟨lines, written, ?_⟩
    rw [rowsUnder_rankTitle written]
    decide +kernel
  · have row : Text.ofString "| 1 | A|B.onCreate | 1 |" = rankLine 1 ("A|B.onCreate", 1) := by
      decide +kernel
    rw [row, isRow_rankLine_iff]
    decide +kernel

end ArkLifecycle.Export
