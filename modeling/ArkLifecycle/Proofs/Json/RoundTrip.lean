import ArkLifecycle.Proofs.Json.Fields
import ArkLifecycle.Proofs.Json.Spelling

/-! Documents that are written on one line are read as they were.

This holds of documents of null, truth values, integers, texts, lists and mappings whose integers
and texts can be read back, and that are not nested too deep. What is nested deeper than the reader
can follow is not written either. The reader is given twice as much fuel as there are characters: of
two nested calls, one uses up a character.
-/

namespace ArkLifecycle.Json

/-- The document can be stored: it is written and read back, where lists and mappings may be nested
so deep. Numbers have few enough digits, texts do not hold two halves of a pair side by side, and
mappings have texts as names.
-/
inductive Storable : Nat → Json → Prop
  | null {room : Nat} : Storable room .null
  | bool {room : Nat} (value : Bool) : Storable room (.bool value)
  | int {room : Nat} {n : Int} (showable : Showable n) : Storable room (.int n)
  | text {room : Nat} {s : Text} (apart : HalvesApart s) : Storable room (.text s)
  | array {room : Nat} {items : List Json} (each : ∀ item ∈ items, Storable room item)
    : Storable (room + 1) (.array items)
  | object {room : Nat} {fields : Fields} (apart : Apart fields)
    (named : ∀ field ∈ fields, ∃ name, field.1 = .text name ∧ HalvesApart name)
    (each : ∀ field ∈ fields, Storable room field.2)
    : Storable (room + 1) (.object fields)

theorem spreadItems_eq_map (items : List Json) : spreadItems items = items.map spread := by
  induction items with
  | nil => rfl
  | cons item rest ih => rw [spreadItems, ih, List.map_cons]

theorem spreadFields_eq_map (fields : Fields)
    : spreadFields fields = fields.map fun field => (field.1, field.2.spread) := by
  induction fields with
  | nil => rfl
  | cons field rest ih => rw [spreadFields, ih, List.map_cons]

/-- There is nothing endless in a document that can be stored. Witness: induction over the document.
-/
theorem Storable.spread_eq {room : Nat} {v : Json} (storable : Storable room v) : v.spread = v := by
  induction storable with
  | null | bool | int | text => rfl
  | @array room items _ ih =>
      rw [spread, spreadItems_eq_map, List.map_congr_left ih, List.map_id']
  | @object room fields _ _ _ ih =>
      have same : ∀ field ∈ fields, (field.1, field.2.spread) = field :=
        fun field member => by rw [ih field member]
      rw [spread, spreadFields_eq_map, List.map_congr_left same, List.map_id']

-----------------------------------------------------------------------------------------
-- What is read
-----------------------------------------------------------------------------------------

/-- The characters do not begin with a blank or a closing bracket. -/
def Begins (chars : List Char) : Prop :=
  ∃ first more, chars = first :: more ∧ isSpace first = false ∧ first ≠ ']' ∧ first ≠ '\x7d'

theorem Begins.append {chars : List Char} (begins : Begins chars) (rest : List Char)
    : Begins (chars ++ rest) := by
  obtain ⟨first, more, rfl, apart⟩ := begins
  exact ⟨first, more ++ rest, rfl, apart⟩

theorem Begins.skipSpace_eq {chars : List Char} (begins : Begins chars)
    : skipSpace chars = chars := by
  obtain ⟨first, more, rfl, space, -, -⟩ := begins
  exact List.dropWhile_cons_of_neg (by simp [space])

/-- After an opening bracket the items of a list are read. -/
theorem readValue_array {chars : List Char} (begins : Begins chars) (fuel room : Nat)
    : readValue (fuel + 1) (room + 1) ('[' :: chars) = readItems fuel room [] chars := by
  have opened : ∀ more, skipSpace chars ≠ ']' :: more := by
    rw [begins.skipSpace_eq]
    obtain ⟨first, more, rfl, -, apart, -⟩ := begins
    exact fun others same => apart (List.cons.inj same).1
  rw [readValue.eq_5 fuel chars room opened, begins.skipSpace_eq]

/-- After an opening brace the fields of a mapping are read. -/
theorem readValue_object {chars : List Char} (begins : Begins chars) (fuel room : Nat)
    : readValue (fuel + 1) (room + 1) ('\x7b' :: chars) = readFields fuel room [] chars := by
  have opened : ∀ more, skipSpace chars ≠ '\x7d' :: more := by
    rw [begins.skipSpace_eq]
    obtain ⟨first, more, rfl, -, -, apart⟩ := begins
    exact fun others same => apart (List.cons.inj same).1
  rw [readValue.eq_8 fuel chars room opened, begins.skipSpace_eq]

/-- The characters are printable and are read as the document. -/
structure Spells (room : Nat) (chars : List Char) (v : Json) : Prop where
  begins : Begins chars
  printable : ∀ c ∈ chars, IsPrintable c
  reads
    : ∀ fuel rest,
        2 * chars.length ≤ fuel
        → Ends rest
        → readValue fuel room (chars ++ rest) = .ok (v, rest)

/-- Fuel for a text has one unit for its first character. -/
theorem fuel_eq_succ {fuel length : Nat} (enough : 2 * (length + 1) ≤ fuel)
    : ∃ less, fuel = less + 1 ∧ 2 * length + 1 ≤ less :=
  ⟨fuel - 1, by omega, by omega⟩

-----------------------------------------------------------------------------------------
-- Scalars
-----------------------------------------------------------------------------------------

/-- What begins otherwise than a text, a list or a mapping is read as a word or a number. -/
theorem spells_plain {room : Nat} {v : Json} {first : Char} {more : List Char}
    (space : isSpace first = false)
    (apart : first ∉ ['"', '[', ']', '\x7b', '\x7d'])
    (printable : ∀ c ∈ first :: more, IsPrintable c)
    (reads : ∀ rest, Ends rest → readPlain (first :: more ++ rest) = .ok (v, rest))
    : Spells room (first :: more) v := by
  have unlike {c : Char} (member : c ∈ ['"', '[', ']', '\x7b', '\x7d']) : first ≠ c :=
    fun same => apart (same ▸ member)
  constructor
  case begins => exact ⟨first, more, rfl, space, unlike (by decide), unlike (by decide)⟩
  case printable => exact printable
  case reads =>
    intro fuel rest enough ends
    obtain ⟨less, rfl, -⟩ := fuel_eq_succ enough
    have other {c : Char} (member : c ∈ ['"', '[', ']', '\x7b', '\x7d']) (others : List Char)
        : first :: more ++ rest ≠ c :: others :=
      fun same => unlike member (List.cons.inj same).1
    rw [readValue.eq_9 _ _ _ (other (by decide)) (other (by decide)) (other (by decide)),
      reads rest ends]

theorem spells_text {room : Nat} {s : Text} (apart : HalvesApart s)
    : Spells room (asciiText s) (.text s) := by
  constructor
  case begins => exact ⟨'"', _, rfl, by decide⟩
  case printable => exact isPrintable_asciiText s
  case reads =>
    intro fuel rest enough _
    obtain ⟨chars, written, read⟩ := readChars_asciiText apart rest
    rw [written] at enough ⊢
    obtain ⟨less, rfl, -⟩ := fuel_eq_succ enough
    rw [List.cons_append, readValue, read]

theorem spells_int {room : Nat} {n : Int} (showable : Showable n)
    : Spells room (writtenInt n) (.int n) := by
  obtain ⟨first, more, written, digit⟩ := writtenInt_eq_cons n
  have printable := isPrintable_writtenInt n
  have reads := fun rest (ends : Ends rest) => readPlain_writtenInt showable ends
  rw [written] at printable reads ⊢
  have other {signs : List Char} (none : signs.all (fun c => !c.isDigit && c != '-') = true)
      : first ∉ signs := by
    intro member
    have plain := List.all_eq_true.mp none first member
    rcases digit with digit | rfl
    · simp [digit] at plain
    · cases plain
  have blanks : first ∉ [' ', '\n', '\r', '\t'] := other rfl
  have space : isSpace first = false := by simpa [isSpace, and_assoc] using blanks
  exact spells_plain space (other rfl) printable reads

theorem spells_null {room : Nat} : Spells room ['n', 'u', 'l', 'l'] .null :=
  spells_plain rfl (by decide) (isPrintable_of_all rfl) fun _ _ => rfl

theorem spells_bool {room : Nat} (value : Bool)
    : ∃ chars,
        compactChars room (.bool value) = .ok chars ∧ Spells room chars (.bool value) := by
  refine ⟨_, compactChars_bool room value, ?_⟩
  cases value with
  | true => exact spells_plain rfl (by decide) (isPrintable_of_all rfl) fun _ _ => rfl
  | false => exact spells_plain rfl (by decide) (isPrintable_of_all rfl) fun _ _ => rfl

-----------------------------------------------------------------------------------------
-- Lists
-----------------------------------------------------------------------------------------

/-- The document is written and read again, where lists and mappings may be nested so deep. -/
def Returns (room : Nat) (v : Json) : Prop :=
  ∃ chars, compactChars room v = .ok chars ∧ Spells room chars v

/-- The characters are printable and are read as the items of a list, after some that are done. -/
structure SpellsItems (room : Nat) (chars : List Char) (items : List Json) : Prop where
  begins : Begins chars
  printable : ∀ c ∈ chars, IsPrintable c
  reads
    : ∀ fuel done rest,
        2 * chars.length + 1 ≤ fuel
        → readItems fuel room done (chars ++ ']' :: rest)
          = .ok (.array (done.reverse ++ items), rest)

/-- The last item is read up to the closing bracket. -/
theorem Spells.item {room : Nat} {chars : List Char} {item : Json}
    (spells : Spells room chars item)
    : SpellsItems room chars [item] := by
  constructor
  case begins => exact spells.begins
  case printable => exact spells.printable
  case reads =>
    intro fuel done rest enough
    obtain ⟨less, rfl⟩ : ∃ less, fuel = less + 1 := ⟨fuel - 1, by omega⟩
    rw [readItems, spells.reads less (']' :: rest) (by omega) (ends_cons (by decide) rest)]
    exact congrArg (fun items => Except.ok (Json.array items, rest)) List.reverse_cons

/-- An item is read with what divides it from the next one. -/
theorem SpellsItems.cons {room : Nat} {chars tail : List Char} {item : Json} {items : List Json}
    (later : SpellsItems room tail items) (spells : Spells room chars item)
    : SpellsItems room (chars ++ [',', ' '] ++ tail) (item :: items) := by
  constructor
  case begins =>
    rw [List.append_assoc]
    exact spells.begins.append _
  case printable =>
    rw [List.forall_mem_append, List.forall_mem_append]
    exact ⟨⟨spells.printable, isPrintable_of_all rfl⟩, later.printable⟩
  case reads =>
    intro fuel done rest enough
    obtain ⟨less, rfl⟩ : ∃ less, fuel = less + 1 := ⟨fuel - 1, by omega⟩
    have divided
        : chars ++ [',', ' '] ++ tail ++ ']' :: rest
          = chars ++ ',' :: ' ' :: (tail ++ ']' :: rest) := by
      simp
    have blank : skipSpace (' ' :: (tail ++ ']' :: rest)) = tail ++ ']' :: rest :=
      (later.begins.append _).skipSpace_eq
    simp only [List.length_append, List.length_cons, List.length_nil] at enough
    rw [divided, readItems, spells.reads less _ (by omega) (ends_cons (by decide) _)]
    refine (congrArg (readItems less room (item :: done)) blank).trans ?_
    rw [later.reads less (item :: done) rest (by omega), List.reverse_cons,
      List.append_assoc, List.singleton_append]

/-- Items that return are written and read one after the other. Witness: induction over the items.
-/
theorem spellsItems_of_each {room : Nat} {items : List Json} (some : items ≠ [])
    (each : ∀ item ∈ items, Returns room item)
    : ∃ chars, compactItems room items = .ok chars ∧ SpellsItems room chars items := by
  induction items with
  | nil => exact absurd rfl some
  | cons item more ih =>
      obtain ⟨chars, written, spells⟩ := each item List.mem_cons_self
      cases more with
      | nil => exact ⟨chars, written, spells.item⟩
      | cons next others =>
          obtain ⟨tail, rest, later⟩ := ih (List.cons_ne_nil _ _) fun one member =>
            each one (List.mem_cons_of_mem _ member)
          refine ⟨chars ++ [',', ' '] ++ tail, ?_, later.cons spells⟩
          rw [compactItems, written, rest]
          rfl

/-- A list of items that return returns. -/
theorem returns_array {room : Nat} {items : List Json} (each : ∀ item ∈ items, Returns room item)
    : Returns (room + 1) (.array items) := by
  cases items with
  | nil =>
      refine ⟨['[', ']'], rfl, ⟨'[', _, rfl, by decide⟩, isPrintable_of_all rfl,
        fun fuel rest enough _ => ?_⟩
      obtain ⟨less, rfl, -⟩ := fuel_eq_succ enough
      exact readValue.eq_4 less (']' :: rest) room rest rfl
  | cons item more =>
      obtain ⟨chars, written, spelled⟩ := spellsItems_of_each (List.cons_ne_nil item more) each
      refine ⟨'[' :: chars ++ [']'], ?_, ⟨'[', _, rfl, by decide⟩, ?_, fun fuel rest enough _ => ?_⟩
      · rw [compactChars, written]
        rfl
      · rw [List.forall_mem_append, List.forall_mem_cons]
        exact ⟨⟨by decide, spelled.printable⟩, isPrintable_of_all rfl⟩
      · rw [List.cons_append, List.length_cons] at enough
        obtain ⟨less, rfl, enough⟩ := fuel_eq_succ enough
        have divided : '[' :: chars ++ [']'] ++ rest = '[' :: (chars ++ ']' :: rest) := by simp
        rw [List.length_append, List.length_singleton] at enough
        rw [divided, readValue_array (spelled.begins.append _),
          spelled.reads less [] rest (by omega)]
        rfl

-----------------------------------------------------------------------------------------
-- Mappings
-----------------------------------------------------------------------------------------

/-- A field with a new name is added at the end. -/
theorem put_of_apart {fields more : Fields} {name : Scalar} {value : Json}
    (apart : Apart (fields ++ (name, value) :: more))
    : put fields name value = fields ++ [(name, value)] := by
  obtain ⟨-, -, others⟩ := List.pairwise_append.mp apart
  refine if_neg fun known => ?_
  obtain ⟨field, member, same⟩ := List.any_eq_true.mp known
  cases same.symm.trans (others field member (name, value) List.mem_cons_self)

/-- Merging fields with names of their own puts them at the end. Witness: induction over them. -/
theorem merge_of_apart {fields more : Fields} (apart : Apart (fields ++ more))
    : merge fields more = fields ++ more := by
  induction more generalizing fields with
  | nil => exact (List.append_nil _).symm
  | cons field rest ih =>
      have grown : fields ++ [field] ++ rest = fields ++ field :: rest := List.append_assoc ..
      have step : merge fields (field :: rest) = merge (put fields field.1 field.2) rest := rfl
      rw [step, put_of_apart apart, ih (grown ▸ apart), grown]

/-- (writtenField name chars) is a field whose value is written already. -/
def writtenField (name : Text) (chars : List Char) : List Char :=
  asciiText name ++ [':', ' '] ++ chars

/-- (goOn fuel room done rest) is how the reader goes on after the fields that are done. -/
def goOn (fuel room : Nat) (done : Fields) (rest : List Char)
    : Except Fault (Json × List Char) :=
  match skipSpace rest with
  | ',' :: more => readFields fuel room done (skipSpace more)
  | '\x7d' :: more => .ok (.object done, more)
  | _ => .error .malformedJson

/-- A field is read, up to what follows it. -/
theorem readFields_field {room : Nat} {name : Text} {value : Json} {chars : List Char}
    (apart : HalvesApart name) (spells : Spells room chars value) {rest : List Char}
    (ends : Ends rest) {fuel : Nat} (enough : 2 * chars.length ≤ fuel) (done : Fields)
    : readFields (fuel + 1) room done (writtenField name chars ++ rest)
      = goOn fuel room (put done (.text name) value) rest := by
  obtain ⟨letters, written, read⟩ := readChars_asciiText apart (':' :: ' ' :: (chars ++ rest))
  have divided
      : writtenField name chars ++ rest = '"' :: (letters ++ ':' :: ' ' :: (chars ++ rest)) := by
    simp [writtenField, written]
  have named : skipSpace (':' :: ' ' :: (chars ++ rest)) = ':' :: ' ' :: (chars ++ rest) := rfl
  have blank : skipSpace (' ' :: (chars ++ rest)) = chars ++ rest :=
    (spells.begins.append rest).skipSpace_eq
  rw [divided, readFields, read]
  simp only [named, blank, spells.reads fuel rest enough ends]
  rfl

/-- A field is read with what divides it from the next one. -/
theorem readFields_next {room : Nat} {name : Text} {value : Json} {chars : List Char}
    (apart : HalvesApart name) (spells : Spells room chars value) {more : List Char}
    (begins : Begins more) {fuel : Nat} (enough : 2 * chars.length ≤ fuel) (done : Fields)
    : readFields (fuel + 1) room done (writtenField name chars ++ ',' :: ' ' :: more)
      = readFields fuel room (put done (.text name) value) more := by
  have blank : skipSpace more = more := begins.skipSpace_eq
  rw [readFields_field apart spells (ends_cons (by decide) _) enough done]
  exact congrArg (readFields fuel room _) blank

/-- Fields are written one after the other. -/
theorem compactFields_cons {room : Nat} {name : Text} {value : Json} {chars tail : List Char}
    (written : compactChars room value = .ok chars) {next : Scalar × Json} {others : Fields}
    (later : compactFields room (next :: others) = .ok tail)
    : compactFields room ((.text name, value) :: next :: others)
      = .ok (writtenField name chars ++ [',', ' '] ++ tail) := by
  rw [compactFields, written, later]
  rfl

theorem begins_writtenField (name : Text) (chars : List Char) : Begins (writtenField name chars) :=
  ⟨'"', _, rfl, by decide⟩

/-- The characters are printable and are read as the fields of a mapping, after some that are done.
-/
structure SpellsFields (room : Nat) (chars : List Char) (fields : Fields) : Prop where
  begins : Begins chars
  printable : ∀ c ∈ chars, IsPrintable c
  reads
    : ∀ fuel done rest,
        2 * chars.length + 1 ≤ fuel
        → Apart (done ++ fields)
        → readFields fuel room done (chars ++ '\x7d' :: rest) = .ok (.object (done ++ fields), rest)

section Fields

variable {room : Nat} {name : Text} {value : Json} {chars : List Char}

theorem Spells.printable_writtenField (spells : Spells room chars value) (name : Text)
    : ∀ c ∈ writtenField name chars, IsPrintable c := by
  rw [writtenField, List.forall_mem_append, List.forall_mem_append]
  exact ⟨⟨isPrintable_asciiText name, isPrintable_of_all rfl⟩, spells.printable⟩

theorem length_le_writtenField (name : Text) (chars : List Char)
    : chars.length ≤ (writtenField name chars).length := by
  rw [writtenField, List.length_append]
  exact Nat.le_add_left _ _

/-- The last field is read up to the closing brace. -/
theorem Spells.field (spells : Spells room chars value) (apart : HalvesApart name)
    : SpellsFields room (writtenField name chars) [(.text name, value)] := by
  constructor
  case begins => exact begins_writtenField name chars
  case printable => exact spells.printable_writtenField name
  case reads =>
    intro fuel done rest enough unlike
    obtain ⟨less, rfl⟩ : ∃ less, fuel = less + 1 := ⟨fuel - 1, by omega⟩
    have length := length_le_writtenField name chars
    rw [readFields_field apart spells (ends_cons (by decide) rest) (by omega) done,
      put_of_apart unlike]
    rfl

/-- A field is read before others. -/
theorem SpellsFields.cons {tail : List Char} {fields : Fields}
    (later : SpellsFields room tail fields) (spells : Spells room chars value)
    (apart : HalvesApart name)
    : SpellsFields room (writtenField name chars ++ [',', ' '] ++ tail)
        ((.text name, value) :: fields) := by
  constructor
  case begins =>
    rw [List.append_assoc]
    exact (begins_writtenField name chars).append _
  case printable =>
    rw [List.forall_mem_append, List.forall_mem_append]
    exact ⟨⟨spells.printable_writtenField name, isPrintable_of_all rfl⟩, later.printable⟩
  case reads =>
    intro fuel done rest enough unlike
    obtain ⟨less, rfl⟩ : ∃ less, fuel = less + 1 := ⟨fuel - 1, by omega⟩
    have divided
        : writtenField name chars ++ [',', ' '] ++ tail ++ '\x7d' :: rest
          = writtenField name chars ++ ',' :: ' ' :: (tail ++ '\x7d' :: rest) := by
      simp
    have grown
        : done ++ [(Scalar.text name, value)] ++ fields
          = done ++ (Scalar.text name, value) :: fields :=
      List.append_assoc ..
    have length := length_le_writtenField name chars
    simp only [List.length_append, List.length_cons, List.length_nil] at enough
    rw [divided, readFields_next apart spells (later.begins.append _) (by omega) done,
      put_of_apart unlike, later.reads less _ rest (by omega) (grown ▸ unlike), grown]

end Fields

/-- Fields that return are written and read one after the other. Witness: induction over the fields.
-/
theorem spellsFields_of_each {room : Nat} {fields : Fields} (some : fields ≠ [])
    (named : ∀ field ∈ fields, ∃ name, field.1 = .text name ∧ HalvesApart name)
    (each : ∀ field ∈ fields, Returns room field.2)
    : ∃ chars, compactFields room fields = .ok chars ∧ SpellsFields room chars fields := by
  induction fields with
  | nil => exact absurd rfl some
  | cons field more ih =>
      obtain ⟨name, value⟩ := field
      obtain ⟨name, rfl, apart⟩ := named _ List.mem_cons_self
      obtain ⟨chars, written, spells⟩ := each _ List.mem_cons_self
      cases more with
      | nil =>
          refine ⟨writtenField name chars, ?_, spells.field apart⟩
          rw [compactFields, written]
          rfl
      | cons next others =>
          obtain ⟨tail, rest, later⟩ := ih (List.cons_ne_nil _ _)
            (fun one member => named one (List.mem_cons_of_mem _ member))
            fun one member => each one (List.mem_cons_of_mem _ member)
          exact ⟨_, compactFields_cons written rest, later.cons spells apart⟩

/-- A mapping of fields that return returns. -/
theorem returns_object {room : Nat} {fields : Fields} (apart : Apart fields)
    (named : ∀ field ∈ fields, ∃ name, field.1 = .text name ∧ HalvesApart name)
    (each : ∀ field ∈ fields, Returns room field.2)
    : Returns (room + 1) (.object fields) := by
  cases fields with
  | nil =>
      refine ⟨['\x7b', '\x7d'], rfl, ⟨'\x7b', _, rfl, by decide⟩, isPrintable_of_all rfl,
        fun fuel rest enough _ => ?_⟩
      obtain ⟨less, rfl, -⟩ := fuel_eq_succ enough
      exact readValue.eq_7 less ('\x7d' :: rest) room rest rfl
  | cons field more =>
      obtain ⟨chars, written, spelled⟩ :=
        spellsFields_of_each (List.cons_ne_nil field more) named each
      refine ⟨'\x7b' :: chars ++ ['\x7d'], ?_, ⟨'\x7b', _, rfl, by decide⟩, ?_,
        fun fuel rest enough _ => ?_⟩
      · rw [compactChars, written]
        rfl
      · rw [List.forall_mem_append, List.forall_mem_cons]
        exact ⟨⟨by decide, spelled.printable⟩, isPrintable_of_all rfl⟩
      · rw [List.cons_append, List.length_cons] at enough
        obtain ⟨less, rfl, enough⟩ := fuel_eq_succ enough
        have divided
            : '\x7b' :: chars ++ ['\x7d'] ++ rest = '\x7b' :: (chars ++ '\x7d' :: rest) := by
          simp
        rw [List.length_append, List.length_singleton] at enough
        rw [divided, readValue_object (spelled.begins.append _),
          spelled.reads less [] rest (by omega) apart]
        rfl

-----------------------------------------------------------------------------------------
-- Whole documents
-----------------------------------------------------------------------------------------

/-- What can be stored is written and read. Witness: induction over the document. -/
theorem Storable.returns {room : Nat} {v : Json} (storable : Storable room v) : Returns room v := by
  induction storable with
  | @null room => exact ⟨_, compactChars_null room, spells_null⟩
  | bool value => exact spells_bool value
  | @int room _ showable => exact ⟨_, compactChars_showable showable room, spells_int showable⟩
  | @text room s apart => exact ⟨_, compactChars_text room s, spells_text apart⟩
  | array _ ih => exact returns_array ih
  | object apart named _ ih => exact returns_object apart named ih

/-- A document that can be stored is written on one line of printable ASCII, and is read from it. -/
theorem parse_compact {v : Json} (storable : Storable depthLimit v)
    : ∃ line,
        v.compact = .ok line
        ∧ line ≠ ""
        ∧ (∀ c ∈ line.toList, IsPrintable c)
        ∧ parse line = .ok v := by
  obtain ⟨chars, written, spells⟩ := storable.returns
  refine ⟨String.ofList chars, ?_, ?_, ?_, ?_⟩
  · rw [compact, storable.spread_eq, written]
    rfl
  · obtain ⟨first, more, rfl, -⟩ := spells.begins
    intro empty
    have none := congrArg String.toList empty
    rw [String.toList_ofList] at none
    cases none
  · rw [String.toList_ofList]
    exact spells.printable
  · have ends : Ends [] := by simp [Ends]
    have read := spells.reads (2 * chars.length + 2) [] (by omega) ends
    have blank := spells.begins.skipSpace_eq
    rw [List.append_nil] at read
    simp only [parse, String.toList_ofList, blank, read]
    rfl

-----------------------------------------------------------------------------------------
-- Deep documents
-----------------------------------------------------------------------------------------

/-- (nested n) is an empty list inside of so many others. -/
def nested : Nat → Json
  | 0 => .array []
  | n + 1 => .array [nested n]

theorem nested_storable (n : Nat) : Storable (n + 1) (nested n) := by
  induction n with
  | zero => exact .array (by simp)
  | succ n ih => exact .array (List.forall_mem_singleton.mpr ih)

/-- One list too many is not written. Witness: induction on the lists that are allowed. -/
theorem compactChars_nested (room : Nat)
    : compactChars room (nested room) = .error .nestedTooDeepToWrite := by
  induction room with
  | zero => rfl
  | succ room ih =>
      rw [nested, compactChars, compactItems, ih]
      rfl

theorem begins_brackets (room : Nat) (rest : List Char)
    : Begins (List.replicate (room + 1) '[' ++ rest) :=
  ⟨'[', List.replicate room '[' ++ rest, rfl, by decide⟩

/-- One bracket too many is refused. Witness: induction on the brackets that are allowed. -/
theorem readValue_brackets (room : Nat) (rest : List Char) {fuel : Nat}
    (enough : 2 * room + 1 ≤ fuel)
    : readValue fuel room (List.replicate (room + 1) '[' ++ rest)
      = .error (.nestedTooDeep .array) := by
  induction room generalizing fuel with
  | zero =>
      obtain ⟨less, rfl⟩ : ∃ less, fuel = less + 1 := ⟨fuel - 1, by omega⟩
      exact readValue.eq_3 less _
  | succ room ih =>
      obtain ⟨less, rfl⟩ : ∃ less, fuel = less + 1 + 1 := ⟨fuel - 2, by omega⟩
      rw [List.replicate_succ, List.cons_append, readValue_array (begins_brackets room rest),
        readItems, ih (by omega)]

/-- The depth limit is the same for what is written and for what is read, and it is sharp: lists
that reach it come back, and one more is neither written nor read.
-/
theorem depthLimit_sharp
    : (∃ line,
        (nested (depthLimit - 1)).compact = .ok line
        ∧ parse line = .ok (nested (depthLimit - 1)))
      ∧ (nested depthLimit).compact = .error .nestedTooDeepToWrite
      ∧ ∀ rest,
          parse (String.ofList (List.replicate (depthLimit + 1) '[' ++ rest))
          = .error (.nestedTooDeep .array) := by
  refine ⟨?_, ?_, fun rest => ?_⟩
  · obtain ⟨line, written, -, -, read⟩ := parse_compact (nested_storable (depthLimit - 1))
    exact ⟨line, written, read⟩
  · rw [compact, (nested_storable depthLimit).spread_eq, compactChars_nested]
    rfl
  · have blank := (begins_brackets depthLimit rest).skipSpace_eq
    have length : depthLimit ≤ (List.replicate (depthLimit + 1) '[' ++ rest).length := by
      rw [List.length_append, List.length_replicate]
      omega
    have refused
        : readValue (2 * (List.replicate (depthLimit + 1) '[' ++ rest).length + 2) depthLimit
            (List.replicate (depthLimit + 1) '[' ++ rest)
          = .error (.nestedTooDeep .array) :=
      readValue_brackets depthLimit rest (by omega)
    simp only [parse, String.toList_ofList, blank, refused]

end ArkLifecycle.Json
