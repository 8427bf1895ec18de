import ArkLifecycle.ArtifactStore
import ArkLifecycle.EventLog
import Mathlib.Data.Nat.Digits.Defs

/-! The names that paths are made of.

A path that is written out and read again has the names that it had. So the reference that a report
gives to a result leads, from the directory of the analysis, to the very path at which the result
was written.
-/

namespace ArkLifecycle

-----------------------------------------------------------------------------------------
-- Texts that are one name
-----------------------------------------------------------------------------------------

/-- The text is the name of one file or directory: no slash divides it, and it does not say to stay
or to go back.
-/
structure Text.IsFileName (name : Text) : Prop where
  undivided : .char '/' ∉ name.toList
  present : name ≠ ""
  notHere : name ≠ "."
  notBack : name ≠ ".."

instance (name : Text) : Decidable name.IsFileName :=
  decidable_of_iff (.char '/' ∉ name.toList ∧ name ≠ "" ∧ name ≠ "." ∧ name ≠ "..")
    ⟨fun ⟨undivided, present, notHere, notBack⟩ => ⟨undivided, present, notHere, notBack⟩,
      fun is => ⟨is.undivided, is.present, is.notHere, is.notBack⟩⟩

namespace Text

theorem isFileName_of_noDot {name : Text} (undivided : .char '/' ∉ name.toList)
    (noDot : .char '.' ∉ name.toList) (present : name.toList ≠ [])
    : name.IsFileName where
  undivided := undivided
  present := by
    rintro rfl
    exact present (by decide)
  notHere := by
    rintro rfl
    exact noDot (by decide)
  notBack := by
    rintro rfl
    exact noDot (by decide)

/-- A text without the separator is a single piece. -/
theorem pieces_of_not_mem {stop : Letter} {letters : List Letter} (absent : stop ∉ letters)
    : pieces stop letters = [letters] := by
  induction letters with
  | nil => rfl
  | cons letter rest ih =>
      obtain ⟨differs, later⟩ := not_or.mp (fun either => absent (List.mem_cons.mpr either))
      have apart : (letter == stop) = false := by simpa using fun same => differs same.symm
      simp [pieces, apart, ih later]

/-- What stands before the first separator is the first piece. -/
theorem pieces_append_stop {stop : Letter} {letters : List Letter} (absent : stop ∉ letters)
    (rest : List Letter)
    : pieces stop (letters ++ stop :: rest) = letters :: pieces stop rest := by
  induction letters with
  | nil => simp [pieces]
  | cons letter more ih =>
      obtain ⟨differs, later⟩ := not_or.mp (fun either => absent (List.mem_cons.mpr either))
      have apart : (letter == stop) = false := by simpa using fun same => differs same.symm
      simp [pieces, apart, ih later]

/-- Parts that are joined by a separator are its pieces, when it stands in none of them.
Witness: induction over the parts, of which there must be one.
-/
theorem piecesOf_joinWith {stop : Letter} (part : Text) (rest : List Text)
    (absent : ∀ one ∈ part :: rest, stop ∉ one.toList)
    : piecesOf stop (joinWith ⟨[stop]⟩ (part :: rest)) = part :: rest := by
  induction rest generalizing part with
  | nil => simp [joinWith, piecesOf, pieces_of_not_mem (absent part (by simp))]
  | cons next rest ih =>
      have later := ih next fun one member => absent one (List.mem_cons_of_mem part member)
      have whole
          : (joinWith ⟨[stop]⟩ (part :: next :: rest)).toList
            = part.toList ++ stop :: (joinWith ⟨[stop]⟩ (next :: rest)).toList :=
        List.append_assoc part.toList [stop] _
      rw [piecesOf, whole, pieces_append_stop (absent part (by simp)), List.map_cons]
      exact congrArg (part :: ·) later

end Text

-----------------------------------------------------------------------------------------
-- Paths that lead down
-----------------------------------------------------------------------------------------

namespace Path

/-- The path has no root, and each of its names leads one step down. -/
structure Descends (path : Path) : Prop where
  relative : path.root = ""
  named : ∀ name ∈ path.names, name.IsFileName

instance (path : Path) : Decidable path.Descends :=
  decidable_of_iff (path.root = "" ∧ ∀ name ∈ path.names, name.IsFileName)
    ⟨fun ⟨relative, named⟩ => ⟨relative, named⟩, fun both => ⟨both.relative, both.named⟩⟩

/-- A written path that begins with a name has no root. -/
theorem rootOf_append {name : Text} (is : name.IsFileName) (more : List Letter)
    : rootOf ⟨name.toList ++ more⟩ = "" := by
  obtain ⟨letters⟩ := name
  cases letters with
  | nil => exact absurd rfl is.present
  | cons letter rest =>
      have apart : letter ≠ .char '/' := fun same => is.undivided (by simp [same])
      unfold rootOf
      split
      · next begins => exact absurd (List.cons.inj begins).1 apart
      · next begins => exact absurd (List.cons.inj begins).1 apart
      · next begins => exact absurd (List.cons.inj begins).1 apart
      · rfl

/-- A path that leads down is read as it was written. -/
theorem ofText_render {path : Path} (descends : path.Descends) (some : path.names ≠ [])
    : ofText path.render = path := by
  obtain ⟨root, names⟩ := path
  obtain ⟨rfl, named⟩ := descends
  cases names with
  | nil => exact absurd rfl some
  | cons name rest =>
      have written : render ⟨"", name :: rest⟩ = Text.joinWith "/" (name :: rest) := rfl
      have begun : ∃ more, (Text.joinWith "/" (name :: rest)).toList = name.toList ++ more := by
        cases rest with
        | nil => exact ⟨[], (List.append_nil _).symm⟩
        | cons next rest => exact ⟨_, List.append_assoc _ _ _⟩
      obtain ⟨more, begun⟩ := begun
      have kept
          : ((name :: rest).filter fun one : Text => one != "" && one != ".") = name :: rest := by
        rw [List.filter_eq_self]
        intro one member
        simpa using ⟨(named one member).present, (named one member).notHere⟩
      rw [written, ofText]
      congr 1
      · exact (congrArg (fun letters => rootOf ⟨letters⟩) begun).trans
          (rootOf_append (named name (by simp)) more)
      · have pieces := Text.piecesOf_joinWith name rest fun one member =>
          (named one member).undivided
        exact (congrArg _ pieces).trans kept

/-- A single name is a path of that name. -/
theorem ofText_name {name : Text} (is : name.IsFileName)
    : ofText name = ⟨"", [name]⟩ := by
  have descends : Descends ⟨"", [name]⟩ := ⟨rfl, by simpa using is⟩
  exact ofText_render descends (List.cons_ne_nil name [])

/-- A path goes on by the names of one without a root. -/
theorem join_descends (path : Path) {more : Path} (descends : more.Descends)
    : path.join more = { path with names := path.names ++ more.names } := by
  rw [join, descends.relative]
  rfl

end Path

namespace FileTree

open ArkLifecycle.Path

/-- Names that lead down are entered one after the other. -/
theorem foldl_enter {names : List Text} (named : ∀ name ∈ names, name.IsFileName)
    (place : List Text)
    : names.foldl enter place = place ++ names.map Text.asName := by
  induction names generalizing place with
  | nil => exact (List.append_nil place).symm
  | cons name rest ih =>
      have down : enter place name = place ++ [name.asName] :=
        if_neg (by simpa using (named name (by simp)).notBack)
      rw [List.foldl_cons, down, ih fun one member => named one (List.mem_cons_of_mem name member)]
      simp

/-- A path that goes on downwards leads below. -/
theorem location_join (path : Path) {more : Path} (descends : more.Descends)
    : location (path.join more) = location path ++ more.names.map Text.asName := by
  rw [join_descends path descends, location, List.foldl_append, foldl_enter descends.named]
  rfl

end FileTree

-----------------------------------------------------------------------------------------
-- The names of runs and analyses
-----------------------------------------------------------------------------------------

namespace Digest

theorem digitChar_plain : ∀ digit < 16, digit.digitChar ≠ '/' ∧ digit.digitChar ≠ '.' := by
  decide

/-- Numerals have neither slashes nor dots. Witness: strong induction; the last digit is split off.
-/
theorem toDigits_plain (n : Nat)
    : '/' ∉ Nat.toDigits 16 n ∧ '.' ∉ Nat.toDigits 16 n := by
  induction n using Nat.strong_induction_on with
  | h n ih =>
      rw [Nat.toDigits_eq_if (by decide)]
      split
      · next small =>
          obtain ⟨slash, dot⟩ := digitChar_plain n small
          simp [slash.symm, dot.symm]
      · obtain ⟨slash, dot⟩ := digitChar_plain (n % 16) (Nat.mod_lt n (by decide))
        obtain ⟨noSlash, noDot⟩ := ih (n / 16) (by omega)
        simp [noSlash, noDot, slash.symm, dot.symm]

theorem hexDigits_plain (width n : Nat)
    : '/' ∉ Text.hexDigits width n ∧ '.' ∉ Text.hexDigits width n := by
  obtain ⟨noSlash, noDot⟩ := toDigits_plain n
  constructor
  · simp [Text.hexDigits, noSlash]
  · simp [Text.hexDigits, noDot]

/-- An analysis that is named by a digest has the name of a directory. -/
theorem short_isFileName (s : String) : Text.IsFileName (short (ofText s)) := by
  obtain ⟨words, digits⟩ :
      ∃ state : State, ofText s
        = String.ofList (state.words.flatMap fun word => Text.hexDigits 8 word.toNat) :=
    ⟨_, rfl⟩
  have letters : (short (ofText s)).toList
      = ((words.words.flatMap fun word => Text.hexDigits 8 word.toNat).map Letter.char).take 16
      := by
    rw [digits]
    simp [short, shortLength, Text.takeText, Text.ofString, Text.ofChars]
  have plain (c : Char) (absent : ∀ n, c ∉ Text.hexDigits 8 n)
      : .char c ∉ (short (ofText s)).toList := by
    rw [letters]
    intro member
    obtain ⟨_, among, same⟩ := List.mem_map.mp (List.mem_of_mem_take member)
    cases same
    obtain ⟨word, -, digit⟩ := List.mem_flatMap.mp among
    exact absent word.toNat digit
  refine Text.isFileName_of_noDot (plain '/' fun n => (hexDigits_plain 8 n).1)
    (plain '.' fun n => (hexDigits_plain 8 n).2) ?_
  rw [letters]
  have some : Text.hexDigits 8 words.a.toNat ≠ [] := by
    simp [Text.hexDigits, Nat.toDigits_ne_nil]
  simp [State.words, some]

end Digest

namespace ArtifactStore

open ArkLifecycle.Path FileTree

variable {store : ArtifactStore} {name written : Text}

theorem runName?_eq (run : store.runId = some name) (is : name.IsFileName)
    : store.runName? = some name := by
  have some : name.isEmpty = false := by
    obtain ⟨letters⟩ := name
    cases letters with
    | nil => exact absurd rfl is.present
    | cons => rfl
  simp [runName?, run, some]

/-- The results of an analysis stand below the base of the store. -/
theorem location_analysisRoot (is : store.analysisId.IsFileName)
    : location store.analysisRoot = location store.base ++ [store.analysisId.asName] := by
  rw [analysisRoot, joinText, ofText_name is]
  exact location_join store.base ⟨rfl, by simpa using is⟩

/-- (withinRun name written) is the way from the directory of an analysis to a result of a run. -/
def withinRun (name written : Text) : Path :=
  ⟨"", "runs" :: name :: (ofText written).names⟩

theorem withinRun_descends (is : name.IsFileName) (descends : (ofText written).Descends)
    : (withinRun name written).Descends := by
  refine ⟨rfl, fun one member => ?_⟩
  rcases List.mem_cons.mp member with rfl | member
  · decide
  · rcases List.mem_cons.mp member with rfl | member
    · exact is
    · exact descends.named one member

theorem ofText_runs : ofText "runs" = ⟨"", ["runs"]⟩ :=
  ofText_name (by decide)

theorem path_eq_withinRun (run : store.runId = some name) (is : name.IsFileName)
    (descends : (ofText written).Descends)
    : store.path [written] = store.analysisRoot.join (withinRun name written) := by
  have runs : Descends ⟨"", ["runs"]⟩ := by decide
  have single : Descends ⟨"", [name]⟩ := ⟨rfl, by simpa using is⟩
  have below : store.root = (store.analysisRoot.join ⟨"", ["runs"]⟩).join ⟨"", [name]⟩ := by
    rw [root, runName?_eq run is]
    simp only [joinText, ofText_runs, ofText_name is]
  change store.root.join (ofText written) = _
  rw [below, join_descends _ descends, join_descends _ single, join_descends _ runs,
    join_descends _ (withinRun_descends is descends)]
  simp [withinRun]

/-- The reference to a result leads from the directory of the analysis to the result. -/
theorem joinText_reference (run : store.runId = some name) (is : name.IsFileName)
    (descends : (ofText written).Descends)
    : store.analysisRoot.joinText (store.reference written) = store.path [written] := by
  have single : Descends ⟨"", [name]⟩ := ⟨rfl, by simpa using is⟩
  have rendered : store.reference written = (withinRun name written).render := by
    rw [reference, runName?_eq run is]
    simp only [joinText, ofText_runs, ofText_name is]
    rw [join_descends _ descends, join_descends _ single]
    rfl
  rw [joinText, rendered, ofText_render (withinRun_descends is descends) (List.cons_ne_nil _ _),
    path_eq_withinRun run is descends]

/-- Results with one reference have one name. -/
theorem names_eq_of_reference {other : Text} (run : store.runId = some name)
    (is : name.IsFileName) (descends : (ofText written).Descends)
    (alike : (ofText other).Descends) (same : store.reference written = store.reference other)
    : (ofText written).names = (ofText other).names := by
  have led : store.path [written] = store.path [other] := by
    rw [← joinText_reference run is descends, ← joinText_reference run is alike, same]
  rw [path_eq_withinRun run is descends, path_eq_withinRun run is alike,
    join_descends _ (withinRun_descends is descends),
    join_descends _ (withinRun_descends is alike)] at led
  have names := List.append_cancel_left (congrArg Path.names led)
  exact (List.cons.inj (List.cons.inj names).2).2

end ArtifactStore

end ArkLifecycle
