import ArkLifecycle.ArtifactStore
import ArkLifecycle.Proofs.Session.Effect
import ArkLifecycle.Proofs.Session.Inquiry
import Mathlib.Data.Set.Basic

/-! What changes of files leave as it was.

No change takes a file or a directory away. Making directories adds no file, and writing a file adds
that one file at most; all other files keep their texts.
-/

namespace ArkLifecycle

namespace FileTree

-----------------------------------------------------------------------------------------
-- What stands where
-----------------------------------------------------------------------------------------

/-- A file stands at the location. -/
def IsFile (tree : FileTree) (place : List Text) : Prop :=
  ∃ text, tree.entry? place = some (.file text)

/-- A file stands at the path, and all directories on the way to it do. -/
def HasFile (tree : FileTree) (path : Path) : Prop :=
  ∃ text, tree.read path = .ok text

/-- The location is not one of those that always stand. -/
theorem free_of_not_directory {tree : FileTree} {place : List Text}
    (other : tree.entry? place ≠ some .directory)
    : (place == top || isAbove place) = false := by
  unfold entry? at other
  cases always : place == top || isAbove place with
  | false => rfl
  | true => simp [always] at other

/-- An entry that is put at a location is the first one found there, and hides no other one. -/
theorem find?_put (tree : FileTree) (place : List Text) (entry : Entry) (other : List Text)
    : ((tree.put place entry).entries.find? fun known => known.1 == other)
      = if other = place then
          some (place, entry)
        else
          tree.entries.find? fun known => known.1 == other := by
  unfold put
  by_cases known : tree.entries.any fun known => known.1 == place
  · let replaced (known : List Text × Entry) : List Text × Entry :=
      if known.1 == place then (place, entry) else known
    have same (known : List Text × Entry) : (replaced known).1 = known.1 := by
      by_cases here : known.1 = place
      · simp [replaced, here]
      · simp [replaced, here]
    rw [if_pos known]
    change (tree.entries.map replaced).find? _ = _
    rw [List.find?_map]
    have tests : (fun known => known.1 == other) ∘ replaced = fun known => known.1 == other := by
      funext known
      simp [same]
    rw [tests]
    by_cases here : other = place
    · subst here
      obtain ⟨found, first⟩ := Option.isSome_iff_exists.mp
        ((List.find?_isSome).mpr (List.any_eq_true.mp known))
      have at_ : found.1 = other := by simpa using List.find?_some first
      simp [first, replaced, at_]
    · rw [if_neg here]
      cases first : tree.entries.find? fun known => known.1 == other with
      | none => rfl
      | some found =>
          have at_ : found.1 = other := by simpa using List.find?_some first
          simp [replaced, at_, here]
  · rw [if_neg known, List.find?_append]
    by_cases here : other = place
    · subst here
      have none : tree.entries.find? (fun known => known.1 == other) = none := by
        rw [List.find?_eq_none]
        exact fun found member at_ => known (List.any_eq_true.mpr ⟨found, member, at_⟩)
      simp [none]
    · have apart : (place == other) = false := by simpa using fun same => here same.symm
      simp [here, apart]

/-- What is put at a location stands there; all other locations keep what they have. -/
theorem at_put {tree : FileTree} {place : List Text}
    (free : (place == top || isAbove place) = false) (entry : Entry) (other : List Text)
    : entry? (tree.put place entry) other
      = if other = place then some entry else tree.entry? other := by
  unfold entry?
  rw [find?_put]
  by_cases here : other = place
  · subst here
    simp [free]
  · simp [here]

-----------------------------------------------------------------------------------------
-- Changes that only add
-----------------------------------------------------------------------------------------

/-- All directories and files stay; new files stand only at the given places, and files elsewhere
keep their texts.
-/
structure Grows (places : Set (List Text)) (before after : FileTree) : Prop where
  directories
    : ∀ place, before.entry? place = some .directory → after.entry? place = some .directory
  files : ∀ place, before.IsFile place → after.IsFile place
  new : ∀ place, after.IsFile place → before.IsFile place ∨ place ∈ places
  texts
    : ∀ place text,
        place ∉ places
        → before.entry? place = some (.file text)
        → after.entry? place = some (.file text)

theorem Grows.refl (places : Set (List Text)) (tree : FileTree) : Grows places tree tree :=
  ⟨fun _ => id, fun _ => id, fun _ => .inl, fun _ _ _ => id⟩

theorem Grows.trans {places : Set (List Text)} {first second third : FileTree}
    (earlier : Grows places first second) (later : Grows places second third)
    : Grows places first third where
  directories place stands := later.directories place (earlier.directories place stands)
  files place stands := later.files place (earlier.files place stands)
  new place stands := (later.new place stands).elim (earlier.new place) .inr
  texts place text outside stands :=
    later.texts place text outside (earlier.texts place text outside stands)

theorem Grows.mono {places more : Set (List Text)} {before after : FileTree}
    (grows : Grows places before after) (within : places ⊆ more)
    : Grows more before after where
  directories := grows.directories
  files := grows.files
  new place stands := (grows.new place stands).imp_right (within ·)
  texts place text outside stands :=
    grows.texts place text (fun inside => outside (within inside)) stands

/-- A directory where nothing stands adds no file. -/
theorem Grows.putDirectory {tree : FileTree} {place : List Text} (vacant : tree.entry? place = none)
    : Grows ∅ tree (tree.put place .directory) := by
  have free := free_of_not_directory (show tree.entry? place ≠ some .directory by simp [vacant])
  have other {elsewhere : List Text} {entry : Entry}
      (stands : tree.entry? elsewhere = some entry)
      : entry? (tree.put place .directory) elsewhere = some entry := by
    rw [at_put free, if_neg, stands]
    rintro rfl
    simp [vacant] at stands
  refine ⟨fun _ => other, fun _ ⟨text, stands⟩ => ⟨text, other stands⟩, ?_, fun _ _ _ => other⟩
  rintro elsewhere ⟨text, stands⟩
  rw [at_put free] at stands
  by_cases here : elsewhere = place
  · simp [here] at stands
  · exact .inl ⟨text, by simpa [here] using stands⟩

/-- A file that is written adds at most itself. -/
theorem Grows.putFile {tree : FileTree} {place : List Text}
    (other : tree.entry? place ≠ some .directory) (text : String)
    : Grows {place} tree (tree.put place (.file text)) := by
  have free := free_of_not_directory other
  refine ⟨?_, ?_, ?_, ?_⟩
  · intro elsewhere stands
    rw [at_put free, if_neg, stands]
    rintro rfl
    exact other stands
  · rintro elsewhere ⟨old, stands⟩
    by_cases here : elsewhere = place
    · exact ⟨text, by rw [at_put free, if_pos here]⟩
    · exact ⟨old, by rw [at_put free, if_neg here, stands]⟩
  · rintro elsewhere ⟨new, stands⟩
    by_cases here : elsewhere = place
    · exact .inr here
    · rw [at_put free, if_neg here] at stands
      exact .inl ⟨new, stands⟩
  · intro elsewhere old outside stands
    have apart : elsewhere ≠ place := outside
    rw [at_put free, if_neg apart, stands]

-----------------------------------------------------------------------------------------
-- Ways through a tree that grows
-----------------------------------------------------------------------------------------

/-- A path that is followed ends where its names lead, whatever stands there. -/
theorem eq_foldl_of_follow {tree : FileTree} {path : Path} {names : List Text}
    {place final : List Text} (followed : tree.follow path place names = .ok final)
    : final = names.foldl enter place := by
  induction names generalizing place with
  | nil =>
      cases followed
      rfl
  | cons name rest ih =>
      unfold follow at followed
      split at followed
      · split at followed
        · cases followed
        · exact ih followed
      · cases followed
      · cases followed

/-- A path that is found leads to its location. -/
theorem eq_location_of_find {tree : FileTree} {path : Path} {place : List Text}
    (found : tree.find path = .ok place)
    : place = location path := by
  obtain ⟨-, -, followed⟩ := bind_eq_ok found
  exact eq_foldl_of_follow followed

/-- What was found before is found after. Witness: the directories on the way are still there. -/
theorem Grows.find {places : Set (List Text)} {before after : FileTree}
    (grows : Grows places before after) {path : Path} {place : List Text}
    (found : before.find path = .ok place)
    : after.find path = .ok place := by
  have follows (names : List Text) (start : List Text)
      (followed : before.follow path start names = .ok place)
      : after.follow path start names = .ok place := by
    induction names generalizing start with
    | nil => exact followed
    | cons name rest ih =>
        unfold follow at followed ⊢
        split at followed
        · next stands =>
            rw [grows.directories start stands]
            split at followed
            · cases followed
            · next short =>
                simp only [short, if_false]
                exact ih _ followed
        · cases followed
        · cases followed
  obtain ⟨checked, inspected, followed⟩ := bind_eq_ok found
  rw [FileTree.find, inspected]
  exact follows path.names (start path) followed

/-- A file is read when the way to it and the file stand. -/
theorem read_eq_ok_iff {tree : FileTree} {path : Path} {text : String}
    : tree.read path = .ok text
      ↔ ∃ place, tree.find path = .ok place ∧ tree.entry? place = some (.file text) := by
  constructor
  · intro done
    obtain ⟨place, found, given⟩ := bind_eq_ok done
    refine ⟨place, found, ?_⟩
    split at given
    · next stands =>
        cases given
        exact stands
    · cases given
    · cases given
  · rintro ⟨place, found, stands⟩
    rw [read, found]
    dsimp only [bind, Except.bind]
    rw [stands]
    rfl

/-- A file that can be read stands at its location. -/
theorem HasFile.isFile {tree : FileTree} {path : Path} (has : tree.HasFile path)
    : tree.IsFile (location path) := by
  obtain ⟨text, done⟩ := has
  obtain ⟨place, found, stands⟩ := read_eq_ok_iff.mp done
  exact ⟨text, eq_location_of_find found ▸ stands⟩

/-- A file that can be read can be read after. -/
theorem HasFile.grow {places : Set (List Text)} {before after : FileTree} {path : Path}
    (has : before.HasFile path) (grows : Grows places before after)
    : after.HasFile path := by
  obtain ⟨text, done⟩ := has
  obtain ⟨place, found, stands⟩ := read_eq_ok_iff.mp done
  obtain ⟨later, stays⟩ := grows.files place ⟨text, stands⟩
  exact ⟨later, read_eq_ok_iff.mpr ⟨place, grows.find found, stays⟩⟩

/-- A file elsewhere reads as it did. -/
theorem Grows.read {places : Set (List Text)} {before after : FileTree}
    (grows : Grows places before after) {path : Path} {text : String}
    (outside : location path ∉ places) (done : before.read path = .ok text)
    : after.read path = .ok text := by
  obtain ⟨place, found, stands⟩ := read_eq_ok_iff.mp done
  rw [← eq_location_of_find found] at outside
  exact read_eq_ok_iff.mpr ⟨place, grows.find found, grows.texts place text outside stands⟩

-----------------------------------------------------------------------------------------
-- Single steps
-----------------------------------------------------------------------------------------

/-- A new directory adds no file. -/
theorem grows_of_makeOne {tree next : FileTree} {path : Path} (done : tree.makeOne path = .ok next)
    : Grows ∅ tree next := by
  obtain ⟨place, -, made⟩ := bind_eq_ok done
  split at made
  · cases made
  · next vacant =>
      cases made
      exact .putDirectory vacant

/-- What is written is put where the path leads, unless a directory stands there. -/
theorem write_eq_ok {tree next : FileTree} {path : Path} {text : String}
    (done : tree.write path text = .ok next)
    : ∃ place,
        tree.find path = .ok place
        ∧ tree.entry? place ≠ some .directory
        ∧ next = tree.put place (.file text) := by
  obtain ⟨place, found, put⟩ := bind_eq_ok done
  refine ⟨place, found, ?_⟩
  split at put
  · cases put
  · next other =>
      cases put
      exact ⟨other, rfl⟩

/-- A file that is written adds at most itself. -/
theorem grows_of_write {tree next : FileTree} {path : Path} {text : String}
    (done : tree.write path text = .ok next)
    : Grows {location path} tree next := by
  obtain ⟨place, found, other, rfl⟩ := write_eq_ok done
  exact eq_location_of_find found ▸ .putFile other text

/-- A text that was written can be read. -/
theorem read_of_write {tree next : FileTree} {path : Path} {text : String}
    (done : tree.write path text = .ok next)
    : next.read path = .ok text := by
  obtain ⟨place, found, other, rfl⟩ := write_eq_ok done
  refine read_eq_ok_iff.mpr ⟨place, (Grows.putFile other text).find found, ?_⟩
  rw [at_put (free_of_not_directory other), if_pos rfl]

/-- (textAt tree path) is the text of the file at a path, empty without one. -/
def textAt (tree : FileTree) (path : Path) : String :=
  match tree.read path with
  | .ok text => text
  | .error _ => ""

/-- Adding to a file is writing what stands in it and more. -/
theorem append_eq_write (tree : FileTree) (path : Path) (text : String)
    : tree.append path text = tree.write path (tree.textAt path ++ text) := by
  unfold append textAt
  cases tree.read path with
  | ok old => rfl
  | error fault => rw [String.empty_append]

/-- Whether something can be added to a file, and why not, does not depend on what is added. -/
theorem append_alike (tree : FileTree) (path : Path) (text other : String)
    : (tree.append path text).map (fun _ => ()) = (tree.append path other).map fun _ => () := by
  rw [append_eq_write, append_eq_write]
  unfold write
  cases tree.find path with
  | error fault => rfl
  | ok place =>
      dsimp only [bind, Except.bind]
      rcases tree.entry? place with _ | _ | old <;> rfl

theorem append_eq_ok_of_append {tree next : FileTree} {path : Path} {text : String}
    (done : tree.append path text = .ok next) (other : String)
    : ∃ next, tree.append path other = .ok next := by
  have alike := append_alike tree path text other
  rw [done] at alike
  cases given : tree.append path other with
  | ok next => exact ⟨next, rfl⟩
  | error fault => simp [given, Except.map] at alike

theorem append_eq_error_of_append {tree : FileTree} {path : Path} {text : String} {fault : Fault}
    (failed : tree.append path text = .error fault) (other : String)
    : tree.append path other = .error fault := by
  have alike := append_alike tree path text other
  rw [failed] at alike
  cases given : tree.append path other with
  | ok next => simp [given, Except.map] at alike
  | error other => simpa [given, Except.map] using alike.symm

/-- Something can be added to a file that stands. -/
theorem HasFile.append_eq_ok {tree : FileTree} {path : Path} (has : tree.HasFile path)
    (text : String)
    : ∃ next, tree.append path text = .ok next := by
  obtain ⟨old, done⟩ := has
  obtain ⟨place, found, stands⟩ := read_eq_ok_iff.mp done
  refine ⟨tree.put place (.file (tree.textAt path ++ text)), ?_⟩
  rw [append_eq_write, write, found]
  dsimp only [bind, Except.bind]
  rw [stands]
  rfl

end FileTree

-----------------------------------------------------------------------------------------
-- Tasks that change files
-----------------------------------------------------------------------------------------

namespace Effect

open FileTree

variable {σ α β : Type} {tree : σ → FileTree} {places : Set (List Text)}

/-- Whether it succeeds or not, the task adds files at the given places at most. When it succeeds
the files at the paths `made` can be read.
-/
def Leaves (tree : σ → FileTree) (places : Set (List Text)) (made : List Path)
    (task : ExceptT Fault (StateM σ) α)
    : Prop :=
  ∀ before,
    Grows places (tree before) (tree (outcome task before).2)
    ∧ ∀ value,
        (outcome task before).1 = .ok value
        → ∀ path ∈ made, (tree (outcome task before).2).HasFile path

theorem Leaves.grows {made : List Path} {task : ExceptT Fault (StateM σ) α} {before after : σ}
    {result : Except Fault α} (leaves : Leaves tree places made task)
    (done : outcome task before = (result, after))
    : Grows places (tree before) (tree after) := by
  have grows := (leaves before).1
  rwa [done] at grows

theorem Leaves.hasFile {made : List Path} {task : ExceptT Fault (StateM σ) α} {before after : σ}
    {value : α} (leaves : Leaves tree places made task)
    (done : outcome task before = (.ok value, after)) {path : Path} (member : path ∈ made)
    : (tree after).HasFile path := by
  have has := (leaves before).2 value
  rw [done] at has
  exact has rfl path member

theorem Leaves.mono {made fewer : List Path} {task : ExceptT Fault (StateM σ) α}
    {more : Set (List Text)} (leaves : Leaves tree places made task) (within : places ⊆ more)
    (subset : fewer ⊆ made)
    : Leaves tree more fewer task :=
  fun before =>
    ⟨(leaves before).1.mono within, fun value done path member =>
      (leaves before).2 value done path (subset member)⟩

/-- What leaves the state as it is leaves the files. -/
theorem Leaves.still {task : ExceptT Fault (StateM σ) α}
    (same : ∀ before, tree (outcome task before).2 = tree before)
    : Leaves tree places [] task := by
  intro before
  rw [same before]
  exact ⟨.refl places _, by simp⟩

theorem Leaves.pure (value : α)
    : Leaves tree places [] (Pure.pure value : ExceptT Fault (StateM σ) α) :=
  .still fun _ => rfl

theorem Leaves.lift (result : Except Fault α)
    : Leaves tree places [] (liftM result : ExceptT Fault (StateM σ) α) :=
  .still fun before => by rw [outcome_lift]

/-- One task after the other. Witness: the second one takes away nothing that the first one made.
-/
theorem Leaves.bind {made more : List Path} {task : ExceptT Fault (StateM σ) α}
    {next : α → ExceptT Fault (StateM σ) β} (first : Leaves tree places made task)
    (second : ∀ value, Leaves tree places more (next value))
    : Leaves tree places (made ++ more) (task >>= next) := by
  intro before
  obtain ⟨begun, had⟩ := first before
  rcases done : outcome task before with ⟨fault | value, middle⟩
  · rw [outcome_bind_error done]
    rw [done] at begun
    exact ⟨begun, fun value failed => nomatch failed⟩
  · rw [outcome_bind_ok done]
    rw [done] at begun had
    obtain ⟨ended, has⟩ := second value middle
    refine ⟨begun.trans ended, fun result finished path member => ?_⟩
    rcases List.mem_append.mp member with early | late
    · exact (had value rfl path early).grow ended
    · exact has result finished path late

/-- A task whose fault is handled. -/
theorem Leaves.tryCatch {task : ExceptT Fault (StateM σ) α}
    {handle : Fault → ExceptT Fault (StateM σ) α} (first : Leaves tree places [] task)
    (second : ∀ fault, Leaves tree places [] (handle fault))
    : Leaves tree places [] (MonadExcept.tryCatch task handle) := by
  intro before
  obtain ⟨begun, -⟩ := first before
  refine ⟨?_, by simp⟩
  rw [outcome_tryCatch]
  rcases done : outcome task before with ⟨fault | value, middle⟩
  · rw [done] at begun
    exact begun.trans (second fault middle).1
  · rw [done] at begun
    exact begun

end Effect

namespace FileEdit

open FileTree Effect

/-- A step changes nothing when it fails. -/
theorem outcome_change (step : FileTree → Except Fault FileTree) (tree : FileTree)
    : outcome (change step) tree
      = match step tree with
        | .ok next => (.ok ⟨⟩, next)
        | .error fault => (.error fault, tree) := by
  rw [change, outcome_bind_ok (outcome_get tree)]
  cases done : step tree with
  | ok next => exact outcome_bind_ok (outcome_lift (.ok next) tree)
  | error fault => exact outcome_bind_error (outcome_lift (.error fault) tree)

/-- A step leaves what it adds when it succeeds. -/
theorem change_leaves {step : FileTree → Except Fault FileTree} {places : Set (List Text)}
    {made : List Path}
    (adds
      : ∀ before next,
          step before = .ok next
          → Grows places before next ∧ ∀ path ∈ made, next.HasFile path)
    : Leaves id places made (change step) := by
  intro before
  rw [outcome_change]
  cases done : step before with
  | ok next =>
      obtain ⟨grows, has⟩ := adds before next done
      exact ⟨grows, fun _ _ => has⟩
  | error fault => exact ⟨.refl _ _, fun _ failed => nomatch failed⟩

/-- Making one directory adds no file. -/
theorem ensureOne_leaves (path : Path) : Leaves id ∅ [] (ensureOne path) := by
  intro before
  refine ⟨?_, by simp⟩
  rw [ensureOne, outcome_bind_ok (outcome_get before)]
  cases done : before.makeOne path with
  | ok next => exact grows_of_makeOne done
  | error fault =>
      cases stands : before.isDirectory path with
      | true => exact .refl ∅ before
      | false => exact .refl ∅ before

/-- Making directories adds no file. Witness: induction on the number of names. -/
theorem makeDirectory_leaves (path : Path) : Leaves id ∅ [] (makeDirectory path) := by
  have first (count : Nat) : Leaves id ∅ [] (ensureFirst path count) := by
    induction count with
    | zero => exact ensureOne_leaves _
    | succ count ih =>
        unfold ensureFirst
        refine (ensureOne_leaves _).tryCatch fun fault => ?_
        split
        · exact ih.bind fun _ => ensureOne_leaves _
        · exact .still fun _ => rfl
  exact first path.names.length

/-- Writing a file adds at most that file, and does add it when it succeeds. -/
theorem writeFile_leaves (path : Path) (emission : Emission Unit)
    : Leaves id {location path} [path] (writeFile path emission) := by
  have directories : Leaves id {location path} [] (makeDirectory path.parent) :=
    (makeDirectory_leaves path.parent).mono (Set.empty_subset _) (List.Subset.refl _)
  have written (text : String) : Leaves id {location path} [path]
      (change fun tree => tree.write path text) :=
    change_leaves fun before next done =>
      ⟨grows_of_write done, fun one member => by
        rw [List.mem_singleton.mp member]
        exact ⟨text, read_of_write done⟩⟩
  exact directories.bind fun _ => (written emission.outcome.2).bind fun _ => .lift _

end FileEdit

end ArkLifecycle
