import ArkLifecycle.Coverage
import ArkLifecycle.Record.Reader

/-! Counting callbacks and flows that are written by hand.

What is counted goes by a name, which not every document can be. When one comes that can not, the
counts stay as they are until then. The snapshots that were taken are kept and can be asked for by
their number, also from the end.

This is for those who call the library with a tracker of their own. An analysis counts callbacks and
flows that it found itself, with the same tracker; their names are texts.
-/

namespace ArkLifecycle

/-- The counts so far, and the snapshots that were taken of them. -/
structure Survey where
  tracker : Tracker Json
  snapshots : List (Snapshot Json)
deriving Inhabited

/-- A step of a survey. What was counted before it failed is kept. -/
abbrev SurveyStep := ExceptT Fault (StateM Survey)

namespace Survey

/-- (ofCatalog catalog) has counted nothing and has no snapshot. -/
def ofCatalog (catalog : Catalog) : Survey := ⟨.ofCatalog catalog, []⟩

/-- (indexLimit) bounds the numbers that can be an index at all. -/
def indexLimit : Nat := Nat.pow 2 63

/-- (placeOf length index) is the place in a list that an index stands for; negative ones count
from the end.
-/
def placeOf (length : Nat) (index : Int) : Except Fault Nat :=
  let place := if index < 0 then (length : Int) + index else index
  if index < -(indexLimit : Int) ∨ (indexLimit : Int) ≤ index then
    .error .indexTooLarge
  else if place < 0 then
    .error .outOfRange
  else
    .ok place.toNat

/-- (snapshotAt survey index) is the snapshot with a number. -/
def snapshotAt (survey : Survey) (index : Json) : Except Fault (Snapshot Json) := do
  match index with
  | .scalar value =>
      match value.asInt? with
      | none => throw (.listPart value.shape)
      | some index =>
          match survey.snapshots[← placeOf survey.snapshots.length index]? with
          | some snapshot => return snapshot
          | none => throw .outOfRange
  | v => throw (.listPart v.shape)

end Survey

/-- (Snapshot.ranking snapshot) are the callbacks and the methods with flows, the most frequent
ones first, and the kinds that are covered.
-/
def Snapshot.ranking (snapshot : Snapshot Json) : Json :=
  .object [
    ("by_usage", .array (snapshot.byUsage.map fun (kind, name, count) =>
      .array [.text kind.name, name, .ofNat count])),
    ("by_flows", .array (snapshot.byFlows.map fun (method, count) =>
      .array [method, .ofNat count])),
    ("kinds", Json.texts (snapshot.coverage.map fun entry => entry.1.name))]

namespace SurveyStep

/-- (change f) changes the counts. -/
def change (f : Tracker Json → Tracker Json) : SurveyStep Unit :=
  modify fun survey => { survey with tracker := f survey.tracker }

/-- (countRecords records) counts records in order. -/
def countRecords : List (Record Json) → SurveyStep Unit
  | [] => return ()
  | record :: rest => do
      discard (record.methodName.name? : Except Fault Scalar)
      change fun tracker => tracker.fold record
      countRecords rest

/-- (countFlows flows) counts flows in order. -/
def countFlows : List (DataFlow Json Json) → SurveyStep Unit
  | [] => return ()
  | flow :: rest => do
      discard (flow.source.name? : Except Fault Scalar)
      change fun tracker => tracker.foldFlows [flow]
      countFlows rest

/-- (takeSnapshot) takes a snapshot, which becomes the last one. -/
def takeSnapshot : SurveyStep (Snapshot Json) := do
  let survey ← get
  let snapshot := survey.tracker.snapshot
  set { survey with snapshots := survey.snapshots ++ [snapshot] }
  return snapshot

end SurveyStep

end ArkLifecycle
