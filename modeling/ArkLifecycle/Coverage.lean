import ArkLifecycle.Catalog.Basic
import ArkLifecycle.Json.Display
import ArkLifecycle.Number.Fixed
import ArkLifecycle.Record

/-! How much of a catalog a program uses.

A tracker counts, for every callback name of the catalog, the records of it, those with an
implementation, and the classes and files they stand in; it also counts data flows by their
source. Records of names that the catalog does not list change nothing. A snapshot ranks the
counts; equal ones stay in the order in which they were first met.
-/

namespace ArkLifecycle

/-- The use of one callback name. -/
structure CoverageStat (κ : Type := Text) where
  name : Scalar
  kind : Kind
  usageCount : Nat
  implementedCount : Nat
  classes : List κ
  files : List κ
deriving DecidableEq, Repr, Inhabited

/-- The counts so far. -/
structure Tracker (κ : Type := Text) where
  stats : KindTable (List (CoverageStat κ))
  firstSeen : List (Kind × κ)
  flowCounts : List (κ × Nat)
deriving Repr, Inhabited

/-- The counts at one time, with rankings. -/
structure Snapshot (κ : Type := Text) where
  coverage : List (Kind × List (CoverageStat κ))
  byUsage : List (Kind × κ × Nat)
  byFlows : List (κ × Nat)
deriving Repr, Inhabited

/-- (rankBy count items) puts the items with the greatest counts first and keeps the order of
items with equal counts.
-/
def rankBy {α : Type} (count : α → Nat) (items : List α) : List α :=
  items.mergeSort fun a b => count b ≤ count a

variable {κ : Type} [BEq κ] [Name κ] [Datum κ]

namespace CoverageStat

/-- (unused kind name) is the statistic of a name that has no record yet. -/
def unused (kind : Kind) (name : Scalar) : CoverageStat κ :=
  ⟨name, kind, 0, 0, [], []⟩

/-- (isUsed stat) holds when there is a record of the name. -/
def isUsed (stat : CoverageStat κ) : Bool :=
  0 < stat.usageCount

/-- (isNamed stat name) holds of the statistic of a name. -/
def isNamed (stat : CoverageStat κ) (name : κ) : Bool :=
  (Json.scalar stat.name).same (Datum.toJson name)

/-- (addOnce items item) adds an item unless it is there. -/
def addOnce (items : List κ) (item : κ) : List κ :=
  if items.contains item then items else items ++ [item]

/-- (add stat record) counts a record of the name. -/
def add (stat : CoverageStat κ) (record : Record κ) : CoverageStat κ :=
  { stat with
    usageCount := stat.usageCount + 1
    implementedCount := stat.implementedCount + (if record.hasImplementation then 1 else 0)
    classes := addOnce stat.classes record.className
    files := addOnce stat.files record.filePath }

/-- (toJson stat) writes a statistic. -/
def toJson (stat : CoverageStat κ) : Json :=
  .object [
    ("methodName", .scalar stat.name),
    ("kind", .text stat.kind.name),
    ("isDefined", .bool true),
    ("isUsed", .bool stat.isUsed),
    ("usageCount", .ofNat stat.usageCount),
    ("implementedCount", .ofNat stat.implementedCount),
    ("classes", .array (stat.classes.map Datum.toJson)),
    ("files", .array (stat.files.map Datum.toJson))]

end CoverageStat

namespace Tracker

/-- (ofCatalog catalog) counts nothing yet. -/
def ofCatalog (catalog : Catalog) : Tracker κ :=
  { stats := .ofFn fun kind => (catalog.names kind).map (CoverageStat.unused kind)
    firstSeen := []
    flowCounts := [] }

/-- (stat? tracker kind name) is the statistic of a callback name. -/
def stat? (tracker : Tracker κ) (kind : Kind) (name : κ) : Option (CoverageStat κ) :=
  (tracker.stats.get kind).find? fun stat => stat.isNamed name

/-- (fold tracker record) counts a record, if the catalog lists its name. -/
def fold (tracker : Tracker κ) (record : Record κ) : Tracker κ :=
  match tracker.stat? record.kind record.methodName with
  | none => tracker
  | some stat =>
      { tracker with
        firstSeen :=
          if stat.usageCount = 0 then
            tracker.firstSeen ++ [(record.kind, record.methodName)]
          else
            tracker.firstSeen
        stats := tracker.stats.set record.kind
          ((tracker.stats.get record.kind).map fun stat =>
            if stat.isNamed record.methodName then stat.add record else stat) }

/-- (foldAll tracker records) counts records in order. -/
def foldAll (tracker : Tracker κ) (records : List (Record κ)) : Tracker κ :=
  records.foldl fold tracker

/-- (increment counts source) counts one more of a source. -/
def increment (counts : List (κ × Nat)) (source : κ) : List (κ × Nat) :=
  Json.put counts source ((Json.lookup counts source).getD 0 + 1)

/-- (foldFlows tracker flows) counts data flows by their source. -/
def foldFlows {ℓ : Type} (tracker : Tracker κ) (flows : List (DataFlow κ ℓ)) : Tracker κ :=
  { tracker with
    flowCounts := (flows.map DataFlow.source).foldl increment tracker.flowCounts }

/-- (snapshot tracker) are the counts as they are now. -/
def snapshot (tracker : Tracker κ) : Snapshot κ :=
  { coverage :=
      (Kind.all.map fun kind => (kind, tracker.stats.get kind)).filter fun entry =>
        !entry.2.isEmpty
    byUsage := rankBy (fun entry => entry.2.2) <|
      tracker.firstSeen.map fun (kind, name) =>
        (kind, name, ((tracker.stat? kind name).map CoverageStat.usageCount).getD 0)
    byFlows := rankBy Prod.snd tracker.flowCounts }

end Tracker

/-- How much of one kind is used. -/
structure CoverageSummary where
  defined : Nat
  used : Nat
  usageCount : Nat
  percent : Binary64
deriving DecidableEq, Repr, Inhabited

namespace CoverageSummary

/-- (percentOf used total) is the share of `used` in percent with one decimal place. -/
def percentOf (used total : Nat) : Binary64 :=
  if total = 0 then .zero else (Binary64.ofRatio false (100 * used) total).roundTo 1

/-- (ofStats stats) summarizes the statistics of one kind. -/
def ofStats (stats : List (CoverageStat κ)) : CoverageSummary :=
  let used := stats.filter CoverageStat.isUsed
  { defined := stats.length
    used := used.length
    usageCount := (used.map CoverageStat.usageCount).foldr (· + ·) 0
    percent := percentOf used.length stats.length }

/-- (fields summary) are the fields of a summary in reports. -/
def fields (summary : CoverageSummary) : Json.Fields :=
  [("defined", .ofNat summary.defined),
    ("used", .ofNat summary.used),
    ("usage_count", .ofNat summary.usageCount),
    ("coverage_percent", .float summary.percent)]

end CoverageSummary

namespace Snapshot

/-- (stats snapshot kind) are the statistics of a kind, none when the catalog lists no name. -/
def stats (snapshot : Snapshot κ) (kind : Kind) : List (CoverageStat κ) :=
  ((snapshot.coverage.find? fun entry => entry.1 = kind).map Prod.snd).getD []

/-- (stat snapshot kind name) is the statistic of a callback name, which must be listed. -/
def stat (snapshot : Snapshot κ) (kind : Kind) (name : Json) : Except Fault (CoverageStat κ) :=
  match (snapshot.stats kind).find? fun stat => (Json.scalar stat.name).equal name with
  | some stat => .ok stat
  | none => do throw (.missingKey (kind.name ++ ":" ++ (← name.display)))

/-- (used snapshot kind) are the statistics of the names that have a record. -/
def used (snapshot : Snapshot κ) (kind : Kind) : List (CoverageStat κ) :=
  (snapshot.stats kind).filter CoverageStat.isUsed

/-- (unused snapshot kind) are the names that have no record. -/
def unused (snapshot : Snapshot κ) (kind : Kind) : List Scalar :=
  ((snapshot.stats kind).filter fun stat => !stat.isUsed).map CoverageStat.name

/-- (summary snapshot kind) summarizes a kind. -/
def summary (snapshot : Snapshot κ) (kind : Kind) : CoverageSummary :=
  .ofStats (snapshot.stats kind)

/-- (toJson snapshot) writes a snapshot. -/
def toJson (snapshot : Snapshot κ) : Json :=
  .object [
    ("coverage", .object (snapshot.coverage.map fun (kind, stats) =>
      (kind.name, .object [
        ("summary", .object (snapshot.summary kind).fields),
        ("entries", .array (stats.map CoverageStat.toJson))]))),
    ("rankedByUsage", .array (snapshot.byUsage.map fun (kind, name, count) =>
      .object [
        ("kind", .text kind.name),
        ("methodName", Datum.toJson name),
        ("usageCount", .ofNat count)])),
    ("rankedByDataFlowCount", .array (snapshot.byFlows.map fun (method, count) =>
      .object [("method", Datum.toJson method), ("dataFlowCount", .ofNat count)]))]

end Snapshot

end ArkLifecycle
