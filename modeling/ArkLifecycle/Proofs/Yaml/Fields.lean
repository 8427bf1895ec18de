import ArkLifecycle.Proofs.Json.Cycle
import ArkLifecycle.Proofs.Session.Inquiry
import ArkLifecycle.Yaml.Document

/-! No mapping of a YAML document names a field twice.

Every step of the making of nodes keeps what was made orderly: only the fields of a mapping could
break it, and these are put one after the other.
-/

namespace ArkLifecycle.Yaml

/-- All layers that were made are orderly. -/
def Making.Orderly (making : Making) : Prop :=
  Known Layer.Orderly making.made

namespace Maker

/-- The task leaves orderly layers behind if it finds such, and what it gives is as stated. -/
def Keeps {α : Type} (task : Maker α) (holds : α → Prop) : Prop :=
  ∀ before value after,
    task.run before = .ok (value, after) → before.Orderly → after.Orderly ∧ holds value

-----------------------------------------------------------------------------------------
-- Tasks in general
-----------------------------------------------------------------------------------------

section Tasks

variable {α β : Type} {task : Maker α} {holds : α → Prop}

theorem Keeps.pure {value : α} (good : holds value) : Keeps (Pure.pure value) holds := by
  intro before given after done orderly
  cases done
  exact ⟨orderly, good⟩

theorem Keeps.throw (fault : Fault) : Keeps (throw fault : Maker α) holds := by
  intro before given after done
  cases done

theorem Keeps.bind {next : α → Maker β} {results : β → Prop} (first : Keeps task holds)
    (later : ∀ value, holds value → Keeps (next value) results)
    : Keeps (task >>= next) results := by
  intro before given after done orderly
  rw [StateT.run_bind] at done
  obtain ⟨⟨value, middle⟩, begun, done⟩ := bind_eq_ok done
  obtain ⟨kept, good⟩ := first before value middle begun orderly
  exact later value good middle given after done kept

theorem Keeps.get : Keeps get Making.Orderly := by
  intro before given after done orderly
  cases done
  exact ⟨orderly, orderly⟩

theorem Keeps.modify {change : Making → Making}
    (keeps : ∀ making, making.Orderly → (change making).Orderly)
    : Keeps (modify change) fun _ => True := by
  intro before given after done orderly
  cases done
  exact ⟨keeps before orderly, trivial⟩

theorem Keeps.lift (step : Except Fault α) : Keeps (liftM step) fun _ => True := by
  intro before given after done orderly
  obtain ⟨value, -, done⟩ := bind_eq_ok done
  cases done
  exact ⟨orderly, trivial⟩

theorem Keeps.mapM {step : α → Maker β} (each : ∀ item, Keeps (step item) fun _ => True)
    (items : List α)
    : Keeps (items.mapM step) fun _ => True := by
  induction items with
  | nil => exact .pure trivial
  | cons item rest ih =>
      rw [List.mapM_cons]
      exact (each item).bind fun _ _ => ih.bind fun _ _ => .pure trivial

theorem Keeps.forM {step : α → Maker Unit} (each : ∀ item, Keeps (step item) fun _ => True)
    (items : List α)
    : Keeps (items.forM step) fun _ => True := by
  induction items with
  | nil => exact .pure trivial
  | cons item rest ih => exact (each item).bind fun _ _ => ih

theorem Keeps.findM? {asks : α → Maker Bool} (each : ∀ item, Keeps (asks item) fun _ => True)
    (items : List α)
    : Keeps (items.findM? asks) fun _ => True := by
  induction items with
  | nil => exact .pure trivial
  | cons item rest ih =>
      refine (each item).bind fun found _ => ?_
      cases found with
      | true => exact .pure trivial
      | false => exact ih

theorem Keeps.foldlM {step : β → α → Maker β} {results : β → Prop}
    (each : ∀ sofar item, results sofar → Keeps (step sofar item) results) (items : List α)
    {start : β} (good : results start)
    : Keeps (items.foldlM step start) results := by
  induction items generalizing start with
  | nil => exact .pure good
  | cons item rest ih =>
      rw [List.foldlM_cons]
      exact (each start item good).bind fun _ good => ih good

end Tasks

-----------------------------------------------------------------------------------------
-- Merge keys
-----------------------------------------------------------------------------------------

theorem Keeps.node (index : Nat) : Keeps (node index) fun _ => True :=
  Keeps.get.bind fun _ _ => .pure trivial

theorem Keeps.tagOf (index : Nat) : Keeps (tagOf index) fun _ => True :=
  (Keeps.node index).bind fun _ _ => .pure trivial

theorem Keeps.pairsOf (index : Nat) : Keeps (pairsOf index) fun _ => True := by
  refine (Keeps.node index).bind fun node _ => ?_
  split
  · exact .pure trivial
  · exact .throw _

theorem Keeps.setPairs (index : Nat) (pairs : List (Nat × Nat))
    : Keeps (setPairs index pairs) fun _ => True :=
  .modify fun _ orderly => orderly

theorem Keeps.setTag (index : Nat) (tag : Tag) : Keeps (setTag index tag) fun _ => True :=
  .modify fun _ orderly => orderly

theorem Keeps.nextMerge (pairs : List (Nat × Nat)) (place : Nat)
    : Keeps (nextMerge pairs place) fun _ => True := by
  induction pairs generalizing place with
  | nil => exact .pure trivial
  | cons pair rest ih =>
      refine (Keeps.tagOf pair.1).bind fun tag _ => ?_
      split
      · exact .pure trivial
      · exact (Keeps.setTag pair.1 .text).bind fun _ _ => ih (place + 1)
      · exact ih (place + 1)

/-- Taking over fields makes no layer.
Witness: induction on the fuel, and then the cases of what a merge key names.
-/
theorem Keeps.takeOver (fuel room index place : Nat) (more : List (Nat × Nat))
    : Keeps (takeOver fuel room index place more) fun _ => True := by
  induction fuel generalizing room index place more with
  | zero => exact .throw _
  | succ fuel ih =>
      cases room with
      | zero => exact .throw _
      | succ room =>
          refine (Keeps.pairsOf index).bind fun pairs _ => ?_
          refine (Keeps.nextMerge _ _).bind fun found _ => ?_
          split
          · split
            · exact .pure trivial
            · exact .setPairs index _
          · next place value =>
              refine (Keeps.setPairs index _).bind fun _ _ => ?_
              refine (Keeps.node value).bind fun node _ => ?_
              split
              · refine (ih room value 0 []).bind fun _ _ => ?_
                exact (Keeps.pairsOf value).bind fun _ _ => ih _ _ _ _
              · refine (Keeps.mapM (fun item => ?_) _).bind fun _ _ => ih _ _ _ _
                refine (Keeps.pairsOf item).bind fun _ _ => ?_
                exact (ih room item 0 []).bind fun _ _ => .pairsOf item
              · exact .throw _

theorem Keeps.merge (index : Nat) : Keeps (merge index) fun _ => True := by
  have counted : Keeps mergeCount fun _ => True := Keeps.get.bind fun _ _ => .pure trivial
  exact counted.bind fun _ _ => .takeOver _ _ _ _ _

-----------------------------------------------------------------------------------------
-- Making
-----------------------------------------------------------------------------------------

theorem Keeps.finish (index : Nat) {made : Layer} (good : made.Orderly)
    : Keeps (finish index made) fun _ => True :=
  .modify fun _ orderly => Known.set orderly good index

theorem Keeps.await (index : Nat) {made : Layer} (good : made.Orderly)
    : Keeps (await index made) fun _ => True :=
  (Keeps.finish index good).bind fun _ _ => .modify fun _ orderly => orderly

theorem Keeps.scalarText (room index : Nat) : Keeps (scalarText room index) fun _ => True := by
  induction room generalizing index with
  | zero => exact .throw _
  | succ room ih =>
      refine (Keeps.node index).bind fun node _ => ?_
      split
      · exact .pure trivial
      · exact .throw _
      · refine (Keeps.findM? (fun pair => ?_) _).bind fun found _ => ?_
        · exact (Keeps.tagOf pair.1).bind fun _ _ => .pure trivial
        · split
          · exact ih _
          · exact .throw _

theorem Keeps.makeScalar (index : Nat) (tag : Tag)
    : Keeps (makeScalar index tag) fun _ => True := by
  refine (Keeps.scalarText referenceLimit index).bind fun content _ => ?_
  refine (Keeps.node index).bind fun node _ => ?_
  split
  · exact .throw _
  · exact (Keeps.lift _).bind fun value _ => .finish index trivial

theorem Keeps.meet (index : Nat) : Keeps (meet index) fun _ => True := by
  refine Keeps.get.bind fun making _ => ?_
  split
  · exact .pure trivial
  · refine (Keeps.tagOf index).bind fun tag _ => ?_
    split
    · exact .await index trivial
    · exact .await index Json.apart_nil
    · exact .await index trivial
    · exact .await index trivial
    · exact .throw _
    · exact .throw _
    · exact .throw _
    · exact .makeScalar index tag

theorem Keeps.key (index : Nat) : Keeps (key index) fun _ => True := by
  refine (Keeps.meet index).bind fun _ _ => Keeps.get.bind fun making _ => ?_
  split
  · exact .pure trivial
  · exact .throw _

/-- The fields of a mapping are put one after the other, so their names differ. -/
theorem Keeps.fields (index : Nat) : Keeps (fields index) Json.Apart := by
  refine (Keeps.pairsOf index).bind fun _ _ => (Keeps.merge index).bind fun _ _ => ?_
  refine (Keeps.pairsOf index).bind fun pairs _ => .foldlM (fun made pair apart => ?_) pairs ?_
  · refine (Keeps.key pair.1).bind fun name _ => (Keeps.meet pair.2).bind fun _ _ => ?_
    exact .pure (apart.put name pair.2)
  · exact Json.apart_nil

theorem Keeps.pair (index : Nat) : Keeps (pair index) fun _ => True := by
  refine (Keeps.pairsOf index).bind fun pairs _ => ?_
  split
  · exact (Keeps.meet _).bind fun _ _ => (Keeps.meet _).bind fun _ _ => .pure trivial
  · exact .throw _

theorem Keeps.complete (index : Nat) : Keeps (complete index) fun _ => True := by
  refine (Keeps.node index).bind fun node _ => ?_
  split
  · exact (Keeps.forM Keeps.meet _).bind fun _ _ => .finish index trivial
  · exact (Keeps.mapM Keeps.pair _).bind fun _ _ => .finish index trivial
  · exact (Keeps.fields index).bind fun _ apart => .finish index apart
  · exact (Keeps.fields index).bind fun _ _ => .finish index trivial
  · exact .throw _

theorem Keeps.completeAll (fuel : Nat) : Keeps (completeAll fuel) fun _ => True := by
  induction fuel with
  | zero => exact .pure trivial
  | succ fuel ih =>
      refine Keeps.get.bind fun making _ => ?_
      refine Keeps.bind (.modify fun _ orderly => orderly) fun _ _ => ?_
      refine (Keeps.forM Keeps.complete _).bind fun _ _ => ?_
      split
      · exact .pure trivial
      · exact ih

end Maker

-----------------------------------------------------------------------------------------
-- Documents
-----------------------------------------------------------------------------------------

theorem layersOf_orderly {nodes : Array Node} {root : Nat} {layers : Array Layer}
    (done : layersOf nodes root = .ok layers) (place : Nat)
    : (Layer.ofPlace layers place).Orderly := by
  obtain ⟨⟨_, making⟩, run, done⟩ := bind_eq_ok done
  cases done
  have start : Making.Orderly ⟨nodes, nodes.map fun _ => none, []⟩ := known_nothing _ nodes
  have steps : Maker.Keeps (do Maker.meet root; Maker.completeAll (nodes.size + 1)) fun _ => True :=
    (Maker.Keeps.meet root).bind fun _ _ => .completeAll _
  have made := (steps _ _ _ run start).1 place
  rw [Array.getD_eq_getD_getElem?] at made
  unfold Layer.ofPlace
  rw [Array.getD_eq_getD_getElem?, Array.getElem?_map]
  cases known : making.made[place]? with
  | none => trivial
  | some layer =>
      cases layer with
      | none => trivial
      | some layer => exact made layer (by rw [known]; rfl)

/-- In a document that was read, no mapping names a field twice. -/
theorem parse_orderly {written : String} {document : Json} (read : parse written = .ok document)
    : document.Orderly := by
  obtain ⟨⟨root, nodes⟩, -, read⟩ := bind_eq_ok read
  cases root with
  | none =>
      cases read
      exact .scalar .null
  | some root =>
      obtain ⟨layers, made, read⟩ := bind_eq_ok read
      cases read
      exact Json.ofLayers_orderly (layersOf_orderly made) root

end ArkLifecycle.Yaml
