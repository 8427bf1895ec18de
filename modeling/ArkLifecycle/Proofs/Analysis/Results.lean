import ArkLifecycle.Proofs.Analysis.Balance

/-! What the results of analyses are made of.

Whatever is denied or refused and whenever an analysis is stopped: if it gives a result, the result
was put together from records that an identification made, and its tracker was given those records
and the flows of the result.
-/

namespace ArkLifecycle

open Activity

namespace Analysis

variable {host : Host} {program : Program} {catalog : Catalog} {options : AnalysisOptions}
  {before after : Session}

/-- The first stage gives what was identified inside of it. -/
theorem identifyStage_eq_ok {found : Identification}
    (done : outcome (identifyStage host program catalog options) before = (.ok found, after))
    : ∃ start middle,
        outcome (Identification.identify host program catalog options.skipTestFiles.truthy) start
          = (.ok found, middle) := by
  obtain ⟨_, _, -, done⟩ := outcome_bind_eq_ok done
  obtain ⟨_, _, spanned, done⟩ := outcome_bind_eq_ok done
  obtain ⟨_, _, -, done⟩ := outcome_bind_eq_ok done
  cases done
  exact outcome_span_eq_ok spanned

/-- A result is put together from the parts of its analysis. -/
theorem run_eq_ok {result : Analysis}
    (done : outcome (run host program catalog options) before = (.ok result, after))
    : ∃ found summary scanned sweep,
        (∃ start middle,
          outcome (Identification.identify host program catalog options.skipTestFiles.truthy)
              start
            = (.ok found, middle))
        ∧ result = concluded catalog options found summary scanned sweep := by
  rw [run_eq_prepare_complete] at done
  obtain ⟨⟨found, summary⟩, _, prepared, completed⟩ := outcome_bind_eq_ok done
  obtain ⟨_, _, identified, prepared⟩ := outcome_bind_eq_ok prepared
  obtain ⟨_, _, -, prepared⟩ := outcome_bind_eq_ok prepared
  obtain ⟨_, _, -, prepared⟩ := outcome_bind_eq_ok prepared
  cases prepared
  obtain ⟨scanned, _, -, completed⟩ := outcome_bind_eq_ok completed
  rw [map_eq_pure_bind] at completed
  obtain ⟨sweep, _, -, completed⟩ := outcome_bind_eq_ok completed
  cases completed
  exact ⟨found, summary, scanned, sweep, identifyStage_eq_ok identified, rfl⟩

/-- The records of a result are those of methods, and the catalog lists their names. -/
theorem grounded_of_run {result : Analysis}
    (done : outcome (run host program catalog options) before = (.ok result, after))
    {record : Record} (member : record ∈ result.records)
    : Identification.Grounded catalog record := by
  obtain ⟨found, _, _, _, ⟨_, _, identified⟩, rfl⟩ := run_eq_ok done
  obtain ⟨decl, -, role, given⟩ := Identification.mem_records_of_identify identified member
  exact Identification.grounded_of_mem_recordsAs given

/-- The snapshot of a result is taken after its records and the sources of its flows. -/
theorem snapshot_of_run {result : Analysis}
    (done : outcome (run host program catalog options) before = (.ok result, after))
    : result.snapshot
      = (Tracker.after catalog result.records
          (result.flows.map DataFlow.source)).snapshot := by
  obtain ⟨found, summary, scanned, sweep, -, rfl⟩ := run_eq_ok done
  dsimp only [concluded]
  rw [Tracker.foldFlows_foldAll_ofCatalog]

/-- An analysis of the callbacks alone gives a result, whatever is denied to it. -/
theorem run_ends (texts : catalog.PatternsAreTexts) (accepting : host.Accepting)
    (program : Program) (fair : options.Fair) (lifecycle : options.scope = .lifecycle)
    (before : Session)
    : ∃ result after, outcome (run host program catalog options) before = (.ok result, after) := by
  obtain ⟨_, _, found, _, _, identified, -⟩ :=
    identifyStage_collects texts accepting program options before
  obtain ⟨summary, middle, prepared, -⟩ := prepare_identified accepting identified
  obtain ⟨results, errors, after, completed, -⟩ :=
    complete_told accepting program catalog fair found summary middle
  rw [sweepIfAsked_lifecycle host program lifecycle, map_pure, outcome_pure] at completed
  rw [run_eq_prepare_complete, outcome_bind_ok prepared]
  exact ⟨_, after, completed⟩

end Analysis

end ArkLifecycle
