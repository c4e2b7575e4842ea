import CodeAtlas.Proofs.Analysis

set_option autoImplicit false

namespace CodeAtlas.Analysis

/-- The part of a report that a stage fills: what it has returned, or nothing. -/
def Fills {α : Type} (run : StageRun α) (nothing part : α) : Prop :=
  (∀ a, run.outcome = .ok a → part = a) ∧ (∀ e, run.outcome = .error e → part = nothing)

structure Covers (runs : StageRuns) (report : Report) : Prop where
  counted : report.completedStages + report.errors.size = 5
  errors : report.errors.entries =
    (Stage.all.filterMap runs.failure?).map fun e => (e.1.name, e.2)
  complete : report.isComplete = true ↔ ∀ stage, runs.error? stage = none
  routines : Fills runs.routines [] report.routines
  graph : Fills runs.graph none report.graph
  references : Fills runs.references Table.empty report.references
  symbols : Fills runs.symbols Table.empty report.symbols
  strings : Fills runs.strings [] report.strings

/-- The conclusion from stages that have ended in whatever way. -/
structure Isolates (runs : StageRuns) (c : Conclusion) : Prop where
  finished : runs.GoesOn Stage.all → ∃ report, c.report = .ok report ∧ Covers runs report ∧
    Progressed runs Stage.all c.progress
  ended : ∀ (k : Nat) (stage : Stage) (e : InputError), Stage.all[k]? = some stage →
    runs.error? stage = some (.rejected e) → runs.GoesOn (Stage.all.take k) →
      c.report = .error e ∧ Progressed runs (Stage.all.take k) c.progress

variable {runs : StageRuns}

theorem fills_valueOr {α : Type} (run : StageRun α) (nothing : α) :
    Fills run nothing (run.valueOr nothing) := by
  constructor
  · intro a ha
    rw [StageRun.valueOr, ha]
  · intro e he
    rw [StageRun.valueOr, he]

theorem failure_stage {stage : Stage} {f : Stage × String} (h : runs.failure? stage = some f) :
    f.1 = stage := by
  unfold StageRuns.failure? at h
  split at h
  · cases h
    rfl
  · cases h

theorem failed_sublist (runs : StageRuns) (stages : List Stage) :
    ((stages.filterMap runs.failure?).map Prod.fst).Sublist stages := by
  induction stages with
  | nil => exact List.Sublist.refl []
  | cons stage rest ih =>
    cases hfailure : runs.failure? stage with
    | none =>
      rw [List.filterMap_cons_none hfailure]
      exact ih.cons stage
    | some f =>
      rw [List.filterMap_cons_some hfailure, List.map_cons, failure_stage hfailure]
      exact ih.cons_cons stage

/-- No two stages have the same name, so every failure has an entry of its own. -/
theorem reasons_entries (runs : StageRuns) :
    (Table.ofList ((Stage.all.filterMap runs.failure?).map fun e => (e.1.name, e.2))).entries =
      (Stage.all.filterMap runs.failure?).map fun e => (e.1.name, e.2) := by
  apply Table.ofList_entries
  have hnames : (Stage.all.map Stage.name).Nodup := by decide
  have hfailed := ((failed_sublist runs Stage.all).map Stage.name).nodup hnames
  rwa [List.map_map] at hfailed ⊢

theorem isComplete_iff {report : Report} (hcounted : report.completedStages + report.errors.size = 5)
    (hcompleted : report.completedStages = Stage.all.countP runs.completes) :
    report.isComplete = true ↔ ∀ stage, runs.error? stage = none := by
  have hall : Stage.all.countP runs.completes = 5 ↔ ∀ stage, runs.error? stage = none := by
    change Stage.all.countP runs.completes = Stage.all.length ↔ _
    rw [List.countP_eq_length]
    simp [StageRuns.completes, Stage.mem_all]
  have htotal : (Stage.total : Int) = 5 := rfl
  rw [Report.isComplete, Bool.and_eq_true, decide_eq_true_eq, decide_eq_true_eq, htotal, ← hall]
  omega

theorem reportOf_covers {t : Tally} (hgoes : runs.GoesOn Stage.all)
    (ht : t.Recorded runs Stage.all) (digest : String) (bitness : Bitness) (base entry : Int) :
    Covers runs (reportOf digest bitness base entry runs t) := by
  have hentries : t.reasons.entries =
      (Stage.all.filterMap runs.failure?).map fun e => (e.1.name, e.2) := by
    rw [Tally.reasons, ht.errors, reasons_entries]
  have hcounted : (t.completed : Int) + t.reasons.size = 5 := by
    have hstages : _ = 5 := Tally.completes_or_fails hgoes
    rw [Table.size, hentries, List.length_map, ht.completed]
    omega
  constructor
  case counted => exact hcounted
  case errors => exact hentries
  case complete => exact isComplete_iff hcounted (congrArg Nat.cast ht.completed)
  case routines => exact fills_valueOr runs.routines []
  case graph => exact fills_valueOr runs.graph none
  case references => exact fills_valueOr runs.references Table.empty
  case symbols => exact fills_valueOr runs.symbols Table.empty
  case strings => exact fills_valueOr runs.strings []

theorem conclude_isolates (digest : String) (bitness : Bitness) (base entry : Int)
    (runs : StageRuns) : Isolates runs (conclude digest bitness base entry runs) := by
  constructor
  case finished =>
    intro hgoes
    have hrecorded : (Tally.ofRuns runs).Recorded runs Stage.all := Tally.foldl_recorded hgoes
    exact ⟨_, conclude_report hrecorded.stopped, reportOf_covers hgoes hrecorded _ _ _ _,
      hrecorded.progress⟩
  case ended =>
    intro k stage e hstage herror hgoes
    obtain ⟨hstopped, hprogress⟩ := Tally.ofRuns_ended hstage herror hgoes
    refine ⟨?_, hprogress⟩
    simp only [conclude, hstopped]

theorem Isolates.congr {c d : Conclusion} (h : Isolates runs c) (hreport : d.report = c.report)
    (hprogress : d.progress = c.progress) : Isolates runs d := by
  constructor
  case finished =>
    rw [hreport, hprogress]
    exact h.finished
  case ended =>
    rw [hreport, hprogress]
    exact h.ended

/-- Whatever the stages come to, each of them decides on its own part of the conclusion; and so it is
for the stages of every analysis, with errors in the place of some. -/
theorem stages_isolated :
    (∀ digest bitness base entry runs, Isolates runs (conclude digest bitness base entry runs)) ∧
      ∀ (faults : Faults) (r : Request) (data : Bytes) (hne : r.stream ≠ []), r.data = some data →
        Isolates (withFaults faults (runStages r data (entryFor r hne))) (run faults r) := by
  refine ⟨conclude_isolates, ?_⟩
  intro faults r data hne hdata
  obtain ⟨hreport, hprogress⟩ := run_concludes faults hne hdata
  exact (conclude_isolates _ _ _ _ _).congr hreport hprogress

end CodeAtlas.Analysis
