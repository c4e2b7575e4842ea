import CodeAtlas.Proofs.Analysis.Tally
import CodeAtlas.Proofs.FlowGraph.WellFormed
import CodeAtlas.Proofs.Routine
import CodeAtlas.Proofs.Scan
import CodeAtlas.Proofs.Symbol

/-!
# Complete analyses

The stages of an analysis reject an empty stream and an entry without an instruction, and nothing
else; the entry is chosen so that an instruction is there. So an analysis of a stream and a buffer is
complete, whatever the buffer holds.
-/

set_option autoImplicit false

namespace CodeAtlas

theorem Tally.ofRuns_of_ok {runs : StageRuns} (hall : ∀ stage, ∃ n, runs.items stage = .ok n) :
    (ofRuns runs).stopped = none ∧ (ofRuns runs).errors = [] ∧
      (ofRuns runs).completed = Stage.total := by
  have hnone : ∀ stage, runs.error? stage = none := by
    intro stage
    obtain ⟨n, hn⟩ := hall stage
    exact StageRuns.error?_of_items hn
  have hrecorded : Recorded runs Stage.all (ofRuns runs) := by
    apply foldl_recorded
    intro stage _ e
    simp [hnone]
  refine ⟨hrecorded.stopped, ?_, ?_⟩
  · rw [hrecorded.errors, List.filterMap_eq_nil_iff]
    intro stage _
    simp [StageRuns.failure?, hnone]
  · rw [hrecorded.completed, Stage.total, List.countP_eq_length]
    intro stage _
    simp [StageRuns.completes, hnone]

/-! ## The stages -/

namespace StageRun

variable {α : Type} {result : Except InputError α} {a : α}

theorem outcome_ofResult (events : List Event) (h : result = .ok a) :
    (ofResult result events).outcome = .ok a := by
  rw [h]
  rfl

theorem items_of_outcome {run : StageRun α} (count : α → Nat) (h : run.outcome = .ok a) :
    run.items count = .ok (count a) := by
  rw [items, h]
  rfl

theorem valueOr_of_outcome {run : StageRun α} (default : α) (h : run.outcome = .ok a) :
    run.valueOr default = a := by
  rw [valueOr, h]

end StageRun

namespace Analysis

theorem entryOf_hasAddress {stream : Stream} {first : Int}
    (hfirst : stream.hasAddress first = true) (wanted : Option Int) :
    stream.hasAddress (entryOf stream first wanted) = true := by
  cases wanted with
  | none => exact hfirst
  | some a =>
    rw [entryOf]
    split
    · next ha => exact ha
    · exact hfirst

structure Outcomes (r : Request) (data : Bytes) (entry : Int) (runs : StageRuns) : Prop where
  routines : ∃ rs, Routine.discover r.routineSearch r.stream (some data) = .ok rs ∧
    runs.routines.outcome = .ok rs
  graph : ∃ g, FlowGraph.build r.stream entry = .ok g ∧ runs.graph.outcome = .ok (some g)
  references : runs.references.outcome =
    .ok (References.build r.base r.settings.references.ripRelative r.stream)
  symbols : ∃ table, SymbolTable.resolve r.symbolSearch r.stream (some data) = .ok table ∧
    runs.symbols.outcome = .ok table
  strings : runs.strings.outcome =
    .ok (Scan.allStrings r.settings.scans.minLength r.settings.scans.wide data)

theorem runStages_outcomes {r : Request} (data : Bytes) {entry : Int} (hne : r.stream ≠ [])
    (hentry : r.stream.hasAddress entry = true) :
    Outcomes r data entry (runStages r data entry) where
  routines :=
    ⟨_, Routine.discover_ok (some data) hne,
      StageRun.outcome_ofResult _ (Routine.discover_ok (some data) hne)⟩
  graph :=
    ⟨_, FlowGraph.build_of_hasAddress hentry,
      StageRun.outcome_ofResult _ (by rw [FlowGraph.build_of_hasAddress hentry]; rfl)⟩
  references := rfl
  symbols :=
    ⟨_, SymbolTable.resolve_ok data hne,
      StageRun.outcome_ofResult _ (SymbolTable.resolve_ok data hne)⟩
  strings := rfl

theorem Outcomes.items {r : Request} {data : Bytes} {entry : Int} {runs : StageRuns}
    (h : Outcomes r data entry runs) (stage : Stage) : ∃ n, runs.items stage = .ok n := by
  cases stage with
  | routines =>
    obtain ⟨_, _, houtcome⟩ := h.routines
    exact ⟨_, StageRun.items_of_outcome _ houtcome⟩
  | graph =>
    obtain ⟨_, _, houtcome⟩ := h.graph
    exact ⟨_, StageRun.items_of_outcome _ houtcome⟩
  | references => exact ⟨_, StageRun.items_of_outcome _ h.references⟩
  | symbols =>
    obtain ⟨_, _, houtcome⟩ := h.symbols
    exact ⟨_, StageRun.items_of_outcome _ houtcome⟩
  | strings => exact ⟨_, StageRun.items_of_outcome _ h.strings⟩

/-! ## The report -/

def entryFor (r : Request) (hne : r.stream ≠ []) : Int :=
  entryOf r.stream (r.stream.head hne).address r.entry

theorem entryFor_hasAddress {r : Request} (hne : r.stream ≠ []) :
    r.stream.hasAddress (entryFor r hne) = true := by
  refine entryOf_hasAddress ?_ r.entry
  exact Stream.hasAddress_iff_mem.mpr ⟨r.stream.head hne, List.head_mem hne, rfl⟩

theorem entryFor_wanted {r : Request} (hne : r.stream ≠ []) {a : Int} (hwanted : r.entry = some a)
    (ha : r.stream.hasAddress a = true) : entryFor r hne = a := by
  rw [entryFor, hwanted, entryOf, if_pos ha]

theorem run_concludes (faults : Faults) {r : Request} {data : Bytes} (hne : r.stream ≠ [])
    (hdata : r.data = some data) :
    let c := conclude (Sha256.hexDigest data) r.bitness r.base (entryFor r hne)
      (withFaults faults (runStages r data (entryFor r hne)))
    (run faults r).report = c.report ∧ (run faults r).progress = c.progress := by
  rw [run]
  split
  · next hnil => exact absurd hnil hne
  · next hnone => rw [hdata] at hnone; cases hnone
  · next hstream hsome =>
    rw [hdata] at hsome
    cases hsome
    simp only [entryFor, hstream, List.head_cons, and_self]

theorem run_report (faults : Faults) {r : Request} {data : Bytes} (hne : r.stream ≠ [])
    (hdata : r.data = some data) : (run faults r).report =
      (conclude (Sha256.hexDigest data) r.bitness r.base (entryFor r hne)
        (withFaults faults (runStages r data (entryFor r hne)))).report :=
  (run_concludes faults hne hdata).1

theorem conclude_report {digest : String} {bitness : Bitness} {base entry : Int}
    {runs : StageRuns} (hstopped : (Tally.ofRuns runs).stopped = none) :
    (conclude digest bitness base entry runs).report =
      .ok (reportOf digest bitness base entry runs (Tally.ofRuns runs)) := by
  simp only [conclude, hstopped]

/-- What a report says on an analysis whose stages have all run to their ends. -/
structure Completed (r : Request) (data : Bytes) (report : Report) : Prop where
  completedStages : report.completedStages = 5
  errors : report.errors = Table.empty
  isComplete : report.isComplete = true
  entry_present : ∃ i ∈ r.stream, i.address = report.entry
  entry_wanted : ∀ a, r.entry = some a → r.stream.hasAddress a = true → report.entry = a
  graph : ∃ g, report.graph = some g ∧ g.entryPoints = [report.entry] ∧
    FlowGraph.WellFormed r.stream report.entry g ∧
    ∃ b, g.block? report.entry = some b ∧ b.isEntry = true
  routines : Routine.discover r.routineSearch r.stream (some data) = .ok report.routines
  references :
    report.references = References.build r.base r.settings.references.ripRelative r.stream
  symbols : SymbolTable.resolve r.symbolSearch r.stream (some data) = .ok report.symbols
  strings :
    report.strings = Scan.allStrings r.settings.scans.minLength r.settings.scans.wide data
  strings_strict : ∀ minLength, ∀ m ∈ Scan.strings minLength data,
    Bytes.strictText? m.bytes.toList = m.text

theorem Outcomes.completed {r : Request} {data : Bytes} {runs : StageRuns} (hne : r.stream ≠ [])
    (h : Outcomes r data (entryFor r hne) runs) (digest : String) :
    Completed r data
      (reportOf digest r.bitness r.base (entryFor r hne) runs (Tally.ofRuns runs)) := by
  obtain ⟨_, herrors, hcompleted⟩ := Tally.ofRuns_of_ok h.items
  have hreasons : (Tally.ofRuns runs).reasons = Table.empty := by
    rw [Tally.reasons, herrors]
    rfl
  constructor
  case completedStages =>
    rw [reportOf, hcompleted]
    rfl
  case errors => exact hreasons
  case isComplete =>
    rw [Report.isComplete, reportOf, hcompleted, hreasons]
    rfl
  case entry_present => exact Stream.hasAddress_iff_mem.mp (entryFor_hasAddress hne)
  case entry_wanted => exact fun _ hwanted ha => entryFor_wanted hne hwanted ha
  case graph =>
    obtain ⟨g, hbuild, houtcome⟩ := h.graph
    have hwell := FlowGraph.build_ok_wellFormed hbuild
    exact ⟨g, StageRun.valueOr_of_outcome _ houtcome, (FlowGraph.build_ok hbuild).2.2, hwell,
      hwell.entered⟩
  case routines =>
    obtain ⟨rs, hdiscover, houtcome⟩ := h.routines
    rw [hdiscover, reportOf, StageRun.valueOr_of_outcome _ houtcome]
  case references => exact StageRun.valueOr_of_outcome _ h.references
  case symbols =>
    obtain ⟨table, hresolve, houtcome⟩ := h.symbols
    rw [hresolve, reportOf, StageRun.valueOr_of_outcome _ houtcome]
  case strings => exact StageRun.valueOr_of_outcome _ h.strings
  case strings_strict => exact fun _ _ hm => Scan.strings_strict hm

/-- An analysis of a stream and a buffer runs all of its stages to their ends. -/
theorem run_completes (r : Request) (data : Bytes) (hne : r.stream ≠ [])
    (hdata : r.data = some data) :
    ∃ report, (run [] r).report = .ok report ∧ Completed r data report := by
  have houtcomes := runStages_outcomes data hne (entryFor_hasAddress hne)
  have hstopped := (Tally.ofRuns_of_ok houtcomes.items).1
  refine ⟨_, ?_, houtcomes.completed hne (Sha256.hexDigest data)⟩
  rw [run_report [] hne hdata]
  exact conclude_report hstopped

/-- A stream out of order, a buffer that only starts like an image and an entry that no instruction
has. -/
def tangledRequest : Request where
  stream := FlowGraph.tangledStream
  data := some #[0x4D, 0x5A, 0x90, 0x74, 0x65, 0x78, 0x74, 0xFF]
  bitness := .bits32
  imageBase := none
  entry := some 17
  settings := Settings.standard

theorem run_completes_tangled : (tangledRequest.stream ≠ [] ∧
    tangledRequest.data = some #[0x4D, 0x5A, 0x90, 0x74, 0x65, 0x78, 0x74, 0xFF]) ∧
      ∃ report, (run [] tangledRequest).report = .ok report ∧
        Completed tangledRequest #[0x4D, 0x5A, 0x90, 0x74, 0x65, 0x78, 0x74, 0xFF] report :=
  ⟨⟨by decide, rfl⟩, run_completes tangledRequest _ (by decide) rfl⟩

end Analysis

end CodeAtlas
