import CodeAtlas.Analysis
import CodeAtlas.Proofs.Table
import Mathlib.Data.List.Induction

set_option autoImplicit false

namespace CodeAtlas

theorem Stage.mem_all (stage : Stage) : stage ∈ all := by
  cases stage <;> decide

/-! ## How a stage ends -/

namespace StageRun

variable {α : Type}

def error? (run : StageRun α) : Option StageError :=
  match run.outcome with
  | .ok _ => none
  | .error e => some e

theorem items_cases (count : α → Nat) (run : StageRun α) :
    (run.error? = none ∧ ∃ n, run.items count = .ok n) ∨
      ∃ e, run.error? = some e ∧ run.items count = .error e := by
  unfold error? items
  cases run.outcome with
  | ok a => exact Or.inl ⟨rfl, count a, rfl⟩
  | error e => exact Or.inr ⟨e, rfl, rfl⟩

end StageRun

namespace StageRuns

def error? (runs : StageRuns) : Stage → Option StageError
  | .routines => runs.routines.error?
  | .graph => runs.graph.error?
  | .references => runs.references.error?
  | .symbols => runs.symbols.error?
  | .strings => runs.strings.error?

def completes (runs : StageRuns) (stage : Stage) : Bool := (runs.error? stage).isNone

/-- The error of a stage that lets the others go on. -/
def failure? (runs : StageRuns) (stage : Stage) : Option (Stage × String) :=
  match runs.error? stage with
  | some (.failed reason) => some (stage, reason)
  | _ => none

def GoesOn (runs : StageRuns) (stages : List Stage) : Prop :=
  ∀ stage ∈ stages, ∀ e, runs.error? stage ≠ some (.rejected e)

theorem items_cases (runs : StageRuns) (stage : Stage) :
    (runs.error? stage = none ∧ ∃ n, runs.items stage = .ok n) ∨
      ∃ e, runs.error? stage = some e ∧ runs.items stage = .error e := by
  cases stage with
  | routines => exact runs.routines.items_cases _
  | graph => exact runs.graph.items_cases _
  | references => exact runs.references.items_cases _
  | symbols => exact runs.symbols.items_cases _
  | strings => exact runs.strings.items_cases _

theorem error?_of_items {runs : StageRuns} {stage : Stage} {n : Nat}
    (h : runs.items stage = .ok n) : runs.error? stage = none := by
  rcases runs.items_cases stage with ⟨hnone, _⟩ | ⟨e, _, herror⟩
  · exact hnone
  · rw [h] at herror
    cases herror

end StageRuns

variable {runs : StageRuns} {stages : List Stage}

/-! ## Reports of progress -/

/-- One report for each stage, in their order, with the number of stages completed so far. -/
def Progressed (runs : StageRuns) (stages : List Stage) (progress : List Progress) : Prop :=
  progress.length = stages.length ∧ ∀ (i : Nat) (stage : Stage), stages[i]? = some stage →
    progress[i]? = some ⟨stage, (stages.take (i + 1)).countP runs.completes, 5⟩

theorem Progressed.concat {progress : List Progress} (h : Progressed runs stages progress)
    (stage : Stage) : Progressed runs (stages ++ [stage])
      (progress ++ [⟨stage, (stages ++ [stage]).countP runs.completes, 5⟩]) := by
  obtain ⟨hlength, hreports⟩ := h
  refine ⟨by rw [List.length_append, List.length_append, hlength]; rfl, ?_⟩
  intro i s hs
  rcases Nat.lt_trichotomy i stages.length with hlt | rfl | hgt
  · rw [List.getElem?_append_left hlt] at hs
    rw [List.getElem?_append_left (hlength ▸ hlt), hreports i s hs,
      List.take_append_of_le_length hlt]
  · rw [List.getElem?_concat_length] at hs
    cases hs
    rw [← hlength, List.getElem?_concat_length, hlength, List.take_of_length_le (by simp)]
  · rw [List.getElem?_eq_none (by simp; omega)] at hs
    cases hs

/-! ## The tally -/

namespace Tally

variable {t : Tally}

structure Recorded (runs : StageRuns) (stages : List Stage) (t : Tally) : Prop where
  stopped : t.stopped = none
  completed : t.completed = stages.countP runs.completes
  errors : t.errors = stages.filterMap runs.failure?
  progress : Progressed runs stages t.progress

/-- What one more stage adds, unless it ends the analysis. -/
theorem record_adds (hstopped : t.stopped = none) {stage : Stage}
    (hgoes : ∀ e, runs.error? stage ≠ some (.rejected e)) :
    (record runs t stage).stopped = none ∧
      (record runs t stage).completed = t.completed + [stage].countP runs.completes ∧
      (record runs t stage).errors = t.errors ++ [stage].filterMap runs.failure? ∧
      (record runs t stage).progress =
        t.progress ++ [⟨stage, t.completed + [stage].countP runs.completes, 5⟩] := by
  have htotal : Stage.total = 5 := rfl
  rcases runs.items_cases stage with ⟨herror, n, hitems⟩ | ⟨e, herror, hitems⟩
  · simp [record, hstopped, hitems, htotal, StageRuns.completes, StageRuns.failure?, herror]
  · cases e with
    | rejected e => exact absurd herror (hgoes e)
    | failed reason =>
      simp [record, hstopped, hitems, htotal, StageRuns.completes, StageRuns.failure?, herror]

theorem record_recorded (h : Recorded runs stages t) {stage : Stage}
    (hgoes : ∀ e, runs.error? stage ≠ some (.rejected e)) :
    Recorded runs (stages ++ [stage]) (record runs t stage) := by
  obtain ⟨hstopped, hcompleted, herrors, hprogress⟩ := record_adds h.stopped hgoes
  constructor
  case stopped => exact hstopped
  case completed => rw [hcompleted, List.countP_append, h.completed]
  case errors => rw [herrors, List.filterMap_append, h.errors]
  case progress =>
    rw [hprogress, h.completed, ← List.countP_append]
    exact h.progress.concat stage

theorem foldl_recorded (hgoes : runs.GoesOn stages) :
    Recorded runs stages (stages.foldl (record runs) start) := by
  induction stages using List.reverseRecOn with
  | nil => exact ⟨rfl, rfl, rfl, rfl, by simp⟩
  | append_singleton stages stage ih =>
    rw [List.foldl_append]
    refine record_recorded (ih ?_) ?_
    · exact fun s hs => hgoes s (List.mem_append_left _ hs)
    · exact hgoes stage (by simp)

theorem completes_or_fails (hgoes : runs.GoesOn stages) :
    stages.countP runs.completes + (stages.filterMap runs.failure?).length = stages.length := by
  induction stages with
  | nil => rfl
  | cons stage rest ih =>
    obtain ⟨hstage, hrest⟩ := List.forall_mem_cons.mp hgoes
    have hlater := ih hrest
    cases herror : runs.error? stage with
    | none =>
      have hfailure : runs.failure? stage = none := by simp [StageRuns.failure?, herror]
      rw [List.countP_cons_of_pos (by simp [StageRuns.completes, herror]),
        List.filterMap_cons_none hfailure, List.length_cons]
      omega
    | some e =>
      cases e with
      | rejected e => exact absurd herror (hstage e)
      | failed reason =>
        have hfailure : runs.failure? stage = some (stage, reason) := by
          simp [StageRuns.failure?, herror]
        rw [List.countP_cons_of_neg (by simp [StageRuns.completes, herror]),
          List.filterMap_cons_some hfailure, List.length_cons, List.length_cons]
        omega

/-! ## The end of an analysis -/

theorem record_stops (hstopped : t.stopped = none) {stage : Stage} {e : InputError}
    (herror : runs.error? stage = some (.rejected e)) :
    (record runs t stage).stopped = some e ∧ (record runs t stage).progress = t.progress := by
  rcases runs.items_cases stage with ⟨hnone, _⟩ | ⟨e', hsome, hitems⟩
  · rw [herror] at hnone
    cases hnone
  · rw [herror] at hsome
    cases hsome
    simp [record, hstopped, hitems]

theorem foldl_stopped {e : InputError} (hstopped : t.stopped = some e) (stages : List Stage) :
    stages.foldl (record runs) t = t := by
  induction stages with
  | nil => rfl
  | cons stage rest ih =>
    have hsame : record runs t stage = t := by simp only [record, hstopped]
    rw [List.foldl_cons, hsame, ih]

theorem ofRuns_ended {k : Nat} {stage : Stage} {e : InputError} (hstage : Stage.all[k]? = some stage)
    (herror : runs.error? stage = some (.rejected e)) (hgoes : runs.GoesOn (Stage.all.take k)) :
    (ofRuns runs).stopped = some e ∧ Progressed runs (Stage.all.take k) (ofRuns runs).progress := by
  have hrecorded := foldl_recorded hgoes
  obtain ⟨hstopped, hprogress⟩ := record_stops hrecorded.stopped herror
  have hsplit : Stage.all = Stage.all.take k ++ stage :: Stage.all.drop (k + 1) := by
    obtain ⟨hlt, hget⟩ := List.getElem?_eq_some_iff.mp hstage
    rw [← hget, ← List.drop_eq_getElem_cons hlt, List.take_append_drop]
  have hlast : ofRuns runs = record runs ((Stage.all.take k).foldl (record runs) start) stage := by
    rw [ofRuns]
    conv => lhs; rw [hsplit]
    rw [List.foldl_append, List.foldl_cons, foldl_stopped hstopped]
  rw [hlast, hprogress]
  exact ⟨hstopped, hrecorded.progress⟩

end Tally

end CodeAtlas
