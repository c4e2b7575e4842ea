import CodeAtlas.Binary
import CodeAtlas.Report.Basic
import CodeAtlas.Settings.Basic

/-!
# Analysis

An analysis of a binary runs five stages one after the other. A stage that fails leaves its part of
the report empty and does not disturb the others; a stage that rejects its input ends the
analysis.
-/

set_option autoImplicit false

namespace CodeAtlas

inductive StageError where
  /-- The input breaks a precondition; the analysis ends. -/
  | rejected (e : InputError)
  /-- The stage has failed; the others go on. -/
  | failed (reason : String)
  deriving Repr, DecidableEq

structure StageRun (α : Type) where
  outcome : Except StageError α
  events : List Event

namespace StageRun

variable {α : Type}

def ofResult (result : Except InputError α) (events : List Event) : StageRun α :=
  match result with
  | .ok a => ⟨.ok a, events⟩
  | .error e => ⟨.error (.rejected e), []⟩

def ofError (e : StageError) : StageRun α := ⟨.error e, []⟩

def valueOr (default : α) (run : StageRun α) : α :=
  match run.outcome with
  | .ok a => a
  | .error _ => default

def items (count : α → Nat) (run : StageRun α) : Except StageError Nat := run.outcome.map count

end StageRun

structure StageRuns where
  routines : StageRun (List Routine)
  graph : StageRun (Option FlowGraph)
  references : StageRun References
  symbols : StageRun SymbolTable
  strings : StageRun (List Match)

namespace StageRuns

def items (runs : StageRuns) : Stage → Except StageError Nat
  | .routines => runs.routines.items List.length
  | .graph => runs.graph.items fun g => (g.map FlowGraph.blockCount).getD 0
  | .references => runs.references.items Table.size
  | .symbols => runs.symbols.items Table.size
  | .strings => runs.strings.items List.length

def events (runs : StageRuns) : Stage → List Event
  | .routines => runs.routines.events
  | .graph => runs.graph.events
  | .references => runs.references.events
  | .symbols => runs.symbols.events
  | .strings => runs.strings.events

def withError (runs : StageRuns) (e : StageError) : Stage → StageRuns
  | .routines => { runs with routines := .ofError e }
  | .graph => { runs with graph := .ofError e }
  | .references => { runs with references := .ofError e }
  | .symbols => { runs with symbols := .ofError e }
  | .strings => { runs with strings := .ofError e }

end StageRuns

structure Progress where
  stage : Stage
  completed : Nat
  total : Nat
  deriving Repr, DecidableEq

structure Tally where
  completed : Nat
  errors : List (Stage × String)
  progress : List Progress
  events : List Event
  stopped : Option InputError
  deriving Repr, DecidableEq

namespace Tally

def start : Tally := ⟨0, [], [], [], none⟩

def record (runs : StageRuns) (t : Tally) (stage : Stage) : Tally :=
  match t.stopped with
  | some _ => t
  | none =>
    match runs.items stage with
    | .ok items =>
      { t with
        completed := t.completed + 1
        progress := t.progress ++ [⟨stage, t.completed + 1, Stage.total⟩]
        events := t.events ++ runs.events stage ++ [.stageCompleted stage.name items] }
    | .error (.failed reason) =>
      { t with
        errors := t.errors ++ [(stage, reason)]
        progress := t.progress ++ [⟨stage, t.completed, Stage.total⟩]
        events := t.events ++ runs.events stage ++ [.stageFailed stage.name reason] }
    | .error (.rejected e) =>
      { t with events := t.events ++ runs.events stage, stopped := some e }

def ofRuns (runs : StageRuns) : Tally := Stage.all.foldl (record runs) start

def reasons (t : Tally) : Table String String :=
  Table.ofList (t.errors.map fun e => (e.1.name, e.2))

end Tally

structure Request where
  stream : Stream
  data : Option Bytes
  bitness : Bitness
  /-- The base of the image; the settings tell it if it is not given. -/
  imageBase : Option Int
  /-- The address at which the program starts; the first instruction if it is not given. -/
  entry : Option Int
  settings : Settings

namespace Request

def ofBinary (b : Binary) (settings : Settings) : Request where
  stream := b.stream
  data := some b.data
  bitness := b.header.bitness
  imageBase := some b.header.imageBase
  entry := some b.header.entryPoint
  settings := settings

def base (r : Request) : Int := r.imageBase.getD r.settings.references.imageBase

def routineSearch (r : Request) : Routine.Search where
  exports := r.settings.routines.exports
  imports := r.settings.routines.imports
  prologues := r.settings.routines.prologues
  callGraph := r.settings.routines.callGraph
  bitness := r.bitness
  graphLimit := r.settings.routines.graphLimit

def symbolSearch (r : Request) : SymbolTable.Search where
  bitness := r.bitness
  imports := r.settings.symbols.imports
  exports := r.settings.symbols.exports
  strings := r.settings.symbols.strings
  minLength := r.settings.symbols.minLength
  skipBelow := r.settings.symbols.skipBelow

end Request

namespace Analysis

/-- The entry of a stream that starts with the given address: the wanted one if an instruction is
there, otherwise the first. -/
def entryOf (stream : Stream) (first : Int) : Option Int → Int
  | none => first
  | some wanted => if stream.hasAddress wanted then wanted else first

def entryEvents (stream : Stream) (first : Int) : Option Int → List Event
  | none => []
  | some wanted => if stream.hasAddress wanted then [] else [.entryNotDecoded wanted first]

def runStages (r : Request) (data : Bytes) (entry : Int) : StageRuns :=
  let references := References.build r.base r.settings.references.ripRelative r.stream
  { routines :=
      .ofResult (Routine.discover r.routineSearch r.stream (some data))
        (Routine.discoverEvents r.routineSearch r.stream (some data))
    graph :=
      .ofResult ((FlowGraph.build r.stream entry).map some) (FlowGraph.buildEvents r.stream entry)
    references := ⟨.ok references, References.buildEvents references⟩
    symbols :=
      .ofResult (SymbolTable.resolve r.symbolSearch r.stream (some data))
        (SymbolTable.resolveEvents r.symbolSearch r.stream (some data))
    strings := ⟨.ok (Scan.allStrings r.settings.scans.minLength r.settings.scans.wide data), []⟩ }

structure Conclusion where
  report : Except InputError Report
  progress : List Progress
  journal : List JournalEntry

def reportOf (digest : String) (bitness : Bitness) (base entry : Int) (runs : StageRuns)
    (t : Tally) : Report where
  digest := digest
  bitness := bitness
  imageBase := base
  entry := entry
  routines := runs.routines.valueOr []
  graph := runs.graph.valueOr none
  references := runs.references.valueOr Table.empty
  symbols := runs.symbols.valueOr Table.empty
  strings := runs.strings.valueOr []
  completedStages := t.completed
  errors := t.reasons

def conclude (digest : String) (bitness : Bitness) (base entry : Int) (runs : StageRuns) :
    Conclusion :=
  let t := Tally.ofRuns runs
  { report :=
      match t.stopped with
      | some e => .error e
      | none => .ok (reportOf digest bitness base entry runs t)
    progress := t.progress
    journal := t.events.map fun e => ⟨e, some (Sha256.shortDigest digest)⟩ }

abbrev Faults := List (Stage × StageError)

def withFaults (faults : Faults) (runs : StageRuns) : StageRuns :=
  faults.foldl (fun rs f => rs.withError f.2 f.1) runs

def run (faults : Faults) (r : Request) : Conclusion :=
  match r.stream, r.data with
  | [], _ => ⟨.error .emptyStream, [], []⟩
  | _ :: _, none => ⟨.error .missingBuffer, [], []⟩
  | first :: _, some data =>
    let entry := entryOf r.stream first.address r.entry
    let opening := (entryEvents r.stream first.address r.entry).map fun e => ⟨e, none⟩
    let c := conclude (Sha256.hexDigest data) r.bitness r.base entry
      (withFaults faults (runStages r data entry))
    { c with journal := opening ++ c.journal }

def runFile (faults : Faults) (files : FileLookup) (listing : Listing) (settings : Settings)
    (path : String) : Conclusion :=
  match Binary.load files listing path with
  | .error e => ⟨.error e, [], []⟩
  | .ok b =>
    let c := run faults (Request.ofBinary b settings)
    { c with journal := ((Binary.loadEvents listing b).map fun e => ⟨e, none⟩) ++ c.journal }

end Analysis

end CodeAtlas
