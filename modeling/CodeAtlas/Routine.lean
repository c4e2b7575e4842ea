import CodeAtlas.FlowGraph.Build
import CodeAtlas.FlowGraph.Walk
import CodeAtlas.Image.Export

/-!
# Routines

A routine is an address at which code is entered. Several heuristics nominate addresses, one after
the other: the first instruction, the exports, the imports, prologues and the targets of calls. An
address belongs to the first that nominates it.
-/

set_option autoImplicit false

namespace CodeAtlas

inductive RoutineSource where
  | entry
  | exported
  | imported
  | prologue
  | callTarget
  deriving Repr, DecidableEq

namespace RoutineSource

def name : RoutineSource → String
  | entry => "entry"
  | exported => "export"
  | imported => "import"
  | prologue => "prologue"
  | callTarget => "call_target"

def all : List RoutineSource := [entry, exported, imported, prologue, callTarget]

def ofName? (s : String) : Option RoutineSource := all.find? (·.name = s)

end RoutineSource

structure Routine where
  address : Int
  source : RoutineSource
  name : Option String
  instructionCount : Int
  isImported : Bool
  isExported : Bool
  isEntryPoint : Bool
  graph : Option FlowGraph
  deriving DecidableEq

namespace Routine

def bare (address : Int) (source : RoutineSource) : Routine where
  address := address
  source := source
  name := none
  instructionCount := 0
  isImported := false
  isExported := false
  isEntryPoint := false
  graph := none

def givenName? (r : Routine) : Option String := r.name.filter (· ≠ "")

def line (r : Routine) : String :=
  "Function @ " ++ Text.hex r.address ++ ": " ++ r.givenName?.getD "unnamed" ++ " (" ++
    Text.decimal r.instructionCount ++ " instrs, src=" ++ r.source.name ++ ")"

def atStart (address : Int) : Routine :=
  { bare address .entry with name := some "_entry", isEntryPoint := true }

def ofExport (base : Nat) (e : Image.Export) : Routine :=
  { bare (base + e.rva : Nat) .exported with name := some e.displayName, isExported := true }

def ofImport (i : Image.Import) : Routine :=
  { bare i.address .imported with name := some i.displayName, isImported := true }

/-- Whether a stream starts with a prologue: a register pushed before a move between registers, a
number taken from a register, the frame pointer set, or a register cleared. -/
def startsPrologue : Stream → Bool
  | [] => false
  | i :: rest =>
    if i.mnemonic = "push" then
      i.hasRegister 0 64 &&
        match rest with
        | [] => false
        | j :: _ =>
          j.mnemonic = "mov" && j.kind? 0 = some .register && j.kind? 1 = some .register
    else if i.mnemonic = "sub" then i.hasRegister 0 64 && (i.kind? 1).any (·.isImmediate)
    else if i.mnemonic = "mov" then i.register? 0 = some "rbp" && i.register? 1 = some "rsp"
    else if i.mnemonic = "xor" then i.hasRegister 0 32 && i.hasRegister 1 32
    else false

def matchesPrologue (stream : Stream) (index : Int) : Bool :=
  if index < 0 then false else startsPrologue (stream.drop index.toNat)

def prologueAddresses : Stream → List Int
  | [] => []
  | i :: rest =>
    if startsPrologue (i :: rest) then i.address :: prologueAddresses rest
    else prologueAddresses rest

def callTarget? (i : Instruction) : Option Int := if i.isCall then i.branchTarget? else none

def callTargets (stream : Stream) : List Int := ascending (stream.filterMap callTarget?)

structure Search where
  exports : Bool
  imports : Bool
  prologues : Bool
  callGraph : Bool
  bitness : Bitness
  graphLimit : Option Int
  deriving Repr, DecidableEq

def tableNominations (search : Search) (stream : Stream) (data : Option Bytes) : List Routine :=
  (stream.head?.map fun i => atStart i.address).toList ++
    match data with
    | none => []
    | some data =>
      match Image.Header.parse? none data with
      | none => []
      | some h =>
        (if search.exports then
          ((Image.exports data (some h)).filter (!·.isForwarder)).map (ofExport h.imageBase)
        else []) ++
        (if search.imports then (Image.imports data search.bitness (some h)).map ofImport else [])

def prologueNominations (search : Search) (stream : Stream) : List Routine :=
  if search.prologues then (prologueAddresses stream).map (bare · .prologue) else []

def callNominations (search : Search) (stream : Stream) : List Routine :=
  if search.callGraph then (callTargets stream).map (bare · .callTarget) else []

def nominations (search : Search) (stream : Stream) (data : Option Bytes) : List Routine :=
  tableNominations search stream data ++ prologueNominations search stream ++
    callNominations search stream

/-- Routines by address, each address with its first nomination. -/
def elect (rs : List Routine) : Table Int Routine :=
  Table.firstClaims (rs.map fun r => (r.address, r))

def withGraph (stream : Stream) (r : Routine) : Routine :=
  match FlowGraph.build stream r.address with
  | .error _ => r
  | .ok g =>
    { r with
      graph := some g
      instructionCount := Block.totalCount (g.depthFirst r.address) }

def withinLimit (limit : Option Int) (position : Nat) : Bool :=
  match limit with
  | none => true
  | some bound => position < bound

def attachGraphs (stream : Stream) (limit : Option Int) (rs : List Routine) : List Routine :=
  rs.zipIdx.map fun e => if withinLimit limit e.2 then e.1.withGraph stream else e.1

def elected (search : Search) (stream : Stream) (data : Option Bytes) : List Routine :=
  sortBy (·.address) (elect (nominations search stream data)).values

/-- The routines of a stream in ascending order of address. The tables of the image are read from
the buffer, if there is one. -/
def discover (search : Search) (stream : Stream) (data : Option Bytes) :
    Except InputError (List Routine) :=
  if stream.isEmpty then .error .emptyStream
  else .ok (attachGraphs stream search.graphLimit (elected search stream data))

def sizeLimit : Nat := 0x10000

/-- The number of bytes up to the first return, added to those counted so far. Counting stops when
the limit is passed. -/
def sizeFrom (counted : Nat) : Stream → Nat
  | [] => counted
  | i :: rest =>
    let total := counted + i.length
    if i.isReturn || sizeLimit < total then total else sizeFrom total rest

def size (stream : Stream) (a : Int) : Nat :=
  match stream.firstIndex? a with
  | none => 0
  | some index => sizeFrom 0 (stream.drop index)

def graphEvents (stream : Stream) (r : Routine) : List Event :=
  match FlowGraph.build stream r.address with
  | .error e => [.graphFailed r.address e.message]
  | .ok _ => FlowGraph.buildEvents stream r.address

def importEvents (search : Search) (data : Option Bytes) : List Event :=
  match data with
  | none => []
  | some data =>
    match Image.Header.parse? none data with
    | none => []
    | some h => if search.imports then Image.importEvents data search.bitness (some h) else []

/-- What searching for prologues reports: the number of addresses that no table has. -/
def prologueEvents (search : Search) (stream : Stream) (data : Option Bytes) : List Event :=
  if search.prologues then
    let before := tableNominations search stream data
    [.prologuesScanned
      ((elect (before ++ prologueNominations search stream)).size - (elect before).size)]
  else []

def discoverEvents (search : Search) (stream : Stream) (data : Option Bytes) : List Event :=
  match discover search stream data with
  | .error _ => []
  | .ok rs =>
    let tried := (elected search stream data).zipIdx.filter fun e =>
      withinLimit search.graphLimit e.2
    importEvents search data ++ prologueEvents search stream data ++
      tried.flatMap (fun e => graphEvents stream e.1) ++
      [.graphsAttached (rs.filter (·.graph.isSome)).length rs.length, .routinesFound rs.length]

end Routine

end CodeAtlas
