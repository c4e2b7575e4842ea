import CodeAtlas.FlowGraph.Basic
import CodeAtlas.InputError
import CodeAtlas.Instruction
import CodeAtlas.Journal
import CodeAtlas.Sequence

/-!
# Building flow graphs

A stream is cut at the entry, after every jump and return, and at every known jump target. A cut
at an address where no instruction starts is dropped. A block runs from its first instruction to
the next cut, the next jump or return, or the end of the stream.
-/

set_option autoImplicit false

namespace CodeAtlas.FlowGraph

def cuts : Stream → List Int
  | [] => []
  | i :: rest =>
    (if i.isTerminator then (rest.head?.map (·.address)).toList else []) ++
      (if i.isJump then i.branchTarget?.toList else []) ++ cuts rest

def boundaries (stream : Stream) (entry : Int) : List Int := ascending (entry :: cuts stream)

/-- The boundaries at which an instruction starts, in ascending order: the keys of the blocks. -/
def starts (stream : Stream) (entry : Int) : List Int :=
  (boundaries stream entry).filter fun a => (stream.lastIndex? a).isSome

def reaches (limit : Option Int) (a : Int) : Bool :=
  match limit with
  | none => false
  | some bound => bound ≤ a

/-- The number of instructions from the front of a stream that belong to one block: up to the first
that ends a block, and before the first that reaches the limit. -/
def extent (limit : Option Int) : Stream → Nat
  | [] => 0
  | i :: rest =>
    if reaches limit i.address then 0
    else if i.isTerminator then 1
    else extent limit rest + 1

structure Span where
  first : Nat
  last : Nat
  deriving Repr, DecidableEq

/-- The span of the block that starts at an index and ends before the limit. It holds at least the
instruction at the index. -/
def spanFrom (stream : Stream) (limit : Option Int) (first : Nat) : Span :=
  ⟨first, first + (extent limit (stream.drop first) - 1)⟩

def spans (stream : Stream) : List Int → List (Int × Span)
  | [] => []
  | a :: rest =>
    (a, spanFrom stream rest.head? ((stream.lastIndex? a).getD 0)) :: spans stream rest

/-- The addresses to which control may pass after the instruction at an index, the next instruction
before the target of a jump. -/
def exits (stream : Stream) (index : Nat) : List Int :=
  let next := (stream.addressAt? (index + 1)).toList
  match stream[index]? with
  | none => []
  | some tail =>
    if tail.isUnconditionalJump then tail.branchTarget?.toList
    else if tail.isConditionalJump then next ++ tail.branchTarget?.toList
    else if tail.isReturn then []
    else next

def successors (stream : Stream) (keys : List Int) (span : Span) : List Int :=
  ((exits stream span.last).filter fun a => decide (a ∈ keys)).eraseDups

def predecessors (edges : List (Int × List Int)) (key : Int) : List Int :=
  (edges.filter fun e => decide (key ∈ e.2)).map Prod.fst

def blockOf (stream : Stream) (entry : Int) (edges : List (Int × List Int)) (key : Int)
    (span : Span) (next : List Int) : Block where
  startAddress := key
  endAddress := (stream.addressAt? span.last).getD key
  startIndex := span.first
  endIndex := span.last
  successors := next
  predecessors := predecessors edges key
  isEntry := key = entry
  isExit := next.isEmpty

def blocksOf (stream : Stream) (entry : Int) : List (Int × Block) :=
  let keys := starts stream entry
  let placed := spans stream keys
  let edges := placed.map fun e => (e.1, successors stream keys e.2)
  placed.map fun e =>
    (e.1, blockOf stream entry edges e.1 e.2 (successors stream keys e.2))

def build (stream : Stream) (entry : Int) : Except InputError FlowGraph :=
  if stream.isEmpty then .error .emptyStream
  else if (stream.lastIndex? entry).isNone then .error (.noInstructionAt entry)
  else .ok ⟨Table.ofList (blocksOf stream entry), [entry]⟩

def skippedBoundaries (stream : Stream) (entry : Int) : Nat :=
  (boundaries stream entry).length - (starts stream entry).length

def buildEvents (stream : Stream) (entry : Int) : List Event :=
  match build stream entry with
  | .error _ => []
  | .ok g =>
    let skipped := skippedBoundaries stream entry
    (if skipped = 0 then [] else [.boundariesSkipped skipped]) ++ [.graphBuilt entry g.blockCount]

end CodeAtlas.FlowGraph
