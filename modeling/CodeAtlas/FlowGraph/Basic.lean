import CodeAtlas.Table
import CodeAtlas.Text.Numeral

set_option autoImplicit false

namespace CodeAtlas

structure Block where
  startAddress : Int
  /-- The address of the last instruction. -/
  endAddress : Int
  startIndex : Int
  endIndex : Int
  successors : List Int
  predecessors : List Int
  isEntry : Bool
  isExit : Bool
  deriving Repr, DecidableEq

namespace Block

def instructionCount (b : Block) : Int := b.endIndex - b.startIndex + 1

def totalCount (bs : List Block) : Int := bs.foldr (fun b n => b.instructionCount + n) 0

def covers (b : Block) (a : Int) : Bool := b.startAddress ≤ a && a ≤ b.endAddress

def line (b : Block) : String :=
  "Block @ " ++ Text.hex b.startAddress ++ ": [" ++ Text.decimal b.startIndex ++ ", " ++
    Text.decimal b.endIndex ++ "] (" ++ Text.decimal b.instructionCount ++ " instrs)"

end Block

structure FlowGraph where
  blocks : Table Int Block
  entryPoints : List Int
  deriving DecidableEq

namespace FlowGraph

def block? (g : FlowGraph) (key : Int) : Option Block := g.blocks.get? key

def blockCovering? (g : FlowGraph) (a : Int) : Option Block := g.blocks.values.find? (·.covers a)

def blocksAt (g : FlowGraph) (keys : List Int) : List Block := keys.filterMap g.block?

def blockCount (g : FlowGraph) : Nat := g.blocks.size

def instructionCount (g : FlowGraph) : Int := Block.totalCount g.blocks.values

def edgeCount (g : FlowGraph) : Nat :=
  g.blocks.values.foldr (fun b n => b.successors.length + n) 0

def line (g : FlowGraph) : String :=
  "CFG: " ++ Text.decimal g.blockCount ++ " blocks, " ++ Text.decimal g.instructionCount ++
    " instructions"

end FlowGraph

end CodeAtlas
