import CodeAtlas.Reference
import CodeAtlas.Symbol

set_option autoImplicit false

namespace CodeAtlas

inductive Stage where
  | routines
  | graph
  | references
  | symbols
  | strings
  deriving Repr, DecidableEq

namespace Stage

def name : Stage → String
  | routines => "functions"
  | graph => "cfg"
  | references => "xrefs"
  | symbols => "symbols"
  | strings => "strings"

def all : List Stage := [routines, graph, references, symbols, strings]

def total : Nat := all.length

end Stage

structure Report where
  digest : String
  bitness : Bitness
  imageBase : Int
  entry : Int
  routines : List Routine
  graph : Option FlowGraph
  references : References
  symbols : SymbolTable
  strings : List Match
  completedStages : Int
  errors : Table String String
  deriving DecidableEq

namespace Report

def isComplete (r : Report) : Bool := r.completedStages = Stage.total && r.errors.size = 0

end Report

end CodeAtlas
