import CodeAtlas.Bitness
import CodeAtlas.Instruction
import CodeAtlas.Table

/-!
# Listings

A listing says what the disassembler makes of the bytes at an address. Its entries carry the
operands as the disassembler names them; `Entry.instruction` turns an entry into an instruction of
code of a given width.
-/

set_option autoImplicit false

namespace CodeAtlas.Listing

inductive Operand where
  | register (name : Option String)
  /-- A signed number of the given number of bytes. -/
  | immediate (value : Int) (size : Nat)
  | memory (base : Option String) (displacement : Int)
  | other
  deriving Repr, DecidableEq

structure Entry where
  size : Nat
  mnemonic : String
  operandText : String
  /-- Whether the disassembler counts the instruction among the jumps or the calls. -/
  isBranch : Bool
  operands : List Operand
  size_pos : 0 < size
  deriving Repr, DecidableEq

def wordSpace (bytes : Nat) : Nat := 1 <<< (bytes * 8)

def addressSpace : Nat := wordSpace 8

def farBranches : List String := ["ljmp", "lcall"]

/-- The kind of an immediate operand. The size is that of the operand, not of its encoding: only
`movabs` holds eight bytes. -/
def immediateKind (mnemonic : String) (size : Nat) : OperandKind :=
  if size = 1 then .immediate8
  else if size = 2 then .immediate16
  else if size = 8 ∧ mnemonic = "movabs" then .immediate64
  else .immediate32

structure Reading where
  kinds : List OperandKind
  registers : List (Option String)
  immediate : Option Int
  nearBranch : Option Int
  ripTarget : Option Int
  deriving Repr, DecidableEq

namespace Reading

def empty : Reading := ⟨[], [], none, none, none⟩

def add (entry : Entry) (bitness : Bitness) (address : Int) (r : Reading) (index : Nat) :
    Operand → Reading
  | .register name =>
    { r with kinds := r.kinds ++ [.register], registers := r.registers ++ [name] }
  | .immediate value size =>
    let r := { r with registers := r.registers ++ [none] }
    if entry.mnemonic ∈ farBranches then { r with kinds := r.kinds ++ [.farBranch] }
    else if entry.isBranch ∧ index = 0 then
      match bitness with
      | .bits32 =>
        { r with kinds := r.kinds ++ [.nearBranch32], nearBranch := some (value % wordSpace 4) }
      | .bits64 =>
        { r with kinds := r.kinds ++ [.nearBranch64], nearBranch := some (value % wordSpace 8) }
    else
      let bytes := if size = 0 then 8 else size
      { r with
        kinds := r.kinds ++ [immediateKind entry.mnemonic size]
        immediate := r.immediate.or (some (value % wordSpace bytes)) }
  | .memory base displacement =>
    let r := { r with kinds := r.kinds ++ [.memory], registers := r.registers ++ [none] }
    if base = some "rip" then
      { r with ripTarget := some ((address + entry.size + displacement) % addressSpace) }
    else r
  | .other => { r with registers := r.registers ++ [none] }

def ofEntry (entry : Entry) (bitness : Bitness) (address : Int) : Reading :=
  entry.operands.zipIdx.foldl (fun r o => r.add entry bitness address o.2 o.1) empty

end Reading

def Entry.instruction (entry : Entry) (bitness : Bitness) (address : Int) (bytes : Bytes)
    (fileOffset : Int) : Instruction :=
  let r := Reading.ofEntry entry bitness address
  { address := address
    bytes := bytes
    mnemonic := Text.lower entry.mnemonic
    operands := entry.operandText
    kinds := r.kinds
    registers := r.registers
    immediate := r.immediate
    nearBranch := r.nearBranch
    ripTarget := r.ripTarget
    fileOffset := fileOffset
    length := bytes.size }

end CodeAtlas.Listing

namespace CodeAtlas

abbrev Listing := Table Int Listing.Entry

end CodeAtlas
