import CodeAtlas.Instruction
import CodeAtlas.Journal
import CodeAtlas.Sequence
import CodeAtlas.Table

set_option autoImplicit false

namespace CodeAtlas

inductive ReferenceKind where
  | jump
  | conditionalJump
  | call
  /-- A 64-bit number put into a register. -/
  | addressLoad
  | ripRelative
  deriving Repr, DecidableEq

namespace ReferenceKind

def name : ReferenceKind → String
  | jump => "jump"
  | conditionalJump => "cond_jump"
  | call => "call"
  | addressLoad => "mov_imm64"
  | ripRelative => "rip_relative"

def all : List ReferenceKind := [jump, conditionalJump, call, addressLoad, ripRelative]

def ofName? (s : String) : Option ReferenceKind := all.find? (·.name = s)

end ReferenceKind

structure Reference where
  source : Int
  target : Int
  kind : ReferenceKind
  description : Option String
  deriving Repr, DecidableEq

namespace Reference

def line (r : Reference) : String :=
  Text.hex r.source ++ " -> " ++ Text.hex r.target ++ " [" ++ r.kind.name ++ "]"

def ofInstruction (i : Instruction) (target : Int) (kind : ReferenceKind) : Reference :=
  ⟨i.address, target, kind, some i.text⟩

end Reference

def Instruction.branchKind? (i : Instruction) : Option ReferenceKind :=
  if i.isUnconditionalJump then some .jump
  else if i.isConditionalJump then some .conditionalJump
  else if i.isCall then some .call
  else none

def defaultImageBase : Int := 0x140000000

/-- Whether a number looks like an address of an image with the given base: it is not in the first
page and lies within four gibibytes of the base. -/
def isLikelyAddress (base value : Int) : Bool :=
  0x1000 ≤ value && base ≤ value && value < base + 0x100000000

namespace Reference

def ofBranch? (i : Instruction) : Option Reference := do
  let kind ← i.branchKind?
  let target ← i.branchTarget?
  return ofInstruction i target kind

def ofLoad? (base : Int) (i : Instruction) : Option Reference :=
  if i.mnemonic ∈ ["mov", "movabs"] ∧ i.hasRegister 0 64 ∧ i.kind? 1 = some .immediate64 then
    match i.immediate with
    | some value => if isLikelyAddress base value then some (ofInstruction i value .addressLoad)
      else none
    | none => none
  else none

def ofRipOperand? (i : Instruction) : Option Reference :=
  if i.mnemonic ∈ ["lea", "mov"] ∧ i.kind? 0 = some .register ∧ i.kind? 1 = some .memory then
    i.ripTarget.map fun target => ofInstruction i target .ripRelative
  else none

end Reference

abbrev References := Table Int (List Reference)

namespace References

/-- The references of a stream: branches, then loads of addresses, then, where they are wanted,
operands relative to the instruction pointer. -/
def found (base : Int) (ripRelative : Bool) (stream : Stream) : List Reference :=
  stream.filterMap Reference.ofBranch? ++ stream.filterMap (Reference.ofLoad? base) ++
    if ripRelative then stream.filterMap Reference.ofRipOperand? else []

def ofList (rs : List Reference) : References := Table.group (rs.map fun r => (r.source, r))

def build (base : Int) (ripRelative : Bool) (stream : Stream) : References :=
  ofList (found base ripRelative stream)

def outgoing (refs : References) (a : Int) : List Reference := (refs.get? a).getD []

def toList (refs : References) : List Reference := refs.values.flatten

def incoming (refs : References) (a : Int) : List Reference :=
  (toList refs).filter (·.target = a)

/-- For every target the addresses that refer to it, from the lowest to the highest. -/
def reverseIndex (refs : References) : Table Int (List Int) :=
  Table.group ((ascending refs.keys).flatMap fun source =>
    (outgoing refs source).map fun r => (r.target, source))

def buildEvents (refs : References) : List Event :=
  [.referencesBuilt refs.size (toList refs).length]

end References

end CodeAtlas
