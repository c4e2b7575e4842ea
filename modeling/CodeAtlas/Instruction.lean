import CodeAtlas.Bytes
import CodeAtlas.Text.Basic
import CodeAtlas.Text.Case
import CodeAtlas.Text.Numeral

set_option autoImplicit false

namespace CodeAtlas

inductive OperandKind where
  | register
  | immediate8
  | immediate16
  | immediate32
  | immediate64
  | nearBranch16
  | nearBranch32
  | nearBranch64
  | farBranch
  | memory
  deriving Repr, DecidableEq

namespace OperandKind

def name : OperandKind → String
  | register => "register"
  | immediate8 => "immediate8"
  | immediate16 => "immediate16"
  | immediate32 => "immediate32"
  | immediate64 => "immediate64"
  | nearBranch16 => "near_branch16"
  | nearBranch32 => "near_branch32"
  | nearBranch64 => "near_branch64"
  | farBranch => "far_branch"
  | memory => "memory"

def all : List OperandKind :=
  [register, immediate8, immediate16, immediate32, immediate64, nearBranch16, nearBranch32,
   nearBranch64, farBranch, memory]

def ofName? (s : String) : Option OperandKind := all.find? (·.name = s)

def isImmediate : OperandKind → Bool
  | immediate8 | immediate16 | immediate32 | immediate64 => true
  | _ => false

def isResolvable : OperandKind → Bool
  | nearBranch32 | nearBranch64 => true
  | _ => false

end OperandKind

def registers64 : List String :=
  ["rax", "rbx", "rcx", "rdx", "rsi", "rdi", "rbp", "rsp",
   "r8", "r9", "r10", "r11", "r12", "r13", "r14", "r15"]

def registers32 : List String :=
  ["eax", "ebx", "ecx", "edx", "esi", "edi", "ebp", "esp",
   "r8d", "r9d", "r10d", "r11d", "r12d", "r13d", "r14d", "r15d"]

/-- The width of a general-purpose register in bits, and zero for anything else. -/
def registerWidth : Option String → Nat
  | none => 0
  | some name =>
    if Text.lower name ∈ registers64 then 64
    else if Text.lower name ∈ registers32 then 32
    else 0

def conditionalJumps : List String :=
  ["jo", "jno", "jb", "jnae", "jc", "jae", "jnb", "jnc", "je", "jz", "jne", "jnz", "jbe", "jna",
   "ja", "jnbe", "js", "jns", "jp", "jpe", "jnp", "jpo", "jl", "jnge", "jge", "jnl", "jle", "jng",
   "jg", "jnle", "jcxz", "jecxz", "jrcxz"]

structure Instruction where
  address : Int
  bytes : Bytes
  mnemonic : String
  operands : String
  kinds : List OperandKind
  registers : List (Option String)
  immediate : Option Int
  nearBranch : Option Int
  /-- The address of an operand given relative to the instruction pointer. -/
  ripTarget : Option Int
  fileOffset : Int
  length : Nat
  deriving Repr, DecidableEq

namespace Instruction

/-- An instruction from its parts. The mnemonic is put in lower case, and a negative length stands
for the number of bytes. -/
def ofParts (address : Int) (bytes : Bytes) (mnemonic operands : String) (kinds : List OperandKind)
    (registers : List (Option String)) (immediate nearBranch ripTarget : Option Int)
    (fileOffset length : Int) : Instruction where
  address := address
  bytes := bytes
  mnemonic := Text.lower mnemonic
  operands := operands
  kinds := kinds
  registers := registers
  immediate := immediate
  nearBranch := nearBranch
  ripTarget := ripTarget
  fileOffset := fileOffset
  length := if length < 0 then bytes.size else length.toNat

def endAddress (i : Instruction) : Int := i.address + i.length

def kind? (i : Instruction) (index : Int) : Option OperandKind :=
  if index < 0 then none else i.kinds[index.toNat]?

def register? (i : Instruction) (index : Int) : Option String :=
  if index < 0 then none else (i.registers[index.toNat]?).join

def branchTarget? (i : Instruction) : Option Int :=
  match i.kind? 0 with
  | some kind => if kind.isResolvable then i.nearBranch else none
  | none => none

def isReturn (i : Instruction) : Bool := i.mnemonic ∈ ["ret", "retn"]

def isUnconditionalJump (i : Instruction) : Bool := i.mnemonic ∈ ["jmp"]

def isConditionalJump (i : Instruction) : Bool := i.mnemonic ∈ conditionalJumps

def isJump (i : Instruction) : Bool := i.isUnconditionalJump || i.isConditionalJump

def isCall (i : Instruction) : Bool := i.mnemonic ∈ ["call", "lcall", "callf"]

def isNop (i : Instruction) : Bool := i.mnemonic ∈ ["nop", "fnop"]

def isTerminator (i : Instruction) : Bool := i.isJump || i.isReturn

def hasRegister (i : Instruction) (index : Int) (width : Nat) : Bool :=
  i.kind? index = some .register && registerWidth (i.register? index) = width

def text (i : Instruction) : String := Text.trim (i.mnemonic ++ " " ++ i.operands)

def line (i : Instruction) : String := Text.hex i.address ++ ": " ++ i.text

end Instruction

abbrev Stream := List Instruction

namespace Stream

def addressAt? (stream : Stream) (index : Nat) : Option Int := stream[index]?.map (·.address)

def hasAddress (stream : Stream) (a : Int) : Bool := stream.any (·.address = a)

def firstIndex? (stream : Stream) (a : Int) : Option Nat := stream.findIdx? (·.address = a)

def lastIndex? : Stream → Int → Option Nat
  | [], _ => none
  | i :: rest, a =>
    match lastIndex? rest a with
    | some n => some (n + 1)
    | none => if i.address = a then some 0 else none

end Stream

end CodeAtlas
