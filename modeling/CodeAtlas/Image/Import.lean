import CodeAtlas.Image.Header

set_option autoImplicit false

namespace CodeAtlas.Image

inductive Wanted where
  | name (s : String)
  | ordinal (n : Nat)
  | unknown
  deriving Repr, DecidableEq

structure Import where
  library : String
  rva : Nat
  address : Nat
  wanted : Wanted
  deriving Repr, DecidableEq

namespace Import

def displayName (i : Import) : String :=
  match i.wanted with
  | .name s => s
  | .ordinal n => "ordinal_" ++ Text.decimal n
  | .unknown => "imp_" ++ i.library

end Import

structure Descriptor where
  lookupRva : Nat
  nameRva : Nat
  slotsRva : Nat
  deriving Repr, DecidableEq

namespace Descriptor

def size : Nat := 20

/-- The descriptor at a position. One without a lookup table ends the import table. -/
def read? (data : Bytes) (position : Nat) : Option Descriptor := do
  let lookupRva ← data.u32? position
  let nameRva ← data.u32? (position + 12)
  let slotsRva ← data.u32? (position + 16)
  if lookupRva = 0 then none else some ⟨lookupRva, nameRva, slotsRva⟩

end Descriptor

namespace Header

def maxLibraries : Nat := 1024

def maxSlots : Nat := 4096

def nonEmpty? (s : Option String) : Option String := s.filter (· ≠ "")

def slot? (data : Bytes) (width position : Nat) : Option Nat :=
  (data.word? width position).filter (· ≠ 0)

/-- What a lookup entry asks for: an ordinal if its top bit is set, otherwise the name after a
two-byte hint. -/
def wantedBy (h : Header) (data : Bytes) (thunk : Nat) : Wanted :=
  if thunk.testBit (h.bitness.bits - 1) then .ordinal (thunk % 0x10000)
  else
    match nonEmpty? (data.stringAt? ((h.offset? (thunk % 0x80000000 : Nat)).map (· + 2))) with
    | some s => .name s
    | none => .unknown

/-- The import of slot `k` of a library. The lookup entry tells what it asks for; if there is none,
the slot itself does. -/
def importAt? (h : Header) (data : Bytes) (library : String) (lookup : Option Nat)
    (slots slotsRva k : Nat) : Option Import := do
  let width := h.bitness.bytes
  let slot ← slot? data width (slots + k * width)
  let thunk := (lookup.bind fun p => slot? data width (p + k * width)).getD slot
  let rva := slotsRva + k * width
  return ⟨library, rva, h.imageBase + rva, h.wantedBy data thunk⟩

def importsFrom (h : Header) (data : Bytes) (d : Descriptor) : List Import :=
  let library := (nonEmpty? (data.stringAt? (h.offset? d.nameRva))).getD "unknown"
  match h.offset? d.slotsRva with
  | none => []
  | some slots =>
    cells (h.importAt? data library (h.offset? d.lookupRva) slots d.slotsRva) maxSlots

def importTable? (h : Header) : Option Nat :=
  if (h.directory 1).isAbsent then none else h.offset? (h.directory 1).rva

def descriptors (h : Header) (data : Bytes) : List Descriptor :=
  match h.importTable? with
  | none => []
  | some table => cells (fun i => Descriptor.read? data (table + i * Descriptor.size)) maxLibraries

def imports (h : Header) (data : Bytes) : List Import :=
  (h.descriptors data).flatMap (h.importsFrom data)

end Header

/-- Headers that are known already, or those of the buffer if it has the expected width. -/
def headerFor? (known : Option Header) (expected : Option Bitness) (data : Bytes) :
    Option Header :=
  known.orElse fun _ => Header.parse? expected data

def imports (data : Bytes) (bitness : Bitness) (known : Option Header) : List Import :=
  match headerFor? known (some bitness) data with
  | none => []
  | some h => if h.bitness = bitness then h.imports data else []

def importEvents (data : Bytes) (bitness : Bitness) (known : Option Header) : List Event :=
  match headerFor? known (some bitness) data with
  | none => Header.parseEvents (some bitness) data
  | some h =>
    let table := h.directory 1
    if h.bitness = bitness && !table.isAbsent && (h.offset? table.rva).isNone then
      [.importTableUnmapped table.rva]
    else []

end CodeAtlas.Image
