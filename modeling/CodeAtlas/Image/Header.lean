import CodeAtlas.Bitness
import CodeAtlas.Bytes
import CodeAtlas.Journal
import CodeAtlas.Sequence

/-!
# Image headers

The headers of a portable executable image: where it wants to be loaded, where it starts, its
directories and its sections. The buffer is not trusted: what cannot be read is left out, and
without a signature, a known magic number and a base there is no header at all.
-/

set_option autoImplicit false

namespace CodeAtlas.Image

structure Section where
  name : String
  virtualSize : Nat
  virtualAddress : Nat
  rawSize : Nat
  rawPointer : Nat
  characteristics : Nat
  deriving Repr, DecidableEq

namespace Section

def headerSize : Nat := 40

def read? (data : Bytes) (position : Nat) : Option Section := do
  let name ← data.string? position 8
  let virtualSize ← data.u32? (position + 8)
  let virtualAddress ← data.u32? (position + 12)
  let rawSize ← data.u32? (position + 16)
  let rawPointer ← data.u32? (position + 20)
  let characteristics ← data.u32? (position + 36)
  return ⟨name, virtualSize, virtualAddress, rawSize, rawPointer, characteristics⟩

/-- The flags of code and of memory that may be executed. -/
def executableFlags : Nat := 0x20000020

def isExecutable (s : Section) : Bool := s.characteristics &&& executableFlags ≠ 0

def span (s : Section) : Nat := max s.virtualSize s.rawSize

def contains (s : Section) (rva : Int) : Bool :=
  s.virtualAddress ≤ rva && rva < s.virtualAddress + s.span

def codeSize (s : Section) : Nat :=
  if s.virtualSize = 0 then s.rawSize else min s.rawSize s.virtualSize

def code (s : Section) (data : Bytes) : Bytes :=
  data.extract s.rawPointer (s.rawPointer + s.codeSize)

end Section

structure Directory where
  rva : Nat
  size : Nat
  deriving Repr, DecidableEq

namespace Directory

def read? (data : Bytes) (position : Nat) : Option Directory := do
  let rva ← data.u32? position
  let size ← data.u32? (position + 4)
  return ⟨rva, size⟩

def isAbsent (d : Directory) : Bool := d.rva = 0 || d.size = 0

end Directory

structure Header where
  peOffset : Nat
  machine : Nat
  sectionCount : Nat
  optionalSize : Nat
  bitness : Bitness
  imageBase : Nat
  entryRva : Nat
  directories : List Directory
  sections : List Section
  deriving Repr, DecidableEq

namespace Header

def optionalOffset (h : Header) : Nat := h.peOffset + 24

def entryPoint (h : Header) : Nat := h.imageBase + h.entryRva

/-- The directory with a number; one that the file does not have is empty. -/
def directory (h : Header) (index : Int) : Directory :=
  if index < 0 then ⟨0, 0⟩ else h.directories.getD index.toNat ⟨0, 0⟩

def sectionAt? (h : Header) (rva : Int) : Option Section := h.sections.find? (·.contains rva)

def offset? (h : Header) (rva : Int) : Option Nat :=
  (h.sectionAt? rva).map fun s => s.rawPointer + (rva - s.virtualAddress).toNat

def sectionName? (h : Header) (rva : Int) : Option String := (h.sectionAt? rva).map (·.name)

def signature : Nat := 0x4550

def maxDirectories : Nat := 16

/-- What stands before the fields whose place depends on the width. -/
structure Preamble where
  peOffset : Nat
  machine : Nat
  sectionCount : Nat
  optionalSize : Nat
  bitness : Bitness
  deriving Repr, DecidableEq

def preamble? (data : Bytes) : Option Preamble := do
  let peOffset ← data.u32? 0x3C
  let mark ← data.u32? peOffset
  if mark ≠ signature then none
  else do
    let machine ← data.u16? (peOffset + 4)
    let sectionCount ← data.u16? (peOffset + 6)
    let optionalSize ← data.u16? (peOffset + 20)
    let magic ← data.u16? (peOffset + 24)
    let bitness ← Bitness.ofMagic? magic
    return ⟨peOffset, machine, sectionCount, optionalSize, bitness⟩

/-- The directories between two positions. The count that the file declares, the room in the
optional header and the most that are read all bound their number. -/
def readDirectories (data : Bytes) (start limit : Nat) (count : Option Nat) : List Directory :=
  cells (fun i => Directory.read? data (start + i * 8))
    (min (count.getD maxDirectories) (min maxDirectories ((limit - start) / 8)))

def readSections (data : Bytes) (start count : Nat) : List Section :=
  cells (fun i => Section.read? data (start + i * Section.headerSize)) count

def readBase? (data : Bytes) (optional : Nat) : Bitness → Option Nat
  | .bits32 => data.u32? (optional + 28)
  | .bits64 => data.u64? (optional + 24)

def directoryCountOffset : Bitness → Nat
  | .bits32 => 92
  | .bits64 => 108

def complete? (data : Bytes) (p : Preamble) : Option Header := do
  let optional := p.peOffset + 24
  let count := optional + directoryCountOffset p.bitness
  let imageBase ← readBase? data optional p.bitness
  return {
    peOffset := p.peOffset
    machine := p.machine
    sectionCount := p.sectionCount
    optionalSize := p.optionalSize
    bitness := p.bitness
    imageBase := imageBase
    entryRva := (data.u32? (optional + 16)).getD 0
    directories :=
      readDirectories data (count + 4) (optional + p.optionalSize) (data.u32? count)
    sections := readSections data (optional + p.optionalSize) p.sectionCount }

def meets (expected : Option Bitness) (found : Bitness) : Bool :=
  match expected with
  | none => true
  | some b => b = found

def parse? (expected : Option Bitness) (data : Bytes) : Option Header := do
  let p ← preamble? data
  if meets expected p.bitness then complete? data p else none

def parseEvents (expected : Option Bitness) (data : Bytes) : List Event :=
  match preamble? data, expected with
  | some p, some b => if p.bitness = b then [] else [.bitnessMismatch p.bitness b]
  | _, _ => []

end Header

end CodeAtlas.Image
