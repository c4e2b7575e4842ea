import CodeAtlas.Proofs.ControlFlow
import CodeAtlas.Proofs.Sequence
import CodeAtlas.Proofs.Sweep
import Mathlib.Data.List.Pairwise

/-!
# Loaded code

Code is cut out of the file by one rule and found again from an address by another: a section is
decoded as far as both its file and its memory reach, and an address belongs to the first section
of the table whose larger extent holds it. Where sections lie apart and no address wraps around,
the two rules agree, and the instructions of an image ascend without overlap.
-/

set_option autoImplicit false

namespace CodeAtlas

namespace Image

namespace Section

def Apart (s t : Section) : Prop :=
  ∀ rva : Int, ¬ (s.contains rva = true ∧ t.contains rva = true)

instance : Std.Symm Apart := ⟨fun _ _ h rva hboth => h rva hboth.symm⟩

theorem contains_iff (s : Section) (rva : Int) :
    s.contains rva = true ↔ s.virtualAddress ≤ rva ∧ rva < s.virtualAddress + s.span := by
  simp [contains]

theorem apart_iff (s t : Section) : s.Apart t ↔ s.span = 0 ∨ t.span = 0 ∨
    s.virtualAddress + s.span ≤ t.virtualAddress ∨
    t.virtualAddress + t.span ≤ s.virtualAddress := by
  simp only [Apart, contains_iff]
  constructor
  · intro h
    -- two stretches that meet share the later of their starts
    have hlater := h (max s.virtualAddress t.virtualAddress : Nat)
    omega
  · intro h rva hboth
    omega

instance (s t : Section) : Decidable (s.Apart t) := decidable_of_iff _ (apart_iff s t).symm

theorem Apart.end_le {s t : Section} (h : s.Apart t) (ht : 0 < t.span)
    (hle : s.virtualAddress ≤ t.virtualAddress) : s.virtualAddress + s.span ≤ t.virtualAddress := by
  rw [apart_iff] at h
  omega

theorem codeSize_le_span (s : Section) : s.codeSize ≤ s.span := by
  unfold codeSize span
  split <;> omega

theorem size_code_le (s : Section) (data : Bytes) : (s.code data).size ≤ s.codeSize := by
  rw [code, Array.size_extract]
  omega

theorem extract_code (s : Section) (data : Bytes) {start stop : Nat}
    (h : stop ≤ (s.code data).size) :
    (s.code data).extract start stop =
      data.extract (s.rawPointer + start) (s.rawPointer + stop) := by
  have hle := s.size_code_le data
  rw [code, Array.extract_extract, Nat.min_eq_left (by omega)]

end Section

namespace Header

def SectionsApart (h : Header) : Prop := h.sections.Pairwise Section.Apart

def SectionsFit (h : Header) : Prop :=
  ∀ s ∈ h.sections, h.imageBase + s.virtualAddress + s.span ≤ Listing.addressSpace

instance (h : Header) : Decidable h.SectionsApart := inferInstanceAs (Decidable (List.Pairwise ..))

instance (h : Header) : Decidable h.SectionsFit := inferInstanceAs (Decidable (∀ s ∈ h.sections, _))

theorem SectionsApart.sectionAt?_eq {h : Header} (hapart : h.SectionsApart) {s : Section}
    (hs : s ∈ h.sections) {rva : Int} (hrva : s.contains rva = true) :
    h.sectionAt? rva = some s := by
  have hsome : (h.sections.find? (·.contains rva)).isSome = true := by
    rw [List.find?_isSome]
    exact ⟨s, hs, hrva⟩
  obtain ⟨t, ht⟩ := Option.isSome_iff_exists.mp hsome
  have hfirst := List.find?_some ht
  have hsame : t = s := by
    by_contra hne
    exact hapart.forall (List.mem_of_find?_eq_some ht) hs hne rva ⟨hfirst, hrva⟩
  rw [sectionAt?, ht, hsame]

theorem SectionsApart.offset?_eq {h : Header} (hapart : h.SectionsApart) {s : Section}
    (hs : s ∈ h.sections) {k : Nat} (hk : k < s.span) :
    h.offset? (s.virtualAddress + k : Int) = some (s.rawPointer + k) := by
  have hrva : s.contains (s.virtualAddress + k) = true := by
    rw [Section.contains_iff]
    omega
  rw [offset?, hapart.sectionAt?_eq hs hrva, Option.map_some]
  congr 2
  omega

end Header

end Image

namespace Sweep

open Image

theorem addressAt_eq {address position : Nat} (h : address + position < Listing.addressSpace) :
    addressAt address position = (address + position : Nat) := by
  rw [addressAt, Int.emod_eq_of_lt (by omega) (by omega)]
  omega

/-! ## One section -/

section OneSection

variable (listing : Listing) (data : Bytes) (h : Header) (s : Section)

def sectionPlaced : List Placed :=
  (bytewise listing (s.code data).size (h.imageBase + s.virtualAddress : Nat) 0).placed

def sectionInstruction (p : Placed) : Instruction :=
  instructionOf (s.code data) (h.imageBase + s.virtualAddress : Nat) h.bitness s.rawPointer p

theorem decodeSection_eq : decodeSection listing data h s =
    (sectionPlaced listing data h s).map (sectionInstruction data h s) := by
  rw [decodeSection, decode, ofCode, sweepFrom_eq_bytewise]
  rfl

variable {listing data h s} {p : Placed} (hp : p ∈ sectionPlaced listing data h s)

include hp

theorem sectionPlaced_fits : p.position + p.entry.size ≤ (s.code data).size :=
  entryAt?_fits (bytewise_listed _ _ _ _ p hp).2

theorem sectionPlaced_lt_span : p.position + p.entry.size ≤ s.span := by
  have hfits := sectionPlaced_fits hp
  have hcode := s.size_code_le data
  have hspan := s.codeSize_le_span
  omega

theorem sectionInstruction_bytes : (sectionInstruction data h s p).bytes =
    data.extract (s.rawPointer + p.position) (s.rawPointer + (p.position + p.entry.size)) :=
  s.extract_code data (sectionPlaced_fits hp)

theorem sectionInstruction_length : (sectionInstruction data h s p).length = p.entry.size :=
  instructionOf_length (sectionPlaced_fits hp)

theorem sectionInstruction_address
    (hfit : h.imageBase + s.virtualAddress + s.span ≤ Listing.addressSpace) :
    (sectionInstruction data h s p).address =
      (h.imageBase + s.virtualAddress + p.position : Nat) := by
  have hspan := sectionPlaced_lt_span hp
  have hpos := p.entry.size_pos
  exact addressAt_eq (by omega)

theorem sectionInstruction_endAddress
    (hfit : h.imageBase + s.virtualAddress + s.span ≤ Listing.addressSpace) :
    (sectionInstruction data h s p).endAddress =
      (h.imageBase + s.virtualAddress + p.position + p.entry.size : Nat) := by
  rw [Instruction.endAddress, sectionInstruction_address hp hfit, sectionInstruction_length hp]
  omega

end OneSection

section Fitting

variable {listing : Listing} {data : Bytes} {h : Header} {s : Section}
  (hfit : h.imageBase + s.virtualAddress + s.span ≤ Listing.addressSpace)

include hfit

theorem decodeSection_apart : (decodeSection listing data h s).Pairwise fun i j =>
    i.endAddress ≤ j.address := by
  rw [decodeSection_eq, List.pairwise_map]
  refine (bytewise_apart _ _ _ _).imp_of_mem ?_
  intro p q hp hq hpq
  rw [sectionInstruction_endAddress hp hfit, sectionInstruction_address hq hfit]
  omega

theorem decodeSection_within {i : Instruction} (hi : i ∈ decodeSection listing data h s) :
    (h.imageBase + s.virtualAddress : Nat) ≤ i.address ∧ i.address < i.endAddress ∧
      i.endAddress ≤ (h.imageBase + s.virtualAddress + s.span : Nat) := by
  rw [decodeSection_eq] at hi
  obtain ⟨p, hp, rfl⟩ := List.mem_map.mp hi
  have hspan := sectionPlaced_lt_span hp
  have hpos := p.entry.size_pos
  rw [sectionInstruction_endAddress hp hfit, sectionInstruction_address hp hfit]
  omega

end Fitting

/-! ## All sections -/

theorem mem_codeSections_iff {h : Header} {s : Section} :
    s ∈ codeSections h ↔ s ∈ h.sections ∧ s.isExecutable = true ∧ s.rawSize ≠ 0 := by
  simp [codeSections, sortBy]

theorem mem_codeSections {h : Header} {s : Section} (hs : s ∈ codeSections h) :
    s ∈ h.sections ∧ 0 < s.span := by
  obtain ⟨hmem, _, hraw⟩ := mem_codeSections_iff.mp hs
  refine ⟨hmem, ?_⟩
  unfold Section.span
  omega

theorem codeSections_apart {h : Header} (hapart : h.SectionsApart) :
    (codeSections h).Pairwise fun s t => s.virtualAddress + s.span ≤ t.virtualAddress := by
  have hsorted := sortBy_pairwise (fun s : Section => (s.virtualAddress : Int)) h.sections
  have hperm := List.mergeSort_perm h.sections fun s t =>
    decide ((s.virtualAddress : Int) ≤ t.virtualAddress)
  have hpairs := (hperm.pairwise_iff (R := Section.Apart) fun hst => symm hst).mpr hapart
  refine ((hsorted.and hpairs).filter _).imp_of_mem ?_
  intro s t _ ht hst
  exact hst.2.end_le (mem_codeSections ht).2 (by omega)

def Listed (listing : Listing) (h : Header) (i : Instruction) : Prop :=
  ∃ e, listing.get? i.address = some e ∧
    i = e.instruction h.bitness i.address i.bytes i.fileOffset

/-- The bytes of the instruction stand in the file, at the offset that its address maps to. -/
def InFile (data : Bytes) (h : Header) (i : Instruction) : Prop :=
  ∃ offset : Nat, i.fileOffset = offset ∧ data.extract offset (offset + i.length) = i.bytes ∧
    h.offset? (i.address - h.imageBase) = some offset

def InCode (data : Bytes) (h : Header) (i : Instruction) : Prop :=
  ∃ s ∈ h.sections, s.isExecutable = true ∧ s.rawSize ≠ 0 ∧
    (h.imageBase + s.virtualAddress : Nat) ≤ i.address ∧
      i.endAddress ≤ (h.imageBase + s.virtualAddress + (s.code data).size : Nat)

def Covers (stream : Stream) (a : Nat) : Prop := ∃ i ∈ stream, i.address ≤ a ∧ a < i.endAddress

structure Loaded (listing : Listing) (data : Bytes) (h : Header) (stream : Stream) : Prop where
  ascending : stream.Ascending
  apart : stream.Pairwise fun i j => i.endAddress ≤ j.address
  in_file : ∀ i ∈ stream, InFile data h i
  listed : ∀ i ∈ stream, Listed listing h i
  in_code : ∀ i ∈ stream, InCode data h i
  exhaustive : ∀ s ∈ h.sections, s.isExecutable = true → s.rawSize ≠ 0 →
    ∀ k < (s.code data).size, Covers stream (h.imageBase + s.virtualAddress + k) ∨
      entryAt? listing (s.code data).size (h.imageBase + s.virtualAddress : Nat) k = none

theorem mem_decodeSections {listing : Listing} {data : Bytes} {h : Header} {i : Instruction} :
    i ∈ decodeSections listing data h ↔ ∃ s ∈ codeSections h,
      ∃ p ∈ sectionPlaced listing data h s, sectionInstruction data h s p = i := by
  simp only [decodeSections, List.mem_flatMap, decodeSection_eq, List.mem_map]

theorem decodeSections_listed {listing : Listing} {data : Bytes} {h : Header} {i : Instruction}
    (hi : i ∈ decodeSections listing data h) : Listed listing h i := by
  obtain ⟨s, _, p, hp, rfl⟩ := mem_decodeSections.mp hi
  exact ⟨p.entry, entryAt?_listed (bytewise_listed _ _ _ _ p hp).2, rfl⟩

section AllSections

variable {listing : Listing} {data : Bytes} {h : Header} (hapart : h.SectionsApart)
  (hfit : h.SectionsFit)

include hapart hfit

theorem decodeSections_apart : (decodeSections listing data h).Pairwise fun i j =>
    i.endAddress ≤ j.address := by
  rw [decodeSections, List.pairwise_flatMap]
  constructor
  · intro s hs
    exact decodeSection_apart (hfit s (mem_codeSections hs).1)
  · refine (codeSections_apart hapart).imp_of_mem ?_
    intro s t hs ht hst i hi j hj
    have hends := (decodeSection_within (hfit s (mem_codeSections hs).1) hi).2.2
    have hstarts := (decodeSection_within (hfit t (mem_codeSections ht).1) hj).1
    omega

theorem decodeSections_ascending : (decodeSections listing data h).Ascending := by
  refine (decodeSections_apart hapart hfit).imp_of_mem ?_
  intro i j hi _ hij
  obtain ⟨s, hs, hmem⟩ := List.mem_flatMap.mp hi
  have hpos := (decodeSection_within (hfit s (mem_codeSections hs).1) hmem).2.1
  omega

theorem decodeSections_inFile {i : Instruction} (hi : i ∈ decodeSections listing data h) :
    InFile data h i := by
  obtain ⟨s, hs, p, hp, rfl⟩ := mem_decodeSections.mp hi
  have hs := (mem_codeSections hs).1
  have hspan := sectionPlaced_lt_span hp
  have hpos := p.entry.size_pos
  refine ⟨s.rawPointer + p.position, rfl, ?_, ?_⟩
  · rw [sectionInstruction_bytes hp, sectionInstruction_length hp, Nat.add_assoc]
  · have hrva : (sectionInstruction data h s p).address - h.imageBase =
        s.virtualAddress + p.position := by
      rw [sectionInstruction_address hp (hfit s hs)]
      omega
    rw [hrva]
    exact hapart.offset?_eq hs (by omega)

omit hapart in
theorem decodeSections_inCode {i : Instruction} (hi : i ∈ decodeSections listing data h) :
    InCode data h i := by
  obtain ⟨s, hs, p, hp, rfl⟩ := mem_decodeSections.mp hi
  obtain ⟨hmem, hcode, hraw⟩ := mem_codeSections_iff.mp hs
  have hfits := sectionPlaced_fits hp
  refine ⟨s, hmem, hcode, hraw, ?_, ?_⟩
  · rw [sectionInstruction_address hp (hfit s hmem)]
    omega
  · rw [sectionInstruction_endAddress hp (hfit s hmem)]
    omega

omit hapart in
theorem decodeSections_exhaustive {s : Section} (hs : s ∈ codeSections h) {k : Nat}
    (hk : k < (s.code data).size) :
    Covers (decodeSections listing data h) (h.imageBase + s.virtualAddress + k) ∨
      entryAt? listing (s.code data).size (h.imageBase + s.virtualAddress : Nat) k = none := by
  have hends := hfit s (mem_codeSections hs).1
  rcases bytewise_exhaustive listing (s.code data).size (h.imageBase + s.virtualAddress : Nat) 0
    (Nat.zero_le k) hk with ⟨p, hp, hstart, hend⟩ | hnone
  · refine Or.inl ⟨_, mem_decodeSections.mpr ⟨s, hs, p, hp, rfl⟩, ?_, ?_⟩
    · rw [sectionInstruction_address hp hends]
      omega
    · rw [sectionInstruction_endAddress hp hends]
      omega
  · exact Or.inr hnone

end AllSections

/-- Decoding the sections of an image establishes what the analyses assume of a stream. -/
theorem decodeSections_loaded (listing : Listing) (data : Bytes) (h : Header)
    (hapart : h.SectionsApart) (hfit : h.SectionsFit) :
    Loaded listing data h (decodeSections listing data h) where
  ascending := decodeSections_ascending hapart hfit
  apart := decodeSections_apart hapart hfit
  in_file := fun _ hi => decodeSections_inFile hapart hfit hi
  listed := fun _ hi => decodeSections_listed hi
  in_code := fun _ hi => decodeSections_inCode hfit hi
  exhaustive := fun _ hs hcode hraw _ hk =>
    decodeSections_exhaustive hfit (mem_codeSections_iff.mpr ⟨hs, hcode, hraw⟩) hk

/-- Two sections with code against the order of their addresses, one longer in the file than in
memory and one longer than the file, and a section without code between them. -/
def reversedHeader : Header where
  peOffset := 0
  machine := 0x8664
  sectionCount := 3
  optionalSize := 0
  bitness := .bits64
  imageBase := 0x400000
  entryRva := 0x1000
  directories := []
  sections := [⟨".late", 0x10, 0x2000, 8, 4, 0x20⟩, ⟨".data", 0x800, 0x1800, 0, 0, 0x40⟩,
    ⟨".early", 2, 0x1000, 4, 0, 0x20⟩]

/-- A listing with an instruction that does not fit into the end of its section. -/
def reversedListing : Listing := Table.ofList
  [(0x401000, ⟨1, "push", "rbp", false, [], by decide⟩),
   (0x401001, ⟨2, "nop", "", false, [], by decide⟩),
   (0x402001, ⟨1, "ret", "", false, [], by decide⟩)]

theorem decodeSections_loaded_reversed :
    (reversedHeader.SectionsApart ∧ reversedHeader.SectionsFit) ∧
      Loaded reversedListing #[0x55, 0x66, 0x90, 0, 0, 0xC3, 0] reversedHeader
        (decodeSections reversedListing #[0x55, 0x66, 0x90, 0, 0, 0xC3, 0] reversedHeader) :=
  ⟨by decide, decodeSections_loaded reversedListing #[0x55, 0x66, 0x90, 0, 0, 0xC3, 0]
    reversedHeader (by decide) (by decide)⟩

end Sweep

end CodeAtlas
