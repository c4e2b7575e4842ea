import CodeAtlas.Image.Header
import CodeAtlas.Proofs.Buffer
import CodeAtlas.Proofs.Sequence

set_option autoImplicit false

namespace CodeAtlas.Image

open Bytes

theorem Directory.stable_read? (position : Nat) : Stable (Directory.read? · position) :=
  (stable_word? 4 position).bind fun _ => (stable_word? 4 (position + 4)).bind fun _ =>
    stable_const _

theorem Section.stable_read? (position : Nat) : Stable (Section.read? · position) := by
  intro short full hstart s hs
  simp only [Section.read?, Option.bind_eq_bind, Option.bind_eq_some_iff] at hs ⊢
  obtain ⟨name, hname, virtualSize, hvirtualSize, virtualAddress, hvirtualAddress, rawSize, hrawSize,
    rawPointer, hrawPointer, characteristics, hcharacteristics, hs⟩ := hs
  -- the last field is readable, so the name does not run into the end of the file
  have hfits := word?_fits hcharacteristics
  rw [← string?_eq_of_isPrefix hstart (by decide) (by omega)] at hname
  exact ⟨name, hname, virtualSize, word?_of_isPrefix hstart hvirtualSize,
    virtualAddress, word?_of_isPrefix hstart hvirtualAddress,
    rawSize, word?_of_isPrefix hstart hrawSize, rawPointer, word?_of_isPrefix hstart hrawPointer,
    characteristics, word?_of_isPrefix hstart hcharacteristics, hs⟩

namespace Header

theorem stable_preamble? : Stable preamble? := by
  refine (stable_word? 4 0x3C).bind fun peOffset => (stable_word? 4 peOffset).bind fun mark => ?_
  by_cases hmark : mark ≠ signature
  · simp only [if_pos hmark]
    exact stable_const none
  · simp only [if_neg hmark]
    exact (stable_word? 2 _).bind fun _ => (stable_word? 2 _).bind fun _ =>
      (stable_word? 2 _).bind fun _ => (stable_word? 2 _).bind fun _ => stable_const _

theorem stable_readBase? (optional : Nat) (b : Bitness) : Stable (readBase? · optional b) := by
  cases b with
  | bits32 => exact stable_word? 4 _
  | bits64 => exact stable_word? 8 _

theorem readBase?_fits {data : Bytes} {optional base : Nat} {b : Bitness}
    (h : readBase? data optional b = some base) : optional + 32 ≤ data.size := by
  cases b with
  | bits32 =>
    have hfits : optional + 28 + 4 ≤ data.size := word?_fits h
    omega
  | bits64 =>
    have hfits : optional + 24 + 8 ≤ data.size := word?_fits h
    omega

structure Cut (short full : Header) : Prop where
  fields : short = { full with directories := short.directories, sections := short.sections }
  directories : short.directories <+: full.directories
  sections : short.sections <+: full.sections

section Prefix

variable {short full : Bytes} (hstart : short.toList <+: full.toList)

include hstart

theorem readSections_isPrefix (start count : Nat) :
    readSections short start count <+: readSections full start count :=
  cells_isPrefix (fun _ _ => Section.stable_read? _ short full hstart _) count

theorem readDirectories_isPrefix (position limit : Nat) :
    readDirectories short (position + 4) limit (short.u32? position) <+:
      readDirectories full (position + 4) limit (full.u32? position) := by
  cases hcount : short.u32? position with
  | none =>
    -- without the count the file ends before the first directory
    have hsize : short.size < position + 4 := word?_eq_none_iff.mp hcount
    have hrva : short.u32? (position + 4) = none := word?_eq_none_iff.mpr (by omega)
    have hempty : readDirectories short (position + 4) limit none = [] := by
      refine cells_eq (by simp) ?_ (Nat.zero_le _)
      simp [Directory.read?, hrva]
    rw [hempty]
    exact List.nil_prefix
  | some count =>
    rw [u32?, word?_of_isPrefix hstart hcount]
    exact cells_isPrefix (fun _ _ => Directory.stable_read? _ short full hstart _) _

theorem complete?_cut {p : Preamble} {h : Header} (hshort : complete? short p = some h) :
    ∃ whole, complete? full p = some whole ∧ h.Cut whole := by
  obtain ⟨base, hbase, hfields⟩ := Option.bind_eq_some_iff.mp hshort
  cases hfields
  have hfits := readBase?_fits hbase
  have hentry : full.u32? (p.peOffset + 24 + 16) = short.u32? (p.peOffset + 24 + 16) :=
    word?_eq_of_isPrefix hstart (by omega)
  have hwhole := stable_readBase? _ p.bitness short full hstart base hbase
  refine ⟨_, Option.bind_eq_some_iff.mpr ⟨base, hwhole, rfl⟩, ?_, ?_, ?_⟩
  · simp only [hentry]
  · exact readDirectories_isPrefix hstart _ _
  · exact readSections_isPrefix hstart _ _

/-- What the headers of a file say is said by the headers of every file that starts with it. -/
theorem parse?_cut {expected : Option Bitness} {h : Header}
    (hshort : parse? expected short = some h) :
    ∃ whole, parse? expected full = some whole ∧ h.Cut whole := by
  obtain ⟨p, hp, hcomplete⟩ := Option.bind_eq_some_iff.mp hshort
  split at hcomplete
  · next hmeets =>
    obtain ⟨whole, hwhole, hcut⟩ := complete?_cut hstart hcomplete
    refine ⟨whole, Option.bind_eq_some_iff.mpr ⟨p, stable_preamble? short full hstart p hp, ?_⟩, hcut⟩
    rw [if_pos hmeets, hwhole]
  · cases hcomplete

end Prefix

section Cut

variable {short full : Header} (hcut : short.Cut full)

include hcut

theorem Cut.offset? {rva : Int} {position : Nat} (h : short.offset? rva = some position) :
    full.offset? rva = some position := by
  obtain ⟨s, hs, rfl⟩ := Option.map_eq_some_iff.mp h
  rw [Header.offset?, sectionAt?, hcut.sections.find?_eq_some hs, Option.map_some]

theorem Cut.directory {index : Int} (h : (short.directory index).isAbsent = false) :
    full.directory index = short.directory index := by
  simp only [Header.directory] at h ⊢
  split at h
  · cases h
  · next hindex =>
    simp only [if_neg hindex, List.getD_eq_getElem?_getD] at h ⊢
    cases hget : short.directories[index.toNat]? with
    | none => simp [hget, Directory.isAbsent] at h
    | some d =>
      obtain ⟨rest, hrest⟩ := hcut.directories
      obtain ⟨hlt, -⟩ := List.getElem?_eq_some_iff.mp hget
      rw [← hrest, List.getElem?_append_left hlt, hget]

theorem Cut.bitness : short.bitness = full.bitness := by
  rw [hcut.fields]

theorem Cut.imageBase : short.imageBase = full.imageBase := by
  rw [hcut.fields]

end Cut

theorem complete?_bitness {data : Bytes} {p : Preamble} {h : Header}
    (hcomplete : complete? data p = some h) : h.bitness = p.bitness := by
  obtain ⟨base, _, hfields⟩ := Option.bind_eq_some_iff.mp hcomplete
  cases hfields
  rfl

theorem parse?_expected (b : Bitness) (data : Bytes) :
    parse? (some b) data = (parse? none data).filter (·.bitness = b) := by
  simp only [parse?, Option.bind_eq_bind, meets, ↓reduceIte]
  cases preamble? data with
  | none => rfl
  | some p =>
    simp only [Option.bind_some]
    cases hcomplete : complete? data p with
    | none => simp
    | some h =>
      have hbitness := complete?_bitness hcomplete
      by_cases hb : b = p.bitness
      · rw [Option.filter_some_pos (by simp [hbitness, hb])]
        simp [hb]
      · rw [Option.filter_some_neg (by simp [hbitness, Ne.symm hb])]
        simp [hb]

/-- A file that was cut off has the headers of the whole file, short of directories and sections at
the end, and finds addresses where the whole file has them. -/
theorem parse?_upTo (data : Bytes) (k : Int) (expected : Option Bitness) (h : Header)
    (hshort : parse? expected (data.upTo k) = some h) :
    ∃ whole, parse? expected data = some whole ∧ h.Cut whole ∧
      ∀ rva position, h.offset? rva = some position → whole.offset? rva = some position := by
  obtain ⟨whole, hwhole, hcut⟩ := parse?_cut (data.upTo_isPrefix k) hshort
  exact ⟨whole, hwhole, hcut, fun rva position => hcut.offset?⟩

/-- An image that ends within its second section. It declares more directories than its optional
header holds. -/
def oneSectionBytes : List UInt8 :=
  List.replicate 0x3C 0 ++ littleBytes 4 0x40 ++ littleBytes 4 0x4550 ++ littleBytes 2 0x14C ++
    littleBytes 2 2 ++ List.replicate 12 0 ++ littleBytes 2 0x68 ++ List.replicate 2 0 ++
    -- the optional header: magic number, entry, base and one directory
    littleBytes 2 0x10B ++ List.replicate 14 0 ++ littleBytes 4 0x1010 ++ List.replicate 8 0 ++
    littleBytes 4 0x400000 ++ List.replicate 60 0 ++ littleBytes 4 5 ++ littleBytes 4 0x1008 ++
    littleBytes 4 40 ++
    -- the sections
    List.replicate 8 0x61 ++ littleBytes 4 0x40 ++ littleBytes 4 0x1000 ++ littleBytes 4 0x30 ++
    littleBytes 4 0x110 ++ List.replicate 12 0 ++ littleBytes 4 0x20 ++
    List.replicate 8 0x62 ++ littleBytes 4 0x10 ++ littleBytes 4 0x1020 ++ littleBytes 4 0x10 ++
    littleBytes 4 0x140 ++ List.replicate 6 0

def twoSectionsImage : Bytes :=
  (oneSectionBytes ++ (List.replicate 6 0 ++ littleBytes 4 0x40)).toArray

def oneSectionHeader : Header where
  peOffset := 0x40
  machine := 0x14C
  sectionCount := 2
  optionalSize := 0x68
  bitness := .bits32
  imageBase := 0x400000
  entryRva := 0x1010
  directories := [⟨0x1008, 40⟩]
  sections := [⟨"aaaaaaaa", 0x40, 0x1000, 0x30, 0x110, 0x20⟩]

theorem parse?_oneSection :
    parse? none (twoSectionsImage.upTo oneSectionBytes.length) = some oneSectionHeader := by
  have hcut : twoSectionsImage.upTo oneSectionBytes.length = oneSectionBytes.toArray := by
    have hfront : ¬ (oneSectionBytes.length : Int) < 0 := by omega
    rw [upTo, if_neg hfront, Int.toNat_natCast]
    simp [twoSectionsImage]
  rw [hcut]
  decide +kernel

theorem parse?_upTo_oneSection :
    parse? none (twoSectionsImage.upTo oneSectionBytes.length) = some oneSectionHeader ∧
      ∃ whole, parse? none twoSectionsImage = some whole ∧ oneSectionHeader.Cut whole ∧
        ∀ rva position, oneSectionHeader.offset? rva = some position →
          whole.offset? rva = some position :=
  ⟨parse?_oneSection, parse?_upTo twoSectionsImage _ none oneSectionHeader parse?_oneSection⟩

end Header

end CodeAtlas.Image
