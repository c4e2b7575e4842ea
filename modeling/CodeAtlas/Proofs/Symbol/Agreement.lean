import CodeAtlas.Proofs.Image.Header
import CodeAtlas.Proofs.Symbol

set_option autoImplicit false

namespace CodeAtlas

theorem Image.Header.parse?_of_width {b : Bitness} {data : Bytes}
    (hwidth : ∀ h, parse? none data = some h → h.bitness = b) :
    parse? (some b) data = parse? none data := by
  rw [parse?_expected]
  cases hparse : parse? none data with
  | none => rfl
  | some h => exact Option.filter_some_pos (by simp [hwidth h hparse])

namespace SymbolTable

/-- The search for routines with the same tables, with prologues and without calls. -/
def Search.forRoutines (search : Search) (limit : Option Int) : Routine.Search where
  exports := search.exports
  imports := search.imports
  prologues := true
  callGraph := false
  bitness := search.bitness
  graphLimit := limit

section Agreement

variable {search : Search} {limit : Option Int} {stream : Stream} {data : Bytes}

theorem Claims.nominates (hstrings : search.strings = false)
    (hwidth : ∀ h, Image.Header.parse? none data = some h → h.bitness = search.bitness)
    {source : SymbolKind} {place : Nat} {s : Symbol}
    (h : Claims search stream data source place s) : ∃ source place r,
      Routine.Nominates (search.forRoutines limit) stream (some data) source place r ∧
        r.address = s.address := by
  have hparse := Image.Header.parse?_of_width hwidth
  cases h with
  | imported hused hheader hi =>
    rw [hparse] at hheader
    exact ⟨_, _, _, Routine.Nominates.imported hused rfl hheader hi, rfl⟩
  | exported hused hheader he hroutine =>
    rw [hparse] at hheader
    exact ⟨_, _, _, Routine.Nominates.exported hused rfl hheader he hroutine, rfl⟩
  | entry hi => exact ⟨_, _, _, Routine.Nominates.entry hi, rfl⟩
  | prologue hi hmatches => exact ⟨_, _, _, Routine.Nominates.prologue rfl hi hmatches, rfl⟩
  | string hused =>
    rw [hstrings] at hused
    cases hused

theorem claims_of_nominates
    (hwidth : ∀ h, Image.Header.parse? none data = some h → h.bitness = search.bitness)
    {source : RoutineSource} {place : Nat} {r : Routine}
    (h : Routine.Nominates (search.forRoutines limit) stream (some data) source place r) :
    ∃ source place s, Claims search stream data source place s ∧ s.address = r.address := by
  have hparse := Image.Header.parse?_of_width hwidth
  cases h with
  | entry hi => exact ⟨_, _, _, Claims.entry hi, rfl⟩
  | exported hused hdata hheader he hroutine =>
    cases hdata
    rw [← hparse] at hheader
    exact ⟨_, _, _, Claims.exported hused hheader he hroutine, rfl⟩
  | imported hused hdata hheader hi =>
    cases hdata
    rw [← hparse] at hheader
    exact ⟨_, _, _, Claims.imported hused hheader hi, rfl⟩
  | prologue _ hi hmatches => exact ⟨_, _, _, Claims.prologue hi hmatches, rfl⟩
  | callTarget hused => cases hused

end Agreement

/-- Symbols without strings and routines without calls have the same addresses. -/
theorem resolve_addresses_discover (search : Search) (limit : Option Int) (stream : Stream)
    (data : Bytes) (hne : stream ≠ []) (hstrings : search.strings = false)
    (hwidth : ∀ h, Image.Header.parse? none data = some h → h.bitness = search.bitness) :
    ∃ t rs, resolve search stream (some data) = .ok t ∧
      Routine.discover (search.forRoutines limit) stream (some data) = .ok rs ∧
      ∀ a, a ∈ t.keys ↔ a ∈ rs.map (·.address) := by
  obtain ⟨t, ht⟩ : ∃ t, resolve search stream (some data) = .ok t := ⟨_, resolve_ok data hne⟩
  refine ⟨t, _, ht, Routine.discover_ok (some data) hne, ?_⟩
  intro a
  rw [mem_keys_resolve ht hne, Routine.attachGraphs_addresses, Routine.mem_elected_addresses]
  constructor
  · rintro ⟨source, place, s, hs, rfl⟩
    exact hs.nominates hstrings hwidth
  · rintro ⟨source, place, r, hr, rfl⟩
    exact claims_of_nominates hwidth hr

open Bytes in
/-- An image with one section, which holds an export table with one routine. -/
def exportingImage : Bytes :=
  (List.replicate 0x3C 0 ++ littleBytes 4 0x40 ++ littleBytes 4 0x4550 ++ littleBytes 2 0x8664 ++
    littleBytes 2 1 ++ List.replicate 12 0 ++ littleBytes 2 0x78 ++ List.replicate 2 0 ++
    -- the optional header: magic number, base and one directory
    littleBytes 2 0x20B ++ List.replicate 22 0 ++ littleBytes 8 0x140000000 ++
    List.replicate 76 0 ++ littleBytes 4 1 ++ littleBytes 4 0x1000 ++ littleBytes 4 40 ++
    -- the section
    List.replicate 8 0x61 ++ littleBytes 4 44 ++ littleBytes 4 0x1000 ++ littleBytes 4 44 ++
    littleBytes 4 0xF8 ++ List.replicate 12 0 ++ littleBytes 4 0x40 ++
    -- the export table
    List.replicate 16 0 ++ littleBytes 4 1 ++ littleBytes 4 1 ++ littleBytes 4 0 ++
    littleBytes 4 0x1028 ++ List.replicate 8 0 ++ littleBytes 4 0x2000).toArray

def exportingHeader : Image.Header where
  peOffset := 0x40
  machine := 0x8664
  sectionCount := 1
  optionalSize := 0x78
  bitness := .bits64
  imageBase := 0x140000000
  entryRva := 0
  directories := [⟨0x1000, 40⟩]
  sections := [⟨"aaaaaaaa", 44, 0x1000, 44, 0xF8, 0x40⟩]

theorem parse?_exportingImage :
    Image.Header.parse? none exportingImage = some exportingHeader := by
  decide +kernel

theorem exportingImage_width (h : Image.Header)
    (hparse : Image.Header.parse? none exportingImage = some h) : h.bitness = .bits64 := by
  rw [parse?_exportingImage] at hparse
  cases hparse
  rfl

theorem resolve_addresses_discover_exporting :
    (∀ h, Image.Header.parse? none exportingImage = some h → h.bitness = .bits64) ∧
      ∃ t rs, resolve ⟨.bits64, true, true, false, 4, 0⟩ [plainInstruction 0x140002000 "ret" none]
          (some exportingImage) = .ok t ∧
        Routine.discover ⟨true, true, true, false, .bits64, none⟩
          [plainInstruction 0x140002000 "ret" none] (some exportingImage) = .ok rs ∧
        ∀ a, a ∈ t.keys ↔ a ∈ rs.map (·.address) :=
  ⟨exportingImage_width, resolve_addresses_discover ⟨.bits64, true, true, false, 4, 0⟩ none
    [plainInstruction 0x140002000 "ret" none] exportingImage (by decide) rfl exportingImage_width⟩

end SymbolTable

end CodeAtlas
