import CodeAtlas.Proofs.Image.ExportTable
import CodeAtlas.Proofs.Image.Header
import Mathlib.Data.List.Flatten

/-!
# Tables of files that were cut off

A file that was cut off has no import slot and no export that the whole file does not have. Slots
may be missing anywhere, since every library has its own table; exports are missing only at the
end. The names may change, since a text ends where the file ends.
-/

set_option autoImplicit false

namespace CodeAtlas.Image

open Bytes

def Import.slot (i : Import) : Nat × Nat := (i.rva, i.address)

def Export.place (e : Export) : Nat × Nat × Bool := (e.ordinal, e.rva, e.isForwarder)

theorem Descriptor.stable_read? (position : Nat) : Stable (Descriptor.read? · position) :=
  (stable_word? 4 position).bind fun _ => (stable_word? 4 (position + 12)).bind fun _ =>
    (stable_word? 4 (position + 16)).bind fun _ => stable_const _

theorem ExportTable.stable_read? (position : Nat) : Stable (ExportTable.read? · position) :=
  (stable_word? 4 (position + 16)).bind fun _ => (stable_word? 4 (position + 20)).bind fun _ =>
    (stable_word? 4 (position + 24)).bind fun _ => (stable_word? 4 (position + 28)).bind fun _ =>
      (stable_word? 4 (position + 32)).bind fun _ => (stable_word? 4 (position + 36)).bind fun _ =>
        stable_const _

theorem stable_slot? (width position : Nat) : Stable (Header.slot? · width position) :=
  (stable_word? width position).filter _

namespace Header

/-- Which slots there are does not depend on what they ask for. -/
theorem importAt?_slot (h : Header) (data : Bytes) (library : String) (lookup : Option Nat)
    (slots slotsRva k : Nat) :
    (h.importAt? data library lookup slots slotsRva k).map Import.slot =
      (slot? data h.bitness.bytes (slots + k * h.bitness.bytes)).map fun _ =>
        (slotsRva + k * h.bitness.bytes, h.imageBase + (slotsRva + k * h.bitness.bytes)) := by
  rw [importAt?]
  cases slot? data h.bitness.bytes (slots + k * h.bitness.bytes) with
  | none => rfl
  | some slot => rfl

/-- The place of the export with index `i`. It takes nothing from the file but the address. -/
def exportPlace? (d : Directory) (t : ExportTable) (rva i : Nat) : Option (Nat × Nat × Bool) :=
  if rva = 0 then none
  else some (t.ordinalBase + i, rva, decide (d.rva ≤ rva ∧ rva < d.rva + d.size))

theorem exportAt?_place (h : Header) (data : Bytes) (t : ExportTable)
    (names : Std.HashMap Nat String) (rva i : Nat) :
    (h.exportAt? data t names rva i).map Export.place = exportPlace? (h.directory 0) t rva i := by
  simp only [exportAt?, exportPlace?]
  split
  · rfl
  · split
    · next hinside => simp [Export.place, Export.isForwarder, hinside]
    · next houtside => simp [Export.place, Export.isForwarder, houtside]

theorem exports_place {h : Header} {data : Bytes} {t : ExportTable} {routines : Nat}
    (htable : h.exportTable? data = some t) (hroutines : h.offset? t.routinesRva = some routines) :
    (h.exports data).map Export.place =
      (cells (fun i => data.u32? (routines + i * 4)) (min t.routineCount maxExports)).zipIdx.filterMap
        fun e => exportPlace? (h.directory 0) t e.1 e.2 := by
  simp only [exports_eq htable hroutines, List.map_filterMap, exportAt?_place]

theorem Cut.importTable? {h whole : Header} (hcut : h.Cut whole) {position : Nat}
    (htable : h.importTable? = some position) : whole.importTable? = some position := by
  rw [Header.importTable?] at htable ⊢
  split at htable
  · cases htable
  · next hpresent =>
    rw [hcut.directory (by simpa using hpresent), if_neg hpresent, hcut.offset? htable]

section Cut

variable {h whole : Header} (hcut : h.Cut whole) {short full : Bytes}
  (hstart : short.toList <+: full.toList)

include hcut hstart

theorem descriptors_isPrefix : h.descriptors short <+: whole.descriptors full := by
  rw [descriptors]
  cases htable : h.importTable? with
  | none => exact List.nil_prefix
  | some table =>
    rw [descriptors, hcut.importTable? htable]
    exact cells_isPrefix (fun _ _ => Descriptor.stable_read? _ short full hstart _) maxLibraries

theorem importsFrom_isPrefix (d : Descriptor) :
    (h.importsFrom short d).map Import.slot <+: (whole.importsFrom full d).map Import.slot := by
  rw [importsFrom]
  cases hslots : h.offset? d.slotsRva with
  | none => exact List.nil_prefix
  | some slots =>
    simp only [importsFrom, hcut.offset? hslots, cells_map]
    apply cells_isPrefix
    intro k place hplace
    rw [importAt?_slot, Option.map_eq_some_iff] at hplace ⊢
    rw [← hcut.bitness, ← hcut.imageBase]
    obtain ⟨slot, hslot, hplace⟩ := hplace
    exact ⟨slot, stable_slot? _ _ short full hstart slot hslot, hplace⟩

theorem imports_sublist :
    ((h.imports short).map Import.slot).Sublist ((whole.imports full).map Import.slot) := by
  rw [imports, imports, List.map_flatMap, List.map_flatMap]
  have hshared : ((h.descriptors short).flatMap fun d =>
        (h.importsFrom short d).map Import.slot).Sublist
      ((h.descriptors short).flatMap fun d => (whole.importsFrom full d).map Import.slot) :=
    List.Sublist.flatMap_right _ fun d _ => (importsFrom_isPrefix hcut hstart d).sublist
  exact hshared.trans ((descriptors_isPrefix hcut hstart).sublist.flatMap _)

theorem Cut.exportTable? {t : ExportTable} (htable : h.exportTable? short = some t) :
    whole.exportTable? full = some t ∧ whole.directory 0 = h.directory 0 := by
  rw [Header.exportTable?] at htable ⊢
  split at htable
  · cases htable
  · next hpresent =>
    have hdirectory := hcut.directory (by simpa using hpresent)
    obtain ⟨position, hposition, hread⟩ := Option.bind_eq_some_iff.mp htable
    refine ⟨?_, hdirectory⟩
    rw [hdirectory, if_neg hpresent]
    exact Option.bind_eq_some_iff.mpr ⟨position, hcut.offset? hposition,
      ExportTable.stable_read? position short full hstart t hread⟩

theorem exports_isPrefix :
    (h.exports short).map Export.place <+: (whole.exports full).map Export.place := by
  cases htable : h.exportTable? short with
  | none => simp [exports, htable]
  | some t =>
    obtain ⟨hwhole, hdirectory⟩ := hcut.exportTable? hstart htable
    cases hroutines : h.offset? t.routinesRva with
    | none => simp [exports, htable, hroutines]
    | some routines =>
      have hcells : cells (fun i => short.u32? (routines + i * 4)) (min t.routineCount maxExports) <+:
          cells (fun i => full.u32? (routines + i * 4)) (min t.routineCount maxExports) :=
        cells_isPrefix (fun i _ => stable_word? 4 (routines + i * 4) short full hstart _) _
      obtain ⟨rest, hrest⟩ := hcells
      rw [exports_place htable hroutines, exports_place hwhole (hcut.offset? hroutines), hdirectory,
        ← hrest, List.zipIdx_append, List.filterMap_append]
      exact List.prefix_append _ _

end Cut

end Header

/-- A file that was cut off has no slot and no export that the whole file does not have. -/
theorem tables_of_upTo (data : Bytes) (k : Int) (bitness : Bitness) :
    ((imports (data.upTo k) bitness none).map Import.slot).Sublist
        ((imports data bitness none).map Import.slot) ∧
      (exports (data.upTo k) none).map Export.place <+: (exports data none).map Export.place := by
  have hstart := data.upTo_isPrefix k
  constructor
  · simp only [imports, headerFor?, Option.orElse_none]
    cases hparse : Header.parse? (some bitness) (data.upTo k) with
    | none => exact List.nil_sublist _
    | some h =>
      obtain ⟨whole, hwhole, hcut⟩ := Header.parse?_cut hstart hparse
      simp only [hwhole, ← hcut.bitness]
      split
      · exact Header.imports_sublist hcut hstart
      · exact List.Sublist.refl _
  · simp only [exports, headerFor?, Option.orElse_none]
    cases hparse : Header.parse? none (data.upTo k) with
    | none => exact List.nil_prefix
    | some h =>
      obtain ⟨whole, hwhole, hcut⟩ := Header.parse?_cut hstart hparse
      simp only [hwhole]
      exact Header.exports_isPrefix hcut hstart

end CodeAtlas.Image
