import CodeAtlas.Image.Export
import CodeAtlas.Proofs.Buffer
import CodeAtlas.Proofs.Sequence

set_option autoImplicit false

namespace CodeAtlas.Image

/-- The table of routines, whose position in the file is given, holds an address at index `i` and
can be read up to there. An address of zero is a gap. -/
structure ListedAt (data : Bytes) (t : ExportTable) (routines i rva : Nat) : Prop where
  counted : i < min t.routineCount Header.maxExports
  readable : ∀ k ≤ i, (data.u32? (routines + k * 4)).isSome = true
  address : data.u32? (routines + i * 4) = some rva
  present : rva ≠ 0

/-- Position `j` of the table of names gives a name to index `i`, and the tables of names and of
indices can both be read up to there. -/
inductive NamedAt (h : Header) (data : Bytes) (t : ExportTable) (j i : Nat) (s : String) : Prop where
  | mk {names ordinals rva : Nat} (names_mapped : h.offset? t.namesRva = some names)
      (ordinals_mapped : h.offset? t.ordinalsRva = some ordinals)
      (counted : j < min t.nameCount Header.maxExports)
      (readable : ∀ k ≤ j, (data.u32? (names + k * 4)).isSome = true ∧
        (data.u16? (ordinals + k * 2)).isSome = true)
      (index : data.u16? (ordinals + j * 2) = some i)
      (address : data.u32? (names + j * 4) = some rva)
      (text : data.stringAt? (h.offset? rva) = some s) (nonempty : s ≠ "") :
      NamedAt h data t j i s

def NameOf (h : Header) (data : Bytes) (t : ExportTable) (i : Nat) : Option String → Prop
  | some s => ∃ j, NamedAt h data t j i s ∧ ∀ k < j, ∀ other, ¬ NamedAt h data t k i other
  | none => ∀ j s, ¬ NamedAt h data t j i s

structure Describes (h : Header) (data : Bytes) (t : ExportTable) (i rva : Nat) (e : Export) :
    Prop where
  ordinal : e.ordinal = t.ordinalBase + i
  address : e.rva = rva
  isForwarder : e.isForwarder = true ↔
    (h.directory 0).rva ≤ rva ∧ rva < (h.directory 0).rva + (h.directory 0).size
  forwarderText : e.forwarderText? =
    if e.isForwarder = true then data.stringAt? (h.offset? rva) else none
  name : NameOf h data t i e.name

namespace Header

/-! ## Names -/

def nameIn? (i : Nat) (row : Nat × Option String) : Option String :=
  if row.1 = i then row.2 else none

theorem addName_getElem? (names : Std.HashMap Nat String) (row : Nat × Option String) (i : Nat) :
    (addName names row)[i]? = names[i]?.or (nameIn? i row) := by
  unfold addName nameIn?
  cases htext : row.2 with
  | none => simp
  | some s =>
    simp only [Std.HashMap.getElem?_insertIfNew, beq_iff_eq]
    by_cases hindex : row.1 = i
    · cases hname : names[i]? with
      | none =>
        have hnew : i ∉ names := by
          rw [Std.HashMap.mem_iff_isSome_getElem?, hname]
          simp
        simp [hindex, hnew]
      | some r =>
        have hold : i ∈ names := by
          rw [Std.HashMap.mem_iff_isSome_getElem?, hname, Option.isSome_some]
        simp [hindex, hold]
    · simp [hindex]

theorem foldl_addName_getElem? (rows : List (Nat × Option String)) (names : Std.HashMap Nat String)
    (i : Nat) : (rows.foldl addName names)[i]? = names[i]?.or (rows.findSome? (nameIn? i)) := by
  induction rows generalizing names with
  | nil => simp
  | cons row rest ih =>
    rw [List.foldl_cons, ih, addName_getElem?, Option.or_assoc, List.findSome?_cons]
    cases nameIn? i row with
    | none => rfl
    | some s => rfl

theorem firstNames_getElem? (rows : List (Nat × Option String)) (i : Nat) :
    (firstNames rows)[i]? = rows.findSome? (nameIn? i) := by
  rw [firstNames, foldl_addName_getElem?, Std.HashMap.getElem?_empty, Option.none_or]

theorem nameIn?_eq_some_iff {i : Nat} {row : Nat × Option String} {s : String} :
    nameIn? i row = some s ↔ row = (i, some s) := by
  unfold nameIn?
  split
  · next hindex => simp [Prod.ext_iff, hindex]
  · next hindex => simp [Prod.ext_iff, hindex]

section Table

variable {h : Header} {data : Bytes} {t : ExportTable}

theorem exportName?_isSome (names ordinals j : Nat) :
    (h.exportName? data names ordinals j).isSome = true ↔
      (data.u32? (names + j * 4)).isSome = true ∧ (data.u16? (ordinals + j * 2)).isSome = true := by
  unfold exportName?
  cases data.u32? (names + j * 4) with
  | none => simp
  | some rva =>
    cases data.u16? (ordinals + j * 2) with
    | none => simp
    | some index => simp

theorem exportName?_eq_some_iff {names ordinals j i : Nat} {s : String} :
    h.exportName? data names ordinals j = some (i, some s) ↔
      data.u16? (ordinals + j * 2) = some i ∧ ∃ rva, data.u32? (names + j * 4) = some rva ∧
        data.stringAt? (h.offset? rva) = some s ∧ s ≠ "" := by
  unfold exportName?
  cases data.u32? (names + j * 4) with
  | none => simp
  | some rva =>
    cases data.u16? (ordinals + j * 2) with
    | none => simp
    | some index => simp [nonEmpty?, Option.filter_eq_some_iff]

theorem exportNames_getElem?_iff {j i : Nat} {s : String} :
    (h.exportNames data t)[j]? = some (i, some s) ↔ NamedAt h data t j i s := by
  unfold exportNames
  constructor
  · intro hrow
    split at hrow
    · next names ordinals hnames hordinals =>
      rw [cells_getElem?_eq_some_iff, exportName?_eq_some_iff] at hrow
      obtain ⟨hcounted, hreadable, hindex, rva, hrva, htext, hne⟩ := hrow
      simp only [exportName?_isSome] at hreadable
      exact ⟨hnames, hordinals, hcounted, hreadable, hindex, hrva, htext, hne⟩
    · simp at hrow
  · rintro ⟨hnames, hordinals, hcounted, hreadable, hindex, hrva, htext, hne⟩
    simp only [hnames, hordinals, cells_getElem?_eq_some_iff, exportName?_eq_some_iff,
      exportName?_isSome]
    exact ⟨hcounted, hreadable, hindex, _, hrva, htext, hne⟩

theorem nameOf_firstNames (i : Nat) :
    NameOf h data t i (firstNames (h.exportNames data t))[i]? := by
  rw [firstNames_getElem?]
  cases hfound : (h.exportNames data t).findSome? (nameIn? i) with
  | none =>
    intro j s hnamed
    have hrow := List.mem_of_getElem? (exportNames_getElem?_iff.mpr hnamed)
    have hsilent := List.findSome?_eq_none_iff.mp hfound _ hrow
    rw [nameIn?_eq_some_iff.mpr rfl] at hsilent
    cases hsilent
  | some s =>
    obtain ⟨before, row, after, hrows, hrow, hsilent⟩ := List.findSome?_eq_some_iff.mp hfound
    rw [nameIn?_eq_some_iff] at hrow
    refine ⟨before.length, exportNames_getElem?_iff.mp (by simp [hrows, hrow]), ?_⟩
    intro k hk other hearlier
    have hmem := exportNames_getElem?_iff.mpr hearlier
    rw [hrows, List.getElem?_append_left hk] at hmem
    have hnone := hsilent _ (List.mem_of_getElem? hmem)
    rw [nameIn?_eq_some_iff.mpr rfl] at hnone
    cases hnone

/-! ## Routines -/

theorem exportAt?_describes {i rva : Nat} {e : Export}
    (he : h.exportAt? data t (firstNames (h.exportNames data t)) rva i = some e) :
    rva ≠ 0 ∧ Describes h data t i rva e := by
  unfold exportAt? at he
  by_cases hgap : rva = 0
  · simp [hgap] at he
  · simp only [hgap, ↓reduceIte, Option.some.injEq] at he
    subst he
    refine ⟨hgap, ?_⟩
    by_cases hinside :
        (h.directory 0).rva ≤ rva ∧ rva < (h.directory 0).rva + (h.directory 0).size <;>
      refine ⟨rfl, rfl, ?_, ?_, nameOf_firstNames i⟩ <;>
      simp [Export.isForwarder, Export.forwarderText?, hinside]

section Readable

variable {routines : Nat} (htable : h.exportTable? data = some t)
  (hroutines : h.offset? t.routinesRva = some routines)

include htable hroutines

theorem exports_eq : h.exports data =
    (cells (fun i => data.u32? (routines + i * 4)) (min t.routineCount maxExports)).zipIdx.filterMap
      fun e => h.exportAt? data t (firstNames (h.exportNames data t)) e.1 e.2 := by
  simp only [exports, htable, hroutines]

theorem mem_exports_iff (e : Export) : e ∈ h.exports data ↔
    ∃ i rva, ListedAt data t routines i rva ∧
      h.exportAt? data t (firstNames (h.exportNames data t)) rva i = some e := by
  simp only [exports_eq htable hroutines, List.mem_filterMap, Prod.exists,
    List.mem_zipIdx_iff_getElem?, cells_getElem?_eq_some_iff]
  constructor
  · rintro ⟨rva, i, ⟨hcounted, hreadable, haddress⟩, he⟩
    exact ⟨i, rva, ⟨hcounted, hreadable, haddress, (exportAt?_describes he).1⟩, he⟩
  · rintro ⟨i, rva, hlisted, he⟩
    exact ⟨rva, i, ⟨hlisted.counted, hlisted.readable, hlisted.address⟩, he⟩

theorem exports_ordinals : ((h.exports data).map (·.ordinal)).Pairwise (· < ·) := by
  rw [exports_eq htable hroutines, List.pairwise_map, List.pairwise_filterMap]
  refine (zipIdx_pairwise _).imp ?_
  intro a c hlt e he d hd
  rw [(exportAt?_describes he).2.ordinal, (exportAt?_describes hd).2.ordinal]
  exact Nat.add_lt_add_left hlt t.ordinalBase

end Readable

end Table

end Header

/-- The exports of an image whose export table can be read: in ascending order of their ordinals, one
for each address that the table lists, with the first name that its index has. -/
theorem exports_listed {data : Bytes} {known : Option Header} {h : Header} {t : ExportTable}
    {routines : Nat} (hheader : headerFor? known none data = some h)
    (htable : h.exportTable? data = some t) (hroutines : h.offset? t.routinesRva = some routines) :
    ((exports data known).map (·.ordinal)).Pairwise (· < ·) ∧
      (∀ e ∈ exports data known, ∃ i rva, ListedAt data t routines i rva ∧
        Describes h data t i rva e) ∧
      ∀ i rva, ListedAt data t routines i rva →
        ∃ e ∈ exports data known, Describes h data t i rva e := by
  have hexports : exports data known = h.exports data := by
    rw [exports, hheader]
  rw [hexports]
  refine ⟨Header.exports_ordinals htable hroutines, ?_, ?_⟩
  · intro e he
    obtain ⟨i, rva, hlisted, he⟩ := (Header.mem_exports_iff htable hroutines e).mp he
    exact ⟨i, rva, hlisted, (Header.exportAt?_describes he).2⟩
  · intro i rva hlisted
    obtain ⟨e, he⟩ : ∃ e, h.exportAt? data t (Header.firstNames (h.exportNames data t)) rva i =
        some e := by
      unfold Header.exportAt?
      rw [if_neg hlisted.present]
      exact ⟨_, rfl⟩
    exact ⟨e, (Header.mem_exports_iff htable hroutines e).mpr ⟨i, rva, hlisted, he⟩,
      (Header.exportAt?_describes he).2⟩

open Bytes in
/-- An export table with a gap and a reference to another library. The first routine has an empty
name and two others, and the last name is for an index that is not listed. -/
def aliasingImage : Bytes :=
  (List.replicate 16 0 ++ littleBytes 4 7 ++ littleBytes 4 3 ++ littleBytes 4 4 ++
    littleBytes 4 0x1028 ++ littleBytes 4 0x1034 ++ littleBytes 4 0x1044 ++
    -- the addresses, the names and their indices
    littleBytes 4 0x2000 ++ littleBytes 4 0 ++ littleBytes 4 0x1010 ++
    littleBytes 4 0x104C ++ littleBytes 4 0x104D ++ littleBytes 4 0x104F ++ littleBytes 4 0x104D ++
    littleBytes 2 0 ++ littleBytes 2 0 ++ littleBytes 2 0 ++ littleBytes 2 9 ++
    -- the texts
    [0, 0x61, 0, 0x62, 0]).toArray

def aliasingHeader : Header where
  peOffset := 0x40
  machine := 0x8664
  sectionCount := 1
  optionalSize := 0x78
  bitness := .bits64
  imageBase := 0x140000000
  entryRva := 0
  directories := [⟨0x1000, 40⟩]
  sections := [⟨".edata", 81, 0x1000, 81, 0, 0x40⟩]

def aliasingTable : ExportTable := ⟨7, 3, 4, 0x1028, 0x1034, 0x1044⟩

theorem aliasing_listed : ListedAt aliasingImage aliasingTable 40 0 0x2000 := by
  have haddress : aliasingImage.u32? (40 + 0 * 4) = some 0x2000 := by decide +kernel
  refine ⟨by decide, ?_, haddress, by decide⟩
  intro k hk
  rw [Nat.le_zero.mp hk, haddress]
  rfl

theorem exports_listed_aliasing :
    headerFor? (some aliasingHeader) none aliasingImage = some aliasingHeader ∧
      aliasingHeader.exportTable? aliasingImage = some aliasingTable ∧
      aliasingHeader.offset? aliasingTable.routinesRva = some 40 ∧
      ListedAt aliasingImage aliasingTable 40 0 0x2000 ∧
      ((exports aliasingImage (some aliasingHeader)).map (·.ordinal)).Pairwise (· < ·) ∧
      (∀ e ∈ exports aliasingImage (some aliasingHeader), ∃ i rva,
        ListedAt aliasingImage aliasingTable 40 i rva ∧
          Describes aliasingHeader aliasingImage aliasingTable i rva e) ∧
      ∃ e ∈ exports aliasingImage (some aliasingHeader),
        Describes aliasingHeader aliasingImage aliasingTable 0 0x2000 e := by
  have htable : aliasingHeader.exportTable? aliasingImage = some aliasingTable := by
    decide +kernel
  have hroutines : aliasingHeader.offset? aliasingTable.routinesRva = some 40 := by decide +kernel
  have hheader : headerFor? (some aliasingHeader) none aliasingImage = some aliasingHeader := rfl
  obtain ⟨hordered, hsound, hcomplete⟩ := exports_listed hheader htable hroutines
  exact ⟨hheader, htable, hroutines, aliasing_listed, hordered, hsound,
    hcomplete 0 0x2000 aliasing_listed⟩

end CodeAtlas.Image
