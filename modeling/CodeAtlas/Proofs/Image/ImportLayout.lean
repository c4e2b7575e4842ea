import CodeAtlas.Image.Import
import CodeAtlas.Proofs.Buffer
import CodeAtlas.Proofs.Sequence
import Mathlib.Data.List.Forall2

set_option autoImplicit false

namespace CodeAtlas.Image

/-- A name that a table can hold and that is read whole: ASCII without a zero. -/
structure TableName where
  chars : List Char
  nonempty : chars ≠ []
  ascii : chars.all (fun c => 0 < c.toNat && c.toNat < 0x80) = true
  short : chars.length < Bytes.stringLimit

namespace TableName

def text (s : TableName) : String := String.ofList s.chars

def bytes (s : TableName) : List UInt8 := s.chars.map fun c => UInt8.ofNat c.toNat

theorem toNat_lt (s : TableName) {c : Char} (hc : c ∈ s.chars) : 0 < c.toNat ∧ c.toNat < 0x80 := by
  have hall := List.all_eq_true.mp s.ascii c hc
  simpa using hall

theorem toNat_ofNat_char (s : TableName) {c : Char} (hc : c ∈ s.chars) :
    (UInt8.ofNat c.toNat).toNat = c.toNat := by
  have hsmall := s.toNat_lt hc
  rw [UInt8.toNat_ofNat', Nat.mod_eq_of_lt (by omega)]

theorem asciiText_bytes (s : TableName) : Bytes.asciiText s.bytes = s.text := by
  have hchar : ∀ c ∈ s.chars, Bytes.asciiChar (UInt8.ofNat c.toNat) = c := by
    intro c hc
    have hbyte := s.toNat_ofNat_char hc
    have hlt : UInt8.ofNat c.toNat < 0x80 := by
      rw [UInt8.lt_iff_toNat_lt, hbyte]
      exact (s.toNat_lt hc).2
    rw [Bytes.asciiChar, if_pos hlt, hbyte, Char.ofNat_toNat]
  rw [Bytes.asciiText, bytes, List.map_map, Function.comp_def, List.map_congr_left hchar,
    List.map_id', text]

theorem bytes_ne_zero (s : TableName) : ∀ b ∈ s.bytes, b ≠ 0 := by
  rintro b hb rfl
  obtain ⟨c, hc, hzero⟩ := List.mem_map.mp hb
  have hbyte := s.toNat_ofNat_char hc
  have hpos := (s.toNat_lt hc).1
  rw [hzero] at hbyte
  exact Nat.ne_of_lt hpos hbyte

theorem text_ne_empty (s : TableName) : s.text ≠ "" := by
  intro hempty
  have hchars := congrArg String.toList hempty
  rw [text, String.toList_ofList] at hchars
  exact s.nonempty hchars

theorem nonEmpty?_of_holds (s : TableName) {data : Bytes} {position : Nat}
    (h : data.Holds position (s.bytes ++ [0])) :
    Header.nonEmpty? (data.stringAt? (some position)) = some s.text := by
  have hlength : s.bytes.length = s.chars.length := List.length_map _
  have hshort := s.short
  have hread : data.stringAt? (some position) = some s.text := by
    rw [Bytes.stringAt?, Option.bind_some,
      Bytes.string?_of_holds h s.bytes_ne_zero (by omega), asciiText_bytes]
  rw [hread, Header.nonEmpty?, Option.filter_some_pos (by simpa using s.text_ne_empty)]

end TableName

inductive Asked where
  | name (s : TableName)
  | ordinal (n : Nat) (small : n < 0x10000)

def Asked.wanted : Asked → Wanted
  | name s => .name s.text
  | ordinal n _ => .ordinal n

def ordinalFlag : Bitness → Nat
  | .bits32 => 0x80000000
  | .bits64 => 0x8000000000000000

/-- What a lookup entry holds to ask for a routine. Between the flag and an ordinal anything may
stand. A name has a hint of two bytes before it. -/
inductive AsksFor (h : Header) (data : Bytes) : Nat → Asked → Prop where
  | name {rva position : Nat} {s : TableName} (hint : Nat) : 0 < rva → rva < 0x80000000 →
      h.offset? rva = some position →
      data.Holds position (Bytes.littleBytes 2 hint ++ (s.bytes ++ [0])) →
      AsksFor h data rva (.name s)
  | ordinal {thunk n : Nat} {small : n < 0x10000} (reserved : Nat) :
      thunk = ordinalFlag h.bitness + (reserved * 0x10000 + n) →
      reserved * 0x10000 + n < ordinalFlag h.bitness → AsksFor h data thunk (.ordinal n small)

structure LibraryLayout where
  library : TableName
  asked : List Asked
  descriptor : Descriptor
  /-- The two numbers of the descriptor that are not read. -/
  stamp : Nat
  chain : Nat
  thunks : List Nat
  slots : List Nat

namespace LibraryLayout

def row (l : LibraryLayout) : List Nat :=
  [l.descriptor.lookupRva, l.stamp, l.chain, l.descriptor.nameRva, l.descriptor.slotsRva]

def imports (l : LibraryLayout) (h : Header) : List Import :=
  l.asked.mapIdx fun k a =>
    let rva := l.descriptor.slotsRva + k * h.bitness.bytes
    ⟨l.library.text, rva, h.imageBase + rva, a.wanted⟩

structure Laid (h : Header) (data : Bytes) (l : LibraryLayout) : Prop where
  room : l.asked.length ≤ Header.maxSlots
  lookup_pos : 0 < l.descriptor.lookupRva
  name : ∃ position, h.offset? l.descriptor.nameRva = some position ∧
    data.Holds position (l.library.bytes ++ [0])
  lookup : ∃ position, h.offset? l.descriptor.lookupRva = some position ∧
    data.HoldsWords h.bitness.bytes position l.thunks
  asks : List.Forall₂ (AsksFor h data) l.thunks l.asked
  slots : ∃ position, h.offset? l.descriptor.slotsRva = some position ∧
    data.HoldsWords h.bitness.bytes position (l.slots ++ [0])
  slots_length : l.slots.length = l.asked.length
  slots_pos : ∀ n ∈ l.slots, 0 < n

end LibraryLayout

/-- The image holds the libraries. Of the descriptor that ends the table only the first number
counts. -/
structure ImportsLaid (h : Header) (data : Bytes) (libraries : List LibraryLayout) : Prop where
  room : libraries.length ≤ Header.maxLibraries
  present : (h.directory 1).rva ≠ 0 ∧ (h.directory 1).size ≠ 0
  table : ∃ position, h.offset? (h.directory 1).rva = some position ∧
    data.HoldsWords 4 position (libraries.flatMap LibraryLayout.row ++ [0])
  laid : ∀ l ∈ libraries, l.Laid h data

/-! ## Reading it back -/

theorem bytes_pos (b : Bitness) : 0 < b.bytes := by
  cases b <;> decide

theorem ordinalFlag_eq (b : Bitness) : ordinalFlag b = Nat.pow 2 (b.bits - 1) := by
  cases b <;> rfl

section Asked

variable {h : Header} {data : Bytes} {thunk : Nat} {a : Asked}

theorem AsksFor.pos (hasks : AsksFor h data thunk a) : 0 < thunk := by
  cases hasks with
  | name _ hpos => exact hpos
  | ordinal =>
    have hflag : 0 < ordinalFlag h.bitness := by
      cases h.bitness <;> decide
    omega

theorem AsksFor.wantedBy (hasks : AsksFor h data thunk a) : h.wantedBy data thunk = a.wanted := by
  cases hasks with
  | @name _ s _ _ hsmall hoffset hheld =>
    have hflag : thunk.testBit (h.bitness.bits - 1) = false := by
      apply Nat.testBit_lt_two_pow
      have hle : 0x80000000 ≤ ordinalFlag h.bitness := by
        cases h.bitness <;> decide
      rw [ordinalFlag_eq] at hle
      exact Nat.lt_of_lt_of_le hsmall hle
    have hname := (Bytes.holds_append.mp hheld).2
    rw [Bytes.length_littleBytes] at hname
    rw [Header.wantedBy, hflag, Nat.mod_eq_of_lt hsmall, hoffset, Option.map_some,
      s.nonEmpty?_of_holds hname]
    rfl
  | @ordinal n _ reserved hthunk hroom =>
    subst hthunk
    have hflag : (ordinalFlag h.bitness + (reserved * 0x10000 + n)).testBit (h.bitness.bits - 1) =
        true := by
      rw [ordinalFlag_eq] at hroom ⊢
      rw [Nat.pow_eq, Nat.testBit_two_pow_add_eq, Nat.testBit_lt_two_pow hroom]
      rfl
    have hmod : (ordinalFlag h.bitness + (reserved * 0x10000 + n)) % 0x10000 = n := by
      have hdvd : ordinalFlag h.bitness % 0x10000 = 0 := by
        cases h.bitness <;> decide
      omega
    rw [Header.wantedBy, if_pos hflag, hmod]
    rfl

end Asked

theorem slot?_of_word? {data : Bytes} {width position n : Nat}
    (hword : data.word? width position = some n) (hpos : 0 < n) :
    Header.slot? data width position = some n := by
  rw [Header.slot?, hword, Option.filter_some_pos (by simpa using Nat.ne_of_gt hpos)]

theorem slot?_zero {data : Bytes} {width position : Nat}
    (hword : data.word? width position = some 0) : Header.slot? data width position = none := by
  rw [Header.slot?, hword]
  rfl

section Library

variable {h : Header} {data : Bytes} {l : LibraryLayout} (hlaid : l.Laid h data)

include hlaid

theorem LibraryLayout.Laid.importAt? {lookup slots : Nat}
    (hlookup : data.HoldsWords h.bitness.bytes lookup l.thunks)
    (hslots : data.HoldsWords h.bitness.bytes slots (l.slots ++ [0])) {k : Nat} {i : Import}
    (hi : (l.imports h)[k]? = some i) :
    h.importAt? data l.library.text (some lookup) slots l.descriptor.slotsRva k = some i := by
  rw [LibraryLayout.imports, List.getElem?_mapIdx, Option.map_eq_some_iff] at hi
  obtain ⟨a, ha, rfl⟩ := hi
  obtain ⟨hk, rfl⟩ := List.getElem?_eq_some_iff.mp ha
  have hslot : k < l.slots.length := by rw [hlaid.slots_length]; exact hk
  have hthunk : k < l.thunks.length := by rw [hlaid.asks.length_eq]; exact hk
  have hasks : AsksFor h data l.thunks[k] l.asked[k] := hlaid.asks.get hthunk hk
  have hslot? : Header.slot? data h.bitness.bytes (slots + k * h.bitness.bytes) =
      some l.slots[k] := by
    refine slot?_of_word? (hslots.word? (bytes_pos _) ?_) (hlaid.slots_pos _ (List.getElem_mem hslot))
    rw [List.getElem?_append_left hslot, List.getElem?_eq_getElem hslot]
  have hthunk? : Header.slot? data h.bitness.bytes (lookup + k * h.bitness.bytes) =
      some l.thunks[k] :=
    slot?_of_word? (hlookup.word? (bytes_pos _) (List.getElem?_eq_getElem hthunk)) hasks.pos
  simp [Header.importAt?, hslot?, hthunk?, hasks.wantedBy]

theorem LibraryLayout.Laid.importsFrom : h.importsFrom data l.descriptor = l.imports h := by
  obtain ⟨name, hname, hheld⟩ := hlaid.name
  obtain ⟨lookup, hlookup, hthunks⟩ := hlaid.lookup
  obtain ⟨slots, hslots, hwords⟩ := hlaid.slots
  have hlength : (l.imports h).length = l.slots.length := by
    rw [LibraryLayout.imports, List.length_mapIdx, hlaid.slots_length]
  have hlast : data.word? h.bitness.bytes (slots + l.slots.length * h.bitness.bytes) = some 0 :=
    hwords.word? (bytes_pos _) List.getElem?_concat_length
  simp only [Header.importsFrom, hname, l.library.nonEmpty?_of_holds hheld, hslots, hlookup,
    Option.getD_some]
  apply cells_eq
  · intro k i hi
    exact hlaid.importAt? hthunks hwords hi
  · rw [hlength, Header.importAt?, slot?_zero hlast]
    rfl
  · have hroom := hlaid.room
    rw [hlength, hlaid.slots_length]
    exact hroom

end Library

/-! ## All libraries -/

theorem LibraryLayout.length_row (l : LibraryLayout) :
    (l.row.flatMap (Bytes.littleBytes 4)).length = Descriptor.size := by
  simp [row, Bytes.length_littleBytes, Descriptor.size]

theorem LibraryLayout.read?_row {data : Bytes} {position : Nat} {l : LibraryLayout}
    (h : data.HoldsWords 4 position l.row) (hpos : 0 < l.descriptor.lookupRva) :
    Descriptor.read? data position = some l.descriptor := by
  have hlookup : data.u32? position = some l.descriptor.lookupRva :=
    h.word? (k := 0) (by decide) rfl
  have hname : data.u32? (position + 12) = some l.descriptor.nameRva :=
    h.word? (k := 3) (by decide) rfl
  have hslots : data.u32? (position + 16) = some l.descriptor.slotsRva :=
    h.word? (k := 4) (by decide) rfl
  simp [Descriptor.read?, hlookup, hname, hslots, Nat.ne_of_gt hpos]

section Table

variable {h : Header} {data : Bytes} {libraries : List LibraryLayout} {table : Nat}
  (hwords : data.HoldsWords 4 table (libraries.flatMap LibraryLayout.row ++ [0]))

include hwords

theorem holdsWords_row {k : Nat} {l : LibraryLayout} (hl : libraries[k]? = some l) :
    data.HoldsWords 4 (table + k * Descriptor.size) l.row where
  fits := by
    intro n hn
    apply hwords.fits
    exact List.mem_append_left _ (List.mem_flatMap.mpr ⟨l, List.mem_of_getElem? hl, hn⟩)
  held := by
    have hheld := hwords.held
    rw [List.flatMap_append, List.flatMap_assoc, Bytes.holds_append] at hheld
    exact hheld.1.record LibraryLayout.length_row hl

theorem read?_end : Descriptor.read? data (table + libraries.length * Descriptor.size) = none := by
  have hlength : (libraries.flatMap LibraryLayout.row).length = libraries.length * 5 := by
    simp [LibraryLayout.row]
  have hlast := hwords.word? (by decide) List.getElem?_concat_length
  have hzero : data.u32? (table + libraries.length * Descriptor.size) = some 0 := by
    rw [hlength, Nat.mul_assoc] at hlast
    exact hlast
  simp [Descriptor.read?, hzero]

end Table

theorem ImportsLaid.descriptors {h : Header} {data : Bytes} {libraries : List LibraryLayout}
    (hlaid : ImportsLaid h data libraries) :
    h.descriptors data = libraries.map (·.descriptor) := by
  obtain ⟨table, htable, hwords⟩ := hlaid.table
  have hpresent : (h.directory 1).isAbsent = false := by
    simpa [Directory.isAbsent] using hlaid.present
  simp only [Header.descriptors, Header.importTable?, hpresent, Bool.false_eq_true, ↓reduceIte,
    htable]
  apply cells_eq
  · intro k d hd
    rw [List.getElem?_map, Option.map_eq_some_iff] at hd
    obtain ⟨l, hl, rfl⟩ := hd
    exact l.read?_row (holdsWords_row hwords hl) (hlaid.laid l (List.mem_of_getElem? hl)).lookup_pos
  · rw [List.length_map]
    exact read?_end hwords
  · rw [List.length_map]
    exact hlaid.room

/-- The imports of an image are those that its tables were laid out for. -/
theorem imports_of_laid (h : Header) (data : Bytes) (libraries : List LibraryLayout)
    (hlaid : ImportsLaid h data libraries) :
    imports data h.bitness (some h) = libraries.flatMap (·.imports h) := by
  have hfrom : ∀ l ∈ libraries, h.importsFrom data l.descriptor = l.imports h :=
    fun l hl => (hlaid.laid l hl).importsFrom
  have hall : h.imports data = libraries.flatMap (·.imports h) := by
    rw [Header.imports, hlaid.descriptors, List.flatMap_map, List.flatMap_congr hfrom]
  simpa [imports, headerFor?] using hall

def twoLibrariesHeader : Header where
  peOffset := 0
  machine := 0x14C
  sectionCount := 1
  optionalSize := 0
  bitness := .bits32
  imageBase := 0x400000
  entryRva := 0
  directories := [⟨0, 0⟩, ⟨0x1000, 44⟩]
  sections := [⟨".idata", 76, 0x1000, 76, 4, 0x40⟩]

/-- A library of which a name and an ordinal are wanted, and one of which nothing is. -/
def twoLibraries : List LibraryLayout :=
  [{ library := ⟨['k'], by decide, by decide, by decide⟩
     asked := [.name ⟨['f'], by decide, by decide, by decide⟩, .ordinal 7 (by decide)]
     descriptor := ⟨0x102C, 0x1044, 0x1034⟩
     stamp := 0
     chain := 0xFFFFFFFF
     thunks := [0x1048, 0x80010007]
     slots := [1, 2] },
   { library := ⟨['u'], by decide, by decide, by decide⟩
     asked := []
     descriptor := ⟨0x1040, 0x1046, 0x1040⟩
     stamp := 0
     chain := 0
     thunks := []
     slots := [] }]

def twoLibrariesData : Bytes :=
  #[0x4D, 0x5A, 0, 0,
    -- the descriptors
    0x2C, 0x10, 0, 0, 0, 0, 0, 0, 0xFF, 0xFF, 0xFF, 0xFF, 0x44, 0x10, 0, 0, 0x34, 0x10, 0, 0,
    0x40, 0x10, 0, 0, 0, 0, 0, 0, 0, 0, 0, 0, 0x46, 0x10, 0, 0, 0x40, 0x10, 0, 0,
    0, 0, 0, 0,
    -- the lookup table and the slots of the first library, the slots of the second
    0x48, 0x10, 0, 0, 0x07, 0, 0x01, 0x80,
    1, 0, 0, 0, 2, 0, 0, 0, 0, 0, 0, 0,
    0, 0, 0, 0,
    -- the names
    0x6B, 0, 0x75, 0, 0x03, 0, 0x66, 0]

theorem twoLibraries_laid : ImportsLaid twoLibrariesHeader twoLibrariesData twoLibraries where
  room := by decide
  present := by decide
  table := ⟨4, rfl, by decide, by decide⟩
  laid := by
    simp only [twoLibraries, List.forall_mem_cons]
    refine ⟨?_, ?_, by simp⟩
    · exact {
        room := by decide
        lookup_pos := by decide
        name := ⟨72, rfl, by decide⟩
        lookup := ⟨48, rfl, by decide, by decide⟩
        asks := .cons (.name 3 (by decide) (by decide) rfl (by decide))
          (.cons (.ordinal 1 rfl (by decide)) .nil)
        slots := ⟨56, rfl, by decide, by decide⟩
        slots_length := rfl
        slots_pos := by decide }
    · exact {
        room := by decide
        lookup_pos := by decide
        name := ⟨74, rfl, by decide⟩
        lookup := ⟨68, rfl, by decide, by decide⟩
        asks := .nil
        slots := ⟨68, rfl, by decide, by decide⟩
        slots_length := rfl
        slots_pos := by decide }

theorem imports_of_laid_two : ImportsLaid twoLibrariesHeader twoLibrariesData twoLibraries ∧
    imports twoLibrariesData .bits32 (some twoLibrariesHeader) =
      [⟨"k", 0x1034, 0x401034, .name "f"⟩, ⟨"k", 0x1038, 0x401038, .ordinal 7⟩] :=
  ⟨twoLibraries_laid,
    (imports_of_laid twoLibrariesHeader twoLibrariesData twoLibraries twoLibraries_laid).trans rfl⟩

end CodeAtlas.Image
