import CodeAtlas.Bytes
import CodeAtlas.Proofs.Text.Numeral
import Mathlib.Data.List.TakeWhile

/-!
# What a buffer holds

A reader of a buffer is compared with a writer: where the buffer holds the bytes of a number or of a
terminated text, the number or the text is read. What is read from a buffer is also read from every
buffer that starts with it, as long as the read does not depend on where the buffer ends.
-/

set_option autoImplicit false

namespace CodeAtlas.Bytes

def Holds (data : Bytes) (position : Nat) (bytes : List UInt8) : Prop :=
  bytes <+: data.toList.drop position

instance (data : Bytes) (position : Nat) (bytes : List UInt8) :
    Decidable (data.Holds position bytes) := inferInstanceAs (Decidable (_ <+: _))

theorem toList_extract_add (data : Bytes) (position width : Nat) :
    (data.extract position (position + width)).toList = (data.toList.drop position).take width := by
  rw [Array.toList_extract, List.extract_eq_take_drop, Nat.add_sub_cancel_left]

theorem holds_append {data : Bytes} {position : Nat} {xs ys : List UInt8} :
    data.Holds position (xs ++ ys) ↔
      data.Holds position xs ∧ data.Holds (position + xs.length) ys := by
  rw [Holds, Holds, Holds, ← List.drop_drop]
  constructor
  · rintro ⟨rest, hrest⟩
    rw [← hrest]
    exact ⟨⟨ys ++ rest, by simp⟩, ⟨rest, by simp⟩⟩
  · rintro ⟨⟨rest, hrest⟩, hys⟩
    rw [← hrest, List.drop_left] at hys
    rw [← hrest]
    exact (List.prefix_append_right_inj xs).mpr hys

theorem Holds.size_le {data : Bytes} {position : Nat} {bytes : List UInt8}
    (h : data.Holds position bytes) (hne : bytes ≠ []) :
    position + bytes.length ≤ data.size := by
  have hlength := h.length_le
  have hpos := List.length_pos_iff.mpr hne
  have hsize : data.toList.length = data.size := Array.length_toList
  rw [List.length_drop] at hlength
  omega

/-- Records of one size that stand one after the other stand at the multiples of the size. -/
theorem Holds.record {α : Type} {data : Bytes} {position size : Nat} {f : α → List UInt8}
    (hsize : ∀ x, (f x).length = size) {xs : List α} (h : data.Holds position (xs.flatMap f))
    {k : Nat} {x : α} (hx : xs[k]? = some x) : data.Holds (position + k * size) (f x) := by
  induction xs generalizing position k with
  | nil => simp at hx
  | cons y rest ih =>
    rw [List.flatMap_cons, holds_append, hsize] at h
    cases k with
    | zero =>
      cases hx
      simpa using h.1
    | succ k =>
      have hrest := ih h.2 hx
      rwa [Nat.add_assoc, Nat.add_comm size, ← Nat.succ_mul] at hrest

/-! ## Numbers -/

def littleBytes : Nat → Nat → List UInt8
  | 0, _ => []
  | width + 1, n => UInt8.ofNat n :: littleBytes width (n / 256)

theorem length_littleBytes (width n : Nat) : (littleBytes width n).length = width := by
  induction width generalizing n with
  | zero => rfl
  | succ width ih => simp [littleBytes, ih]

theorem littleEndian_littleBytes {width n : Nat} (h : n < Nat.pow 256 width) :
    littleEndian (littleBytes width n) = n := by
  induction width generalizing n with
  | zero =>
    have hzero : n = 0 := Nat.lt_one_iff.mp h
    rw [hzero]
    rfl
  | succ width ih =>
    have hrest : n / 256 < Nat.pow 256 width := Nat.div_lt_of_lt_mul (by rwa [Nat.mul_comm])
    have hbyte : (UInt8.ofNat n).toNat = n % 256 := UInt8.toNat_ofNat'
    rw [littleBytes, littleEndian, ih hrest, hbyte]
    omega

structure HoldsWords (data : Bytes) (width position : Nat) (ns : List Nat) : Prop where
  fits : ∀ n ∈ ns, n < Nat.pow 256 width
  held : data.Holds position (ns.flatMap (littleBytes width))

theorem word?_eq_none_iff {data : Bytes} {width position : Nat} :
    data.word? width position = none ↔ data.size < position + width := by
  rw [word?]
  split
  · simp only [reduceCtorEq, false_iff]
    omega
  · simp only [true_iff]
    omega

theorem word?_fits {data : Bytes} {width position n : Nat}
    (h : data.word? width position = some n) : position + width ≤ data.size := by
  by_contra hsmall
  rw [word?_eq_none_iff.mpr (by omega)] at h
  cases h

theorem word?_of_holds {data : Bytes} {width position n : Nat} (hwidth : 0 < width)
    (hfits : n < Nat.pow 256 width) (h : data.Holds position (littleBytes width n)) :
    data.word? width position = some n := by
  have hlength := length_littleBytes width n
  have hne : littleBytes width n ≠ [] := List.ne_nil_of_length_pos (by omega)
  have hsize := h.size_le hne
  have hbytes := List.prefix_iff_eq_take.mp h
  rw [hlength] at hsize hbytes
  rw [word?, if_pos hsize, toList_extract_add, ← hbytes, littleEndian_littleBytes hfits]

theorem HoldsWords.word? {data : Bytes} {width position : Nat} {ns : List Nat}
    (h : data.HoldsWords width position ns) (hwidth : 0 < width) {k n : Nat}
    (hn : ns[k]? = some n) : data.word? width (position + k * width) = some n :=
  word?_of_holds hwidth (h.fits n (List.mem_of_getElem? hn))
    (h.held.record (length_littleBytes width) hn)

/-! ## Terminated texts -/

theorem string?_eq {data : Bytes} {position limit : Nat} (h : position < data.size) :
    data.string? position limit =
      some (asciiText (((data.toList.drop position).take limit).takeWhile (· ≠ 0))) := by
  rw [string?, if_pos h, toList_extract_add]

theorem string?_of_holds {data : Bytes} {position limit : Nat} {bytes : List UInt8}
    (h : data.Holds position (bytes ++ [0])) (hzero : ∀ b ∈ bytes, b ≠ 0)
    (hlimit : bytes.length < limit) : data.string? position limit = some (asciiText bytes) := by
  have hsize := h.size_le (by simp)
  rw [List.length_append, List.length_singleton] at hsize
  obtain ⟨rest, hrest⟩ := h
  obtain ⟨room, hroom⟩ : ∃ room, limit = bytes.length + (room + 1) :=
    ⟨limit - bytes.length - 1, by omega⟩
  rw [string?_eq (by omega), ← hrest, hroom, List.append_assoc, List.take_length_add_append,
    List.singleton_append, List.take_succ_cons, List.takeWhile_append_of_pos (by simpa using hzero)]
  simp

/-! ## Longer buffers -/

/-- What the reader reads from a buffer it also reads from every buffer that starts with it. -/
def Stable {α : Type} (read : Bytes → Option α) : Prop :=
  ∀ short full : Bytes, short.toList <+: full.toList → ∀ a, read short = some a → read full = some a

section Prefix

variable {short full : Bytes} (hstart : short.toList <+: full.toList)

include hstart

theorem size_le_of_isPrefix : short.size ≤ full.size := by
  simpa using hstart.length_le

theorem take_drop_of_isPrefix {position width : Nat} (h : position + width ≤ short.size) :
    (full.toList.drop position).take width = (short.toList.drop position).take width := by
  obtain ⟨rest, hrest⟩ := hstart
  have hlength : short.toList.length = short.size := Array.length_toList
  rw [← hrest, List.drop_append_of_le_length (by omega),
    List.take_append_of_le_length (by rw [List.length_drop]; omega)]

theorem word?_eq_of_isPrefix {width position : Nat} (h : position + width ≤ short.size) :
    full.word? width position = short.word? width position := by
  have hsize := size_le_of_isPrefix hstart
  rw [word?, word?, if_pos (by omega), if_pos h, toList_extract_add, toList_extract_add,
    take_drop_of_isPrefix hstart h]

theorem word?_of_isPrefix {width position n : Nat} (h : short.word? width position = some n) :
    full.word? width position = some n := by
  rw [word?_eq_of_isPrefix hstart (word?_fits h), h]

theorem string?_eq_of_isPrefix {position limit : Nat} (hlimit : 0 < limit)
    (hfits : position + limit ≤ short.size) :
    full.string? position limit = short.string? position limit := by
  have hsize := size_le_of_isPrefix hstart
  rw [string?_eq (by omega), string?_eq (by omega), take_drop_of_isPrefix hstart hfits]

end Prefix

theorem stable_word? (width position : Nat) : Stable (word? width · position) :=
  fun _ _ hstart _ h => word?_of_isPrefix hstart h

theorem stable_const {α : Type} (found : Option α) : Stable fun _ => found :=
  fun _ _ _ _ h => h

theorem Stable.bind {α β : Type} {read : Bytes → Option α} {next : α → Bytes → Option β}
    (hread : Stable read) (hnext : ∀ a, Stable (next a)) :
    Stable fun data => (read data).bind (next · data) := by
  intro short full hstart b hb
  obtain ⟨a, ha, hb⟩ := Option.bind_eq_some_iff.mp hb
  exact Option.bind_eq_some_iff.mpr
    ⟨a, hread short full hstart a ha, hnext a short full hstart b hb⟩

theorem Stable.filter {α : Type} {read : Bytes → Option α} (hread : Stable read) (p : α → Bool) :
    Stable fun data => (read data).filter p := by
  intro short full hstart a ha
  rw [Option.filter_eq_some_iff] at ha ⊢
  exact ⟨hread short full hstart a ha.1, ha.2⟩

/-- The bytes before a position; a negative position is counted from the end. -/
def upTo (data : Bytes) (stop : Int) : Bytes :=
  data.extract 0 (if stop < 0 then (data.size + stop).toNat else stop.toNat)

theorem upTo_isPrefix (data : Bytes) (stop : Int) : (data.upTo stop).toList <+: data.toList := by
  rw [upTo, Array.toList_extract, List.extract_eq_take_drop, List.drop_zero]
  exact List.take_prefix _ _

/-! ## Hexadecimal text -/

theorem byte_digits (b : UInt8) : b.toNat / 16 < 16 ∧ b.toNat % 16 < 16 ∧
    UInt8.ofNat (b.toNat / 16 * 16 + b.toNat % 16) = b := by
  refine ⟨Nat.div_lt_of_lt_mul b.toNat_lt, Nat.mod_lt b.toNat (by omega), ?_⟩
  rw [Nat.div_add_mod', UInt8.ofNat_toNat]

theorem readHex_hexPair (position : Nat) (b : UInt8) (rest : List Char) :
    readHex position (hexPair b ++ rest) = (readHex (position + 2) rest).map (b :: ·) := by
  obtain ⟨hhigh, hlow, hbyte⟩ := byte_digits b
  rw [hexPair, List.cons_append, List.cons_append, List.nil_append, readHex.eq_def]
  simp only [(Text.digitChar_plain _ hhigh).2, Text.hexValue?_digitChar _ hhigh,
    Text.hexValue?_digitChar _ hlow, hbyte]
  cases readHex (position + 2) rest with
  | ok bytes => rfl
  | error p => rfl

theorem readHex_flatMap (position : Nat) (bs : List UInt8) :
    readHex position (bs.flatMap hexPair) = .ok bs := by
  induction bs generalizing position with
  | nil => rfl
  | cons b bs ih =>
    rw [List.flatMap_cons, readHex_hexPair, ih]
    rfl

theorem hexPair_ascii (b : UInt8) : ∀ c ∈ hexPair b, c.toNat < 0x7F := by
  obtain ⟨hhigh, hlow, _⟩ := byte_digits b
  rw [hexPair, List.forall_mem_cons, List.forall_mem_cons]
  refine ⟨(Text.digitChar_plain _ hhigh).1, (Text.digitChar_plain _ hlow).1, ?_⟩
  simp

theorem ofHex_toHex (data : Bytes) : ofHex data.toHex = .ok data := by
  have hascii : (data.toList.flatMap hexPair).findIdx? (·.toNat ≥ 0x80) = none := by
    rw [List.findIdx?_eq_none_iff]
    intro c hc
    obtain ⟨b, _, hc⟩ := List.mem_flatMap.mp hc
    have hsmall := hexPair_ascii b c hc
    simp only [decide_eq_false_iff_not]
    omega
  rw [ofHex, toHex, String.toList_ofList, hascii]
  simp only [readHex_flatMap]
  rfl

end CodeAtlas.Bytes
