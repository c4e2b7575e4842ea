import CodeAtlas.Proofs.Run.Pass
import CodeAtlas.Proofs.Scan

set_option autoImplicit false

namespace CodeAtlas.Scan

/-- The match of a text at an offset: the bytes that it takes up and, under a label, the text that
the bytes of its characters stand for. -/
structure Shows (label : String) (offset : Nat) (bytes : Bytes) (chars : List UInt8) (m : Match) :
    Prop where
  address : m.address = offset
  offset : m.offset = offset
  bytes : m.bytes = bytes
  text : ∃ text, Bytes.strictText? chars = some text ∧
    text.toList.map (·.toNat) = chars.map (·.toNat) ∧ m.text = some text ∧
    m.description = some (label ++ text)

theorem shows_asciiText (label : String) (offset : Nat) (bytes : Bytes) {chars : List UInt8}
    (h : ∀ b ∈ chars, b < 0x80) :
    Shows label offset bytes chars (Match.inBuffer offset bytes
      (some (label ++ Bytes.asciiText chars)) (some (Bytes.asciiText chars))) := by
  refine ⟨rfl, rfl, rfl, Bytes.asciiText chars, Bytes.strictText?_eq h, ?_, rfl, rfl⟩
  rw [Bytes.asciiText, String.toList_ofList, List.map_map]
  exact List.map_congr_left fun b hb => Bytes.toNat_asciiChar (h b hb)

/-! ## Strings -/

def TextAt (data : Bytes) (i : Nat) : Prop :=
  ∃ b, data[i]? = some b ∧ ((0x20 ≤ b ∧ b ≤ 0x7E) ∨ b = 0x09 ∨ b = 0x0A ∨ b = 0x0D)

theorem inClass_isText (data : Bytes) : InClass isText data.toList = TextAt data := by
  funext i
  simp [InClass, TextAt, isText, isPrintable, or_assoc]

theorem stringMatch_shows {data : Bytes} {r : Run UInt8} (hr : r.IsMaximal isText data.toList) :
    Shows "String: " r.start (data.extract r.start r.stop) (data.extract r.start r.stop).toList
      (stringMatch r) := by
  have hitems : r.items = (data.extract r.start r.stop).toList := by
    rw [hr.items, Array.toList_extract]
  have hascii : ∀ b ∈ r.items, b < 0x80 := fun b hb =>
    isText_lt (runsFrom_items ((mem_runs_iff isText data.toList r).mpr hr) b hb)
  have hshows := shows_asciiText "String: " r.start r.items.toArray hascii
  rw [hitems] at hshows
  rw [stringMatch, hitems]
  exact hshows

/-- The strings are the maximal stretches of text bytes of at least the given length, each with its
bytes and the text that a strict decoder reads from them; one pass over the buffer finds them. -/
theorem strings_exact (minLength : Int) (data : Bytes) :
    ListsStretches (fun start stop => MaximalStretch (TextAt data) start stop ∧
          minLength ≤ (stop : Int) - start)
        (fun start stop => Shows "String: " start (data.extract start stop)
          (data.extract start stop).toList)
        (strings minLength data) ∧
      strings minLength data = ((Pass.ofList isText (Run.atLeast minLength) data.toList).found
        (Run.atLeast minLength)).map stringMatch := by
  constructor
  · rw [← inClass_isText]
    apply listsStretches_runs
    · exact fun start stop hwanted => hwanted.1
    · exact fun r hr => (Run.atLeast_iff minLength r).trans (and_iff_right hr.maximal).symm
    · exact fun r hr => stringMatch_shows hr
  · rw [Pass.found_ofList]
    rfl

-- The run in the middle is too short, and the end of the buffer closes the last one.
example : (strings 2 #[0x61, 0x0A, 0x80, 0x62, 0x00, 0x63, 0x64]).map (·.offset) = [0, 5] := by
  cbv

/-! ## Wide strings -/

/-- A wide character stands at the position, counted in pairs: a printable byte at the even offset
and a byte below 0x20 after it. -/
def WideAt (data : Bytes) (k : Nat) : Prop :=
  ∃ low high, data[2 * k]? = some low ∧ data[2 * k + 1]? = some high ∧
    0x20 ≤ low ∧ low ≤ 0x7E ∧ high < 0x20

def lowBytes (data : Bytes) (start stop : Nat) : List UInt8 :=
  (List.range' start (stop - start)).filterMap fun k => data[2 * k]?

theorem length_lt_two {xs : List UInt8} (h : ∀ low high rest, xs ≠ low :: high :: rest) :
    xs.length < 2 := by
  cases xs with
  | nil => exact Nat.zero_lt_two
  | cons low rest =>
    cases rest with
    | nil => exact Nat.one_lt_two
    | cons high rest => exact absurd rfl (h low high rest)

theorem getElem?_pairs (xs : List UInt8) (k : Nat) (low high : UInt8) :
    (pairs xs)[k]? = some (low, high) ↔ xs[2 * k]? = some low ∧ xs[2 * k + 1]? = some high := by
  fun_induction pairs xs generalizing k with
  | case1 first second rest ih =>
    cases k with
    | zero => simp
    | succ k => simpa [Nat.mul_succ] using ih k
  | case2 xs hshort =>
    have hlength := length_lt_two hshort
    have hnone : xs[2 * k + 1]? = none := List.getElem?_eq_none (by omega)
    simp [hnone]

theorem length_pairs (xs : List UInt8) : (pairs xs).length = xs.length / 2 := by
  fun_induction pairs xs with
  | case1 first second rest ih =>
    simp only [List.length_cons, ih]
    omega
  | case2 xs hshort =>
    rw [List.length_nil, Nat.div_eq_of_lt (length_lt_two hshort)]

theorem inClass_isWideChar (data : Bytes) :
    InClass isWideChar (pairs data.toList) = WideAt data := by
  funext k
  simp [InClass, WideAt, isWideChar, isPrintable, getElem?_pairs, and_assoc]

theorem drop_pairs {xs : List UInt8} {k : Nat} (hk : k < xs.length / 2) :
    ∃ low high, xs[2 * k]? = some low ∧
      (pairs xs).drop k = (low, high) :: (pairs xs).drop (k + 1) ∧
      xs.drop (2 * k) = low :: high :: xs.drop (2 * (k + 1)) := by
  have hpair : k < (pairs xs).length := by rwa [length_pairs]
  obtain ⟨hlow, hhigh⟩ := (getElem?_pairs xs k _ _).mp (List.getElem?_eq_getElem hpair)
  refine ⟨_, _, hlow, List.drop_eq_getElem_cons hpair, ?_⟩
  rw [List.drop_eq_getElem?_toList_append, hlow, List.drop_eq_getElem?_toList_append, hhigh]
  rfl

theorem flatMap_pairs {xs : List UInt8} {k n : Nat} (h : k + n ≤ xs.length / 2) :
    (((pairs xs).drop k).take n).flatMap (fun p => [p.1, p.2]) = (xs.drop (2 * k)).take (2 * n) := by
  induction n generalizing k with
  | zero => simp
  | succ n ih =>
    obtain ⟨low, high, _, hpairs, hbytes⟩ := drop_pairs (show k < xs.length / 2 by omega)
    rw [hpairs, hbytes, List.take_succ_cons, List.flatMap_cons, ih (by omega)]
    rfl

theorem map_fst_pairs {xs : List UInt8} {k n : Nat} (h : k + n ≤ xs.length / 2) :
    (((pairs xs).drop k).take n).map Prod.fst =
      (List.range' k n).filterMap fun i => xs[2 * i]? := by
  induction n generalizing k with
  | zero => simp
  | succ n ih =>
    obtain ⟨low, high, hlow, hpairs, _⟩ := drop_pairs (show k < xs.length / 2 by omega)
    rw [hpairs, List.take_succ_cons, List.map_cons, ih (by omega), List.range'_succ,
      List.filterMap_cons, hlow]

theorem lowBytes_lt {data : Bytes} {start stop : Nat} (h : Stretch (WideAt data) start stop) :
    ∀ b ∈ lowBytes data start stop, b < 0x80 := by
  intro b hb
  obtain ⟨k, hk, hb⟩ := List.mem_filterMap.mp hb
  rw [List.mem_range'_1] at hk
  obtain ⟨low, high, hlow, _, _, hle, _⟩ := h.2 k hk.1 (by omega)
  rw [hlow] at hb
  cases hb
  rw [UInt8.le_iff_toNat_le] at hle
  rw [UInt8.lt_iff_toNat_lt]
  exact Nat.lt_of_le_of_lt hle (by decide)

theorem wideMatch_eq {data : Bytes} {r : Run (UInt8 × UInt8)}
    (hr : r.IsMaximal isWideChar (pairs data.toList)) :
    wideMatch r = Match.inBuffer (2 * r.start) (data.extract (2 * r.start) (2 * r.stop))
      (some ("WideString: " ++ Bytes.asciiText (lowBytes data r.start r.stop)))
      (some (Bytes.asciiText (lowBytes data r.start r.stop))) := by
  have hstop := hr.maximal.stop_le
  have hlt := hr.maximal.1.1
  rw [length_pairs] at hstop
  have hitems : r.items = ((pairs data.toList).drop r.start).take (r.stop - r.start) := by
    rw [hr.items, List.extract_eq_take_drop]
  have hbytes : (r.items.flatMap fun p => [p.1, p.2]).toArray =
      data.extract (2 * r.start) (2 * r.stop) := by
    rw [hitems, flatMap_pairs (by omega), ← Array.toList_inj, Array.toList_extract,
      List.extract_eq_take_drop, Nat.mul_sub]
  have hlow : r.items.map Prod.fst = lowBytes data r.start r.stop := by
    rw [hitems, map_fst_pairs (by omega), lowBytes]
    simp only [Array.getElem?_toList]
  rw [wideMatch, hlow, hbytes]

theorem wideMatch_shows {data : Bytes} {r : Run (UInt8 × UInt8)}
    (hr : r.IsMaximal isWideChar (pairs data.toList)) :
    (wideMatch r).length = 2 * (r.stop - r.start) ∧
      Shows "WideString: " (2 * r.start) (data.extract (2 * r.start) (2 * r.stop))
        (lowBytes data r.start r.stop) (wideMatch r) := by
  have hstop := hr.maximal.stop_le
  rw [length_pairs, Array.length_toList] at hstop
  have hstretch := hr.maximal.1
  rw [inClass_isWideChar] at hstretch
  rw [wideMatch_eq hr]
  refine ⟨?_, shows_asciiText _ _ _ (lowBytes_lt hstretch)⟩
  change (data.extract (2 * r.start) (2 * r.stop)).size = _
  rw [Array.size_extract]
  omega

/-- The wide strings are the maximal stretches of wide characters that a complete pair follows and
that have at least one character and half the given length, each with its bytes and the text of its
low bytes; one pass over the pairs finds them, without the run that is open at the end. -/
theorem wideStrings_exact (minLength : Int) (data : Bytes) :
    ListsStretches (fun start stop => MaximalStretch (WideAt data) start stop ∧
          (2 * stop + 1 < data.size ∧ ¬ WideAt data stop) ∧
          max 1 (Int.fdiv minLength 2) ≤ (stop : Int) - start)
        (fun start stop m => m.length = 2 * (stop - start) ∧
          Shows "WideString: " (2 * start) (data.extract (2 * start) (2 * stop))
            (lowBytes data start stop) m)
        (wideStrings minLength data) ∧
      wideStrings minLength data = (Pass.ofList isWideChar (Run.atLeast (Int.fdiv minLength 2))
        (pairs data.toList)).closed.map wideMatch := by
  constructor
  · rw [← inClass_isWideChar]
    apply listsStretches_runs
    · exact fun start stop hwanted => hwanted.1
    · intro r hr
      have hstop : r.stop = r.start + r.length := rfl
      have hlt := hr.maximal.1.1
      have hgap := (maximalStretch_iff.mp hr.maximal).2.2
      rw [Bool.and_eq_true, decide_eq_true_eq, decide_eq_true_eq, length_pairs, Array.length_toList,
        and_iff_right hr.maximal, and_iff_left hgap]
      omega
    · exact fun r hr => wideMatch_shows hr
  · rw [Pass.closed_ofList]
    rfl

-- A zero pair closes the first run; the second is open at the end, before a single byte.
example : (wideStrings 3 #[0x61, 0x00, 0x62, 0x1F, 0x00, 0x00, 0x63, 0x00, 0x64]).map (·.bytes) =
    [#[0x61, 0x00, 0x62, 0x1F]] := by
  cbv

end CodeAtlas.Scan
