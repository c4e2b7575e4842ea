import CodeAtlas.Proofs.Table
import CodeAtlas.Signature
import Mathlib.Data.List.Sort

/-!
# Where a signature matches

Two searches give the matches of a signature. One tries all offsets; the other looks for the bytes of
a signature without open places and, after each find, looks again from the next offset on. Both
find the offsets at which the signature fits, each once and in ascending order, so on a signature
that both can take they give the same matches.
-/

set_option autoImplicit false

namespace CodeAtlas.Signature

/-- The signature ends within the buffer, and the bytes that it fixes stand there from the offset
on. -/
def FitsAt (s : Signature) (data : Bytes) (o : Nat) : Prop :=
  o + s.length ≤ data.size ∧ ∀ i b, s[i]? = some (some b) → data[o + i]? = some b

/-! ## Trying all offsets -/

theorem matchesAt_iff (s : Signature) (data : Bytes) (o : Nat) :
    s.matchesAt data o = true ↔ ∀ i b, s[i]? = some (some b) → data[o + i]? = some b := by
  unfold matchesAt
  rw [List.all_eq_true]
  constructor
  · intro hall i b hplace
    have hallows := hall (some b, i) (List.mem_zipIdx_iff_getElem?.mpr hplace)
    simpa [allows] using hallows
  · intro hfixed e he
    have hplace := List.mem_zipIdx_iff_getElem?.mp he
    cases hbyte : e.1 with
    | none => rfl
    | some b =>
      rw [hbyte] at hplace
      simpa [allows] using hfixed e.2 b hplace

theorem mem_scan (s : Signature) (data : Bytes) (o : Nat) : o ∈ s.scan data ↔ s.FitsAt data o := by
  unfold scan FitsAt
  rw [List.mem_filter, List.mem_range, matchesAt_iff]
  apply and_congr_left'
  omega

theorem scan_pairwise (s : Signature) (data : Bytes) : (s.scan data).Pairwise (· < ·) :=
  List.pairwise_lt_range.filter _

/-! ## Looking for bytes -/

theorem occursAt_iff {bytes data : Bytes} {o : Nat} (hroom : o + bytes.size ≤ data.size) :
    occursAt bytes data o = true ↔ ∀ i b, bytes[i]? = some b → data[o + i]? = some b := by
  unfold occursAt
  rw [beq_iff_eq]
  constructor
  · intro hsame i b hb
    rw [← hsame, Array.getElem?_extract] at hb
    split at hb
    · exact hb
    · cases hb
  · intro hbytes
    apply Array.ext_getElem?
    intro i
    rw [Array.getElem?_extract, Nat.min_eq_left hroom, Nat.add_sub_cancel_left]
    by_cases hi : i < bytes.size
    · rw [if_pos hi, Array.getElem?_eq_getElem hi]
      exact hbytes i _ (Array.getElem?_eq_getElem hi)
    · rw [if_neg hi, Array.getElem?_eq_none (by omega)]

section Occurrences

variable {bytes data : Bytes}

theorem nextOccurrence?_eq_some {offset found : Nat}
    (h : nextOccurrence? bytes data offset = some found) :
    (offset ≤ found ∧ found + bytes.size ≤ data.size ∧ occursAt bytes data found = true) ∧
      ∀ o, offset ≤ o → o < found → ¬ occursAt bytes data o = true := by
  fun_induction nextOccurrence? bytes data offset with
  | case1 offset hroom hoccurs =>
    cases h
    exact ⟨⟨Nat.le_refl _, hroom, hoccurs⟩, fun o hle hlt => by omega⟩
  | case2 offset hroom hmissing ih =>
    obtain ⟨⟨hle, hfound⟩, hfirst⟩ := ih h
    refine ⟨⟨by omega, hfound⟩, ?_⟩
    intro o hfrom hbefore
    by_cases heq : o = offset
    · rw [heq]
      exact hmissing
    · exact hfirst o (by omega) hbefore
  | case3 => cases h

theorem nextOccurrence?_eq_none {offset : Nat} (h : nextOccurrence? bytes data offset = none) :
    ∀ o, offset ≤ o → o + bytes.size ≤ data.size → ¬ occursAt bytes data o = true := by
  fun_induction nextOccurrence? bytes data offset with
  | case1 => cases h
  | case2 offset hroom hmissing ih =>
    intro o hfrom hfits
    by_cases heq : o = offset
    · rw [heq]
      exact hmissing
    · exact ih h o (by omega) hfits
  | case3 offset hnoRoom =>
    intro o hfrom hfits
    omega

theorem mem_occurrences (offset o : Nat) : o ∈ occurrences bytes data offset ↔
    offset ≤ o ∧ o + bytes.size ≤ data.size ∧ occursAt bytes data o = true := by
  fun_induction occurrences bytes data offset with
  | case1 offset hnone =>
    constructor
    · intro hmem
      cases hmem
    · rintro ⟨hfrom, hfits, hoccurs⟩
      exact absurd hoccurs (nextOccurrence?_eq_none hnone o hfrom hfits)
  | case2 offset found hsome ih =>
    obtain ⟨⟨hle, hfound⟩, hfirst⟩ := nextOccurrence?_eq_some hsome
    rw [List.mem_cons, ih]
    constructor
    · rintro (rfl | ⟨hlater, hoccurs⟩)
      · exact ⟨hle, hfound⟩
      · exact ⟨by omega, hoccurs⟩
    · rintro ⟨hfrom, hoccurs⟩
      -- Overlapping occurrences count: the search goes on one offset later, not after the bytes.
      rcases Nat.lt_trichotomy o found with hbefore | heq | hafter
      · exact absurd hoccurs.2 (hfirst o hfrom hbefore)
      · exact Or.inl heq
      · exact Or.inr ⟨hafter, hoccurs⟩

theorem occurrences_pairwise (offset : Nat) :
    (occurrences bytes data offset).Pairwise (· < ·) := by
  fun_induction occurrences bytes data offset with
  | case1 => exact List.Pairwise.nil
  | case2 offset found hsome ih =>
    refine List.pairwise_cons.mpr ⟨?_, ih⟩
    intro o ho
    exact ((mem_occurrences (found + 1) o).mp ho).1

end Occurrences

/-! ## Both searches -/

theorem size_values (s : Signature) : s.values.size = s.length := by
  simp [values]

section Whole

variable {s : Signature} (hwhole : s.all (·.isSome) = true)

include hwhole

theorem getElem?_values (i : Nat) (b : UInt8) :
    s.values[i]? = some b ↔ s[i]? = some (some b) := by
  unfold values
  rw [List.getElem?_toArray, List.getElem?_map, Option.map_eq_some_iff]
  constructor
  · rintro ⟨place, hplace, hb⟩
    have hfixed := List.all_eq_true.mp hwhole place (List.mem_of_getElem? hplace)
    obtain ⟨c, rfl⟩ := Option.isSome_iff_exists.mp hfixed
    rw [hplace, ← hb, Option.getD_some]
  · intro hplace
    exact ⟨some b, hplace, rfl⟩

theorem occurs_iff_fitsAt (data : Bytes) (o : Nat) :
    (o + s.values.size ≤ data.size ∧ occursAt s.values data o = true) ↔ s.FitsAt data o := by
  unfold FitsAt
  rw [← size_values]
  apply and_congr_right
  intro hroom
  rw [occursAt_iff hroom]
  simp only [getElem?_values hwhole]

theorem occurrences_eq_scan (data : Bytes) : occurrences s.values data 0 = s.scan data := by
  apply List.Pairwise.eq_of_mem_iff (occurrences_pairwise 0) (s.scan_pairwise data)
  intro o
  rw [mem_occurrences, mem_scan, occurs_iff_fitsAt hwhole]
  simp

theorem extract_eq_values {data : Bytes} {o : Nat} (h : s.FitsAt data o) :
    data.extract o (o + s.length) = s.values := by
  have hoccurs := ((occurs_iff_fitsAt hwhole data o).mpr h).2
  unfold occursAt at hoccurs
  rwa [size_values, beq_iff_eq] at hoccurs

theorem findWhole_eq_findByScan (description : Option String) (data : Bytes) :
    s.findWhole description data = s.findByScan description data := by
  unfold findWhole findByScan
  rw [occurrences_eq_scan hwhole]
  apply List.map_congr_left
  intro o ho
  rw [extract_eq_values hwhole ((mem_scan s data o).mp ho)]

end Whole

theorem find_eq_findByScan (s : Signature) (description : Option String) (data : Bytes) :
    s.find description data = s.findByScan description data := by
  unfold find
  split
  · next hwhole => exact findWhole_eq_findByScan hwhole description data
  · rfl

/-- The matches of a text that is a signature: one for each offset at which the signature fits, in
ascending order and with the bytes that stand there. Both searches find them. -/
theorem findText_exact {pattern : String} {s : Signature} (hparse : parse? pattern = some s)
    (description : Option String) (data : Bytes) :
    ((findText pattern description data).map (·.offset)).Pairwise (· < ·) ∧
      (∀ m, m ∈ findText pattern description data ↔ ∃ o : Nat, s.FitsAt data o ∧
        m = ⟨o, o, data.extract o (o + s.length), description, none⟩) ∧
      findText pattern description data = s.findByScan description data ∧
      (s.all (·.isSome) = true →
        findText pattern description data = s.findWhole description data) := by
  have hfind : findText pattern description data = s.findByScan description data := by
    unfold findText
    rw [hparse]
    exact s.find_eq_findByScan description data
  rw [hfind]
  refine ⟨?_, ?_, rfl, ?_⟩
  · unfold findByScan
    rw [List.map_map, List.pairwise_map]
    refine (s.scan_pairwise data).imp ?_
    intro a c hlt
    exact Int.ofNat_lt.mpr hlt
  · intro m
    unfold findByScan
    rw [List.mem_map]
    simp only [mem_scan, Match.inBuffer, eq_comm]
  · intro hwhole
    exact (findWhole_eq_findByScan hwhole description data).symm

def tripledByte : Bytes := #[0, 0x9F, 0x9F, 0x9F]

theorem findText_exact_overlapping :
    parse? " 9f\t9F" = some [some 0x9F, some 0x9F] ∧
      FitsAt [some 0x9F, some 0x9F] tripledByte 1 ∧ FitsAt [some 0x9F, some 0x9F] tripledByte 2 ∧
      ((findText " 9f\t9F" none tripledByte).map (·.offset)).Pairwise (· < ·) ∧
      (∀ m, m ∈ findText " 9f\t9F" none tripledByte ↔
        ∃ o : Nat, FitsAt [some 0x9F, some 0x9F] tripledByte o ∧
          m = ⟨o, o, tripledByte.extract o (o + 2), none, none⟩) ∧
      findText " 9f\t9F" none tripledByte = findByScan [some 0x9F, some 0x9F] none tripledByte ∧
      findText " 9f\t9F" none tripledByte = findWhole [some 0x9F, some 0x9F] none tripledByte := by
  have hparse : parse? " 9f\t9F" = some [some 0x9F, some 0x9F] := by decide +kernel
  have hscan : scan [some 0x9F, some 0x9F] tripledByte = [1, 2] := by decide +kernel
  have hfits : ∀ o ∈ [1, 2], FitsAt [some 0x9F, some 0x9F] tripledByte o := by
    intro o ho
    rwa [← mem_scan, hscan]
  obtain ⟨hordered, hexact, hbyScan, hwhole⟩ := findText_exact hparse none tripledByte
  exact ⟨hparse, hfits 1 (by simp), hfits 2 (by simp), hordered, hexact, hbyScan, hwhole rfl⟩

/-! ## Several signatures -/

/-- Every name has the matches of its signature, in the order in which the names are given. -/
theorem findEach_some (patterns : Table String String) (data : Bytes) :
    ∃ found, findEach patterns (some data) = .ok found ∧
      found.entries = patterns.entries.map fun e => (e.1, findText e.2 (some e.1) data) := by
  have hmapped : (patterns.entries.mapM fun e =>
      (Match.search (findText e.2 (some e.1)) (some data)).map (e.1, ·)) =
        .ok (patterns.entries.map fun e => (e.1, findText e.2 (some e.1) data)) :=
    List.mapM_pure
  refine ⟨Table.ofList _, by rw [findEach, hmapped]; rfl, Table.ofList_entries ?_⟩
  rw [List.map_map]
  exact patterns.nodup

theorem findEach_none (patterns : Table String String) :
    findEach patterns none = .error .missingBuffer ↔ patterns.entries ≠ [] := by
  rw [findEach]
  cases patterns.entries with
  | nil => simp [Except.map, pure, Except.pure]
  | cons e rest =>
    rw [List.mapM_cons]
    simp [Match.search, Except.map, bind, Except.bind]

end CodeAtlas.Signature
