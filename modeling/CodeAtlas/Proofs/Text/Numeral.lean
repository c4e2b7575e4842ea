import CodeAtlas.Text.Quoted
import Mathlib.Data.List.TakeWhile
import Mathlib.Data.Nat.Digits.Lemmas

set_option autoImplicit false

namespace CodeAtlas.Text

/-! ## Digits of a number -/

theorem digits_zero (base : Nat) : digits base 0 = [0] := by
  rw [digits, if_pos (by omega)]

theorem digits_eq_reverse {base n : Nat} (hbase : 2 ≤ base) (hn : n ≠ 0) :
    digits base n = (Nat.digits base n).reverse := by
  induction n using digits.induct base with
  | case1 n hsmall =>
    rw [digits, if_pos hsmall, Nat.digits_of_lt base n hn (by omega), List.reverse_singleton]
  | case2 n hlarge ih =>
    have hdiv : n / base ≠ 0 := Nat.div_ne_zero_iff.mpr (by omega)
    have hsplit : Nat.digits base n = n % base :: Nat.digits base (n / base) :=
      Nat.digits_def' (by omega) (by omega)
    rw [digits, if_neg hlarge, ih hdiv, hsplit, List.reverse_cons]

theorem digits_lt {base : Nat} (hbase : 2 ≤ base) (n : Nat) : ∀ d ∈ digits base n, d < base := by
  intro d hd
  by_cases hn : n = 0
  · rw [hn, digits_zero, List.mem_singleton] at hd
    omega
  · rw [digits_eq_reverse hbase hn, List.mem_reverse] at hd
    exact Nat.digits_lt_base hbase hd

theorem digits_ne_nil (base n : Nat) : digits base n ≠ [] := by
  rw [digits]
  split
  · exact List.cons_ne_nil n []
  · exact List.append_ne_nil_of_right_ne_nil _ (List.cons_ne_nil _ [])

theorem exists_digits_eq_cons (base n : Nat) : ∃ d ds, digits base n = d :: ds :=
  List.exists_cons_of_ne_nil (digits_ne_nil base n)

theorem digits_head_pos {base n d : Nat} {ds : List Nat} (hbase : 2 ≤ base) (hn : 0 < n)
    (hds : digits base n = d :: ds) : 0 < d := by
  have hdigits : Nat.digits base n = ds.reverse ++ [d] := by
    rw [digits_eq_reverse hbase (by omega)] at hds
    rw [← List.reverse_reverse (Nat.digits base n), hds, List.reverse_cons]
  have hlast := Nat.getLast_digit_ne_zero base (Nat.ne_of_gt hn)
  simp only [hdigits, List.getLast_append_singleton] at hlast
  exact Nat.pos_of_ne_zero hlast

theorem length_digits_le {base width n : Nat} (hbase : 2 ≤ base)
    (hn : n < Nat.pow base (width + 1)) : (digits base n).length ≤ width + 1 := by
  by_cases hzero : n = 0
  · rw [hzero, digits_zero]
    simp
  · rw [digits_eq_reverse hbase hzero, List.length_reverse]
    exact (Nat.digits_length_le_iff hbase n).mpr hn

/-- The number that digits stand for after a number read so far. -/
def fromDigits (base value : Nat) (ds : List Nat) : Nat :=
  ds.foldl (fun value d => value * base + d) value

theorem fromDigits_eq_ofDigits (base : Nat) (ds : List Nat) :
    fromDigits base 0 ds = Nat.ofDigits base ds.reverse := by
  rw [Nat.ofDigits_eq_foldr, List.foldr_reverse]
  simp only [fromDigits, Nat.cast_id, Nat.add_comm, Nat.mul_comm]

theorem fromDigits_digits {base : Nat} (hbase : 2 ≤ base) (n : Nat) :
    fromDigits base 0 (digits base n) = n := by
  rw [fromDigits_eq_ofDigits]
  by_cases hn : n = 0
  · simp [hn, digits_zero]
  · rw [digits_eq_reverse hbase hn, List.reverse_reverse, Nat.ofDigits_digits]

/-! ## Characters of digits -/

theorem hexValue?_digitChar : ∀ v < 16, hexValue? (digitChar v) = some v := by decide

theorem digitChar_plain :
    ∀ v < 16, (digitChar v).toNat < 0x7F ∧ isAsciiBlank (digitChar v) = false := by decide

theorem digitValue?_digitChar {base v : Nat} (hbase : base ≤ 16) (hv : v < base) :
    digitValue? base (digitChar v) = some v := by
  have hvalue : ∀ v < 16, (decimalValue? (digitChar v) <|> hexValue? (digitChar v)) = some v := by
    decide
  simp only [digitValue?, hvalue v (by omega), if_pos hv]

theorem paddedHex_eq {width n : Nat} (hn : n < Nat.pow 16 (width + 1)) :
    ∃ ds, paddedHex (width + 1) n = ds.map digitChar ∧ ds.length = width + 1 ∧
      (∀ d ∈ ds, d < 16) ∧ fromDigits 16 0 ds = n := by
  have hlength := length_digits_le (by omega) hn
  refine ⟨List.replicate (width + 1 - (digits 16 n).length) 0 ++ digits 16 n, ?_, ?_, ?_, ?_⟩
  · rw [paddedHex, natChars, List.map_append, List.map_replicate, List.length_map]
    rfl
  · rw [List.length_append, List.length_replicate]
    omega
  · intro d hd
    rcases List.mem_append.mp hd with hd | hd
    · rw [(List.mem_replicate.mp hd).2]
      omega
    · exact digits_lt (by omega) n d hd
  · have hdigits : fromDigits 16 0 (digits 16 n) = n := fromDigits_digits (by omega) n
    rw [fromDigits_eq_ofDigits] at hdigits ⊢
    rw [List.reverse_append, List.reverse_replicate, Nat.ofDigits_append_replicate_zero, hdigits]

theorem digitValue?_eq_none {c : Char} (hdecimal : decimalValue? c = none)
    (hhex : hexValue? c = none) (base : Nat) : digitValue? base c = none := by
  simp [digitValue?, hdecimal, hhex]

theorem readDigits_values {base : Nat} (value : Nat) {cs : List Char} {ds : List Nat}
    (h : cs.map (digitValue? base) = ds.map some) :
    readDigits base value false cs = some (fromDigits base value ds) := by
  induction cs generalizing value ds with
  | nil =>
    obtain rfl : ds = [] := List.map_eq_nil_iff.mp h.symm
    rfl
  | cons c cs ih =>
    obtain ⟨d, ds, rfl⟩ : ∃ d es, ds = d :: es := by
      cases ds with
      | nil => cases h
      | cons d ds => exact ⟨d, ds, rfl⟩
    obtain ⟨hc, hcs⟩ := List.cons.inj h
    have hplain : c ≠ '_' := by
      rintro rfl
      rw [digitValue?_eq_none (by decide) (by decide)] at hc
      cases hc
    rw [readDigits, if_neg hplain, hc]
    exact ih (value * base + d) hcs

/-- Digits in any spelling are read as the number that their values stand for. -/
theorem readNatural_values {base : Nat} {cs : List Char} {ds : List Nat} (hne : ds ≠ [])
    (h : cs.map (digitValue? base) = ds.map some) :
    readNatural base cs = some (fromDigits base 0 ds) := by
  cases cs with
  | nil => exact absurd (List.map_eq_nil_iff.mp h.symm) hne
  | cons c cs =>
    obtain ⟨d, ds, rfl⟩ := List.exists_cons_of_ne_nil hne
    obtain ⟨hc, hcs⟩ := List.cons.inj h
    rw [readNatural, hc]
    change readDigits base d false cs = _
    rw [readDigits_values d hcs, fromDigits, fromDigits, List.foldl_cons, Nat.zero_mul,
      Nat.zero_add]

theorem readNatural_natChars {base : Nat} (hbase : 2 ≤ base) (hlarge : base ≤ 16) (n : Nat) :
    readNatural base (natChars base n) = some n := by
  have hvalues : (natChars base n).map (digitValue? base) = (digits base n).map some := by
    rw [natChars, List.map_map]
    apply List.map_congr_left
    intro d hd
    exact digitValue?_digitChar hlarge (digits_lt hbase n d hd)
  rw [readNatural_values (digits_ne_nil base n) hvalues, fromDigits_digits hbase]

theorem dropWhile_of_forall_not {α : Type} {p : α → Bool} {xs : List α}
    (h : ∀ x ∈ xs, p x = false) : xs.dropWhile p = xs := by
  cases xs with
  | nil => rfl
  | cons x xs =>
    rw [List.dropWhile_cons, h x List.mem_cons_self]
    rfl

theorem trimWhile_enclosed {α : Type} {p : α → Bool} {lead body trail : List α}
    (hlead : ∀ x ∈ lead, p x = true) (hbody : ∀ x ∈ body, p x = false)
    (htrail : ∀ x ∈ trail, p x = true) : trimWhile p (lead ++ (body ++ trail)) = body := by
  rw [trimWhile, List.dropWhile_append_of_pos hlead]
  cases body with
  | nil =>
    rw [List.nil_append, List.dropWhile_eq_nil_iff.mpr htrail]
    rfl
  | cons x body =>
    have hstays : (x :: body ++ trail).dropWhile p = x :: body ++ trail := by
      rw [List.cons_append, List.dropWhile_cons, hbody x List.mem_cons_self]
      rfl
    have hbehind : ∀ y ∈ trail.reverse, p y = true := fun y hy => htrail y (List.mem_reverse.mp hy)
    have hinside : ∀ y ∈ (x :: body).reverse, p y = false :=
      fun y hy => hbody y (List.mem_reverse.mp hy)
    rw [hstays, List.reverse_append, List.dropWhile_append_of_pos hbehind,
      dropWhile_of_forall_not hinside, List.reverse_reverse]

theorem readInteger_of_plain {base : Nat} {cs : List Char}
    (h : ∀ c ∈ cs, c.toNat < 0x7F ∧ isAsciiBlank c = false) :
    readInteger base (String.ofList cs) = readSigned base cs := by
  have hsame : cs.map numeralChar = cs := by
    conv => rhs; rw [← List.map_id cs]
    apply List.map_congr_left
    intro c hc
    rw [numeralChar, if_pos (h c hc).1]
    rfl
  have htrim := trimWhile_enclosed (List.forall_mem_nil _) (fun c hc => (h c hc).2)
    (List.forall_mem_nil _)
  rw [List.nil_append, List.append_nil] at htrim
  rw [readInteger, String.toList_ofList, hsame, htrim]

theorem dropMark_marked {m : Char} (hm : m = 'x' ∨ m = 'X') {cs : List Char} {n : Nat}
    (h : readNatural 16 cs = some n) : dropMark 16 ('0' :: m :: cs) = cs := by
  rw [dropMark, if_pos ⟨rfl, hm⟩]
  rintro after rfl
  rw [readNatural, digitValue?_eq_none (by decide) (by decide)] at h
  cases h

theorem forall_mem_natChars {base : Nat} {P : Char → Prop} (hbase : 2 ≤ base)
    (hP : ∀ d < base, P (digitChar d)) (n : Nat) : ∀ c ∈ natChars base n, P c := by
  intro c hc
  obtain ⟨d, hd, rfl⟩ := List.mem_map.mp hc
  exact hP d (digits_lt hbase n d hd)

theorem forall_mem_signed {P : Char → Prop} {z : Int} {absolute : Nat → List Char} (hminus : P '-')
    (hP : ∀ c ∈ absolute z.natAbs, P c) : ∀ c ∈ signed z absolute, P c := by
  rw [signed]
  split
  · exact List.forall_mem_cons.mpr ⟨hminus, hP⟩
  · exact hP

/-- Where a natural number is read there is no sign in front of it. -/
theorem readSigned_of_readNatural {base : Nat} {cs : List Char} {n : Nat}
    (h : readNatural base (dropMark base cs) = some n) : readSigned base cs = some (n : Int) := by
  rw [readSigned.eq_def]
  split
  · next rest =>
    change readNatural base ('-' :: rest) = _ at h
    rw [readNatural, digitValue?_eq_none (by decide) (by decide)] at h
    cases h
  · next rest =>
    change readNatural base ('+' :: rest) = _ at h
    rw [readNatural, digitValue?_eq_none (by decide) (by decide)] at h
    cases h
  · rw [h]
    rfl

theorem readSigned_signed {base : Nat} {z : Int} {absolute : Nat → List Char}
    (h : readNatural base (dropMark base (absolute z.natAbs)) = some z.natAbs) :
    readSigned base (signed z absolute) = some z := by
  rw [signed]
  split
  · rw [readSigned, h]
    change some (-(z.natAbs : Int)) = some z
    congr 1
    omega
  · rw [readSigned_of_readNatural h]
    congr 1
    omega

theorem readInteger_hex (z : Int) : readInteger 16 (hex z) = some z := by
  have hmarked : ∀ c ∈ '0' :: 'x' :: natChars 16 z.natAbs,
      c.toNat < 0x7F ∧ isAsciiBlank c = false := by
    rw [List.forall_mem_cons, List.forall_mem_cons]
    exact ⟨by decide, by decide, forall_mem_natChars (by omega) digitChar_plain z.natAbs⟩
  have hread : readNatural 16 (natChars 16 z.natAbs) = some z.natAbs :=
    readNatural_natChars (by omega) (by omega) z.natAbs
  rw [hex, readInteger_of_plain (forall_mem_signed (by decide) hmarked)]
  apply readSigned_signed
  rw [dropMark_marked (Or.inl rfl) hread, hread]

theorem hex_injective {y z : Int} (h : hex y = hex z) : y = z := by
  have hread := readInteger_hex y
  rw [h, readInteger_hex z] at hread
  exact (Option.some.inj hread).symm

end CodeAtlas.Text
