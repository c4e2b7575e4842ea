import CodeAtlas.Proofs.Text.Numeral
import CodeAtlas.Proofs.Text.Words
import CodeAtlas.Report.Decode
import CodeAtlas.Report.Encode
import Mathlib.Data.List.Forall2

set_option autoImplicit false

namespace CodeAtlas.Text

def Recased (c d : Char) : Prop := d = c ∨ d = c.toLower ∨ d = c.toUpper

/-- The text consists of the characters and of blanks around them. -/
def Encloses (text : String) (cs : List Char) : Prop :=
  ∃ lead trail, Blanks lead ∧ Blanks trail ∧ text.toList = lead ++ (cs ++ trail)

/-! ## Blanks around a text -/

theorem isBlank_of_isAsciiBlank {c : Char} (h : isAsciiBlank c = true) : isBlank c = true := by
  rcases Bool.or_eq_true_iff.mp h with h | h
  · obtain rfl := eq_of_beq h
    decide
  · obtain ⟨hlow, hhigh⟩ := Bool.and_eq_true_iff.mp h
    have hlow : 9 ≤ c.toNat := of_decide_eq_true hlow
    have hhigh : c.toNat ≤ 13 := of_decide_eq_true hhigh
    simp [isBlank, blankRanges, CharRanges.covers, hlow, hhigh]

theorem Encloses.readAddress_eq {text : String} {cs : List Char} (h : Encloses text cs)
    (hplain : ∀ c ∈ cs, c.toNat < 0x7F ∧ isBlank c = false) :
    readAddress text = readSigned (addressBase (String.ofList cs)) cs := by
  obtain ⟨lead, trail, hlead, htrail, htext⟩ := h
  have htrim : trim text = String.ofList cs := by
    rw [trim, htext, trimWhile_enclosed hlead (fun c hc => (hplain c hc).2) htrail]
  rw [readAddress, htrim, readInteger_of_plain]
  intro c hc
  refine ⟨(hplain c hc).1, Bool.eq_false_iff.mpr ?_⟩
  intro hblank
  have hinside := (hplain c hc).2
  rw [isBlank_of_isAsciiBlank hblank] at hinside
  cases hinside

/-! ## Shown addresses -/

theorem toList_showAddress {a : Int} (ha : 0 ≤ a) :
    (showAddress (some a)).toList =
      '0' :: 'x' :: (digits 16 a.natAbs).map capitalDigitChar := by
  have hsign : ¬ a < 0 := by omega
  rw [showAddress, capitalHex, signed, if_neg hsign, String.toList_append, String.toList_ofList,
    String.toList_ofList]
  rfl

theorem recased_digit {v : Nat} (hv : v < 16) {c : Char} (h : Recased (capitalDigitChar v) c) :
    digitValue? 16 c = some v ∧ c.toNat < 0x7F ∧ isBlank c = false := by
  have hsame : ∀ v < 16, digitValue? 16 (capitalDigitChar v) = some v ∧
      (capitalDigitChar v).toNat < 0x7F ∧ isBlank (capitalDigitChar v) = false := by decide
  have hlower : ∀ v < 16, digitValue? 16 (capitalDigitChar v).toLower = some v ∧
      (capitalDigitChar v).toLower.toNat < 0x7F ∧ isBlank (capitalDigitChar v).toLower = false := by
    decide
  have hupper : ∀ v < 16, digitValue? 16 (capitalDigitChar v).toUpper = some v ∧
      (capitalDigitChar v).toUpper.toNat < 0x7F ∧ isBlank (capitalDigitChar v).toUpper = false := by
    decide
  rcases h with rfl | rfl | rfl
  · exact hsame v hv
  · exact hlower v hv
  · exact hupper v hv

theorem recased_digits {ds : List Nat} (hds : ∀ d ∈ ds, d < 16) {cs : List Char}
    (h : List.Forall₂ Recased (ds.map capitalDigitChar) cs) :
    cs.map (digitValue? 16) = ds.map some ∧ ∀ c ∈ cs, c.toNat < 0x7F ∧ isBlank c = false := by
  induction ds generalizing cs with
  | nil =>
    cases h
    exact ⟨rfl, by simp⟩
  | cons d ds ih =>
    cases h with
    | cons hc hcs =>
      obtain ⟨hd, hds⟩ := List.forall_mem_cons.mp hds
      obtain ⟨hvalue, hplain⟩ := recased_digit hd hc
      obtain ⟨hvalues, hrest⟩ := ih hds hcs
      refine ⟨?_, List.forall_mem_cons.mpr ⟨hplain, hrest⟩⟩
      rw [List.map_cons, List.map_cons, hvalue, hvalues]

theorem addressBase_marked {m : Char} (hm : m = 'x' ∨ m = 'X') (cs : List Char) :
    addressBase (String.ofList ('0' :: m :: cs)) = 16 := by
  rcases hm with rfl | rfl <;> simp [addressBase, hasHexMark]

theorem readAddress_shown {a : Int} (ha : 0 ≤ a) {text : String} {shown : List Char}
    (hshown : List.Forall₂ Recased (showAddress (some a)).toList shown)
    (htext : Encloses text shown) : readAddress text = some a := by
  rw [toList_showAddress ha] at hshown
  obtain _ | @⟨_, z, _, _, hzero, _ | @⟨_, m, _, cs, hmark, hdigits⟩⟩ := hshown
  obtain rfl : z = '0' := by
    rcases hzero with rfl | rfl | rfl <;> rfl
  have hm : m = 'x' ∨ m = 'X' := by
    rcases hmark with rfl | rfl | rfl
    · exact Or.inl rfl
    · exact Or.inl rfl
    · exact Or.inr rfl
  obtain ⟨hvalues, hplain⟩ := recased_digits (digits_lt (by omega) a.natAbs) hdigits
  have hread : readNatural 16 cs = some a.natAbs := by
    rw [readNatural_values (digits_ne_nil 16 a.natAbs) hvalues,
      fromDigits_digits (by omega)]
  have hmarked : ∀ c ∈ '0' :: m :: cs, c.toNat < 0x7F ∧ isBlank c = false := by
    rw [List.forall_mem_cons, List.forall_mem_cons]
    refine ⟨by decide, ?_, hplain⟩
    rcases hm with rfl | rfl <;> decide
  have hnumber : readNatural 16 (dropMark 16 ('0' :: m :: cs)) = some a.natAbs := by
    rw [dropMark_marked hm hread, hread]
  rw [htext.readAddress_eq hmarked, addressBase_marked hm, readSigned_of_readNatural hnumber,
    Int.natAbs_of_nonneg ha]

/-! ## Addresses in base ten -/

theorem dropMark_ten (cs : List Char) : dropMark 10 cs = cs := by
  rw [dropMark.eq_def]
  split
  · simp
  · rfl

theorem addressBase_unmarked {cs : List Char} (h : ∀ c ∈ cs, c ≠ 'x' ∧ c ≠ 'X') :
    addressBase (String.ofList cs) = 10 := by
  have hmark : hasHexMark (String.ofList cs) = false := by
    rw [hasHexMark, String.toList_ofList]
    split
    · next c rest =>
      obtain ⟨hsmall, hcapital⟩ := h c (by simp)
      simp [hsmall, hcapital]
    · rfl
  rw [addressBase, hmark]
  rfl

theorem readAddress_decimal (a : Int) {text : String} (h : Encloses text (decimal a).toList) :
    readAddress text = some a := by
  have hdigit : ∀ d < 10, (digitChar d ≠ 'x' ∧ digitChar d ≠ 'X') ∧
      (digitChar d).toNat < 0x7F ∧ isBlank (digitChar d) = false := by
    decide
  have hchars : ∀ c ∈ signed a (natChars 10),
      (c ≠ 'x' ∧ c ≠ 'X') ∧ c.toNat < 0x7F ∧ isBlank c = false :=
    forall_mem_signed (by decide) (forall_mem_natChars (by omega) hdigit a.natAbs)
  rw [decimal, String.toList_ofList] at h
  rw [h.readAddress_eq fun c hc => (hchars c hc).2,
    addressBase_unmarked fun c hc => (hchars c hc).1]
  apply readSigned_signed
  rw [dropMark_ten]
  exact readNatural_natChars (by omega) (by omega) a.natAbs

/-- An address is read back from the key of a report, which no other address has, from its text in
base ten, and, unless it is negative, from the text that is shown to a reader, in letters of either
case. Blanks may stand around the last two. -/
theorem addressTexts_lossless (a : Int) :
    Report.readKey (Report.key a) = .ok a ∧ (∀ b, Report.key a = Report.key b → a = b) ∧
    (∀ text, Encloses text (decimal a).toList → readAddress text = some a) ∧
    (0 ≤ a → ∀ text shown, List.Forall₂ Recased (showAddress (some a)).toList shown →
      Encloses text shown → readAddress text = some a) := by
  refine ⟨?_, fun b => hex_injective, fun text => readAddress_decimal a,
    fun ha text shown => readAddress_shown ha⟩
  rw [Report.readKey, Report.key, readInteger_hex]

example : readAddress "\t0X1fF \n" = some 0x1FF := by decide

end CodeAtlas.Text
