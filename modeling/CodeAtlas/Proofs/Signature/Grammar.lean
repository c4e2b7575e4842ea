import CodeAtlas.Proofs.Buffer
import CodeAtlas.Proofs.Text.Words
import CodeAtlas.Signature
import Mathlib.Data.List.Forall2

set_option autoImplicit false

namespace CodeAtlas

theorem mapM_eq_some_iff {α β : Type} {f : α → Option β} {xs : List α} {ys : List β} :
    xs.mapM f = some ys ↔ List.Forall₂ (fun x y => f x = some y) xs ys := by
  induction xs generalizing ys with
  | nil => simp [eq_comm]
  | cons x xs ih =>
    rw [List.mapM_cons, List.forall₂_cons_left_iff]
    constructor
    · intro h
      obtain ⟨y, hy, h⟩ := Option.bind_eq_some_iff.mp h
      obtain ⟨rest, hrest, h⟩ := Option.bind_eq_some_iff.mp h
      exact ⟨y, rest, hy, ih.mp hrest, (Option.some.inj h).symm⟩
    · rintro ⟨y, rest, hy, hrest, rfl⟩
      rw [hy, ih.mpr hrest]
      rfl

theorem mapM_isSome_iff {α β : Type} {f : α → Option β} {xs : List α} :
    (xs.mapM f).isSome = true ↔ ∀ x ∈ xs, (f x).isSome = true := by
  simp only [Option.isSome_iff_exists, mapM_eq_some_iff]
  induction xs with
  | nil => simp
  | cons x xs ih =>
    rw [List.forall_mem_cons, ← ih]
    constructor
    · rintro ⟨_, hall⟩
      obtain ⟨y, rest, hy, hrest, _⟩ := List.forall₂_cons_left_iff.mp hall
      exact ⟨⟨y, hy⟩, rest, hrest⟩
    · rintro ⟨⟨y, hy⟩, rest, hrest⟩
      exact ⟨y :: rest, List.Forall₂.cons hy hrest⟩

namespace Signature

/-! ## Words -/

def IsHexDigit (c : Char) : Prop :=
  ('0' ≤ c ∧ c ≤ '9') ∨ ('a' ≤ c ∧ c ≤ 'f') ∨ ('A' ≤ c ∧ c ≤ 'F')

def IsPlaceWord (word : String) : Prop :=
  word = "??" ∨ ∃ high low, word.toList = [high, low] ∧ IsHexDigit high ∧ IsHexDigit low

theorem hexValue?_isSome_iff (c : Char) :
    (Text.hexValue? c).isSome = true ↔ IsHexDigit c := by
  unfold Text.hexValue? IsHexDigit
  split
  · next h => simp [h]
  · next hdigit =>
    split
    · next h => simp [h]
    · next hsmall =>
      split
      · next h => simp [h]
      · next hcapital => simp [hdigit, hsmall, hcapital]

theorem place?_pair {word : String} {high low : Char} (hword : word.toList = [high, low])
    (hdigits : ¬ (high = '?' ∧ low = '?')) :
    place? word = (Text.hexValue? high).bind fun h =>
      (Text.hexValue? low).map fun l => some (UInt8.ofNat (h * 16 + l)) := by
  rw [place?, hword]
  simp only [if_neg hdigits]
  cases Text.hexValue? high <;> cases Text.hexValue? low <;> rfl

theorem place?_isSome_iff (word : String) : (place? word).isSome = true ↔ IsPlaceWord word := by
  have hopen : word = "??" ↔ word.toList = ['?', '?'] := by
    rw [← String.toList_inj]
    rfl
  rw [IsPlaceWord, hopen]
  by_cases hpair : ∃ high low, word.toList = [high, low]
  · obtain ⟨high, low, hword⟩ := hpair
    by_cases hmarks : high = '?' ∧ low = '?'
    · simp [place?, hword, hmarks]
    · have hdigits : (place? word).isSome = true ↔ IsHexDigit high ∧ IsHexDigit low := by
        rw [place?_pair hword hmarks, ← hexValue?_isSome_iff, ← hexValue?_isSome_iff]
        cases Text.hexValue? high <;> cases Text.hexValue? low <;> simp
      rw [hdigits, hword]
      simp [hmarks]
  · have hnone : place? word = none := by
      rw [place?]
      split
      · next high low hword => exact absurd ⟨high, low, hword⟩ hpair
      · rfl
    rw [hnone]
    constructor
    · intro h
      cases h
    · rintro (hword | ⟨high, low, hword, _⟩)
      · exact absurd ⟨_, _, hword⟩ hpair
      · exact absurd ⟨_, _, hword⟩ hpair

/-! ## Reading -/

theorem parse?_eq (text : String) (hne : Text.words text ≠ []) :
    parse? text = (Text.words text).mapM place? := by
  rw [parse?]
  split
  · next hnil => exact absurd hnil hne
  · rfl

theorem parse?_isSome_iff (text : String) : (parse? text).isSome = true ↔
    Text.words text ≠ [] ∧ ∀ w ∈ Text.words text, IsPlaceWord w := by
  by_cases hnil : Text.words text = []
  · simp [parse?, hnil]
  · simp only [parse?_eq text hnil, mapM_isSome_iff, place?_isSome_iff, ne_eq, hnil,
      not_false_eq_true, true_and]

theorem parse?_length {text : String} {s : Signature} (h : parse? text = some s) :
    s.length = (Text.words text).length := by
  by_cases hnil : Text.words text = []
  · simp [parse?, hnil] at h
  · rw [parse?_eq text hnil, mapM_eq_some_iff] at h
    exact h.length_eq.symm

/-! ## Printing -/

/-- A place as it is printed: in which letters its two digits are, and the blanks behind it. -/
structure Printed where
  place : Option UInt8
  highCapital : Bool
  lowCapital : Bool
  gap : List Char

def printedDigit (capital : Bool) (v : Nat) : Char :=
  if capital then Text.capitalDigitChar v else Text.digitChar v

namespace Printed

def word (p : Printed) : List Char :=
  match p.place with
  | none => ['?', '?']
  | some b => [printedDigit p.highCapital (b.toNat / 16), printedDigit p.lowCapital (b.toNat % 16)]

end Printed

def print (lead : List Char) (ps : List Printed) : String :=
  String.ofList (Text.spread lead (ps.map fun p => (p.word, p.gap)))

theorem hexValue?_printedDigit (capital : Bool) :
    ∀ v < 16, Text.hexValue? (printedDigit capital v) = some v := by
  cases capital <;> decide

theorem printedDigit_letter (capital : Bool) :
    ∀ v < 16, printedDigit capital v ≠ '?' ∧ Text.isBlank (printedDigit capital v) = false := by
  cases capital <;> decide

theorem word_isWord (p : Printed) : Text.IsWord p.word := by
  rw [Printed.word]
  split
  · have hmark : Text.isBlank '?' = false := by decide
    exact ⟨List.cons_ne_nil _ _, by simp [hmark]⟩
  · next b _ =>
    obtain ⟨hhigh, hlow, _⟩ := Bytes.byte_digits b
    have hhighLetter := (printedDigit_letter p.highCapital _ hhigh).2
    have hlowLetter := (printedDigit_letter p.lowCapital _ hlow).2
    exact ⟨List.cons_ne_nil _ _, by simp [hhighLetter, hlowLetter]⟩

theorem place?_word (p : Printed) : place? (String.ofList p.word) = some p.place := by
  rw [Printed.word]
  split
  · next hplace =>
    rw [hplace]
    rfl
  · next b hplace =>
    obtain ⟨hhigh, hlow, hbyte⟩ := Bytes.byte_digits b
    have hnotOpen := (printedDigit_letter p.highCapital _ hhigh).1
    rw [place?_pair (String.toList_ofList ..) fun h => hnotOpen h.1,
      hexValue?_printedDigit _ _ hhigh, hexValue?_printedDigit _ _ hlow, hplace, Option.bind_some,
      Option.map_some, hbyte]

theorem words_print {lead : List Char} {ps : List Printed}
    (hseparated : Text.Separated lead (ps.map (·.gap))) :
    Text.words (print lead ps) = ps.map fun p => String.ofList p.word := by
  have hwords : ∀ e ∈ ps.map (fun p => (p.word, p.gap)), Text.IsWord e.1 := by
    simp [word_isWord]
  have hgaps : Text.Separated lead ((ps.map fun p => (p.word, p.gap)).map Prod.snd) := by
    rwa [List.map_map]
  rw [print, Text.words_of_spread hgaps hwords String.toList_ofList, List.map_map]
  rfl

theorem parse?_print {lead : List Char} {ps : List Printed} (hne : ps ≠ [])
    (hseparated : Text.Separated lead (ps.map (·.gap))) :
    parse? (print lead ps) = some (ps.map (·.place)) := by
  have hwords := words_print hseparated
  have hwordsNe : Text.words (print lead ps) ≠ [] := by simpa [hwords] using hne
  rw [parse?_eq _ hwordsNe, hwords, mapM_eq_some_iff, List.forall₂_map_left_iff,
    List.forall₂_map_right_iff, List.forall₂_same]
  exact fun p _ => place?_word p

/-- A text is a signature when its words, of which there is at least one, all stand for places, and
then it has one place for each word. Printed places are read back as their bytes, zero where a place is
open, and as the open places, in whatever letters and with whatever blanks they are printed. -/
theorem parse?_inverts_print :
    (∀ text, (parse? text).isSome = true ↔
      ∃ ws, ws ≠ [] ∧ Text.Splits text ws ∧ ∀ w ∈ ws, IsPlaceWord w) ∧
    (∀ text s ws, parse? text = some s → Text.Splits text ws → s.length = ws.length) ∧
    (∀ lead ps, ps ≠ [] → Text.Separated lead (ps.map Printed.gap) →
      ∃ s, parse? (print lead ps) = some s ∧
        s.values.toList = ps.map (fun p => p.place.getD 0) ∧
        s.map Option.isNone = ps.map (fun p => p.place.isNone)) := by
  refine ⟨?_, ?_, ?_⟩
  · intro text
    simp only [parse?_isSome_iff, ← Text.words_eq_iff]
    constructor
    · rintro ⟨hne, hall⟩
      exact ⟨_, hne, rfl, hall⟩
    · rintro ⟨_, hne, rfl, hall⟩
      exact ⟨hne, hall⟩
  · intro text s ws hparse hsplits
    rw [← (Text.words_eq_iff text ws).mpr hsplits]
    exact parse?_length hparse
  · intro lead ps hne hseparated
    refine ⟨_, parse?_print hne hseparated, ?_, ?_⟩
    · simp [values]
    · simp

end Signature

end CodeAtlas
