import CodeAtlas.Json.Printer
import CodeAtlas.Json.Token
import CodeAtlas.Proofs.Text.Numeral

set_option autoImplicit false

namespace CodeAtlas.Json

theorem unit?_paddedHex {n : Nat} (hn : n < 0x10000) (rest : List Char) :
    unit? (Text.paddedHex 4 n ++ rest) = some (n, rest) := by
  have hwidth : n < Nat.pow 16 (3 + 1) := hn
  obtain ⟨ds, hpadded, hlength, hlt, hvalue⟩ := Text.paddedHex_eq hwidth
  rw [hpadded]
  match ds, hlength with
  | [w, x, y, z], _ =>
    simp only [List.forall_mem_cons] at hlt
    obtain ⟨hw, hx, hy, hz, _⟩ := hlt
    simp only [List.map_cons, List.map_nil, List.cons_append, List.nil_append, unit?,
      Text.hexValue?_digitChar w hw, Text.hexValue?_digitChar x hx, Text.hexValue?_digitChar y hy,
      Text.hexValue?_digitChar z hz]
    rw [← hvalue]
    simp [Text.fromDigits]

theorem halves_char (c : Char) : isHighHalf c.toNat = false ∧ isLowHalf c.toNat = false := by
  have hvalid : c.toNat < 0xD800 ∨ 0xDFFF < c.toNat ∧ c.toNat < 0x110000 := c.valid
  simp only [isHighHalf, isLowHalf, Bool.and_eq_false_iff, decide_eq_false_iff_not]
  omega

theorem joinHalves_char (c : Char) (rest : List Char) : joinHalves c.toNat rest = (c, rest) := by
  have hunit : unitChar c.toNat = c := by
    rw [unitChar, (halves_char c).1, (halves_char c).2]
    exact Char.ofNat_toNat c
  unfold joinHalves
  rw [(halves_char c).1, hunit]
  split
  · rfl
  · rfl

theorem lowHalf?_unitEscape {n : Nat} (hlow : 0xDC00 ≤ n) (hhigh : n < 0xE000)
    (rest : List Char) : lowHalf? (unitEscape n ++ rest) = some (n, rest) := by
  have hhalf : isLowHalf n = true := by simp [isLowHalf, hlow, hhigh]
  rw [unitEscape, List.cons_append, List.cons_append, lowHalf?, if_pos ⟨rfl, rfl⟩,
    unit?_paddedHex (by omega)]
  simp [hhalf]

theorem contentChar?_unitEscape {n : Nat} (hn : n < 0x10000) (rest : List Char) :
    contentChar? (unitEscape n ++ rest) = some (joinHalves n rest) := by
  rw [unitEscape, List.cons_append, List.cons_append, contentChar?, if_pos rfl, escaped?,
    if_pos rfl, unit?_paddedHex hn, Option.map_some]

theorem joinHalves_pair {c : Char} (hc : 0x10000 ≤ c.toNat) (rest : List Char) :
    joinHalves (0xD800 + (c.toNat - 0x10000) / 0x400)
      (unitEscape (0xDC00 + (c.toNat - 0x10000) % 0x400) ++ rest) = (c, rest) := by
  have hvalid : c.toNat < 0xD800 ∨ 0xDFFF < c.toNat ∧ c.toNat < 0x110000 := c.valid
  have hhigh : isHighHalf (0xD800 + (c.toNat - 0x10000) / 0x400) = true := by
    simp only [isHighHalf, Bool.and_eq_true, decide_eq_true_eq]
    omega
  have hpair : pairChar (0xD800 + (c.toNat - 0x10000) / 0x400)
      (0xDC00 + (c.toNat - 0x10000) % 0x400) = c := by
    have hsum : 0x10000 + (0xD800 + (c.toNat - 0x10000) / 0x400 - 0xD800) * 0x400 +
        (0xDC00 + (c.toNat - 0x10000) % 0x400 - 0xDC00) = c.toNat := by
      omega
    rw [pairChar, hsum]
    exact Char.ofNat_toNat c
  rw [joinHalves, lowHalf?_unitEscape (by omega) (by omega)]
  simp [hhigh, hpair]

theorem contentChar?_charEscape (c : Char) (rest : List Char) :
    contentChar? (charEscape c ++ rest) = some (c, rest) := by
  have hvalid : c.toNat < 0xD800 ∨ 0xDFFF < c.toNat ∧ c.toNat < 0x110000 := c.valid
  rw [charEscape]
  split
  · next hbasic => rw [contentChar?_unitEscape hbasic, joinHalves_char]
  · next hbasic =>
    rw [List.append_assoc, contentChar?_unitEscape (by omega), joinHalves_pair (by omega)]

theorem contentChar?_stringChar (ascii : Bool) (c : Char) (rest : List Char) :
    contentChar? (stringChar ascii c ++ rest) = some (c, rest) := by
  unfold stringChar
  split
  · next hself =>
    have hu : c ≠ 'u' := by rintro rfl; exact absurd hself (by decide)
    have hescape : simpleEscape? c = some c := by
      rw [simpleEscape?, if_pos (hself.imp_right Or.inl)]
    simp [contentChar?, escaped?, hu, hescape]
  · next hself =>
    split
    · next h => rw [h]; rfl
    split
    · next h => rw [h]; rfl
    split
    · next h => rw [h]; rfl
    split
    · next h => rw [h]; rfl
    split
    · next h => rw [h]; rfl
    split
    · exact contentChar?_charEscape c rest
    · next hcontrol =>
      have hslash : c ≠ '\\' := fun h => hself (Or.inr h)
      have hprintable : ¬ c.toNat < 0x20 := fun h => hcontrol (Or.inl h)
      simp [contentChar?, hslash, hprintable]

theorem head?_stringChar (ascii : Bool) (c : Char) (rest : List Char) :
    (stringChar ascii c ++ rest).head? ≠ some Text.doubleQuote := by
  intro hhead
  obtain ⟨after, htext⟩ := List.head?_eq_some_iff.mp hhead
  have hread := contentChar?_stringChar ascii c rest
  -- A bare quote would be read as itself, but a quote is never written bare.
  have hquote : contentChar? (Text.doubleQuote :: after) = some (Text.doubleQuote, after) := rfl
  rw [htext, hquote] at hread
  have hc : Text.doubleQuote = c := congrArg Prod.fst (Option.some.inj hread)
  subst hc
  exact absurd (List.cons.inj htext).1 (by decide)

theorem content?_quote (rest : List Char) :
    content? (Text.doubleQuote :: rest) = some ([], rest) := by
  rw [content?, List.head?_cons, if_pos rfl, List.tail_cons]

theorem content?_char {cs after : List Char} {c : Char} (hhead : cs.head? ≠ some Text.doubleQuote)
    (hread : contentChar? cs = some (c, after)) :
    content? cs = (content? after).map fun r => (c :: r.1, r.2) := by
  rw [content?, if_neg hhead]
  split
  · next h => rw [hread] at h; cases h
  · next h => rw [hread] at h; cases h; rfl

theorem content?_text (ascii : Bool) (cs rest : List Char) :
    content? (cs.flatMap (stringChar ascii) ++ Text.doubleQuote :: rest) = some (cs, rest) := by
  induction cs with
  | nil => exact content?_quote rest
  | cons c cs ih =>
    rw [List.flatMap_cons, List.append_assoc,
      content?_char (head?_stringChar ascii c _) (contentChar?_stringChar ascii c _), ih,
      Option.map_some]

/-- The text cannot continue a number that stands before it. -/
def EndsNumber (rest : List Char) : Prop :=
  ∀ c ∈ rest.head?, c.isDigit = false ∧ c ≠ '.' ∧ c ≠ 'e' ∧ c ≠ 'E'

theorem endsNumber_nil : EndsNumber [] := by
  intro c hc
  cases hc

theorem endsNumber_cons {c : Char} (rest : List Char)
    (hc : c.isDigit = false ∧ c ≠ '.' ∧ c ≠ 'e' ∧ c ≠ 'E') : EndsNumber (c :: rest) := by
  intro d hd
  cases hd
  exact hc

theorem EndsNumber.fractionPart {rest : List Char} (h : EndsNumber rest) :
    fractionPart rest = ([], rest) := by
  unfold Json.fractionPart
  split
  · exact absurd rfl (h '.' rfl).2.1
  · rfl

theorem EndsNumber.exponentPart {rest : List Char} (h : EndsNumber rest) :
    exponentPart rest = ([], rest) := by
  cases rest with
  | nil => rfl
  | cons c rest =>
    obtain ⟨_, _, hsmall, hcapital⟩ := h c rfl
    rw [Json.exponentPart, if_neg (by simp [hsmall, hcapital])]

theorem EndsNumber.span_digits {rest ds : List Char} (h : EndsNumber rest)
    (hds : ∀ c ∈ ds, c.isDigit = true) :
    (ds ++ rest).takeWhile Char.isDigit = ds ∧ (ds ++ rest).dropWhile Char.isDigit = rest := by
  rw [List.takeWhile_append_of_pos hds, List.dropWhile_append_of_pos hds]
  cases rest with
  | nil => simp
  | cons c rest => simp [(h c rfl).1]

theorem isDigit_digitChar : ∀ d < 10, (Text.digitChar d).isDigit = true := by decide

theorem isDigit_natChars (n : Nat) : ∀ c ∈ Text.natChars 10 n, c.isDigit = true := by
  intro c hc
  obtain ⟨d, hd, rfl⟩ := List.mem_map.mp hc
  exact isDigit_digitChar d (Text.digits_lt (by omega) n d hd)

theorem foldl_digitChar (value : Nat) {ds : List Nat} (hds : ∀ d ∈ ds, d < 10) :
    (ds.map Text.digitChar).foldl (fun n c => n * 10 + (c.toNat - '0'.toNat)) value =
      Text.fromDigits 10 value ds := by
  have hvalue : ∀ d < 10, (Text.digitChar d).toNat - '0'.toNat = d := by decide
  induction ds generalizing value with
  | nil => rfl
  | cons d ds ih =>
    obtain ⟨hd, hrest⟩ := List.forall_mem_cons.mp hds
    rw [List.map_cons, List.foldl_cons, hvalue d hd, ih _ hrest]
    rfl

theorem digitsValue_natChars (n : Nat) : digitsValue (Text.natChars 10 n) = n := by
  rw [digitsValue, Text.natChars, foldl_digitChar 0 (Text.digits_lt (by omega) n),
    Text.fromDigits_digits (by omega)]

theorem wholePart?_natChars (n : Nat) {rest : List Char} (h : EndsNumber rest) :
    wholePart? (Text.natChars 10 n ++ rest) = some (Text.natChars 10 n, rest) := by
  have hdigits := isDigit_natChars n
  rcases Nat.eq_zero_or_pos n with rfl | hn
  · have hzero : Text.natChars 10 0 = ['0'] := by
      rw [Text.natChars, Text.digits]
      rfl
    rw [hzero]
    rfl
  · obtain ⟨d, ds, hds⟩ := Text.exists_digits_eq_cons 10 n
    have hlt : d < 10 := Text.digits_lt (by omega) n d (by rw [hds]; exact List.mem_cons_self ..)
    have hpos : 0 < d := Text.digits_head_pos (by omega) hn hds
    have hnonzero : ∀ d < 10, 0 < d → Text.digitChar d ≠ '0' := by decide
    rw [Text.natChars, hds, List.map_cons] at hdigits ⊢
    obtain ⟨hhead, htail⟩ := List.forall_mem_cons.mp hdigits
    obtain ⟨htake, hdrop⟩ := h.span_digits htail
    rw [List.cons_append, wholePart?, if_neg (hnonzero d hlt hpos), if_pos hhead, htake, hdrop]

theorem number?_natChars (negative : Bool) (n : Nat) {rest : List Char} (h : EndsNumber rest) :
    number? negative (Text.natChars 10 n ++ rest) =
      some (.number (if negative then -(n : Int) else n), rest) := by
  rw [number?, wholePart?_natChars n h]
  simp [h.fractionPart, h.exponentPart, digitsValue_natChars]

theorem token?_string (ascii : Bool) (s : String) (rest : List Char) :
    token? (stringText ascii s ++ rest) = some (.scalar (.string s), rest) := by
  have hmark : mark? Text.doubleQuote = none := by decide
  rw [stringText, List.cons_append, List.cons_append, List.append_assoc, token?, hmark]
  simp [content?_text]

theorem token?_digit {d : Nat} (hd : d < 10) (rest : List Char) :
    token? (Text.digitChar d :: rest) =
      (number? false (Text.digitChar d :: rest)).map fun r => (.scalar r.1, r.2) := by
  have hmark : ∀ d < 10, mark? (Text.digitChar d) = none := by decide
  have hplain : ∀ d < 10, Text.digitChar d ≠ Text.doubleQuote ∧ Text.digitChar d ≠ '-' := by decide
  have hletter : ∀ c : Char, c.isDigit = false → (c == Text.digitChar d) = false := by
    intro c hc
    rw [beq_eq_false_iff_ne]
    rintro rfl
    rw [isDigit_digitChar d hd] at hc
    cases hc
  have hword : word? (Text.digitChar d :: rest) = none := by
    simp [word?, wordValues, List.isPrefixOf, hletter]
  rw [token?, hmark d hd]
  simp only [hword, if_neg (hplain d hd).1, if_neg (hplain d hd).2]

theorem token?_minus {d : Nat} (hd : d < 10) (rest : List Char) :
    token? ('-' :: Text.digitChar d :: rest) =
      (number? true (Text.digitChar d :: rest)).map fun r => (.scalar r.1, r.2) := by
  have hletter : ∀ d < 10, ('I' == Text.digitChar d) = false := by decide
  have hword : word? ('-' :: Text.digitChar d :: rest) = none := by
    simp [word?, wordValues, List.isPrefixOf, hletter d hd]
  have hmark : mark? '-' = none := by decide
  rw [token?, hmark]
  simp only [hword]
  rfl

theorem token?_number (n : Int) {rest : List Char} (h : EndsNumber rest) :
    token? ((Text.decimal n).toList ++ rest) = some (.scalar (.number n), rest) := by
  obtain ⟨d, ds, hds⟩ := Text.exists_digits_eq_cons 10 n.natAbs
  have hd : d < 10 :=
    Text.digits_lt (by omega) n.natAbs d (by rw [hds]; exact List.mem_cons_self ..)
  have hread : ∀ negative, number? negative (Text.digitChar d :: (ds.map Text.digitChar ++ rest)) =
      some (.number (if negative then -(n.natAbs : Int) else n.natAbs), rest) := by
    intro negative
    have hchars := number?_natChars negative n.natAbs h
    rwa [Text.natChars, hds] at hchars
  rw [Text.decimal, String.toList_ofList, Text.signed, Text.natChars, hds]
  split
  · have habs : -(n.natAbs : Int) = n := by omega
    rw [List.map_cons, List.cons_append, List.cons_append, token?_minus hd, hread true, if_pos rfl,
      habs, Option.map_some]
  · have habs : (n.natAbs : Int) = n := by omega
    rw [List.map_cons, List.cons_append, token?_digit hd, hread false, if_neg (by decide), habs,
      Option.map_some]

theorem isGap_of_token? {c : Char} {rest after : List Char} {t : Token}
    (h : token? (c :: rest) = some (t, after)) : isGap c = false := by
  cases hgap : isGap c with
  | false => rfl
  | true =>
    simp only [isGap, Bool.or_eq_true, beq_iff_eq] at hgap
    rcases hgap with ((rfl | rfl) | rfl) | rfl <;>
      simp [token?, mark?, Text.doubleQuote, word?, wordValues, List.isPrefixOf, number?,
        wholePart?, Char.isDigit] at h

theorem tokens?_append {text rest : List Char} {t : Token} (htext : text ≠ [])
    (h : token? (text ++ rest) = some (t, rest)) :
    tokens? (text ++ rest) = (tokens? rest).map (t :: ·) := by
  obtain ⟨c, cs, rfl⟩ := List.exists_cons_of_ne_nil htext
  have hgap := isGap_of_token? h
  have hshorter : rest.length ≤ (cs ++ rest).length := by
    rw [List.length_append]
    omega
  rw [List.cons_append] at h ⊢
  rw [tokens?, hgap, h]
  simp only [if_pos hshorter]
  rfl

theorem tokens?_gap {gap : List Char} (hgap : ∀ c ∈ gap, isGap c = true) (rest : List Char) :
    tokens? (gap ++ rest) = tokens? rest := by
  induction gap with
  | nil => rfl
  | cons c gap ih =>
    obtain ⟨hc, hrest⟩ := List.forall_mem_cons.mp hgap
    rw [List.cons_append, tokens?, if_pos hc, ih hrest]

theorem tokens?_mark {c : Char} {t : Token} (h : mark? c = some t) (rest : List Char) :
    tokens? (c :: rest) = (tokens? rest).map (t :: ·) := by
  have htoken : token? ([c] ++ rest) = some (t, rest) := by
    rw [List.singleton_append, token?, h]
  exact tokens?_append (List.cons_ne_nil c []) htoken

theorem tokens?_string (ascii : Bool) (s : String) (rest : List Char) :
    tokens? (stringText ascii s ++ rest) = (tokens? rest).map (.scalar (.string s) :: ·) :=
  tokens?_append (List.cons_ne_nil _ _) (token?_string ascii s rest)

end CodeAtlas.Json
