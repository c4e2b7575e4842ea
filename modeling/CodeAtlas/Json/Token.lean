import CodeAtlas.Json.Basic
import CodeAtlas.Text.Basic
import CodeAtlas.Text.Quoted

set_option autoImplicit false

namespace CodeAtlas.Json

inductive Token where
  | openBracket
  | closeBracket
  | openBrace
  | closeBrace
  | comma
  | colon
  | scalar (value : Json)
  deriving Repr, BEq

def isGap (c : Char) : Bool := c == ' ' || c == '\t' || c == '\n' || c == '\r'

def unit? : List Char → Option (Nat × List Char)
  | a :: b :: c :: d :: rest =>
    match Text.hexValue? a, Text.hexValue? b, Text.hexValue? c, Text.hexValue? d with
    | some w, some x, some y, some z => some (((w * 16 + x) * 16 + y) * 16 + z, rest)
    | _, _, _, _ => none
  | _ => none

theorem unit?_shorter {cs rest : List Char} {n : Nat} (h : unit? cs = some (n, rest)) :
    rest.length < cs.length := by
  unfold unit? at h
  split at h
  · split at h
    · cases h; simp only [List.length_cons]; omega
    · cases h
  · cases h

def isHighHalf (n : Nat) : Bool := 0xD800 ≤ n && n < 0xDC00

def isLowHalf (n : Nat) : Bool := 0xDC00 ≤ n && n < 0xE000

def unitChar (n : Nat) : Char :=
  if isHighHalf n || isLowHalf n then Char.ofNat 0xFFFD else Char.ofNat n

def pairChar (high low : Nat) : Char :=
  Char.ofNat (0x10000 + (high - 0xD800) * 0x400 + (low - 0xDC00))

def lowHalf? : List Char → Option (Nat × List Char)
  | b :: u :: digits =>
    if b = '\\' ∧ u = 'u' then
      match unit? digits with
      | some (n, rest) => if isLowHalf n then some (n, rest) else none
      | none => none
    else none
  | _ => none

theorem lowHalf?_shorter {cs rest : List Char} {n : Nat} (h : lowHalf? cs = some (n, rest)) :
    rest.length < cs.length := by
  unfold lowHalf? at h
  split at h
  · next b u digits =>
    split at h
    · split at h
      · next hunit =>
        split at h
        · cases h
          have hlt := unit?_shorter hunit
          simp only [List.length_cons]
          omega
        · cases h
      · cases h
    · cases h
  · cases h

/-- The character of a unit and what follows it: a first half takes the second half after it. -/
def joinHalves (n : Nat) (after : List Char) : Char × List Char :=
  match lowHalf? after with
  | some (low, rest) => if isHighHalf n then (pairChar n low, rest) else (unitChar n, after)
  | none => (unitChar n, after)

theorem joinHalves_length_le (n : Nat) (after : List Char) :
    (joinHalves n after).2.length ≤ after.length := by
  unfold joinHalves
  split
  · next hlow =>
    split
    · exact Nat.le_of_lt (lowHalf?_shorter hlow)
    · exact Nat.le_refl _
  · exact Nat.le_refl _

def simpleEscape? (c : Char) : Option Char :=
  if c = Text.doubleQuote ∨ c = '\\' ∨ c = '/' then some c
  else if c = 'b' then some '\x08'
  else if c = 'f' then some '\x0c'
  else if c = 'n' then some '\n'
  else if c = 'r' then some '\r'
  else if c = 't' then some '\t'
  else none

def escaped? : List Char → Option (Char × List Char)
  | [] => none
  | c :: rest =>
    if c = 'u' then (unit? rest).map fun r => joinHalves r.1 r.2
    else (simpleEscape? c).map fun e => (e, rest)

theorem escaped?_shorter {cs rest : List Char} {c : Char} (h : escaped? cs = some (c, rest)) :
    rest.length < cs.length := by
  unfold escaped? at h
  split at h
  · cases h
  · split at h
    · obtain ⟨r, hunit, hjoin⟩ := Option.map_eq_some_iff.mp h
      have hlt := unit?_shorter hunit
      have hle : rest.length ≤ r.2.length := by simpa [hjoin] using joinHalves_length_le r.1 r.2
      simp only [List.length_cons]
      omega
    · obtain ⟨e, _, he⟩ := Option.map_eq_some_iff.mp h
      cases he
      simp

def contentChar? : List Char → Option (Char × List Char)
  | [] => none
  | c :: rest =>
    if c = '\\' then escaped? rest
    else if c.toNat < 0x20 then none
    else some (c, rest)

theorem contentChar?_shorter {cs rest : List Char} {c : Char}
    (h : contentChar? cs = some (c, rest)) : rest.length < cs.length := by
  unfold contentChar? at h
  split at h
  · cases h
  · split at h
    · exact Nat.lt_succ_of_lt (escaped?_shorter h)
    · split at h
      · cases h
      · cases h; simp

def content? (cs : List Char) : Option (List Char × List Char) :=
  if cs.head? = some Text.doubleQuote then some ([], cs.tail)
  else
    match _h : contentChar? cs with
    | none => none
    | some (c, after) => (content? after).map fun r => (c :: r.1, r.2)
termination_by cs.length
decreasing_by exact contentChar?_shorter _h

/-- The whole part of a number: a zero, or digits that start with another one. -/
def wholePart? : List Char → Option (List Char × List Char)
  | [] => none
  | c :: rest =>
    if c = '0' then some (['0'], rest)
    else if c.isDigit then some (c :: rest.takeWhile Char.isDigit, rest.dropWhile Char.isDigit)
    else none

def fractionPart : List Char → List Char × List Char
  | '.' :: d :: rest =>
    if d.isDigit then ('.' :: d :: rest.takeWhile Char.isDigit, rest.dropWhile Char.isDigit)
    else ([], '.' :: d :: rest)
  | cs => ([], cs)

def exponentSign : List Char → List Char × List Char
  | '+' :: rest => (['+'], rest)
  | '-' :: rest => (['-'], rest)
  | cs => ([], cs)

def exponentPart : List Char → List Char × List Char
  | [] => ([], [])
  | c :: rest =>
    if c = 'e' ∨ c = 'E' then
      let (sign, after) := exponentSign rest
      match after.takeWhile Char.isDigit with
      | [] => ([], c :: rest)
      | d :: ds => (c :: sign ++ d :: ds, after.dropWhile Char.isDigit)
    else ([], c :: rest)

def digitsValue (cs : List Char) : Nat := cs.foldl (fun n c => n * 10 + (c.toNat - '0'.toNat)) 0

def number? (negative : Bool) (cs : List Char) : Option (Json × List Char) :=
  match wholePart? cs with
  | none => none
  | some (whole, afterWhole) =>
    let (fraction, afterFraction) := fractionPart afterWhole
    let (exponent, rest) := exponentPart afterFraction
    if fraction = [] ∧ exponent = [] then
      let n : Int := digitsValue whole
      some (.number (if negative then -n else n), rest)
    else
      let sign := if negative then ['-'] else []
      some (.decimal (String.ofList (sign ++ whole ++ fraction ++ exponent)), rest)

def wordValues : List (List Char × Json) :=
  [("null".toList, .null), ("true".toList, .bool true), ("false".toList, .bool false),
   ("NaN".toList, .decimal "NaN"), ("Infinity".toList, .decimal "Infinity"),
   ("-Infinity".toList, .decimal "-Infinity")]

def word? (cs : List Char) : Option (Json × List Char) :=
  (wordValues.find? fun w => w.1.isPrefixOf cs).map fun w => (w.2, cs.drop w.1.length)

def mark? (c : Char) : Option Token :=
  if c = '[' then some .openBracket
  else if c = ']' then some .closeBracket
  else if c = '\x7b' then some .openBrace
  else if c = '\x7d' then some .closeBrace
  else if c = ',' then some .comma
  else if c = ':' then some .colon
  else none

/-- The first token of a text that starts with none of the blanks, and the rest of the text. -/
def token? : List Char → Option (Token × List Char)
  | [] => none
  | c :: rest =>
    match mark? c with
    | some mark => some (mark, rest)
    | none =>
      if c = Text.doubleQuote then
        (content? rest).map fun r => (.scalar (.string (String.ofList r.1)), r.2)
      else
        match word? (c :: rest) with
        | some (value, after) => some (.scalar value, after)
        | none =>
          (if c = '-' then number? true rest else number? false (c :: rest)).map
            fun r => (.scalar r.1, r.2)

/-- The tokens of a text. Every token takes at least one character. -/
def tokens? (cs : List Char) : Option (List Token) :=
  match cs with
  | [] => some []
  | c :: rest =>
    if isGap c then tokens? rest
    else
      match token? (c :: rest) with
      | none => none
      | some (token, after) =>
        if after.length ≤ rest.length then (tokens? after).map (token :: ·) else none
termination_by cs.length

end CodeAtlas.Json
