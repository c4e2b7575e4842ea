import CodeAtlas.Text.Basic

/-!
# Numerals

Integers as text in base ten and sixteen. Writing gives the fewest digits with the sign in front.
Reading is wider: it takes blanks around the number, a sign, digits of every script, single
underscores between digits and, in base sixteen, a leading `0x`.
-/

set_option autoImplicit false

namespace CodeAtlas.Text

/-- The digits of a number, most significant first; zero has one digit. -/
def digits (base n : Nat) : List Nat :=
  if n < base ∨ base < 2 then [n] else digits base (n / base) ++ [n % base]
termination_by n
decreasing_by exact Nat.div_lt_self (by omega) (by omega)

def natChars (base n : Nat) : List Char := (digits base n).map digitChar

def signed (z : Int) (absolute : Nat → List Char) : List Char :=
  if z < 0 then '-' :: absolute z.natAbs else absolute z.natAbs

def decimal (z : Int) : String := String.ofList (signed z (natChars 10))

/-- An integer in base sixteen with the mark `0x` after the sign: `-0x5`. -/
def hex (z : Int) : String := String.ofList (signed z fun n => '0' :: 'x' :: natChars 16 n)

/-- An integer in base sixteen in capital letters and without a mark: `-1F`. -/
def capitalHex (z : Int) : String :=
  String.ofList (signed z fun n => (digits 16 n).map capitalDigitChar)

/-- How a numeral reads a character: a digit of any script stands for its ASCII digit and a blank
outside ASCII for a space. -/
def numeralChar (c : Char) : Char :=
  if c.toNat < 0x7F then c
  else if isBlank c then ' '
  else match decimalValue? c with
    | some v => digitChar v
    | none => c

/-- The value of digits that follow a number read so far. A single underscore may stand between two
digits; `separated` tells whether the last character was one. -/
def readDigits (base value : Nat) (separated : Bool) : List Char → Option Nat
  | [] => if separated then none else some value
  | c :: rest =>
    if c = '_' then
      if separated then none else readDigits base value true rest
    else match digitValue? base c with
      | some v => readDigits base (value * base + v) false rest
      | none => none

def readNatural (base : Nat) : List Char → Option Nat
  | [] => none
  | c :: rest =>
    match digitValue? base c with
    | some v => readDigits base v false rest
    | none => none

/-- Digits without the mark `0x` or `0X` that base sixteen allows in front of them, together with
one underscore after the mark. -/
def dropMark (base : Nat) : List Char → List Char
  | '0' :: c :: rest =>
    if base = 16 ∧ (c = 'x' ∨ c = 'X') then
      match rest with
      | '_' :: after => after
      | _ => rest
    else '0' :: c :: rest
  | cs => cs

def readSigned (base : Nat) : List Char → Option Int
  | '-' :: rest => (readNatural base (dropMark base rest)).map fun n => -(n : Int)
  | '+' :: rest => (readNatural base (dropMark base rest)).map Int.ofNat
  | cs => (readNatural base (dropMark base cs)).map Int.ofNat

def readInteger (base : Nat) (s : String) : Option Int :=
  readSigned base (trimWhile isAsciiBlank (s.toList.map numeralChar))

def hasHexMark (s : String) : Bool :=
  match s.toList with
  | '0' :: c :: _ => c == 'x' || c == 'X'
  | _ => false

def addressBase (s : String) : Nat := if hasHexMark s then 16 else 10

/-- The address that a text denotes, in base sixteen after `0x` and otherwise in base ten. Blanks of
every kind may stand around it. -/
def readAddress (s : String) : Option Int := readInteger (addressBase (trim s)) (trim s)

/-- An address as it is shown to a reader: `0x` and capital digits, a dash when there is none. -/
def showAddress : Option Int → String
  | none => "-"
  | some a => "0x" ++ capitalHex a

end CodeAtlas.Text
