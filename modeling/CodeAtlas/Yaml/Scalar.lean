import CodeAtlas.Json.Basic
import CodeAtlas.Text.Basic
import CodeAtlas.Text.Quoted

/-!
# YAML scalars

A scalar is a text between quotes, which stands for itself, or a plain text, which may stand for a
truth value, an integer or nothing. Integers are decimal, hexadecimal after `0x` or octal after
`0`, with underscores anywhere after the first digit.
-/

set_option autoImplicit false

namespace CodeAtlas.Yaml

open Text (openBrace closeBrace)

def isSpace (c : Char) : Bool := c == ' ' || c == '\t'

def skipSpaces (cs : List Char) : List Char := cs.dropWhile isSpace

def trueWords : List String :=
  ["yes", "Yes", "YES", "true", "True", "TRUE", "on", "On", "ON"]

def falseWords : List String :=
  ["no", "No", "NO", "false", "False", "FALSE", "off", "Off", "OFF"]

def nullWords : List String := ["", "~", "null", "Null", "NULL"]

/-- The value of digits in a base, with underscores left out. Another character has no value. -/
def digitsValue? (base value : Nat) : List Char → Option Nat
  | [] => some value
  | c :: rest =>
    if c = '_' then digitsValue? base value rest
    else match Text.hexValue? c with
      | some v => if v < base then digitsValue? base (value * base + v) rest else none
      | none => none

def natural? : List Char → Option Nat
  | ['0'] => some 0
  | '0' :: 'x' :: rest => if rest.any (· ≠ '_') then digitsValue? 16 0 rest else none
  | '0' :: rest => digitsValue? 8 0 rest
  | c :: rest => if '1' ≤ c ∧ c ≤ '9' then digitsValue? 10 0 (c :: rest) else none
  | [] => none

def integer? : List Char → Option Int
  | '-' :: rest => (natural? rest).map fun n => -(n : Int)
  | '+' :: rest => (natural? rest).map Int.ofNat
  | cs => (natural? cs).map Int.ofNat

def resolve (cs : List Char) : Json :=
  let s := String.ofList cs
  if s ∈ nullWords then .null
  else if s ∈ trueWords then .bool true
  else if s ∈ falseWords then .bool false
  else match integer? cs with
    | some n => .number n
    | none => .string s

def indicators : List Char :=
  [',', '[', ']', openBrace, closeBrace, '#', '&', '*', '!', '|', '>', Text.apostrophe,
   Text.doubleQuote, '%', '@', '\x60']

/-- Whether a plain text may start here. A dash, and outside brackets a question mark or a colon,
need something behind them. -/
def startsPlain (bracketed : Bool) : List Char → Bool
  | [] => false
  | c :: rest =>
    if isSpace c || decide (c ∈ indicators) then false
    else if c = '-' || c = '?' || c = ':' then
      match rest with
      | [] => false
      | d :: _ => !isSpace d && (c == '-' || !bracketed)
    else true

/-- A text between apostrophes, from behind the opening one, and what follows it. An apostrophe in
it is written twice. -/
def singleQuoted? : List Char → Option (List Char × List Char)
  | [] => none
  | c :: rest =>
    if c = Text.apostrophe then
      match rest with
      | [] => some ([], [])
      | d :: more =>
        if d = Text.apostrophe then (singleQuoted? more).map fun r => (c :: r.1, r.2)
        else some ([], d :: more)
    else (singleQuoted? rest).map fun r => (c :: r.1, r.2)

def escapes : List (Char × Char) :=
  [('0', '\x00'), ('a', '\x07'), ('b', '\x08'), ('t', '\t'), ('\t', '\t'), ('n', '\n'),
   ('v', '\x0b'), ('f', '\x0c'), ('r', '\r'), ('e', '\x1b'), (' ', ' '),
   (Text.doubleQuote, Text.doubleQuote), ('\\', '\\'), ('/', '/'), ('N', '\u0085'),
   ('_', '\u00a0'), ('L', '\u2028'), ('P', '\u2029')]

def codeLength? (c : Char) : Option Nat :=
  if c = 'x' then some 2 else if c = 'u' then some 4 else if c = 'U' then some 8 else none

def codeChar? (cs : List Char) : Option Char :=
  if cs.contains '_' then none else (digitsValue? 16 0 cs).map Char.ofNat

/-- A text between double quotes, from behind the opening one, and what follows it. The number is
at least that of the characters. -/
def doubleQuoted? : Nat → List Char → Option (List Char × List Char)
  | 0, _ => none
  | _, [] => none
  | fuel + 1, c :: rest =>
    if c = Text.doubleQuote then some ([], rest)
    else if c = '\\' then
      match rest with
      | [] => none
      | d :: more =>
        match escapes.lookup d, codeLength? d with
        | some e, _ => (doubleQuoted? fuel more).map fun r => (e :: r.1, r.2)
        | none, some n =>
          if more.length < n then none
          else do
            let e ← codeChar? (more.take n)
            let r ← doubleQuoted? fuel (more.drop n)
            return (e :: r.1, r.2)
        | none, none => none
    else (doubleQuoted? fuel rest).map fun r => (c :: r.1, r.2)

def quoted? : List Char → Option (List Char × List Char)
  | [] => none
  | c :: rest =>
    if c = Text.apostrophe then singleQuoted? rest
    else if c = Text.doubleQuote then doubleQuoted? (rest.length + 1) rest
    else none

def startsQuoted : List Char → Bool
  | [] => false
  | c :: _ => c == Text.apostrophe || c == Text.doubleQuote

end CodeAtlas.Yaml
