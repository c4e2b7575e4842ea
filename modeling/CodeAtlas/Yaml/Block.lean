import CodeAtlas.Yaml.Flow

/-!
# YAML documents

A document is a scalar, a list with a dash before every item, or a mapping of keys to values.
Deeper indentation marks what belongs to an item or a key. A number sign after a space starts a
comment. Anchors, tags and literal blocks are not read.
-/

set_option autoImplicit false

namespace CodeAtlas.Yaml

structure Line where
  indent : Nat
  text : List Char
  deriving Repr, DecidableEq

def startsSpace : List Char → Bool
  | [] => true
  | c :: _ => isSpace c

def isSpent (cs : List Char) : Bool :=
  match skipSpaces cs with
  | [] => true
  | '#' :: _ => startsSpace cs
  | _ => false

def startsItem : List Char → Bool
  | '-' :: rest => startsSpace rest
  | _ => false

/-- A plain key up to its colon and what follows the colon. The text before is given in reverse. -/
def plainKey? (before : List Char) : List Char → Option (List Char × List Char)
  | [] => none
  | c :: rest =>
    if c = ':' ∧ startsSpace rest then some (dropEndSpaces before.reverse, rest)
    else if c = '#' ∧ before.head?.any isSpace then none
    else plainKey? (c :: before) rest

def key? (cs : List Char) : Option (String × List Char) :=
  if startsQuoted cs then
    match quoted? cs with
    | none => none
    | some (content, after) =>
      match skipSpaces after with
      | ':' :: rest => if startsSpace rest then some (String.ofList content, rest) else none
      | _ => none
  else if startsPlain false cs then
    (plainKey? [] cs).map fun r => (String.ofList r.1, r.2)
  else none

/-- The plain text of a line without its comment, and whether it had one. A text that holds a key
is not plain. -/
def plainText? (before : List Char) : List Char → Option (List Char × Bool)
  | [] => some (dropEndSpaces before.reverse, false)
  | c :: rest =>
    if c = ':' ∧ startsSpace rest then none
    else if c = '#' ∧ before.head?.any isSpace then some (dropEndSpaces before.reverse, true)
    else plainText? (c :: before) rest

inductive Inline where
  | nothing
  | value (v : Json)
  /-- Plain text; unless a comment follows, it may go on in the next lines. -/
  | plain (text : List Char) (commented : Bool)

def inline? (cs : List Char) : Option Inline :=
  if isSpent cs then some .nothing
  else
    let cs := skipSpaces cs
    if startsFlow cs then
      match flow? cs with
      | some (v, rest) => if isSpent rest then some (.value v) else none
      | none => none
    else if startsQuoted cs then
      match quoted? cs with
      | some (content, rest) =>
        if isSpent rest then some (.value (.string (String.ofList content))) else none
      | none => none
    else if startsPlain false cs then
      (plainText? [] cs).map fun r => .plain r.1 r.2
    else none

def continued? (floor : Nat) : List Line → Option (List (List Char) × List Line)
  | [] => some ([], [])
  | line :: rest =>
    if floor ≤ line.indent then
      match plainText? [] line.text with
      | none => none
      | some (text, true) => some ([text], rest)
      | some (text, false) => (continued? floor rest).map fun r => (text :: r.1, r.2)
    else some ([], line :: rest)

/-- A plain scalar that starts with the given text and may go on in lines that are indented by at
least `floor`. -/
def plainScalar? (floor : Nat) (text : List Char) (commented : Bool) (lines : List Line) :
    Option (Json × List Line) :=
  if commented then some (resolve text, lines)
  else (continued? floor lines).map fun r => (resolve ([' '].intercalate (text :: r.1)), r.2)

mutual

def block? : Nat → Nat → List Line → Option (Json × List Line)
  | 0, _, _ => none
  | _, _, [] => some (.null, [])
  | fuel + 1, floor, line :: rest =>
    if startsItem line.text then
      (items? fuel line.indent (line :: rest)).map fun r => (.array r.1, r.2)
    else if (key? line.text).isSome then
      (members? fuel line.indent (line :: rest)).map fun r => (objectOf r.1, r.2)
    else
      match inline? line.text with
      | none => none
      | some .nothing => some (.null, rest)
      | some (.value v) => some (v, rest)
      | some (.plain text commented) => plainScalar? floor text commented rest

/-- The value below a line with the given indentation; without deeper lines there is none. -/
def below? : Nat → Nat → List Line → Option (Json × List Line)
  | 0, _, _ => none
  | _, _, [] => some (.null, [])
  | fuel + 1, indent, line :: rest =>
    if indent < line.indent then block? fuel (indent + 1) (line :: rest)
    else some (.null, line :: rest)

def items? : Nat → Nat → List Line → Option (List Json × List Line)
  | 0, _, _ => none
  | _, _, [] => some ([], [])
  | fuel + 1, indent, line :: rest =>
    if line.indent < indent then some ([], line :: rest)
    else if line.indent ≠ indent then none
    else if startsItem line.text then
      let content := skipSpaces (line.text.drop 1)
      let item : Option (Json × List Line) :=
        if isSpent (line.text.drop 1) then below? fuel indent rest
        else
          let inner : Line := ⟨indent + (line.text.length - content.length), content⟩
          block? fuel (indent + 1) (inner :: rest)
      match item with
      | none => none
      | some (v, after) => (items? fuel indent after).map fun r => (v :: r.1, r.2)
    else some ([], line :: rest)

/-- The members of a mapping with the given indentation, and the lines after it. A list below a key
need not be indented. -/
def members? : Nat → Nat → List Line → Option (List (String × Json) × List Line)
  | 0, _, _ => none
  | _, _, [] => some ([], [])
  | fuel + 1, indent, line :: rest =>
    if line.indent < indent then some ([], line :: rest)
    else if line.indent ≠ indent then none
    else
      match key? line.text with
      | none => none
      | some (key, after) =>
        let value : Option (Json × List Line) :=
          match inline? after with
          | none => none
          | some .nothing =>
            match rest with
            | [] => some (.null, [])
            | next :: _ =>
              if next.indent = indent ∧ startsItem next.text then
                (items? fuel indent rest).map fun r => (.array r.1, r.2)
              else below? fuel indent rest
          | some (.value v) => some (v, rest)
          | some (.plain text commented) => plainScalar? (indent + 1) text commented rest
        match value with
        | none => none
        | some (v, left) => (members? fuel indent left).map fun r => ((key, v) :: r.1, r.2)

end

def isAllowed (c : Char) : Bool :=
  let n := c.toNat
  n == 0x09 || n == 0x0A || n == 0x0D || (0x20 ≤ n && n ≤ 0x7E) || n == 0x85 ||
    (0xA0 ≤ n && n ≤ 0xFFFD) || 0x10000 ≤ n

def isBreak (c : Char) : Bool :=
  c == '\n' || c == '\r' || c == '\u0085' || c == '\u2028' || c == '\u2029'

def Line.ofChars (cs : List Char) : Line :=
  ⟨(cs.takeWhile (· == ' ')).length, dropEndSpaces (cs.dropWhile (· == ' '))⟩

def linesOf (cs : List Char) : List Line :=
  ((runs (!isBreak ·) cs).map fun r => Line.ofChars r.items).filter fun line =>
    !(line.text.isEmpty || line.text.head? == some '#')

def dropStartMark : List Line → List Line
  | ⟨0, ['-', '-', '-']⟩ :: rest => rest
  | lines => lines

def parse? (s : String) : Option Json :=
  let cs := s.toList
  let cs := if cs.head? == some '\ufeff' then cs.drop 1 else cs
  if cs.all isAllowed then
    match block? (2 * cs.length + 4) 0 (dropStartMark (linesOf cs)) with
    | some (v, []) => some v
    | _ => none
  else none

end CodeAtlas.Yaml
