import CodeAtlas.Yaml.Scalar

set_option autoImplicit false

namespace CodeAtlas.Yaml

open Text (openBrace closeBrace)

def flowBreaks : List Char := [',', '?', '[', ']', openBrace, closeBrace]

def endsFlowKey : List Char → Bool
  | [] => true
  | c :: _ => isSpace c || decide (c ∈ [',', '[', ']', openBrace, closeBrace])

/-- A plain text between brackets and what follows it. The flag tells whether the last character
was a space. -/
def flowPlain (afterSpace : Bool) : List Char → List Char × List Char
  | [] => ([], [])
  | c :: rest =>
    if decide (c ∈ flowBreaks) || (c == ':' && endsFlowKey rest) || (c == '#' && afterSpace) then
      ([], c :: rest)
    else
      let r := flowPlain (isSpace c) rest
      (c :: r.1, r.2)

def dropEndSpaces (cs : List Char) : List Char := (cs.reverse.dropWhile isSpace).reverse

def flowScalar? (cs : List Char) : Option (String × Json × List Char) :=
  if startsQuoted cs then
    (quoted? cs).map fun r => (String.ofList r.1, .string (String.ofList r.1), r.2)
  else if startsPlain true cs then
    let r := flowPlain false cs
    let content := dropEndSpaces r.1
    some (String.ofList content, resolve content, r.2)
  else none

def objectOf (members : List (String × Json)) : Json := .object (Table.ofList members).entries

mutual

def flowValue? : Nat → List Char → Option (Json × List Char)
  | 0, _ => none
  | fuel + 1, cs =>
    match skipSpaces cs with
    | [] => none
    | c :: rest =>
      if c = '[' then (flowItems? fuel rest).map fun r => (.array r.1, r.2)
      else if c = openBrace then (flowMembers? fuel rest).map fun r => (objectOf r.1, r.2)
      else (flowScalar? (c :: rest)).map fun r => (r.2.1, r.2.2)

def flowItems? : Nat → List Char → Option (List Json × List Char)
  | 0, _ => none
  | fuel + 1, cs =>
    match skipSpaces cs with
    | [] => none
    | c :: rest =>
      if c = ']' then some ([], rest)
      else
        match flowValue? fuel (c :: rest) with
        | none => none
        | some (item, after) =>
          match skipSpaces after with
          | ',' :: more => (flowItems? fuel more).map fun r => (item :: r.1, r.2)
          | ']' :: more => some ([item], more)
          | _ => none

def flowMembers? : Nat → List Char → Option (List (String × Json) × List Char)
  | 0, _ => none
  | fuel + 1, cs =>
    match skipSpaces cs with
    | [] => none
    | c :: rest =>
      if c = closeBrace then some ([], rest)
      else
        match flowScalar? (c :: rest) with
        | none => none
        | some (key, _, after) =>
          match flowMemberValue? fuel (skipSpaces after) with
          | none => none
          | some (value, beyond) =>
            match skipSpaces beyond with
            | [] => none
            | d :: more =>
              if d = ',' then
                (flowMembers? fuel more).map fun r => ((key, value) :: r.1, r.2)
              else if d = closeBrace then some ([(key, value)], more)
              else none

/-- The value behind a key between braces, which may be missing, and what follows it. -/
def flowMemberValue? : Nat → List Char → Option (Json × List Char)
  | 0, _ => none
  | fuel + 1, cs =>
    match cs with
    | ':' :: rest =>
      match skipSpaces rest with
      | [] => none
      | c :: more =>
        if c = ',' ∨ c = closeBrace then some (.null, c :: more) else flowValue? fuel (c :: more)
    | _ => some (.null, cs)

end

def flow? (cs : List Char) : Option (Json × List Char) := flowValue? (2 * cs.length + 2) cs

def startsFlow : List Char → Bool
  | [] => false
  | c :: _ => c == '[' || c == openBrace

end CodeAtlas.Yaml
