import CodeAtlas.Json.Basic
import CodeAtlas.Text.Numeral
import CodeAtlas.Text.Quoted
import CodeAtlas.Text.WordChar

/-!
# Templates

A text may hold placeholders: a name between braces after a dollar sign, perhaps with a colon and a
text to use when the environment has no such name. Placeholders are replaced in one pass from left
to right; what is put in is not looked at again.
-/

set_option autoImplicit false

namespace CodeAtlas.Template

open Text (openBrace closeBrace)

abbrev Environment := String → Option String

/-- A name to replace and the text to use when it has no value. -/
structure Placeholder where
  name : List Char
  fallback : Option (List Char)
  deriving Repr, DecidableEq

def closing? (name : List Char) : List Char → Option (Placeholder × List Char)
  | [] => none
  | c :: rest =>
    if c = closeBrace then some (⟨name, none⟩, rest)
    else if c = ':' then
      match rest.dropWhile (· ≠ closeBrace) with
      | [] => none
      | _ :: after => some (⟨name, some (rest.takeWhile (· ≠ closeBrace))⟩, after)
    else none

def placeholder? : List Char → Option (Placeholder × List Char)
  | c :: d :: rest =>
    if c = '$' ∧ d = openBrace ∧ rest.takeWhile Text.isWordChar ≠ [] then
      closing? (rest.takeWhile Text.isWordChar) (rest.dropWhile Text.isWordChar)
    else none
  | _ => none

theorem closing?_shorter {name cs rest : List Char} {p : Placeholder}
    (h : closing? name cs = some (p, rest)) : rest.length < cs.length := by
  match cs with
  | [] => simp [closing?] at h
  | c :: more =>
    have hsuffix := (List.dropWhile_suffix (l := more) (· ≠ closeBrace)).length_le
    simp only [closing?] at h
    split at h
    · simp_all
    · split at h
      · split at h
        · simp at h
        · next hdrop =>
          simp only [Option.some.injEq, Prod.mk.injEq] at h
          rw [hdrop] at hsuffix
          simp_all
          omega
      · simp at h

theorem placeholder?_shorter {cs rest : List Char} {p : Placeholder}
    (h : placeholder? cs = some (p, rest)) : rest.length < cs.length := by
  match cs with
  | [] | [_] => simp [placeholder?] at h
  | _ :: _ :: more =>
    have hsuffix := (List.dropWhile_suffix (l := more) Text.isWordChar).length_le
    simp only [placeholder?] at h
    split at h
    · have := closing?_shorter h
      simp only [List.length_cons]
      omega
    · simp at h

/-- What a placeholder is replaced by: the value of its name, else its own text, else nothing. -/
def value (env : Environment) (p : Placeholder) : List Char :=
  match env (String.ofList p.name) with
  | some s => s.toList
  | none => p.fallback.getD []

def expandChars (env : Environment) (cs : List Char) : List Char :=
  match _h : placeholder? cs with
  | some (p, rest) => value env p ++ expandChars env rest
  | none =>
    match cs with
    | [] => []
    | c :: rest => c :: expandChars env rest
termination_by cs.length
decreasing_by
  · exact placeholder?_shorter _h
  · simp

def expand (env : Environment) (s : String) : String := String.ofList (expandChars env s.toList)

mutual

/-- A value with every text in it replaced; keys stay as they are. -/
def mapTexts (f : String → Json) : Json → Json
  | .string s => f s
  | .array js => .array (mapTextsItems f js)
  | .object ms => .object (mapTextsMembers f ms)
  | j => j

def mapTextsItems (f : String → Json) : List Json → List Json
  | [] => []
  | j :: rest => mapTexts f j :: mapTextsItems f rest

def mapTextsMembers (f : String → Json) : List (String × Json) → List (String × Json)
  | [] => []
  | (key, j) :: rest => (key, mapTexts f j) :: mapTextsMembers f rest

end

def interpolate (env : Environment) (j : Json) : Json :=
  mapTexts (fun s => .string (expand env s)) j

/-- A text that starts with `0x` and is a hexadecimal number, as a number. -/
def hexNumber (s : String) : Json :=
  if Text.hasHexMark s then
    match Text.readInteger 16 s with
    | some n => .number n
    | none => .string s
  else .string s

def coerceHex (j : Json) : Json := mapTexts hexNumber j

end CodeAtlas.Template
