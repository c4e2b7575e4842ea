set_option autoImplicit false

namespace CodeAtlas.Command

/-- An option. One that stands alone gives the value that it means. -/
structure OptionSpec where
  names : List String
  key : String
  alone : Option String
  deriving Repr, DecidableEq

structure Arguments where
  options : List (String × String)
  operands : List String
  deriving Repr, DecidableEq

namespace Arguments

def option? (a : Arguments) (key : String) : Option String := a.options.reverse.lookup key

def has (a : Arguments) (key : String) : Bool := (a.option? key).isSome

end Arguments

def specOf? (specs : List OptionSpec) (name : String) : Option OptionSpec :=
  specs.find? fun s => decide (name ∈ s.names)

/-- What an argument gives: values of options and, if the last of them has none yet, its key. -/
structure Given where
  options : List (String × String)
  pending : Option String
  deriving Repr, DecidableEq

/-- Options of one letter that are written together. The first that takes a value has the rest of
the letters as its value, or the next argument if no letter is left. -/
def cluster? (specs : List OptionSpec) : List Char → Option Given
  | [] => some ⟨[], none⟩
  | c :: rest =>
    match specOf? specs (String.ofList ['-', c]) with
    | none => none
    | some s =>
      match s.alone with
      | some v => (cluster? specs rest).map fun g => ⟨(s.key, v) :: g.options, g.pending⟩
      | none =>
        if rest.isEmpty then some ⟨[], some s.key⟩
        else some ⟨[(s.key, String.ofList rest)], none⟩

def long? (s : OptionSpec) (value : Option String) : Option Given :=
  match s.alone, value with
  | some v, none => some ⟨[(s.key, v)], none⟩
  | some _, some _ => none
  | none, some v => some ⟨[(s.key, v)], none⟩
  | none, none => some ⟨[], some s.key⟩

def isLongName (cs : List Char) : Bool :=
  match cs with
  | '-' :: '-' :: _ => true
  | _ => decide (2 < cs.length)

def given? (specs : List OptionSpec) (arg : List Char) : Option Given :=
  let name := arg.takeWhile (· ≠ '=')
  let value := match arg.dropWhile (· ≠ '=') with
    | [] => none
    | _ :: rest => some (String.ofList rest)
  match (if isLongName name then specOf? specs (String.ofList name) else none) with
  | some s => long? s value
  | none =>
    match arg with
    | '-' :: '-' :: _ => none
    | _ :: letters => cluster? specs letters
    | [] => none

def isOption (arg : String) : Bool :=
  match arg.toList with
  | '-' :: _ :: _ => true
  | _ => false

def Arguments.prepend (options : List (String × String)) (a : Arguments) : Arguments :=
  { a with options := options ++ a.options }

/-- Reads arguments. Unless options may stand behind operands, the first operand ends them. -/
def arguments? (specs : List OptionSpec) (mixed : Bool) : List String → Option Arguments
  | [] => some ⟨[], []⟩
  | arg :: rest =>
    if arg = "--" then some ⟨[], rest⟩
    else if isOption arg then
      match given? specs arg.toList with
      | none => none
      | some ⟨options, none⟩ => (arguments? specs mixed rest).map (·.prepend options)
      | some ⟨options, some key⟩ =>
        match rest with
        | [] => none
        | value :: others =>
          (arguments? specs mixed others).map (·.prepend (options ++ [(key, value)]))
    else if mixed then
      (arguments? specs mixed rest).map fun a => { a with operands := arg :: a.operands }
    else some ⟨[], arg :: rest⟩

end CodeAtlas.Command
