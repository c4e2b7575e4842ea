import CodeAtlas.Command.Options
import CodeAtlas.Symbol

set_option autoImplicit false

namespace CodeAtlas

inductive Command where
  | analyze (binary : String) (strings : Bool) (reportPath : Option String)
  | routines (binary : String) (limit : Int)
  | references (binary : String) (target source : Option String)
  | symbols (binary : String) (kind : Option SymbolKind)
  | strings (binary : String) (minLength : Option Int) (wide : Option Bool)
  | search (binary pattern : String) (sleds : Bool)
  deriving Repr, DecidableEq

namespace Command

inductive Usage where
  | help
  | wrong
  deriving Repr, DecidableEq

def helpSpec : OptionSpec := ⟨["--help"], "help", some ""⟩

def globalSpecs : List OptionSpec :=
  [⟨["--config", "-C"], "config", none⟩, ⟨["--verbose", "-v"], "verbose", some ""⟩,
   ⟨["--version", "-V"], "version", some ""⟩, helpSpec]

def specs : String → Option (List OptionSpec)
  | "analyze" => some [⟨["--strings"], "strings", some ""⟩, ⟨["--json"], "json", none⟩, helpSpec]
  | "functions" => some [⟨["--limit", "-n"], "limit", none⟩, helpSpec]
  | "xrefs" => some [⟨["--to"], "to", none⟩, ⟨["--from"], "from", none⟩, helpSpec]
  | "symbols" => some [⟨["--type", "-t"], "type", none⟩, helpSpec]
  | "strings" =>
    some [⟨["--min-length", "-m"], "min-length", none⟩, ⟨["--wide"], "wide", some "yes"⟩,
      ⟨["--no-wide"], "wide", some "no"⟩, helpSpec]
  | "search" => some [⟨["--nops"], "nops", some ""⟩, helpSpec]
  | _ => none

def readOption {α : Type} (a : Arguments) (key : String) (read : String → Option α) :
    Except Usage (Option α) :=
  match a.option? key with
  | none => .ok none
  | some s =>
    match read s with
    | some v => .ok (some v)
    | none => .error .wrong

def readPositive (s : String) : Option Int :=
  (Text.readInteger 10 s).filter fun n => decide (1 ≤ n)

def readKind (s : String) : Option SymbolKind :=
  SymbolKind.all.find? fun k => Text.fold k.name = Text.fold s

def soleOperand (a : Arguments) : Except Usage String :=
  match a.operands with
  | [binary] => .ok binary
  | _ => .error .wrong

def ofArguments (name : String) (a : Arguments) : Except Usage Command :=
  match name with
  | "analyze" => do
    return .analyze (← soleOperand a) (a.has "strings") (a.option? "json")
  | "functions" => do
    let limit ← readOption a "limit" (Text.readInteger 10)
    return .routines (← soleOperand a) (limit.getD 50)
  | "xrefs" => do
    return .references (← soleOperand a) (a.option? "to") (a.option? "from")
  | "symbols" => do
    let kind ← readOption a "type" readKind
    return .symbols (← soleOperand a) kind
  | "strings" => do
    let least ← readOption a "min-length" readPositive
    return .strings (← soleOperand a) least ((a.option? "wide").map (· == "yes"))
  | "search" =>
    match a.operands with
    | [binary, pattern] => .ok (.search binary pattern (a.has "nops"))
    | _ => .error .wrong
  | _ => .error .wrong

def parse (name : String) (args : List String) : Except Usage Command :=
  match specs name with
  | none => .error .wrong
  | some known =>
    match arguments? known true args with
    | none => .error .wrong
    | some a => if a.has "help" then .error .help else ofArguments name a

end Command

end CodeAtlas
