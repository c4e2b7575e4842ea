import CodeAtlas.Json.Parser
import CodeAtlas.Listing

set_option autoImplicit false

namespace CodeAtlas.Listing

def numberField (j : Json) (key : String) (default : Int) : Int :=
  match j.member? key with
  | some (.number n) => n
  | _ => default

def textField? (j : Json) (key : String) : Option String :=
  match j.member? key with
  | some (.string s) => some s
  | _ => none

def itemsField (j : Json) (key : String) : List Json :=
  match j.member? key with
  | some (.array js) => js
  | _ => []

def readOperand (j : Json) : Operand :=
  match textField? j "t" with
  | some "reg" => .register (textField? j "reg")
  | some "imm" => .immediate (numberField j "imm" 0) (numberField j "size" 0).toNat
  | some "mem" => .memory (textField? j "base") (numberField j "disp" 0)
  | _ => .other

def readBranch (j : Json) : Bool :=
  (itemsField j "groups").any fun g =>
    match g with
    | .string s => s == "jump" || s == "call"
    | _ => false

def readEntry? (j : Json) : Option (Int × Entry) :=
  let size := (numberField j "size" 0).toNat
  if h : 0 < size then
    some (numberField j "at" 0,
      { size := size
        mnemonic := (textField? j "mnemonic").getD ""
        operandText := (textField? j "op_str").getD ""
        isBranch := readBranch j
        operands := (itemsField j "ops").map readOperand
        size_pos := h })
  else none

def ofEntries (js : List Json) : Listing := Table.ofList (js.filterMap readEntry?)

def parse? (s : String) : Option Listing :=
  match Json.parse? s with
  | some (.array js) => some (ofEntries js)
  | _ => none

end CodeAtlas.Listing
