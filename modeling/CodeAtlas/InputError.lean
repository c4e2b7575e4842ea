import CodeAtlas.Text.Numeral

set_option autoImplicit false

namespace CodeAtlas

inductive InputError where
  | emptyStream
  | missingBuffer
  | noInstructionAt (entry : Int)
  | fileMissing (path : String)
  | notAnImage (path : String)
  | refused (reason : String)
  | addressRefused (reason : String)
  deriving Repr, DecidableEq

namespace InputError

def message : InputError → String
  | emptyStream => "Instruction stream cannot be empty."
  | missingBuffer => "Byte buffer cannot be None."
  | noInstructionAt entry => "No instruction at entry address " ++ Text.hex entry
  | fileMissing path => "Binary not found: " ++ path
  | notAnImage path => "Not a PE image: " ++ path
  | refused reason => reason
  | addressRefused reason => reason

end InputError

end CodeAtlas
