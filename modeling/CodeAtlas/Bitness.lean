set_option autoImplicit false

namespace CodeAtlas

inductive Bitness where
  | bits32
  | bits64
  deriving Repr, DecidableEq

namespace Bitness

def bits : Bitness → Nat
  | bits32 => 32
  | bits64 => 64

def bytes : Bitness → Nat
  | bits32 => 4
  | bits64 => 8

def magic : Bitness → Nat
  | bits32 => 0x10B
  | bits64 => 0x20B

def ofMagic? (n : Nat) : Option Bitness :=
  if n = 0x10B then some bits32 else if n = 0x20B then some bits64 else none

def isWide : Bitness → Bool
  | bits32 => false
  | bits64 => true

def ofWide (wide : Bool) : Bitness := if wide then bits64 else bits32

def formatName : Bitness → String
  | bits32 => "PE32"
  | bits64 => "PE32+"

end Bitness

end CodeAtlas
