import CodeAtlas.Bytes

set_option autoImplicit false

namespace CodeAtlas.Sha256

def roundConstants : List UInt32 :=
  [0x428a2f98, 0x71374491, 0xb5c0fbcf, 0xe9b5dba5, 0x3956c25b, 0x59f111f1, 0x923f82a4, 0xab1c5ed5,
   0xd807aa98, 0x12835b01, 0x243185be, 0x550c7dc3, 0x72be5d74, 0x80deb1fe, 0x9bdc06a7, 0xc19bf174,
   0xe49b69c1, 0xefbe4786, 0x0fc19dc6, 0x240ca1cc, 0x2de92c6f, 0x4a7484aa, 0x5cb0a9dc, 0x76f988da,
   0x983e5152, 0xa831c66d, 0xb00327c8, 0xbf597fc7, 0xc6e00bf3, 0xd5a79147, 0x06ca6351, 0x14292967,
   0x27b70a85, 0x2e1b2138, 0x4d2c6dfc, 0x53380d13, 0x650a7354, 0x766a0abb, 0x81c2c92e, 0x92722c85,
   0xa2bfe8a1, 0xa81a664b, 0xc24b8b70, 0xc76c51a3, 0xd192e819, 0xd6990624, 0xf40e3585, 0x106aa070,
   0x19a4c116, 0x1e376c08, 0x2748774c, 0x34b0bcb5, 0x391c0cb3, 0x4ed8aa4a, 0x5b9cca4f, 0x682e6ff3,
   0x748f82ee, 0x78a5636f, 0x84c87814, 0x8cc70208, 0x90befffa, 0xa4506ceb, 0xbef9a3f7, 0xc67178f2]

structure Chain where
  a : UInt32
  b : UInt32
  c : UInt32
  d : UInt32
  e : UInt32
  f : UInt32
  g : UInt32
  h : UInt32
  deriving Repr, DecidableEq

def start : Chain :=
  ⟨0x6a09e667, 0xbb67ae85, 0x3c6ef372, 0xa54ff53a, 0x510e527f, 0x9b05688c, 0x1f83d9ab, 0x5be0cd19⟩

/-- A word turned to the right by fewer than thirty-two bits. -/
def rotate (x n : UInt32) : UInt32 := (x >>> n) ||| (x <<< (32 - n))

def round (s : Chain) (k w : UInt32) : Chain :=
  let choice := (s.e &&& s.f) ^^^ (~~~s.e &&& s.g)
  let majority := (s.a &&& s.b) ^^^ (s.a &&& s.c) ^^^ (s.b &&& s.c)
  let high := rotate s.e 6 ^^^ rotate s.e 11 ^^^ rotate s.e 25
  let low := rotate s.a 2 ^^^ rotate s.a 13 ^^^ rotate s.a 22
  let t := s.h + high + choice + k + w
  ⟨t + low + majority, s.a, s.b, s.c, s.d + t, s.e, s.f, s.g⟩

def nextWord (w : Array UInt32) (i : Nat) : UInt32 :=
  let x := w.getD (i - 15) 0
  let y := w.getD (i - 2) 0
  let sx := rotate x 7 ^^^ rotate x 18 ^^^ (x >>> 3)
  let sy := rotate y 17 ^^^ rotate y 19 ^^^ (y >>> 10)
  w.getD (i - 16) 0 + sx + w.getD (i - 7) 0 + sy

def schedule (block : Array UInt32) : Array UInt32 :=
  (List.range 48).foldl (fun w i => w.push (nextWord w (i + 16))) block

def Chain.add (s t : Chain) : Chain :=
  ⟨s.a + t.a, s.b + t.b, s.c + t.c, s.d + t.d, s.e + t.e, s.f + t.f, s.g + t.g, s.h + t.h⟩

def compress (s : Chain) (block : Array UInt32) : Chain :=
  s.add ((roundConstants.zip (schedule block).toList).foldl (fun t kw => round t kw.1 kw.2) s)

def bigEndian (width n : Nat) : List UInt8 :=
  (List.range width).reverse.map fun i => UInt8.ofNat (n >>> (8 * i))

/-- A message with a mark, zeros up to a whole number of blocks, and its length in bits. -/
def pad (data : Bytes) : Bytes :=
  data ++ #[0x80] ++ Array.replicate ((119 - data.size % 64) % 64) 0 ++
    (bigEndian 8 (data.size * 8)).toArray

def wordAt (data : Bytes) (p : Nat) : UInt32 :=
  let byte (i : Nat) : UInt32 := (data.getD (p + i) 0).toUInt32
  (byte 0 <<< 24) ||| (byte 1 <<< 16) ||| (byte 2 <<< 8) ||| byte 3

def blockAt (data : Bytes) (n : Nat) : Array UInt32 :=
  ((List.range 16).map fun i => wordAt data (n * 64 + i * 4)).toArray

def Chain.words (s : Chain) : List UInt32 := [s.a, s.b, s.c, s.d, s.e, s.f, s.g, s.h]

def digest (data : Bytes) : Bytes :=
  let padded := pad data
  let blocks := (List.range (padded.size / 64)).map (blockAt padded)
  let final := blocks.foldl compress start
  (final.words.flatMap fun w => bigEndian 4 w.toNat).toArray

def hexDigest (data : Bytes) : String := (digest data).toHex

def shortDigest (hexText : String) : String := String.ofList (hexText.toList.take 16)

end CodeAtlas.Sha256
