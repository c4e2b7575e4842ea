import CodeAtlas.InputError
import CodeAtlas.Sha256
import CodeAtlas.Sweep
import CodeAtlas.Text.Basic

set_option autoImplicit false

namespace CodeAtlas

abbrev FileLookup := String → Option Bytes

structure Binary where
  path : String
  data : Bytes
  digest : String
  header : Image.Header
  stream : Stream

namespace Binary

def name (b : Binary) : String := Text.pathStem b.path

def load (files : FileLookup) (listing : Listing) (path : String) : Except InputError Binary :=
  let path := Text.showPath path
  match files path with
  | none => .error (.fileMissing path)
  | some data =>
    match Image.Header.parse? none data with
    | none => .error (.notAnImage path)
    | some h => .ok ⟨path, data, Sha256.hexDigest data, h, Sweep.decodeSections listing data h⟩

def loadEvents (listing : Listing) (b : Binary) : List Event :=
  Sweep.sectionEvents listing b.data b.header ++
    [.imageLoaded b.path (Sha256.shortDigest b.digest) b.header.bitness b.header.sections.length
      b.stream.length]

end Binary

end CodeAtlas
