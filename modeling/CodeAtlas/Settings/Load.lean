import CodeAtlas.Binary
import CodeAtlas.Settings.Template
import CodeAtlas.Settings.Validate
import CodeAtlas.Yaml.Block

set_option autoImplicit false

namespace CodeAtlas.Settings

def fileNames : List String := ["revcore.yaml", "revcore.yml", ".revcore.yaml", ".revcore.yml"]

def candidates (search : List String) : List String :=
  search.flatMap fun directory => fileNames.map (Text.joinPath directory)

/-- The path of the settings file: the given one, or the first candidate, if there is such a
file. -/
def locate? (files : FileLookup) (search : List String) : Option String → Option String
  | some path =>
    let path := Text.showPath path
    if (files path).isSome then some path else none
  | none => (candidates search).find? fun path => (files path).isSome

inductive LoadError where
  | notYaml
  | invalid (complaints : List Complaint)
  deriving Repr, DecidableEq

def isVoid : Json → Bool
  | .null => true
  | .bool b => !b
  | .number n => n = 0
  | .string s => s = ""
  | .array js => js.isEmpty
  | .object ms => ms.isEmpty
  | .decimal _ => false

def prepare (env : Template.Environment) (j : Json) : Json :=
  Template.coerceHex (Template.interpolate env j)

def ofText (env : Template.Environment) (text : String) : Except LoadError Settings :=
  match Yaml.parse? text with
  | none => .error .notYaml
  | some j =>
    match ofJson (prepare env (if isVoid j then .object [] else j)) with
    | .ok s => .ok s
    | .error complaints => .error (.invalid complaints)

def fileText? (data : Bytes) : Option String := String.fromUTF8? ⟨data⟩

def load (files : FileLookup) (env : Template.Environment) (search : List String)
    (path : Option String) : Except LoadError Settings :=
  match locate? files search path with
  | none => .ok standard
  | some found =>
    match (files found).bind fileText? with
    | none => .error .notYaml
    | some text => ofText env text

end CodeAtlas.Settings
