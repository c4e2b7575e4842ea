import CodeAtlas.Command.Run
import CodeAtlas.Listing.Decode

set_option autoImplicit false

namespace CodeAtlas.Program

def readFile? (path : String) : IO (Option Bytes) := do
  try
    let data ← IO.FS.readBinFile path
    return some data.data
  catch _ => return none

def readFiles (paths : List String) : IO (List (String × Bytes)) := do
  let contents ← paths.mapM fun path => do
    return (path, ← readFile? path)
  return contents.filterMap fun e => e.2.map fun data => (e.1, data)

def listingEnding : String := ".listing.json"

/-- The listings that are found beside the files that the arguments name, as one. -/
def listingFor (files : List (String × Bytes)) : Listing :=
  let texts := files.filterMap fun e =>
    if e.1.endsWith listingEnding then Settings.fileText? e.2 else none
  Table.ofList ((texts.filterMap Listing.parse?).flatMap (·.entries))

def namesIn (text : String) : List String :=
  (runs Text.isWordChar text.toList).map fun r => String.ofList r.items

def searchPaths : IO (List String) := do
  let home ← IO.getEnv "HOME"
  return "." :: (home.map fun h => [Text.joinPath h ".config/revcore", h]).getD []

def environmentFor (files : List (String × Bytes)) : IO Template.Environment := do
  let names := (files.filterMap fun e => Settings.fileText? e.2).flatMap namesIn
  let values ← names.eraseDups.mapM fun name => do
    return (name, ← IO.getEnv name)
  return fun name => (values.lookup name).join

def present : Screen.Display → IO Unit
  | .journal .. => return
  | .table title rows => IO.print (Screen.table rows (some title) [])
  | .summary title values => IO.print (Screen.summary title values)
  | .line text => IO.print (Screen.plainLine text)
  | .success message => IO.println message
  | .error message => IO.eprint (Screen.errorLine message)
  | .warning message => IO.eprint (Screen.warningLine message)

def failureText : Command.Failure → String
  | .settings .notYaml => "the settings file is not a YAML document"
  | .settings (.invalid complaints) =>
    "\n".intercalate (complaints.map fun c => ".".intercalate c.place ++ ": " ++ c.fault.message)
  | .input e => e.message

end CodeAtlas.Program

open CodeAtlas CodeAtlas.Program in
def main (args : List String) : IO UInt32 := do
  let search ← searchPaths
  let named := args.map Text.showPath
  let settingsFiles ← readFiles (named ++ Settings.candidates search)
  let listings ← readFiles (named.map (· ++ listingEnding))
  let world : Command.World :=
    { files := fun path => settingsFiles.lookup path
      environment := ← environmentFor settingsFiles
      search := search
      listing := listingFor listings
      faults := [] }
  let outcome := Command.run world args
  outcome.banner.forM IO.print
  outcome.shown.forM present
  outcome.written.forM fun e => IO.FS.writeFile e.1 e.2
  outcome.failure.forM fun f => IO.eprintln (failureText f)
  return UInt32.ofNat outcome.exitCode
