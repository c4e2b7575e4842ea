import CodeAtlas.Analysis
import CodeAtlas.Command.Parse
import CodeAtlas.Report.Encode
import CodeAtlas.Screen
import CodeAtlas.Settings.Load

set_option autoImplicit false

namespace CodeAtlas.Command

open Screen (Display Row)

structure World where
  files : FileLookup
  environment : Template.Environment
  search : List String
  listing : Listing
  faults : Analysis.Faults

inductive Failure where
  | settings (e : Settings.LoadError)
  | input (e : InputError)

structure Outcome where
  exitCode : Nat
  shown : List Display
  failure : Option Failure
  banner : Option String
  written : List (String × String)

namespace Outcome

def silent (code : Nat) : Outcome := ⟨code, [], none, none, []⟩

def shows (shown : List Display) : Outcome := ⟨0, shown, none, none, []⟩

def reports (message : String) : Outcome := ⟨1, [.error message], none, none, []⟩

def after (first : Display) (o : Outcome) : Outcome := { o with shown := first :: o.shown }

end Outcome

def version : String := "0.3.0"

def versionLine : String := "revcore " ++ version ++ "\n"

def count (n : Nat) : Json := .nat n

def address (a : Int) : Json := .string (Text.showAddress (some a))

/-- Runs a command on the binary at a path. Without a binary or without code it reports an error. -/
def withBinary (w : World) (path : String) (use : Binary → Outcome) : Outcome :=
  match Binary.load w.files w.listing path with
  | .error e => .reports e.message
  | .ok b =>
    if b.stream.isEmpty then
      .reports ("No executable code decoded from " ++ Text.showPath path)
    else use b

def withBytes (w : World) (path : String) (use : Bytes → Outcome) : Outcome :=
  match w.files (Text.showPath path) with
  | none => .reports ("File not found: " ++ Text.showPath path)
  | some data => use data

def symbolCounts (t : SymbolTable) : String :=
  ", ".intercalate (((SymbolTable.countByKind t).filter fun e => e.2 ≠ 0).map fun e =>
    e.1 ++ "=" ++ Text.decimal e.2)

def summaryOf (b : Binary) (r : Report) : Display :=
  .summary b.name [
    ("sha256", .string r.digest),
    ("format", .string r.bitness.formatName),
    ("image base", address r.imageBase),
    ("entry", address r.entry),
    ("instructions", count b.stream.length),
    ("functions", count r.routines.length),
    ("blocks", count ((r.graph.map (·.blockCount)).getD 0)),
    ("xref sources", count r.references.size),
    ("symbols", .string (symbolCounts r.symbols)),
    ("strings", count r.strings.length),
    ("stages", .string (Text.decimal r.completedStages ++ "/" ++ Text.decimal Stage.total))]

def warningsOf (r : Report) : List Display :=
  r.errors.entries.map fun e => .warning (e.1 ++ " stage failed: " ++ e.2)

def namingStrings (settings : Settings) (naming : Bool) : Settings :=
  if naming then { settings with symbols := { settings.symbols with strings := true } }
  else settings

def analyzeBinary (w : World) (settings : Settings) (path : String) (naming : Bool)
    (reportPath : Option String) : Outcome :=
  withBinary w path fun b =>
    let opening := Display.line ("[bold]Analyzing:[/bold] " ++ Text.showPath path)
    let request := Request.ofBinary b (namingStrings settings naming)
    match (Analysis.run w.faults request).report with
    | .error e => ⟨1, [opening], some (.input e), none, []⟩
    | .ok r =>
      let shown := opening :: summaryOf b r :: warningsOf r
      match reportPath with
      | none => .shows shown
      | some target =>
        let target := Text.showPath target
        { Outcome.shows (shown ++ [.success ("Wrote " ++ target)]) with
          written := [(target, r.render (some 2))] }

def routineRow (r : Routine) : Row :=
  [("address", address r.address), ("name", .string (r.name.getD "")),
   ("source", .string r.source.name), ("instructions", .number r.instructionCount),
   ("blocks", (r.graph.map fun g => count g.blockCount).getD (.string "-"))]

def listRoutines (w : World) (settings : Settings) (path : String) (limit : Int) : Outcome :=
  withBinary w path fun b =>
    match Routine.discover (Request.ofBinary b settings).routineSearch b.stream (some b.data) with
    | .error e => ⟨1, [], some (.input e), none, []⟩
    | .ok rs =>
      let shown := if 0 < limit then rs.take limit.toNat else rs
      let title := "Functions (" ++ Text.decimal rs.length ++ ")"
      .shows (.table title (shown.map routineRow) ::
        if shown.length < rs.length then
          [.line ("[dim]" ++ Text.decimal (rs.length - shown.length : Nat) ++
            " more not shown[/dim]")]
        else [])

def referenceRow (r : Reference) : Row :=
  [("source", address r.source), ("target", address r.target), ("type", .string r.kind.name),
   ("instruction", .string (r.description.getD ""))]

/-- The address that an option gives; an empty text gives none. -/
def optionAddress (s : Option String) : Except String (Option Int) :=
  match s.filter (· ≠ "") with
  | none => .ok none
  | some text =>
    match Text.readAddress text with
    | some a => .ok (some a)
    | none => .error ("Invalid address: " ++ Text.notNumeral (Text.addressBase (Text.trim text))
        (Text.trim text))

def selectReferences (refs : References) (target source : Option Int) : List Reference :=
  match source, target with
  | some s, none => refs.outgoing s
  | some s, some t => (refs.outgoing s).filter (·.target = t)
  | none, some t => refs.incoming t
  | none, none => (ascending refs.keys).flatMap refs.outgoing

def listReferences (w : World) (settings : Settings) (path : String)
    (target source : Option String) : Outcome :=
  match optionAddress target, optionAddress source with
  | .error message, _ => .reports message
  | .ok _, .error message => .reports message
  | .ok target, .ok source =>
    withBinary w path fun b =>
      let refs := References.build b.header.imageBase settings.references.ripRelative b.stream
      let rows := (selectReferences refs target source).map referenceRow
      .shows [.table ("Cross-references (" ++ Text.decimal rows.length ++ ")") rows]

def symbolRow (s : Symbol) : Row :=
  [("address", address s.address), ("name", .string s.name), ("type", .string s.kind.name),
   ("size", .number s.size), ("dll", .string (s.library.getD ""))]

def selectSymbols (t : SymbolTable) : Option SymbolKind → List Symbol
  | some kind => t.ofKind kind
  | none => (sortBy Prod.fst t.entries).map Prod.snd

def listSymbols (w : World) (settings : Settings) (path : String) (kind : Option SymbolKind) :
    Outcome :=
  withBinary w path fun b =>
    let settings := namingStrings settings (kind = some .string)
    match SymbolTable.resolve (Request.ofBinary b settings).symbolSearch b.stream (some b.data) with
    | .error e => ⟨1, [], some (.input e), none, []⟩
    | .ok t =>
      let rows := (selectSymbols t kind).map symbolRow
      .shows [.table ("Symbols (" ++ Text.decimal rows.length ++ ")") rows]

def stringRow (m : Match) : Row :=
  let wide := (m.description.getD "").startsWith "Wide"
  [("offset", address m.offset), ("kind", .string (if wide then "wide" else "ascii")),
   ("text", .ofOption .string m.text)]

def listStrings (w : World) (settings : Settings) (path : String) (minLength : Option Int)
    (wide : Option Bool) : Outcome :=
  withBytes w path fun data =>
    let rows := (Scan.allStrings (minLength.getD settings.scans.minLength)
      (wide.getD settings.scans.wide) data).map stringRow
    .shows [.table ("Strings (" ++ Text.decimal rows.length ++ ")") rows]

def matchRow (m : Match) : Row :=
  [("offset", address m.offset), ("bytes", .string m.bytes.toSpacedHex),
   ("match", .string (m.description.getD ""))]

def searchFile (w : World) (settings : Settings) (path pattern : String) (sleds : Bool) : Outcome :=
  match Signature.parse? pattern with
  | none => .reports ("Invalid byte pattern: " ++ Text.quoted pattern)
  | some s =>
    withBytes w path fun data =>
      let found := s.find (some pattern) data
      let found :=
        if sleds then sortBy (·.offset) (found ++ Scan.sleds settings.scans.sledLength data)
        else found
      let rows := found.map matchRow
      .shows [.table ("Matches (" ++ Text.decimal rows.length ++ ")") rows]

def execute (w : World) (settings : Settings) : Command → Outcome
  | .analyze path naming reportPath => analyzeBinary w settings path naming reportPath
  | .routines path limit => listRoutines w settings path limit
  | .references path target source => listReferences w settings path target source
  | .symbols path kind => listSymbols w settings path kind
  | .strings path minLength wide => listStrings w settings path minLength wide
  | .search path pattern sleds => searchFile w settings path pattern sleds

/-- Runs the command that the arguments name, after the settings have been loaded. Wrong arguments
of the command end with the exit code 2. -/
def runNamed (w : World) (options : Arguments) (name : String) (args : List String) : Outcome :=
  match Settings.load w.files w.environment w.search (options.option? "config") with
  | .error e => ⟨1, [], some (.settings e), none, []⟩
  | .ok settings =>
    let level := if options.has "verbose" then "DEBUG" else settings.journal.level
    let outcome :=
      match parse name args with
      | .error .help => Outcome.silent 0
      | .error .wrong => Outcome.silent 2
      | .ok command => execute w settings command
    outcome.after (.journal level settings.journal.jsonLines)

def ending? (a : Arguments) : Option String :=
  (a.options.map Prod.fst).find? fun key => key == "version" || key == "help"

def endWith (key : String) : Outcome :=
  if key = "version" then { Outcome.silent 0 with banner := some versionLine } else .silent 0

/-- Runs a command line whose command is unknown. If it is an option that ends the command line, it
counts as one though it stands behind the two dashes. -/
def runUnknown (args : List String) : Outcome :=
  match (arguments? globalSpecs false args).bind ending? with
  | some key => endWith key
  | none => .silent 2

def run (w : World) (args : List String) : Outcome :=
  match arguments? globalSpecs false args with
  | none => .silent 2
  | some a =>
    match ending? a with
    | some key => endWith key
    | none =>
      match a.operands with
      | [] => .silent 2
      | name :: rest =>
        if (specs name).isSome then runNamed w a name rest else runUnknown (name :: rest)

end CodeAtlas.Command
