import CodeAtlas.Json.Printer
import CodeAtlas.Text.Quoted

set_option autoImplicit false

namespace CodeAtlas.Screen

mutual

/-- A value inside another one: texts are quoted. -/
def innerText : Json → String
  | .null => "None"
  | .bool b => if b then "True" else "False"
  | .number n => Text.decimal n
  | .decimal literal => literal
  | .string s => Text.quoted s
  | .array js => "[" ++ ", ".intercalate (innerItems js) ++ "]"
  | .object ms => "\x7b" ++ ", ".intercalate (innerMembers ms) ++ "\x7d"

def innerItems : List Json → List String
  | [] => []
  | j :: rest => innerText j :: innerItems rest

def innerMembers : List (String × Json) → List String
  | [] => []
  | (key, j) :: rest => (Text.quoted key ++ ": " ++ innerText j) :: innerMembers rest

end

def cellText : Json → String
  | .string s => s
  | j => innerText j

abbrev Row := List (String × Json)

def columnsOf (columns : List String) (rows : List Row) : List String :=
  if columns.isEmpty then (rows.head?.getD []).map Prod.fst else columns

def cellsOf (columns : List String) (row : Row) : List String :=
  columns.map fun c => cellText ((row.lookup c).getD (.string ""))

def padded (width : Nat) (s : String) : String :=
  s ++ String.ofList (List.replicate (width - s.length) ' ')

def widthsOf (count : Nat) (lines : List (List String)) : List Nat :=
  (List.range count).map fun i => (lines.map fun l => (l.getD i "").length).foldl max 0

def rule (left fill joint right : String) (widths : List Nat) : String :=
  left ++ joint.intercalate (widths.map fun w => String.join (List.replicate (w + 2) fill)) ++
    right ++ "\n"

def cellLine (bar : String) (widths : List Nat) (cells : List String) : String :=
  bar ++ bar.intercalate ((cells.zip widths).map fun c => " " ++ padded c.2 c.1 ++ " ") ++ bar ++
    "\n"

def boxWidth (widths : List Nat) : Nat := widths.foldr (fun w n => w + 3 + n) 1

/-- The title in the middle of a box; without a title there is no line. -/
def titleLine (title : Option String) (widths : List Nat) : String :=
  match title with
  | none => ""
  | some s =>
    if s = "" then ""
    else
      let left := (boxWidth widths - s.length) / 2
      padded (boxWidth widths) (String.ofList (List.replicate left ' ') ++ s) ++ "\n"

/-- A table. Without rows it says that there are none. -/
def table (rows : List Row) (title : Option String) (columns : List String) : String :=
  if rows.isEmpty then "No results.\n"
  else
    let columns := columnsOf columns rows
    if columns.isEmpty then "\n"
    else
      let lines := rows.map (cellsOf columns)
      let widths := widthsOf columns.length (columns :: lines)
      titleLine title widths ++ rule "┏" "━" "┳" "┓" widths ++ cellLine "┃" widths columns ++
        rule "┡" "━" "╇" "┩" widths ++ String.join (lines.map (cellLine "│" widths)) ++
        rule "└" "─" "┴" "┘" widths

def screenWidth : Nat := 200

/-- The widths of two columns, of which the first is the wider, that fill a line of the screen
together with their three bars. -/
def fullWidths : List Nat :=
  let room := screenWidth - 3
  [room - room / 2 - 2, room / 2 - 2]

/-- A summary: a table of names and values without a head. Without values it is an empty box over
the whole screen. -/
def summary (title : String) (values : List (String × Json)) : String :=
  let lines := values.map fun e => [e.1, cellText e.2]
  let widths := if values.isEmpty then fullWidths else widthsOf 2 lines
  titleLine (some title) widths ++ rule "┌" "─" "┬" "┐" widths ++
    String.join (lines.map (cellLine "│" widths)) ++ rule "└" "─" "┴" "┘" widths

def data (j : Json) : String := j.render ⟨some 2, false⟩ ++ "\n"

def errorLine (message : String) : String := "Error: " ++ message ++ "\n"

def warningLine (message : String) : String := "Warning: " ++ message ++ "\n"

inductive Display where
  | journal (level : String) (jsonLines : Bool)
  | table (title : String) (rows : List Row)
  | summary (title : String) (values : List (String × Json))
  /-- A line of text with marks for its style between square brackets. -/
  | line (text : String)
  | success (message : String)
  | error (message : String)
  | warning (message : String)

def styleMarks : List String := ["[bold]", "[/bold]", "[dim]", "[/dim]"]

def plainLine (s : String) : String :=
  styleMarks.foldl (fun t mark => t.replace mark "") s ++ "\n"

end CodeAtlas.Screen
