import CodeAtlas.Proofs.Table
import CodeAtlas.Symbol
import Mathlib.Data.List.Induction

set_option autoImplicit false

namespace CodeAtlas.SymbolTable

inductive Edit where
  | annotate (address : Int) (note : Option String) (name : Option String)
  | dropNote (address : Int)
  deriving Repr, DecidableEq

namespace Edit

def apply (t : SymbolTable) : Edit → SymbolTable
  | annotate a note name => t.annotate a note name
  | dropNote a => t.dropNote a

def address : Edit → Int
  | annotate a _ _ => a
  | dropNote a => a

def annotated? : Edit → Option Int
  | annotate a _ _ => some a
  | dropNote _ => none

def note : Edit → Option String
  | annotate _ note _ => note
  | dropNote _ => none

def name? : Edit → Option String
  | annotate _ _ name => givenName? name
  | dropNote _ => none

end Edit

def edited (t : SymbolTable) (edits : List Edit) : SymbolTable := edits.foldl Edit.apply t

/-- The symbol at an address, or the one that an address without a symbol gets. -/
def symbolAt (t : SymbolTable) (a : Int) : Symbol :=
  (t.get? a).getD (Symbol.bare a ("data_" ++ Text.capitalHex a) .data)

/-- The addresses without a symbol that are annotated, in the order in which they first are. -/
def newcomers (t : SymbolTable) (edits : List Edit) : List Int :=
  ((edits.filterMap Edit.annotated?).filter (· ∉ t.keys)).eraseDups

def noteAfter (t : SymbolTable) (edits : List Edit) (a : Int) : Option String :=
  match (edits.filter (·.address = a)).getLast? with
  | none => (t.symbolAt a).note
  | some e => e.note

def nameAfter (t : SymbolTable) (edits : List Edit) (a : Int) : String :=
  ((edits.filter (·.address = a)).filterMap Edit.name?).getLast?.getD (t.symbolAt a).name

/-! ## One edit -/

theorem annotate_eq (t : SymbolTable) (a : Int) (note name : Option String) :
    t.annotate a note name = t.put a { t.symbolAt a with
      note := note, name := (givenName? name).getD (t.symbolAt a).name } := by
  unfold annotate symbolAt
  cases t.get? a with
  | none => rfl
  | some s => rfl

theorem get?_dropNote (t : SymbolTable) (a key : Int) : (t.dropNote a).get? key =
    if key = a then (t.get? a).map fun s => { s with note := none } else t.get? key := by
  unfold dropNote
  cases hget : t.get? a with
  | none =>
    by_cases hkey : key = a
    · simp [hkey, hget]
    · simp [hkey]
  | some s =>
    cases hnote : s.note with
    | none =>
      have hsame : { s with note := none } = s := by rw [← hnote]
      by_cases hkey : key = a
      · simp [hkey, hget, hnote, hsame]
      · simp [hkey, hnote]
    | some text => simp [hnote, Table.get?_put]

/-- An edit changes nothing but the note and the name of the symbol at its address. -/
theorem symbolAt_apply (t : SymbolTable) (e : Edit) (a : Int) :
    (e.apply t).symbolAt a =
      if a = e.address then { t.symbolAt a with
        note := e.note, name := e.name?.getD (t.symbolAt a).name }
      else t.symbolAt a := by
  cases e with
  | annotate b note name =>
    change (t.annotate b note name).symbolAt a = if a = b then _ else _
    rw [annotate_eq, symbolAt, Table.get?_put]
    split
    · next hkey =>
      subst hkey
      rfl
    · rfl
  | dropNote b =>
    change (t.dropNote b).symbolAt a = if a = b then _ else _
    rw [symbolAt, get?_dropNote]
    split
    · next hkey =>
      subst hkey
      unfold symbolAt
      cases t.get? a with
      | none => rfl
      | some s => rfl
    · rfl

theorem keys_apply (t : SymbolTable) (e : Edit) :
    (e.apply t).keys = t.keys ++ e.annotated?.toList.filter (· ∉ t.keys) := by
  cases e with
  | annotate a note name =>
    change (t.annotate a note name).keys = _
    rw [annotate_eq, Table.keys_put]
    by_cases ha : a ∈ t.keys
    · simp [Edit.annotated?, ha]
    · simp [Edit.annotated?, ha]
  | dropNote a =>
    change (t.dropNote a).keys = t.keys ++ []
    rw [dropNote, List.append_nil]
    cases hget : t.get? a with
    | none => rfl
    | some s =>
      have ha : a ∈ t.keys := (t.mem_keys_iff a).mpr ⟨s, hget⟩
      simp only
      split
      · rw [Table.keys_put, if_pos ha]
      · rfl

/-! ## All edits -/

theorem edited_concat (t : SymbolTable) (edits : List Edit) (e : Edit) :
    t.edited (edits ++ [e]) = e.apply (t.edited edits) := by
  rw [edited, List.foldl_append]
  rfl

theorem noteAfter_concat (t : SymbolTable) (edits : List Edit) (e : Edit) (a : Int) :
    t.noteAfter (edits ++ [e]) a = if a = e.address then e.note else t.noteAfter edits a := by
  unfold noteAfter
  rw [List.filter_append]
  by_cases ha : a = e.address
  · simp [ha]
  · have hne : ¬ e.address = a := fun heq => ha heq.symm
    simp [ha, hne]

theorem nameAfter_concat (t : SymbolTable) (edits : List Edit) (e : Edit) (a : Int) :
    t.nameAfter (edits ++ [e]) a =
      if a = e.address then e.name?.getD (t.nameAfter edits a) else t.nameAfter edits a := by
  unfold nameAfter
  rw [List.filter_append, List.filterMap_append]
  by_cases ha : a = e.address
  · cases hname : e.name? with
    | none => simp [ha, hname]
    | some name => simp [ha, hname]
  · have hne : ¬ e.address = a := fun heq => ha heq.symm
    simp [ha, hne]

theorem symbolAt_edited (t : SymbolTable) (edits : List Edit) (a : Int) :
    (t.edited edits).symbolAt a =
      { t.symbolAt a with note := t.noteAfter edits a, name := t.nameAfter edits a } := by
  -- Later edits overrule earlier ones, so the induction takes edits off the end.
  induction edits using List.reverseRecOn with
  | nil => rfl
  | append_singleton edits e ih =>
    rw [edited_concat, symbolAt_apply, noteAfter_concat, nameAfter_concat, ih]
    split <;> rfl

theorem eraseDups_concat (xs : List Int) (a : Int) :
    (xs ++ [a]).eraseDups = xs.eraseDups ++ [a].filter (· ∉ xs.eraseDups) := by
  rw [List.eraseDups_append]
  by_cases ha : a ∈ xs
  · simp [List.removeAll, ha]
  · simp [List.removeAll, ha, List.eraseDups_cons]

theorem newcomers_concat (t : SymbolTable) (edits : List Edit) (e : Edit) :
    t.newcomers (edits ++ [e]) = t.newcomers edits ++
      e.annotated?.toList.filter (· ∉ t.keys ++ t.newcomers edits) := by
  cases hnew : e.annotated? with
  | none => simp [newcomers, hnew]
  | some a =>
    by_cases ha : a ∈ t.keys
    · simp [newcomers, hnew, ha]
    · have hlast : t.newcomers (edits ++ [e]) =
          t.newcomers edits ++ [a].filter (· ∉ t.newcomers edits) := by
        rw [newcomers, List.filterMap_append, List.filter_append]
        have hkept : ([e].filterMap Edit.annotated?).filter (· ∉ t.keys) = [a] := by
          simp [hnew, ha]
        rw [hkept, eraseDups_concat]
        rfl
      by_cases hcame : a ∈ t.newcomers edits
      · simp [hlast, hcame]
      · simp [hlast, hcame, ha]

theorem keys_edited (t : SymbolTable) (edits : List Edit) :
    (t.edited edits).keys = t.keys ++ t.newcomers edits := by
  induction edits using List.reverseRecOn with
  | nil => simp [edited, newcomers]
  | append_singleton edits e ih =>
    rw [edited_concat, keys_apply, ih, newcomers_concat, List.append_assoc]

theorem keys_isPrefix (t : SymbolTable) (edits later : List Edit) :
    (t.edited edits).keys <+: (t.edited (edits ++ later)).keys := by
  have hlater : t.edited (edits ++ later) = (t.edited edits).edited later := List.foldl_append
  rw [hlater, keys_edited (t.edited edits) later]
  exact List.prefix_append _ _

def Addressed (t : SymbolTable) : Prop := ∀ a s, t.get? a = some s → s.address = a

structure Annotated (t : SymbolTable) (edits : List Edit) (u : SymbolTable) : Prop where
  keys : u.keys = t.keys ++ t.newcomers edits
  lasting : ∀ n, (t.edited (edits.take n)).keys <+: u.keys
  addressed : Addressed u
  symbols : ∀ a s, u.get? a = some s →
    s = { t.symbolAt a with note := t.noteAfter edits a, name := t.nameAfter edits a }

theorem Addressed.symbolAt {t : SymbolTable} (h : Addressed t) (a : Int) :
    (t.symbolAt a).address = a := by
  unfold SymbolTable.symbolAt
  cases hget : t.get? a with
  | none => rfl
  | some s => exact h a s hget

/-- After any edits every address of the table is still there, and its symbol is the first one up to
the last note and the last name given to it. -/
theorem edited_annotated (t : SymbolTable) (haddressed : Addressed t) (edits : List Edit) :
    Annotated t edits (t.edited edits) := by
  have hsymbols : ∀ a s, (t.edited edits).get? a = some s →
      s = { t.symbolAt a with note := t.noteAfter edits a, name := t.nameAfter edits a } := by
    intro a s hs
    have hat := t.symbolAt_edited edits a
    rwa [symbolAt, hs, Option.getD_some] at hat
  constructor
  case keys => exact t.keys_edited edits
  case lasting =>
    intro n
    have hprefix := t.keys_isPrefix (edits.take n) (edits.drop n)
    rwa [List.take_append_drop] at hprefix
  case addressed =>
    intro a s hs
    rw [hsymbols a s hs]
    exact haddressed.symbolAt a
  case symbols => exact hsymbols

def mainTable : SymbolTable :=
  Table.ofList [(0x20, Symbol.bare 0x20 "main" .routine), (0x10, Symbol.bare 0x10 "exit" .imported)]

/-- A name is given, an address is annotated for the first time after a note was dropped there, and an
empty name changes nothing. -/
def mainEdits : List Edit :=
  [.annotate 0x20 (some "start") (some "begin"), .dropNote 0x40, .annotate 0x40 (some "list") none,
    .annotate 0x20 (some "loop") (some ""), .dropNote 0x40]

theorem edited_annotated_main : Addressed mainTable ∧
    (mainTable.edited mainEdits).get? 0x20 =
      some { Symbol.bare 0x20 "begin" .routine with note := some "loop" } ∧
    (mainTable.edited mainEdits).get? 0x40 = some (Symbol.bare 0x40 "data_40" .data) ∧
    Annotated mainTable mainEdits (mainTable.edited mainEdits) := by
  have haddressed : Addressed mainTable := by
    intro a s hs
    rw [Table.get?_eq_some_iff] at hs
    rcases List.mem_pair.mp hs with heq | heq
    · cases heq
      rfl
    · cases heq
      rfl
  exact ⟨haddressed, by decide +kernel, by decide +kernel,
    edited_annotated mainTable haddressed mainEdits⟩

end CodeAtlas.SymbolTable
