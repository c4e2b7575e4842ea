import CodeAtlas.Json.Parser
import CodeAtlas.Proofs.Json.Token
import CodeAtlas.Proofs.Table

/-!
# Values read back

The text of a value is read as the value again in every layout, provided that no object in it
repeats a key and no number in it is a literal. Reading is followed through the text: a state that
takes a value is led by the text of the value to the state after it.
-/

set_option autoImplicit false

namespace CodeAtlas.Json

/-- A value without number literals in which no object repeats a key. -/
inductive Canonical : Json → Prop
  | null : Canonical .null
  | bool (b : Bool) : Canonical (.bool b)
  | number (n : Int) : Canonical (.number n)
  | string (s : String) : Canonical (.string s)
  | array {items : List Json} (hitems : ∀ item ∈ items, Canonical item) :
      Canonical (.array items)
  | object {members : List (String × Json)} (hkeys : (members.map Prod.fst).Nodup)
      (hmembers : ∀ m ∈ members, Canonical m.2) : Canonical (.object members)

def readOn (s : ReadState) (cs : List Char) : Option ReadState := (tokens? cs).bind s.run

theorem readOn_token {s next : ReadState} {cs rest : List Char} {t : Token}
    (htokens : tokens? cs = (tokens? rest).map (t :: ·)) (hstep : s.step t = some next) :
    readOn s cs = readOn next rest := by
  rw [readOn, readOn, htokens]
  cases tokens? rest with
  | none => rfl
  | some ts =>
    change s.run (t :: ts) = next.run ts
    rw [ReadState.run, hstep]

theorem blank_gap : ∀ c ∈ [' '], isGap c = true := by
  intro c hc
  rw [List.mem_singleton.mp hc]
  rfl

theorem newline_gap (layout : Layout) (depth : Nat) :
    ∀ c ∈ layout.newline depth, isGap c = true := by
  unfold Layout.newline
  split
  · simp
  · rw [List.forall_mem_cons]
    refine ⟨by decide, ?_⟩
    intro c hc
    rw [(List.mem_replicate.mp hc).2]
    decide

theorem readOn_newline (s : ReadState) (layout : Layout) (depth : Nat) (rest : List Char) :
    readOn s (layout.newline depth ++ rest) = readOn s rest := by
  rw [readOn, readOn, tokens?_gap (newline_gap layout depth)]

theorem separator_eq (layout : Layout) (depth : Nat) :
    ∃ gap, layout.separator depth = ',' :: gap ∧ ∀ c ∈ gap, isGap c = true := by
  unfold Layout.separator
  split
  · exact ⟨[' '], rfl, blank_gap⟩
  · exact ⟨layout.newline depth, rfl, newline_gap layout depth⟩

theorem tokens?_separator (layout : Layout) (depth : Nat) (rest : List Char) :
    tokens? (layout.separator depth ++ rest) = (tokens? rest).map (.comma :: ·) := by
  obtain ⟨gap, hgap, hblank⟩ := separator_eq layout depth
  have hcomma : mark? ',' = some .comma := rfl
  rw [hgap, List.cons_append, tokens?_mark hcomma, tokens?_gap hblank]

theorem EndsNumber.newline {rest : List Char} (h : EndsNumber rest) (layout : Layout)
    (depth : Nat) : EndsNumber (layout.newline depth ++ rest) := by
  unfold Layout.newline
  split
  · exact h
  · exact endsNumber_cons _ (by decide)

theorem endsNumber_separator (layout : Layout) (depth : Nat) (rest : List Char) :
    EndsNumber (layout.separator depth ++ rest) := by
  obtain ⟨gap, hgap, _⟩ := separator_eq layout depth
  rw [hgap]
  exact endsNumber_cons _ (by decide)

theorem endsNumber_items (layout : Layout) (depth : Nat) (items : List Json) (rest : List Char) :
    EndsNumber (itemsText layout (depth + 1) items ++ (layout.newline depth ++ ']' :: rest)) := by
  cases items with
  | nil =>
    rw [itemsText]
    exact (endsNumber_cons rest (by decide)).newline layout depth
  | cons item items =>
    rw [itemsText, List.append_assoc, List.append_assoc]
    exact endsNumber_separator layout (depth + 1) _

theorem endsNumber_members (layout : Layout) (depth : Nat) (members : List (String × Json))
    (rest : List Char) : EndsNumber
      (membersText layout (depth + 1) members ++ (layout.newline depth ++ '\x7d' :: rest)) := by
  cases members with
  | nil =>
    rw [membersText]
    exact (endsNumber_cons rest (by decide)).newline layout depth
  | cons m members =>
    rw [membersText]
    simp only [List.append_assoc]
    exact endsNumber_separator layout (depth + 1) _

def TakesValue (s : ReadState) (stack : List Frame) : Prop :=
  ∀ t next, ReadState.startValue stack t = some next → s.step t = some next

theorem takesValue_value (stack : List Frame) : TakesValue ⟨stack, .value⟩ stack := by
  intro t next hnext
  exact hnext

theorem takesValue_arrayStart (stack : List Frame) :
    TakesValue ⟨stack, .arrayStart⟩ (.array [] :: stack) := by
  intro t next hnext
  cases t with
  | closeBracket => cases hnext
  | _ => exact hnext

/-- The text of a value leads to the state after the value. -/
def Readable (layout : Layout) (v : Json) : Prop :=
  ∀ (depth : Nat) (s : ReadState) (stack : List Frame) (rest : List Char), TakesValue s stack →
    EndsNumber rest →
      readOn s (valueText layout depth v ++ rest) = readOn ⟨stack, .after v⟩ rest

theorem readable_of_token? {layout : Layout} {v : Json}
    (htoken : ∀ depth rest, EndsNumber rest →
      token? (valueText layout depth v ++ rest) = some (.scalar v, rest)) : Readable layout v := by
  intro depth s stack rest hs hrest
  have htext : valueText layout depth v ≠ [] := by
    intro hempty
    have hnone := htoken depth [] endsNumber_nil
    rw [hempty] at hnone
    cases hnone
  exact readOn_token (tokens?_append htext (htoken depth rest hrest)) (hs _ _ rfl)

theorem readOn_items {layout : Layout} {items : List Json}
    (hitems : ∀ item ∈ items, Readable layout item) (depth : Nat) (before : List Json) (v : Json)
    (stack : List Frame) (rest : List Char) :
    readOn ⟨.array before :: stack, .after v⟩
        (itemsText layout (depth + 1) items ++ (layout.newline depth ++ ']' :: rest)) =
      readOn ⟨stack, .after (.array (before.reverse ++ v :: items))⟩ rest := by
  induction items generalizing before v with
  | nil =>
    have hclose : mark? ']' = some .closeBracket := rfl
    rw [itemsText, List.nil_append, readOn_newline, readOn_token (tokens?_mark hclose rest) rfl,
      List.reverse_cons]
  | cons item items ih =>
    obtain ⟨hitem, hrest⟩ := List.forall_mem_cons.mp hitems
    have hend := endsNumber_items layout depth items rest
    rw [itemsText, List.append_assoc, List.append_assoc,
      readOn_token (tokens?_separator layout (depth + 1) _) rfl,
      hitem (depth + 1) _ _ _ (takesValue_value _) hend, ih hrest (v :: before) item,
      List.reverse_cons, List.append_assoc, List.singleton_append]

theorem readOn_member {layout : Layout} {key : String} {value : Json}
    (hvalue : Readable layout value) {s : ReadState} {stack : List Frame}
    {before : List (String × Json)}
    (hkey : s.step (.scalar (.string key)) = some ⟨stack, .colon before key⟩) (depth : Nat)
    {rest : List Char} (hrest : EndsNumber rest) :
    readOn s (stringText layout.ascii key ++ ':' :: ' ' :: (valueText layout depth value ++ rest)) =
      readOn ⟨.object before key :: stack, .after value⟩ rest := by
  have hcolon : mark? ':' = some .colon := rfl
  have hgap : ∀ after, tokens? (' ' :: after) = tokens? after := tokens?_gap blank_gap
  rw [readOn_token (tokens?_string layout.ascii key _) hkey,
    readOn_token (tokens?_mark hcolon _) rfl, readOn, hgap, ← readOn,
    hvalue depth _ _ _ (takesValue_value _) hrest]

theorem putEntry_of_nodup {key : String} {v : Json} {before members : List (String × Json)}
    (hkeys : ((before ++ (key, v) :: members).map Prod.fst).Nodup) :
    Table.putEntry key v before = before ++ [(key, v)] := by
  apply Table.putEntry_of_notMem
  intro hmem
  rw [List.map_append, List.nodup_append] at hkeys
  exact hkeys.2.2 key hmem key (List.mem_cons_self ..) rfl

theorem readOn_members {layout : Layout} {members : List (String × Json)}
    (hmembers : ∀ m ∈ members, Readable layout m.2) (depth : Nat) (before : List (String × Json))
    (key : String) (v : Json) (hkeys : ((before ++ (key, v) :: members).map Prod.fst).Nodup)
    (stack : List Frame) (rest : List Char) :
    readOn ⟨.object before key :: stack, .after v⟩
        (membersText layout (depth + 1) members ++ (layout.newline depth ++ '\x7d' :: rest)) =
      readOn ⟨stack, .after (.object (before ++ (key, v) :: members))⟩ rest := by
  induction members generalizing before key v with
  | nil =>
    have hclose : mark? '\x7d' = some .closeBrace := rfl
    rw [membersText, List.nil_append, readOn_newline, readOn_token (tokens?_mark hclose rest) rfl,
      putEntry_of_nodup hkeys]
  | cons m members ih =>
    obtain ⟨hm, hrest⟩ := List.forall_mem_cons.mp hmembers
    have hend := endsNumber_members layout depth members rest
    -- The key is new, so that putting the member appends it to the members before it.
    have hshift : before ++ (key, v) :: m :: members = before ++ [(key, v)] ++ m :: members := by
      simp
    rw [membersText]
    simp only [List.append_assoc, List.cons_append, List.nil_append]
    rw [readOn_token (tokens?_separator layout (depth + 1) _) rfl, putEntry_of_nodup hkeys,
      readOn_member hm rfl (depth + 1) hend, ih hrest _ m.1 m.2 (hshift ▸ hkeys), hshift]

theorem readable_array {layout : Layout} {items : List Json}
    (hitems : ∀ item ∈ items, Readable layout item) : Readable layout (.array items) := by
  intro depth s stack rest hs _
  have hopen : mark? '[' = some .openBracket := rfl
  have hclose : mark? ']' = some .closeBracket := rfl
  cases items with
  | nil =>
    rw [valueText, List.cons_append, readOn_token (tokens?_mark hopen _) (hs _ _ rfl)]
    exact readOn_token (tokens?_mark hclose rest) rfl
  | cons item items =>
    obtain ⟨hitem, hrest⟩ := List.forall_mem_cons.mp hitems
    have hend := endsNumber_items layout depth items rest
    rw [valueText]
    simp only [List.append_assoc, List.cons_append, List.nil_append]
    rw [readOn_token (tokens?_mark hopen _) (hs _ _ rfl), readOn_newline,
      hitem (depth + 1) _ _ _ (takesValue_arrayStart stack) hend, readOn_items hrest]
    rfl

theorem readable_object {layout : Layout} {members : List (String × Json)}
    (hkeys : (members.map Prod.fst).Nodup) (hmembers : ∀ m ∈ members, Readable layout m.2) :
    Readable layout (.object members) := by
  intro depth s stack rest hs _
  have hopen : mark? '\x7b' = some .openBrace := rfl
  have hclose : mark? '\x7d' = some .closeBrace := rfl
  cases members with
  | nil =>
    rw [valueText, List.cons_append, readOn_token (tokens?_mark hopen _) (hs _ _ rfl)]
    exact readOn_token (tokens?_mark hclose rest) rfl
  | cons m members =>
    obtain ⟨hm, hrest⟩ := List.forall_mem_cons.mp hmembers
    have hend := endsNumber_members layout depth members rest
    rw [valueText]
    simp only [List.append_assoc, List.cons_append, List.nil_append]
    rw [readOn_token (tokens?_mark hopen _) (hs _ _ rfl), readOn_newline,
      readOn_member hm rfl (depth + 1) hend, readOn_members hrest depth [] m.1 m.2 hkeys]
    rfl

theorem Canonical.readable {v : Json} (hv : Canonical v) (layout : Layout) : Readable layout v := by
  induction hv with
  | null => exact readable_of_token? fun _ _ _ => rfl
  | bool b =>
    cases b with
    | false => exact readable_of_token? fun _ _ _ => rfl
    | true => exact readable_of_token? fun _ _ _ => rfl
  | number n => exact readable_of_token? fun _ _ hrest => token?_number n hrest
  | string s => exact readable_of_token? fun _ rest _ => token?_string layout.ascii s rest
  | array _ ih => exact readable_array ih
  | object hkeys _ ih => exact readable_object hkeys ih

theorem parse?_of_canonical {v : Json} (hv : Canonical v) (layout : Layout) :
    parse? (v.render layout) = some v := by
  have hend : readOn ⟨[], .after v⟩ [] = some ⟨[], .after v⟩ := by
    rw [readOn, tokens?]
    rfl
  have hread := hv.readable layout 0 _ _ [] (takesValue_value []) endsNumber_nil
  rw [List.append_nil, hend, readOn] at hread
  obtain ⟨ts, htokens, hrun⟩ := Option.bind_eq_some_iff.mp hread
  rw [parse?, render, String.toList_ofList, htokens, Option.bind_some, ofTokens?, hrun]

end CodeAtlas.Json
