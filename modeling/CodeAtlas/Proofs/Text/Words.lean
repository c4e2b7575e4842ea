import CodeAtlas.Proofs.Run
import CodeAtlas.Text.Basic

set_option autoImplicit false

namespace CodeAtlas.Text

def Blanks (cs : List Char) : Prop := ∀ c ∈ cs, isBlank c = true

def IsWord (cs : List Char) : Prop := cs ≠ [] ∧ ∀ c ∈ cs, isBlank c = false

/-- Blanks, then words each of which is followed by blanks of its own. -/
def spread (lead : List Char) : List (List Char × List Char) → List Char
  | [] => lead
  | (word, gap) :: rest => lead ++ (word ++ spread gap rest)

/-- What comes before and after words: blanks, and between two words at least one. -/
structure Separated (lead : List Char) (gaps : List (List Char)) : Prop where
  ahead : Blanks lead
  behind : ∀ gap ∈ gaps, Blanks gap
  between : ∀ gap ∈ gaps.dropLast, gap ≠ []

def Splits (text : String) (words : List String) : Prop :=
  ∃ lead pieces, Separated lead (pieces.map Prod.snd) ∧ (∀ e ∈ pieces, IsWord e.1) ∧
    text.toList = spread lead pieces ∧ words = pieces.map fun e => String.ofList e.1

theorem separated_cons (lead gap : List Char) (gaps : List (List Char)) :
    Separated lead (gap :: gaps) ↔
      Blanks lead ∧ (gaps ≠ [] → gap ≠ []) ∧ Separated gap gaps := by
  constructor
  · rintro ⟨hlead, hgaps, hbetween⟩
    obtain ⟨hgap, hgaps⟩ := List.forall_mem_cons.mp hgaps
    by_cases hlast : gaps = []
    · subst hlast
      exact ⟨hlead, by simp, hgap, hgaps, by simp⟩
    · rw [List.dropLast_cons_of_ne_nil hlast, List.forall_mem_cons] at hbetween
      exact ⟨hlead, fun _ => hbetween.1, hgap, hgaps, hbetween.2⟩
  · rintro ⟨hlead, hne, hgap, hgaps, hbetween⟩
    refine ⟨hlead, List.forall_mem_cons.mpr ⟨hgap, hgaps⟩, ?_⟩
    by_cases hlast : gaps = []
    · simp [hlast]
    · rw [List.dropLast_cons_of_ne_nil hlast]
      exact List.forall_mem_cons.mpr ⟨hne hlast, hbetween⟩

/-! ## Every text is spread out -/

theorem exists_spread (cs : List Char) : ∃ lead pieces,
    Separated lead (pieces.map Prod.snd) ∧ (∀ e ∈ pieces, IsWord e.1) ∧ cs = spread lead pieces := by
  induction cs with
  | nil => exact ⟨[], [], ⟨by simp [Blanks], by simp, by simp⟩, by simp, rfl⟩
  | cons c cs ih =>
    obtain ⟨lead, pieces, hseparated, hwords, rfl⟩ := ih
    by_cases hc : isBlank c = true
    · refine ⟨c :: lead, pieces, ?_, hwords, ?_⟩
      · exact ⟨List.forall_mem_cons.mpr ⟨hc, hseparated.ahead⟩, hseparated.behind, hseparated.between⟩
      · cases pieces with
        | nil => rfl
        | cons e rest => rfl
    · rw [Bool.not_eq_true] at hc
      -- The character joins the first word, unless blanks or the end of the text come next.
      by_cases hjoins : lead = [] ∧ pieces ≠ []
      · obtain ⟨rfl, hne⟩ := hjoins
        obtain ⟨⟨word, gap⟩, rest, rfl⟩ := List.exists_cons_of_ne_nil hne
        obtain ⟨⟨hword, hletters⟩, hwords⟩ := List.forall_mem_cons.mp hwords
        refine ⟨[], (c :: word, gap) :: rest, hseparated, ?_, rfl⟩
        refine List.forall_mem_cons.mpr ⟨⟨List.cons_ne_nil c word, ?_⟩, hwords⟩
        exact List.forall_mem_cons.mpr ⟨hc, hletters⟩
      · refine ⟨[], ([c], lead) :: pieces, ?_, ?_, rfl⟩
        · rw [List.map_cons, separated_cons]
          refine ⟨by simp [Blanks], ?_, hseparated⟩
          rintro hmore rfl
          exact hjoins ⟨rfl, fun hnil => hmore (by rw [hnil]; rfl)⟩
        · exact List.forall_mem_cons.mpr ⟨⟨by simp, by simpa using hc⟩, hwords⟩

/-! ## Its words are found -/

theorem spread_cut {gap : List Char} {pieces : List (List Char × List Char)} (hgap : Blanks gap)
    (hne : pieces ≠ [] → gap ≠ []) : ¬ InClass (!isBlank ·) (spread gap pieces) 0 := by
  cases gap with
  | nil =>
    cases pieces with
    | nil => simp [spread, InClass]
    | cons e rest => exact absurd rfl (hne (List.cons_ne_nil e rest))
  | cons c gap =>
    have hc := hgap c List.mem_cons_self
    cases pieces with
    | nil => simp [spread, InClass, hc]
    | cons e rest => simp [spread, InClass, hc]

theorem items_spread {lead : List Char} {pieces : List (List Char × List Char)}
    (hseparated : Separated lead (pieces.map Prod.snd)) (hwords : ∀ e ∈ pieces, IsWord e.1)
    (position : Nat) :
    (runsFrom (!isBlank ·) position (spread lead pieces)).map (·.items) = pieces.map Prod.fst := by
  induction pieces generalizing lead position with
  | nil =>
    have hskip : ∀ c ∈ lead, ¬ (!isBlank c) = true := fun c hc => by simp [hseparated.ahead c hc]
    have hnone := runsFrom_skip (p := (!isBlank ·)) hskip position []
    rw [List.append_nil, runsFrom_nil] at hnone
    rw [spread, hnone]
    rfl
  | cons e rest ih =>
    obtain ⟨word, gap⟩ := e
    rw [List.map_cons, separated_cons] at hseparated
    obtain ⟨hlead, hne, hseparated⟩ := hseparated
    obtain ⟨⟨hword, hletters⟩, hwords⟩ := List.forall_mem_cons.mp hwords
    have hskip : ∀ c ∈ lead, ¬ (!isBlank c) = true := fun c hc => by simp [hlead c hc]
    have hrun : ∀ c ∈ word, (!isBlank c) = true := fun c hc => by simp [hletters c hc]
    have hcut := spread_cut hseparated.ahead fun hmore => hne (by simpa using hmore)
    rw [spread, runsFrom_skip hskip, runsFrom_append hword hrun hcut, List.map_cons,
      ih hseparated hwords, List.map_cons]

theorem words_of_spread {text : String} {lead : List Char} {pieces : List (List Char × List Char)}
    (hseparated : Separated lead (pieces.map Prod.snd)) (hwords : ∀ e ∈ pieces, IsWord e.1)
    (htext : text.toList = spread lead pieces) :
    words text = pieces.map fun e => String.ofList e.1 := by
  have hitems := items_spread hseparated hwords 0
  rw [words, runs, htext]
  simpa [Function.comp_def] using congrArg (List.map String.ofList) hitems

theorem words_eq_iff (text : String) (ws : List String) : words text = ws ↔ Splits text ws := by
  constructor
  · rintro rfl
    obtain ⟨lead, pieces, hseparated, hwords, htext⟩ := exists_spread text.toList
    exact ⟨lead, pieces, hseparated, hwords, htext, words_of_spread hseparated hwords htext⟩
  · rintro ⟨lead, pieces, hseparated, hwords, htext, rfl⟩
    exact words_of_spread hseparated hwords htext

end CodeAtlas.Text
