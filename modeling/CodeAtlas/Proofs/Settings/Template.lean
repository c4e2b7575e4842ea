import CodeAtlas.Settings.Template
import Mathlib.Data.List.Chain
import Mathlib.Data.List.Infix
import Mathlib.Data.List.TakeWhile

/-!
# Reading templates

A placeholder is written in one way and read back as itself, whatever follows it. A text is read
from left to right: where a placeholder starts it is taken whole, and elsewhere one character is
passed. Every text has exactly one such reading, and replacing placeholders evaluates it without
looking at what it puts in.

A template is made of literals and placeholders. If no literal holds a dollar sign before a brace
and no two literals touch, its reading has the placeholders of the template and no others. A
literal may end with a dollar sign, since what follows it is a placeholder and not a brace, and a
fallback may look like the start of a placeholder, since it is taken with the placeholder it
belongs to.
-/

set_option autoImplicit false

namespace CodeAtlas.Template

open Text (openBrace closeBrace)

/-! ## Placeholders -/

namespace Placeholder

def ending (p : Placeholder) : List Char :=
  match p.fallback with
  | none => [closeBrace]
  | some text => ':' :: (text ++ [closeBrace])

def render (p : Placeholder) : List Char := '$' :: openBrace :: (p.name ++ p.ending)

structure Valid (p : Placeholder) : Prop where
  named : p.name ≠ []
  word : ∀ c ∈ p.name, Text.isWordChar c = true
  unclosed : ∀ text, p.fallback = some text → closeBrace ∉ text

end Placeholder

theorem span_before {c : Char} {text : List Char} (h : c ∉ text) (rest : List Char) :
    (text ++ c :: rest).takeWhile (· ≠ c) = text ∧
      (text ++ c :: rest).dropWhile (· ≠ c) = c :: rest := by
  have hall : ∀ d ∈ text, decide (d ≠ c) = true := by
    intro d hd
    exact decide_eq_true fun heq => h (heq ▸ hd)
  constructor
  · rw [List.takeWhile_append_of_pos hall, List.takeWhile_cons_of_neg (by simp), List.append_nil]
  · rw [List.dropWhile_append_of_pos hall, List.dropWhile_cons_of_neg (by simp)]

theorem eq_span_before {c b : Char} {cs after : List Char}
    (h : cs.dropWhile (· ≠ c) = b :: after) :
    cs = cs.takeWhile (· ≠ c) ++ c :: after ∧ c ∉ cs.takeWhile (· ≠ c) := by
  have hb : b = c := by
    have hhead := List.head?_dropWhile_not (· ≠ c) cs
    rw [h] at hhead
    simpa using hhead
  constructor
  · rw [← hb, ← h, hb, List.takeWhile_append_dropWhile]
  · intro hmem
    simpa using List.mem_takeWhile_imp hmem

theorem closing?_eq_some_iff {name cs rest : List Char} {p : Placeholder} :
    closing? name cs = some (p, rest) ↔ p.name = name ∧
      (∀ text, p.fallback = some text → closeBrace ∉ text) ∧ cs = p.ending ++ rest := by
  obtain ⟨given, fallback⟩ := p
  have hcolon : ':' ≠ closeBrace := by decide
  constructor
  · intro h
    cases cs with
    | nil => cases h
    | cons c more =>
      rw [closing?] at h
      split at h
      · next hc =>
        cases h
        exact ⟨rfl, by simp, by rw [hc]; rfl⟩
      · split at h
        · next hc =>
          split at h
          · cases h
          · next hdrop =>
            obtain ⟨hmore, hnone⟩ := eq_span_before hdrop
            cases h
            refine ⟨rfl, by simpa using hnone, ?_⟩
            rw [hc, Placeholder.ending, List.cons_append, List.append_assoc]
            exact congrArg _ hmore
        · cases h
  · rintro ⟨rfl, hunclosed, rfl⟩
    cases fallback with
    | none => simp [Placeholder.ending, closing?]
    | some text =>
      obtain ⟨htake, hdrop⟩ := span_before (hunclosed text rfl) rest
      simp only [Placeholder.ending, List.cons_append, List.append_assoc, List.nil_append]
      rw [closing?, if_neg hcolon, if_pos rfl, hdrop, htake]

theorem span_ending (p : Placeholder) (rest : List Char) :
    (p.ending ++ rest).takeWhile Text.isWordChar = [] ∧
      (p.ending ++ rest).dropWhile Text.isWordChar = p.ending ++ rest := by
  have hbrace : Text.isWordChar closeBrace = false := by decide
  have hcolon : Text.isWordChar ':' = false := by decide
  unfold Placeholder.ending
  split
  · simp [hbrace]
  · simp [hcolon]

theorem placeholder?_eq_some_iff {cs rest : List Char} {p : Placeholder} :
    placeholder? cs = some (p, rest) ↔ p.Valid ∧ cs = p.render ++ rest := by
  constructor
  · intro h
    match cs with
    | [] | [_] => cases h
    | c :: d :: more =>
      rw [placeholder?] at h
      split at h
      · next hopen =>
        obtain ⟨rfl, rfl, hne⟩ := hopen
        obtain ⟨hname, hunclosed, hmore⟩ := closing?_eq_some_iff.mp h
        rw [← hname] at hne
        refine ⟨⟨hne, ?_, hunclosed⟩, ?_⟩
        · intro c hc
          rw [hname] at hc
          exact List.mem_takeWhile_imp hc
        · rw [Placeholder.render, List.cons_append, List.cons_append, List.append_assoc, ← hmore,
            hname, List.takeWhile_append_dropWhile]
      · cases h
  · rintro ⟨hvalid, rfl⟩
    obtain ⟨htake, hdrop⟩ := span_ending p rest
    rw [Placeholder.render, List.cons_append, List.cons_append, List.append_assoc, placeholder?,
      List.takeWhile_append_of_pos hvalid.word, List.dropWhile_append_of_pos hvalid.word, htake,
      hdrop, List.append_nil, if_pos ⟨rfl, rfl, hvalid.named⟩]
    exact closing?_eq_some_iff.mpr ⟨rfl, hvalid.unclosed, rfl⟩

theorem render_append_inj {p q : Placeholder} {rest after : List Char} (hp : p.Valid)
    (hq : q.Valid) (h : p.render ++ rest = q.render ++ after) : p = q ∧ rest = after := by
  have hread : placeholder? (p.render ++ rest) = some (p, rest) :=
    placeholder?_eq_some_iff.mpr ⟨hp, rfl⟩
  rw [h, placeholder?_eq_some_iff.mpr ⟨hq, rfl⟩] at hread
  cases hread
  exact ⟨rfl, rfl⟩

/-! ## Readings -/

inductive Segment where
  | literal (text : List Char)
  | placeholder (p : Placeholder)
  deriving Repr, DecidableEq

namespace Segment

def render : Segment → List Char
  | literal text => text
  | placeholder p => p.render

def evaluate (env : Environment) : Segment → List Char
  | literal text => text
  | placeholder p =>
    (((env (String.ofList p.name)).map String.toList).or p.fallback).getD []

def name? : Segment → Option String
  | literal _ => none
  | placeholder p => some (String.ofList p.name)

def isLiteral : Segment → Bool
  | literal _ => true
  | placeholder _ => false

/-- A segment in the pieces in which it is read: a literal character by character. -/
def pieces : Segment → List Segment
  | literal text => text.map fun c => literal [c]
  | placeholder p => [placeholder p]

end Segment

/-- A text read from left to right. A placeholder is taken where one starts, and elsewhere a
character. -/
inductive Reads : List Char → List Segment → Prop where
  | done : Reads [] []
  | placeholder {p : Placeholder} {rest : List Char} {ss : List Segment} : p.Valid →
      Reads rest ss → Reads (p.render ++ rest) (.placeholder p :: ss)
  | character {c : Char} {rest : List Char} {ss : List Segment} :
      (∀ (p : Placeholder) (after : List Char), p.Valid → c :: rest ≠ p.render ++ after) →
      Reads rest ss → Reads (c :: rest) (.literal [c] :: ss)

theorem placeholder?_eq_none_iff {cs : List Char} :
    placeholder? cs = none ↔
      ∀ (p : Placeholder) (after : List Char), p.Valid → cs ≠ p.render ++ after := by
  constructor
  · intro hnone p after hp heq
    rw [placeholder?_eq_some_iff.mpr ⟨hp, heq⟩] at hnone
    cases hnone
  · intro hnot
    apply Option.eq_none_iff_forall_ne_some.mpr
    rintro ⟨p, after⟩ hsome
    obtain ⟨hp, heq⟩ := placeholder?_eq_some_iff.mp hsome
    exact hnot p after hp heq

theorem exists_reads (cs : List Char) : ∃ ss, Reads cs ss := by
  induction hn : cs.length using Nat.strong_induction_on generalizing cs with
  | h n ih =>
    subst hn
    cases hfront : placeholder? cs with
    | some found =>
      obtain ⟨p, rest⟩ := found
      obtain ⟨ss, hss⟩ := ih _ (placeholder?_shorter hfront) rest rfl
      obtain ⟨hp, rfl⟩ := placeholder?_eq_some_iff.mp hfront
      exact ⟨_, Reads.placeholder hp hss⟩
    | none =>
      cases cs with
      | nil => exact ⟨[], Reads.done⟩
      | cons c rest =>
        obtain ⟨ss, hss⟩ := ih rest.length (Nat.lt_succ_self _) rest rfl
        exact ⟨_, Reads.character (placeholder?_eq_none_iff.mp hfront) hss⟩

theorem Reads.unique {cs : List Char} {ss ts : List Segment} (hss : Reads cs ss)
    (hts : Reads cs ts) : ss = ts := by
  -- Two readings take the same step at each place: a placeholder is told by its text, and a
  -- character is passed only where no placeholder starts.
  induction hss generalizing ts with
  | done =>
    generalize hcs : ([] : List Char) = cs at hts
    cases hts with
    | done => rfl
    | placeholder hp _ => cases hcs
    | character _ _ => cases hcs
  | @placeholder p rest ss hp _ ih =>
    generalize hcs : p.render ++ rest = cs at hts
    cases hts with
    | done => cases hcs
    | placeholder hq hrest =>
      obtain ⟨rfl, rfl⟩ := render_append_inj hp hq hcs
      rw [ih hrest]
    | character hnot _ => exact absurd hcs.symm (hnot p rest hp)
  | @character c rest ss hnot _ ih =>
    generalize hcs : c :: rest = cs at hts
    cases hts with
    | done => cases hcs
    | placeholder hq _ => exact absurd hcs (hnot _ _ hq)
    | character _ hrest =>
      cases hcs
      rw [ih hrest]

theorem value_eq (env : Environment) (p : Placeholder) :
    value env p = (Segment.placeholder p).evaluate env := by
  rw [value, Segment.evaluate]
  cases env (String.ofList p.name) with
  | none => rfl
  | some s => rfl

theorem expandChars_of_some (env : Environment) {cs rest : List Char} {p : Placeholder}
    (h : placeholder? cs = some (p, rest)) :
    expandChars env cs = value env p ++ expandChars env rest := by
  rw [expandChars]
  split
  · next heq =>
    rw [h] at heq
    cases heq
    rfl
  · next heq =>
    rw [h] at heq
    cases heq

theorem expandChars_of_none (env : Environment) {c : Char} {rest : List Char}
    (h : placeholder? (c :: rest) = none) :
    expandChars env (c :: rest) = c :: expandChars env rest := by
  rw [expandChars]
  split
  · next heq =>
    rw [h] at heq
    cases heq
  · rfl

theorem Reads.expandChars_eq {cs : List Char} {ss : List Segment} (h : Reads cs ss)
    (env : Environment) : expandChars env cs = ss.flatMap (Segment.evaluate env) := by
  induction h with
  | done => rw [expandChars]; rfl
  | placeholder hp _ ih =>
    rw [expandChars_of_some env (placeholder?_eq_some_iff.mpr ⟨hp, rfl⟩), ih, value_eq,
      List.flatMap_cons]
  | character hnot _ ih =>
    rw [expandChars_of_none env (placeholder?_eq_none_iff.mpr hnot), ih, List.flatMap_cons]
    rfl

def Mentions (s name : String) : Prop :=
  ∃ ss, Reads s.toList ss ∧ name ∈ ss.filterMap Segment.name?

theorem flatMap_evaluate_congr {env other : Environment} {ss : List Segment}
    (h : ∀ name ∈ ss.filterMap Segment.name?, env name = other name) :
    ss.flatMap (Segment.evaluate env) = ss.flatMap (Segment.evaluate other) := by
  apply List.flatMap_congr
  intro s hs
  cases s with
  | literal text => rfl
  | placeholder p =>
    have hname : env (String.ofList p.name) = other (String.ofList p.name) :=
      h _ (List.mem_filterMap.mpr ⟨_, hs, rfl⟩)
    rw [Segment.evaluate, Segment.evaluate, hname]

/-- A text depends on the values of the names that it mentions and on nothing else. -/
theorem expand_congr {env other : Environment} {s : String}
    (h : ∀ name, Mentions s name → env name = other name) : expand env s = expand other s := by
  obtain ⟨ss, hss⟩ := exists_reads s.toList
  rw [expand, expand, hss.expandChars_eq, hss.expandChars_eq,
    flatMap_evaluate_congr fun name hname => h name ⟨ss, hss, hname⟩]

/-! ## Templates -/

def render (t : List Segment) : String := String.ofList (t.flatMap Segment.render)

def evaluate (env : Environment) (t : List Segment) : String :=
  String.ofList (t.flatMap (Segment.evaluate env))

/-- No literal holds the start of a placeholder, and no two literals touch. -/
structure WellFormed (t : List Segment) : Prop where
  literals : ∀ text, Segment.literal text ∈ t → ¬ ['$', openBrace] <:+: text
  apart : t.IsChain fun x y => ¬ (x.isLiteral = true ∧ y.isLiteral = true)
  placeholders : ∀ p, Segment.placeholder p ∈ t → p.Valid

theorem WellFormed.tail {s : Segment} {t : List Segment} (h : WellFormed (s :: t)) :
    WellFormed t where
  literals text htext := h.literals text (List.mem_cons_of_mem s htext)
  apart := h.apart.tail
  placeholders p hp := h.placeholders p (List.mem_cons_of_mem s hp)

theorem WellFormed.after_literal {text : List Char} {t : List Segment}
    (h : WellFormed (.literal text :: t)) :
    (t.flatMap Segment.render).head? ≠ some openBrace := by
  have hdollar : '$' ≠ openBrace := by decide
  cases t with
  | nil => simp
  | cons s rest =>
    cases s with
    | literal next => exact absurd ⟨rfl, rfl⟩ (List.isChain_cons_cons.mp h.apart).1
    | placeholder p => simpa [Segment.render, Placeholder.render] using hdollar

/-- A literal is read character by character, since a placeholder starts neither in it nor at its
end. -/
theorem reads_literal {text rest : List Char} {ss : List Segment}
    (hfree : ¬ ['$', openBrace] <:+: text) (hafter : rest.head? ≠ some openBrace)
    (hrest : Reads rest ss) : Reads (text ++ rest) ((Segment.literal text).pieces ++ ss) := by
  induction text with
  | nil => exact hrest
  | cons c more ih =>
    have hmore : ¬ ['$', openBrace] <:+: more := fun h => hfree (List.infix_cons h)
    have hnone : ∀ (p : Placeholder) (after : List Char), p.Valid →
        c :: (more ++ rest) ≠ p.render ++ after := by
      intro p after _ heq
      rw [Placeholder.render, List.cons_append, List.cons_append, List.cons.injEq] at heq
      obtain ⟨rfl, hnext⟩ := heq
      cases more with
      | nil =>
        rw [List.nil_append] at hnext
        rw [hnext] at hafter
        exact hafter rfl
      | cons d others =>
        rw [List.cons_append, List.cons.injEq] at hnext
        obtain ⟨rfl, _⟩ := hnext
        exact hfree ⟨[], others, rfl⟩
    exact Reads.character hnone (ih hmore)

theorem WellFormed.reads {t : List Segment} (h : WellFormed t) :
    Reads (t.flatMap Segment.render) (t.flatMap Segment.pieces) := by
  induction t with
  | nil => exact Reads.done
  | cons s rest ih =>
    rw [List.flatMap_cons, List.flatMap_cons]
    have hrest := ih h.tail
    cases s with
    | literal text =>
      exact reads_literal (h.literals text (List.mem_cons_self ..)) h.after_literal hrest
    | placeholder p => exact Reads.placeholder (h.placeholders p (List.mem_cons_self ..)) hrest

theorem evaluate_pieces (env : Environment) (s : Segment) :
    s.pieces.flatMap (Segment.evaluate env) = s.evaluate env := by
  cases s with
  | literal text =>
    rw [Segment.pieces, List.flatMap_map]
    exact List.flatMap_singleton' text
  | placeholder p => exact List.append_nil _

theorem name?_pieces (s : Segment) : s.pieces.filterMap Segment.name? = s.name?.toList := by
  cases s with
  | literal text => simp [Segment.pieces, Segment.name?, List.filterMap_map]
  | placeholder p => rfl

theorem filterMap_pieces (t : List Segment) :
    (t.flatMap Segment.pieces).filterMap Segment.name? = t.filterMap Segment.name? := by
  induction t with
  | nil => rfl
  | cons s rest ih =>
    rw [List.flatMap_cons, List.filterMap_append, ih, name?_pieces, List.filterMap_cons]
    cases s.name? with
    | none => rfl
    | some name => rfl

theorem WellFormed.expand_render {t : List Segment} (h : WellFormed t) (env : Environment) :
    expand env (render t) = evaluate env t := by
  rw [expand, render, String.toList_ofList, h.reads.expandChars_eq, evaluate, List.flatMap_assoc]
  simp only [evaluate_pieces]

theorem WellFormed.mentions_iff {t : List Segment} (h : WellFormed t) (name : String) :
    Mentions (render t) name ↔ name ∈ t.filterMap Segment.name? := by
  rw [← filterMap_pieces, Mentions, render, String.toList_ofList]
  constructor
  · rintro ⟨ss, hss, hname⟩
    rwa [hss.unique h.reads] at hname
  · intro hname
    exact ⟨_, h.reads, hname⟩

end CodeAtlas.Template
