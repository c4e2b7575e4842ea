import CodeAtlas.Proofs.Settings.Template

/-!
# Replacing placeholders in nested values

A value is known by what stands at each of its places: a leaf, the length of an array, or the keys
of an object. Replacing the placeholders of a value puts other texts at the places that hold texts
and leaves all else as it is. What it puts there depends only on the names that the texts mention.
-/

set_option autoImplicit false

namespace CodeAtlas

namespace Json

/-! ## Places -/

inductive Node where
  | null
  | bool (b : Bool)
  | number (n : Int)
  | decimal (literal : String)
  | text (s : String)
  | array (size : Nat)
  | object (keys : List String)
  deriving Repr, DecidableEq

def node : Json → Node
  | .null => .null
  | .bool b => .bool b
  | .number n => .number n
  | .decimal literal => .decimal literal
  | .string s => .text s
  | .array js => .array js.length
  | .object ms => .object (ms.map Prod.fst)

def child? : Json → Nat → Option Json
  | .array js, n => js[n]?
  | .object ms, n => ms[n]?.map Prod.snd
  | _, _ => none

/-- The node at a place, which is told by the positions of items and members from the outermost. -/
def nodeAt? (j : Json) : List Nat → Option Node
  | [] => some j.node
  | n :: path => (j.child? n).bind fun k => k.nodeAt? path

theorem sizeOf_child?_lt {j k : Json} {n : Nat} (h : j.child? n = some k) :
    sizeOf k < sizeOf j := by
  cases j with
  | array js =>
    have hitem := List.sizeOf_lt_of_mem (List.mem_of_getElem? h)
    rw [array.sizeOf_spec]
    omega
  | object ms =>
    obtain ⟨m, hm, rfl⟩ := Option.map_eq_some_iff.mp h
    have hmember := List.sizeOf_lt_of_mem (List.mem_of_getElem? hm)
    have hpair : sizeOf m = 1 + sizeOf m.1 + sizeOf m.2 := rfl
    rw [object.sizeOf_spec]
    omega
  | _ => cases h

theorem eq_of_node {j k : Json} (hroot : j.node = k.node)
    (hchild : ∀ n, j.child? n = k.child? n) : j = k := by
  cases j with
  | array js =>
    cases k with
    | array ks => rw [List.ext_getElem? hchild]
    | _ => cases hroot
  | object ms =>
    cases k with
    | object ns =>
      have hkeys : ms.map Prod.fst = ns.map Prod.fst := Node.object.inj hroot
      have hvalues : ms.map Prod.snd = ns.map Prod.snd := by
        apply List.ext_getElem?
        intro n
        rw [List.getElem?_map, List.getElem?_map]
        exact hchild n
      rw [List.zip_of_prod hkeys hvalues, ← List.zip_of_prod rfl rfl]
    | _ => cases hroot
  | _ =>
    cases k <;> cases hroot
    rfl

theorem eq_of_nodeAt? {j k : Json} (h : ∀ path, j.nodeAt? path = k.nodeAt? path) : j = k := by
  -- Items and members are smaller than the value that holds them, so the induction is on the size.
  induction hn : sizeOf j using Nat.strong_induction_on generalizing j k with
  | h n ih =>
    subst hn
    apply eq_of_node (Option.some.inj (h []))
    intro n
    have hbelow : ∀ path, (j.child? n).bind (·.nodeAt? path) = (k.child? n).bind (·.nodeAt? path) :=
      fun path => h (n :: path)
    cases hj : j.child? n with
    | none =>
      cases hk : k.child? n with
      | none => rfl
      | some b =>
        have hnode := hbelow []
        rw [hj, hk] at hnode
        cases hnode
    | some a =>
      cases hk : k.child? n with
      | none =>
        have hnode := hbelow []
        rw [hj, hk] at hnode
        cases hnode
      | some b =>
        rw [hj, hk] at hbelow
        rw [ih _ (sizeOf_child?_lt hj) hbelow rfl]

def Node.mapText (f : String → String) : Node → Node
  | .text s => .text (f s)
  | node => node

end Json

namespace Template

open Json (Node)
open Text (openBrace closeBrace)

theorem mapTextsItems_eq (f : String → Json) (js : List Json) :
    mapTextsItems f js = js.map (mapTexts f) := by
  induction js with
  | nil => rfl
  | cons j rest ih => rw [mapTextsItems, ih, List.map_cons]

theorem mapTextsMembers_eq (f : String → Json) (ms : List (String × Json)) :
    mapTextsMembers f ms = ms.map fun m => (m.1, mapTexts f m.2) := by
  induction ms with
  | nil => rfl
  | cons m rest ih => rw [mapTextsMembers, ih, List.map_cons]

theorem node_interpolate (env : Environment) (j : Json) :
    (interpolate env j).node = j.node.mapText (expand env) := by
  cases j with
  | array js => simp [interpolate, mapTexts, mapTextsItems_eq, Json.node, Node.mapText]
  | object ms => simp [interpolate, mapTexts, mapTextsMembers_eq, Json.node, Node.mapText]
  | _ => rfl

theorem child?_interpolate (env : Environment) (j : Json) (n : Nat) :
    (interpolate env j).child? n = (j.child? n).map (interpolate env) := by
  cases j with
  | array js =>
    rw [interpolate, mapTexts, mapTextsItems_eq, Json.child?, List.getElem?_map, Json.child?]
    rfl
  | object ms =>
    rw [interpolate, mapTexts, mapTextsMembers_eq, Json.child?, List.getElem?_map, Json.child?,
      Option.map_map, Option.map_map]
    rfl
  | _ => rfl

theorem nodeAt?_interpolate (env : Environment) (j : Json) (path : List Nat) :
    (interpolate env j).nodeAt? path = (j.nodeAt? path).map (Node.mapText (expand env)) := by
  induction path generalizing j with
  | nil => rw [Json.nodeAt?, Json.nodeAt?, node_interpolate, Option.map_some]
  | cons n path ih =>
    rw [Json.nodeAt?, Json.nodeAt?, child?_interpolate]
    cases j.child? n with
    | none => rfl
    | some k => exact ih k

/-- A written template is replaced by the values of its segments, and mentions the names of its
placeholders. In a nested value this happens to the texts; keys, other leaves and shape stay. Two
environments that agree on the names that the texts mention give the same value. -/
theorem interpolate_evaluates :
    (∀ (env : Environment) (t : List Segment), WellFormed t →
      expand env (render t) = evaluate env t ∧
        ∀ name, Mentions (render t) name ↔ name ∈ t.filterMap Segment.name?) ∧
    (∀ (env : Environment) (j : Json) (path : List Nat),
      (interpolate env j).nodeAt? path = (j.nodeAt? path).map (Node.mapText (expand env))) ∧
    (∀ (env other : Environment) (j : Json),
      (∀ path s name, j.nodeAt? path = some (.text s) → Mentions s name →
        env name = other name) → interpolate env j = interpolate other j) := by
  refine ⟨?_, nodeAt?_interpolate, ?_⟩
  · intro env t ht
    exact ⟨ht.expand_render env, ht.mentions_iff⟩
  · intro env other j hagree
    apply Json.eq_of_nodeAt?
    intro path
    rw [nodeAt?_interpolate, nodeAt?_interpolate]
    cases hnode : j.nodeAt? path with
    | none => rfl
    | some node =>
      cases node with
      | text s =>
        have hexpand : expand env s = expand other s :=
          expand_congr fun name => hagree path s name hnode
        rw [Option.map_some, Option.map_some, Node.mapText, Node.mapText, hexpand]
      | _ => rfl

/-- A dollar sign before a placeholder, a fallback that looks like one, and a name without value. -/
def sampleTemplate : List Segment :=
  [.literal ['$'], .placeholder ⟨['A'], some ['$', openBrace, 'B']⟩, .literal [closeBrace, ':'],
   .placeholder ⟨['C'], none⟩, .placeholder ⟨['D'], none⟩]

/-- An environment in which the value of `C` looks like a placeholder. -/
def sampleEnvironment (b : Option String) : Environment := fun name =>
  if name = "C" then some (String.ofList ['$', openBrace, 'A', closeBrace])
  else if name = "B" then b
  else none

theorem sampleTemplate_wellFormed : WellFormed sampleTemplate where
  literals := by
    intro text htext
    simp only [sampleTemplate, List.mem_cons, Segment.literal.injEq, reduceCtorEq,
      List.not_mem_nil, or_false, false_or] at htext
    rcases htext with rfl | rfl
    · decide
    · decide
  apart := by decide
  placeholders := by
    intro p hp
    simp only [sampleTemplate, List.mem_cons, Segment.placeholder.injEq, reduceCtorEq,
      List.not_mem_nil, or_false, false_or] at hp
    rcases hp with rfl | rfl | rfl
    · have hfallback : closeBrace ∉ ['$', openBrace, 'B'] := by decide
      exact ⟨by simp, List.forall_mem_singleton.mpr (by decide), by simpa using hfallback⟩
    · exact ⟨by simp, List.forall_mem_singleton.mpr (by decide), by simp⟩
    · exact ⟨by simp, List.forall_mem_singleton.mpr (by decide), by simp⟩

theorem interpolate_evaluates_sample : WellFormed sampleTemplate ∧
    expand (sampleEnvironment none) (render sampleTemplate) =
      String.ofList ['$', '$', openBrace, 'B', closeBrace, ':', '$', openBrace, 'A', closeBrace] ∧
    interpolate (sampleEnvironment none) (.string (render sampleTemplate)) =
      interpolate (sampleEnvironment (some "b")) (.string (render sampleTemplate)) := by
  have hsample := interpolate_evaluates.1 (sampleEnvironment none) _ sampleTemplate_wellFormed
  refine ⟨sampleTemplate_wellFormed, hsample.1.trans ?_, interpolate_evaluates.2.2 _ _ _ ?_⟩
  · rfl
  · intro path s name hnode hmentions
    cases path with
    | nil =>
      cases hnode
      have hname : "A" = name ∨ "C" = name ∨ "D" = name := by
        simpa [sampleTemplate, Segment.name?] using (hsample.2 name).mp hmentions
      rcases hname with rfl | rfl | rfl <;> rfl
    | cons n path => cases hnode

end Template

end CodeAtlas
