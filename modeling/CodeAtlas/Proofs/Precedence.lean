import Mathlib.Data.List.Basic
import Mathlib.Order.Nat

/-!
# Precedence

Several sources offer items, each at places of its own, and two offers may have the same key. The
sources are tried in order. If each of them lists its first offer of a key before its others, the
key goes to the first offer of the first source that has one.
-/

set_option autoImplicit false

namespace CodeAtlas

variable {σ α β κ : Type}

/-- The offer is made at the place, and none of its key is made at an earlier one. -/
def FirstPlace (Offers : Nat → β → Prop) (key : β → κ) (place : Nat) (b : β) : Prop :=
  Offers place b ∧ ∀ other c, Offers other c → key c = key b → place ≤ other

theorem firstPlace_of_unique {Offers : Nat → β → Prop} {key : β → κ} {place : Nat} {b : β}
    (hb : Offers place b) (hunique : ∀ other c, Offers other c → key c = key b → c = b) :
    ∃ place, FirstPlace Offers key place b := by
  classical
  have hsome : ∃ place, Offers place b := ⟨place, hb⟩
  refine ⟨Nat.find hsome, Nat.find_spec hsome, ?_⟩
  intro other c hc hsame
  rw [hunique other c hc hsame] at hc
  exact Nat.find_min' hsome hc

variable [DecidableEq σ] [DecidableEq κ]

theorem mem_of_idxOf_lt {order before after : List σ} {x y : σ}
    (horder : order = before ++ x :: after) (h : order.idxOf y < order.idxOf x) : y ∈ before := by
  rw [horder] at h
  by_contra hmem
  rw [List.idxOf_append_of_notMem hmem] at h
  have hx : (before ++ x :: after).idxOf x ≤ before.length := by
    rw [List.idxOf_append]
    split
    · exact List.idxOf_le_length
    · simp
  omega

def OffersRows (Offers : Nat → β → Prop) (rows : List α) (used : α → Bool) (f : α → β) : Prop :=
  ∀ place b, Offers place b ↔ ∃ x, rows[place]? = some x ∧ used x = true ∧ f x = b

theorem OffersRows.first {Offers : Nat → β → Prop} {rows : List α} {used : α → Bool} {f : α → β}
    (hrows : OffersRows Offers rows used f) {key : β → κ} {k : κ} {b : β}
    (h : ((rows.filter used).map f).find? (key · = k) = some b) :
    ∃ place, FirstPlace Offers key place b := by
  have hkey : key b = k := by simpa using List.find?_some h
  rw [List.find?_map, List.find?_filter, Option.map_eq_some_iff] at h
  obtain ⟨x, hx, rfl⟩ := h
  obtain ⟨hfound, place, hplace, rfl, hbefore⟩ := List.find?_eq_some_iff_getElem.mp hx
  simp only [Function.comp_apply, decide_eq_true_eq] at hfound
  refine ⟨place, (hrows _ _).mpr ⟨_, List.getElem?_eq_getElem hplace, hfound.1, rfl⟩, ?_⟩
  intro other c hc hsame
  obtain ⟨y, hy, hused, rfl⟩ := (hrows _ _).mp hc
  obtain ⟨hother, rfl⟩ := List.getElem?_eq_some_iff.mp hy
  apply Nat.le_of_not_lt
  intro hlt
  have hnot := hbefore other hlt
  simp [hused, hsame, hkey] at hnot

/-- The offer comes before all others of its key: they are made by later sources, or by the same
source at later places. -/
def FirstOffer (order : List σ) (Offers : σ → Nat → β → Prop) (key : β → κ) (source : σ)
    (place : Nat) (b : β) : Prop :=
  Offers source place b ∧ ∀ source' place' c, Offers source' place' c → key c = key b →
    order.idxOf source < order.idxOf source' ∨ (source' = source ∧ place ≤ place')

section Offers

variable {order : List σ} {Offers : σ → Nat → β → Prop} {key : β → κ} {offered : σ → List β}
  (hlisted : ∀ source place b, Offers source place b →
    source ∈ order ∧ ∃ c ∈ offered source, key c = key b)

include hlisted

omit [DecidableEq σ] in
theorem find?_of_offer {source : σ} {place : Nat} {b : β} (h : Offers source place b) :
    ∃ c, (order.flatMap offered).find? (key · = key b) = some c := by
  obtain ⟨hsource, c, hc, hkey⟩ := hlisted source place b h
  have hmem : c ∈ order.flatMap offered := List.mem_flatMap.mpr ⟨source, hsource, hc⟩
  exact Option.isSome_iff_exists.mp (List.find?_isSome.mpr ⟨c, hmem, by simp [hkey]⟩)

theorem firstOffer_of_find? {k : κ} {b : β}
    (hfirst : ∀ source, (offered source).find? (key · = k) = some b →
      ∃ place, FirstPlace (Offers source) key place b)
    (h : (order.flatMap offered).find? (key · = k) = some b) :
    ∃ source place, FirstOffer order Offers key source place b := by
  have hkey : key b = k := by simpa using List.find?_some h
  rw [List.find?_flatMap, List.findSome?_eq_some_iff] at h
  obtain ⟨before, source, after, horder, hfind, hnone⟩ := h
  obtain ⟨place, hb, hplace⟩ := hfirst source hfind
  refine ⟨source, place, hb, ?_⟩
  intro source' place' c hc hsame
  obtain ⟨hmem, d, hd, hdkey⟩ := hlisted source' place' c hc
  rcases Nat.lt_trichotomy (order.idxOf source) (order.idxOf source') with hbefore | heq | hafter
  · exact Or.inl hbefore
  · rw [List.idxOf_inj (by simp [horder])] at heq
    subst heq
    exact Or.inr ⟨rfl, hplace place' c hc hsame⟩
  · -- an earlier source that offers the key would have been found instead
    have hnot := List.find?_eq_none.mp (hnone source' (mem_of_idxOf_lt horder hafter)) d hd
    simp [hdkey, hsame, hkey] at hnot

end Offers

end CodeAtlas
