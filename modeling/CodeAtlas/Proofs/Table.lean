import CodeAtlas.Table
import Mathlib.Data.List.Nodup

set_option autoImplicit false

namespace CodeAtlas.Table

variable {κ ν : Type} [DecidableEq κ]

theorem putEntry_of_notMem {k : κ} {es : List (κ × ν)} (v : ν) (h : k ∉ es.map Prod.fst) :
    putEntry k v es = es ++ [(k, v)] := by
  induction es with
  | nil => rfl
  | cons e rest ih =>
    simp only [List.map_cons, List.mem_cons, not_or] at h
    have hne : e.1 ≠ k := fun heq => h.1 heq.symm
    rw [putEntry, if_neg hne, ih h.2, List.cons_append]

theorem foldl_put_entries (es : List (κ × ν)) (t : Table κ ν)
    (h : (t.entries.map Prod.fst ++ es.map Prod.fst).Nodup) :
    (es.foldl (fun t e => t.put e.1 e.2) t).entries = t.entries ++ es := by
  induction es generalizing t with
  | nil => simp
  | cons e rest ih =>
    have hnew : e.1 ∉ t.entries.map Prod.fst := by
      intro hmem
      exact (List.nodup_append.mp h).2.2 _ hmem _ (by simp) rfl
    have hput : (t.put e.1 e.2).entries = t.entries ++ [e] := putEntry_of_notMem e.2 hnew
    rw [List.foldl_cons, ih _ (by simpa [hput] using h), hput]
    simp

theorem ofList_entries {es : List (κ × ν)} (h : (es.map Prod.fst).Nodup) :
    (ofList es).entries = es :=
  foldl_put_entries es empty (by simpa [empty] using h)

theorem ofList_self (t : Table κ ν) : ofList t.entries = t := by
  cases t with
  | mk entries nodup =>
    have hentries := ofList_entries nodup
    generalize ofList entries = u at hentries
    cases u
    subst hentries
    rfl

theorem get?_eq_some_iff (t : Table κ ν) (k : κ) (v : ν) :
    t.get? k = some v ↔ (k, v) ∈ t.entries := by
  rw [get?, Option.map_eq_some_iff]
  constructor
  · rintro ⟨e, he, rfl⟩
    have hkey : e.1 = k := by simpa using List.find?_some he
    rw [← hkey]
    exact List.mem_of_find?_eq_some he
  · intro hmem
    obtain ⟨e, he⟩ : ∃ e, t.entries.find? (·.1 = k) = some e := by
      refine Option.isSome_iff_exists.mp (List.find?_isSome.mpr ⟨(k, v), hmem, by simp⟩)
    have hkey : e.1 = k := by simpa using List.find?_some he
    have hsame := List.inj_on_of_nodup_map t.nodup (List.mem_of_find?_eq_some he) hmem hkey
    exact ⟨e, he, by rw [hsame]⟩

theorem mem_keys_iff (t : Table κ ν) (k : κ) : k ∈ t.keys ↔ ∃ v, t.get? k = some v := by
  simp only [get?_eq_some_iff, keys, List.mem_map, Prod.exists]
  constructor
  · rintro ⟨a, v, hmem, rfl⟩
    exact ⟨v, hmem⟩
  · rintro ⟨v, hmem⟩
    exact ⟨k, v, hmem, rfl⟩

theorem mem_values_iff (t : Table κ ν) (v : ν) : v ∈ t.values ↔ ∃ k, t.get? k = some v := by
  simp only [get?_eq_some_iff, values, List.mem_map, Prod.exists]
  constructor
  · rintro ⟨k, w, hmem, rfl⟩
    exact ⟨k, hmem⟩
  · rintro ⟨k, hmem⟩
    exact ⟨k, v, hmem, rfl⟩

theorem keys_put (t : Table κ ν) (k : κ) (v : ν) :
    (t.put k v).keys = if k ∈ t.keys then t.keys else t.keys ++ [k] :=
  keys_putEntry k v t.entries

/-! ## First claims -/

theorem find?_putEntry (k key : κ) (v : ν) (es : List (κ × ν)) :
    ((putEntry k v es).find? (·.1 = key)).map Prod.snd =
      if key = k then some v else (es.find? (·.1 = key)).map Prod.snd := by
  induction es with
  | nil =>
    by_cases hkey : key = k
    · simp [putEntry, hkey]
    · have hne : ¬ k = key := fun heq => hkey heq.symm
      simp [putEntry, hkey, hne]
  | cons e rest ih =>
    rw [putEntry]
    by_cases he : e.1 = k
    · by_cases hkey : key = k
      · simp [he, hkey]
      · have hne : ¬ k = key := fun heq => hkey heq.symm
        simp [he, hkey, hne]
    · rw [if_neg he, List.find?_cons, List.find?_cons]
      by_cases hekey : e.1 = key
      · have hkey : ¬ key = k := fun heq => he (hekey.trans heq)
        simp [hekey, hkey]
      · simpa [hekey] using ih

theorem get?_put (t : Table κ ν) (k key : κ) (v : ν) :
    (t.put k v).get? key = if key = k then some v else t.get? key :=
  find?_putEntry k key v t.entries

theorem contains_eq (t : Table κ ν) (k : κ) : t.contains k = (t.get? k).isSome := by
  rw [contains, get?, Option.isSome_map, List.isSome_find?]

theorem get?_claim (t : Table κ ν) (k key : κ) (v : ν) :
    (t.claim k v).get? key = (t.get? key).or (if k = key then some v else none) := by
  rw [claim, contains_eq]
  by_cases hkey : k = key
  · subst hkey
    cases hget : t.get? k with
    | none => simp [get?_put]
    | some w => simp [hget]
  · have hne : ¬ key = k := fun heq => hkey heq.symm
    rw [if_neg hkey, Option.or_none]
    split
    · rfl
    · rw [get?_put, if_neg hne]

theorem foldl_claim_get? (es : List (κ × ν)) (t : Table κ ν) (key : κ) :
    (es.foldl (fun t e => t.claim e.1 e.2) t).get? key =
      (t.get? key).or ((es.find? (·.1 = key)).map Prod.snd) := by
  induction es generalizing t with
  | nil => simp
  | cons e rest ih =>
    rw [List.foldl_cons, ih, get?_claim, Option.or_assoc, List.find?_cons]
    by_cases hkey : e.1 = key
    · simp [hkey]
    · simp [hkey]

theorem get?_firstClaims (es : List (κ × ν)) (key : κ) :
    (firstClaims es).get? key = (es.find? (·.1 = key)).map Prod.snd := by
  rw [firstClaims, foldl_claim_get?]
  rfl

theorem get?_firstClaims_by (key : ν → κ) (vs : List ν) (k : κ) :
    (firstClaims (vs.map fun v => (key v, v))).get? k = vs.find? (key · = k) := by
  rw [get?_firstClaims, List.find?_map, Option.map_map]
  exact Option.map_id_apply

/-! ## Groups -/

theorem get?_file (t : Table κ (List ν)) (k key : κ) (v : ν) :
    (t.file k v).get? key =
      if key = k then some ((t.get? k).getD [] ++ [v]) else t.get? key :=
  get?_put t k key _

theorem foldl_file_get? (es : List (κ × ν)) (t : Table κ (List ν)) (key : κ) :
    ((es.foldl (fun t e => t.file e.1 e.2) t).get? key).getD [] =
      (t.get? key).getD [] ++ (es.filter (·.1 = key)).map Prod.snd := by
  induction es generalizing t with
  | nil => simp
  | cons e rest ih =>
    rw [List.foldl_cons, ih, get?_file]
    by_cases hkey : e.1 = key
    · simp [hkey]
    · have hne : ¬ key = e.1 := fun heq => hkey heq.symm
      simp [hkey, hne]

theorem get?_group (es : List (κ × ν)) (key : κ) :
    ((group es).get? key).getD [] = (es.filter (·.1 = key)).map Prod.snd :=
  foldl_file_get? es empty key

theorem foldl_file_nonempty (es : List (κ × ν)) {t : Table κ (List ν)}
    (ht : ∀ key vs, t.get? key = some vs → vs ≠ []) :
    ∀ key vs, (es.foldl (fun t e => t.file e.1 e.2) t).get? key = some vs → vs ≠ [] := by
  induction es generalizing t with
  | nil => exact ht
  | cons e rest ih =>
    refine ih ?_
    intro key vs hvs
    rw [get?_file] at hvs
    split at hvs
    · cases hvs
      simp
    · exact ht key vs hvs

theorem group_nonempty (es : List (κ × ν)) {key : κ} {vs : List ν}
    (h : (group es).get? key = some vs) : vs ≠ [] := by
  refine foldl_file_nonempty es ?_ key vs h
  intro k ws hws
  cases hws

theorem putEntry_perm (k : κ) (v : ν) (es : List (κ × List ν)) :
    ((putEntry k (((es.find? (·.1 = k)).map Prod.snd).getD [] ++ [v]) es).map
      Prod.snd).flatten.Perm ((es.map Prod.snd).flatten ++ [v]) := by
  induction es with
  | nil => simp [putEntry]
  | cons e rest ih =>
    rw [putEntry]
    by_cases he : e.1 = k
    · simp only [he, ↓reduceIte, decide_true, List.find?_cons_of_pos, Option.map_some,
        Option.getD_some, List.map_cons, List.flatten_cons, List.append_assoc]
      exact (List.perm_append_comm).append_left e.2
    · simp only [he, ↓reduceIte, decide_false, Bool.false_eq_true, not_false_eq_true,
        List.find?_cons_of_neg, List.map_cons, List.flatten_cons, List.append_assoc]
      exact ih.append_left e.2

theorem foldl_file_perm (es : List (κ × ν)) (t : Table κ (List ν)) :
    (es.foldl (fun t e => t.file e.1 e.2) t).values.flatten.Perm
      (t.values.flatten ++ es.map Prod.snd) := by
  induction es generalizing t with
  | nil => simp
  | cons e rest ih =>
    have hfile : (t.file e.1 e.2).values.flatten.Perm (t.values.flatten ++ [e.2]) :=
      putEntry_perm e.1 e.2 t.entries
    refine (ih (t.file e.1 e.2)).trans ((hfile.append_right _).trans ?_)
    rw [List.append_assoc, List.singleton_append, List.map_cons]

/-- Grouping keeps every item as often as it was given. -/
theorem group_perm (es : List (κ × ν)) : (group es).values.flatten.Perm (es.map Prod.snd) :=
  foldl_file_perm es empty

theorem mem_keys_group (es : List (κ × ν)) (key : κ) :
    key ∈ (group es).keys ↔ ∃ e ∈ es, e.1 = key := by
  have hitems := get?_group es key
  rw [mem_keys_iff]
  constructor
  · rintro ⟨vs, hvs⟩
    obtain ⟨v, hv⟩ := List.exists_mem_of_ne_nil vs (group_nonempty es hvs)
    rw [hvs, Option.getD_some] at hitems
    rw [hitems] at hv
    obtain ⟨e, he, _⟩ := List.mem_map.mp hv
    exact ⟨e, List.mem_of_mem_filter he, by simpa using (List.mem_filter.mp he).2⟩
  · rintro ⟨e, he, rfl⟩
    have hmem : e.2 ∈ ((group es).get? e.1).getD [] := by
      rw [hitems]
      exact List.mem_map_of_mem (List.mem_filter.mpr ⟨he, by simp⟩)
    cases hget : (group es).get? e.1 with
    | none => simp [hget] at hmem
    | some vs => exact ⟨vs, rfl⟩

/-! ## Lists under their keys -/

theorem flatMap_keys (t : Table κ (List ν)) :
    t.keys.flatMap (fun k => (t.get? k).getD []) = t.values.flatten := by
  rw [keys, values, List.flatMap_map, ← List.flatMap_def]
  apply List.flatMap_congr
  intro e he
  rw [(t.get?_eq_some_iff e.1 e.2).mpr he, Option.getD_some]

theorem filter_flatten_values {key : ν → κ} {es : List (κ × List ν)} (k : κ)
    (hnodup : (es.map Prod.fst).Nodup) (hkey : ∀ e ∈ es, ∀ v ∈ e.2, key v = e.1) :
    (es.map Prod.snd).flatten.filter (key · = k) =
      ((es.find? (·.1 = k)).map Prod.snd).getD [] := by
  induction es with
  | nil => rfl
  | cons e rest ih =>
    obtain ⟨hnew, hrest⟩ := List.nodup_cons.mp hnodup
    have hlater := ih hrest fun e' he' => hkey e' (List.mem_cons_of_mem e he')
    have hself := hkey e List.mem_cons_self
    rw [List.map_cons, List.flatten_cons, List.filter_append, hlater]
    by_cases hek : e.1 = k
    · have hkeep : e.2.filter (key · = k) = e.2 :=
        List.filter_eq_self.mpr fun v hv => by simp [hself v hv, hek]
      have habsent : rest.find? (·.1 = k) = none := by
        rw [List.find?_eq_none]
        intro e' he' hsame
        have hek' : e'.1 = e.1 := (of_decide_eq_true hsame).trans hek.symm
        exact hnew (hek' ▸ List.mem_map_of_mem he')
      simp [hek, hkeep, habsent]
    · have hdrop : e.2.filter (key · = k) = [] :=
        List.filter_eq_nil_iff.mpr fun v hv => by simp [hself v hv, hek]
      simp [hek, hdrop]

end CodeAtlas.Table
