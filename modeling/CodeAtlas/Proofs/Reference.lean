import CodeAtlas.Proofs.ControlFlow
import CodeAtlas.Proofs.Routine.Discovery
import CodeAtlas.Proofs.Table
import CodeAtlas.Reference
import Mathlib.Data.List.Perm.Basic

/-!
# What instructions refer to

References are collected by three passes over a stream, which file into one table and share a
mnemonic. `Refers` says what one instruction refers to. No instruction is taken by two passes, so
every one of them refers to at most one address, and the table holds the references of the
instructions of a stream, each as often as its instruction occurs.
-/

set_option autoImplicit false

namespace CodeAtlas

namespace Instruction

def Branches (i : Instruction) : Prop :=
  (i.isJump = true ∨ i.isCall = true) ∧ i.branchTarget?.isSome = true

def LoadsAddress (base : Int) (i : Instruction) : Prop :=
  i.mnemonic ∈ ["mov", "movabs"] ∧ i.kind? 0 = some .register ∧
    registerWidth (i.register? 0) = 64 ∧ i.kind? 1 = some .immediate64 ∧
    ∃ a, i.immediate = some a ∧ 0x1000 ≤ a ∧ base ≤ a ∧ a < base + 0x100000000

def ReadsRelative (i : Instruction) : Prop :=
  i.mnemonic ∈ ["lea", "mov"] ∧ i.kind? 0 = some .register ∧ i.kind? 1 = some .memory ∧
    i.ripTarget.isSome = true

instance (i : Instruction) : Decidable i.Branches := inferInstanceAs (Decidable (_ ∧ _))

instance (base : Int) (i : Instruction) : Decidable (i.LoadsAddress base) :=
  inferInstanceAs (Decidable (_ ∧ _))

instance (i : Instruction) : Decidable i.ReadsRelative := inferInstanceAs (Decidable (_ ∧ _))

/-- `Refers base wanted i kind a`: in an image with the given base the instruction refers to the
address in this way. Operands relative to the instruction pointer count where they are wanted. -/
inductive Refers (base : Int) (wanted : Bool) (i : Instruction) : ReferenceKind → Int → Prop where
  | jump {a : Int} : i.isUnconditionalJump = true → i.branchTarget? = some a →
      Refers base wanted i .jump a
  | conditionalJump {a : Int} : i.isConditionalJump = true → i.branchTarget? = some a →
      Refers base wanted i .conditionalJump a
  | call {a : Int} : i.isCall = true → i.branchTarget? = some a → Refers base wanted i .call a
  | addressLoad {a : Int} : i.LoadsAddress base → i.immediate = some a →
      Refers base wanted i .addressLoad a
  | ripRelative {a : Int} : wanted = true → i.ReadsRelative → i.ripTarget = some a →
      Refers base wanted i .ripRelative a

/-! ## Classes of instructions -/

theorem conditionalJumps_ne : ∀ m ∈ conditionalJumps, m ∉ ["jmp"] := by decide

theorem calls_disjoint : ∀ m ∈ ["call", "lcall", "callf"], m ∉ "jmp" :: conditionalJumps := by
  decide

theorem branches_disjoint : ∀ m ∈ "jmp" :: conditionalJumps ++ ["call", "lcall", "callf"],
    m ∉ ["mov", "movabs", "lea"] := by decide

theorem isJump_iff {i : Instruction} :
    i.isJump = true ↔ i.mnemonic ∈ "jmp" :: conditionalJumps := by
  simp [isJump, isUnconditionalJump, isConditionalJump]

theorem isUnconditionalJump_of_isConditionalJump {i : Instruction}
    (h : i.isConditionalJump = true) : i.isUnconditionalJump = false := by
  have hmem : i.mnemonic ∈ conditionalJumps := by simpa [isConditionalJump] using h
  simpa [isUnconditionalJump] using conditionalJumps_ne _ hmem

theorem isJump_of_isCall {i : Instruction} (h : i.isCall = true) : i.isJump = false := by
  have hmem : i.mnemonic ∈ ["call", "lcall", "callf"] := by simpa [isCall] using h
  rw [Bool.eq_false_iff, Ne, isJump_iff]
  exact calls_disjoint _ hmem

theorem Branches.mnemonic {i : Instruction} (h : i.Branches) :
    i.mnemonic ∉ ["mov", "movabs", "lea"] := by
  apply branches_disjoint
  rw [List.mem_append]
  obtain ⟨hjump | hcall, _⟩ := h
  · exact Or.inl (isJump_iff.mp hjump)
  · exact Or.inr (by simpa [isCall] using hcall)

theorem Branches.not_loadsAddress {base : Int} {i : Instruction} (h : i.Branches) :
    ¬ i.LoadsAddress base := by
  rintro ⟨hname, _⟩
  have hnot := h.mnemonic
  simp only [List.mem_cons, List.not_mem_nil, or_false, not_or] at hname hnot
  exact hname.elim hnot.1 hnot.2.1

theorem Branches.not_readsRelative {i : Instruction} (h : i.Branches) : ¬ i.ReadsRelative := by
  rintro ⟨hname, _⟩
  have hnot := h.mnemonic
  simp only [List.mem_cons, List.not_mem_nil, or_false, not_or] at hname hnot
  exact hname.elim hnot.2.2 hnot.1

theorem LoadsAddress.not_readsRelative {base : Int} {i : Instruction} (h : i.LoadsAddress base) :
    ¬ i.ReadsRelative := by
  obtain ⟨_, _, _, himmediate, _⟩ := h
  rintro ⟨_, _, hmemory, _⟩
  rw [himmediate] at hmemory
  cases hmemory

theorem branchKind?_eq_some_iff {i : Instruction} {kind : ReferenceKind} :
    i.branchKind? = some kind ↔ (kind = .jump ∧ i.isUnconditionalJump = true) ∨
      (kind = .conditionalJump ∧ i.isConditionalJump = true) ∨
      (kind = .call ∧ i.isCall = true) := by
  rw [branchKind?]
  cases hcall : i.isCall with
  | true =>
    have hjump := isJump_of_isCall hcall
    rw [isJump, Bool.or_eq_false_iff] at hjump
    simp [hjump, eq_comm]
  | false =>
    cases hcond : i.isConditionalJump with
    | true => simp [isUnconditionalJump_of_isConditionalJump hcond, eq_comm]
    | false => cases i.isUnconditionalJump <;> simp [eq_comm]

theorem branchKind?_isSome {i : Instruction} :
    i.branchKind?.isSome = true ↔ i.isJump = true ∨ i.isCall = true := by
  rw [branchKind?, isJump]
  cases i.isUnconditionalJump <;> cases i.isConditionalJump <;> cases i.isCall <;> simp

theorem refers_jump_iff {base : Int} {wanted : Bool} {i : Instruction} {a : Int} :
    (i.Refers base wanted .jump a ∨ i.Refers base wanted .conditionalJump a) ↔
      i.isJump = true ∧ i.branchTarget? = some a := by
  rw [isJump, Bool.or_eq_true]
  constructor
  · rintro (hrefers | hrefers)
    · cases hrefers with
      | jump hjump ha => exact ⟨Or.inl hjump, ha⟩
    · cases hrefers with
      | conditionalJump hjump ha => exact ⟨Or.inr hjump, ha⟩
  · rintro ⟨hjump | hjump, ha⟩
    · exact Or.inl (.jump hjump ha)
    · exact Or.inr (.conditionalJump hjump ha)

end Instruction

namespace Reference

/-! ## The three passes -/

theorem ofBranch?_eq_some_iff {i : Instruction} {r : Reference} :
    ofBranch? i = some r ↔ ∃ kind a, i.branchKind? = some kind ∧ i.branchTarget? = some a ∧
      r = ofInstruction i a kind := by
  simp only [ofBranch?, Option.bind_eq_bind, Option.bind_eq_some_iff, Option.pure_def,
    Option.some.injEq]
  constructor
  · rintro ⟨kind, hkind, a, ha, rfl⟩
    exact ⟨kind, a, hkind, ha, rfl⟩
  · rintro ⟨kind, a, hkind, ha, rfl⟩
    exact ⟨kind, hkind, a, ha, rfl⟩

theorem ofBranch?_isSome {i : Instruction} : (ofBranch? i).isSome = true ↔ i.Branches := by
  rw [Instruction.Branches, ← Instruction.branchKind?_isSome, ofBranch?]
  cases i.branchKind? <;> cases i.branchTarget? <;> simp

theorem isLikelyAddress_iff {base a : Int} : isLikelyAddress base a = true ↔
    0x1000 ≤ a ∧ base ≤ a ∧ a < base + 0x100000000 := by
  simp only [isLikelyAddress, Bool.and_eq_true, decide_eq_true_eq, and_assoc]

theorem ofLoad?_eq_some_iff {base : Int} {i : Instruction} {r : Reference} :
    ofLoad? base i = some r ↔ i.LoadsAddress base ∧ ∃ a, i.immediate = some a ∧
      r = ofInstruction i a .addressLoad := by
  constructor
  · intro h
    rw [ofLoad?] at h
    split at h
    · next hshape =>
      obtain ⟨hname, hregister, hkind⟩ := hshape
      rw [Instruction.hasRegister, Bool.and_eq_true, decide_eq_true_eq, decide_eq_true_eq]
        at hregister
      split at h
      · next value hvalue =>
        split at h
        · next hlikely =>
          cases h
          exact ⟨⟨hname, hregister.1, hregister.2, hkind, value, hvalue,
            isLikelyAddress_iff.mp hlikely⟩, value, hvalue, rfl⟩
        · cases h
      · cases h
    · cases h
  · rintro ⟨⟨hname, hregister, hwidth, hkind, a, ha, hbounds⟩, b, hb, rfl⟩
    rw [ha] at hb
    cases hb
    have hshape : i.hasRegister 0 64 = true := by simp [Instruction.hasRegister, hregister, hwidth]
    simp only [ofLoad?, if_pos (And.intro hname (And.intro hshape hkind)), ha,
      if_pos (isLikelyAddress_iff.mpr hbounds)]

theorem ofLoad?_isSome {base : Int} {i : Instruction} :
    (ofLoad? base i).isSome = true ↔ i.LoadsAddress base := by
  simp only [Option.isSome_iff_exists, ofLoad?_eq_some_iff]
  constructor
  · exact fun ⟨_, hclass, _⟩ => hclass
  · intro hclass
    obtain ⟨a, ha, _⟩ := hclass.2.2.2.2
    exact ⟨_, hclass, a, ha, rfl⟩

theorem ofRipOperand?_eq_some_iff {i : Instruction} {r : Reference} :
    ofRipOperand? i = some r ↔ i.ReadsRelative ∧ ∃ a, i.ripTarget = some a ∧
      r = ofInstruction i a .ripRelative := by
  rw [ofRipOperand?]
  constructor
  · intro h
    split at h
    · next hshape =>
      obtain ⟨a, ha, rfl⟩ := Option.map_eq_some_iff.mp h
      exact ⟨⟨hshape.1, hshape.2.1, hshape.2.2, by simp [ha]⟩, a, ha, rfl⟩
    · cases h
  · rintro ⟨⟨hname, hregister, hmemory, _⟩, a, ha, rfl⟩
    rw [if_pos ⟨hname, hregister, hmemory⟩, ha, Option.map_some]

theorem ofRipOperand?_isSome {i : Instruction} :
    (ofRipOperand? i).isSome = true ↔ i.ReadsRelative := by
  simp only [Option.isSome_iff_exists, ofRipOperand?_eq_some_iff]
  constructor
  · exact fun ⟨_, hclass, _⟩ => hclass
  · intro hclass
    obtain ⟨a, ha⟩ := Option.isSome_iff_exists.mp hclass.2.2.2
    exact ⟨_, hclass, a, ha, rfl⟩

/-! ## One reference for each instruction -/

theorem ofBranch?_or_ofLoad? (base : Int) (i : Instruction) :
    ofBranch? i = none ∨ ofLoad? base i = none := by
  rw [← Option.not_isSome_iff_eq_none, ← Option.not_isSome_iff_eq_none, ofBranch?_isSome,
    ofLoad?_isSome, ← not_and_or]
  exact fun h => h.1.not_loadsAddress h.2

theorem ofEarlier?_or_ofRipOperand? (base : Int) (i : Instruction) :
    (ofBranch? i).or (ofLoad? base i) = none ∨ ofRipOperand? i = none := by
  rw [← Option.not_isSome_iff_eq_none, ← Option.not_isSome_iff_eq_none, Option.isSome_or,
    Bool.or_eq_true, ofBranch?_isSome, ofLoad?_isSome, ofRipOperand?_isSome, ← not_and_or]
  rintro ⟨hbranch | hload, hreads⟩
  · exact hbranch.not_readsRelative hreads
  · exact hload.not_readsRelative hreads

theorem or_eq_some_of_exclusive {α : Type} {o o' : Option α} (h : o = none ∨ o' = none) {a : α} :
    o.or o' = some a ↔ o = some a ∨ o' = some a := by
  rcases h with rfl | rfl
  · simp
  · simp

def ofAny? (base : Int) (wanted : Bool) (i : Instruction) : Option Reference :=
  ((ofBranch? i).or (ofLoad? base i)).or (if wanted then ofRipOperand? i else none)

section OfAny

variable {base : Int} {wanted : Bool} {i : Instruction} {r : Reference}

theorem ofAny?_eq_some_iff_pass : ofAny? base wanted i = some r ↔
    (ofBranch? i = some r ∨ ofLoad? base i = some r) ∨
      (wanted = true ∧ ofRipOperand? i = some r) := by
  rw [ofAny?, ← or_eq_some_of_exclusive (ofBranch?_or_ofLoad? base i)]
  cases wanted with
  | false => simp
  | true =>
    rw [if_pos rfl, or_eq_some_of_exclusive (ofEarlier?_or_ofRipOperand? base i)]
    simp

theorem ofAny?_eq_some_iff : ofAny? base wanted i = some r ↔
    ∃ kind a, i.Refers base wanted kind a ∧ r = ofInstruction i a kind := by
  rw [ofAny?_eq_some_iff_pass, ofBranch?_eq_some_iff, ofLoad?_eq_some_iff,
    ofRipOperand?_eq_some_iff]
  simp only [Instruction.branchKind?_eq_some_iff]
  constructor
  · rintro ((⟨_, a, ⟨rfl, hjump⟩ | ⟨rfl, hjump⟩ | ⟨rfl, hcall⟩, ha, rfl⟩ | ⟨hload, a, ha, rfl⟩) |
      ⟨hwanted, hreads, a, ha, rfl⟩)
    · exact ⟨_, a, .jump hjump ha, rfl⟩
    · exact ⟨_, a, .conditionalJump hjump ha, rfl⟩
    · exact ⟨_, a, .call hcall ha, rfl⟩
    · exact ⟨_, a, .addressLoad hload ha, rfl⟩
    · exact ⟨_, a, .ripRelative hwanted hreads ha, rfl⟩
  · rintro ⟨_, a, hrefers, rfl⟩
    cases hrefers with
    | jump hjump ha => exact Or.inl (Or.inl ⟨_, a, Or.inl ⟨rfl, hjump⟩, ha, rfl⟩)
    | conditionalJump hjump ha =>
      exact Or.inl (Or.inl ⟨_, a, Or.inr (Or.inl ⟨rfl, hjump⟩), ha, rfl⟩)
    | call hcall ha => exact Or.inl (Or.inl ⟨_, a, Or.inr (Or.inr ⟨rfl, hcall⟩), ha, rfl⟩)
    | addressLoad hload ha => exact Or.inl (Or.inr ⟨hload, a, ha, rfl⟩)
    | ripRelative hwanted hreads ha => exact Or.inr ⟨hwanted, hreads, a, ha, rfl⟩

theorem ofAny?_isSome : (ofAny? base wanted i).isSome = true ↔
    i.Branches ∨ i.LoadsAddress base ∨ (wanted = true ∧ i.ReadsRelative) := by
  rw [← ofBranch?_isSome, ← @ofLoad?_isSome base, ← ofRipOperand?_isSome, ofAny?]
  cases wanted <;> simp [or_assoc]

theorem ofAny?_source (h : ofAny? base wanted i = some r) : r.source = i.address := by
  obtain ⟨kind, a, _, rfl⟩ := ofAny?_eq_some_iff.mp h
  rfl

end OfAny

end Reference

/-- Two passes that never take the same item find together what one pass with both finds. -/
theorem filterMap_append_perm {α β : Type} {f g : α → Option β} (xs : List α)
    (h : ∀ a, f a = none ∨ g a = none) :
    (xs.filterMap f ++ xs.filterMap g).Perm (xs.filterMap fun a => (f a).or (g a)) := by
  induction xs with
  | nil => exact List.Perm.refl _
  | cons a rest ih =>
    cases hf : f a with
    | none =>
      cases hg : g a with
      | none => simpa [hf, hg] using ih
      | some b => simpa [hf, hg] using List.perm_middle.trans (ih.cons b)
    | some b =>
      have hg : g a = none := (h a).resolve_left (by simp [hf])
      simpa [hf, hg] using ih

namespace References

/-! ## The table -/

variable {base : Int} {wanted : Bool} {stream : Stream}

theorem found_perm (base : Int) (wanted : Bool) (stream : Stream) :
    (found base wanted stream).Perm (stream.filterMap (Reference.ofAny? base wanted)) := by
  have hearlier := filterMap_append_perm stream (Reference.ofBranch?_or_ofLoad? base)
  cases wanted with
  | false =>
    have hany : Reference.ofAny? base false = fun i =>
        (Reference.ofBranch? i).or (Reference.ofLoad? base i) := by
      funext i
      exact Option.or_none
    rw [hany]
    simpa [found] using hearlier
  | true =>
    have hall := filterMap_append_perm stream (Reference.ofEarlier?_or_ofRipOperand? base)
    exact (hearlier.append_right _).trans hall

theorem outgoing_build (base : Int) (wanted : Bool) (stream : Stream) (a : Int) :
    outgoing (build base wanted stream) a = (found base wanted stream).filter (·.source = a) := by
  rw [outgoing, build, ofList, Table.get?_group, List.filter_map, List.map_map]
  exact List.map_id _

theorem toList_build_perm (base : Int) (wanted : Bool) (stream : Stream) :
    (toList (build base wanted stream)).Perm (found base wanted stream) := by
  have hgroup := Table.group_perm ((found base wanted stream).map fun r => (r.source, r))
  rw [List.map_map] at hgroup
  exact hgroup.trans (List.Perm.of_eq (List.map_id _))

theorem mem_found_iff {r : Reference} : r ∈ found base wanted stream ↔
    ∃ i ∈ stream, ∃ kind a, i.Refers base wanted kind a ∧ r = .ofInstruction i a kind := by
  rw [(found_perm base wanted stream).mem_iff, List.mem_filterMap]
  simp only [Reference.ofAny?_eq_some_iff]

theorem mem_outgoing_build {r : Reference} {a : Int} :
    r ∈ outgoing (build base wanted stream) a ↔ r.source = a ∧ r ∈ found base wanted stream := by
  rw [outgoing_build, List.mem_filter, decide_eq_true_eq, and_comm]

theorem outgoing_of_get? {refs : References} {a : Int} {rs : List Reference}
    (h : refs.get? a = some rs) : outgoing refs a = rs := by
  rw [outgoing, h, Option.getD_some]

theorem sources_sublist (base : Int) (wanted : Bool) (stream : Stream) :
    ((stream.filterMap (Reference.ofAny? base wanted)).map (·.source)).Sublist
      (stream.map (·.address)) := by
  induction stream with
  | nil => exact List.Sublist.refl _
  | cons i rest ih =>
    cases hany : Reference.ofAny? base wanted i with
    | none => simpa [hany] using ih.cons i.address
    | some r =>
      simp only [List.filterMap_cons, hany, List.map_cons, Reference.ofAny?_source hany]
      exact ih.cons_cons _

theorem found_sources_nodup (h : (stream.map (·.address)).Nodup) :
    ((found base wanted stream).map (·.source)).Nodup := by
  rw [((found_perm base wanted stream).map _).nodup_iff]
  exact (sources_sublist base wanted stream).nodup h

theorem build_singleton (hdistinct : (stream.map (·.address)).Nodup) {a : Int}
    {rs : List Reference} (h : (build base wanted stream).get? a = some rs) : ∃ r, rs = [r] := by
  have hrs := outgoing_of_get? h
  rw [outgoing_build] at hrs
  have hsource : ∀ r ∈ rs, r.source = a := by
    intro r hr
    rw [← hrs, List.mem_filter, decide_eq_true_eq] at hr
    exact hr.2
  have hnodup : (rs.map (·.source)).Nodup := by
    rw [← hrs]
    exact (List.filter_sublist.map _).nodup (found_sources_nodup hdistinct)
  cases rs with
  | nil => exact absurd rfl (Table.group_nonempty _ h)
  | cons r rest =>
    cases rest with
    | nil => exact ⟨r, rfl⟩
    | cons s others =>
      -- two references of one list have the same source
      have hsame : r.source = s.source := by rw [hsource r (by simp), hsource s (by simp)]
      simp [hsame] at hnodup

/-- The targets of calls are collected twice, here from the references. -/
theorem mem_callTargets_iff {a : Int} : a ∈ Routine.callTargets stream ↔
    ∃ r ∈ toList (build base wanted stream), r.kind = .call ∧ r.target = a := by
  simp only [Routine.mem_callTargets, (toList_build_perm base wanted stream).mem_iff, mem_found_iff]
  constructor
  · rintro ⟨k, i, hi, hcall, ha⟩
    exact ⟨_, ⟨i, List.mem_of_getElem? hi, _, a, .call hcall ha, rfl⟩, rfl, rfl⟩
  · rintro ⟨r, ⟨i, hi, kind, target, hrefers, rfl⟩, hkind, rfl⟩
    obtain ⟨k, hk⟩ := List.mem_iff_getElem?.mp hi
    change kind = .call at hkind
    subst hkind
    cases hrefers with
    | call hcall ha => exact ⟨k, i, hk, hcall, ha⟩

structure Exact (base : Int) (wanted : Bool) (stream : Stream) (refs : References) : Prop where
  exclusive : ∀ i : Instruction, ¬ (i.Branches ∧ i.LoadsAddress base) ∧
    ¬ (i.Branches ∧ i.ReadsRelative) ∧ ¬ (i.LoadsAddress base ∧ i.ReadsRelative)
  count : (toList refs).length = stream.countP fun i =>
    decide (i.Branches ∨ i.LoadsAddress base ∨ (wanted = true ∧ i.ReadsRelative))
  each_once : ∃ referenceOf : Instruction → Option Reference,
    (∀ i r, referenceOf i = some r ↔
      ∃ kind a, i.Refers base wanted kind a ∧ r = .ofInstruction i a kind) ∧
      (toList refs).Perm (stream.filterMap referenceOf)
  listed : ∀ a rs, refs.get? a = some rs → ∀ r ∈ rs, r.source = a ∧
    ∃ i ∈ stream, i.address = a ∧ i.Refers base wanted r.kind r.target
  nonempty : ∀ a rs, refs.get? a = some rs → rs ≠ []
  singleton : (stream.map (·.address)).Nodup →
    ∀ a rs, refs.get? a = some rs → ∃ r, rs = [r]
  call_targets : ∀ a, a ∈ Routine.callTargets stream ↔
    ∃ r ∈ toList refs, r.kind = .call ∧ r.target = a
  discovered : ∀ search data, search.callGraph = true → ∀ r ∈ toList refs, r.kind = .call →
    ∃ routines, Routine.discover search stream data = .ok routines ∧
      ∃ routine ∈ routines, routine.address = r.target

/-- The references of a stream are those of its instructions, at most one for each of them. -/
theorem build_exact (base : Int) (wanted : Bool) (stream : Stream) :
    Exact base wanted stream (build base wanted stream) := by
  have hperm := (toList_build_perm base wanted stream).trans (found_perm base wanted stream)
  constructor
  case exclusive =>
    intro i
    refine ⟨?_, ?_, ?_⟩
    · exact fun h => h.1.not_loadsAddress h.2
    · exact fun h => h.1.not_readsRelative h.2
    · exact fun h => h.1.not_readsRelative h.2
  case count =>
    rw [hperm.length_eq, List.length_filterMap_eq_countP]
    congr 1
    funext i
    rw [Bool.eq_iff_iff, Reference.ofAny?_isSome, decide_eq_true_eq]
  case each_once =>
    exact ⟨Reference.ofAny? base wanted, fun i r => Reference.ofAny?_eq_some_iff, hperm⟩
  case listed =>
    intro a rs hrs r hr
    rw [← outgoing_of_get? hrs, mem_outgoing_build, mem_found_iff] at hr
    obtain ⟨rfl, i, hi, kind, target, hrefers, rfl⟩ := hr
    exact ⟨rfl, i, hi, rfl, hrefers⟩
  case nonempty => exact fun a rs hrs => Table.group_nonempty _ hrs
  case singleton => exact fun hdistinct a rs hrs => build_singleton hdistinct hrs
  case call_targets => exact fun a => mem_callTargets_iff
  case discovered =>
    intro search data hused r hr hcall
    exact Routine.discover_callTarget data hused (mem_callTargets_iff.mpr ⟨r, hr, hcall, rfl⟩)

end References

end CodeAtlas
