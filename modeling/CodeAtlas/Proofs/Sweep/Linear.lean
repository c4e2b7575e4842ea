import CodeAtlas.Proofs.Sweep

/-!
# Linear sweeps

`Swept` gives the rules of a sweep that decides anew at every position of the code: an instruction
that is listed and fits is taken, anything else is one byte skipped. Decoding comes to the only
outcome that these rules have. So its instructions stand in the code from the front to the back
without overlap, and what they leave are the skipped bytes.
-/

set_option autoImplicit false

namespace CodeAtlas

def Stream.totalLength (stream : Stream) : Nat := stream.foldr (fun i n => i.length + n) 0

namespace Sweep

/-- `Swept listing code address bitness fileOffset k stream skipped`: from position `k` of the code
on, the sweep takes the instructions of the stream and skips so many bytes. Addresses wrap around
after 64 bits. -/
inductive Swept (listing : Listing) (code : Bytes) (address : Int) (bitness : Bitness)
    (fileOffset : Int) : Nat → Stream → Nat → Prop where
  | finish {k : Nat} : code.size ≤ k → Swept listing code address bitness fileOffset k [] 0
  | emit {k : Nat} {e : Listing.Entry} {stream : Stream} {skipped : Nat} :
      listing.get? ((address + k) % 0x10000000000000000) = some e → k + e.size ≤ code.size →
      Swept listing code address bitness fileOffset (k + e.size) stream skipped →
      Swept listing code address bitness fileOffset k
        (e.instruction bitness ((address + k) % 0x10000000000000000)
          (code.extract k (k + e.size)) (fileOffset + k) :: stream) skipped
  | skip {k : Nat} {stream : Stream} {skipped : Nat} : k < code.size →
      (∀ e, listing.get? ((address + k) % 0x10000000000000000) = some e →
        code.size < k + e.size) →
      Swept listing code address bitness fileOffset (k + 1) stream skipped →
      Swept listing code address bitness fileOffset k stream (skipped + 1)

theorem addressAt_mod (address : Int) (k : Nat) :
    addressAt address k = (address + k) % 0x10000000000000000 := rfl

section Swept

variable {listing : Listing} {code : Bytes} {address : Int} {bitness : Bitness} {fileOffset : Int}

-- The sweep over whole streaks is the one over single positions, and that one follows the rules.
theorem swept_bytewise (k : Nat) : Swept listing code address bitness fileOffset k
    ((bytewise listing code.size address k).placed.map
      (instructionOf code address bitness fileOffset))
    (bytewise listing code.size address k).skipped := by
  fun_induction bytewise listing code.size address k with
  | case1 k hlt hnone rest ih =>
    refine Swept.skip hlt ?_ ih
    intro e he
    rw [entryAt?, addressAt_mod, he, Option.filter_eq_none_iff] at hnone
    simpa using hnone e rfl
  | case2 k hlt e hsome rest ih =>
    exact Swept.emit (entryAt?_listed hsome) (entryAt?_fits hsome) ih
  | case3 k hend => exact Swept.finish (Nat.le_of_not_lt hend)

theorem swept_decode : Swept listing code address bitness fileOffset 0
    (decode listing code address bitness fileOffset) (ofCode listing code address).skipped := by
  rw [decode, ofCode, sweepFrom_eq_bytewise]
  exact swept_bytewise 0

theorem Swept.unique {k m n : Nat} {s t : Stream}
    (hs : Swept listing code address bitness fileOffset k s m)
    (ht : Swept listing code address bitness fileOffset k t n) : s = t ∧ m = n := by
  induction hs generalizing t n with
  | finish hend =>
    cases ht with
    | finish => exact ⟨rfl, rfl⟩
    | @emit _ e =>
      have hpos := e.size_pos
      omega
    | skip => omega
  | @emit k e _ _ he hfits _ ih =>
    cases ht with
    | finish hend =>
      have hpos := e.size_pos
      omega
    | emit he' _ hrest =>
      rw [he] at he'
      cases he'
      obtain ⟨rfl, rfl⟩ := ih hrest
      exact ⟨rfl, rfl⟩
    | skip _ hnone _ =>
      have hover := hnone e he
      omega
  | skip hlt hnone _ ih =>
    cases ht with
    | finish hend => omega
    | emit he hfits _ =>
      have hover := hnone _ he
      omega
    | skip _ _ hrest =>
      obtain ⟨rfl, rfl⟩ := ih hrest
      exact ⟨rfl, rfl⟩

structure Emitted (listing : Listing) (code : Bytes) (address fileOffset : Int) (k : Nat)
    (i : Instruction) : Prop where
  position : i.fileOffset - fileOffset = k
  address : i.address = (address + k) % 0x10000000000000000
  listed : ∃ e, listing.get? i.address = some e ∧ i.length = e.size
  fits : k + i.length ≤ code.size
  bytes : i.bytes = code.extract k (k + i.length)

theorem emitted_instructionOf {e : Listing.Entry} {k : Nat}
    (he : listing.get? ((address + k) % 0x10000000000000000) = some e)
    (hfits : k + e.size ≤ code.size) : Emitted listing code address fileOffset k
      (instructionOf code address bitness fileOffset ⟨k, e⟩) := by
  have hlength : (instructionOf code address bitness fileOffset ⟨k, e⟩).length = e.size :=
    instructionOf_length hfits
  constructor
  · change fileOffset + k - fileOffset = k
    omega
  · rfl
  · exact ⟨e, he, hlength⟩
  · rw [hlength]
    exact hfits
  · rw [hlength]
    rfl

theorem Swept.emitted {k n : Nat} {s : Stream}
    (h : Swept listing code address bitness fileOffset k s n) :
    ∀ i ∈ s, ∃ p, k ≤ p ∧ Emitted listing code address fileOffset p i := by
  induction h with
  | finish => simp
  | @emit k e _ _ he hfits _ ih =>
    intro i hi
    rcases List.mem_cons.mp hi with rfl | hlater
    · exact ⟨k, Nat.le_refl k, emitted_instructionOf he hfits⟩
    · obtain ⟨p, hp, hplaced⟩ := ih i hlater
      exact ⟨p, by omega, hplaced⟩
  | skip _ _ _ ih =>
    intro i hi
    obtain ⟨p, hp, hplaced⟩ := ih i hi
    exact ⟨p, by omega, hplaced⟩

theorem Swept.apart {k n : Nat} {s : Stream}
    (h : Swept listing code address bitness fileOffset k s n) :
    s.Pairwise fun i j => i.fileOffset + (i.length : Int) ≤ j.fileOffset := by
  induction h with
  | finish => exact List.Pairwise.nil
  | @emit k e _ _ he hfits hrest ih =>
    refine List.pairwise_cons.mpr ⟨?_, ih⟩
    intro j hj
    obtain ⟨p, hp, hplaced⟩ := hrest.emitted j hj
    have hposition := hplaced.position
    have hlength : (instructionOf code address bitness fileOffset ⟨k, e⟩).length = e.size :=
      instructionOf_length hfits
    change fileOffset + k +
      ((instructionOf code address bitness fileOffset ⟨k, e⟩).length : Int) ≤ j.fileOffset
    omega
  | skip _ _ _ ih => exact ih

theorem Swept.total {k n : Nat} {s : Stream}
    (h : Swept listing code address bitness fileOffset k s n) (hk : k ≤ code.size) :
    k + s.totalLength + n = code.size := by
  induction h with
  | finish hend =>
    change _ + 0 + 0 = _
    omega
  | @emit k e s _ he hfits _ ih =>
    have hrest := ih hfits
    have hlength : (instructionOf code address bitness fileOffset ⟨k, e⟩).length = e.size :=
      instructionOf_length hfits
    change k + ((instructionOf code address bitness fileOffset ⟨k, e⟩).length + s.totalLength) +
      _ = code.size
    omega
  | skip hlt _ _ ih =>
    have hrest := ih hlt
    omega

end Swept

structure Linear (listing : Listing) (code : Bytes) (address fileOffset : Int) (stream : Stream)
    (skipped : Nat) : Prop where
  emitted : ∀ i ∈ stream, ∃ k : Nat, Emitted listing code address fileOffset k i
  ascending : stream.Pairwise fun i j => i.fileOffset < j.fileOffset
  apart : stream.Pairwise fun i j => i.fileOffset + (i.length : Int) ≤ j.fileOffset
  total : stream.totalLength + skipped = code.size

/-- Decoding is the sweep that decides at every position, and leaves nothing out. -/
theorem decode_linear (listing : Listing) (code : Bytes) (address : Int) (bitness : Bitness)
    (fileOffset : Int) :
    (∀ stream skipped, Swept listing code address bitness fileOffset 0 stream skipped ↔
      stream = decode listing code address bitness fileOffset ∧
        skipped = (ofCode listing code address).skipped) ∧
      Linear listing code address fileOffset (decode listing code address bitness fileOffset)
        (ofCode listing code address).skipped := by
  have hswept : Swept listing code address bitness fileOffset 0
      (decode listing code address bitness fileOffset) (ofCode listing code address).skipped :=
    swept_decode
  have hemitted : ∀ i ∈ decode listing code address bitness fileOffset,
      ∃ k : Nat, Emitted listing code address fileOffset k i := by
    intro i hi
    obtain ⟨k, _, hk⟩ := hswept.emitted i hi
    exact ⟨k, hk⟩
  refine ⟨?_, hemitted, ?_, hswept.apart, ?_⟩
  · intro stream skipped
    constructor
    · exact fun h => h.unique hswept
    · rintro ⟨rfl, rfl⟩
      exact hswept
  · refine hswept.apart.imp_of_mem ?_
    intro i j hi _ hij
    obtain ⟨k, hk⟩ := hemitted i hi
    obtain ⟨e, _, hlength⟩ := hk.listed
    have hpos := e.size_pos
    omega
  · have htotal := hswept.total (Nat.zero_le _)
    omega

end Sweep

end CodeAtlas
