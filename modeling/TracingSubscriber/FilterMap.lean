import TracingSubscriber.Core

/-! # `FilterId` and `FilterMap`

A `FilterMap` is one `u64`: bit `i` set means that the filter with id `i` has
disabled the span or event being filtered.  An id at or above 64, the
unregistered 255 among them, reads as disabled and is never written.  The shift
`1 << idx` takes the bound as an argument, so that `set` and `is_enabled` can
only shift by less than 64.

`filterMap_get_set_laws`: the get/set laws, and that a filter pass followed by
the `did_enable` resets of the rejected ids leaves the default map, whatever
the order. -/
set_option autoImplicit false

namespace TracingSubscriber

/-- `FilterId(u8)`. -/
structure FilterId where
  idx : UInt8
  deriving DecidableEq, Repr

def FilterId.unregistered : FilterId := ⟨255⟩

/-- `FilterId::new`, with which the registry allocates ids. -/
def FilterId.new (id : UInt8) : Except String FilterId :=
  if id < 64 then .ok ⟨id⟩ else .error "filter IDs may not be greater than 64"

def FilterId.bit (idx : UInt8) (_ : idx.toNat < 64) : BitVec 64 := 1#64 <<< idx.toNat

structure FilterMap where
  bits : BitVec 64
  deriving DecidableEq, Repr

namespace FilterMap

def default : FilterMap := ⟨0#64⟩

def set (self : FilterMap) (filter : FilterId) (enabled : Bool) : FilterMap :=
  if h : 64 ≤ filter.idx.toNat then self
  else if enabled then ⟨self.bits &&& ~~~FilterId.bit filter.idx (by omega)⟩
  else ⟨self.bits ||| FilterId.bit filter.idx (by omega)⟩

def isEnabled (self : FilterMap) (filter : FilterId) : Bool :=
  if h : 64 ≤ filter.idx.toNat then false
  else self.bits &&& FilterId.bit filter.idx (by omega) == 0#64

def anyEnabled (self : FilterMap) : Bool := self.bits != BitVec.allOnes 64

def allDisabled (self : FilterMap) : Bool := self.bits == BitVec.allOnes 64

/-! ## Bit-level reading -/

theorem bit_eq_twoPow (idx : UInt8) (h : idx.toNat < 64) :
    FilterId.bit idx h = BitVec.twoPow 64 idx.toNat := rfl

theorem bit_toNat (idx : UInt8) (h : idx.toNat < 64) :
    (FilterId.bit idx h).toNat = 2 ^ idx.toNat := by
  rw [bit_eq_twoPow, BitVec.toNat_twoPow]
  exact Nat.mod_eq_of_lt (Nat.pow_lt_pow_of_lt (by decide) h)

theorem isEnabled_eq_getLsbD (m : FilterMap) (filter : FilterId) (h : filter.idx.toNat < 64) :
    m.isEnabled filter = !m.bits.getLsbD filter.idx.toNat := by
  have nonzero : BitVec.twoPow 64 filter.idx.toNat ≠ 0#64 := by
    intro zero
    have := congrArg BitVec.toNat zero
    rw [← bit_eq_twoPow _ h, bit_toNat] at this
    exact Nat.pos_iff_ne_zero.mp (Nat.two_pow_pos _) this
  simp only [isEnabled, Nat.not_le.mpr h, dite_false, bit_eq_twoPow, BitVec.and_twoPow]
  split <;> simp_all

theorem getLsbD_set (m : FilterMap) (filter : FilterId) (enabled : Bool)
    (h : filter.idx.toNat < 64) (j : Nat) :
    (m.set filter enabled).bits.getLsbD j =
      if j = filter.idx.toNat then !enabled && decide (j < 64) else m.bits.getLsbD j := by
  unfold set
  rw [dif_neg (Nat.not_le.mpr h), bit_eq_twoPow]
  by_cases same : j = filter.idx.toNat
  · subst same
    cases enabled <;> simp [BitVec.getLsbD_twoPow, h]
  · have differ : (filter.idx.toNat = j) = False := propext ⟨fun e => same e.symm, False.elim⟩
    cases enabled <;> simp [BitVec.getLsbD_twoPow, same, differ]
    exact BitVec.lt_of_getLsbD

theorem ext_isEnabled {m m' : FilterMap}
    (agree : ∀ idx : UInt8, idx.toNat < 64 → m.isEnabled ⟨idx⟩ = m'.isEnabled ⟨idx⟩) :
    m = m' := by
  suffices sameBits : m.bits = m'.bits by
    cases m; cases m'; cases sameBits; rfl
  apply BitVec.eq_of_getLsbD_eq
  intro j
  have small : (UInt8.ofNat j.val).toNat = j.val :=
    UInt8.toNat_ofNat_of_lt (Nat.lt_trans j.isLt (by decide))
  have bound : (UInt8.ofNat j.val).toNat < 64 := by
    have := j.isLt
    omega
  have agreeAt := agree (UInt8.ofNat j.val) bound
  rw [isEnabled_eq_getLsbD m ⟨UInt8.ofNat j.val⟩ bound,
    isEnabled_eq_getLsbD m' ⟨UInt8.ofNat j.val⟩ bound] at agreeAt
  simpa [small] using agreeAt

/-! ## Get/set laws -/

theorem isEnabled_set_self (m : FilterMap) (filter : FilterId) (enabled : Bool)
    (h : filter.idx.toNat < 64) : (m.set filter enabled).isEnabled filter = enabled := by
  rw [isEnabled_eq_getLsbD _ _ h, getLsbD_set _ _ _ h]
  simp [h]

theorem set_of_ge (m : FilterMap) (filter : FilterId) (enabled : Bool)
    (h : 64 ≤ filter.idx.toNat) : m.set filter enabled = m := by
  simp [set, h]

theorem isEnabled_of_ge (m : FilterMap) (filter : FilterId) (h : 64 ≤ filter.idx.toNat) :
    m.isEnabled filter = false := by
  simp [isEnabled, h]

theorem isEnabled_set_of_ne (m : FilterMap) {filter other : FilterId} (enabled : Bool)
    (differ : other ≠ filter) : (m.set filter enabled).isEnabled other = m.isEnabled other := by
  by_cases big : 64 ≤ filter.idx.toNat
  · rw [set_of_ge _ _ _ big]
  by_cases otherBig : 64 ≤ other.idx.toNat
  · rw [isEnabled_of_ge _ _ otherBig, isEnabled_of_ge _ _ otherBig]
  have idxDiffer : other.idx.toNat ≠ filter.idx.toNat := fun same =>
    differ (by cases other; cases filter; congr; exact UInt8.toNat.inj same)
  rw [isEnabled_eq_getLsbD _ _ (by omega), isEnabled_eq_getLsbD _ _ (by omega),
    getLsbD_set _ _ _ (by omega), if_neg idxDiffer]

theorem anyEnabled_eq_not_allDisabled (m : FilterMap) : m.anyEnabled = !m.allDisabled := rfl

theorem anyEnabled_iff (m : FilterMap) :
    m.anyEnabled = true ↔ ∃ idx : UInt8, idx.toNat < 64 ∧ m.isEnabled ⟨idx⟩ = true := by
  constructor
  · intro any
    by_contra noneEnabled
    push_neg at noneEnabled
    have full : m.bits = BitVec.allOnes 64 := by
      apply BitVec.eq_of_getLsbD_eq
      intro j
      have small : (UInt8.ofNat j.val).toNat = j.val :=
        UInt8.toNat_ofNat_of_lt (Nat.lt_trans j.isLt (by decide))
      have bound : (UInt8.ofNat j.val).toNat < 64 := by
        have := j.isLt
        omega
      have disabled := noneEnabled (UInt8.ofNat j.val) bound
      rw [isEnabled_eq_getLsbD m ⟨UInt8.ofNat j.val⟩ bound] at disabled
      rw [BitVec.getLsbD_allOnes]
      simpa [small, j.isLt] using disabled
    simp [anyEnabled, full] at any
  · rintro ⟨idx, bound, enabled⟩
    rw [isEnabled_eq_getLsbD m ⟨idx⟩ bound] at enabled
    simp only [anyEnabled, bne_iff_ne, ne_eq]
    intro full
    rw [full, BitVec.getLsbD_allOnes] at enabled
    simp [bound] at enabled

theorem isEnabled_default (filter : FilterId) :
    default.isEnabled filter = decide (filter.idx.toNat < 64) := by
  by_cases h : filter.idx.toNat < 64
  · simp [isEnabled_eq_getLsbD _ _ h, default, h]
  · simp [isEnabled_of_ge default filter (by omega), h]

theorem isEnabled_set (m : FilterMap) (filter other : FilterId) (enabled : Bool)
    (h : other.idx.toNat < 64) :
    (m.set filter enabled).isEnabled other = if other = filter then enabled else m.isEnabled other := by
  split
  · subst other
    exact isEnabled_set_self m _ enabled h
  · exact isEnabled_set_of_ne m enabled ‹_›

theorem isEnabled_foldl_set (verdict : FilterId → Bool) (other : FilterId)
    (h : other.idx.toNat < 64) (ids : List FilterId) (m : FilterMap) :
    (ids.foldl (fun m i => m.set i (verdict i)) m).isEnabled other =
      if other ∈ ids then verdict other else m.isEnabled other := by
  induction ids generalizing m with
  | nil => simp
  | cons i rest ih =>
      rw [List.foldl_cons, ih, isEnabled_set _ _ _ _ h]
      by_cases same : other = i
      · subst same
        simp
      · simp [same]

/-- The get/set laws of `FilterMap`, and the clean-up they give: a filter pass
over any ids in any order, followed by the `did_enable` resets of every rejected
id in any order, leaves the default map. -/
theorem filterMap_get_set_laws :
    (∀ (m : FilterMap) (k : FilterId) (b : Bool) (h : k.idx.toNat < 64),
        (m.set k b).isEnabled k = b ∧
        (∀ k', k' ≠ k → (m.set k b).isEnabled k' = m.isEnabled k') ∧
        (FilterId.bit k.idx h).toNat = 2 ^ k.idx.toNat) ∧
    (∀ (m : FilterMap) (k : FilterId) (b : Bool), 64 ≤ k.idx.toNat →
        m.set k b = m ∧ m.isEnabled k = false) ∧
    (∀ m : FilterMap, m.anyEnabled = !m.allDisabled) ∧
    (∀ (ids resets : List FilterId) (verdict : FilterId → Bool),
        (∀ i ∈ ids, verdict i = false → i ∈ resets) →
        resets.foldl (fun m i => m.set i true)
            (ids.foldl (fun m i => m.set i (verdict i)) default) = default) := by
  refine ⟨fun m k b h => ⟨isEnabled_set_self m k b h, fun k' differ => isEnabled_set_of_ne m b differ,
      bit_toNat k.idx h⟩, fun m k b big => ⟨set_of_ge m k b big, isEnabled_of_ge m k big⟩,
    anyEnabled_eq_not_allDisabled, ?_⟩
  intro ids resets verdict covered
  apply ext_isEnabled
  intro idx bound
  rw [isEnabled_foldl_set (fun _ => true) _ bound, isEnabled_foldl_set verdict _ bound]
  by_cases reset : ⟨idx⟩ ∈ resets
  · simp [reset, isEnabled_default, bound]
  · have kept : ⟨idx⟩ ∈ ids → verdict ⟨idx⟩ = true := fun member =>
      Bool.not_eq_false _ ▸ mt (covered _ member) reset
    by_cases written : ⟨idx⟩ ∈ ids <;> simp [reset, written, kept, isEnabled_default, bound]

end FilterMap

end TracingSubscriber
