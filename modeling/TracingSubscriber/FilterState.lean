import TracingSubscriber.FilterMap

/-! # `FilterState`: the thread-local filtering scratch area

One `FilterState` per thread (`FILTERING`).  The debug-build pass counters are
part of the state, and every `debug_assert!` of `FilterState` is evaluated: a
failed one sets `assertFailed`, where a debug build panics, and the state
otherwise evolves as a release build has it.

`interest_pass_combines` characterises an interest pass: the interest that
`take_interest` returns depends only on which values were added, not on their
order or number. -/
set_option autoImplicit false

namespace TracingSubscriber

structure FilterState where
  enabled : FilterMap
  interest : Option Interest
  inCurrentFilterPass : Nat
  inCurrentInterestPass : Nat
  /-- A `debug_assert!` has failed on this thread: a debug build panics there. -/
  assertFailed : Bool
  deriving DecidableEq, Repr

namespace FilterState

def new : FilterState := ⟨FilterMap.default, none, 0, 0, false⟩

/-- `debug_assert!(ok)`. -/
def debugAssert (s : FilterState) (ok : Bool) : FilterState :=
  if ok then s else { s with assertFailed := true }

def set (s : FilterState) (filter : FilterId) (enabled : Bool) : FilterState :=
  let inCurrentPass := s.inCurrentFilterPass
  let s := s.debugAssert (inCurrentPass != 0 || s.enabled == FilterMap.default)
  let s := { s with inCurrentFilterPass := inCurrentPass + 1 }
  let s := s.debugAssert (s.inCurrentInterestPass == 0)
  { s with enabled := s.enabled.set filter enabled }

def combine (curr interest : Interest) : Interest :=
  if (curr.isAlways && !interest.isAlways) || (curr.isNever && !interest.isNever) then .sometimes
  else curr

def addInterest (s : FilterState) (interest : Interest) : FilterState :=
  let inCurrentPass := s.inCurrentInterestPass
  let s := s.debugAssert (inCurrentPass != 0 || s.interest.isNone)
  let s := { s with inCurrentInterestPass := inCurrentPass + 1 }
  match s.interest with
  | some curr => { s with interest := some (combine curr interest) }
  | none => { s with interest := some interest }

/-- `FilterState::event_enabled()`, on a thread whose `FILTERING` is alive. -/
def eventEnabled (s : FilterState) : Bool × FilterState :=
  let enabled := s.enabled.anyEnabled
  let s := s.debugAssert (s.inCurrentFilterPass != 0 || s.enabled == FilterMap.default)
  let s := if !enabled then { s with inCurrentFilterPass := 0 } else s
  (enabled, s)

/-- `did_enable(filter, f)`: `f` runs when the bit of `filter` is clear, and the
bit is cleared instead when it is set.  `f` returns what its callback reached. -/
def didEnable {β : Type} (s : FilterState) (filter : FilterId)
    (f : FilterState → List β × FilterState) : List β × FilterState :=
  let map := s.enabled
  let (reached, s) :=
    if map.isEnabled filter then f s else ([], { s with enabled := map.set filter true })
  let inCurrentPass := s.inCurrentFilterPass
  let s := s.debugAssert (1 < inCurrentPass || s.enabled == FilterMap.default)
  let s := { s with inCurrentFilterPass := inCurrentPass - 1 }
  (reached, s.debugAssert (s.inCurrentInterestPass == 0))

def takeInterest (s : FilterState) : Option Interest × FilterState :=
  let s := s.debugAssert (s.inCurrentInterestPass != 0 || s.interest.isNone)
  let s := { s with inCurrentInterestPass := 0 }
  (s.interest, { s with interest := none })

def filterMap (s : FilterState) : FilterMap × FilterState :=
  let map := s.enabled
  (map, s.debugAssert (s.inCurrentFilterPass != 0 || map == FilterMap.default))

/-! ## What each operation touches -/

@[simp] theorem debugAssert_enabled (s : FilterState) (ok : Bool) :
    (s.debugAssert ok).enabled = s.enabled := by
  unfold debugAssert; split <;> rfl

@[simp] theorem debugAssert_interest (s : FilterState) (ok : Bool) :
    (s.debugAssert ok).interest = s.interest := by
  unfold debugAssert; split <;> rfl

@[simp] theorem debugAssert_inCurrentFilterPass (s : FilterState) (ok : Bool) :
    (s.debugAssert ok).inCurrentFilterPass = s.inCurrentFilterPass := by
  unfold debugAssert; split <;> rfl

@[simp] theorem debugAssert_inCurrentInterestPass (s : FilterState) (ok : Bool) :
    (s.debugAssert ok).inCurrentInterestPass = s.inCurrentInterestPass := by
  unfold debugAssert; split <;> rfl

theorem debugAssert_assertFailed (s : FilterState) (ok : Bool) :
    (s.debugAssert ok).assertFailed = (s.assertFailed || !ok) := by
  unfold debugAssert; cases ok <;> simp

@[simp] theorem set_enabled (s : FilterState) (filter : FilterId) (enabled : Bool) :
    (s.set filter enabled).enabled = s.enabled.set filter enabled := by
  simp [set]

@[simp] theorem set_interest (s : FilterState) (filter : FilterId) (enabled : Bool) :
    (s.set filter enabled).interest = s.interest := by
  simp [set]

@[simp] theorem addInterest_enabled (s : FilterState) (interest : Interest) :
    (s.addInterest interest).enabled = s.enabled := by
  simp only [addInterest]; split <;> simp

@[simp] theorem eventEnabled_fst (s : FilterState) :
    s.eventEnabled.1 = s.enabled.anyEnabled := rfl

@[simp] theorem eventEnabled_enabled (s : FilterState) :
    s.eventEnabled.2.enabled = s.enabled := by
  simp only [eventEnabled]; split <;> simp

@[simp] theorem eventEnabled_interest (s : FilterState) :
    s.eventEnabled.2.interest = s.interest := by
  simp only [eventEnabled]; split <;> simp

@[simp] theorem takeInterest_fst (s : FilterState) : s.takeInterest.1 = s.interest := by
  simp [takeInterest]

@[simp] theorem takeInterest_enabled (s : FilterState) :
    s.takeInterest.2.enabled = s.enabled := by
  simp [takeInterest]

@[simp] theorem takeInterest_interest (s : FilterState) :
    s.takeInterest.2.interest = none := rfl

@[simp] theorem filterMap_fst (s : FilterState) : s.filterMap.1 = s.enabled := rfl

@[simp] theorem filterMap_enabled (s : FilterState) : s.filterMap.2.enabled = s.enabled := by
  simp [filterMap]

theorem didEnable_cases {β : Type} (s : FilterState) (filter : FilterId)
    (f : FilterState → List β × FilterState) :
    (s.didEnable filter f).1 = (if s.enabled.isEnabled filter then (f s).1 else []) ∧
    (s.didEnable filter f).2.enabled =
      (if s.enabled.isEnabled filter then (f s).2.enabled else s.enabled.set filter true) ∧
    (s.didEnable filter f).2.interest =
      (if s.enabled.isEnabled filter then (f s).2.interest else s.interest) := by
  by_cases clear : s.enabled.isEnabled filter <;> simp [didEnable, clear]

@[simp] theorem addInterest_interest (s : FilterState) (interest : Interest) :
    (s.addInterest interest).interest =
      some ((s.interest.map (combine · interest)).getD interest) := by
  simp only [addInterest]; split <;> simp_all

end FilterState

/-! ## Interest passes -/

/-- The interest a pass over `xs` is meant to leave: none for no value, `always`
or `never` when every value is that one, `sometimes` for a mix. -/
def Interest.ofAll (xs : List Interest) : Option Interest :=
  if xs = [] then none
  else if xs.all (· == .always) then some .always
  else if xs.all (· == .never) then some .never
  else some .sometimes

theorem Interest.ofAll_snoc (ys : List Interest) (x : Interest) :
    Interest.ofAll (ys ++ [x]) =
      some (((Interest.ofAll ys).map (FilterState.combine · x)).getD x) := by
  cases ys with
  | nil => cases x <;> rfl
  | cons y rest =>
      have notBoth : ¬((y :: rest).all (· == .always) = true ∧
          (y :: rest).all (· == .never) = true) := by
        rw [List.all_cons, List.all_cons, Bool.and_eq_true, Bool.and_eq_true]
        rintro ⟨⟨always, -⟩, never, -⟩
        cases y <;> first | exact absurd always (by decide) | exact absurd never (by decide)
      unfold Interest.ofAll
      rw [if_neg (List.cons_ne_nil y rest), if_neg (by simp), List.all_append, List.all_append]
      cases allAlways : (y :: rest).all (· == .always) <;>
        cases allNever : (y :: rest).all (· == .never) <;> cases x <;>
        first
          | rfl
          | exact absurd ⟨allAlways, allNever⟩ notBoth

theorem Interest.ofAll_perm {xs ys : List Interest} (perm : ys.Perm xs) :
    Interest.ofAll ys = Interest.ofAll xs := by
  have sameAll : ∀ p : Interest → Bool, ys.all p = xs.all p := fun p =>
    Bool.eq_iff_iff.mpr (by simp only [List.all_eq_true, perm.mem_iff])
  have sameEmpty : ys = [] ↔ xs = [] :=
    ⟨fun empty => (empty ▸ perm).nil_eq.symm, fun empty => (empty ▸ perm).eq_nil⟩
  simp only [Interest.ofAll, sameAll, sameEmpty]

theorem interest_foldl_addInterest (xs pre : List Interest) (s : FilterState)
    (holds : s.interest = Interest.ofAll pre) :
    (xs.foldl FilterState.addInterest s).interest = Interest.ofAll (pre ++ xs) := by
  induction xs generalizing s pre with
  | nil => simpa using holds
  | cons x rest ih =>
      rw [List.foldl_cons, ih (pre ++ [x]) _ (by simp [holds, Interest.ofAll_snoc]),
        List.append_assoc, List.singleton_append]

/-- An interest pass from an empty cell: `take_interest` returns none for no
value, `always` or `never` when every value added is that one and `sometimes`
otherwise, so the same for every order of the values; and it empties the cell,
so that a second `take_interest` returns none. -/
theorem interest_pass_combines (s : FilterState) (empty : s.interest = none)
    (xs : List Interest) :
    (xs.foldl FilterState.addInterest s).takeInterest.1 = Interest.ofAll xs ∧
    (∀ ys : List Interest, ys.Perm xs →
      (ys.foldl FilterState.addInterest s).takeInterest.1 =
        (xs.foldl FilterState.addInterest s).takeInterest.1) ∧
    (xs.foldl FilterState.addInterest s).takeInterest.2.takeInterest.1 = none := by
  have fromEmpty : ∀ zs : List Interest,
      (zs.foldl FilterState.addInterest s).interest = Interest.ofAll zs := fun zs =>
    interest_foldl_addInterest zs [] s (by simp [empty, Interest.ofAll])
  refine ⟨by simp [fromEmpty], fun ys perm => ?_, rfl⟩
  simp only [FilterState.takeInterest_fst, fromEmpty, Interest.ofAll_perm perm]

theorem interest_pass_always_never :
    FilterState.new.interest = none ∧
      ([Interest.always, .never].foldl FilterState.addInterest FilterState.new).takeInterest.1 =
        some .sometimes :=
  ⟨rfl, (interest_pass_combines FilterState.new rfl [.always, .never]).1⟩

end TracingSubscriber
