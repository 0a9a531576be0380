import TracingSubscriber.Interest
import TracingSubscriber.RunSafety

/-! # Completed passes leave the thread's state empty

Each `Filtered` a pass asks writes its bit and raises the pass counter; each
`did_enable` of the dispatch clears its bit and lowers it, and the last one
asserts that the map is back to the default.  On a tree with no `Filtered` in
another's layer, `completed_pass_resets_state` and
`completed_registration_resets_state`: a completed pass, or a registration
that reaches `take_interest`, leaves `FilterState::new()`, and
`threads_stay_empty`: so does every run in which nothing returns early.  A
pass the inner chain cuts short leaves its bits, and the thread's next cached
dispatch misses the layers below them (`cut_short_pass_hides_layers`). -/
set_option autoImplicit false

namespace TracingSubscriber

variable {M : Type}

/-- No `Filtered` sits in another `Filtered`'s layer. -/
def Layer.unnested : Layer M → Bool
  | .plain _ => true
  | .filtered _ _ layer => layer.ids.isEmpty
  | .layered layer inner => layer.unnested && inner.unnested
  | .optNone => true
  | .optSome layer => layer.unnested

theorem FilterMap.set_true_of_isEnabled (m : FilterMap) (filter : FilterId)
    (open_ : m.isEnabled filter = true) : m.set filter true = m :=
  FilterMap.ext_isEnabled fun idx bound => by
    rw [FilterMap.isEnabled_set _ _ _ _ bound]
    split
    · rename_i same
      rw [same, open_]
    · rfl

theorem FilterMap.set_true_eq_default (m : FilterMap) (filter : FilterId)
    (others : ∀ idx : UInt8, idx.toNat < 64 → ⟨idx⟩ ≠ filter → m.isEnabled ⟨idx⟩ = true) :
    m.set filter true = FilterMap.default :=
  FilterMap.ext_isEnabled fun idx bound => by
    rw [FilterMap.isEnabled_set _ _ _ _ bound, FilterMap.isEnabled_default]
    split
    · simp [bound]
    · rename_i other
      simpa [bound] using others idx bound other

namespace FilterState

theorem debugAssert_true (s : FilterState) : s.debugAssert true = s := rfl

theorem eq_new {s : FilterState} (map : s.enabled = FilterMap.default) (cell : s.interest = none)
    (filterPass : s.inCurrentFilterPass = 0) (interestPass : s.inCurrentInterestPass = 0)
    (ok : s.assertFailed = false) : s = FilterState.new := by
  cases s
  simp only at map cell filterPass interestPass ok
  subst map cell filterPass interestPass ok
  rfl

theorem didEnable_of_frame {β : Type} (s : FilterState) (filter : FilterId)
    (f : FilterState → List β × FilterState) (frame : (f s).2 = s) :
    (s.didEnable filter f).2.enabled = s.enabled.set filter true ∧
    (s.didEnable filter f).2.interest = s.interest ∧
    (s.didEnable filter f).2.inCurrentFilterPass = s.inCurrentFilterPass - 1 ∧
    (s.didEnable filter f).2.inCurrentInterestPass = s.inCurrentInterestPass ∧
    (s.didEnable filter f).2.assertFailed = (s.assertFailed ||
      !(1 < s.inCurrentFilterPass || s.enabled.set filter true == FilterMap.default) ||
      !(s.inCurrentInterestPass == 0)) := by
  by_cases open_ : s.enabled.isEnabled filter
  · have same := s.enabled.set_true_of_isEnabled filter open_
    simp [didEnable, open_, frame, same, debugAssert_assertFailed]
  · simp [didEnable, open_, debugAssert_assertFailed]

theorem eventEnabled_snd (s : FilterState) (any : s.enabled.anyEnabled = true)
    (consistent : s.inCurrentFilterPass ≠ 0 ∨ s.enabled = FilterMap.default) :
    s.eventEnabled.2 = s := by
  have ok : (s.inCurrentFilterPass != 0 || s.enabled == FilterMap.default) = true := by
    rcases consistent with busy | empty <;> simp [*]
  simp [eventEnabled, ok, any, debugAssert]

theorem filterMap_snd (s : FilterState)
    (consistent : s.inCurrentFilterPass ≠ 0 ∨ s.enabled = FilterMap.default) :
    s.filterMap.2 = s := by
  have ok : (s.inCurrentFilterPass != 0 || s.enabled == FilterMap.default) = true := by
    rcases consistent with busy | empty <;> simp [*]
  simp [filterMap, ok, debugAssert]

end FilterState

/-! ## The pass -/

theorem counted_trans {α : Type} {c c' : Nat} {x y z : α} (grows : c ≤ c')
    (before : c ≠ 0 ∨ x = y) (after : c' ≠ 0 ∨ z = x) : c' ≠ 0 ∨ z = y := by
  rcases after with busy | same
  · exact .inl busy
  · exact before.imp (fun busy => by omega) same.trans

theorem Layer.ids_eq_nil {layer : Layer M} (unnested : layer.unnested = true)
    (noFilters : layer.filters = []) : layer.ids = [] := by
  induction layer with
  | plain _ => rfl
  | filtered _ _ _ _ => cases noFilters
  | layered layer inner layerIh innerIh =>
      simp only [Layer.unnested, Bool.and_eq_true] at unnested
      obtain ⟨layerNil, innerNil⟩ := List.append_eq_nil.mp noFilters
      simp [Layer.ids, layerIh unnested.1 layerNil, innerIh unnested.2 innerNil]
  | optNone => rfl
  | optSome layer ih => exact ih unnested noFilters

theorem Layer.enabled_counters (metadata : M) (layer : Layer M) (s : FilterState)
    (admitted : layer.globals.all (·.enabled metadata) = true)
    (ready : s.inCurrentInterestPass = 0) (clean : s.assertFailed = false)
    (start : s.inCurrentFilterPass ≠ 0 ∨ s.enabled = FilterMap.default) :
    (layer.enabled metadata s).2.inCurrentFilterPass = s.inCurrentFilterPass + layer.filters.length ∧
    (layer.enabled metadata s).2.inCurrentInterestPass = 0 ∧
    (layer.enabled metadata s).2.assertFailed = false ∧
    ((layer.enabled metadata s).2.inCurrentFilterPass ≠ 0 ∨
      (layer.enabled metadata s).2.enabled = s.enabled) := by
  induction layer generalizing s with
  | plain _ => exact ⟨rfl, ready, clean, .inr rfl⟩
  | filtered filter id _ _ =>
      have consistent : (s.inCurrentFilterPass != 0 || s.enabled == FilterMap.default) = true := by
        rcases start with busy | empty <;> simp [*]
      simp [Layer.enabled, filters, FilterState.set, consistent, ready, clean,
        FilterState.debugAssert_true]
  | layered layer inner layerIh innerIh =>
      simp only [globals, List.all_append, Bool.and_eq_true] at admitted
      have layerSays : (layer.enabled metadata s).1 = true := by
        rw [enabled_fst]
        exact admitted.1
      obtain ⟨layerCount, layerReady, layerClean, layerStart⟩ :=
        layerIh s admitted.1 ready clean start
      obtain ⟨innerCount, innerReady, innerClean, innerStarted⟩ := innerIh _ admitted.2 layerReady
        layerClean (counted_trans (by omega) start layerStart)
      simp only [enabled, layerSays, if_true, filters, List.length_append]
      exact ⟨by omega, innerReady, innerClean, counted_trans (by omega) layerStart innerStarted⟩
  | optNone => exact ⟨rfl, ready, clean, .inr rfl⟩
  | optSome layer ih => exact ih s admitted ready clean start

/-! ## The dispatch -/

theorem Layer.didEnableDispatch_of_ids_nil {layer : Layer M} (noIds : layer.ids = [])
    (path : Path) (s : FilterState) : (layer.didEnableDispatch path s).2 = s := by
  induction layer generalizing path s with
  | plain _ => rfl
  | filtered _ _ _ _ => cases noIds
  | layered layer inner layerIh innerIh =>
      obtain ⟨layerNil, innerNil⟩ := List.append_eq_nil.mp noIds
      simp only [didEnableDispatch, innerIh innerNil, layerIh layerNil]
  | optNone => rfl
  | optSome layer ih => exact ih noIds path s

theorem Layer.didEnableDispatch_new (layer : Layer M) (path : Path) :
    (layer.didEnableDispatch path FilterState.new).2 = FilterState.new := by
  induction layer generalizing path with
  | plain _ | optNone => rfl
  | filtered _ id layer ih =>
      by_cases bound : id.idx.toNat < 64
      · have clear : FilterState.new.enabled.isEnabled id = true := by
          simp [FilterState.new, FilterMap.isEnabled_default, bound]
        simp only [Layer.didEnableDispatch, FilterState.didEnable, clear, if_true, ih]
        rfl
      · have past : 64 ≤ id.idx.toNat := Nat.le_of_not_lt bound
        simp only [Layer.didEnableDispatch, FilterState.didEnable,
          FilterMap.isEnabled_of_ge _ _ past, FilterMap.set_of_ge _ _ _ past]
        rfl
  | layered layer inner layerIh innerIh =>
      simp only [Layer.didEnableDispatch, innerIh, layerIh]
  | optSome layer ih => exact ih path

theorem Layer.didEnableDispatch_resets (layer : Layer M) (unnested : layer.unnested = true)
    (path : Path) (s : FilterState) (rest : Nat)
    (count : s.inCurrentFilterPass = layer.filters.length + rest)
    (ready : s.inCurrentInterestPass = 0) (clean : s.assertFailed = false)
    (outside : rest = 0 → ∀ idx : UInt8, idx.toNat < 64 → ⟨idx⟩ ∉ layer.ids →
      s.enabled.isEnabled ⟨idx⟩ = true) :
    (layer.didEnableDispatch path s).2.inCurrentFilterPass = rest ∧
    (layer.didEnableDispatch path s).2.inCurrentInterestPass = 0 ∧
    (layer.didEnableDispatch path s).2.assertFailed = false ∧
    (layer.didEnableDispatch path s).2.interest = s.interest ∧
    ∀ idx : UInt8, idx.toNat < 64 → ⟨idx⟩ ∈ layer.ids →
      (layer.didEnableDispatch path s).2.enabled.isEnabled ⟨idx⟩ = true := by
  induction layer generalizing path s rest with
  | plain _ => exact ⟨by simpa [filters] using count, ready, clean, rfl, nofun⟩
  | filtered filter id layer _ =>
      have noIds : layer.ids = [] := List.isEmpty_iff.mp unnested
      obtain ⟨map, interest, filterPass, interestPass, failed⟩ := s.didEnable_of_frame id
        (layer.didEnableDispatch path) (didEnableDispatch_of_ids_nil noIds path s)
      simp only [filters, List.length_singleton] at count
      -- the last `did_enable` finds every other bit clear
      have settled : (1 < s.inCurrentFilterPass ||
          s.enabled.set id true == FilterMap.default) = true := by
        rcases Nat.eq_zero_or_pos rest with last | more
        · simp [FilterMap.set_true_eq_default _ _ fun idx bound other =>
            outside last idx bound (by simpa [ids, noIds] using other)]
        · simp only [count, Bool.or_eq_true, decide_eq_true_eq]
          exact .inl (by omega)
      simp only [didEnableDispatch]
      refine ⟨by rw [filterPass, count]; omega, interestPass.trans ready, ?_, interest,
        fun idx bound member => ?_⟩
      · simp [failed, clean, settled, ready]
      · simp only [ids, noIds, List.mem_singleton] at member
        rw [map, member]
        exact FilterMap.isEnabled_set_self _ _ _ (member ▸ bound)
  | layered layer inner layerIh innerIh =>
      simp only [Layer.unnested, Bool.and_eq_true] at unnested
      simp only [filters, List.length_append] at count
      -- the inner tree first, with the layer's filters still to come
      obtain ⟨innerCount, innerReady, innerClean, innerInterest, innerCleared⟩ :=
        innerIh unnested.2 (.inner :: path) s (layer.filters.length + rest) (by omega) ready clean
          fun none idx bound notIn => by
            have layerNone : layer.filters = [] := List.length_eq_zero.mp (by omega)
            exact outside (by omega) idx bound
              (by simp [ids, ids_eq_nil unnested.1 layerNone, notIn])
      obtain ⟨layerCount, layerReady, layerClean, layerInterest, layerCleared⟩ :=
        layerIh unnested.1 (.layer :: path) (inner.didEnableDispatch (.inner :: path) s).2 rest
          (by omega) innerReady innerClean fun last idx bound notIn => by
            by_cases inInner : ⟨idx⟩ ∈ inner.ids
            · exact innerCleared idx bound inInner
            · exact didEnableDispatch_keeps_clear _ _ _ _
                (outside last idx bound (by simp [ids, notIn, inInner]))
      simp only [didEnableDispatch]
      refine ⟨layerCount, layerReady, layerClean, layerInterest.trans innerInterest,
        fun idx bound member => ?_⟩
      simp only [ids, List.mem_append] at member
      rcases member with inLayer | inInner
      · exact layerCleared idx bound inLayer
      · exact didEnableDispatch_keeps_clear _ _ _ _ (innerCleared idx bound inInner)
  | optNone => exact ⟨by simpa [filters] using count, ready, clean, rfl, nofun⟩
  | optSome layer ih => exact ih unnested path s rest count ready clean outside

/-! ## A completed pass -/

theorem Layer.completed_dispatch_resets (layer : Layer M) (unnested : layer.unnested = true)
    (metadata : M) (admitted : layer.globals.all (·.enabled metadata) = true) (path : Path) :
    (layer.didEnableDispatch path (layer.enabled metadata FilterState.new).2).2 =
      FilterState.new := by
  obtain ⟨count, ready, clean, -⟩ :=
    layer.enabled_counters metadata FilterState.new admitted rfl rfl (.inr rfl)
  have fresh : ∀ idx : UInt8, idx.toNat < 64 → ⟨idx⟩ ∉ layer.ids →
      (layer.enabled metadata FilterState.new).2.enabled.isEnabled ⟨idx⟩ = true :=
    fun idx bound notIn => by
      rw [layer.enabled_frame metadata _ _ fun _ member => notIn (mem_ids_of_mem_filters member)]
      exact (FilterMap.isEnabled_default _).trans (decide_eq_true bound)
  obtain ⟨filterPass, interestPass, ok, cell, cleared⟩ :=
    layer.didEnableDispatch_resets unnested path _ 0 (by rw [count]; exact Nat.zero_add _) ready
      clean fun _ => fresh
  refine FilterState.eq_new (FilterMap.ext_isEnabled fun idx bound => ?_)
    (cell.trans (layer.enabled_interest metadata _)) filterPass interestPass ok
  rw [FilterMap.isEnabled_default, decide_eq_true bound]
  by_cases inIds : ⟨idx⟩ ∈ layer.ids
  · exact cleared idx bound inIds
  · exact didEnableDispatch_keeps_clear _ _ _ _ (fresh idx bound inIds)

theorem Subscriber.completed_pass (subscriber : Subscriber M) (metadata : M)
    (said : (subscriber.enabled metadata FilterState.new).1 = true) :
    subscriber.toLayer.globals.all (·.enabled metadata) = true ∧
    (subscriber.enabled metadata FilterState.new).2 =
      (subscriber.toLayer.enabled metadata FilterState.new).2 ∧
    (subscriber.toLayer.enabled metadata FilterState.new).2.filterMap.2 =
      (subscriber.toLayer.enabled metadata FilterState.new).2 := by
  have passEq := subscriber.enabled_toLayer metadata FilterState.new
  have layersSaid : (subscriber.toLayer.enabled metadata FilterState.new).1 = true := by
    by_contra refused
    rw [passEq, if_neg refused] at said
    exact Bool.false_ne_true said
  have admitted : subscriber.toLayer.globals.all (·.enabled metadata) = true :=
    (subscriber.toLayer.enabled_fst metadata FilterState.new).symm.trans layersSaid
  obtain ⟨-, -, -, consistent⟩ :=
    subscriber.toLayer.enabled_counters metadata FilterState.new admitted rfl rfl (.inr rfl)
  rw [passEq, if_pos layersSaid] at said ⊢
  exact ⟨admitted, FilterState.eventEnabled_snd _ said consistent,
    FilterState.filterMap_snd _ consistent⟩

/-- On a subscriber in whose layers no `Filtered` sits in another's layer, a
filter pass from `FilterState::new()` that lets a span or event through,
followed by its `on_event` or `new_span` dispatch, leaves `FilterState::new()`
again: every bit the pass set is cleared, both counters are back at 0, the
interest cell is empty, and no debug assertion failed on the way. -/
theorem completed_pass_resets_state (subscriber : Subscriber M)
    (unnested : subscriber.toLayer.unnested = true) (metadata : M) (reg : Registry)
    (said : (subscriber.enabled metadata FilterState.new).1 = true) :
    (subscriber.event [] (subscriber.enabled metadata FilterState.new).2).2 = FilterState.new ∧
    (subscriber.newSpan [] reg (subscriber.enabled metadata FilterState.new).2).2.2.2 =
      FilterState.new := by
  obtain ⟨admitted, passState, mapState⟩ := subscriber.completed_pass metadata said
  rw [passState, Subscriber.event_toLayer, Subscriber.newSpan_state, mapState]
  exact ⟨subscriber.toLayer.completed_dispatch_resets unnested metadata admitted [],
    subscriber.toLayer.completed_dispatch_resets unnested metadata admitted []⟩

theorem completed_pass_resets_state_side_by_side :
    let leaf : Plain Unit := { enabled := fun _ => true, registerCallsite := fun _ => .always }
    let subscriber : Subscriber Unit :=
      .layered (.filtered { enabled := fun _ => false } ⟨0⟩ (.plain leaf))
        (.layered (.filtered { enabled := fun _ => true } ⟨1⟩ (.plain leaf)) .registry)
    subscriber.toLayer.unnested = true ∧ (subscriber.enabled () FilterState.new).1 = true ∧
      (subscriber.event [] (subscriber.enabled () FilterState.new).2).2 = FilterState.new ∧
      (subscriber.newSpan [] ⟨fun _ => none, 0⟩ (subscriber.enabled () FilterState.new).2).2.2.2 =
        FilterState.new := by
  intro leaf subscriber
  exact ⟨rfl, by decide, completed_pass_resets_state subscriber rfl () _ (by decide)⟩

/-! ## A completed registration -/

theorem FilterState.addInterest_counters (s : FilterState) (interest : Interest) :
    (s.addInterest interest).inCurrentInterestPass = s.inCurrentInterestPass + 1 ∧
    (s.addInterest interest).inCurrentFilterPass = s.inCurrentFilterPass ∧
    (s.addInterest interest).assertFailed =
      (s.assertFailed || !(s.inCurrentInterestPass != 0 || s.interest.isNone)) := by
  simp only [FilterState.addInterest]
  split <;> simp [FilterState.debugAssert_assertFailed]

theorem Layered.pickInterest_snd (self : LayeredFlags) {outer : Interest}
    (inner : FilterState → Interest × FilterState) (s : FilterState) (notNever : outer ≠ .never) :
    (Layered.pickInterest self outer inner s).2 = (inner s).2 := by
  rcases Layered.pickInterest_cases self outer inner s with
    ⟨-, pick⟩ | ⟨-, never, -⟩ | ⟨-, -, pick⟩ | ⟨-, -, -, -, pick⟩ | ⟨-, -, -, pick⟩
  · rw [pick]
  · exact absurd never notNever
  all_goals rw [pick]

theorem Layer.registerCallsite_counters (sIsRegistry : Bool) (metadata : M) (layer : Layer M)
    (s : FilterState)
    (interested : ∀ plain ∈ layer.globals, plain.registerCallsite metadata ≠ .never)
    (clean : s.assertFailed = false) (start : s.inCurrentInterestPass ≠ 0 ∨ s.interest = none) :
    (layer.registerCallsite sIsRegistry metadata s).2.inCurrentInterestPass =
      s.inCurrentInterestPass + layer.filters.length ∧
    (layer.registerCallsite sIsRegistry metadata s).2.inCurrentFilterPass = s.inCurrentFilterPass ∧
    (layer.registerCallsite sIsRegistry metadata s).2.assertFailed = false ∧
    ((layer.registerCallsite sIsRegistry metadata s).2.inCurrentInterestPass ≠ 0 ∨
      (layer.registerCallsite sIsRegistry metadata s).2.interest = s.interest) := by
  induction layer generalizing s with
  | plain _ => exact ⟨rfl, rfl, clean, .inr rfl⟩
  | filtered filter _ _ _ =>
      obtain ⟨interestPass, filterPass, failed⟩ :=
        s.addInterest_counters (filter.callsiteEnabled metadata)
      have consistent : (s.inCurrentInterestPass != 0 || s.interest.isNone) = true := by
        rcases start with busy | empty <;> simp [*]
      simp only [registerCallsite, filters, List.length_singleton]
      exact ⟨interestPass, filterPass, by simp [failed, clean, consistent], .inl (by omega)⟩
  | layered layer inner layerIh innerIh =>
      have outerAnswer : (layer.registerCallsite sIsRegistry metadata s).1 ≠ .never :=
        fun never => by
          obtain ⟨plain, member, answer⟩ := layer.registerCallsite_never sIsRegistry metadata s never
          exact interested plain (List.mem_append_left _ member) answer
      obtain ⟨layerCount, layerFilterPass, layerClean, layerStart⟩ :=
        layerIh s (fun plain member => interested plain (List.mem_append_left _ member)) clean start
      obtain ⟨innerCount, innerFilterPass, innerClean, innerStarted⟩ :=
        innerIh _ (fun plain member => interested plain (List.mem_append_right _ member))
          layerClean (counted_trans (by omega) start layerStart)
      rw [registerCallsite, Layered.pickInterest_snd _ _ _ outerAnswer]
      simp only [filters, List.length_append]
      exact ⟨by omega, innerFilterPass.trans layerFilterPass, innerClean,
        counted_trans (by omega) layerStart innerStarted⟩
  | optNone => exact ⟨rfl, rfl, clean, .inr rfl⟩
  | optSome layer ih => exact ih s interested clean start

theorem Subscriber.registerCallsite_resets (metadata : M) (subscriber : Subscriber M)
    (s : FilterState)
    (interested : ∀ plain ∈ subscriber.globals, plain.registerCallsite metadata ≠ .never)
    (clean : s.assertFailed = false) (start : s.inCurrentInterestPass ≠ 0 ∨ s.interest = none) :
    (subscriber.registerCallsite metadata s).2.inCurrentInterestPass = 0 ∧
    (subscriber.registerCallsite metadata s).2.interest = none ∧
    (subscriber.registerCallsite metadata s).2.inCurrentFilterPass = s.inCurrentFilterPass ∧
    (subscriber.registerCallsite metadata s).2.assertFailed = false := by
  induction subscriber generalizing s with
  | registry =>
      have consistent : (s.inCurrentInterestPass != 0 || s.interest.isNone) = true := by
        rcases start with busy | empty <;> simp [*]
      simp [registerCallsite, FilterState.takeInterest, FilterState.debugAssert_assertFailed,
        consistent, clean]
  | layered layer inner ih =>
      have outerAnswer : (layer.registerCallsite inner.isRegistry metadata s).1 ≠ .never :=
        fun never => by
          obtain ⟨plain, member, answer⟩ :=
            layer.registerCallsite_never inner.isRegistry metadata s never
          exact interested plain (List.mem_append_left _ member) answer
      obtain ⟨layerCount, layerFilterPass, layerClean, layerStart⟩ :=
        layer.registerCallsite_counters inner.isRegistry metadata s
          (fun plain member => interested plain (List.mem_append_left _ member)) clean start
      obtain ⟨interestPass, cell, filterPass, ok⟩ :=
        ih _ (fun plain member => interested plain (List.mem_append_right _ member)) layerClean
          (counted_trans (by omega) start layerStart)
      rw [registerCallsite, Layered.pickInterest_snd _ _ _ outerAnswer]
      exact ⟨interestPass, cell, filterPass.trans layerFilterPass, ok⟩

/-- A callsite registration from `FilterState::new()` in which no global plain
layer answers `never` leaves `FilterState::new()`: the interests the
`Filtered` nodes added are taken by the registry, and no debug assertion
fails. -/
theorem completed_registration_resets_state (subscriber : Subscriber M) (metadata : M)
    (interested : ∀ plain ∈ subscriber.globals, plain.registerCallsite metadata ≠ .never) :
    (subscriber.registerCallsite metadata FilterState.new).2 = FilterState.new := by
  obtain ⟨interestPass, cell, filterPass, ok⟩ :=
    subscriber.registerCallsite_resets metadata FilterState.new interested rfl (.inr rfl)
  exact FilterState.eq_new (subscriber.registerCallsite_enabled metadata _) cell filterPass
    interestPass ok

theorem completed_registration_resets_state_always :
    let admitAll : Plain Unit := { enabled := fun _ => true, registerCallsite := fun _ => .always }
    let subscriber : Subscriber Unit :=
      .layered (.filtered { enabled := fun _ => true } ⟨0⟩ (.plain admitAll))
        (.layered (.plain admitAll) .registry)
    (∀ plain ∈ subscriber.globals, plain.registerCallsite () ≠ .never) ∧
      (subscriber.registerCallsite () FilterState.new).2 = FilterState.new := by
  intro admitAll subscriber
  exact ⟨by decide, completed_registration_resets_state subscriber () (by decide)⟩

/-! ## Runs in which nothing returns early -/

section NothingEarly

variable {subscriber : Subscriber M}
  (passes : ∀ metadata, (subscriber.enabled metadata FilterState.new).1 = true)
  (dispatches : ∀ metadata,
    (subscriber.event [] (subscriber.enabled metadata FilterState.new).2).2 = FilterState.new ∧
    (subscriber.toLayer.didEnableDispatch []
      (subscriber.enabled metadata FilterState.new).2.filterMap.2).2 = FilterState.new)
  (registers : ∀ metadata, (subscriber.registerCallsite metadata FilterState.new).2 =
    FilterState.new)
include passes dispatches registers

theorem Op.threadStep_new (op : Op M) (dispatched : op.passOnly = false) :
    op.threadStep subscriber FilterState.new = FilterState.new := by
  cases op with
  | registerCallsite _ metadata => exact registers metadata
  | enabled _ _ => cases dispatched
  | event _ metadata =>
      simp only [Op.threadStep, passes metadata, if_true]
      exact (dispatches metadata).1
  | newSpan _ metadata =>
      simp only [Op.threadStep, passes metadata, if_true]
      exact (dispatches metadata).2
  | cachedEvent _ _ =>
      rw [Op.threadStep, Subscriber.event_toLayer]
      exact subscriber.toLayer.didEnableDispatch_new []
  | cachedNewSpan _ _ => exact subscriber.toLayer.didEnableDispatch_new []
  | _ => rfl

theorem System.empty_run {σ σ' : System} (empty : ∀ thread, σ.threads thread = FilterState.new)
    {ops : List (Op M)} (dispatched : ∀ op ∈ ops, op.passOnly = false)
    (reached : σ.run subscriber ops = some σ') :
    ∀ thread, σ'.threads thread = FilterState.new := by
  induction ops generalizing σ with
  | nil =>
      cases reached
      exact empty
  | cons op rest ih =>
      obtain ⟨next, stepped, restRun⟩ := Option.bind_eq_some.mp reached
      refine ih (fun thread => ?_) (fun op member => dispatched op (List.mem_cons_of_mem _ member))
        restRun
      rw [System.step_threads subscriber stepped thread, empty thread]
      split
      · exact Op.threadStep_new passes dispatches registers op (dispatched op (List.mem_cons_self _ _))
      · rfl

end NothingEarly

/-- The empty state between passes, in every run in which nothing returns
early: on a subscriber with no `Filtered` in another's layer, distinct
registered ids, fewer than 64 top-level filters, and global plain layers that
enable every span and event and answer no callsite `never`, every thread's
`FilterState` is `FilterState::new()` after every operation of every run whose
passes are all dispatched, cached dispatches included, so no debug assertion
ever fails. -/
theorem threads_stay_empty (subscriber : Subscriber M)
    (unnested : subscriber.toLayer.unnested = true) (distinct : subscriber.ids.Nodup)
    (registered : ∀ id ∈ subscriber.ids, id.idx.toNat < 64) (few : subscriber.filters.length < 64)
    (globalsAdmit : ∀ plain ∈ subscriber.globals, ∀ metadata, plain.enabled metadata = true)
    (interested : ∀ plain ∈ subscriber.globals, ∀ metadata, plain.registerCallsite metadata ≠ .never)
    (ops : List (Op M)) (dispatched : ∀ op ∈ ops, op.passOnly = false) (σ : System)
    (reached : System.initial.run subscriber ops = some σ) :
    ∀ thread, σ.threads thread = FilterState.new := by
  obtain ⟨idx, bound, free⟩ := subscriber.free_idx_of_few few
  have passes : ∀ metadata, (subscriber.enabled metadata FilterState.new).1 = true :=
    fun metadata => (subscriber.enabled_after_pass distinct registered metadata FilterState.new
      subscriber.clean_default).mpr ⟨fun plain member => globalsAdmit plain member metadata, idx,
        bound, fun filter held => absurd held (free filter)⟩
  have dispatches : ∀ metadata,
      (subscriber.event [] (subscriber.enabled metadata FilterState.new).2).2 = FilterState.new ∧
      (subscriber.toLayer.didEnableDispatch []
        (subscriber.enabled metadata FilterState.new).2.filterMap.2).2 = FilterState.new :=
      fun metadata => by
    obtain ⟨admitted, passState, mapState⟩ := subscriber.completed_pass metadata (passes metadata)
    rw [passState, Subscriber.event_toLayer, mapState]
    exact ⟨subscriber.toLayer.completed_dispatch_resets unnested metadata admitted [],
      subscriber.toLayer.completed_dispatch_resets unnested metadata admitted []⟩
  have registers : ∀ metadata, (subscriber.registerCallsite metadata FilterState.new).2 =
      FilterState.new := fun metadata => by
    obtain ⟨interestPass, cell, filterPass, ok⟩ := subscriber.registerCallsite_resets metadata
      FilterState.new (fun plain member => interested plain member metadata) rfl (.inr rfl)
    exact FilterState.eq_new (subscriber.registerCallsite_enabled metadata _) cell filterPass
      interestPass ok
  exact System.empty_run passes dispatches registers (fun _ => rfl) dispatched reached

theorem threads_stay_empty_two_threads :
    let admitAll : Plain Unit := { enabled := fun _ => true, registerCallsite := fun _ => .always }
    let subscriber : Subscriber Unit :=
      .layered (.filtered { enabled := fun _ => false } ⟨0⟩ (.plain admitAll))
        (.layered (.plain admitAll) .registry)
    let ops : List (Op Unit) :=
      [.registerCallsite 0 (), .event 0 (), .cachedEvent 1 (), .newSpan 1 (), .record 0]
    subscriber.toLayer.unnested = true ∧ subscriber.ids.Nodup ∧
      (∀ id ∈ subscriber.ids, id.idx.toNat < 64) ∧ subscriber.filters.length < 64 ∧
      (∀ plain ∈ subscriber.globals, ∀ metadata, plain.enabled metadata = true) ∧
      (∀ plain ∈ subscriber.globals, ∀ metadata, plain.registerCallsite metadata ≠ .never) ∧
      (∀ op ∈ ops, op.passOnly = false) ∧ ∃ σ, System.initial.run subscriber ops = some σ ∧
        ∀ thread, σ.threads thread = FilterState.new := by
  intro admitAll subscriber ops
  have onlyLeaf : ∀ plain ∈ subscriber.globals, plain = admitAll := fun plain member => by
    simpa [subscriber, Subscriber.globals, Subscriber.toLayer, Layer.globals] using member
  have admits : ∀ plain ∈ subscriber.globals, ∀ metadata, plain.enabled metadata = true :=
    fun plain member _ => by rw [onlyLeaf plain member]
  have interested : ∀ plain ∈ subscriber.globals, ∀ metadata,
      plain.registerCallsite metadata ≠ .never := fun plain member _ => by
    rw [onlyLeaf plain member]
    exact nofun
  obtain ⟨σ, reached⟩ : ∃ σ, System.initial.run subscriber ops = some σ := by
    dsimp only [admitAll, subscriber, ops]
    exact ⟨_, rfl⟩
  exact ⟨rfl, by decide, by decide, by decide, admits, interested, by decide, σ, reached,
    threads_stay_empty subscriber rfl (by decide) (by decide) (by decide) admits interested ops
      (by decide) σ reached⟩

/-! ## A pass cut short -/

theorem Subscriber.cut_pass_bit (layer : Layer M) (inner : Subscriber M)
    (distinct : (Subscriber.layered layer inner).ids.Nodup) (metadata : M) (s : FilterState)
    (globalsAdmit : layer.globals.all (·.enabled metadata) = true)
    (innerRejects : (inner.enabled metadata (layer.enabled metadata s).2).1 = false)
    {filter : Filter M} {id : FilterId} (member : (filter, id) ∈ layer.filters)
    (registered : id.idx.toNat < 64) (rejects : filter.enabled metadata = false) :
    ((Subscriber.layered layer inner).enabled metadata s).1 = false ∧
    ((Subscriber.layered layer inner).enabled metadata s).2.enabled.isEnabled id = false := by
  have said : (layer.enabled metadata s).1 = true := by rw [Layer.enabled_fst]; exact globalsAdmit
  have cut : (Subscriber.layered layer inner).enabled metadata s =
      inner.enabled metadata (layer.enabled metadata s).2 := by
    simp only [Subscriber.enabled, said, if_true]
  have disjoint := (List.nodup_append.mp distinct).2.2
  rw [cut, Subscriber.enabled_frame _ _ _ _ fun other inInner => disjoint
      (Layer.mem_ids_of_mem_filters member) (Layer.mem_ids_of_mem_filters inInner),
    Layer.enabled_verdicts metadata layer (List.nodup_append.mp distinct).1 _ globalsAdmit filter
      id member registered, rejects]
  exact ⟨innerRejects, rfl⟩

theorem Subscriber.dispatch_skips_closed (subscriber : Subscriber M)
    (distinct : subscriber.ids.Nodup) {s : FilterState} {filter : Filter M} {id : FilterId}
    (closed : s.enabled.isEnabled id = false) :
    ∀ leaf ∈ subscriber.leaves [], (filter, id) ∈ leaf.2 →
      leaf.1 ∉ (subscriber.toLayer.didEnableDispatch [] s).1 := by
  intro leaf member enclosed reached
  rw [(subscriber.toLayer.didEnableDispatch_spec distinct [] s).1, Layer.forwardIf_eq_leaves,
    (selected_paths _ (Layer.leaves_nodup _ []) _).2 leaf member, List.all_eq_true] at reached
  exact absurd (reached _ enclosed) (by simp [closed])

/-- A filter pass that the inner chain cuts short after the outer layer's
filters have been asked is not dispatched, and no `did_enable` clears the bits
it wrote; the other threads' operations do not touch them.  The thread's next
dispatch of a callsite cached `always`, with no pass, then reaches no leaf below
an outer filter that rejected the earlier metadata, whatever the filter says of
the new one, and the registry stores that span with the filter's bit set, so no
later span callback reaches those leaves either. -/
theorem cut_short_pass_hides_layers (layer : Layer M) (inner : Subscriber M)
    (distinct : (Subscriber.layered layer inner).ids.Nodup) (σ : System) (thread : ThreadId)
    (metadata : M) (globalsAdmit : layer.globals.all (·.enabled metadata) = true)
    (innerRejects : (inner.enabled metadata (layer.enabled metadata (σ.threads thread)).2).1 = false)
    (filter : Filter M) (id : FilterId) (member : (filter, id) ∈ layer.filters)
    (registered : id.idx.toNat < 64) (rejects : filter.enabled metadata = false) :
    let subscriber := Subscriber.layered layer inner
    ∃ σ₁, σ.step subscriber (.event thread metadata) = some σ₁ ∧ σ₁.delivered = σ.delivered ∧
      ∀ (others : List (Op M)) (σ₂ : System), (∀ op ∈ others, op.runsOn thread = false) →
        σ₁.run subscriber others = some σ₂ → ∀ (cached : M), ∀ leaf ∈ layer.leaves [.layer],
        (filter, id) ∈ leaf.2 →
        (∃ paths : List Path, (σ₂.step subscriber (.cachedEvent thread cached)).map System.delivered =
          some (σ₂.delivered ++ paths.map (.onEvent, ·)) ∧ leaf.1 ∉ paths) ∧
        (∃ paths : List Path, (σ₂.step subscriber (.cachedNewSpan thread cached)).map System.delivered =
          some (σ₂.delivered ++ paths.map (.newSpan σ₂.registry.next, ·)) ∧ leaf.1 ∉ paths) ∧
        (σ₂.step subscriber (.cachedNewSpan thread cached)).map
          (fun σ₃ => Context.isEnabledFor σ₃.registry.spans σ₂.registry.next id) = some false := by
  intro subscriber
  obtain ⟨refused, stale⟩ := Subscriber.cut_pass_bit layer inner distinct metadata _ globalsAdmit
    innerRejects member registered rejects
  refine ⟨σ.setThread thread (subscriber.enabled metadata (σ.threads thread)).2,
    by simp [System.step, refused], rfl,
    fun others σ₂ notOn ran cached leaf member enclosed => ?_⟩
  have closed : (σ₂.threads thread).enabled.isEnabled id = false := by
    rw [System.run_threads_of_not_runsOn subscriber ran notOn]
    simpa using stale
  have below : leaf ∈ subscriber.leaves [] := List.mem_append_right _ member
  obtain ⟨created, -, stored, -, -⟩ :=
    subscriber.newSpan_spec distinct [] σ₂.registry (σ₂.threads thread)
  refine ⟨⟨(subscriber.event [] (σ₂.threads thread)).1, by simp [System.step], ?_⟩,
    ⟨(subscriber.newSpan [] σ₂.registry (σ₂.threads thread)).2.1, by simp [System.step, created],
      ?_⟩, ?_⟩
  · rw [Subscriber.event_toLayer]
    exact subscriber.dispatch_skips_closed distinct closed leaf below enclosed
  · rw [Subscriber.newSpan_paths]
    exact subscriber.dispatch_skips_closed distinct (by rwa [FilterState.filterMap_enabled]) leaf
      below enclosed
  simp [System.step, stored, Context.isEnabledFor, FilterState.filterMap, closed]

theorem cut_short_pass_hides_layers_warn :
    let admitAll : Plain Level := { enabled := fun _ => true, registerCallsite := fun _ => .always }
    let warnLayer : Plain Level :=
      { enabled := fun level => level.le .warn,
        registerCallsite := fun level => if level.le .warn then .always else .sometimes }
    let layer : Layer Level := .filtered (LevelFilter.info.filter id) ⟨0⟩ (.plain admitAll)
    let inner : Subscriber Level := .layered (.plain warnLayer) .registry
    let subscriber : Subscriber Level := .layered layer inner
    (subscriber.registerCallsite .debug FilterState.new).1 = .sometimes ∧
      (subscriber.registerCallsite .warn FilterState.new).1 = .always ∧
      (LevelFilter.info.filter id).enabled Level.warn = true ∧
      (System.initial.run subscriber [.cachedEvent 0 .warn]).map (·.received .onEvent) =
        some [[.layer, .inner], [.layer]] ∧
      (System.initial.run subscriber [.event 0 .debug, .cachedEvent 0 .warn]).map
        (·.received .onEvent) = some [[.layer, .inner]] ∧
      ∃ σ₁, System.initial.step subscriber (.event 0 .debug) = some σ₁ ∧
        σ₁.delivered = System.initial.delivered ∧
        ∀ (others : List (Op Level)) (σ₂ : System), (∀ op ∈ others, op.runsOn 0 = false) →
          σ₁.run subscriber others = some σ₂ → ∀ (cached : Level), ∀ leaf ∈ layer.leaves [.layer],
          (LevelFilter.info.filter id, ⟨0⟩) ∈ leaf.2 →
          (∃ paths : List Path, (σ₂.step subscriber (.cachedEvent 0 cached)).map System.delivered =
            some (σ₂.delivered ++ paths.map (.onEvent, ·)) ∧ leaf.1 ∉ paths) ∧
          (∃ paths : List Path, (σ₂.step subscriber (.cachedNewSpan 0 cached)).map System.delivered =
            some (σ₂.delivered ++ paths.map (.newSpan σ₂.registry.next, ·)) ∧ leaf.1 ∉ paths) ∧
          (σ₂.step subscriber (.cachedNewSpan 0 cached)).map
            (fun σ₃ => Context.isEnabledFor σ₃.registry.spans σ₂.registry.next ⟨0⟩) = some false := by
  intro admitAll warnLayer layer inner subscriber
  exact ⟨by decide, by decide, rfl, by decide, by decide,
    cut_short_pass_hides_layers layer inner (by decide) System.initial 0 .debug (by decide)
      (by decide) _ ⟨0⟩ (List.mem_singleton_self _) (by decide) (by decide)⟩

end TracingSubscriber
