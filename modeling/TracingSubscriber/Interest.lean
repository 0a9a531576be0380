import TracingSubscriber.Delivery

/-! # The interest a callsite is registered with

`register_callsite` through a subscriber chain, from whatever `FilterState`
earlier runs left on the thread.  `Subscriber.registerCallsite_spec`: the
chain answers `never` only on the word of a global plain layer or of every
filter, and `always` only when every global plain layer and every top-level
`Filtered` answered `always`.  `cached_interest_sound`: with sound interests,
`never` rules every leaf out, and after `always` a dispatch from the empty
state reaches each leaf once.  A `Filtered` nested in another one's layer is
not asked, so `always` promises nothing of it
(`nested_filter_interest_always`). -/
set_option autoImplicit false

namespace TracingSubscriber

variable {M : Type}

/-- An interest is sound for a verdict when `never` promises a rejection and
`always` an admission. -/
def Interest.SoundFor (interest : Interest) (verdict : Bool) : Prop :=
  (interest = .never → verdict = false) ∧ (interest = .always → verdict = true)

instance (interest : Interest) (verdict : Bool) : Decidable (interest.SoundFor verdict) :=
  inferInstanceAs (Decidable (_ ∧ _))

theorem FilterFn.defaultCallsite_sound_iff {C : Type} (self : FilterFn M C)
    (noFilter : self.registerCallsite = none) (metadata : M) (cx : C) :
    ((self.toFilter cx).callsiteEnabled metadata).SoundFor ((self.toFilter cx).enabled metadata) ↔
      self.enabled metadata (some cx) = self.enabled metadata none := by
  simp only [FilterFn.toFilter, FilterFn.callsiteEnabled, noFilter, Option.map_none',
    Option.getD_none, FilterFn.defaultCallsiteEnabled]
  cases self.enabled metadata none <;> cases self.enabled metadata (some cx) <;> decide

/-! ## What the cell holds -/

theorem Interest.exists_ofAll (cell : Option Interest) : ∃ pre, cell = Interest.ofAll pre := by
  cases cell with
  | none => exact ⟨[], rfl⟩
  | some interest => exact ⟨[interest], by cases interest <;> rfl⟩

theorem Interest.ofAll_getD_never {xs : List Interest}
    (never : (Interest.ofAll xs).getD .always = .never) : ∀ x ∈ xs, x = .never := by
  unfold Interest.ofAll at never
  split_ifs at never with _ _ allNever
  · cases never
  · cases never
  · exact fun x member => eq_of_beq (List.all_eq_true.mp allNever x member)
  · cases never

theorem Interest.ofAll_getD_always {xs : List Interest}
    (always : (Interest.ofAll xs).getD .always = .always) : ∀ x ∈ xs, x = .always := by
  unfold Interest.ofAll at always
  split_ifs at always with empty allAlways
  · subst empty
    nofun
  · exact fun x member => eq_of_beq (List.all_eq_true.mp allAlways x member)
  · cases always
  · cases always

/-! ## Trees no leaf of which is delivered to -/

namespace Layer

theorem globals_eq_nil_of_plf {layer : Layer M} (plf : layerHasPlf layer = true) :
    layer.globals = [] := by
  induction layer with
  | plain _ => simp at plf
  | filtered _ _ _ _ => rfl
  | layered layer inner layerIh innerIh =>
      simp only [layerHasPlf_layered, Bool.and_eq_true] at plf
      simp [globals, layerIh plf.1, innerIh plf.2]
  | optNone => simp at plf
  | optSome layer ih => exact ih plf

theorem enclosed_of_globals_nil {layer : Layer M} (noGlobals : layer.globals = []) (path : Path) :
    ∀ leaf ∈ layer.leaves path, leaf.2 ≠ [] := by
  induction layer generalizing path with
  | plain _ => simp [globals] at noGlobals
  | filtered _ _ _ _ =>
      simp only [leaves, List.mem_map]
      rintro _ ⟨_, _, rfl⟩
      exact List.cons_ne_nil _ _
  | layered layer inner layerIh innerIh =>
      simp only [globals, List.append_eq_nil] at noGlobals
      simp only [leaves, List.mem_append]
      rintro leaf (inInner | inLayer)
      exacts [innerIh noGlobals.2 _ leaf inInner, layerIh noGlobals.1 _ leaf inLayer]
  | optNone => simp [leaves]
  | optSome layer ih => exact ih noGlobals path

theorem outermost_mem_filters (layer : Layer M) (path : Path) :
    ∀ leaf ∈ layer.leaves path, ∀ outer ∈ leaf.2.take 1, outer ∈ layer.filters := by
  induction layer generalizing path with
  | plain _ =>
      rintro _ member
      rw [leaves, List.mem_singleton] at member
      subst member
      nofun
  | filtered _ _ _ _ =>
      simp only [leaves, List.mem_map]
      rintro _ ⟨_, _, rfl⟩
      simp [filters]
  | layered layer inner layerIh innerIh =>
      simp only [leaves, filters, List.mem_append]
      rintro leaf (inInner | inLayer) outer outerMember
      exacts [.inr (innerIh _ leaf inInner outer outerMember),
        .inl (layerIh _ leaf inLayer outer outerMember)]
  | optNone => nofun
  | optSome layer ih => exact ih path

/-- No leaf of the tree is delivered `metadata`: a global plain layer rejects
it, or there is no global plain layer and every top-level `Filtered` rejects
it. -/
def Blocked (layer : Layer M) (metadata : M) : Prop :=
  (∃ plain ∈ layer.globals, plain.enabled metadata = false) ∨
  (layer.globals = [] ∧ ∀ filter ∈ layer.filters, filter.1.enabled metadata = false)

theorem blocked_layered {layer inner : Layer M} {metadata : M}
    (layerBlocked : layer.Blocked metadata) (innerBlocked : inner.Blocked metadata) :
    (Layer.layered layer inner).Blocked metadata := by
  rcases layerBlocked with ⟨plain, member, rejects⟩ | ⟨layerNil, layerRejects⟩
  · exact .inl ⟨plain, List.mem_append_left _ member, rejects⟩
  rcases innerBlocked with ⟨plain, member, rejects⟩ | ⟨innerNil, innerRejects⟩
  · exact .inl ⟨plain, List.mem_append_right _ member, rejects⟩
  refine .inr ⟨by simp [globals, layerNil, innerNil], fun filter member => ?_⟩
  rcases List.mem_append.mp member with inLayer | inInner
  exacts [layerRejects filter inLayer, innerRejects filter inInner]

theorem blocked_layered_of_layer {layer inner : Layer M} {metadata : M}
    (global : ∃ plain ∈ layer.globals, plain.enabled metadata = false) :
    (Layer.layered layer inner).Blocked metadata :=
  .inl (global.imp fun _ found => ⟨List.mem_append_left _ found.1, found.2⟩)

theorem blocked_layered_of_inner {layer inner : Layer M} {metadata : M}
    (global : ∃ plain ∈ inner.globals, plain.enabled metadata = false) :
    (Layer.layered layer inner).Blocked metadata :=
  .inl (global.imp fun _ found => ⟨List.mem_append_right _ found.1, found.2⟩)

end Layer

theorem Subscriber.not_delivers_of_blocked {subscriber : Subscriber M} {metadata : M}
    (blocked : subscriber.toLayer.Blocked metadata) :
    ∀ leaf ∈ subscriber.leaves [], ¬subscriber.Delivers metadata leaf.2 := by
  intro leaf member delivers
  rcases blocked with ⟨plain, global, rejects⟩ | ⟨noGlobals, rejects⟩
  · exact Bool.false_ne_true (rejects.symm.trans (delivers.1 plain global))
  · obtain ⟨outer, rest, split⟩ := List.exists_cons_of_ne_nil
      (Layer.enclosed_of_globals_nil noGlobals [] leaf member)
    have outermost : outer ∈ leaf.2.take 1 := by simp [split]
    exact Bool.false_ne_true ((rejects outer (subscriber.toLayer.outermost_mem_filters [] leaf
      member outer outermost)).symm.trans (delivers.2.2 outer outermost))

theorem Subscriber.globals_eq_nil_of_plf {subscriber : Subscriber M}
    (plf : ∀ layer ∈ subscriber.layers, layerHasPlf layer = true) : subscriber.globals = [] := by
  induction subscriber with
  | registry => rfl
  | layered layer inner ih =>
      simp only [layers, List.mem_cons, forall_eq_or_imp] at plf
      show layer.globals ++ inner.globals = []
      rw [Layer.globals_eq_nil_of_plf plf.1, ih plf.2]
      rfl

theorem Subscriber.innerHasLayerFilter_of_plf {subscriber : Subscriber M}
    (plf : ∀ layer ∈ subscriber.layers, layerHasPlf layer = true) :
    (subscriberHasPlf subscriber || subscriber.isRegistry) = true := by
  cases subscriber with
  | registry => rfl
  | layered layer inner => simp [plf layer (List.mem_cons_self _ _)]

/-! ## `register_callsite` through a layer tree -/

namespace Layer

variable (sIsRegistry : Bool) (metadata : M)

theorem registerCallsite_plf {layer : Layer M} (plf : layerHasPlf layer = true)
    (s : FilterState) : (layer.registerCallsite sIsRegistry metadata s).1 = .always := by
  induction layer generalizing s with
  | plain _ => simp at plf
  | filtered _ _ _ _ => rfl
  | layered layer inner _ innerIh =>
      simp only [layerHasPlf_layered, Bool.and_eq_true] at plf
      simp only [registerCallsite, Layered.pickInterest, Layered.new, plf.1, if_true]
      exact innerIh plf.2 _
  | optNone => simp at plf
  | optSome layer ih => exact ih plf s

theorem registerCallsite_never (layer : Layer M) (s : FilterState)
    (never : (layer.registerCallsite sIsRegistry metadata s).1 = .never) :
    ∃ plain ∈ layer.globals, plain.registerCallsite metadata = .never := by
  induction layer generalizing s with
  | plain layer => exact ⟨layer, List.mem_singleton_self _, never⟩
  | filtered _ _ _ _ => cases never
  | layered layer inner layerIh innerIh =>
      simp only [globals, List.mem_append]
      simp only [registerCallsite] at never
      rcases Layered.pickInterest_cases (Layered.new layer (layerHasPlf inner) sIsRegistry)
          (layer.registerCallsite sIsRegistry metadata s).1
          (inner.registerCallsite sIsRegistry metadata) (layer.registerCallsite sIsRegistry metadata s).2
        with ⟨-, pick⟩ | ⟨-, outerNever, -⟩ | ⟨-, -, pick⟩ | ⟨-, -, -, -, pick⟩ | ⟨-, -, -, pick⟩
      · rw [pick] at never
        obtain ⟨plain, member, answer⟩ := innerIh _ never
        exact ⟨plain, .inr member, answer⟩
      · obtain ⟨plain, member, answer⟩ := layerIh _ outerNever
        exact ⟨plain, .inl member, answer⟩
      · rw [pick] at never
        cases never
      · rw [pick] at never
        cases never
      · rw [pick] at never
        obtain ⟨plain, member, answer⟩ := innerIh _ never
        exact ⟨plain, .inr member, answer⟩
  | optNone => cases never
  | optSome layer ih => exact ih s never

theorem registerCallsite_always (layer : Layer M) (s : FilterState)
    (always : (layer.registerCallsite sIsRegistry metadata s).1 = .always)
    (pre : List Interest) (holds : s.interest = Interest.ofAll pre) :
    (∀ plain ∈ layer.globals, plain.registerCallsite metadata = .always) ∧
    (layer.registerCallsite sIsRegistry metadata s).2.interest =
      Interest.ofAll (pre ++ layer.filters.map (·.1.callsiteEnabled metadata)) := by
  induction layer generalizing s pre with
  | plain layer => exact ⟨by simpa [globals] using always, by simpa [filters] using holds⟩
  | filtered _ _ _ _ => simp [globals, filters, registerCallsite, holds, Interest.ofAll_snoc]
  | layered layer inner layerIh innerIh =>
      simp only [registerCallsite] at always ⊢
      rcases Layered.pickInterest_cases (Layered.new layer (layerHasPlf inner) sIsRegistry)
          (layer.registerCallsite sIsRegistry metadata s).1
          (inner.registerCallsite sIsRegistry metadata) (layer.registerCallsite sIsRegistry metadata s).2
        with ⟨(plf : layerHasPlf layer = true), pick⟩ | ⟨-, -, pick⟩ | ⟨-, -, pick⟩ |
          ⟨-, -, -, -, pick⟩ | ⟨-, outerAlways, -, pick⟩ <;>
        rw [pick] at always ⊢
      · have layerPart := layerIh s (registerCallsite_plf sIsRegistry metadata plf s) pre holds
        have innerPart := innerIh _ always _ layerPart.2
        refine ⟨?_, by simp [filters, innerPart.2]⟩
        rw [globals, globals_eq_nil_of_plf plf, List.nil_append]
        exact innerPart.1
      · cases always
      · cases always
      · cases always
      · have layerPart := layerIh s outerAlways pre holds
        have innerPart := innerIh _ always _ layerPart.2
        refine ⟨?_, by simp [filters, innerPart.2]⟩
        simp only [globals, List.mem_append]
        exact fun plain member => member.elim (layerPart.1 plain) (innerPart.1 plain)
  | optNone => exact ⟨by simp [globals], by simpa [filters] using holds⟩
  | optSome layer ih => exact ih s always pre holds

end Layer

/-! ## `register_callsite` through the chain -/

theorem Subscriber.registerCallsite_spec (metadata : M) (subscriber : Subscriber M)
    (s : FilterState) (pre : List Interest) (holds : s.interest = Interest.ofAll pre) :
    ((subscriber.registerCallsite metadata s).1 = .never →
      (∃ plain ∈ subscriber.globals, plain.registerCallsite metadata = .never) ∨
      ((∀ layer ∈ subscriber.layers, layerHasPlf layer = true) ∧
        ∀ x ∈ pre ++ subscriber.filters.map (·.1.callsiteEnabled metadata), x = .never)) ∧
    ((subscriber.registerCallsite metadata s).1 = .always →
      (∀ plain ∈ subscriber.globals, plain.registerCallsite metadata = .always) ∧
      ∀ x ∈ pre ++ subscriber.filters.map (·.1.callsiteEnabled metadata), x = .always) := by
  induction subscriber generalizing s pre with
  | registry =>
      have noFilters : (registry : Subscriber M).filters = [] := rfl
      simp only [registerCallsite, FilterState.takeInterest_fst, holds, noFilters, List.map_nil,
        List.append_nil]
      exact ⟨fun never => .inr ⟨fun _ member => absurd member (List.not_mem_nil _),
          Interest.ofAll_getD_never never⟩,
        fun always => ⟨fun _ member => absurd member (List.not_mem_nil _),
          Interest.ofAll_getD_always always⟩⟩
  | layered layer inner ih =>
      have globalsEq : (Subscriber.layered layer inner).globals = layer.globals ++ inner.globals :=
        rfl
      have filtersEq : (Subscriber.layered layer inner).filters = layer.filters ++ inner.filters :=
        rfl
      rw [globalsEq, filtersEq, List.map_append, ← List.append_assoc]
      simp only [registerCallsite]
      rcases Layered.pickInterest_cases (Layered.new layer (subscriberHasPlf inner) inner.isRegistry)
          (layer.registerCallsite inner.isRegistry metadata s).1 (inner.registerCallsite metadata)
          (layer.registerCallsite inner.isRegistry metadata s).2
        with ⟨(plf : layerHasPlf layer = true), pick⟩ | ⟨-, outerNever, pick⟩ | ⟨-, -, pick⟩ |
          ⟨-, -, -, -, pick⟩ | ⟨-, outerAlways, innerGuard, pick⟩ <;> rw [pick]
      · have layerPart := layer.registerCallsite_always inner.isRegistry metadata s
          (Layer.registerCallsite_plf _ metadata plf s) pre holds
        obtain ⟨innerNeverSpec, innerAlwaysSpec⟩ := ih _ _ layerPart.2
        refine ⟨fun never => ?_, fun always => ?_⟩
        · rcases innerNeverSpec never with ⟨plain, member, answer⟩ | ⟨innerPlf, allNever⟩
          · exact .inl ⟨plain, List.mem_append_right _ member, answer⟩
          · refine .inr ⟨fun each member => ?_, allNever⟩
            rcases List.mem_cons.mp member with rfl | deeper
            exacts [plf, innerPlf each deeper]
        · obtain ⟨innerGlobals, allAlways⟩ := innerAlwaysSpec always
          rw [Layer.globals_eq_nil_of_plf plf, List.nil_append]
          exact ⟨innerGlobals, allAlways⟩
      · refine ⟨fun _ => .inl ?_, nofun⟩
        obtain ⟨plain, member, answer⟩ :=
          layer.registerCallsite_never inner.isRegistry metadata s outerNever
        exact ⟨plain, List.mem_append_left _ member, answer⟩
      · exact ⟨nofun, nofun⟩
      · exact ⟨nofun, nofun⟩
      · have layerPart := layer.registerCallsite_always inner.isRegistry metadata s outerAlways pre
          holds
        obtain ⟨innerNeverSpec, innerAlwaysSpec⟩ := ih _ _ layerPart.2
        refine ⟨fun never => .inl ?_, fun always => ?_⟩
        · rcases innerNeverSpec never with ⟨plain, member, answer⟩ | ⟨innerPlf, _⟩
          · exact ⟨plain, List.mem_append_right _ member, answer⟩
          · nomatch (Subscriber.innerHasLayerFilter_of_plf innerPlf).symm.trans (innerGuard never)
        · obtain ⟨innerGlobals, allAlways⟩ := innerAlwaysSpec always
          refine ⟨fun plain member => ?_, allAlways⟩
          exact (List.mem_append.mp member).elim (layerPart.1 plain) (innerGlobals plain)

/-! ## Soundness of the cached interest -/

/-- The callbacks that deliver a span or an event, dispatched from the empty
state with no filter pass, as they are once a callsite is cached `always`: the
leaves `on_event` reaches, and those `new_span` reaches. -/
def Subscriber.dispatchDirect (subscriber : Subscriber M) (reg : Registry) :
    List Path × List Path :=
  ((subscriber.event [] FilterState.new).1, (subscriber.newSpan [] reg FilterState.new).2.1)

theorem Subscriber.forwardIf_default (subscriber : Subscriber M)
    (registered : ∀ id ∈ subscriber.ids, id.idx.toNat < 64) :
    subscriber.toLayer.forwardIf FilterMap.default.isEnabled [] =
      (subscriber.leaves []).map Prod.fst := by
  have allClear : ∀ id ∈ subscriber.toLayer.ids,
      FilterMap.default.isEnabled id = (fun _ => true) id := fun id member => by
    simp [FilterMap.isEnabled_default, registered id member]
  rw [subscriber.toLayer.forwardIf_congr allClear [], Layer.forwardIf_eq_leaves,
    List.filter_eq_self.mpr fun _ _ => List.all_eq_true.mpr fun _ _ => rfl]
  rfl

theorem Subscriber.dispatchDirect_eq_leaves (subscriber : Subscriber M)
    (distinct : subscriber.ids.Nodup) (registered : ∀ id ∈ subscriber.ids, id.idx.toNat < 64)
    (reg : Registry) :
    subscriber.dispatchDirect reg =
      ((subscriber.leaves []).map Prod.fst, (subscriber.leaves []).map Prod.fst) := by
  simp only [dispatchDirect, event_toLayer,
    (subscriber.toLayer.didEnableDispatch_spec distinct [] _).1,
    (subscriber.newSpan_spec distinct [] reg _).2.1]
  rw [show FilterState.new.enabled = FilterMap.default from rfl,
    subscriber.forwardIf_default registered]

theorem Subscriber.filters_admit_of_always {subscriber : Subscriber M} {metadata : M}
    {s : FilterState}
    (filtersSound : ∀ filter ∈ subscriber.filters,
      (filter.1.callsiteEnabled metadata).SoundFor (filter.1.enabled metadata))
    (always : (subscriber.registerCallsite metadata s).1 = .always) :
    ∀ filter ∈ subscriber.filters, filter.1.enabled metadata = true := fun filter member => by
  obtain ⟨pre, holds⟩ := Interest.exists_ofAll s.interest
  exact (filtersSound filter member).2 (((subscriber.registerCallsite_spec metadata s pre holds).2
    always).2 _ (List.mem_append_right _ (List.mem_map_of_mem _ member)))

/-- The interest `register_callsite` caches is sound, from any `FilterState`,
when each global plain layer's and each top-level filter's interest is sound
for its own `enabled`: after `never` no leaf is delivered to, and after
`always` every global plain layer and every top-level `Filtered` admits, so a
direct dispatch from the empty state reaches each leaf once, and exactly the
leaves the delivery rule selects. -/
theorem cached_interest_sound (subscriber : Subscriber M) (distinct : subscriber.ids.Nodup)
    (registered : ∀ id ∈ subscriber.ids, id.idx.toNat < 64) (metadata : M) (s : FilterState)
    (reg : Registry)
    (globalsSound : ∀ layer ∈ subscriber.globals,
      (layer.registerCallsite metadata).SoundFor (layer.enabled metadata))
    (filtersSound : ∀ filter ∈ subscriber.filters,
      (filter.1.callsiteEnabled metadata).SoundFor (filter.1.enabled metadata)) :
    ((subscriber.registerCallsite metadata s).1 = .never →
      ∀ leaf ∈ subscriber.leaves [], ¬subscriber.Delivers metadata leaf.2) ∧
    ((subscriber.registerCallsite metadata s).1 = .always →
      (∀ layer ∈ subscriber.globals, layer.enabled metadata = true) ∧
      (∀ filter ∈ subscriber.filters, filter.1.enabled metadata = true) ∧
      (subscriber.dispatchDirect reg).1.Nodup ∧ (subscriber.dispatchDirect reg).2.Nodup ∧
      ∀ leaf ∈ subscriber.leaves [],
        (leaf.1 ∈ (subscriber.dispatchDirect reg).1 ↔ subscriber.Delivers metadata leaf.2) ∧
        (leaf.1 ∈ (subscriber.dispatchDirect reg).2 ↔ subscriber.Delivers metadata leaf.2)) := by
  obtain ⟨pre, holds⟩ := Interest.exists_ofAll s.interest
  have spec := subscriber.registerCallsite_spec metadata s pre holds
  refine ⟨fun never => Subscriber.not_delivers_of_blocked ?_, fun always => ?_⟩
  rcases spec.1 never with ⟨plain, global, answer⟩ | ⟨plf, allNever⟩
  · exact .inl ⟨plain, global, (globalsSound plain global).1 answer⟩
  · exact .inr ⟨Subscriber.globals_eq_nil_of_plf plf, fun filter member =>
      (filtersSound filter member).1 (allNever _ (List.mem_append_right _
        (List.mem_map_of_mem _ member)))⟩
  · have globalsAdmit : ∀ layer ∈ subscriber.globals, layer.enabled metadata = true :=
      fun layer global => (globalsSound layer global).2 ((spec.2 always).1 layer global)
    have filtersAdmit := Subscriber.filters_admit_of_always filtersSound always
    have delivers : ∀ leaf ∈ subscriber.leaves [], subscriber.Delivers metadata leaf.2 :=
      fun leaf member => ⟨globalsAdmit, ⟨0, by decide, fun filter inFilters =>
          filtersAdmit (filter, _) inFilters⟩,
        fun outer outermost => filtersAdmit outer
          (subscriber.toLayer.outermost_mem_filters [] leaf member outer outermost)⟩
    have reachesAll : ∀ leaf ∈ subscriber.leaves [],
        (leaf.1 ∈ (subscriber.leaves []).map Prod.fst ↔ subscriber.Delivers metadata leaf.2) :=
      fun leaf member => iff_of_true (List.mem_map_of_mem _ member) (delivers leaf member)
    rw [subscriber.dispatchDirect_eq_leaves distinct registered reg]
    exact ⟨globalsAdmit, filtersAdmit, Layer.leaves_nodup _ [], Layer.leaves_nodup _ [],
      fun leaf member => ⟨reachesAll leaf member, reachesAll leaf member⟩⟩

theorem cached_interest_sound_info_and_trace :
    let leaf : Plain Level := { enabled := fun _ => true, registerCallsite := fun _ => .always }
    let debugLayer : Plain Level :=
      { enabled := fun level => level.le .debug,
        registerCallsite := fun level => if level.le .debug then .always else .never }
    let subscriber : Subscriber Level :=
      .layered (.filtered (LevelFilter.info.filter id) ⟨0⟩ (.plain leaf))
        (.layered (.plain debugLayer) .registry)
    let reg : Registry := ⟨fun _ => none, 0⟩
    subscriber.ids.Nodup ∧ (∀ id ∈ subscriber.ids, id.idx.toNat < 64) ∧
      (subscriber.registerCallsite .info FilterState.new).1 = .always ∧
      (subscriber.registerCallsite .trace FilterState.new).1 = .never ∧
      ∀ metadata ∈ [Level.info, Level.trace],
        (∀ layer ∈ subscriber.globals,
          (layer.registerCallsite metadata).SoundFor (layer.enabled metadata)) ∧
        (∀ filter ∈ subscriber.filters,
          (filter.1.callsiteEnabled metadata).SoundFor (filter.1.enabled metadata)) ∧
        (((subscriber.registerCallsite metadata FilterState.new).1 = .never →
          ∀ leaf ∈ subscriber.leaves [], ¬subscriber.Delivers metadata leaf.2) ∧
        ((subscriber.registerCallsite metadata FilterState.new).1 = .always →
          (∀ layer ∈ subscriber.globals, layer.enabled metadata = true) ∧
          (∀ filter ∈ subscriber.filters, filter.1.enabled metadata = true) ∧
          (subscriber.dispatchDirect reg).1.Nodup ∧ (subscriber.dispatchDirect reg).2.Nodup ∧
          ∀ leaf ∈ subscriber.leaves [],
            (leaf.1 ∈ (subscriber.dispatchDirect reg).1 ↔ subscriber.Delivers metadata leaf.2) ∧
            (leaf.1 ∈ (subscriber.dispatchDirect reg).2 ↔ subscriber.Delivers metadata leaf.2))) := by
  intro leaf debugLayer subscriber reg
  refine ⟨by decide, by decide, by decide, by decide, fun metadata member => ?_⟩
  simp only [List.mem_cons, List.mem_singleton, List.not_mem_nil, or_false] at member
  rcases member with rfl | rfl
  · exact ⟨by decide, by decide, cached_interest_sound subscriber (by decide) (by decide) .info
      FilterState.new reg (by decide) (by decide)⟩
  · exact ⟨by decide, by decide, cached_interest_sound subscriber (by decide) (by decide) .trace
      FilterState.new reg (by decide) (by decide)⟩

/-- A `Filtered` nested in another one's layer adds no interest: the chain is
registered `always` though the nested filter rejects the callsite, and a
direct dispatch reaches the leaf it wraps. -/
theorem nested_filter_interest_always :
    let admitAll : Filter Unit := { enabled := fun _ => true, callsiteEnabled := fun _ => .always }
    let rejectAll : Filter Unit := { enabled := fun _ => false, callsiteEnabled := fun _ => .never }
    let leaf : Plain Unit := { enabled := fun _ => true, registerCallsite := fun _ => .always }
    let subscriber : Subscriber Unit :=
      .layered (.filtered admitAll ⟨0⟩ (.filtered rejectAll ⟨1⟩ (.plain leaf))) .registry
    (subscriber.registerCallsite () FilterState.new).1 = .always ∧
      (rejectAll.callsiteEnabled ()).SoundFor (rejectAll.enabled ()) ∧
      rejectAll.enabled () = false ∧
      (subscriber.dispatchDirect ⟨fun _ => none, 0⟩).1 = [[.layer]] := by
  decide

end TracingSubscriber
