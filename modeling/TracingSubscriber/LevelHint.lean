import TracingSubscriber.Interest

/-! # The max level hint

A hint `Some(L)` is a sound ceiling when no span or event more verbose than
`L` is delivered to any leaf (`Blocked`).  `Layered.pickLevelHint_sound`:
`pick_level_hint` with `inner_is_registry` clear is sound when each side's
hint is.  `Subscriber.maxLevelHint_sound` assembles it over a chain when no
layer's hint depends on whether its subscriber type `S` is the registry.  A
layer-level `Layered` attached to the registry does depend on it: `Layered::new`
sets `inner_is_registry` from `S`, and `pick_level_hint` then returns the outer
hint alone (`and_then_hint_skips_inner`). -/
set_option autoImplicit false

namespace TracingSubscriber

theorem Layered.pickLevelHint_sound {level : Level} {hasLayerFilter innerHasLayerFilter : Bool}
    {outerHint innerHint : Option LevelFilter} {Outer Inner Both : Prop}
    (outerSound : Above level outerHint → Outer) (innerSound : Above level innerHint → Inner)
    (both : Outer → Inner → Both)
    (outerAlone : Outer → hasLayerFilter = false → outerHint.isSome → Both)
    (innerAlone : Inner → innerHasLayerFilter = false → innerHint.isSome → Both)
    (above : Above level (Layered.pickLevelHint ⟨false, hasLayerFilter, innerHasLayerFilter⟩
      outerHint innerHint)) : Both := by
  simp only [Layered.pickLevelHint, Bool.false_eq_true, if_false] at above
  split_ifs at above with plfBoth plfNoInner innerNoOuter
  · match outerHint, innerHint, above with
    | some outer, some inner, above =>
        have sides := above_maxHint (a := some outer) (b := some inner) above
        exact both (outerSound (sides.1 rfl)) (innerSound (sides.2 rfl))
  · exact above.elim
  · exact above.elim
  · obtain ⟨outerAbove, innerAbove⟩ := above_maxHint above
    cases hasLayerFilter with
    | true =>
        have innerHinted : innerHint.isSome :=
          Option.ne_none_iff_isSome.mp (by simpa using plfNoInner)
        exact innerAlone (innerSound (innerAbove innerHinted)) (by simpa using plfBoth) innerHinted
    | false =>
        cases innerHasLayerFilter with
        | true =>
            have outerHinted : outerHint.isSome :=
              Option.ne_none_iff_isSome.mp (by simpa using innerNoOuter)
            exact outerAlone (outerSound (outerAbove outerHinted)) rfl outerHinted
        | false =>
            rcases maxHint_isSome above.isSome with outerHinted | innerHinted
            · exact outerAlone (outerSound (outerAbove outerHinted)) rfl outerHinted
            · exact innerAlone (innerSound (innerAbove innerHinted)) rfl innerHinted

variable {M : Type}

/-! ## Layer trees -/

namespace Layer

theorem maxLevelHint_eq_none {layer : Layer M} (notPlf : layerHasPlf layer = false)
    (noGlobals : layer.globals = []) : layer.maxLevelHint false = none := by
  induction layer with
  | plain _ => simp [globals] at noGlobals
  | filtered _ _ _ _ => simp at notPlf
  | layered layer inner layerIh innerIh =>
      simp only [globals, List.append_eq_nil] at noGlobals
      simp only [layerHasPlf_layered, Bool.and_eq_false_iff] at notPlf
      cases layerPlf : layerHasPlf layer <;> cases innerPlf : layerHasPlf inner <;>
        simp_all [maxLevelHint, Layered.pickLevelHint, Layered.new, maxHint]
  | optNone => rfl
  | optSome layer ih => exact ih notPlf noGlobals

theorem global_of_blocked {layer : Layer M} {metadata : M} (blocked : layer.Blocked metadata)
    (notPlf : layerHasPlf layer = false) (hinted : (layer.maxLevelHint false).isSome) :
    ∃ plain ∈ layer.globals, plain.enabled metadata = false := by
  rcases blocked with global | ⟨noGlobals, _⟩
  · exact global
  · simp [maxLevelHint_eq_none notPlf noGlobals] at hinted

variable (level : M → Level) (metadata : M)

theorem blocked_of_above (layer : Layer M)
    (globalsSound : ∀ plain ∈ layer.globals,
      Above (level metadata) plain.maxLevelHint → plain.enabled metadata = false)
    (filtersSound : ∀ filter ∈ layer.filters,
      Above (level metadata) filter.1.maxLevelHint → filter.1.enabled metadata = false)
    (above : Above (level metadata) (layer.maxLevelHint false)) : layer.Blocked metadata := by
  induction layer with
  | plain layer =>
      exact .inl ⟨layer, List.mem_singleton_self _,
        globalsSound layer (List.mem_singleton_self _) above⟩
  | filtered filter id _ _ =>
      refine .inr ⟨rfl, fun outer member => ?_⟩
      rw [List.mem_singleton.mp member]
      exact filtersSound (filter, id) (List.mem_singleton_self _) above
  | layered layer inner layerIh innerIh =>
      exact Layered.pickLevelHint_sound
        (layerIh (fun plain member => globalsSound plain (List.mem_append_left _ member))
          fun filter member => filtersSound filter (List.mem_append_left _ member))
        (innerIh (fun plain member => globalsSound plain (List.mem_append_right _ member))
          fun filter member => filtersSound filter (List.mem_append_right _ member))
        blocked_layered
        (fun blocked notPlf hinted =>
          blocked_layered_of_layer (global_of_blocked blocked notPlf hinted))
        (fun blocked notPlf hinted =>
          blocked_layered_of_inner (global_of_blocked blocked (by simpa using notPlf) hinted))
        above
  | optNone => exact above.elim
  | optSome layer ih => exact ih globalsSound filtersSound above

end Layer

/-! ## The chain -/

namespace Subscriber

/-- The flag `S == Registry` does not change the hint of any layer of the chain. -/
def FlagFree (subscriber : Subscriber M) : Prop :=
  ∀ layer ∈ subscriber.layers, layer.maxLevelHint true = layer.maxLevelHint false

instance (subscriber : Subscriber M) : Decidable subscriber.FlagFree :=
  inferInstanceAs
    (Decidable (∀ layer ∈ subscriber.layers, layer.maxLevelHint true = layer.maxLevelHint false))

theorem layerHint_of_flagFree {layer : Layer M} {inner : Subscriber M}
    (flagFree : (Subscriber.layered layer inner).FlagFree) (sIsRegistry : Bool) :
    layer.maxLevelHint sIsRegistry = layer.maxLevelHint false := by
  cases sIsRegistry with
  | false => rfl
  | true => exact flagFree layer (List.mem_cons_self _ _)

theorem maxLevelHint_eq_none {subscriber : Subscriber M} (flagFree : subscriber.FlagFree)
    (notPlf : subscriberHasPlf subscriber = false) (noGlobals : subscriber.globals = []) :
    subscriber.maxLevelHint = none := by
  induction subscriber with
  | registry => rfl
  | layered layer inner ih =>
      simp only [subscriberHasPlf_layered, Bool.or_eq_false_iff] at notPlf
      have globalsNil : layer.globals = [] ∧ inner.globals = [] :=
        List.append_eq_nil.mp noGlobals
      have innerNone := ih (fun other member => flagFree other (List.mem_cons_of_mem _ member))
        notPlf.2 globalsNil.2
      have layerNone := (layerHint_of_flagFree flagFree inner.isRegistry).trans
        (Layer.maxLevelHint_eq_none notPlf.1 globalsNil.1)
      simp [maxLevelHint, Layered.pickLevelHint, Layered.new, maxHint, innerNone, layerNone]

theorem global_of_blocked {subscriber : Subscriber M} {metadata : M}
    (flagFree : subscriber.FlagFree) (blocked : subscriber.toLayer.Blocked metadata)
    (notPlf : subscriberHasPlf subscriber = false) (hinted : subscriber.maxLevelHint.isSome) :
    ∃ plain ∈ subscriber.globals, plain.enabled metadata = false := by
  rcases blocked with global | ⟨noGlobals, _⟩
  · exact global
  · simp [maxLevelHint_eq_none flagFree notPlf noGlobals] at hinted

variable (level : M → Level) (metadata : M)

/-- The chain's hint is a sound ceiling when no layer's hint depends on the
`S == Registry` flag and every global plain layer's and top-level filter's hint
is sound: a span or event above it is delivered to no leaf. -/
theorem maxLevelHint_sound (subscriber : Subscriber M) (flagFree : subscriber.FlagFree)
    (globalsSound : ∀ plain ∈ subscriber.globals,
      Above (level metadata) plain.maxLevelHint → plain.enabled metadata = false)
    (filtersSound : ∀ filter ∈ subscriber.filters,
      Above (level metadata) filter.1.maxLevelHint → filter.1.enabled metadata = false)
    (above : Above (level metadata) subscriber.maxLevelHint) :
    ∀ leaf ∈ subscriber.leaves [], ¬subscriber.Delivers metadata leaf.2 := by
  refine not_delivers_of_blocked ?_
  induction subscriber with
  | registry => exact above.elim
  | layered layer inner ih =>
      have layerSound := Layer.blocked_of_above level metadata layer
        (fun plain member => globalsSound plain (List.mem_append_left _ member))
        (fun filter member => filtersSound filter (List.mem_append_left _ member))
      have innerFlagFree : inner.FlagFree :=
        fun other member => flagFree other (List.mem_cons_of_mem _ member)
      cases inner with
      | registry =>
          have layerBlocked := layerSound
            ((layerHint_of_flagFree flagFree true) ▸ above)
          exact Layer.blocked_layered layerBlocked (.inr ⟨rfl, fun _ member => nomatch member⟩)
      | layered innerLayer innerInner =>
          exact Layered.pickLevelHint_sound layerSound
            (ih innerFlagFree (fun plain member => globalsSound plain (List.mem_append_right _ member))
              fun filter member => filtersSound filter (List.mem_append_right _ member))
            Layer.blocked_layered
            (fun blocked notPlf hinted =>
              Layer.blocked_layered_of_layer (Layer.global_of_blocked blocked notPlf hinted))
            (fun blocked notPlf hinted => Layer.blocked_layered_of_inner
              (global_of_blocked innerFlagFree blocked (Bool.or_eq_false_iff.mp notPlf).1 hinted))
            above

theorem maxLevelHint_sound_info_over_warn :
    let infoLayer : Plain Level :=
      { enabled := fun level => level.le .info, registerCallsite := fun _ => .always,
        maxLevelHint := some .info }
    let subscriber : Subscriber Level :=
      .layered (.plain infoLayer)
        (.layered (.filtered (LevelFilter.warn.filter id) ⟨0⟩ (.plain infoLayer)) .registry)
    subscriber.FlagFree ∧
      (∀ plain ∈ subscriber.globals,
        Above (id Level.debug) plain.maxLevelHint → plain.enabled .debug = false) ∧
      (∀ filter ∈ subscriber.filters,
        Above (id Level.debug) filter.1.maxLevelHint → filter.1.enabled .debug = false) ∧
      Above (id Level.debug) subscriber.maxLevelHint ∧
      ∀ leaf ∈ subscriber.leaves [], ¬subscriber.Delivers .debug leaf.2 := by
  intro infoLayer subscriber
  exact ⟨by decide, by decide, by decide, by decide,
    maxLevelHint_sound id .debug subscriber (by decide) (by decide) (by decide) (by decide)⟩

end Subscriber

/-- `inner.and_then(Filtered(layer, ERROR))` attached to the registry: the
`Layered` that `and_then` builds has the registry as its `S`, so it reports the
filter's `ERROR` ceiling alone, while the inner plain layer, which has no hint
and enables everything, receives a `DEBUG` event.  Each hint is sound for its
own layer. -/
theorem and_then_hint_skips_inner :
    let admitAll : Plain Level := { enabled := fun _ => true, registerCallsite := fun _ => .always }
    let errorOnly : Filter Level := LevelFilter.error.filter id
    let subscriber : Subscriber Level :=
      .layered (.layered (.filtered errorOnly ⟨0⟩ (.plain admitAll)) (.plain admitAll)) .registry
    (∀ level, Above level errorOnly.maxLevelHint → errorOnly.enabled level = false) ∧
      admitAll.maxLevelHint = none ∧
      subscriber.maxLevelHint = some .error ∧ Above .debug subscriber.maxLevelHint ∧
      (subscriber.dispatchIfEnabled .debug ⟨fun _ => none, 0⟩).1 = [[.inner, .layer]] := by
  refine ⟨fun level above => ?_, rfl, rfl, by decide, by decide⟩
  cases level <;> first | rfl | exact absurd above (by decide)

end TracingSubscriber
