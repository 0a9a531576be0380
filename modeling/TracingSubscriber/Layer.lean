import TracingSubscriber.FilterState

/-! # Layers, per-layer filters and their composition

The layer trees of `layered.rs` and `layer_filters.rs`: a plain layer (a
`Layer` of the user's, reduced to the answers the core asks of it),
`Filtered`, the layer-level `Layered<A, B, S>` that `and_then` builds and
`Option<L>`; and the subscriber-level `Layered<L, S>` chain over the registry,
which answers no downcast.

`downcastMarker` is `downcast_raw(TypeId::of::<MagicPlfDowncastMarker>())`;
`plf_marker_detects_all_filtered` says that it answers for a layer tree exactly
when every leaf of the tree is a `Filtered`, and for a subscriber chain exactly
when one of its layers does. -/
set_option autoImplicit false

namespace TracingSubscriber

/-- `Filter<S>`, with the trait's defaults for `callsite_enabled` and
`max_level_hint`.  A verdict is a function of the metadata filtered. -/
structure Filter (M : Type) where
  enabled : M → Bool
  callsiteEnabled : M → Interest := fun _ => .sometimes
  maxLevelHint : Option LevelFilter := none

def LevelFilter.filter {M : Type} (level : M → Level) (self : LevelFilter) : Filter M where
  enabled metadata := (level metadata).le self
  callsiteEnabled metadata := if (level metadata).le self then .always else .never
  maxLevelHint := some self

/-- `FilterFn`: a filter from a closure, with an optional callsite filter and
hint.  The closure reads the metadata and the `Context` it is given, whose
contents `C` stands for; `none` is `Context::none()`. -/
structure FilterFn (M C : Type) where
  enabled : M → Option C → Bool
  registerCallsite : Option (M → Interest) := none
  maxLevelHint : Option LevelFilter := none

namespace FilterFn

variable {M C : Type}

def new (enabled : M → Option C → Bool) : FilterFn M C := { enabled }

def withMaxLevelHint (self : FilterFn M C) (maxLevelHint : LevelFilter) : FilterFn M C :=
  { self with maxLevelHint := some maxLevelHint }

def withCallsiteFilter (self : FilterFn M C) (callsiteEnabled : M → Interest) : FilterFn M C :=
  { self with registerCallsite := some callsiteEnabled }

def isBelowMaxLevel (self : FilterFn M C) (level : M → Level) (metadata : M) : Bool :=
  (self.maxLevelHint.map fun hint => (level metadata).le hint).getD true

/-- `default_callsite_enabled` asks the closure with `Context::none()`. -/
def defaultCallsiteEnabled (self : FilterFn M C) (metadata : M) : Interest :=
  if self.enabled metadata none then .always else .never

def callsiteEnabled (self : FilterFn M C) (metadata : M) : Interest :=
  (self.registerCallsite.map (· metadata)).getD (self.defaultCallsiteEnabled metadata)

/-- `impl Filter<S> for FilterFn`, consulted by a `Filtered` in the context `cx`. -/
def toFilter (self : FilterFn M C) (cx : C) : Filter M where
  enabled metadata := self.enabled metadata (some cx)
  callsiteEnabled := self.callsiteEnabled
  maxLevelHint := self.maxLevelHint

/-- The `debug_assert!` of `Filter::enabled`: what it admits is below its hint. -/
def enabledAsserts (self : FilterFn M C) (level : M → Level) (metadata : M) (cx : C) : Bool :=
  !self.enabled metadata (some cx) || self.isBelowMaxLevel level metadata

/-- The `debug_assert!` of `Filter::callsite_enabled`: an interest other than
`never` is for metadata below the hint. -/
def callsiteAsserts (self : FilterFn M C) (level : M → Level) (metadata : M) : Bool :=
  (self.callsiteEnabled metadata).isNever || self.isBelowMaxLevel level metadata

end FilterFn

/-- A layer with no per-layer filter: its `enabled` and `register_callsite`
answers and its `max_level_hint`.  Its `downcast_raw` answers no core marker. -/
structure Plain (M : Type) where
  enabled : M → Bool
  registerCallsite : M → Interest
  maxLevelHint : Option LevelFilter := none

inductive Layer (M : Type) where
  | plain (layer : Plain M)
  /-- `Filtered<L, F, S>`: `layer` is meant to see only what `filter` admits. -/
  | filtered (filter : Filter M) (id : FilterId) (layer : Layer M)
  /-- The layer-level `Layered<A, B, S>`, built by `inner.and_then(layer)`. -/
  | layered (layer inner : Layer M)
  /-- `Option<L>` holding `None`. -/
  | optNone
  /-- `Option<L>` holding `Some(layer)`. -/
  | optSome (layer : Layer M)

inductive Subscriber (M : Type) where
  | registry
  /-- The subscriber-level `Layered<L, S>`, built by `inner.with(layer)`. -/
  | layered (layer : Layer M) (inner : Subscriber M)

variable {M : Type}

/-- `Filtered::new(layer, filter)`: not yet registered. -/
def Filtered.new (layer : Layer M) (filter : Filter M) : Layer M :=
  .filtered filter FilterId.unregistered layer

def Subscriber.isRegistry : Subscriber M → Bool
  | .registry => true
  | .layered _ _ => false

/-! ## The per-layer-filter marker -/

/-- `downcast_raw(TypeId::of::<MagicPlfDowncastMarker>())`: the id field it
points at, if any.  Layer-level `Layered` answers only when both branches do. -/
def Layer.downcastMarker : Layer M → Option FilterId
  | .plain _ => none
  | .filtered _ id _ => some id
  | .layered layer inner =>
      match layer.downcastMarker with
      | some _ => inner.downcastMarker
      | none => none
  | .optNone => none
  | .optSome layer => layer.downcastMarker

def Subscriber.downcastMarker : Subscriber M → Option FilterId
  | .registry => none
  | .layered layer inner =>
      match layer.downcastMarker with
      | some id => some id
      | none => inner.downcastMarker

def layerHasPlf (layer : Layer M) : Bool := layer.downcastMarker.isSome

def subscriberHasPlf (subscriber : Subscriber M) : Bool := subscriber.downcastMarker.isSome

@[simp] theorem layerHasPlf_plain (layer : Plain M) : layerHasPlf (.plain layer) = false := rfl

@[simp] theorem layerHasPlf_filtered (filter : Filter M) (id : FilterId) (layer : Layer M) :
    layerHasPlf (.filtered filter id layer) = true := rfl

@[simp] theorem layerHasPlf_layered (layer inner : Layer M) :
    layerHasPlf (.layered layer inner) = (layerHasPlf layer && layerHasPlf inner) := by
  simp only [layerHasPlf, Layer.downcastMarker]
  split <;> simp_all

@[simp] theorem layerHasPlf_optNone : layerHasPlf (.optNone : Layer M) = false := rfl

@[simp] theorem layerHasPlf_optSome (layer : Layer M) :
    layerHasPlf (.optSome layer) = layerHasPlf layer := rfl

@[simp] theorem subscriberHasPlf_registry : subscriberHasPlf (.registry : Subscriber M) = false :=
  rfl

@[simp] theorem subscriberHasPlf_layered (layer : Layer M) (inner : Subscriber M) :
    subscriberHasPlf (.layered layer inner) = (layerHasPlf layer || subscriberHasPlf inner) := by
  simp only [subscriberHasPlf, layerHasPlf, Subscriber.downcastMarker]
  split <;> simp_all

/-! ## `Layered` -/

structure LayeredFlags where
  innerIsRegistry : Bool
  hasLayerFilter : Bool
  innerHasLayerFilter : Bool

/-- `Layered::new(layer, inner, inner_has_layer_filter)`, where `sIsRegistry` is
`TypeId::of::<S>() == TypeId::of::<Registry>()` for the subscriber type `S`. -/
def Layered.new (layer : Layer M) (innerHasLayerFilter sIsRegistry : Bool) : LayeredFlags where
  innerIsRegistry := sIsRegistry
  hasLayerFilter := layerHasPlf layer
  innerHasLayerFilter := innerHasLayerFilter || sIsRegistry

/-- `Layered::pick_interest`: `outer` is the outer layer's answer, already
computed; `inner` runs only when the rule asks for it. -/
def Layered.pickInterest (self : LayeredFlags) (outer : Interest)
    (inner : FilterState → Interest × FilterState) (s : FilterState) : Interest × FilterState :=
  if self.hasLayerFilter then inner s
  else if outer.isNever then (outer, s)
  else
    let run := inner s
    if outer.isSometimes then (outer, run.2)
    else if run.1.isNever && !outer.isNever && self.innerHasLayerFilter then (.sometimes, run.2)
    else run

theorem Layered.pickInterest_cases (self : LayeredFlags) (outer : Interest)
    (inner : FilterState → Interest × FilterState) (s : FilterState) :
    (self.hasLayerFilter = true ∧ Layered.pickInterest self outer inner s = inner s) ∨
    (self.hasLayerFilter = false ∧ outer = .never ∧
      Layered.pickInterest self outer inner s = (.never, s)) ∨
    (self.hasLayerFilter = false ∧ outer = .sometimes ∧
      Layered.pickInterest self outer inner s = (.sometimes, (inner s).2)) ∨
    (self.hasLayerFilter = false ∧ outer = .always ∧ (inner s).1 = .never ∧
      self.innerHasLayerFilter = true ∧
      Layered.pickInterest self outer inner s = (.sometimes, (inner s).2)) ∨
    (self.hasLayerFilter = false ∧ outer = .always ∧
      ((inner s).1 = .never → self.innerHasLayerFilter = false) ∧
      Layered.pickInterest self outer inner s = inner s) := by
  unfold Layered.pickInterest
  cases hasFilter : self.hasLayerFilter
  · cases outer with
    | never => exact .inr (.inl ⟨rfl, rfl, rfl⟩)
    | sometimes => exact .inr (.inr (.inl ⟨rfl, rfl, rfl⟩))
    | always =>
        refine .inr (.inr (.inr ?_))
        rcases inner s with ⟨answer, after⟩
        cases answer <;> cases self.innerHasLayerFilter <;>
          simp [Interest.isNever, Interest.isSometimes]
  · exact .inl ⟨rfl, rfl⟩

def Layered.pickLevelHint (self : LayeredFlags) (outerHint innerHint : Option LevelFilter) :
    Option LevelFilter :=
  if self.innerIsRegistry then outerHint
  else if self.hasLayerFilter && self.innerHasLayerFilter then
    match outerHint, innerHint with
    | some outer, some inner => some (outer.max inner)
    | _, _ => none
  else if self.hasLayerFilter && innerHint.isNone then none
  else if self.innerHasLayerFilter && outerHint.isNone then none
  else maxHint outerHint innerHint

/-! ## Which trees carry the marker -/

/-- Where the marker search stops: a `Filtered` (whatever it wraps), `None`, or
a plain layer. -/
inductive LeafKind
  | filtered | optNone | plain
  deriving DecidableEq, Repr

def Layer.leafKinds : Layer M → List LeafKind
  | .plain _ => [.plain]
  | .filtered .. => [.filtered]
  | .layered layer inner => layer.leafKinds ++ inner.leafKinds
  | .optNone => [.optNone]
  | .optSome layer => layer.leafKinds

def Subscriber.layers : Subscriber M → List (Layer M)
  | .registry => []
  | .layered layer inner => layer :: inner.layers

theorem layerHasPlf_iff (layer : Layer M) :
    layerHasPlf layer = true ↔ ∀ kind ∈ layer.leafKinds, kind = .filtered := by
  induction layer with
  | plain _ => simp [Layer.leafKinds]
  | filtered _ _ _ _ => simp [Layer.leafKinds]
  | layered layer inner layerIh innerIh =>
      simp [Layer.leafKinds, layerIh, innerIh, or_imp, forall_and]
  | optNone => simp [Layer.leafKinds]
  | optSome layer ih => simpa [Layer.leafKinds] using ih

theorem subscriberHasPlf_iff (subscriber : Subscriber M) :
    subscriberHasPlf subscriber = true ↔ ∃ layer ∈ subscriber.layers, layerHasPlf layer = true := by
  induction subscriber with
  | registry => simp [Subscriber.layers]
  | layered layer inner ih => simp [Subscriber.layers, ih]

/-- The marker answers for a layer tree exactly when every leaf is a
`Filtered`, for a subscriber chain exactly when one of its layers does, so the
`has_layer_filter` flag of `Layered::new` says that the outer layer tree is
filtered per layer throughout. -/
theorem plf_marker_detects_all_filtered :
    (∀ layer : Layer M, layerHasPlf layer = true ↔ ∀ kind ∈ layer.leafKinds, kind = .filtered) ∧
    (∀ subscriber : Subscriber M, subscriberHasPlf subscriber = true ↔
      ∃ layer ∈ subscriber.layers, layerHasPlf layer = true) ∧
    (∀ (layer : Layer M) (innerHasLayerFilter sIsRegistry : Bool),
      (Layered.new layer innerHasLayerFilter sIsRegistry).hasLayerFilter = true ↔
        ∀ kind ∈ layer.leafKinds, kind = .filtered) :=
  ⟨layerHasPlf_iff, subscriberHasPlf_iff, fun layer _ _ => layerHasPlf_iff layer⟩

end TracingSubscriber
