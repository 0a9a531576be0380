import TracingSubscriber.Layer

/-! # Callbacks through a layer tree

Every callback of `Layered`, `Filtered` and `Option` on one thread.  The
filtering callbacks thread the thread's `FilterState`, and so do `new_span`
and `on_event`, which `Filtered` gates with `FilterState::did_enable`; the span
callbacks are gated with the map the registry stored for the span.  A callback
returns the leaf layers it reached, in call order, each named by its `Path`.
The registry's source is not in the repository; it is modelled as the spec
describes it (`event_enabled()`, `take_interest()` falling back to `always`,
`filter_map()` stored under a fresh id). -/
set_option autoImplicit false

namespace TracingSubscriber

inductive Branch
  | layer | inner
  deriving DecidableEq, Repr

/-- Where a leaf layer sits: the `Layered` branches from it up to the top. -/
abbrev Path := List Branch

abbrev SpanId := Nat

/-- The per-span data of the registry the core reads: the `FilterMap` stored
when the span was created, for every live span. -/
abbrev Spans := SpanId → Option FilterMap

/-- `Context::is_enabled_for(span, filter)`: an unknown span is enabled for no
filter. -/
def Context.isEnabledFor (spans : Spans) (span : SpanId) (filter : FilterId) : Bool :=
  match spans span with
  | some map => map.isEnabled filter
  | none => false

variable {M : Type}

namespace Layer

def enabled (metadata : M) : Layer M → FilterState → Bool × FilterState
  | .plain layer, s => (layer.enabled metadata, s)
  | .filtered filter id _, s => (true, s.set id (filter.enabled metadata))
  | .layered layer inner, s =>
      let run := layer.enabled metadata s
      if run.1 then inner.enabled metadata run.2 else (false, run.2)
  | .optNone, s => (true, s)
  | .optSome layer, s => layer.enabled metadata s

/-- `register_callsite`; `sIsRegistry` says whether the tree was built for the
registry itself as its subscriber type `S`. -/
def registerCallsite (sIsRegistry : Bool) (metadata : M) :
    Layer M → FilterState → Interest × FilterState
  | .plain layer, s => (layer.registerCallsite metadata, s)
  | .filtered filter _ _, s => (.always, s.addInterest (filter.callsiteEnabled metadata))
  | .layered layer inner, s =>
      let outer := layer.registerCallsite sIsRegistry metadata s
      Layered.pickInterest (Layered.new layer (layerHasPlf inner) sIsRegistry) outer.1
        (inner.registerCallsite sIsRegistry metadata) outer.2
  | .optNone, s => (.always, s)
  | .optSome layer, s => layer.registerCallsite sIsRegistry metadata s

def maxLevelHint (sIsRegistry : Bool) : Layer M → Option LevelFilter
  | .plain layer => layer.maxLevelHint
  | .filtered filter _ _ => filter.maxLevelHint
  | .layered layer inner =>
      Layered.pickLevelHint (Layered.new layer (layerHasPlf inner) sIsRegistry)
        (layer.maxLevelHint sIsRegistry) (inner.maxLevelHint sIsRegistry)
  | .optNone => none
  | .optSome layer => layer.maxLevelHint sIsRegistry

/-- The shape of `new_span` and `on_event`: inner before outer, and a
`Filtered` forwards only through `did_enable`. -/
def didEnableDispatch (path : Path) : Layer M → FilterState → List Path × FilterState
  | .plain _, s => ([path], s)
  | .filtered _ id layer, s => s.didEnable id (layer.didEnableDispatch path)
  | .layered layer inner, s =>
      let innerRun := inner.didEnableDispatch (.inner :: path) s
      let layerRun := layer.didEnableDispatch (.layer :: path) innerRun.2
      (innerRun.1 ++ layerRun.1, layerRun.2)
  | .optNone, s => ([], s)
  | .optSome layer, s => layer.didEnableDispatch path s

def newSpan (path : Path) (layer : Layer M) (s : FilterState) : List Path × FilterState :=
  layer.didEnableDispatch path s

def onEvent (path : Path) (layer : Layer M) (s : FilterState) : List Path × FilterState :=
  layer.didEnableDispatch path s

/-- The shape of the span callbacks: inner before outer, and a `Filtered`
forwards only when `enabledFor` its id holds. -/
def forwardIf (enabledFor : FilterId → Bool) (path : Path) : Layer M → List Path
  | .plain _ => [path]
  | .filtered _ id layer => if enabledFor id then layer.forwardIf enabledFor path else []
  | .layered layer inner =>
      inner.forwardIf enabledFor (.inner :: path) ++ layer.forwardIf enabledFor (.layer :: path)
  | .optNone => []
  | .optSome layer => layer.forwardIf enabledFor path

def onRecord (spans : Spans) (span : SpanId) (path : Path) (layer : Layer M) : List Path :=
  layer.forwardIf (Context.isEnabledFor spans span) path

def onEnter (spans : Spans) (span : SpanId) (path : Path) (layer : Layer M) : List Path :=
  layer.forwardIf (Context.isEnabledFor spans span) path

def onExit (spans : Spans) (span : SpanId) (path : Path) (layer : Layer M) : List Path :=
  layer.forwardIf (Context.isEnabledFor spans span) path

def onClose (spans : Spans) (span : SpanId) (path : Path) (layer : Layer M) : List Path :=
  layer.forwardIf (Context.isEnabledFor spans span) path

def onIdChange (spans : Spans) (old : SpanId) (path : Path) (layer : Layer M) : List Path :=
  layer.forwardIf (Context.isEnabledFor spans old) path

def onFollowsFrom (spans : Spans) (span follows : SpanId) (path : Path) (layer : Layer M) :
    List Path :=
  layer.forwardIf (fun id => Context.isEnabledFor spans span id &&
    Context.isEnabledFor spans follows id) path

end Layer

/-- The registry's span ids and stored maps. -/
structure Registry where
  spans : Spans
  next : SpanId

/-- Modelled from the spec: the registry's `new_span` takes a fresh id and
stores `FilterState::filter_map()` under it. -/
def Registry.newSpan (registry : Registry) (s : FilterState) : SpanId × Registry × FilterState :=
  let map := s.filterMap
  (registry.next,
    { spans := fun span => if span = registry.next then some map.1 else registry.spans span,
      next := registry.next + 1 }, map.2)

namespace Subscriber

/-- `Layered::enabled` down the chain.  Modelled from the spec: the registry
answers `FilterState::event_enabled()`. -/
def enabled (metadata : M) : Subscriber M → FilterState → Bool × FilterState
  | .registry, s => s.eventEnabled
  | .layered layer inner, s =>
      let run := layer.enabled metadata s
      if run.1 then inner.enabled metadata run.2 else (false, run.2)

/-- `Layered::register_callsite` down the chain.  Modelled from the spec: the
registry answers `take_interest()`, or `always` when the cell is empty. -/
def registerCallsite (metadata : M) : Subscriber M → FilterState → Interest × FilterState
  | .registry, s =>
      let taken := s.takeInterest
      (taken.1.getD .always, taken.2)
  | .layered layer inner, s =>
      let outer := layer.registerCallsite inner.isRegistry metadata s
      Layered.pickInterest (Layered.new layer (subscriberHasPlf inner) inner.isRegistry) outer.1
        (inner.registerCallsite metadata) outer.2

def maxLevelHint : Subscriber M → Option LevelFilter
  | .registry => none
  | .layered layer inner =>
      Layered.pickLevelHint (Layered.new layer (subscriberHasPlf inner) inner.isRegistry)
        (layer.maxLevelHint inner.isRegistry) inner.maxLevelHint

def event (path : Path) : Subscriber M → FilterState → List Path × FilterState
  | .registry, s => ([], s)
  | .layered layer inner, s =>
      let innerRun := inner.event (.inner :: path) s
      let layerRun := layer.onEvent (.layer :: path) innerRun.2
      (innerRun.1 ++ layerRun.1, layerRun.2)

def newSpan (path : Path) :
    Subscriber M → Registry → FilterState → SpanId × List Path × Registry × FilterState
  | .registry, reg, s =>
      let created := reg.newSpan s
      (created.1, [], created.2.1, created.2.2)
  | .layered layer inner, reg, s =>
      let innerRun := inner.newSpan (.inner :: path) reg s
      let layerRun := layer.newSpan (.layer :: path) innerRun.2.2.2
      (innerRun.1, innerRun.2.1 ++ layerRun.1, innerRun.2.2.1, layerRun.2)

def forwardIf (enabledFor : FilterId → Bool) (path : Path) : Subscriber M → List Path
  | .registry => []
  | .layered layer inner =>
      inner.forwardIf enabledFor (.inner :: path) ++ layer.forwardIf enabledFor (.layer :: path)

def record (spans : Spans) (span : SpanId) (subscriber : Subscriber M) : List Path :=
  subscriber.forwardIf (Context.isEnabledFor spans span) []

def enter (spans : Spans) (span : SpanId) (subscriber : Subscriber M) : List Path :=
  subscriber.forwardIf (Context.isEnabledFor spans span) []

def exit (spans : Spans) (span : SpanId) (subscriber : Subscriber M) : List Path :=
  subscriber.forwardIf (Context.isEnabledFor spans span) []

def recordFollowsFrom (spans : Spans) (span follows : SpanId) (subscriber : Subscriber M) :
    List Path :=
  subscriber.forwardIf (fun id => Context.isEnabledFor spans span id &&
    Context.isEnabledFor spans follows id) []

/-- `clone_span`: the registry returns the id it is given, so no `Layered` sees
a changed id and `on_id_change` is never called. -/
def cloneSpan (spans : Spans) (old : SpanId) (path : Path) :
    Subscriber M → SpanId × List Path
  | .registry => (old, [])
  | .layered layer inner =>
      let innerRun := inner.cloneSpan spans old (.inner :: path)
      if innerRun.1 ≠ old then
        (innerRun.1, innerRun.2 ++ layer.onIdChange spans old (.layer :: path))
      else innerRun

/-- `try_close`: `closing` is the registry's answer; the registry keeps the
span's data until the outermost `try_close` returns. -/
def tryClose (spans : Spans) (span : SpanId) (closing : Bool) (path : Path) :
    Subscriber M → Bool × List Path
  | .registry => (closing, [])
  | .layered layer inner =>
      let innerRun := inner.tryClose spans span closing (.inner :: path)
      if innerRun.1 then (true, innerRun.2 ++ layer.onClose spans span (.layer :: path))
      else (false, innerRun.2)

end Subscriber

end TracingSubscriber
