import TracingSubscriber.Runs

/-! # What every run guarantees

A pass cut short, or a pass whose answer is only read, leaves bits and
counters in the thread's `FilterState`, and a registration cut short leaves
the interest cell set.  What is left is only ever a bit of a top-level
`Filtered` (`System.Safe.clean`), and the next pass writes each of those bits
again.  `delivery_in_every_run`: the delivery rule holds for every event and
span that goes through a pass, in every run.  `span_callbacks_announced`: no
leaf is ever sent a callback about a span whose `new_span` it did not
receive. -/
set_option autoImplicit false

namespace TracingSubscriber

variable {M : Type}

/-! ## What a filter pass leaves in a thread's map -/

theorem Layered.pickInterest_enabled (self : LayeredFlags) (outer : Interest)
    {inner : FilterState → Interest × FilterState} (keeps : ∀ s, (inner s).2.enabled = s.enabled)
    (s : FilterState) : (Layered.pickInterest self outer inner s).2.enabled = s.enabled := by
  rcases Layered.pickInterest_cases self outer inner s with
    ⟨-, pick⟩ | ⟨-, -, pick⟩ | ⟨-, -, pick⟩ | ⟨-, -, -, -, pick⟩ | ⟨-, -, -, pick⟩ <;>
    rw [pick] <;> first | rfl | exact keeps s

theorem Layer.registerCallsite_enabled (sIsRegistry : Bool) (metadata : M) (layer : Layer M)
    (s : FilterState) : (layer.registerCallsite sIsRegistry metadata s).2.enabled = s.enabled := by
  induction layer generalizing s with
  | plain _ => rfl
  | filtered _ _ _ _ => simp [Layer.registerCallsite]
  | layered layer inner layerIh innerIh =>
      rw [Layer.registerCallsite, Layered.pickInterest_enabled _ _ innerIh, layerIh]
  | optNone => rfl
  | optSome layer ih => exact ih s

theorem Subscriber.registerCallsite_enabled (metadata : M) (subscriber : Subscriber M)
    (s : FilterState) : (subscriber.registerCallsite metadata s).2.enabled = s.enabled := by
  induction subscriber generalizing s with
  | registry => simp [Subscriber.registerCallsite]
  | layered layer inner ih =>
      rw [Subscriber.registerCallsite, Layered.pickInterest_enabled _ _ ih,
        Layer.registerCallsite_enabled]

theorem Layer.didEnableDispatch_keeps_clear (layer : Layer M) (path : Path) (s : FilterState)
    (id : FilterId) (clear : s.enabled.isEnabled id = true) :
    (layer.didEnableDispatch path s).2.enabled.isEnabled id = true := by
  induction layer generalizing path s with
  | plain _ => exact clear
  | filtered _ filterId layer ih =>
      rw [Layer.didEnableDispatch, (s.didEnable_cases filterId _).2.1]
      split
      · exact ih path s clear
      · rename_i rejected
        have differ : id ≠ filterId := fun same => rejected (same ▸ clear)
        rwa [FilterMap.isEnabled_set_of_ne _ _ differ]
  | layered layer inner layerIh innerIh => exact layerIh _ _ (innerIh _ _ clear)
  | optNone => exact clear
  | optSome layer ih => exact ih path s clear

theorem Subscriber.enabled_frame (metadata : M) (subscriber : Subscriber M) (s : FilterState)
    (id : FilterId) (notIn : ∀ filter, (filter, id) ∉ subscriber.filters) :
    (subscriber.enabled metadata s).2.enabled.isEnabled id = s.enabled.isEnabled id := by
  rw [subscriber.enabled_toLayer metadata s]
  split <;> simp [Layer.enabled_frame _ _ _ _ notIn]

namespace Subscriber.Clean

variable {subscriber : Subscriber M} {s : FilterState} (clean : subscriber.Clean s.enabled)
include clean

theorem pass (metadata : M) : subscriber.Clean (subscriber.enabled metadata s).2.enabled :=
  fun idx bound notIn => (subscriber.enabled_frame metadata s _ notIn).trans (clean idx bound notIn)

theorem dispatch (path : Path) :
    subscriber.Clean (subscriber.toLayer.didEnableDispatch path s).2.enabled :=
  fun idx bound notIn => Layer.didEnableDispatch_keeps_clear _ _ _ _ (clean idx bound notIn)

theorem event (path : Path) : subscriber.Clean (subscriber.event path s).2.enabled := by
  rw [subscriber.event_toLayer]
  exact clean.dispatch path

theorem registerCallsite (metadata : M) :
    subscriber.Clean (subscriber.registerCallsite metadata s).2.enabled := by
  rw [Subscriber.registerCallsite_enabled]
  exact clean

theorem threadStep (op : Op M) : subscriber.Clean (op.threadStep subscriber s).enabled := by
  cases op with
  | registerCallsite _ metadata => exact clean.registerCallsite metadata
  | event _ metadata =>
      simp only [Op.threadStep]
      split
      · exact (clean.pass metadata).event []
      · exact clean.pass metadata
  | newSpan _ metadata =>
      simp only [Op.threadStep]
      split
      · refine Subscriber.Clean.dispatch ?_ []
        rw [FilterState.filterMap_enabled]
        exact clean.pass metadata
      · exact clean.pass metadata
  | enabled _ metadata => exact clean.pass metadata
  | cachedEvent _ _ => exact clean.event []
  | cachedNewSpan _ _ =>
      refine Subscriber.Clean.dispatch ?_ []
      rwa [FilterState.filterMap_enabled]
  | _ => exact clean

end Subscriber.Clean

/-! ## The log -/

def Callback.spans : Callback → List SpanId
  | .onEvent => []
  | .newSpan _ => []
  | .onRecord span => [span]
  | .onEnter span => [span]
  | .onExit span => [span]
  | .onClose span => [span]
  | .onIdChange old => [old]
  | .onFollowsFrom span follows => [span, follows]

namespace System

/-- Every callback in the log about a span went to a leaf that received the
span's `new_span`. -/
def Announced (σ : System) : Prop :=
  ∀ entry ∈ σ.delivered, ∀ span ∈ entry.1.spans, entry.2 ∈ σ.received (.newSpan span)

theorem Announced.deliver {σ : System} (announced : σ.Announced) (callback : Callback)
    (paths : List Path)
    (told : ∀ path ∈ paths, ∀ span ∈ callback.spans, path ∈ σ.received (.newSpan span)) :
    (σ.deliver callback paths).Announced := by
  intro entry member span about
  rw [received_deliver]
  refine List.mem_append_left _ ?_
  simp only [System.deliver, List.mem_append, List.mem_map] at member
  rcases member with old | ⟨path, new, rfl⟩
  · exact announced entry old span about
  · exact told path new span about

theorem Announced.dispatchEvent {subscriber : Subscriber M} {σ : System}
    (announced : σ.Announced) (thread : ThreadId) (s : FilterState) :
    (σ.dispatchEvent subscriber thread s).Announced :=
  Announced.deliver (σ := σ.setThread thread _) announced _ _ fun _ _ _ about =>
    absurd about (List.not_mem_nil _)

theorem Announced.dispatchNewSpan {subscriber : Subscriber M} {σ : System}
    (announced : σ.Announced) (thread : ThreadId) (s : FilterState) :
    (σ.dispatchNewSpan subscriber thread s).Announced :=
  Announced.deliver (σ := (σ.setThread thread _).setRegistry _) announced _ _ fun _ _ _ about =>
    absurd about (List.not_mem_nil _)

theorem Announced.deliver_gated {subscriber : Subscriber M} {σ : System}
    (announced : σ.Announced) (consistent : Consistent subscriber σ) {span : SpanId}
    (live : σ.live span = true) (callback : Callback) (about : callback.spans = [span]) :
    (σ.deliver callback
      (subscriber.forwardIf (Context.isEnabledFor σ.registry.spans span) [])).Announced :=
  announced.deliver callback _ fun path member other inSpans => by
    rw [about, List.mem_singleton] at inSpans
    rwa [inSpans, ← consistent.forwardIf_live live]

variable {subscriber : Subscriber M}

theorem clean_step {σ σ' : System} (clean : ∀ thread, subscriber.Clean (σ.threads thread).enabled)
    {op : Op M} (stepped : σ.step subscriber op = some σ') :
    ∀ thread, subscriber.Clean (σ'.threads thread).enabled := fun thread => by
  rw [System.step_threads subscriber stepped thread]
  split
  · exact (clean thread).threadStep op
  · exact clean thread

theorem announced_step {σ σ' : System} (consistent : Consistent subscriber σ)
    (announced : σ.Announced) {op : Op M} (stepped : σ.step subscriber op = some σ') :
    σ'.Announced := by
  cases op with
  | registerCallsite thread _ | enabled thread _ =>
      cases stepped
      exact announced
  | event thread metadata =>
      simp only [System.step] at stepped
      split at stepped <;> cases stepped
      · exact announced.dispatchEvent thread _
      · exact announced
  | newSpan thread metadata =>
      simp only [System.step] at stepped
      split at stepped <;> cases stepped
      · exact announced.dispatchNewSpan thread _
      · exact announced
  | cachedEvent thread _ =>
      cases stepped
      exact announced.dispatchEvent thread _
  | cachedNewSpan thread _ =>
      cases stepped
      exact announced.dispatchNewSpan thread _
  | record span | enter span | exit span =>
      simp only [System.step] at stepped
      split at stepped <;> cases stepped
      rename_i live
      exact announced.deliver_gated consistent live _ rfl
  | followsFrom span follows =>
      simp only [System.step] at stepped
      split at stepped <;> cases stepped
      rename_i guard
      obtain ⟨live, created⟩ := Bool.and_eq_true_iff.mp guard
      refine announced.deliver (.onFollowsFrom span follows) _ fun path member other about => ?_
      simp only [Callback.spans, List.mem_cons, List.mem_singleton, List.not_mem_nil,
        or_false] at about
      cases followsLive : σ.live follows with
      | true =>
          rw [consistent.recordFollowsFrom_live live followsLive, List.mem_filter] at member
          rcases about with rfl | rfl
          · exact member.1
          · exact of_decide_eq_true member.2
      | false =>
          rw [consistent.recordFollowsFrom_closed live followsLive, List.mem_filter] at member
          rcases about with rfl | rfl
          · exact member.1
          · exact consistent.created other (of_decide_eq_true created) (of_decide_eq_true member.2)
  | cloneSpan span =>
      simp only [System.step] at stepped
      split at stepped <;> cases stepped
      rw [Subscriber.cloneSpan_eq]
      exact announced.deliver _ [] nofun
  | close span closing =>
      simp only [System.step] at stepped
      split at stepped <;> cases stepped
      rename_i live
      have delivered : (σ.deliver (.onClose span)
          (subscriber.tryClose σ.registry.spans span closing []).2).Announced := by
        rw [Subscriber.tryClose_eq]
        cases closing with
        | true => exact announced.deliver_gated consistent live _ rfl
        | false => exact announced.deliver _ [] nofun
      split <;> exact delivered

/-! ## The invariant of every run -/

/-- What every reachable state keeps: the registry's record of the live spans,
a clean map on every thread, and an announced log. -/
structure Safe (subscriber : Subscriber M) (σ : System) : Prop where
  consistent : Consistent subscriber σ
  clean : ∀ thread, subscriber.Clean (σ.threads thread).enabled
  announced : σ.Announced

theorem safe_initial : Safe subscriber initial :=
  ⟨consistent_initial, fun _ => subscriber.clean_default, fun _ member =>
    absurd member (List.not_mem_nil _)⟩

theorem Safe.step {σ σ' : System} (safe : Safe subscriber σ) (distinct : subscriber.ids.Nodup)
    {op : Op M} (stepped : σ.step subscriber op = some σ') : Safe subscriber σ' :=
  ⟨safe.consistent.step distinct stepped, clean_step safe.clean stepped,
    announced_step safe.consistent safe.announced stepped⟩

theorem safe_run (distinct : subscriber.ids.Nodup) (ops : List (Op M)) :
    ∀ σ σ', Safe subscriber σ → σ.run subscriber ops = some σ' → Safe subscriber σ' := by
  induction ops with
  | nil =>
      intro σ σ' safe reached
      cases reached
      exact safe
  | cons op rest ih =>
      intro σ σ' safe reached
      obtain ⟨next, stepped, rest⟩ := Option.bind_eq_some.mp reached
      exact ih next σ' (safe.step distinct stepped) rest

end System

/-! ## Delivery in every run -/

theorem System.Safe.delivery {subscriber : Subscriber M} {σ : System}
    (safe : System.Safe subscriber σ) (distinct : subscriber.ids.Nodup)
    (registered : ∀ id ∈ subscriber.ids, id.idx.toNat < 64) (thread : ThreadId) (metadata : M) :
    ∃ events spans : List Path,
      (σ.step subscriber (.event thread metadata)).map System.delivered =
        some (σ.delivered ++ events.map (.onEvent, ·)) ∧
      (σ.step subscriber (.newSpan thread metadata)).map System.delivered =
        some (σ.delivered ++ spans.map (.newSpan σ.registry.next, ·)) ∧
      events.Nodup ∧ spans.Nodup ∧
      ∀ leaf ∈ subscriber.leaves [],
        (leaf.1 ∈ events ↔ subscriber.Delivers metadata leaf.2) ∧
        (leaf.1 ∈ spans ↔ subscriber.Delivers metadata leaf.2) := by
  obtain ⟨eventsNodup, spansNodup, rule⟩ := subscriber.delivery_after_pass distinct registered
    metadata (σ.threads thread) (safe.clean thread) σ.registry
  refine ⟨_, _, ?_, ?_, eventsNodup, spansNodup, rule⟩
  · by_cases said : (subscriber.enabled metadata (σ.threads thread)).1 = true <;>
      simp [System.step, said]
  · by_cases said : (subscriber.enabled metadata (σ.threads thread)).1 = true <;>
      simp [System.step, said, (subscriber.newSpan_spec distinct [] σ.registry _).1]

/-- From every state a run reaches, on every thread, whatever earlier passes
and registrations left in its `FilterState`: an event, and a span (under the
registry's next id), reach each leaf at most once, and reach it exactly when
every global plain layer enables the metadata, some id below 64 is held by no
rejecting top-level `Filtered`, and the outermost `Filtered` around the leaf
admits it. -/
theorem delivery_in_every_run (subscriber : Subscriber M) (distinct : subscriber.ids.Nodup)
    (registered : ∀ id ∈ subscriber.ids, id.idx.toNat < 64) (ops : List (Op M)) (σ : System)
    (reached : System.initial.run subscriber ops = some σ) (thread : ThreadId) (metadata : M) :
    ∃ events spans : List Path,
      (σ.step subscriber (.event thread metadata)).map System.delivered =
        some (σ.delivered ++ events.map (.onEvent, ·)) ∧
      (σ.step subscriber (.newSpan thread metadata)).map System.delivered =
        some (σ.delivered ++ spans.map (.newSpan σ.registry.next, ·)) ∧
      events.Nodup ∧ spans.Nodup ∧
      ∀ leaf ∈ subscriber.leaves [],
        (leaf.1 ∈ events ↔ subscriber.Delivers metadata leaf.2) ∧
        (leaf.1 ∈ spans ↔ subscriber.Delivers metadata leaf.2) :=
  (System.safe_run distinct ops _ _ System.safe_initial reached).delivery distinct registered
    thread metadata

theorem delivery_in_every_run_after_short_circuit :
    let admitAll : Plain Unit := { enabled := fun _ => true, registerCallsite := fun _ => .always }
    let neverLayer : Plain Unit := { enabled := fun _ => true, registerCallsite := fun _ => .never }
    let subscriber : Subscriber Unit :=
      .layered (.filtered { enabled := fun _ => true } ⟨0⟩ (.plain admitAll))
        (.layered (.plain neverLayer) .registry)
    let ops : List (Op Unit) := [.registerCallsite 0 ()]
    let σ := (System.initial.run subscriber ops).getD System.initial
    subscriber.ids.Nodup ∧ (∀ id ∈ subscriber.ids, id.idx.toNat < 64) ∧
      System.initial.run subscriber ops = some σ ∧
      ∃ events spans : List Path,
        (σ.step subscriber (.event 0 ())).map System.delivered =
          some (σ.delivered ++ events.map (.onEvent, ·)) ∧
        (σ.step subscriber (.newSpan 0 ())).map System.delivered =
          some (σ.delivered ++ spans.map (.newSpan σ.registry.next, ·)) ∧
        events.Nodup ∧ spans.Nodup ∧
        ∀ leaf ∈ subscriber.leaves [],
          (leaf.1 ∈ events ↔ subscriber.Delivers () leaf.2) ∧
          (leaf.1 ∈ spans ↔ subscriber.Delivers () leaf.2) := by
  intro admitAll neverLayer subscriber ops σ
  exact ⟨by decide, by decide, rfl,
    delivery_in_every_run subscriber (by decide) (by decide) ops σ rfl 0 ()⟩

/-- In every run, each callback about a span went to a leaf that received the
span's `new_span`: no layer hears of a span its filter kept from it. -/
theorem span_callbacks_announced (subscriber : Subscriber M) (distinct : subscriber.ids.Nodup)
    (ops : List (Op M)) (σ : System) (reached : System.initial.run subscriber ops = some σ) :
    ∀ entry ∈ σ.delivered, ∀ span ∈ entry.1.spans, entry.2 ∈ σ.received (.newSpan span) :=
  (System.safe_run distinct ops _ _ System.safe_initial reached).announced

theorem span_callbacks_announced_after_close :
    let leaf : Plain Unit := { enabled := fun _ => true, registerCallsite := fun _ => .always }
    let subscriber : Subscriber Unit :=
      .layered (.filtered { enabled := fun _ => false } ⟨0⟩ (.plain leaf))
        (.layered (.plain leaf) .registry)
    let ops : List (Op Unit) :=
      [.newSpan 0 (), .cachedNewSpan 1 (), .close 1 true, .followsFrom 0 1, .record 0]
    let σ := (System.initial.run subscriber ops).getD System.initial
    subscriber.ids.Nodup ∧ System.initial.run subscriber ops = some σ ∧
      ∀ entry ∈ σ.delivered, ∀ span ∈ entry.1.spans, entry.2 ∈ σ.received (.newSpan span) := by
  intro leaf subscriber ops σ
  obtain ⟨σ', ran⟩ := Option.isSome_iff_exists.mp
    (show (System.initial.run subscriber ops).isSome = true by decide)
  have reached : System.initial.run subscriber ops = some σ := by simp [σ, ran]
  exact ⟨by decide, reached, span_callbacks_announced subscriber (by decide) ops σ reached⟩

end TracingSubscriber
