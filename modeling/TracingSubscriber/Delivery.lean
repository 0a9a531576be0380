import Mathlib.Data.List.Nodup
import TracingSubscriber.Dispatch

/-! # Who receives a span or an event

One filter pass (`Subscriber::enabled`), then the `event` or `new_span`
dispatch when the pass said yes.  `Layer.didEnableDispatch_spec`: as the ids
are distinct, `did_enable` gates each `Filtered` by the bit of the map it
starts from.  `Subscriber.delivery_after_pass`: after a pass from a `Clean`
map, a leaf receives the span or event once when every global plain layer
enables it, its outermost `Filtered` admits it, and some id below 64 is held
by no rejecting filter.  With fewer than 64 top-level filters the filters never
stop a span or event (`enabled_of_few_filters`). -/
set_option autoImplicit false

namespace TracingSubscriber

variable {M : Type}

/-! ## What a tree holds -/

namespace Layer

def ids : Layer M → List FilterId
  | .plain _ => []
  | .filtered _ id layer => id :: layer.ids
  | .layered layer inner => layer.ids ++ inner.ids
  | .optNone => []
  | .optSome layer => layer.ids

/-- The `Filtered` nodes not nested in another `Filtered`, in the order
`enabled` asks them. -/
def filters : Layer M → List (Filter M × FilterId)
  | .plain _ => []
  | .filtered filter id _ => [(filter, id)]
  | .layered layer inner => layer.filters ++ inner.filters
  | .optNone => []
  | .optSome layer => layer.filters

def globals : Layer M → List (Plain M)
  | .plain layer => [layer]
  | .filtered .. => []
  | .layered layer inner => layer.globals ++ inner.globals
  | .optNone => []
  | .optSome layer => layer.globals

/-- Every leaf layer with the `Filtered` nodes around it, outermost first, in
dispatch order. -/
def leaves (path : Path) : Layer M → List (Path × List (Filter M × FilterId))
  | .plain _ => [(path, [])]
  | .filtered filter id layer =>
      (layer.leaves path).map fun leaf => (leaf.1, (filter, id) :: leaf.2)
  | .layered layer inner => inner.leaves (.inner :: path) ++ layer.leaves (.layer :: path)
  | .optNone => []
  | .optSome layer => layer.leaves path

end Layer

namespace Subscriber

/-- The chain as one layer tree: every `Layered<L, S>` as a layer-level one
and the registry as a leaf that reaches no layer. -/
def toLayer : Subscriber M → Layer M
  | .registry => .optNone
  | .layered layer inner => .layered layer inner.toLayer

def ids (subscriber : Subscriber M) : List FilterId := subscriber.toLayer.ids

def filters (subscriber : Subscriber M) : List (Filter M × FilterId) := subscriber.toLayer.filters

def globals (subscriber : Subscriber M) : List (Plain M) := subscriber.toLayer.globals

def leaves (path : Path) (subscriber : Subscriber M) :
    List (Path × List (Filter M × FilterId)) :=
  subscriber.toLayer.leaves path

theorem forwardIf_toLayer (enabledFor : FilterId → Bool) (subscriber : Subscriber M)
    (path : Path) : subscriber.forwardIf enabledFor path = subscriber.toLayer.forwardIf enabledFor path := by
  induction subscriber generalizing path with
  | registry => rfl
  | layered layer inner ih => simp [forwardIf, toLayer, Layer.forwardIf, ih]

theorem event_toLayer (subscriber : Subscriber M) (path : Path) (s : FilterState) :
    subscriber.event path s = subscriber.toLayer.didEnableDispatch path s := by
  induction subscriber generalizing path s with
  | registry => rfl
  | layered layer inner ih => simp [event, toLayer, Layer.didEnableDispatch, Layer.onEvent, ih]

theorem enabled_toLayer (metadata : M) (subscriber : Subscriber M) (s : FilterState) :
    subscriber.enabled metadata s =
      if (subscriber.toLayer.enabled metadata s).1 then
        (subscriber.toLayer.enabled metadata s).2.eventEnabled
      else (false, (subscriber.toLayer.enabled metadata s).2) := by
  induction subscriber generalizing s with
  | registry => rfl
  | layered layer inner ih =>
      simp only [enabled, toLayer, Layer.enabled, ih]
      by_cases layerSays : (layer.enabled metadata s).1 <;> simp [layerSays]

end Subscriber

/-! ## Gated forwarding -/

theorem Layer.forwardIf_eq_leaves (enabledFor : FilterId → Bool) (layer : Layer M)
    (path : Path) :
    layer.forwardIf enabledFor path =
      ((layer.leaves path).filter fun leaf => leaf.2.all fun enclosing => enabledFor enclosing.2).map
        Prod.fst := by
  induction layer generalizing path with
  | plain _ => simp [Layer.forwardIf, Layer.leaves]
  | filtered filter id layer ih =>
      by_cases open_ : enabledFor id
      · simp [Layer.forwardIf, Layer.leaves, open_, ih, List.filter_map, Function.comp_def]
      · simp [Layer.forwardIf, Layer.leaves, open_, List.filter_map, Function.comp_def]
  | layered layer inner layerIh innerIh =>
      simp [Layer.forwardIf, Layer.leaves, layerIh, innerIh]
  | optNone => simp [Layer.forwardIf, Layer.leaves]
  | optSome layer ih => simp [Layer.forwardIf, Layer.leaves, ih]

theorem Layer.forwardIf_congr {enabledFor other : FilterId → Bool} (layer : Layer M)
    (agree : ∀ id ∈ layer.ids, enabledFor id = other id) (path : Path) :
    layer.forwardIf enabledFor path = layer.forwardIf other path := by
  induction layer generalizing path with
  | plain _ => rfl
  | filtered filter id layer ih =>
      simp only [Layer.ids, List.mem_cons, forall_eq_or_imp] at agree
      simp [Layer.forwardIf, agree.1, ih agree.2]
  | layered layer inner layerIh innerIh =>
      simp only [Layer.ids, List.mem_append] at agree
      simp [Layer.forwardIf, layerIh fun id member => agree id (.inl member),
        innerIh fun id member => agree id (.inr member)]
  | optNone => rfl
  | optSome layer ih => exact ih agree path

/-! ## `did_enable` dispatch -/

theorem Layer.didEnableDispatch_spec (layer : Layer M) (distinct : layer.ids.Nodup)
    (path : Path) (s : FilterState) :
    (layer.didEnableDispatch path s).1 = layer.forwardIf s.enabled.isEnabled path ∧
    (∀ id, id ∉ layer.ids →
      (layer.didEnableDispatch path s).2.enabled.isEnabled id = s.enabled.isEnabled id) ∧
    (layer.didEnableDispatch path s).2.interest = s.interest := by
  induction layer generalizing path s with
  | plain _ => simp [Layer.didEnableDispatch, Layer.forwardIf]
  | filtered filter id layer ih =>
      simp only [Layer.ids, List.nodup_cons] at distinct
      obtain ⟨reached, enabled, interest⟩ := s.didEnable_cases id (layer.didEnableDispatch path)
      obtain ⟨ihReached, ihFrame, ihInterest⟩ := ih distinct.2 path s
      simp only [Layer.didEnableDispatch, reached, enabled, interest, Layer.forwardIf, Layer.ids,
        List.mem_cons, not_or]
      by_cases clear : s.enabled.isEnabled id
      · simp only [clear, if_true]
        exact ⟨ihReached, fun other notIn => ihFrame other notIn.2, ihInterest⟩
      · simp only [clear]
        exact ⟨rfl, fun other notIn => FilterMap.isEnabled_set_of_ne _ _ notIn.1, rfl⟩
  | layered layer inner layerIh innerIh =>
      simp only [Layer.ids, List.nodup_append] at distinct
      obtain ⟨layerDistinct, innerDistinct, disjoint⟩ := distinct
      obtain ⟨innerReached, innerFrame, innerInterest⟩ :=
        innerIh innerDistinct (.inner :: path) s
      obtain ⟨layerReached, layerFrame, layerInterest⟩ :=
        layerIh layerDistinct (.layer :: path) (inner.didEnableDispatch (.inner :: path) s).2
      have sameOnLayer := layer.forwardIf_congr
        (fun id member => innerFrame id fun innerMember => disjoint member innerMember)
        (.layer :: path)
      refine ⟨?_, ?_, ?_⟩
      · simp only [Layer.didEnableDispatch, Layer.forwardIf, innerReached, layerReached,
          sameOnLayer]
      · intro id notIn
        simp only [Layer.ids, List.mem_append, not_or] at notIn
        simp only [Layer.didEnableDispatch, layerFrame id notIn.1, innerFrame id notIn.2]
      · simp only [Layer.didEnableDispatch, layerInterest, innerInterest]
  | optNone => simp [Layer.didEnableDispatch, Layer.forwardIf]
  | optSome layer ih => exact ih distinct path s

/-! ## The filter pass -/

namespace Layer

theorem mem_ids_of_mem_filters {layer : Layer M} {filter : Filter M} {id : FilterId}
    (member : (filter, id) ∈ layer.filters) : id ∈ layer.ids := by
  induction layer with
  | plain _ => simp [filters] at member
  | filtered _ _ _ _ =>
      simp only [filters, List.mem_singleton, Prod.mk.injEq] at member
      simp [ids, member.2]
  | layered layer inner layerIh innerIh =>
      simp only [filters, List.mem_append] at member
      simp only [ids, List.mem_append]
      exact member.imp layerIh innerIh
  | optNone => simp [filters] at member
  | optSome layer ih => exact ih member

theorem enabled_fst (metadata : M) (layer : Layer M) (s : FilterState) :
    (layer.enabled metadata s).1 = layer.globals.all (·.enabled metadata) := by
  induction layer generalizing s with
  | plain _ => simp [enabled, globals]
  | filtered _ _ _ _ => simp [enabled, globals]
  | layered layer inner layerIh innerIh =>
      by_cases admitted : layer.globals.all (·.enabled metadata) <;>
        simp [enabled, globals, layerIh, innerIh, admitted]
  | optNone => rfl
  | optSome layer ih => exact ih s

theorem enabled_interest (metadata : M) (layer : Layer M) (s : FilterState) :
    (layer.enabled metadata s).2.interest = s.interest := by
  induction layer generalizing s with
  | plain _ => rfl
  | filtered _ _ _ _ => simp [enabled]
  | layered layer inner layerIh innerIh =>
      simp only [enabled]
      split <;> simp [layerIh, innerIh]
  | optNone => rfl
  | optSome layer ih => exact ih s

theorem enabled_frame (metadata : M) (layer : Layer M) (s : FilterState) (id : FilterId)
    (notIn : ∀ filter, (filter, id) ∉ layer.filters) :
    (layer.enabled metadata s).2.enabled.isEnabled id = s.enabled.isEnabled id := by
  induction layer generalizing s with
  | plain _ => rfl
  | filtered filter filterId _ _ =>
      have differ : id ≠ filterId := fun same => notIn filter (by simp [filters, same])
      simp [enabled, FilterMap.isEnabled_set_of_ne _ _ differ]
  | layered layer inner layerIh innerIh =>
      simp only [filters, List.mem_append, not_or] at notIn
      simp only [enabled]
      split <;> simp [layerIh _ fun filter => (notIn filter).1,
        innerIh _ fun filter => (notIn filter).2]
  | optNone => rfl
  | optSome layer ih => exact ih s notIn

theorem enabled_verdicts (metadata : M) (layer : Layer M) (distinct : layer.ids.Nodup)
    (s : FilterState) (admitted : layer.globals.all (·.enabled metadata) = true)
    (filter : Filter M) (id : FilterId) (member : (filter, id) ∈ layer.filters)
    (bound : id.idx.toNat < 64) :
    (layer.enabled metadata s).2.enabled.isEnabled id = filter.enabled metadata := by
  induction layer generalizing s with
  | plain _ => simp [filters] at member
  | filtered _ _ _ _ =>
      simp only [filters, List.mem_singleton, Prod.mk.injEq] at member
      obtain ⟨rfl, rfl⟩ := member
      simp [enabled, FilterMap.isEnabled_set_self _ _ _ bound]
  | layered layer inner layerIh innerIh =>
      simp only [ids, List.nodup_append] at distinct
      simp only [globals, List.all_append, Bool.and_eq_true] at admitted
      have layerSays : (layer.enabled metadata s).1 = true := by rw [enabled_fst]; exact admitted.1
      simp only [enabled, layerSays, if_true]
      simp only [filters, List.mem_append] at member
      cases member with
      | inl inLayer =>
          rw [enabled_frame _ _ _ _ fun other inInner =>
            distinct.2.2 (mem_ids_of_mem_filters inLayer) (mem_ids_of_mem_filters inInner)]
          exact layerIh distinct.1 s admitted.1 inLayer
      | inr inInner => exact innerIh distinct.2.1 _ admitted.2 inInner
  | optNone => simp [filters] at member
  | optSome layer ih => exact ih distinct s admitted member

theorem forwardIf_outermost (metadata : M) (layer : Layer M) (distinct : layer.ids.Nodup)
    (map : FilterMap)
    (verdicts : ∀ filter id, (filter, id) ∈ layer.filters → map.isEnabled id = filter.enabled metadata)
    (nestedClear : ∀ id ∈ layer.ids, (∀ filter, (filter, id) ∉ layer.filters) →
      map.isEnabled id = true)
    (path : Path) :
    layer.forwardIf map.isEnabled path =
      ((layer.leaves path).filter fun leaf =>
        (leaf.2.take 1).all (·.1.enabled metadata)).map Prod.fst := by
  induction layer generalizing path with
  | plain _ => simp [forwardIf, leaves]
  | filtered filter id layer _ =>
      simp only [ids, List.nodup_cons] at distinct
      have allClear : layer.forwardIf map.isEnabled path = layer.forwardIf (fun _ => true) path :=
        layer.forwardIf_congr (fun other member => nestedClear other (List.mem_cons_of_mem _ member)
          fun f inFilters => by
            simp only [filters, List.mem_singleton, Prod.mk.injEq] at inFilters
            exact distinct.1 (inFilters.2 ▸ member)) path
      have verdict := verdicts filter id (by simp [filters])
      have allTrue : ∀ enclosing : List (Filter M × FilterId), (enclosing.all fun _ => true) = true :=
        fun _ => List.all_eq_true.mpr fun _ _ => rfl
      by_cases admits : filter.enabled metadata <;>
        simp [forwardIf, leaves, verdict, admits, allClear, forwardIf_eq_leaves, List.filter_map,
          Function.comp_def, allTrue]
  | layered layer inner layerIh innerIh =>
      simp only [ids, List.nodup_append] at distinct
      have layerPart := layerIh distinct.1
        (fun f id member => verdicts f id (by simp [filters, member]))
        (fun id member notIn => nestedClear id (by simp [ids, member]) fun f inFilters => by
          simp only [filters, List.mem_append] at inFilters
          exact inFilters.elim (notIn f) fun inInner =>
            distinct.2.2 member (mem_ids_of_mem_filters inInner))
      have innerPart := innerIh distinct.2.1
        (fun f id member => verdicts f id (by simp [filters, member]))
        (fun id member notIn => nestedClear id (by simp [ids, member]) fun f inFilters => by
          simp only [filters, List.mem_append] at inFilters
          exact inFilters.elim (fun inLayer =>
            distinct.2.2 (mem_ids_of_mem_filters inLayer) member) (notIn f))
      simp [forwardIf, leaves, layerPart, innerPart]
  | optNone => simp [forwardIf, leaves]
  | optSome layer ih => exact ih distinct verdicts nestedClear path

end Layer

/-! ## Leaves are told apart by their paths -/

theorem Layer.leaves_suffix (layer : Layer M) (path : Path) :
    ∀ leaf ∈ layer.leaves path, ∃ pre, leaf.1 = pre ++ path := by
  induction layer generalizing path with
  | plain _ =>
      intro leaf member
      rw [Layer.leaves, List.mem_singleton] at member
      exact ⟨[], by rw [member, List.nil_append]⟩
  | filtered _ _ layer ih =>
      simp only [Layer.leaves, List.mem_map]
      rintro _ ⟨leaf, member, rfl⟩
      exact ih path leaf member
  | layered layer inner layerIh innerIh =>
      simp only [Layer.leaves, List.mem_append]
      rintro leaf (inInner | inLayer)
      · obtain ⟨pre, same⟩ := innerIh _ leaf inInner
        exact ⟨pre ++ [.inner], by rw [same, List.append_assoc, List.singleton_append]⟩
      · obtain ⟨pre, same⟩ := layerIh _ leaf inLayer
        exact ⟨pre ++ [.layer], by rw [same, List.append_assoc, List.singleton_append]⟩
  | optNone => nofun
  | optSome layer ih => exact ih path

theorem Layer.leaves_nodup (layer : Layer M) (path : Path) :
    ((layer.leaves path).map Prod.fst).Nodup := by
  induction layer generalizing path with
  | plain _ => simp [Layer.leaves]
  | filtered _ _ layer ih => simpa [Layer.leaves, Function.comp_def] using ih path
  | layered layer inner layerIh innerIh =>
      simp only [Layer.leaves, List.map_append, List.nodup_append]
      refine ⟨innerIh _, layerIh _, fun p inInner inLayer => ?_⟩
      simp only [List.mem_map] at inInner inLayer
      obtain ⟨a, aMember, rfl⟩ := inInner
      obtain ⟨b, bMember, same⟩ := inLayer
      obtain ⟨pre, aPath⟩ := inner.leaves_suffix _ a aMember
      obtain ⟨pre', bPath⟩ := layer.leaves_suffix _ b bMember
      rw [aPath, bPath] at same
      simpa using (List.append_inj' same (by simp)).2
  | optNone => simp [Layer.leaves]
  | optSome layer ih => exact ih path

theorem selected_paths (leaves : List (Path × List (Filter M × FilterId)))
    (distinct : (leaves.map Prod.fst).Nodup) (select : Path × List (Filter M × FilterId) → Bool) :
    ((leaves.filter select).map Prod.fst).Nodup ∧
      ∀ leaf ∈ leaves, (leaf.1 ∈ (leaves.filter select).map Prod.fst ↔ select leaf = true) := by
  refine ⟨((List.filter_sublist _).map _).nodup distinct, fun leaf member => ⟨?_, fun selected => ?_⟩⟩
  · simp only [List.mem_map, List.mem_filter]
    rintro ⟨other, ⟨otherMember, otherSelected⟩, samePath⟩
    rwa [← List.inj_on_of_nodup_map distinct otherMember member samePath]
  · exact List.mem_map.mpr ⟨leaf, List.mem_filter.mpr ⟨member, selected⟩, rfl⟩

/-! ## One pass and its dispatch -/

/-- The code's delivery rule for a leaf whose enclosing `Filtered` nodes are
`enclosing`: every global plain layer enables the metadata, some id below 64 is
held by no top-level `Filtered` that rejects it, and the outermost `Filtered`
around the leaf admits it. -/
def Subscriber.Delivers (metadata : M) (subscriber : Subscriber M)
    (enclosing : List (Filter M × FilterId)) : Prop :=
  (∀ layer ∈ subscriber.globals, layer.enabled metadata = true) ∧
  (∃ idx : UInt8, idx.toNat < 64 ∧
    ∀ filter, (filter, ⟨idx⟩) ∈ subscriber.filters → filter.enabled metadata = true) ∧
  ∀ outer ∈ enclosing.take 1, outer.1.enabled metadata = true

/-- Every bit below 64 that no top-level `Filtered` holds reads as enabled:
so it is in `FilterState::new()`, and in every thread state a run reaches. -/
def Subscriber.Clean (subscriber : Subscriber M) (map : FilterMap) : Prop :=
  ∀ idx : UInt8, idx.toNat < 64 → (∀ filter, (filter, ⟨idx⟩) ∉ subscriber.filters) →
    map.isEnabled ⟨idx⟩ = true

theorem Subscriber.clean_default (subscriber : Subscriber M) :
    subscriber.Clean FilterMap.default := fun idx bound _ =>
  (FilterMap.isEnabled_default ⟨idx⟩).trans (decide_eq_true bound)

section Pass

variable (subscriber : Subscriber M) (distinct : subscriber.ids.Nodup)
  (registered : ∀ id ∈ subscriber.ids, id.idx.toNat < 64) (metadata : M)
  (s : FilterState) (clean : subscriber.Clean s.enabled)

include distinct registered clean in
theorem Subscriber.pass_map (admitted : subscriber.globals.all (·.enabled metadata) = true) :
    let map := (subscriber.toLayer.enabled metadata s).2.enabled
    (∀ idx : UInt8, idx.toNat < 64 → (map.isEnabled ⟨idx⟩ = true ↔
      ∀ filter, (filter, ⟨idx⟩) ∈ subscriber.filters → filter.enabled metadata = true)) ∧
    subscriber.toLayer.forwardIf map.isEnabled [] =
      ((subscriber.leaves []).filter fun leaf =>
        (leaf.2.take 1).all (·.1.enabled metadata)).map Prod.fst := by
  intro map
  have verdicts : ∀ filter id, (filter, id) ∈ subscriber.toLayer.filters →
      map.isEnabled id = filter.enabled metadata := fun filter id member =>
    subscriber.toLayer.enabled_verdicts metadata distinct s admitted filter id member
      (registered id (Layer.mem_ids_of_mem_filters member))
  have untouched : ∀ idx : UInt8, idx.toNat < 64 →
      (∀ filter, (filter, ⟨idx⟩) ∉ subscriber.toLayer.filters) → map.isEnabled ⟨idx⟩ = true :=
    fun idx bound notIn => (Layer.enabled_frame _ _ _ _ notIn).trans (clean idx bound notIn)
  refine ⟨fun idx bound => ?_, ?_⟩
  · by_cases held : ∃ filter, (filter, ⟨idx⟩) ∈ subscriber.filters
    · obtain ⟨filter, member⟩ := held
      rw [verdicts filter _ member]
      refine ⟨fun admits other otherMember => ?_, fun all => all filter member⟩
      rwa [← verdicts other _ otherMember, verdicts filter _ member]
    · push_neg at held
      simp only [untouched idx bound held, true_iff]
      exact fun filter member => absurd member (held filter)
  · exact subscriber.toLayer.forwardIf_outermost metadata distinct map verdicts
      (fun id member notIn => untouched id.idx (registered id member) notIn) []

end Pass

theorem Subscriber.newSpan_spec (subscriber : Subscriber M) (distinct : subscriber.ids.Nodup)
    (path : Path) (reg : Registry) (s : FilterState) :
    (subscriber.newSpan path reg s).1 = reg.next ∧
    (subscriber.newSpan path reg s).2.1 = subscriber.toLayer.forwardIf s.enabled.isEnabled path ∧
    (subscriber.newSpan path reg s).2.2.1 = (reg.newSpan s).2.1 ∧
    (∀ id, id ∉ subscriber.ids →
      (subscriber.newSpan path reg s).2.2.2.enabled.isEnabled id = s.enabled.isEnabled id) ∧
    (subscriber.newSpan path reg s).2.2.2.interest = s.interest := by
  induction subscriber generalizing path s with
  | registry =>
      simp [Subscriber.newSpan, Subscriber.toLayer, Layer.forwardIf, Registry.newSpan,
        FilterState.filterMap]
  | layered layer inner ih =>
      simp only [Subscriber.ids, Subscriber.toLayer, Layer.ids, List.nodup_append] at distinct
      obtain ⟨innerId, innerReached, innerRegistry, innerFrame, innerInterest⟩ :=
        ih distinct.2.1 (.inner :: path) s
      obtain ⟨layerReached, layerFrame, layerInterest⟩ := layer.didEnableDispatch_spec distinct.1
        (.layer :: path) (inner.newSpan (.inner :: path) reg s).2.2.2
      have sameOnLayer := layer.forwardIf_congr
        (fun id member => innerFrame id fun innerMember => distinct.2.2 member innerMember)
        (.layer :: path)
      refine ⟨innerId, ?_, innerRegistry, fun id notIn => ?_, ?_⟩
      · simp only [Subscriber.newSpan, Layer.newSpan, Subscriber.toLayer, Layer.forwardIf,
          innerReached, layerReached, sameOnLayer]
      · simp only [Subscriber.ids, Subscriber.toLayer, Layer.ids, List.mem_append, not_or] at notIn
        simp only [Subscriber.newSpan, Layer.newSpan, layerFrame id notIn.1, innerFrame id notIn.2]
      · simp only [Subscriber.newSpan, Layer.newSpan, layerInterest, innerInterest]

section AfterPass

variable (subscriber : Subscriber M) (distinct : subscriber.ids.Nodup)
  (registered : ∀ id ∈ subscriber.ids, id.idx.toNat < 64) (metadata : M)
  (s : FilterState) (clean : subscriber.Clean s.enabled)

include distinct registered clean in
theorem Subscriber.enabled_after_pass :
    (subscriber.enabled metadata s).1 = true ↔
      (∀ layer ∈ subscriber.globals, layer.enabled metadata = true) ∧
      ∃ idx : UInt8, idx.toNat < 64 ∧
        ∀ filter, (filter, ⟨idx⟩) ∈ subscriber.filters → filter.enabled metadata = true := by
  have passEq := subscriber.enabled_toLayer metadata s
  have runFst : (subscriber.toLayer.enabled metadata s).1 =
      subscriber.globals.all (·.enabled metadata) :=
    subscriber.toLayer.enabled_fst metadata s
  by_cases admitted : subscriber.globals.all (·.enabled metadata) = true
  · have free := (subscriber.pass_map distinct registered metadata s clean admitted).1
    rw [passEq, runFst, if_pos admitted, FilterState.eventEnabled_fst, FilterMap.anyEnabled_iff]
    exact ⟨fun ⟨idx, bound, clear⟩ => ⟨List.all_eq_true.mp admitted, idx, bound,
        (free idx bound).mp clear⟩,
      fun ⟨_, idx, bound, all⟩ => ⟨idx, bound, (free idx bound).mpr all⟩⟩
  · rw [passEq, runFst, if_neg admitted]
    exact iff_of_false Bool.false_ne_true fun ⟨all, _⟩ => admitted (List.all_eq_true.mpr all)

include distinct registered clean in
theorem Subscriber.gate_after_pass (said : (subscriber.enabled metadata s).1 = true) :
    subscriber.toLayer.forwardIf (subscriber.enabled metadata s).2.enabled.isEnabled [] =
      ((subscriber.leaves []).filter fun leaf =>
        (leaf.2.take 1).all (·.1.enabled metadata)).map Prod.fst := by
  have admitted : subscriber.globals.all (·.enabled metadata) = true := List.all_eq_true.mpr
    ((subscriber.enabled_after_pass distinct registered metadata s clean).mp said).1
  have runFst : (subscriber.toLayer.enabled metadata s).1 = true :=
    (subscriber.toLayer.enabled_fst metadata s).trans admitted
  rw [subscriber.enabled_toLayer metadata s, if_pos runFst, FilterState.eventEnabled_enabled]
  exact (subscriber.pass_map distinct registered metadata s clean admitted).2

include distinct registered clean in
theorem Subscriber.dispatch_after_pass (reg : Registry)
    (said : (subscriber.enabled metadata s).1 = true) :
    (subscriber.event [] (subscriber.enabled metadata s).2).1 =
      ((subscriber.leaves []).filter fun leaf =>
        (leaf.2.take 1).all (·.1.enabled metadata)).map Prod.fst ∧
    (subscriber.newSpan [] reg (subscriber.enabled metadata s).2).2.1 =
      ((subscriber.leaves []).filter fun leaf =>
        (leaf.2.take 1).all (·.1.enabled metadata)).map Prod.fst := by
  rw [Subscriber.event_toLayer, (subscriber.toLayer.didEnableDispatch_spec distinct [] _).1,
    (subscriber.newSpan_spec distinct [] reg _).2.1,
    subscriber.gate_after_pass distinct registered metadata s clean said]
  exact ⟨rfl, rfl⟩

include distinct registered clean in
theorem Subscriber.delivery_after_pass (reg : Registry) :
    let pass := subscriber.enabled metadata s
    let reached : List Path × List Path := if pass.1 then
        ((subscriber.event [] pass.2).1, (subscriber.newSpan [] reg pass.2).2.1)
      else ([], [])
    reached.1.Nodup ∧ reached.2.Nodup ∧
    ∀ leaf ∈ subscriber.leaves [],
      (leaf.1 ∈ reached.1 ↔ subscriber.Delivers metadata leaf.2) ∧
      (leaf.1 ∈ reached.2 ↔ subscriber.Delivers metadata leaf.2) := by
  intro pass reached
  have passIff := subscriber.enabled_after_pass distinct registered metadata s clean
  by_cases said : pass.1 = true
  · have reachedEq : reached = (((subscriber.leaves []).filter
        fun leaf => (leaf.2.take 1).all (·.1.enabled metadata)).map Prod.fst,
        ((subscriber.leaves []).filter
        fun leaf => (leaf.2.take 1).all (·.1.enabled metadata)).map Prod.fst) := by
      obtain ⟨events, spans⟩ :=
        subscriber.dispatch_after_pass distinct registered metadata s clean reg said
      simp only [reached, said, if_true, events, spans]
    have paths := selected_paths (subscriber.leaves []) (Layer.leaves_nodup _ [])
      fun leaf => (leaf.2.take 1).all (·.1.enabled metadata)
    rw [reachedEq]
    refine ⟨paths.1, paths.1, fun leaf member => ?_⟩
    have delivers : subscriber.Delivers metadata leaf.2 ↔
        ((leaf.2.take 1).all (·.1.enabled metadata)) = true :=
      ⟨fun delivers => List.all_eq_true.mpr delivers.2.2,
        fun outer => ⟨(passIff.mp said).1, (passIff.mp said).2, List.all_eq_true.mp outer⟩⟩
    exact ⟨(paths.2 leaf member).trans delivers.symm, (paths.2 leaf member).trans delivers.symm⟩
  · have nothing : reached = ([], []) := by simp [reached, said]
    have notDelivers : ∀ enclosing, ¬ subscriber.Delivers metadata enclosing :=
      fun _ delivers => said (passIff.mpr ⟨delivers.1, delivers.2.1⟩)
    rw [nothing]
    exact ⟨List.nodup_nil, List.nodup_nil, fun leaf _ =>
      ⟨iff_of_false (List.not_mem_nil _) (notDelivers _),
        iff_of_false (List.not_mem_nil _) (notDelivers _)⟩⟩

end AfterPass

/-- A span or event of `metadata` filtered from the empty state and dispatched
when the pass said yes: the leaves `on_event` reaches, and those `new_span`
reaches. -/
def Subscriber.dispatchIfEnabled (subscriber : Subscriber M) (metadata : M) (reg : Registry) :
    List Path × List Path :=
  let pass := subscriber.enabled metadata FilterState.new
  if pass.1 then ((subscriber.event [] pass.2).1, (subscriber.newSpan [] reg pass.2).2.1)
  else ([], [])

/-- With one filter registered, a span or event it rejects still passes
`Subscriber::enabled`. -/
theorem rejecting_filter_still_enabled :
    let rejectAll : Filter Unit := { enabled := fun _ => false }
    let leaf : Plain Unit := { enabled := fun _ => true, registerCallsite := fun _ => .always }
    let subscriber : Subscriber Unit := .layered (.filtered rejectAll ⟨0⟩ (.plain leaf)) .registry
    (subscriber.filters.all fun filter => !filter.1.enabled ()) = true ∧
      (subscriber.enabled () FilterState.new).1 = true := by
  decide

theorem exists_lt_not_mem (taken : List Nat) (few : taken.length < 64) : ∃ n < 64, n ∉ taken := by
  by_contra full
  push_neg at full
  have covered := (List.subperm_of_subset (List.nodup_range 64) fun n member =>
    full n (List.mem_range.mp member)).length_le
  rw [List.length_range] at covered
  omega

theorem Subscriber.free_idx_of_few (subscriber : Subscriber M)
    (few : subscriber.filters.length < 64) :
    ∃ idx : UInt8, idx.toNat < 64 ∧ ∀ filter, (filter, ⟨idx⟩) ∉ subscriber.filters := by
  obtain ⟨n, bound, free⟩ := exists_lt_not_mem (subscriber.filters.map (·.2.idx.toNat))
    (by rw [List.length_map]; exact few)
  have small : (UInt8.ofNat n).toNat = n := UInt8.toNat_ofNat_of_lt (Nat.lt_trans bound (by decide))
  exact ⟨UInt8.ofNat n, by rw [small]; exact bound, fun filter held =>
    free (List.mem_map.mpr ⟨_, held, small⟩)⟩

/-- With fewer than 64 top-level `Filtered` nodes the filters never stop a span
or event: from the empty state `Subscriber::enabled` says yes whenever every
global plain layer does, whatever each filter answers. -/
theorem enabled_of_few_filters (subscriber : Subscriber M) (distinct : subscriber.ids.Nodup)
    (registered : ∀ id ∈ subscriber.ids, id.idx.toNat < 64) (metadata : M)
    (few : subscriber.filters.length < 64)
    (globalsAdmit : ∀ layer ∈ subscriber.globals, layer.enabled metadata = true) :
    (subscriber.enabled metadata FilterState.new).1 = true := by
  obtain ⟨idx, bound, free⟩ := subscriber.free_idx_of_few few
  exact (subscriber.enabled_after_pass distinct registered metadata FilterState.new
    subscriber.clean_default).mpr
    ⟨globalsAdmit, idx, bound, fun filter held => absurd held (free filter)⟩

theorem enabled_of_few_filters_rejecting :
    let rejectAll : Filter Unit := { enabled := fun _ => false }
    let leaf : Plain Unit := { enabled := fun _ => true, registerCallsite := fun _ => .always }
    let subscriber : Subscriber Unit :=
      .layered (.filtered rejectAll ⟨0⟩ (.plain leaf)) (.layered (.plain leaf) .registry)
    subscriber.ids.Nodup ∧ (∀ id ∈ subscriber.ids, id.idx.toNat < 64) ∧
      subscriber.filters.length < 64 ∧ (∀ layer ∈ subscriber.globals, layer.enabled () = true) ∧
      (subscriber.enabled () FilterState.new).1 = true := by
  intro rejectAll leaf subscriber
  exact ⟨by decide, by decide, by decide, by decide,
    enabled_of_few_filters subscriber (by decide) (by decide) () (by decide) (by decide)⟩

end TracingSubscriber
