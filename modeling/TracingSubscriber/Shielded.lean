import TracingSubscriber.Registration
import TracingSubscriber.Runs

/-! # Layers the attachment hooks leave unregistered

A `Filtered` node holding an id at or above 64, the unregistered 255 among
them, silences everything below it: `FilterMap::is_enabled` reads the id as
disabled, whatever the filter says.  `System.Audible` says that the log names
only leaves no such node encloses, and `System.audible_run` that every run
keeps it so.  The hooks leave such nodes behind (`Layer.hook_shielded`), so
`shielded_layers_receive_nothing`: once a tree built by `Filtered::new` is
attached, no layer below a `Filtered` reached only through a layer-level
`Layered` or an `Option` receives any callback in any run. -/
set_option autoImplicit false

namespace TracingSubscriber

variable {M : Type}

/-! ## Audible leaves -/

/-- The leaves whose enclosing `Filtered` nodes all hold an id below 64. -/
def Layer.audible (path : Path) (layer : Layer M) : List Path :=
  layer.forwardIf (fun id => decide (id.idx.toNat < 64)) path

theorem Layer.forwardIf_audible {enabledFor : FilterId → Bool}
    (below : ∀ id, enabledFor id = true → id.idx.toNat < 64) (layer : Layer M) (path : Path) :
    ∀ p ∈ layer.forwardIf enabledFor path, p ∈ layer.audible path := by
  rw [Layer.audible, Layer.forwardIf_eq_leaves, Layer.forwardIf_eq_leaves]
  simp only [List.mem_map, List.mem_filter, List.all_eq_true]
  rintro p ⟨leaf, ⟨member, open_⟩, rfl⟩
  exact ⟨leaf, ⟨member, fun enclosing inLeaf => decide_eq_true (below _ (open_ enclosing inLeaf))⟩,
    rfl⟩

theorem Context.isEnabledFor_below {spans : Spans} {span : SpanId} {id : FilterId}
    (open_ : Context.isEnabledFor spans span id = true) : id.idx.toNat < 64 := by
  unfold Context.isEnabledFor at open_
  split at open_
  · by_contra big
    rw [FilterMap.isEnabled_of_ge _ _ (by omega)] at open_
    cases open_
  · cases open_

theorem Layer.didEnableDispatch_audible (layer : Layer M) (path : Path) (s : FilterState) :
    ∀ p ∈ (layer.didEnableDispatch path s).1, p ∈ layer.audible path := by
  induction layer generalizing path s with
  | plain _ => exact fun p member => member
  | filtered filter id layer ih =>
      intro p member
      rw [Layer.didEnableDispatch, (s.didEnable_cases id _).1] at member
      split at member
      · rename_i open_
        have below : id.idx.toNat < 64 := by
          by_contra big
          rw [FilterMap.isEnabled_of_ge _ _ (by omega)] at open_
          cases open_
        simpa [Layer.audible, Layer.forwardIf, below] using ih path s p member
      · cases member
  | layered layer inner layerIh innerIh =>
      intro p member
      simp only [Layer.didEnableDispatch, List.mem_append] at member
      simp only [Layer.audible, Layer.forwardIf, List.mem_append]
      exact member.imp (innerIh _ s p) (layerIh _ _ p)
  | optNone => nofun
  | optSome layer ih => exact ih path s

/-- The leaf at `p` is below a `Filtered` node that holds the unregistered id. -/
def Layer.BelowUnregistered (layer : Layer M) (path p : Path) : Prop :=
  ∃ leaf ∈ layer.leaves path, leaf.1 = p ∧
    ∃ enclosing ∈ leaf.2, enclosing.2 = FilterId.unregistered

theorem Layer.not_audible {layer : Layer M} {path p : Path}
    (below : layer.BelowUnregistered path p) : p ∉ layer.audible path := by
  obtain ⟨leaf, member, rfl, enclosing, inLeaf, unregistered⟩ := below
  rw [Layer.audible, Layer.forwardIf_eq_leaves,
    (selected_paths _ (layer.leaves_nodup path) _).2 leaf member, List.all_eq_true]
  intro allBelow
  have bound := allBelow enclosing inLeaf
  rw [unregistered] at bound
  exact absurd bound (by decide)

namespace Layer.BelowUnregistered

variable {path p : Path}

theorem filtered {layer : Layer M} (below : layer.BelowUnregistered path p) (filter : Filter M)
    (id : FilterId) : (Layer.filtered filter id layer).BelowUnregistered path p := by
  obtain ⟨leaf, member, rfl, enclosing, inLeaf, unregistered⟩ := below
  exact ⟨(leaf.1, (filter, id) :: leaf.2), List.mem_map_of_mem _ member, rfl, enclosing,
    List.mem_cons_of_mem _ inLeaf, unregistered⟩

theorem inner {inner : Layer M} (below : inner.BelowUnregistered (.inner :: path) p)
    (layer : Layer M) : (Layer.layered layer inner).BelowUnregistered path p := by
  obtain ⟨leaf, member, found⟩ := below
  exact ⟨leaf, List.mem_append_left _ member, found⟩

theorem layer {layer : Layer M} (below : layer.BelowUnregistered (.layer :: path) p)
    (inner : Layer M) : (Layer.layered layer inner).BelowUnregistered path p := by
  obtain ⟨leaf, member, found⟩ := below
  exact ⟨leaf, List.mem_append_right _ member, found⟩

end Layer.BelowUnregistered

/-! ## The log names audible leaves only -/

namespace System

variable (subscriber : Subscriber M)

def Audible (σ : System) : Prop :=
  ∀ callback, ∀ p ∈ σ.received callback, p ∈ subscriber.toLayer.audible []

variable {subscriber}

theorem Audible.deliver {σ : System} (audible : σ.Audible subscriber) (callback : Callback)
    {paths : List Path} (reached : ∀ p ∈ paths, p ∈ subscriber.toLayer.audible []) :
    (σ.deliver callback paths).Audible subscriber := by
  intro other p member
  rw [received_deliver, List.mem_append] at member
  rcases member with logged | new
  · exact audible other p logged
  · split at new
    · exact reached p new
    · cases new

theorem Audible.forward {σ : System} (audible : σ.Audible subscriber) (callback : Callback)
    {enabledFor : FilterId → Bool} (below : ∀ id, enabledFor id = true → id.idx.toNat < 64) :
    (σ.deliver callback (subscriber.forwardIf enabledFor [])).Audible subscriber :=
  audible.deliver callback fun p member => subscriber.toLayer.forwardIf_audible below []
    p (subscriber.forwardIf_toLayer enabledFor [] ▸ member)

theorem Audible.dispatchEvent {σ : System} (audible : σ.Audible subscriber) (thread : ThreadId)
    (s : FilterState) : (σ.dispatchEvent subscriber thread s).Audible subscriber :=
  Audible.deliver (σ := σ.setThread thread _) audible _ fun p member => by
    rw [Subscriber.event_toLayer] at member
    exact subscriber.toLayer.didEnableDispatch_audible [] _ p member

theorem Audible.dispatchNewSpan {σ : System} (audible : σ.Audible subscriber)
    (thread : ThreadId) (s : FilterState) :
    (σ.dispatchNewSpan subscriber thread s).Audible subscriber :=
  Audible.deliver (σ := (σ.setThread thread _).setRegistry _) audible _ fun p member => by
    rw [Subscriber.newSpan_paths] at member
    exact subscriber.toLayer.didEnableDispatch_audible [] _ p member

theorem Audible.step {σ σ' : System} (audible : σ.Audible subscriber) {op : Op M}
    (stepped : σ.step subscriber op = some σ') : σ'.Audible subscriber := by
  cases op with
  | registerCallsite thread _ | enabled thread _ =>
      cases stepped
      exact audible
  | event thread metadata =>
      simp only [System.step] at stepped
      split at stepped <;> cases stepped
      · exact audible.dispatchEvent thread _
      · exact audible
  | newSpan thread metadata =>
      simp only [System.step] at stepped
      split at stepped <;> cases stepped
      · exact audible.dispatchNewSpan thread _
      · exact audible
  | cachedEvent thread _ =>
      cases stepped
      exact audible.dispatchEvent thread _
  | cachedNewSpan thread _ =>
      cases stepped
      exact audible.dispatchNewSpan thread _
  | record span | enter span | exit span =>
      simp only [System.step] at stepped
      split at stepped <;> cases stepped
      exact audible.forward _ fun _ => Context.isEnabledFor_below
  | followsFrom span follows =>
      simp only [System.step] at stepped
      split at stepped <;> cases stepped
      exact audible.forward _ fun _ open_ =>
        Context.isEnabledFor_below (Bool.and_eq_true_iff.mp open_).1
  | cloneSpan span =>
      simp only [System.step] at stepped
      split at stepped <;> cases stepped
      exact audible.deliver _ fun p member => by
        rw [Subscriber.cloneSpan_eq] at member
        cases member
  | close span closing =>
      simp only [System.step] at stepped
      split at stepped <;> cases stepped
      have delivered : (σ.deliver (.onClose span)
          (subscriber.tryClose σ.registry.spans span closing []).2).Audible subscriber := by
        rw [Subscriber.tryClose_eq]
        cases closing
        · exact audible.deliver _ nofun
        · exact audible.forward _ fun _ => Context.isEnabledFor_below
      split <;> exact delivered

theorem audible_run (ops : List (Op M)) :
    ∀ σ σ' : System, σ.Audible subscriber → σ.run subscriber ops = some σ' →
      σ'.Audible subscriber := by
  induction ops with
  | nil =>
      intro σ σ' audible reached
      cases reached
      exact audible
  | cons op rest ih =>
      intro σ σ' audible reached
      obtain ⟨next, stepped, rest⟩ := Option.bind_eq_some.mp reached
      exact ih next σ' (audible.step stepped) rest

theorem audible_initial : initial.Audible subscriber := nofun

end System

/-! ## Nodes the hooks do not reach -/

/-- The leaves below a `Filtered` node that an enclosing `Filtered` reaches only
through a layer-level `Layered` or an `Option`; `inside` says that the tree is
a `Filtered`'s layer. -/
def Layer.shielded (inside : Bool) (path : Path) : Layer M → List Path
  | .plain _ => []
  | .filtered _ _ layer => layer.shielded true path
  | .layered layer inner =>
      if inside then (((Layer.layered layer inner).leaves path).filter (!·.2.isEmpty)).map Prod.fst
      else inner.shielded false (.inner :: path) ++ layer.shielded false (.layer :: path)
  | .optNone => []
  | .optSome layer =>
      if inside then ((layer.leaves path).filter (!·.2.isEmpty)).map Prod.fst
      else layer.shielded false path

theorem Layer.enclosing_mem_ids (layer : Layer M) (path : Path) :
    ∀ leaf ∈ layer.leaves path, ∀ enclosing ∈ leaf.2, enclosing.2 ∈ layer.ids := by
  induction layer generalizing path with
  | plain _ =>
      intro leaf member
      rw [Layer.leaves, List.mem_singleton] at member
      rw [member]
      nofun
  | filtered filter id layer ih =>
      simp only [Layer.leaves, List.mem_map]
      rintro _ ⟨leaf, member, rfl⟩ enclosing inLeaf
      rcases List.mem_cons.mp inLeaf with rfl | inner
      · exact List.mem_cons_self _ _
      · exact List.mem_cons_of_mem _ (ih path leaf member enclosing inner)
  | layered layer inner layerIh innerIh =>
      simp only [Layer.leaves, Layer.ids, List.mem_append]
      rintro leaf (inInner | inLayer) enclosing inLeaf
      · exact .inr (innerIh _ leaf inInner enclosing inLeaf)
      · exact .inl (layerIh _ leaf inLayer enclosing inLeaf)
  | optNone => nofun
  | optSome layer ih => exact ih path

theorem Layer.belowUnregistered_of_fresh (layer : Layer M)
    (fresh : ∀ id ∈ layer.ids, id = FilterId.unregistered) (path : Path) :
    ∀ p ∈ ((layer.leaves path).filter (!·.2.isEmpty)).map Prod.fst,
      layer.BelowUnregistered path p := by
  simp only [List.mem_map, List.mem_filter, Bool.not_eq_true']
  rintro p ⟨leaf, ⟨member, enclosed⟩, rfl⟩
  obtain ⟨enclosing, inLeaf⟩ := List.exists_mem_of_ne_nil _ (List.isEmpty_eq_false.mp enclosed)
  exact ⟨leaf, member, rfl, enclosing, inLeaf,
    fresh _ (layer.enclosing_mem_ids path leaf member enclosing inLeaf)⟩

theorem Layer.shielded_of_fresh {layer : Layer M}
    (fresh : ∀ id ∈ layer.ids, id = FilterId.unregistered) (inside : Bool) (path : Path) :
    ∀ p ∈ layer.shielded inside path, layer.BelowUnregistered path p := by
  induction layer generalizing inside path with
  | plain _ => nofun
  | filtered filter id layer ih =>
      exact fun p member => (ih (fun id' member' => fresh id' (List.mem_cons_of_mem _ member'))
        true path p member).filtered filter id
  | layered layer inner layerIh innerIh =>
      cases inside with
      | true => exact Layer.belowUnregistered_of_fresh _ fresh path
      | false =>
          simp only [Layer.shielded, Bool.false_eq_true, if_false, List.mem_append]
          rintro p (inInner | inLayer)
          · exact (innerIh (fun id member => fresh id (List.mem_append_right _ member)) false _ p
              inInner).inner layer
          · exact (layerIh (fun id member => fresh id (List.mem_append_left _ member)) false _ p
              inLayer).layer inner
  | optNone => nofun
  | optSome layer ih =>
      cases inside with
      | true => exact Layer.belowUnregistered_of_fresh layer fresh path
      | false => exact ih fresh false path

theorem Layer.hook_onLayer_of_not_reaches {defaults : HookDefaults}
    (noCall : defaults.reaches .onLayer .onRegister = false) (layer : Layer M) (next : UInt8) :
    layer.hook defaults .onLayer next = .ok (layer, next) := by
  have self : defaults.reaches .onLayer .onLayer = true := by simp [HookDefaults.reaches]
  induction layer generalizing next with
  | plain _ => rfl
  | filtered filter id layer _ =>
      simp only [Layer.hook, noCall, Bool.false_eq_true, if_false]
      rfl
  | layered layer inner layerIh innerIh =>
      simp only [Layer.hook, self, if_true, layerIh, innerIh]
      rfl
  | optNone => rfl
  | optSome layer ih =>
      simp only [Layer.hook, self, if_true, ih]
      rfl

theorem Layer.hook_onRegister_of_not_filtered (defaults : HookDefaults) (layer : Layer M)
    (notFiltered : ∀ filter id inner, layer ≠ .filtered filter id inner) (next : UInt8) :
    layer.hook defaults .onRegister next = .ok (layer, next) := by
  have passedOn : defaults.reaches .onRegister .onLayer = true →
      defaults.reaches .onLayer .onRegister = false := by
    cases defaults <;> decide
  cases layer with
  | plain _ | optNone => rfl
  | filtered filter id inner => exact absurd rfl (notFiltered filter id inner)
  | layered layer inner =>
      simp only [Layer.hook]
      split
      · rename_i passes
        simp only [Layer.hook_onLayer_of_not_reaches (passedOn passes), bind, Except.bind]
        rfl
      · rfl
  | optSome layer =>
      simp only [Layer.hook]
      split
      · rename_i passes
        rw [Layer.hook_onLayer_of_not_reaches (passedOn passes) layer]
        rfl
      · rfl

theorem Layer.hook_shielded (defaults : HookDefaults) (layer : Layer M)
    (fresh : ∀ id ∈ layer.ids, id = FilterId.unregistered) (inside : Bool) (hook : Hook)
    (passed : inside = true → hook = .onRegister) (next : UInt8) (attached : Layer M)
    (next' : UInt8) (run : layer.hook defaults hook next = .ok (attached, next')) (path : Path) :
    ∀ p ∈ attached.shielded inside path, attached.BelowUnregistered path p := by
  induction layer generalizing inside hook next attached next' path with
  | plain _ =>
      cases run
      nofun
  | filtered filter id layer ih =>
      simp only [Layer.hook] at run
      split at run
      · obtain ⟨registered, -, rest⟩ := Except.ok_of_bind run
        obtain ⟨innerRun, innerOk, done⟩ := Except.ok_of_bind rest
        cases done
        exact fun p member =>
          (ih (fun id' member' => fresh id' (List.mem_cons_of_mem _ member')) true .onRegister
            (fun _ => rfl) _ _ _ innerOk path p member).filtered filter registered.1
      · cases run
        exact Layer.shielded_of_fresh fresh inside path
  | layered layer inner layerIh innerIh =>
      cases inside with
      | true =>
          rw [passed rfl,
            Layer.hook_onRegister_of_not_filtered defaults (.layered layer inner) fun _ _ _ => nofun] at run
          cases run
          exact Layer.shielded_of_fresh fresh true path
      | false =>
          simp only [Layer.hook] at run
          split at run
          · obtain ⟨layerRun, layerOk, rest⟩ := Except.ok_of_bind run
            obtain ⟨innerRun, innerOk, done⟩ := Except.ok_of_bind rest
            cases done
            simp only [Layer.shielded, Bool.false_eq_true, if_false, List.mem_append]
            rintro p (inInner | inLayer)
            · exact (innerIh (fun id member => fresh id (List.mem_append_right _ member)) false
                .onLayer (by nofun) _ _ _ innerOk _ p inInner).inner _
            · exact (layerIh (fun id member => fresh id (List.mem_append_left _ member)) false
                .onLayer (by nofun) _ _ _ layerOk _ p inLayer).layer _
          · cases run
            exact Layer.shielded_of_fresh fresh false path
  | optNone =>
      cases run
      nofun
  | optSome layer ih =>
      cases inside with
      | true =>
          rw [passed rfl,
            Layer.hook_onRegister_of_not_filtered defaults (.optSome layer) fun _ _ _ => nofun] at run
          cases run
          exact Layer.shielded_of_fresh fresh true path
      | false =>
          simp only [Layer.hook] at run
          split at run
          · obtain ⟨layerRun, layerOk, done⟩ := Except.ok_of_bind run
            cases done
            exact ih fresh false .onLayer (by nofun) _ _ _ layerOk path
          · cases run
            exact Layer.shielded_of_fresh fresh false path

/-- Attach a tree built by `Filtered::new` through either hook, under any
defaults, as the outer layer of any subscriber: in every run, no leaf below a
`Filtered` that another `Filtered` reaches only through a layer-level `Layered`
or an `Option` receives any callback. -/
theorem shielded_layers_receive_nothing (defaults : HookDefaults) (hook : Hook) (layer : Layer M)
    (fresh : ∀ id ∈ layer.ids, id = FilterId.unregistered) (next : UInt8) (attached : Layer M)
    (next' : UInt8) (run : layer.hook defaults hook next = .ok (attached, next'))
    (inner : Subscriber M) (ops : List (Op M)) (σ : System)
    (reached : System.initial.run (.layered attached inner) ops = some σ) :
    ∀ p ∈ attached.shielded false [.layer], ∀ callback, p ∉ σ.received callback := by
  intro p shielded callback delivered
  have below := Layer.hook_shielded defaults layer fresh false hook (by nofun) next attached next'
    run [.layer] p shielded
  exact Layer.not_audible (below.layer inner.toLayer)
    (System.audible_run ops _ σ System.audible_initial reached callback p delivered)

theorem shielded_layers_receive_nothing_nested :
    let admitAll : Filter Unit := { enabled := fun _ => true }
    let leaf : Plain Unit := { enabled := fun _ => true, registerCallsite := fun _ => .always }
    let tree : Layer Unit :=
      Filtered.new (.layered (Filtered.new (.plain leaf) admitAll) (.plain leaf)) admitAll
    let attached : Layer Unit :=
      .filtered admitAll ⟨0⟩ (.layered (.filtered admitAll FilterId.unregistered (.plain leaf))
        (.plain leaf))
    let ops : List (Op Unit) := [.event 0 (), .newSpan 0 (), .record 0]
    (∀ id ∈ tree.ids, id = FilterId.unregistered) ∧
      tree.hook .noop .onRegister 0 = .ok (attached, 1) ∧
      attached.shielded false [.layer] = [[.layer, .layer]] ∧
      ∃ σ, System.initial.run (.layered attached .registry) ops = some σ ∧
        σ.received .onEvent = [[.inner, .layer]] ∧ σ.received (.onRecord 0) = [[.inner, .layer]] ∧
        ∀ p ∈ attached.shielded false [.layer], ∀ callback, p ∉ σ.received callback := by
  intro admitAll leaf tree attached ops
  obtain ⟨σ, reached, event, record⟩ : ∃ σ, System.initial.run (.layered attached .registry) ops =
      some σ ∧ σ.received .onEvent = [[.inner, .layer]] ∧
        σ.received (.onRecord 0) = [[.inner, .layer]] := by
    dsimp only [admitAll, leaf, attached, ops]
    exact ⟨_, rfl, by decide, by decide⟩
  exact ⟨by decide, rfl, rfl, σ, reached, event, record,
    shielded_layers_receive_nothing .noop .onRegister tree (by decide) 0 attached 1 rfl .registry
      ops σ reached⟩

end TracingSubscriber
