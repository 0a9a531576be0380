import TracingSubscriber.Delivery

/-! # Registering per-layer filters

`Filtered::on_register` takes an id from `register_filter` and passes
`on_register` on to its layer; the layer-level `Layered` and `Option` pass on
`on_layer` only.  The `Layer` trait's defaults for the two hooks are not in
this source: `HookDefaults` lists every choice that terminates, and
`Layer.hook` runs either hook under any of them.  `hook_allocates_fresh_ids`:
the `Filtered` nodes the hooks reach get the next ids in tree order.
`nested_filter_never_registered`: a `Filtered` inside a layer-level `Layered`
inside another `Filtered` keeps the id 255.  `hooks_fail_only_out_of_ids`: the
hooks panic only when the registry runs out of ids. -/
set_option autoImplicit false

namespace TracingSubscriber

inductive Hook
  | onLayer | onRegister
  deriving DecidableEq, Repr

/-- What the trait's default of each hook does: nothing, or call the other
hook on the same layer.  Defaults that call each other would not return. -/
inductive HookDefaults
  | noop | onLayerCallsOnRegister | onRegisterCallsOnLayer
  deriving DecidableEq, Repr

/-- Whether running `hook` on a layer runs its own implementation of `impl`:
directly, or through the default of `hook`. -/
def HookDefaults.reaches (defaults : HookDefaults) (hook impl : Hook) : Bool :=
  hook == impl ||
    match defaults, hook, impl with
    | .onLayerCallsOnRegister, .onLayer, .onRegister => true
    | .onRegisterCallsOnLayer, .onRegister, .onLayer => true
    | _, _, _ => false

/-- Modelled from the spec: the registry's `register_filter` is `FilterId::new`
of the next id, which is then incremented. -/
def Registry.registerFilter (nextFilterId : UInt8) : Except String (FilterId × UInt8) := do
  let id ← FilterId.new nextFilterId
  pure (id, nextFilterId + 1)

variable {M : Type}

/-- `hook` run on a layer tree attached to the registry whose next filter id is
`next`.  A plain layer registers nothing under either hook. -/
def Layer.hook (defaults : HookDefaults) :
    Hook → Layer M → UInt8 → Except String (Layer M × UInt8)
  | _, .plain layer, next => pure (.plain layer, next)
  | hook, .filtered filter id layer, next =>
      if defaults.reaches hook .onRegister then do
        let registered ← Registry.registerFilter next
        let run ← layer.hook defaults .onRegister registered.2
        pure (.filtered filter registered.1 run.1, run.2)
      else pure (.filtered filter id layer, next)
  | hook, .layered layer inner, next =>
      if defaults.reaches hook .onLayer then do
        let layerRun ← layer.hook defaults .onLayer next
        let innerRun ← inner.hook defaults .onLayer layerRun.2
        pure (.layered layerRun.1 innerRun.1, innerRun.2)
      else pure (.layered layer inner, next)
  | _, .optNone, next => pure (.optNone, next)
  | hook, .optSome layer, next =>
      if defaults.reaches hook .onLayer then do
        let run ← layer.hook defaults .onLayer next
        pure (.optSome run.1, run.2)
      else pure (.optSome layer, next)

/-! ## Dense allocation -/

theorem Except.ok_of_bind {ε α β : Type} {x : Except ε α} {f : α → Except ε β} {b : β}
    (ok : (x >>= f) = .ok b) : ∃ a, x = .ok a ∧ f a = .ok b := by
  cases x with
  | error _ => cases ok
  | ok a => exact ⟨a, rfl, ok⟩

theorem Except.error_of_bind {ε α β : Type} {x : Except ε α} {f : α → Except ε β} {e : ε}
    (failed : (x >>= f) = .error e) : x = .error e ∨ ∃ a, x = .ok a ∧ f a = .error e := by
  cases x with
  | error _ =>
      cases failed
      exact .inl rfl
  | ok a => exact .inr ⟨a, rfl, failed⟩

theorem Registry.registerFilter_ok {next : UInt8} {result : FilterId × UInt8}
    (ok : Registry.registerFilter next = .ok result) :
    next.toNat < 64 ∧ result = (⟨next⟩, next + 1) ∧ (next + 1).toNat = next.toNat + 1 := by
  unfold Registry.registerFilter FilterId.new at ok
  split at ok
  · rename_i below
    have bound : next.toNat < 64 := by simpa [UInt8.lt_def, BitVec.lt_def] using below
    have one : (1 : UInt8).toBitVec.toNat = 1 := rfl
    refine ⟨bound, (Except.ok.inj ok).symm, ?_⟩
    simp only [UInt8.toNat, UInt8.add_def, BitVec.toNat_add, one] at bound ⊢
    omega
  · cases ok

theorem Registry.registerFilter_error {next : UInt8} {message : String}
    (failed : Registry.registerFilter next = .error message) :
    message = "filter IDs may not be greater than 64" := by
  unfold Registry.registerFilter FilterId.new at failed
  split at failed
  · cases failed
  · exact (Except.error.inj failed).symm

theorem Registry.registerFilter_of_lt {next : UInt8} (bound : next.toNat < 64) :
    Registry.registerFilter next = .ok (⟨next⟩, next + 1) := by
  have below : next < 64 := by simpa [UInt8.lt_def, BitVec.lt_def] using bound
  simp [Registry.registerFilter, FilterId.new, below]

theorem unregistered_filter_eq_nil {ids : List FilterId}
    (fresh : ∀ id ∈ ids, id = FilterId.unregistered) :
    ids.filter (· != FilterId.unregistered) = [] :=
  List.filter_eq_nil_iff.mpr fun id member => by simp [fresh id member]

/-- The ids of `layer` that are no longer unregistered are `next`, `next + 1`,
… below `next'`, in tree order, and `next'` is at most 64 once it has moved. -/
def Layer.Allocated (layer : Layer M) (next next' : UInt8) : Prop :=
  (layer.ids.filter (· != FilterId.unregistered)).map (·.idx.toNat) =
      List.range' next.toNat (next'.toNat - next.toNat) ∧
    next.toNat ≤ next'.toNat ∧ (next ≠ next' → next'.toNat ≤ 64)

namespace Layer.Allocated

theorem of_fresh {layer : Layer M} (fresh : ∀ id ∈ layer.ids, id = FilterId.unregistered)
    (next : UInt8) : layer.Allocated next next :=
  ⟨by simp [unregistered_filter_eq_nil fresh], le_rfl, fun moved => absurd rfl moved⟩

theorem filtered {layer : Layer M} {next next' : UInt8} (filter : Filter M)
    (below : next.toNat < 64) (succ : (next + 1).toNat = next.toNat + 1)
    (inner : layer.Allocated (next + 1) next') :
    (Layer.filtered filter ⟨next⟩ layer).Allocated next next' := by
  obtain ⟨innerIds, grows, innerBound⟩ := inner
  have named : (⟨next⟩ : FilterId) ≠ FilterId.unregistered := fun same => by
    have idx : next = 255 := congrArg FilterId.idx same
    subst idx
    exact absurd below (by decide)
  have count : next'.toNat - next.toNat = next'.toNat - (next.toNat + 1) + 1 := by omega
  refine ⟨?_, by omega, fun _ => ?_⟩
  · rw [Layer.ids, List.filter_cons_of_pos (by simpa using named), List.map_cons, innerIds,
      succ, count, List.range'_succ]
  · by_cases moved : next + 1 = next'
    · rw [← moved]
      omega
    · exact innerBound moved

theorem layered {layer inner : Layer M} {next middle next' : UInt8}
    (layerAlloc : layer.Allocated next middle) (innerAlloc : inner.Allocated middle next') :
    (Layer.layered layer inner).Allocated next next' := by
  obtain ⟨layerIds, layerGrows, layerBound⟩ := layerAlloc
  obtain ⟨innerIds, innerGrows, innerBound⟩ := innerAlloc
  refine ⟨?_, by omega, fun moved => ?_⟩
  · have start : middle.toNat = next.toNat + (middle.toNat - next.toNat) := by omega
    have total : next'.toNat - next.toNat =
        (next'.toNat - middle.toNat) + (middle.toNat - next.toNat) := by omega
    rw [Layer.ids, List.filter_append, List.map_append, layerIds, innerIds, total,
      ← List.range'_append_1, ← start]
  · by_cases innerMoved : middle = next'
    · rw [← innerMoved] at moved ⊢
      exact layerBound moved
    · exact innerBound innerMoved

end Layer.Allocated

theorem hook_allocates_densely (defaults : HookDefaults) (hook : Hook) (layer : Layer M)
    (fresh : ∀ id ∈ layer.ids, id = FilterId.unregistered) (next : UInt8)
    (attached : Layer M) (next' : UInt8)
    (run : layer.hook defaults hook next = .ok (attached, next')) :
    attached.Allocated next next' := by
  induction layer generalizing hook next attached next' with
  | plain _ =>
      cases run
      exact .of_fresh fresh next
  | filtered filter id layer ih =>
      simp only [Layer.hook] at run
      split at run
      · obtain ⟨registered, allocated, rest⟩ := Except.ok_of_bind run
        obtain ⟨below, rfl, succ⟩ := Registry.registerFilter_ok allocated
        obtain ⟨inner, innerRun, done⟩ := Except.ok_of_bind rest
        cases done
        exact .filtered filter below succ
          (ih _ (fun id member => fresh id (List.mem_cons_of_mem _ member)) _ _ _ innerRun)
      · cases run
        exact .of_fresh fresh next
  | layered layer inner layerIh innerIh =>
      simp only [Layer.hook] at run
      split at run
      · obtain ⟨layerRun, layerOk, rest⟩ := Except.ok_of_bind run
        obtain ⟨innerRun, innerOk, done⟩ := Except.ok_of_bind rest
        cases done
        exact .layered
          (layerIh _ (fun id member => fresh id (List.mem_append_left _ member)) _ _ _ layerOk)
          (innerIh _ (fun id member => fresh id (List.mem_append_right _ member)) _ _ _ innerOk)
      · cases run
        exact .of_fresh fresh next
  | optNone =>
      cases run
      exact .of_fresh fresh next
  | optSome layer ih =>
      simp only [Layer.hook] at run
      split at run
      · obtain ⟨layerRun, layerOk, done⟩ := Except.ok_of_bind run
        cases done
        exact ih _ fresh next layerRun.1 layerRun.2 layerOk
      · cases run
        exact .of_fresh fresh next

/-- Attaching a tree built by `Filtered::new` gives the `Filtered` nodes the
hooks reach the registry's next ids in tree order, so the ids they are left with
are distinct and below 64, as `FilterMap` needs them. -/
theorem hook_allocates_fresh_ids (defaults : HookDefaults) (hook : Hook) (layer : Layer M)
    (fresh : ∀ id ∈ layer.ids, id = FilterId.unregistered) (next : UInt8)
    (attached : Layer M) (next' : UInt8)
    (run : layer.hook defaults hook next = .ok (attached, next')) :
    (attached.ids.filter (· != FilterId.unregistered)).map (·.idx.toNat) =
      List.range' next.toNat (next'.toNat - next.toNat) ∧
    (attached.ids.filter (· != FilterId.unregistered)).Nodup ∧
      ∀ id ∈ attached.ids, id ≠ FilterId.unregistered → id.idx.toNat < 64 := by
  obtain ⟨dense, _, bound⟩ := hook_allocates_densely defaults hook layer fresh next attached next' run
  refine ⟨dense, List.Nodup.of_map _ (dense ▸ List.nodup_range' _ _), fun id member named => ?_⟩
  have allocated : id.idx.toNat ∈ List.range' next.toNat (next'.toNat - next.toNat) :=
    dense ▸ List.mem_map_of_mem _ (List.mem_filter.mpr ⟨member, by simpa using named⟩)
  rw [List.mem_range'_1] at allocated
  have moved : next ≠ next' := fun same => by rw [same] at allocated; omega
  have := bound moved
  omega

theorem hook_allocates_fresh_ids_side_by_side :
    let admitAll : Filter Unit := { enabled := fun _ => true }
    let leaf : Plain Unit := { enabled := fun _ => true, registerCallsite := fun _ => .always }
    let tree : Layer Unit :=
      .layered (Filtered.new (.plain leaf) admitAll) (Filtered.new (.plain leaf) admitAll)
    let attached : Layer Unit :=
      .layered (.filtered admitAll ⟨0⟩ (.plain leaf)) (.filtered admitAll ⟨1⟩ (.plain leaf))
    (∀ id ∈ tree.ids, id = FilterId.unregistered) ∧
      tree.hook .onLayerCallsOnRegister .onLayer 0 = .ok (attached, 2) ∧
      ((attached.ids.filter (· != FilterId.unregistered)).map (·.idx.toNat) =
        List.range' (0 : UInt8).toNat ((2 : UInt8).toNat - (0 : UInt8).toNat) ∧
      (attached.ids.filter (· != FilterId.unregistered)).Nodup ∧
        ∀ id ∈ attached.ids, id ≠ FilterId.unregistered → id.idx.toNat < 64) := by
  intro admitAll leaf tree attached
  exact ⟨by decide, rfl,
    hook_allocates_fresh_ids .onLayerCallsOnRegister .onLayer tree (by decide) 0 attached 2 rfl⟩

/-- A `Filtered` nested under a layer-level `Layered` in another `Filtered` is
never registered: `Filtered` passes on only `on_register`, which `Layered` does
not implement, so whichever hook attaches the tree and whatever the trait's
defaults do, the nested node keeps the unregistered id. -/
theorem nested_filter_never_registered :
    let admitAll : Filter Unit := { enabled := fun _ => true }
    let leaf : Plain Unit := { enabled := fun _ => true, registerCallsite := fun _ => .always }
    let tree : Layer Unit :=
      Filtered.new (.layered (Filtered.new (.plain leaf) admitAll) (.plain leaf)) admitAll
    ∀ (defaults : HookDefaults) (hook : Hook), ∃ attached : Layer Unit,
      (tree.hook defaults hook 0).map Prod.fst = .ok attached ∧
        attached.ids.getLast? = some FilterId.unregistered := by
  intro admitAll leaf tree defaults hook
  cases defaults <;> cases hook <;> exact ⟨_, rfl, rfl⟩

/-! ## Running out of ids -/

theorem Layer.hook_error (defaults : HookDefaults) (hook : Hook) (layer : Layer M) (next : UInt8)
    {message : String} (failed : layer.hook defaults hook next = .error message) :
    message = "filter IDs may not be greater than 64" := by
  induction layer generalizing hook next with
  | plain _ => cases failed
  | filtered filter id layer ih =>
      simp only [Layer.hook] at failed
      split at failed
      · rcases Except.error_of_bind failed with allocFailed | ⟨registered, _, rest⟩
        · exact Registry.registerFilter_error allocFailed
        · rcases Except.error_of_bind rest with innerFailed | ⟨_, _, done⟩
          · exact ih _ _ innerFailed
          · cases done
      · cases failed
  | layered layer inner layerIh innerIh =>
      simp only [Layer.hook] at failed
      split at failed
      · rcases Except.error_of_bind failed with layerFailed | ⟨layerRun, _, rest⟩
        · exact layerIh _ _ layerFailed
        · rcases Except.error_of_bind rest with innerFailed | ⟨_, _, done⟩
          · exact innerIh _ _ innerFailed
          · cases done
      · cases failed
  | optNone => cases failed
  | optSome layer ih =>
      simp only [Layer.hook] at failed
      split at failed
      · rcases Except.error_of_bind failed with layerFailed | ⟨_, _, done⟩
        · exact ih _ _ layerFailed
        · cases done
      · cases failed

theorem Layer.hook_ok_of_room (defaults : HookDefaults) (hook : Hook) (layer : Layer M)
    (next : UInt8) (room : next.toNat + layer.ids.length ≤ 64) :
    ∃ attached next', layer.hook defaults hook next = .ok (attached, next') ∧
      next'.toNat ≤ next.toNat + layer.ids.length := by
  induction layer generalizing hook next with
  | plain _ => exact ⟨_, _, rfl, Nat.le_add_right _ _⟩
  | filtered filter id layer ih =>
      simp only [Layer.ids, List.length_cons] at room ⊢
      simp only [Layer.hook]
      split
      · have allocated := Registry.registerFilter_of_lt (show next.toNat < 64 by omega)
        have succ := (Registry.registerFilter_ok allocated).2.2
        obtain ⟨attached, next', run, used⟩ := ih .onRegister (next + 1) (by omega)
        refine ⟨.filtered filter ⟨next⟩ attached, next', ?_, by omega⟩
        rw [allocated]
        simp only [bind, Except.bind, run]
        rfl
      · exact ⟨_, _, rfl, by omega⟩
  | layered layer inner layerIh innerIh =>
      simp only [Layer.ids, List.length_append] at room ⊢
      simp only [Layer.hook]
      split
      · obtain ⟨layerAttached, middle, layerRun, layerUsed⟩ := layerIh .onLayer next (by omega)
        obtain ⟨innerAttached, next', innerRun, innerUsed⟩ := innerIh .onLayer middle (by omega)
        refine ⟨.layered layerAttached innerAttached, next', ?_, by omega⟩
        simp only [bind, Except.bind, layerRun, innerRun]
        rfl
      · exact ⟨_, _, rfl, by omega⟩
  | optNone => exact ⟨_, _, rfl, Nat.le_add_right _ _⟩
  | optSome layer ih =>
      simp only [Layer.hook]
      split
      · obtain ⟨attached, next', run, used⟩ := ih .onLayer next room
        refine ⟨.optSome attached, next', ?_, used⟩
        simp only [bind, Except.bind, run]
        rfl
      · exact ⟨_, _, rfl, Nat.le_add_right _ _⟩

/-- Attaching a tree panics only through the assertion of `FilterId::new`,
"filter IDs may not be greater than 64", and never while the registry has an id
left for every `Filtered` node of the tree, whatever the hooks' defaults. -/
theorem hooks_fail_only_out_of_ids (defaults : HookDefaults) (hook : Hook) (layer : Layer M)
    (next : UInt8) :
    (next.toNat + layer.ids.length ≤ 64 →
      ∃ attached next', layer.hook defaults hook next = .ok (attached, next')) ∧
    ∀ message, layer.hook defaults hook next = .error message →
      message = "filter IDs may not be greater than 64" :=
  ⟨fun room => (layer.hook_ok_of_room defaults hook next room).imp
      fun _ ⟨next', run, _⟩ => ⟨next', run⟩,
    fun _ failed => layer.hook_error defaults hook next failed⟩

theorem hooks_fail_only_out_of_ids_from_63 :
    let admitAll : Plain Unit := { enabled := fun _ => true, registerCallsite := fun _ => .always }
    let twoFilters : Layer Unit :=
      .layered (.filtered { enabled := fun _ => true } FilterId.unregistered (.plain admitAll))
        (.filtered { enabled := fun _ => true } FilterId.unregistered (.plain admitAll))
    ((0 : UInt8).toNat + twoFilters.ids.length ≤ 64 ∧
      ∃ attached next', twoFilters.hook .onLayerCallsOnRegister .onLayer 0 = .ok (attached, next')) ∧
    ∃ message, twoFilters.hook .onLayerCallsOnRegister .onLayer 63 = .error message ∧
      message = "filter IDs may not be greater than 64" := by
  intro admitAll twoFilters
  exact ⟨⟨by decide,
      (hooks_fail_only_out_of_ids .onLayerCallsOnRegister .onLayer twoFilters 0).1 (by decide)⟩,
    _, rfl, (hooks_fail_only_out_of_ids .onLayerCallsOnRegister .onLayer twoFilters 63).2 _ rfl⟩

end TracingSubscriber
