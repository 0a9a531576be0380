import TracingSubscriber.Delivery

/-! # Runs of a subscriber shared by threads

One subscriber chain shared by any number of threads, each with its own
`FilterState`.  An operation is a callsite registration, a filter pass with or
without the dispatch it decides, the dispatch of a callsite cached `always`
with no pass, or a span callback; `delivered` logs every callback a leaf layer
receives.  `span_callbacks_consistent`: from every reachable state, a callback
on a live span reaches exactly the leaves that received its `new_span`, and
`on_follows_from` of a closed span only those outside every `Filtered`.
`nested_filter_not_consulted` and `short_circuit_leaves_interest`: a nested
`Filtered` is never asked, and a registration cut short leaves the interest
cell set; each then fails a debug assertion on the thread. -/
set_option autoImplicit false

namespace TracingSubscriber

inductive Callback
  | onEvent
  | newSpan (span : SpanId)
  | onRecord (span : SpanId)
  | onEnter (span : SpanId)
  | onExit (span : SpanId)
  | onClose (span : SpanId)
  | onIdChange (old : SpanId)
  | onFollowsFrom (span follows : SpanId)
  deriving DecidableEq, Repr

abbrev ThreadId := Nat

/-- The threads' `FILTERING` states, the registry, and every callback each leaf
received, in order. -/
structure System where
  threads : ThreadId → FilterState
  registry : Registry
  delivered : List (Callback × Path)

/-- What the threads ask of the subscriber.  Besides a pass followed by its
dispatch, a thread may run a pass whose answer is only read (`enabled!`, the
`log` bridge's `Log::enabled`), and a callsite cached `always` is dispatched
with no pass at all (`cachedEvent`, `cachedNewSpan`). -/
inductive Op (M : Type)
  | registerCallsite (thread : ThreadId) (metadata : M)
  | enabled (thread : ThreadId) (metadata : M)
  | event (thread : ThreadId) (metadata : M)
  | newSpan (thread : ThreadId) (metadata : M)
  | cachedEvent (thread : ThreadId) (metadata : M)
  | cachedNewSpan (thread : ThreadId) (metadata : M)
  | record (span : SpanId)
  | enter (span : SpanId)
  | exit (span : SpanId)
  | followsFrom (span follows : SpanId)
  | cloneSpan (span : SpanId)
  | close (span : SpanId) (closing : Bool)

def Registry.close (registry : Registry) (span : SpanId) : Registry :=
  { registry with spans := Function.update registry.spans span none }

@[simp] theorem Registry.newSpan_fst (registry : Registry) (s : FilterState) :
    (registry.newSpan s).1 = registry.next := rfl

@[simp] theorem Registry.newSpan_spans (registry : Registry) (s : FilterState) (span : SpanId) :
    (registry.newSpan s).2.1.spans span =
      if span = registry.next then some s.enabled else registry.spans span := rfl

@[simp] theorem Registry.newSpan_next (registry : Registry) (s : FilterState) :
    (registry.newSpan s).2.1.next = registry.next + 1 := rfl

@[simp] theorem Registry.close_spans (registry : Registry) (span other : SpanId) :
    (registry.close span).spans other = if other = span then none else registry.spans other := by
  simp [Registry.close, Function.update_apply]

@[simp] theorem Registry.close_next (registry : Registry) (span : SpanId) :
    (registry.close span).next = registry.next := rfl

/-- The leaves no `Filtered` encloses, in dispatch order: no gate keeps a
callback from them. -/
def Subscriber.unfilteredLeaves {M : Type} (subscriber : Subscriber M) : List Path :=
  ((subscriber.leaves []).filter (·.2.isEmpty)).map Prod.fst

theorem Subscriber.unfilteredLeaves_subset {M : Type} (subscriber : Subscriber M)
    (enabledFor : FilterId → Bool) :
    subscriber.unfilteredLeaves ⊆ subscriber.toLayer.forwardIf enabledFor [] := fun _ member => by
  obtain ⟨leaf, selected, rfl⟩ := List.mem_map.mp member
  obtain ⟨inLeaves, empty⟩ := List.mem_filter.mp selected
  rw [Layer.forwardIf_eq_leaves]
  refine List.mem_map_of_mem _ (List.mem_filter.mpr ⟨inLeaves, ?_⟩)
  rw [List.isEmpty_iff.mp empty]
  rfl

theorem Subscriber.forwardIf_closed {M : Type} (subscriber : Subscriber M) :
    subscriber.toLayer.forwardIf (fun _ => false) [] = subscriber.unfilteredLeaves := by
  rw [Layer.forwardIf_eq_leaves, Subscriber.unfilteredLeaves]
  congr 1
  refine List.filter_congr fun leaf _ => ?_
  rcases leaf with ⟨_, _ | _⟩ <;> rfl

namespace System

def initial : System := ⟨fun _ => FilterState.new, ⟨fun _ => none, 0⟩, []⟩

def live (σ : System) (span : SpanId) : Bool := (σ.registry.spans span).isSome

def received (σ : System) (callback : Callback) : List Path :=
  (σ.delivered.filter (·.1 == callback)).map Prod.snd

def deliver (σ : System) (callback : Callback) (paths : List Path) : System :=
  { σ with delivered := σ.delivered ++ paths.map (callback, ·) }

def setThread (σ : System) (thread : ThreadId) (s : FilterState) : System :=
  { σ with threads := Function.update σ.threads thread s }

def setRegistry (σ : System) (registry : Registry) : System := { σ with registry }

variable {M : Type} (subscriber : Subscriber M)

def dispatchEvent (σ : System) (thread : ThreadId) (s : FilterState) : System :=
  let run := subscriber.event [] s
  (σ.setThread thread run.2).deliver .onEvent run.1

/-- `Subscriber::new_span` on `thread`: the registry allocates the next id and
stores the thread's map. -/
def dispatchNewSpan (σ : System) (thread : ThreadId) (s : FilterState) : System :=
  let run := subscriber.newSpan [] σ.registry s
  ((σ.setThread thread run.2.2.2).setRegistry run.2.2.1).deliver (.newSpan run.1) run.2.1

/-- One operation.  A span callback on a span that is not live is not an
operation of any run; `record_follows_from` names a live span and one that was
created, live or closed since. -/
def step (σ : System) : Op M → Option System
  | .registerCallsite thread metadata =>
      some (σ.setThread thread (subscriber.registerCallsite metadata (σ.threads thread)).2)
  | .enabled thread metadata =>
      some (σ.setThread thread (subscriber.enabled metadata (σ.threads thread)).2)
  | .event thread metadata =>
      let pass := subscriber.enabled metadata (σ.threads thread)
      if pass.1 then some (σ.dispatchEvent subscriber thread pass.2)
      else some (σ.setThread thread pass.2)
  | .newSpan thread metadata =>
      let pass := subscriber.enabled metadata (σ.threads thread)
      if pass.1 then some (σ.dispatchNewSpan subscriber thread pass.2)
      else some (σ.setThread thread pass.2)
  | .cachedEvent thread _ => some (σ.dispatchEvent subscriber thread (σ.threads thread))
  | .cachedNewSpan thread _ => some (σ.dispatchNewSpan subscriber thread (σ.threads thread))
  | .record span =>
      if σ.live span then
        some (σ.deliver (.onRecord span) (subscriber.record σ.registry.spans span))
      else none
  | .enter span =>
      if σ.live span then
        some (σ.deliver (.onEnter span) (subscriber.enter σ.registry.spans span))
      else none
  | .exit span =>
      if σ.live span then
        some (σ.deliver (.onExit span) (subscriber.exit σ.registry.spans span))
      else none
  | .followsFrom span follows =>
      if σ.live span && decide (follows < σ.registry.next) then
        some (σ.deliver (.onFollowsFrom span follows)
          (subscriber.recordFollowsFrom σ.registry.spans span follows))
      else none
  | .cloneSpan span =>
      if σ.live span then
        some (σ.deliver (.onIdChange span) (subscriber.cloneSpan σ.registry.spans span []).2)
      else none
  | .close span closing =>
      if σ.live span then
        let run := subscriber.tryClose σ.registry.spans span closing []
        let closed := σ.deliver (.onClose span) run.2
        some (if run.1 then closed.setRegistry (closed.registry.close span) else closed)
      else none

def run (σ : System) : List (Op M) → Option System
  | [] => some σ
  | op :: rest => (σ.step subscriber op).bind fun next => next.run rest

/-! ## The log -/

theorem received_deliver (σ : System) (callback other : Callback) (paths : List Path) :
    (σ.deliver callback paths).received other =
      σ.received other ++ if callback = other then paths else [] := by
  by_cases same : callback = other
  · subst same
    simp [received, deliver, List.filter_map, Function.comp_def]
  · simp [received, deliver, List.filter_map, Function.comp_def, same]

@[simp] theorem setThread_registry (σ : System) (thread : ThreadId) (s : FilterState) :
    (σ.setThread thread s).registry = σ.registry := rfl

@[simp] theorem setThread_received (σ : System) (thread : ThreadId) (s : FilterState)
    (callback : Callback) : (σ.setThread thread s).received callback = σ.received callback := rfl

@[simp] theorem deliver_registry (σ : System) (callback : Callback) (paths : List Path) :
    (σ.deliver callback paths).registry = σ.registry := rfl

@[simp] theorem setRegistry_registry (σ : System) (registry : Registry) :
    (σ.setRegistry registry).registry = registry := rfl

@[simp] theorem setRegistry_received (σ : System) (registry : Registry) (callback : Callback) :
    (σ.setRegistry registry).received callback = σ.received callback := rfl

@[simp] theorem setThread_delivered (σ : System) (thread : ThreadId) (s : FilterState) :
    (σ.setThread thread s).delivered = σ.delivered := rfl

@[simp] theorem dispatchEvent_delivered (σ : System) (thread : ThreadId) (s : FilterState) :
    (σ.dispatchEvent subscriber thread s).delivered =
      σ.delivered ++ (subscriber.event [] s).1.map (.onEvent, ·) := rfl

@[simp] theorem dispatchNewSpan_delivered (σ : System) (thread : ThreadId) (s : FilterState) :
    (σ.dispatchNewSpan subscriber thread s).delivered = σ.delivered ++
      (subscriber.newSpan [] σ.registry s).2.1.map
        (.newSpan (subscriber.newSpan [] σ.registry s).1, ·) := rfl

@[simp] theorem dispatchNewSpan_registry (σ : System) (thread : ThreadId) (s : FilterState) :
    (σ.dispatchNewSpan subscriber thread s).registry = (subscriber.newSpan [] σ.registry s).2.2.1 :=
  rfl

/-! ## What the registry records of each span -/

/-- The registry's map for each live span gates as that span's `new_span` did,
no id at or past the registry's next one is in use, and every span created so
far reached every leaf no `Filtered` encloses. -/
structure Consistent (σ : System) : Prop where
  recipients : ∀ span map, σ.registry.spans span = some map →
    σ.received (.newSpan span) = subscriber.toLayer.forwardIf map.isEnabled []
  unusedSpan : ∀ span, σ.registry.next ≤ span → σ.registry.spans span = none
  unusedRecipients : ∀ span, σ.registry.next ≤ span → σ.received (.newSpan span) = []
  created : ∀ span, span < σ.registry.next →
    subscriber.unfilteredLeaves ⊆ σ.received (.newSpan span)

variable {subscriber}

theorem consistent_initial : Consistent subscriber initial :=
  ⟨fun _ _ found => (nomatch found), fun _ _ => rfl, fun _ _ => rfl,
    fun _ below => absurd below (Nat.not_lt_zero _)⟩

theorem Consistent.setThread {σ : System} (consistent : Consistent subscriber σ)
    (thread : ThreadId) (s : FilterState) : Consistent subscriber (σ.setThread thread s) :=
  ⟨consistent.recipients, consistent.unusedSpan, consistent.unusedRecipients, consistent.created⟩

theorem Consistent.deliver {σ : System} (consistent : Consistent subscriber σ)
    (callback : Callback) (notNew : ∀ span, callback ≠ .newSpan span) (paths : List Path) :
    Consistent subscriber (σ.deliver callback paths) := by
  have same : ∀ span, (σ.deliver callback paths).received (.newSpan span) =
      σ.received (.newSpan span) := fun span => by
    simp [received_deliver, notNew span]
  exact ⟨fun span map stored => (same span).trans (consistent.recipients span map stored),
    consistent.unusedSpan,
    fun span past => (same span).trans (consistent.unusedRecipients span past),
    fun span below => (same span).symm ▸ consistent.created span below⟩

theorem Consistent.dispatchEvent {σ : System} (consistent : Consistent subscriber σ)
    (thread : ThreadId) (s : FilterState) :
    Consistent subscriber (σ.dispatchEvent subscriber thread s) :=
  (consistent.setThread thread _).deliver .onEvent (fun _ => nofun) _

theorem Consistent.dispatchNewSpan {σ : System} (consistent : Consistent subscriber σ)
    (distinct : subscriber.ids.Nodup) (thread : ThreadId) (s : FilterState) :
    Consistent subscriber (σ.dispatchNewSpan subscriber thread s) := by
  obtain ⟨created, reached, stored, -, -⟩ := subscriber.newSpan_spec distinct [] σ.registry s
  unfold System.dispatchNewSpan
  generalize subscriber.newSpan [] σ.registry s = run at created reached stored ⊢
  have fresh := consistent.unusedRecipients σ.registry.next le_rfl
  refine ⟨fun span map found => ?_, fun span past => ?_, fun span past => ?_, fun span below => ?_⟩
  · simp only [deliver_registry, setRegistry_registry, stored, Registry.newSpan_spans] at found
    simp only [received_deliver, setRegistry_received, setThread_received, created, reached,
      Callback.newSpan.injEq]
    split at found
    · subst span
      cases found
      simp [fresh]
    · rename_i other
      simp [Ne.symm other, consistent.recipients span map found]
  · simp only [deliver_registry, setRegistry_registry, stored, Registry.newSpan_spans,
      Registry.newSpan_next] at past ⊢
    rw [if_neg (Nat.ne_of_gt past)]
    exact consistent.unusedSpan span (Nat.le_of_succ_le past)
  · simp only [deliver_registry, setRegistry_registry, stored, Registry.newSpan_next] at past
    rw [received_deliver, created,
      if_neg (fun same => by cases same; exact Nat.not_succ_le_self _ past)]
    simpa using consistent.unusedRecipients span (Nat.le_of_succ_le past)
  · simp only [deliver_registry, setRegistry_registry, stored, Registry.newSpan_next] at below
    simp only [received_deliver, setRegistry_received, setThread_received, created,
      Callback.newSpan.injEq]
    by_cases new : σ.registry.next = span
    · rw [if_pos new, reached]
      exact List.subset_append_of_subset_right _ (subscriber.unfilteredLeaves_subset _)
    · rw [if_neg new]
      exact List.subset_append_of_subset_left _
        (consistent.created span (Nat.lt_of_le_of_ne (Nat.le_of_lt_succ below) (Ne.symm new)))

theorem Consistent.close {σ : System} (consistent : Consistent subscriber σ) (span : SpanId) :
    Consistent subscriber (σ.setRegistry (σ.registry.close span)) := by
  refine ⟨fun other map found => ?_, fun other past => ?_, consistent.unusedRecipients,
    consistent.created⟩
  · simp only [setRegistry_registry, Registry.close_spans] at found
    split at found
    · cases found
    · exact consistent.recipients other map found
  · simp only [setRegistry_registry, Registry.close_spans, Registry.close_next] at past ⊢
    split
    · rfl
    · exact consistent.unusedSpan other past

theorem Consistent.step {σ σ' : System} (consistent : Consistent subscriber σ)
    (distinct : subscriber.ids.Nodup) {op : Op M} (stepped : σ.step subscriber op = some σ') :
    Consistent subscriber σ' := by
  cases op with
  | registerCallsite thread _ | enabled thread _ =>
      cases stepped
      exact consistent.setThread thread _
  | event thread metadata =>
      simp only [System.step] at stepped
      split at stepped <;> cases stepped
      · exact consistent.dispatchEvent thread _
      · exact consistent.setThread thread _
  | newSpan thread metadata =>
      simp only [System.step] at stepped
      split at stepped <;> cases stepped
      · exact consistent.dispatchNewSpan distinct thread _
      · exact consistent.setThread thread _
  | cachedEvent thread _ =>
      cases stepped
      exact consistent.dispatchEvent thread _
  | cachedNewSpan thread _ =>
      cases stepped
      exact consistent.dispatchNewSpan distinct thread _
  | record _ | enter _ | exit _ | followsFrom _ _ | cloneSpan _ =>
      simp only [System.step] at stepped
      split at stepped <;> cases stepped
      exact consistent.deliver _ (fun _ => by exact nofun) _
  | close span closing =>
      simp only [System.step] at stepped
      split at stepped <;> cases stepped
      have delivered := consistent.deliver (.onClose span) (fun _ => nofun)
        (subscriber.tryClose σ.registry.spans span closing []).2
      split
      · exact delivered.close span
      · exact delivered

theorem consistent_run (distinct : subscriber.ids.Nodup) (ops : List (Op M)) :
    ∀ σ σ', Consistent subscriber σ → σ.run subscriber ops = some σ' →
      Consistent subscriber σ' := by
  induction ops with
  | nil =>
      intro σ σ' consistent reached
      cases reached
      exact consistent
  | cons op rest ih =>
      intro σ σ' consistent reached
      obtain ⟨next, stepped, rest⟩ := Option.bind_eq_some.mp reached
      exact ih next σ' (consistent.step distinct stepped) rest

/-! ## Span callbacks see what `new_span` saw -/

theorem isEnabledFor_of_stored {spans : Spans} {span : SpanId} {map : FilterMap}
    (stored : spans span = some map) : Context.isEnabledFor spans span = map.isEnabled :=
  funext fun _ => by simp [Context.isEnabledFor, stored]

end System

theorem all_and_eq {α : Type} (l : List α) (p q : α → Bool) :
    (l.all fun a => p a && q a) = (l.all p && l.all q) := by
  induction l with
  | nil => rfl
  | cons a rest ih =>
      simp only [List.all_cons, ih]
      cases p a <;> cases q a <;> simp

variable {M : Type}

theorem Layer.forwardIf_and (enabledFor other : FilterId → Bool) (layer : Layer M) (path : Path) :
    layer.forwardIf (fun id => enabledFor id && other id) path =
      (layer.forwardIf enabledFor path).filter (· ∈ layer.forwardIf other path) := by
  have paths := selected_paths (layer.leaves path) (layer.leaves_nodup path)
    fun leaf => leaf.2.all fun enclosing => other enclosing.2
  simp only [Layer.forwardIf_eq_leaves, List.filter_map, List.filter_filter]
  congr 1
  refine List.filter_congr fun leaf member => ?_
  rw [Function.comp_apply, all_and_eq leaf.2 (fun e => enabledFor e.2) (fun e => other e.2),
    Bool.and_comm]
  congr 1
  exact (Bool.eq_iff_iff.mpr (decide_eq_true_iff.trans (paths.2 leaf member))).symm

theorem Subscriber.tryClose_eq (spans : Spans) (span : SpanId) (closing : Bool)
    (subscriber : Subscriber M) (path : Path) :
    subscriber.tryClose spans span closing path =
      (closing, if closing then subscriber.forwardIf (Context.isEnabledFor spans span) path
        else []) := by
  induction subscriber generalizing path with
  | registry => cases closing <;> rfl
  | layered layer inner ih =>
      cases closing <;> simp [tryClose, ih, forwardIf, Layer.onClose]

theorem Subscriber.cloneSpan_eq (spans : Spans) (old : SpanId) (subscriber : Subscriber M)
    (path : Path) : subscriber.cloneSpan spans old path = (old, []) := by
  induction subscriber generalizing path with
  | registry => rfl
  | layered layer inner ih => simp [cloneSpan, ih]

theorem System.Consistent.forwardIf_live {subscriber : Subscriber M} {σ : System}
    (consistent : System.Consistent subscriber σ) {span : SpanId} (live : σ.live span = true) :
    subscriber.forwardIf (Context.isEnabledFor σ.registry.spans span) [] =
      σ.received (.newSpan span) := by
  obtain ⟨map, stored⟩ := Option.isSome_iff_exists.mp live
  rw [Subscriber.forwardIf_toLayer, System.isEnabledFor_of_stored stored,
    consistent.recipients span map stored]

theorem System.Consistent.recordFollowsFrom_live {subscriber : Subscriber M} {σ : System}
    (consistent : System.Consistent subscriber σ) {span follows : SpanId}
    (live : σ.live span = true) (followsLive : σ.live follows = true) :
    subscriber.recordFollowsFrom σ.registry.spans span follows =
      (σ.received (.newSpan span)).filter (· ∈ σ.received (.newSpan follows)) := by
  rw [Subscriber.recordFollowsFrom, Subscriber.forwardIf_toLayer,
    Layer.forwardIf_and (Context.isEnabledFor σ.registry.spans span)
      (Context.isEnabledFor σ.registry.spans follows),
    ← Subscriber.forwardIf_toLayer, ← Subscriber.forwardIf_toLayer,
    consistent.forwardIf_live live, consistent.forwardIf_live followsLive]

theorem System.Consistent.lt_next {subscriber : Subscriber M} {σ : System}
    (consistent : System.Consistent subscriber σ) {span : SpanId} (live : σ.live span = true) :
    span < σ.registry.next :=
  Nat.lt_of_not_le fun past => by simp [System.live, consistent.unusedSpan span past] at live

theorem System.Consistent.recordFollowsFrom_closed {subscriber : Subscriber M} {σ : System}
    (consistent : System.Consistent subscriber σ) {span follows : SpanId}
    (live : σ.live span = true) (closed : σ.live follows = false) :
    subscriber.recordFollowsFrom σ.registry.spans span follows =
      (σ.received (.newSpan span)).filter (· ∈ subscriber.unfilteredLeaves) := by
  have gone : Context.isEnabledFor σ.registry.spans follows = fun _ => false := by
    funext id
    cases stored : σ.registry.spans follows <;> simp_all [System.live, Context.isEnabledFor]
  rw [Subscriber.recordFollowsFrom, Subscriber.forwardIf_toLayer,
    Layer.forwardIf_and (Context.isEnabledFor σ.registry.spans span)
      (Context.isEnabledFor σ.registry.spans follows),
    gone, Subscriber.forwardIf_closed, ← Subscriber.forwardIf_toLayer,
    consistent.forwardIf_live live]

/-- From every state a run reaches, each callback on a live span reaches
exactly the leaves that received its `new_span`, each once, and `on_id_change`
is never sent.  `on_follows_from` reaches the leaves that received both spans'
`new_span` while the span it follows is live; once that span has closed, only
those that received the first span's `new_span` outside every `Filtered`. -/
theorem span_callbacks_consistent (subscriber : Subscriber M) (distinct : subscriber.ids.Nodup)
    (ops : List (Op M)) (σ : System) (reached : System.initial.run subscriber ops = some σ)
    (span : SpanId) (live : σ.live span = true) :
    (σ.step subscriber (.record span)).map System.delivered =
      some (σ.delivered ++ (σ.received (.newSpan span)).map (.onRecord span, ·)) ∧
    (σ.step subscriber (.enter span)).map System.delivered =
      some (σ.delivered ++ (σ.received (.newSpan span)).map (.onEnter span, ·)) ∧
    (σ.step subscriber (.exit span)).map System.delivered =
      some (σ.delivered ++ (σ.received (.newSpan span)).map (.onExit span, ·)) ∧
    (σ.step subscriber (.close span true)).map System.delivered =
      some (σ.delivered ++ (σ.received (.newSpan span)).map (.onClose span, ·)) ∧
    (σ.step subscriber (.close span false)).map System.delivered = some σ.delivered ∧
    (σ.step subscriber (.cloneSpan span)).map System.delivered = some σ.delivered ∧
    (∀ follows, σ.live follows = true →
      (σ.step subscriber (.followsFrom span follows)).map System.delivered =
        some (σ.delivered ++ ((σ.received (.newSpan span)).filter
          (· ∈ σ.received (.newSpan follows))).map (.onFollowsFrom span follows, ·))) ∧
    ∀ follows, follows < σ.registry.next → σ.live follows = false →
      (σ.step subscriber (.followsFrom span follows)).map System.delivered =
        some (σ.delivered ++ ((σ.received (.newSpan span)).filter
          (· ∈ subscriber.unfilteredLeaves)).map (.onFollowsFrom span follows, ·)) := by
  have consistent :=
    System.consistent_run distinct ops _ _ System.consistent_initial reached
  have recipients := consistent.forwardIf_live live
  refine ⟨?_, ?_, ?_, ?_, ?_, ?_, fun follows followsLive => ?_, fun follows created closed => ?_⟩
  · simp [System.step, live, Subscriber.record, recipients, System.deliver]
  · simp [System.step, live, Subscriber.enter, recipients, System.deliver]
  · simp [System.step, live, Subscriber.exit, recipients, System.deliver]
  · simp [System.step, live, Subscriber.tryClose_eq, recipients, System.deliver,
      System.setRegistry]
  · simp [System.step, live, Subscriber.tryClose_eq, System.deliver]
  · simp [System.step, live, Subscriber.cloneSpan_eq, System.deliver]
  · simp [System.step, live, consistent.lt_next followsLive,
      consistent.recordFollowsFrom_live live followsLive, System.deliver]
  · simp [System.step, live, created, consistent.recordFollowsFrom_closed live closed,
      System.deliver]

theorem span_callbacks_consistent_after_close :
    let leaf : Plain Unit := { enabled := fun _ => true, registerCallsite := fun _ => .always }
    let subscriber : Subscriber Unit :=
      .layered (.filtered { enabled := fun _ => false } ⟨0⟩ (.plain leaf))
        (.layered (.plain leaf) .registry)
    let ops : List (Op Unit) := [.newSpan 0 (), .newSpan 0 (), .close 1 true]
    let σ := (System.initial.run subscriber ops).getD System.initial
    subscriber.ids.Nodup ∧ System.initial.run subscriber ops = some σ ∧ σ.live 0 = true ∧
      ((σ.step subscriber (.record 0)).map System.delivered =
        some (σ.delivered ++ (σ.received (.newSpan 0)).map (.onRecord 0, ·)) ∧
      (σ.step subscriber (.enter 0)).map System.delivered =
        some (σ.delivered ++ (σ.received (.newSpan 0)).map (.onEnter 0, ·)) ∧
      (σ.step subscriber (.exit 0)).map System.delivered =
        some (σ.delivered ++ (σ.received (.newSpan 0)).map (.onExit 0, ·)) ∧
      (σ.step subscriber (.close 0 true)).map System.delivered =
        some (σ.delivered ++ (σ.received (.newSpan 0)).map (.onClose 0, ·)) ∧
      (σ.step subscriber (.close 0 false)).map System.delivered = some σ.delivered ∧
      (σ.step subscriber (.cloneSpan 0)).map System.delivered = some σ.delivered ∧
      (∀ follows, σ.live follows = true →
        (σ.step subscriber (.followsFrom 0 follows)).map System.delivered =
          some (σ.delivered ++ ((σ.received (.newSpan 0)).filter
            (· ∈ σ.received (.newSpan follows))).map (.onFollowsFrom 0 follows, ·))) ∧
      ∀ follows, follows < σ.registry.next → σ.live follows = false →
        (σ.step subscriber (.followsFrom 0 follows)).map System.delivered =
          some (σ.delivered ++ ((σ.received (.newSpan 0)).filter
            (· ∈ subscriber.unfilteredLeaves)).map (.onFollowsFrom 0 follows, ·))) := by
  intro leaf subscriber ops σ
  obtain ⟨σ', ran⟩ := Option.isSome_iff_exists.mp
    (show (System.initial.run subscriber ops).isSome = true by decide)
  have reached : System.initial.run subscriber ops = some σ := by simp [σ, ran]
  have live : σ.live 0 = true := by simp only [σ]; decide
  exact ⟨by decide, reached, live,
    span_callbacks_consistent subscriber (by decide) ops σ reached 0 live⟩

theorem closed_follows_span_skips_filtered_leaf :
    let leaf : Plain Unit := { enabled := fun _ => true, registerCallsite := fun _ => .always }
    let subscriber : Subscriber Unit :=
      .layered (.filtered { enabled := fun _ => true } ⟨0⟩ (.plain leaf))
        (.layered (.plain leaf) .registry)
    (System.initial.run subscriber [.newSpan 0 (), .newSpan 0 (), .close 1 true]).map
        (fun σ => (σ.received (.newSpan 0), σ.received (.newSpan 1),
          (σ.step subscriber (.followsFrom 0 1)).map (·.received (.onFollowsFrom 0 1)))) =
      some ([[.layer, .inner], [.layer]], [[.layer, .inner], [.layer]], some [[.layer, .inner]]) := by
  decide

/-! ## Each thread's own state -/

def Op.runsOn (thread : ThreadId) : Op M → Bool
  | .registerCallsite t _ | .enabled t _ | .event t _ | .newSpan t _
  | .cachedEvent t _ | .cachedNewSpan t _ => t == thread
  | _ => false

/-- What an operation does to the `FilterState` of the thread it runs on: it
reads that state and nothing else of the system. -/
def Op.threadStep (subscriber : Subscriber M) (s : FilterState) : Op M → FilterState
  | .registerCallsite _ metadata => (subscriber.registerCallsite metadata s).2
  | .enabled _ metadata => (subscriber.enabled metadata s).2
  | .event _ metadata =>
      let pass := subscriber.enabled metadata s
      if pass.1 then (subscriber.event [] pass.2).2 else pass.2
  | .newSpan _ metadata =>
      let pass := subscriber.enabled metadata s
      if pass.1 then (subscriber.toLayer.didEnableDispatch [] pass.2.filterMap.2).2 else pass.2
  | .cachedEvent _ _ => (subscriber.event [] s).2
  | .cachedNewSpan _ _ => (subscriber.toLayer.didEnableDispatch [] s.filterMap.2).2
  | _ => s

/-- A filter pass whose answer is only read: no dispatch follows to reset what
it wrote. -/
def Op.passOnly : Op M → Bool
  | .enabled _ _ => true
  | _ => false

theorem Subscriber.newSpan_state (subscriber : Subscriber M) (path : Path) (reg : Registry)
    (s : FilterState) :
    (subscriber.newSpan path reg s).2.2.2 =
      (subscriber.toLayer.didEnableDispatch path s.filterMap.2).2 := by
  induction subscriber generalizing path s with
  | registry => rfl
  | layered layer inner ih =>
      simp [Subscriber.newSpan, Subscriber.toLayer, Layer.didEnableDispatch, Layer.newSpan, ih]

theorem Subscriber.newSpan_paths (subscriber : Subscriber M) (path : Path) (reg : Registry)
    (s : FilterState) :
    (subscriber.newSpan path reg s).2.1 =
      (subscriber.toLayer.didEnableDispatch path s.filterMap.2).1 := by
  induction subscriber generalizing path s with
  | registry => rfl
  | layered layer inner ih =>
      simp [Subscriber.newSpan, Subscriber.toLayer, Layer.didEnableDispatch, Layer.newSpan, ih,
        Subscriber.newSpan_state]

@[simp] theorem System.setThread_threads (σ : System) (thread : ThreadId) (s : FilterState)
    (other : ThreadId) :
    (σ.setThread thread s).threads other = if thread = other then s else σ.threads other := by
  simp [System.setThread, Function.update_apply, eq_comm]

@[simp] theorem System.deliver_threads (σ : System) (callback : Callback) (paths : List Path) :
    (σ.deliver callback paths).threads = σ.threads := rfl

@[simp] theorem System.setRegistry_threads (σ : System) (registry : Registry) :
    (σ.setRegistry registry).threads = σ.threads := rfl

theorem System.step_threads (subscriber : Subscriber M) {σ σ' : System} {op : Op M}
    (stepped : σ.step subscriber op = some σ') (thread : ThreadId) :
    σ'.threads thread =
      if op.runsOn thread then op.threadStep subscriber (σ.threads thread) else σ.threads thread := by
  cases op with
  | registerCallsite t metadata | enabled t metadata | cachedEvent t metadata
  | cachedNewSpan t metadata =>
      cases stepped
      by_cases same : t = thread <;>
        simp [Op.runsOn, Op.threadStep, System.dispatchEvent, System.dispatchNewSpan,
          Subscriber.newSpan_state, same]
  | event t metadata | newSpan t metadata =>
      simp only [System.step] at stepped
      by_cases same : t = thread
      · subst same
        split at stepped <;> cases stepped <;>
          simp [Op.runsOn, Op.threadStep, System.dispatchEvent, System.dispatchNewSpan,
            Subscriber.newSpan_state, *]
      · split at stepped <;> cases stepped <;>
          simp [Op.runsOn, System.dispatchEvent, System.dispatchNewSpan, same]
  | record _ | enter _ | exit _ | followsFrom _ _ | cloneSpan _ =>
      simp only [System.step] at stepped
      split at stepped <;> cases stepped
      rfl
  | close _ _ =>
      simp only [System.step] at stepped
      split at stepped <;> cases stepped
      split <;> rfl

theorem System.run_threads (subscriber : Subscriber M) {σ σ' : System} {ops : List (Op M)}
    (reached : σ.run subscriber ops = some σ') (thread : ThreadId) :
    σ'.threads thread =
      (ops.filter (·.runsOn thread)).foldl (Op.threadStep subscriber) (σ.threads thread) := by
  induction ops generalizing σ with
  | nil =>
      cases reached
      rfl
  | cons op rest ih =>
      obtain ⟨next, stepped, restRun⟩ := Option.bind_eq_some.mp reached
      rw [ih restRun, System.step_threads subscriber stepped thread]
      by_cases runs : op.runsOn thread <;> simp [List.filter_cons, runs]

theorem System.run_threads_of_not_runsOn (subscriber : Subscriber M) {σ σ' : System}
    {ops : List (Op M)} (reached : σ.run subscriber ops = some σ') {thread : ThreadId}
    (notOn : ∀ op ∈ ops, op.runsOn thread = false) : σ'.threads thread = σ.threads thread := by
  rw [System.run_threads subscriber reached, List.filter_eq_nil_iff.mpr fun op member => by
    simp [notOn op member]]
  rfl

/-- A `Filtered` nested in another one's layer is never asked, so the leaf it
wraps receives an event its filter rejects.  Its `did_enable` still counts the
pass counter down; the outer `did_enable` then finds the counter spent while a
third filter's bit is set, and its debug assertion fails. -/
theorem nested_filter_not_consulted :
    let admitAll : Filter Unit := { enabled := fun _ => true }
    let rejectAll : Filter Unit := { enabled := fun _ => false }
    let leaf : Plain Unit := { enabled := fun _ => true, registerCallsite := fun _ => .always }
    let subscriber : Subscriber Unit :=
      .layered (.filtered rejectAll ⟨2⟩ (.plain leaf))
        (.layered (.filtered admitAll ⟨0⟩ (.filtered rejectAll ⟨1⟩ (.plain leaf))) .registry)
    subscriber.ids.Nodup ∧ (∀ id ∈ subscriber.ids, id.idx.toNat < 64) ∧
      (subscriber.leaves []).map (fun leaf => (leaf.1, leaf.2.map (·.1.enabled ()))) =
        [([.layer, .inner], [true, false]), ([.layer], [false])] ∧
      (System.initial.run subscriber [.event 0 ()]).map
        (fun σ => (σ.received .onEvent, (σ.threads 0).assertFailed)) =
          some ([[.layer, .inner]], true) := by
  decide

/-- A registration that a plain layer answers `never` returns before the
registry's `take_interest`, so the `Filtered` node's interest stays in the
thread's cell with the interest-pass counter at 1; the thread's next filter
pass then fails the assertion of `FilterState::set` that no interest pass is
under way. -/
theorem short_circuit_leaves_interest :
    let admitAll : Plain Unit := { enabled := fun _ => true, registerCallsite := fun _ => .always }
    let neverLayer : Plain Unit := { enabled := fun _ => true, registerCallsite := fun _ => .never }
    let subscriber : Subscriber Unit :=
      .layered (.filtered { enabled := fun _ => true } ⟨0⟩ (.plain admitAll))
        (.layered (.plain neverLayer) .registry)
    (System.initial.run subscriber [.registerCallsite 0 ()]).map
        (fun σ => ((σ.threads 0).interest, (σ.threads 0).inCurrentInterestPass)) =
      some (some .sometimes, 1) ∧
    (System.initial.run subscriber [.registerCallsite 0 (), .event 0 ()]).map
        (fun σ => (σ.threads 0).assertFailed) = some true := by
  decide

end TracingSubscriber
