import RmwMicroxrcedds.Proof.Effects

/-!
# What a call does not touch

A frame is a relation between the entities before and after, which everything that leaves the
entities alone satisfies. It overlooks a pool when any change of that pool satisfies it too. A call
satisfies every frame that overlooks the pools it works on. The same holds of relations that also look at the
moments recorded on the way.
-/

namespace RmwMicroxrcedds
set_option autoImplicit false

open Triples

variable {cfg : Config} {α β : Type}

/-- A relation about the entities, which holds as long as they are left alone. -/
class Frame (R : State → State → Prop) : Prop extends Std.Refl R, IsTrans State R where
  of_ent : ∀ {s t : State}, t.w.ent = s.w.ent → R s t

/-- A relation about the entities and the recorded moments, which holds as long as the entities are left alone and
every moment sees the world as it is. -/
class Outer (R : State → State → Prop) : Prop extends Std.Refl R, IsTrans State R where
  silent : ∀ {s t : State}, t.w.ent = s.w.ent → t.trace = s.trace → R s t
  recorded : ∀ {s t : State} {m : Moment}, t.w.ent = s.w.ent → m.world = s.w → t.trace = m :: s.trace → R s t

instance {R : State → State → Prop} [Frame R] : Outer R where
  silent ent _ := Frame.of_ent ent
  recorded ent _ _ := Frame.of_ent ent

/-- The relation does not speak about the pool. -/
def Overlooks (R : State → State → Prop) (k : Kind β) : Prop :=
  ∀ (s : State) (u : Slots β), R s (s.mapEnt (k.withSlots u))

/-- A change of state that leaves the entities alone. -/
theorem Frame.modify {R : State → State → Prop} [Frame R] {f : State → State}
    (ent : ∀ s, (f s).w.ent = s.w.ent) : Within R (modify f : Prog Unit) := fun s => Frame.of_ent (ent s)

variable {R : State → State → Prop} [Outer R]

/-! ## Actions -/

theorem outer_record (act : Act) : Within R (modify (·.record act) : Prog Unit) := fun _ =>
  Outer.recorded rfl rfl rfl

theorem outer_given (o : Owner) : Within R (modify (·.mapGhost (·.given o)) : Prog Unit) := fun _ =>
  Outer.silent rfl rfl

/-- An event is recorded before its callback stores anything. -/
theorem outer_raise (session : Nat) (s : State) (ev : SessionEvent) : R s (raise cfg session s ev) := by
  have ent := (raise_frame cfg session s ev).ent
  cases ev with
  | time d => exact Outer.silent rfl rfl
  | _ => exact Outer.recorded ent rfl rfl

/-- A run of a session changes no entity, and records each callback before it happens. -/
theorem outer_uxrRunSession (session : Nat) : Within R (uxrRunSession cfg session) := by
  have folded : ∀ (evs : List SessionEvent) (s : State), R s (evs.foldl (raise cfg session) s) := by
    intro evs
    induction evs with
    | nil => exact fun s => Std.Refl.refl s
    | cons ev evs ih => exact fun s => IsTrans.trans _ _ _ (outer_raise session s ev) (ih _)
  have answered : Within R nextAnswer := fun s => by
    cases h : s.agent with
    | nil =>
      simp only [nextAnswer, bind, StateT.bind, get, getThe, MonadStateOf.get, StateT.get, pure, h]
      exact Std.Refl.refl s
    | cons a rest =>
      simp only [nextAnswer, bind, StateT.bind, get, getThe, MonadStateOf.get, StateT.get, pure, h]
      exact Outer.silent rfl rfl
  refine Within.bind answered fun answer => ?_
  have raised : Within R (modify fun s => answer.events.foldl (raise cfg session) s : Prog Unit) :=
    fun s => folded _ s
  exact Within.bind raised fun _ => .pure

instance : SendsRequests cfg R where
  ran := outer_uxrRunSession
  waited c untilData timeout := outer_record (.waited c untilData timeout)
  asked context stream request := by
    unfold runXrceSession
    dsimp only
    refine Within.ite ?_ ?_
    · exact Within.bind .pure fun _ => Within.bind (outer_record _) fun _ => .pure
    · exact Within.bind (outer_uxrRunSession context) fun _ => Within.bind (outer_record _) fun _ => .pure

/-- The cleaning records what it releases, and touches the buffers only. -/
theorem outer_clean : Within R rmwUxrceCleanExpiredStaticInputBuffer := by
  have loop : ∀ nowNs k item s, R s (cleanLoop nowNs k item s) := by
    intro nowNs k
    induction k with
    | zero => exact fun _ s => Std.Refl.refl s
    | succ k ih =>
      intro item s
      cases item with
      | none => exact Std.Refl.refl s
      | some item =>
        rw [cleanLoop]
        split
        · have released : R s ((s.record (.expire item)).mapBuf (·.putMemory item)) :=
            Outer.recorded rfl rfl rfl
          exact IsTrans.trans _ _ _ released (ih _ _)
        · exact ih _ _
  exact fun s => loop _ _ _ _

/-- The same of the loop that empties the buffers at a shutdown. -/
theorem outer_flush (s : State) (k : Nat) (item : Option Nat) : R s (flushLoop k item s) := by
  induction k generalizing s item with
  | zero => exact Std.Refl.refl s
  | succ k ih =>
    cases item with
    | none => exact Std.Refl.refl s
    | some item =>
      have released : R s ((s.record (.flush item)).mapBuf (·.putMemory item)) := Outer.recorded rfl rfl rfl
      exact IsTrans.trans _ _ _ released (ih _ _)

theorem outer_takeFrom [Element β] (k : Kind β) (i : Nat) (header : StaticInputBuffer → TakeHeader)
    (cdrDeserialize : List UInt8 → Bool) : Within R (takeFrom k i header cdrDeserialize) :=
  walk_takeFrom outer_clean (fun _ _ _ _ => Outer.recorded rfl rfl rfl) k i header cdrDeserialize

section Pool

variable {k : Kind β} (free : Overlooks R k)
include free

omit [Outer R] in
protected theorem Overlooks.write (i : Nat) (f : β → β) : Within R (writeElement k i f) := fun s =>
  free s ((k.slots s.w.ent).update i f)

omit [Outer R] in
protected theorem Overlooks.put (i : Nat) : Within R (putMemory k i) := fun s => free s ((k.slots s.w.ent).put i)

protected theorem Overlooks.get : Within R (getMemory k) := fun s => by
  have taken : R s (s.mapEnt (k.withSlots (k.slots s.w.ent).get.2)) := free s _
  exact IsTrans.trans _ _ _ taken (Outer.silent rfl rfl)

variable [Element β]

protected theorem Overlooks.acquire (enter : β → β) : Within R (acquire k enter) := by
  refine Within.bind free.get fun slot => ?_
  cases slot with
  | none => exact .pure
  | some i => exact Within.bind (free.write i _) fun _ => .pure

protected theorem Overlooks.fini (clear : β → β) (i : Nat) : Within R (finiMemory k clear i) := by
  refine Within.bind (walk_readElement _ _) fun b => Within.ite ?_ .pure
  have released : Within R
      (modify (·.mapEnt fun e => k.withSlots ((k.slots e).fini clear i) e) : Prog Unit) :=
    fun s => free s ((k.slots s.w.ent).fini clear i)
  dsimp only
  split
  · exact Within.bind (outer_record _) fun _ => released
  · exact released

end Pool

/-! ## Sessions -/

/-- Of the entities only the sessions have changed. -/
def SessionsOnly (s t : State) : Prop := ∃ sessions, t.w.ent = { s.w.ent with session := sessions }

instance : Frame SessionsOnly where
  refl s := ⟨s.w.ent.session, rfl⟩
  trans := fun _ _ _ ⟨_, h⟩ ⟨sessions, k⟩ => ⟨sessions, by rw [k, h]⟩
  of_ent {s _} ent := ⟨s.w.ent.session, ent⟩

theorem SessionsOnly.overlooks : Overlooks SessionsOnly .session := fun _ u => ⟨u, rfl⟩

/-- A frame that overlooks the sessions. -/
theorem SessionsOnly.frame {R : State → State → Prop} [Frame R] {s t : State} (h : SessionsOnly s t)
    (sessions : Overlooks R .session) : R s t := by
  obtain ⟨u, ent⟩ := h
  exact IsTrans.trans _ _ _ (sessions s u) (Frame.of_ent ent)

section Sessions

variable (sessions : Overlooks R .session)
include sessions

/-- The graph of a context: four ids of its session, and a request. -/
theorem frame_rmwGraphInit (graphTypeSupport : MessageTypeSupportCallbacks) (context : Nat) :
    Within R (rmwGraphInit cfg graphTypeSupport context) := by
  unfold rmwGraphInit
  refine Within.bind (walk_postIncrement sessions.write _ _ _) fun participant => ?_
  refine Within.bind (walk_postIncrement sessions.write _ _ _) fun subscriber => ?_
  refine Within.bind (walk_postIncrement sessions.write _ _ _) fun datareader => ?_
  refine Within.bind (walk_postIncrement sessions.write _ _ _) fun topic => ?_
  refine Within.bind (fun _ => Outer.silent rfl rfl) fun _ => ?_
  dsimp only
  refine Within.ite .pure ?_
  refine Within.bind (outer_uxrRunSession _) fun confirmed => ?_
  exact Within.bind (outer_record _) fun _ => .pure

omit sessions in
theorem frame_closeTransport (context : Nat) (held : Bool) : Within R (closeTransport cfg context held) :=
  Within.ite (outer_record _) .pure

/-- Giving up on a context. -/
theorem frame_initFail (context : Nat) (held : Bool) : Within R (initFail cfg context held) :=
  Within.bind (frame_closeTransport _ _) fun _ => sessions.put context

theorem frame_waitSessions (set : WaitSet Nat) (waitTimeout : Option RmwTime) :
    Within R (waitSessions cfg set waitTimeout) :=
  walk_waitSessions outer_clean (fun c _ => sessions.write c _) set waitTimeout

theorem frame_rmwUrosSyncSession (offset : Int) : Within R (rmwUrosSyncSession cfg offset) :=
  walk_rmwUrosSyncSession fun c => sessions.write c _

end Sessions

/-- What `rmw_init` keeps: whatever the initialisation of the pools keeps and does not speak of the
sessions. -/
theorem rmwInit_rule {P : State → Prop} (env : InitEnvironment)
    (sessions : ∀ s t, P s → SessionsOnly s t → P t) (pools : Hoare P (initPools cfg) fun _ => P) :
    Hoare P (rmwInit cfg env) fun _ => P := by
  have within : ∀ {α β : Type} {p : Prog α} {f : α → Prog β} {Q : β → State → Prop},
      Within SessionsOnly p → (∀ a, Hoare P (f a) Q) → Hoare P (p >>= f) Q := fun h next =>
    Triple.bind (h.hoare sessions) next
  unfold rmwInit
  refine within (fun s => ⟨s.w.ent.session.init cfg.maxSessions, rfl⟩) fun _ => ?_
  refine within SessionsOnly.overlooks.get fun slot => ?_
  cases slot with
  | none => exact Triple.pure fun _ h => h
  | some context =>
    refine within (SessionsOnly.overlooks.write _ _) fun _ => Triple.bind pools fun _ => ?_
    refine within (Frame.modify fun _ => rfl) fun _ => Triple.ite (fun _ => ?_) fun _ => ?_
    · exact within (frame_initFail SessionsOnly.overlooks context _) fun _ => Triple.pure fun _ h => h
    · refine within (outer_uxrRunSession _) fun confirmed => Triple.ite (fun _ => ?_) fun _ => ?_
      · refine Triple.ite (fun _ => ?_) fun _ => Triple.pure fun _ h => h
        refine within (frame_rmwGraphInit SessionsOnly.overlooks _ _) fun ret =>
          Triple.ite (fun _ => ?_) fun _ => ?_
        · exact within (outer_uxrRunSession _) fun _ => Triple.pure fun _ h => h
        · exact Triple.pure fun _ h => h
      · exact within (frame_initFail SessionsOnly.overlooks context _) fun _ => Triple.pure fun _ h => h

/-! ## Services, clients and nodes -/

/-- The frame of the create functions of services and clients. -/
protected theorem Overlooks.create [Element β] {k : Kind β} (free : Overlooks R k) {name : CStr} {node : Nat}
    {p : Nat → Nat → Prog Bool} (body : ∀ customNode i, Within R (p customNode i)) :
    Within R (do
      let handle := (← readElement .node node).rmwNode
      if isUxrceRmwIdentifierValid handle.implementationIdentifier = false ∨ name = [] then
        return none
      else
        match ← acquire k id with
        | none => return none
        | some i =>
          if ← p (deref handle.data) i then return some i
          else
            finiMemory k id i
            return none : Prog (Option Nat)) := by
  refine Within.bind (walk_readElement _ _) fun n => Within.ite .pure ?_
  refine Within.bind (free.acquire id) fun slot => ?_
  cases slot with
  | none => exact .pure
  | some i =>
    refine Within.bind (body _ i) fun created => Within.ite .pure ?_
    exact Within.bind (free.fini id i) fun _ => .pure

section Services

variable (sessions : Overlooks R .session) {requestId : Nat}
include sessions

/-- **`rmw_create_service`** -/
theorem frame_rmwCreateService (free : Overlooks R .service) (node : Option Nat)
    (typeSupport : Option (TypeSupport ServiceTypeSupportCallbacks)) (name : Option CStr)
    (qosPolicies : Option RmwQosProfile) :
    Within R (rmwCreateService cfg node typeSupport name qosPolicies requestId) := by
  unfold rmwCreateService
  split
  · rename_i n t name qos
    exact free.create (p := fun customNode => createServiceBody cfg customNode t name qos requestId)
      fun _ i => walk_createServiceBody sessions.write outer_given fun f _ => free.write i f
  · exact .pure

/-- **`rmw_create_client`** -/
theorem frame_rmwCreateClient (free : Overlooks R .client) (node : Option Nat)
    (typeSupport : Option (TypeSupport ServiceTypeSupportCallbacks)) (name : Option CStr)
    (qosPolicies : Option RmwQosProfile) :
    Within R (rmwCreateClient cfg node typeSupport name qosPolicies requestId) := by
  unfold rmwCreateClient
  split
  · rename_i n t name qos
    exact free.create (p := fun customNode => createClientBody cfg customNode t name qos requestId)
      fun _ i => walk_createClientBody sessions.write outer_given fun f _ => free.write i f
  · exact .pure

/-- **`rmw_create_node`** -/
theorem frame_rmwCreateNode (free : Overlooks R .node) (context : Option Nat)
    (name namespace_ : Option CStr) : Within R (rmwCreateNode cfg context name namespace_) := by
  have give : ∀ i, Within R (do
      rmwUxrceFiniNodeMemory i
      return none : Prog (Option Nat)) := fun i => Within.bind (free.fini _ i) fun _ => .pure
  unfold rmwCreateNode
  split
  · refine Within.ite .pure ?_
    unfold createNode
    refine Within.bind (free.acquire _) fun slot => ?_
    cases slot with
    | none => exact .pure
    | some i =>
      refine Within.ite (give i) (Within.bind (free.write i _) fun _ => ?_)
      refine Within.ite (give i) (Within.bind (free.write i _) fun _ => ?_)
      refine Within.bind (walk_postIncrement sessions.write _ _ _) fun id => ?_
      refine Within.bind (free.write i _) fun _ => ?_
      split
      · exact .pure
      · refine Within.bind (walk_readElement _ _) fun session => ?_
        exact Within.bind (SendsRequests.asked _ _ _) fun created => Within.ite .pure (give i)
  · exact .pure

end Services

/-! ## Publishers and subscriptions -/

theorem Overlooks.topics (free : Overlooks R .topic) : WorksOnTopics R where
  get := free.get
  write := free.write
  fini topic := Within.bind (free.put topic) fun _ => free.write _ _

theorem Overlooks.publishers (free : Overlooks R .publisher) : WorksOnPublishers R where
  acquire := free.acquire id
  write i f _ := free.write i f
  fini i := free.fini id i

section Endpoints

variable (sessions : Overlooks R .session) (topics : WorksOnTopics R) {n i : Nat} {topicName : CStr}
include sessions topics

/-- What `rmw_create_subscription` does with the element it was given. -/
theorem frame_createSubscriptionBody (free : Overlooks R .subscription)
    (typeSupport : TypeSupport MessageTypeSupportCallbacks) (qosPolicies : RmwQosProfile) :
    Within R (createSubscriptionBody cfg n typeSupport topicName qosPolicies i) := by
  unfold createSubscriptionBody
  refine Within.ite .pure (Within.bind (free.write _ _) fun _ => ?_)
  cases typeSupport with
  | undefined => exact .pure
  | nullData => exact Within.bind (free.write _ _) fun _ => .pure
  | callbacks members =>
    refine Within.bind (free.write _ _) fun _ => ?_
    refine Within.bind (walk_createTopic sessions.write topics members) fun topic => ?_
    refine Within.bind (free.write _ _) fun _ => Within.ite ?_ .pure
    exact walk_createSubscriptionObjects sessions.write outer_given fun f _ _ => free.write i f

/-- **`rmw_create_subscription`** -/
theorem frame_rmwCreateSubscription (free : Overlooks R .subscription) (node : Option Nat)
    (typeSupport : Option (TypeSupport MessageTypeSupportCallbacks)) (name : Option CStr)
    (qosPolicies : Option RmwQosProfile) :
    Within R (rmwCreateSubscription cfg node typeSupport name qosPolicies) := by
  unfold rmwCreateSubscription
  split
  · refine Within.bind (walk_readElement _ _) fun _ => Within.ite .pure ?_
    refine Within.bind (free.acquire id) fun slot => ?_
    cases slot with
    | none => exact .pure
    | some i =>
      refine Within.bind (frame_createSubscriptionBody sessions topics free _ _) fun created =>
        Within.ite .pure ?_
      refine Within.bind (Within.bind (walk_readElement _ _) fun p => ?_) fun _ => .pure
      dsimp only
      split
      · exact Within.bind (topics.fini _) fun _ => free.fini _ _
      · exact free.fini _ _
  · exact .pure

end Endpoints

/-! ## Nodes and contexts -/

/-- A frame that speaks of no pool that a node or what belongs to it lives in. -/
structure OverlooksNodes (R : State → State → Prop) : Prop where
  node : Overlooks R .node
  publisher : Overlooks R .publisher
  subscription : Overlooks R .subscription
  service : Overlooks R .service
  client : Overlooks R .client
  topic : Overlooks R .topic

/-- What overlooks a pool is kept by any release in it. -/
theorem OverlooksNodes.releases (free : OverlooksNodes R) : Releases R where
  node i := free.node.fini _ i
  publisher i := free.publisher.fini id i
  subscription i := free.subscription.fini id i
  service i := free.service.fini id i
  client i := free.client.fini id i
  topic := free.topic.topics.fini

/-- **`rmw_shutdown`** -/
theorem frame_rmwShutdown (sessions : Overlooks R .session) (releases : Releases R)
    (impl : Option Nat) : Within R (rmwShutdown cfg impl) := by
  unfold rmwShutdown
  refine Within.bind ?_ fun _ => Within.bind (fun s => outer_flush s _ _) fun _ => .pure
  unfold rmwContextFini
  refine Within.bind (walk_destroyAll _ _ _ _ fun _ => walk_rmwDestroyNode releases _) fun r => ?_
  cases impl with
  | none => exact .pure
  | some context =>
    refine Within.bind (walk_readElement _ _) fun _ => ?_
    have closed : Within R (do
        rmwUxrceFiniSessionMemory context
        closeTransport cfg context true
        return r.2 : Prog RmwRet) :=
      Within.bind (sessions.put context) fun _ => Within.bind (frame_closeTransport _ _) fun _ => .pure
    exact Within.ite (Within.bind (outer_uxrRunSession _) fun _ => closed) closed

end RmwMicroxrcedds
