import RmwMicroxrcedds.Proof.Owners

/-!
# The creation of subscriptions, services and clients

Between the atomic actions of an owner everything a creation does is calm, so what is known of the
element carries over. A creation that fails anywhere releases the element.
-/

namespace RmwMicroxrcedds
set_option autoImplicit false

open Triples Owning

variable {cfg : Config} {α β : Type}

/-- A stage of a call: the invariant and what is known of the element at work. -/
structure Stage (cfg : Config) (c : CallKind) (P : State → Prop) (s : State) : Prop where
  wf : Wf cfg s
  call : s.call = c
  known : P s

/-- Nothing is known but the invariant. -/
abbrev Settled (cfg : Config) (c : CallKind) : State → Prop := Stage cfg c fun _ => True

theorem Sound.of_triple {p : Prog α}
    (h : ∀ c, Triple (Atomic cfg) (Settled cfg c) p fun _ => Settled cfg c) : Sound cfg p :=
  ⟨fun s wf =>
    have ⟨path, settled⟩ := h s.call s ⟨wf, rfl, trivial⟩
    ⟨path, settled.wf, settled.call⟩⟩

theorem Sound.triple {p : Prog α} (h : Sound cfg p) {c : CallKind} {P : State → Prop} :
    Triple (Atomic cfg) (Stage cfg c P) p fun _ => Settled cfg c := fun s hs =>
  have ⟨path, wf, call⟩ := h.run s hs.wf
  ⟨path, wf, call.trans hs.call, trivial⟩

/-- Calm programs keep what is known of the element. -/
theorem Calm.stage {p : Prog α} (h : Calm cfg p) {c : CallKind} {P : State → Prop}
    (stable : ∀ {s t}, P s → Benign s t → P t) :
    Triple (Atomic cfg) (Stage cfg c P) p fun _ => Stage cfg c P := fun s hs =>
  have ⟨path, wf, benign⟩ := h.run s hs.wf
  ⟨path, wf, benign.call.trans hs.call, stable hs.known benign⟩

theorem Stage.settled {c : CallKind} {P : State → Prop} {s : State} (h : Stage cfg c P s) :
    Settled cfg c s := ⟨h.wf, h.call, trivial⟩

section
variable {o : Owner} {n : Nat} {c : CallKind}

/-- A calm program before the id is assigned. -/
theorem Calm.adopted {p : Prog α} {f : α → Prog β} {Q : β → State → Prop} (h : Calm cfg p)
    (hf : ∀ a, Triple (Atomic cfg) (Stage cfg c (Adopted o n)) (f a) Q) :
    Triple (Atomic cfg) (Stage cfg c (Adopted o n)) (p >>= f) Q := (h.stage Adopted.stable).bind hf

/-- An exit of a creation. -/
theorem exit_triple {P : State → Prop} {a : α} :
    Triple (Atomic cfg) (Stage cfg c P) (Pure.pure a) fun _ => Settled cfg c :=
  Triple.pure fun _ h => h.settled

theorem give_triple : Triple (Atomic cfg) (Stage cfg c (Adopted o n))
    (modify (·.mapGhost (·.given o)) : Prog Unit) fun _ => Settled cfg c := Triple.path fun _ h =>
  have ⟨path, wf⟩ := give_run h.wf h.known
  ⟨path, wf, h.call, trivial⟩

theorem adopt_triple [Element β] {k : Kind β} (own : Owning cfg k) {i : Nat} {f : β → β}
    (keep : ∀ b, Element.handle (f b) = Element.handle b := by intro b; rfl)
    (owner : ∀ b, own.ownerNode (f b) = some n := by intro b; rfl) :
    Triple (Atomic cfg) (Stage cfg c (Held (own.address i) n)) (writeElement k i f)
      fun _ => Stage cfg c (Adopted (own.address i) n) := fun _ h =>
  have ⟨path, wf, call, adopted⟩ := own.adopt_run h.wf h.known keep owner
  ⟨path, wf, call.trans h.call, adopted⟩

/-- The frame of the create functions: an element is handed out, the body fills it, and the fail
label releases it. -/
theorem create_triple [Element β] {k : Kind β} (own : Owning cfg k) {body : Nat → Prog Bool}
    {fail : Nat → Prog Unit}
    (body_triple : ∀ i, Triple (Atomic cfg) (Stage cfg c (Held (own.address i) n)) (body i)
      fun _ => Settled cfg c) (fail_sound : ∀ i, Sound cfg (fail i)) :
    Triple (Atomic cfg) (Stage cfg c fun s => n ∈ s.w.ent.node.elements) (do
      match ← acquire k id with
      | none => return none
      | some i => if ← body i then return some i else do
          fail i
          return none : Prog (Option Nat)) fun _ => Settled cfg c := by
  intro s h
  rw [Prog.bind_run]
  rcases own.acquire_run h.wf h.known with e | ⟨i, t, e, path, wf, call, held⟩
  · rw [e]
    exact ⟨.refl, h.settled⟩
  · rw [e]
    have rest : Triple (Atomic cfg) (Stage cfg c (Held (own.address i) n)) (do
        if ← body i then return some i else do
          fail i
          return none : Prog (Option Nat)) fun _ => Settled cfg c :=
      (body_triple i).bind fun done => Triple.ite (fun _ => exit_triple) fun _ =>
        (fail_sound i).triple.bind fun _ => exit_triple
    obtain ⟨path', settled⟩ := rest t ⟨wf, call.trans h.call, held⟩
    exact ⟨path.trans path', settled⟩

end

/-- The check of the node at the start of a create function, which lets only nodes in use pass. -/
theorem checkNode_triple {node : Nat} {name : CStr} {c : CallKind}
    {rest : Nat → Prog (Option Nat)}
    (h : ∀ n, Triple (Atomic cfg) (Stage cfg c fun s => n ∈ s.w.ent.node.elements) (rest n)
      fun _ => Settled cfg c) :
    Triple (Atomic cfg) (Settled cfg c) (do
      let handle := (← readElement .node node).rmwNode
      if isUxrceRmwIdentifierValid handle.implementationIdentifier = false ∨ name = [] then
        return none
      else rest (deref handle.data) : Prog (Option Nat)) fun _ => Settled cfg c := by
  intro s hs
  rw [Prog.bind_run, readElement_run]
  dsimp only
  split
  · exact ⟨.refl, hs⟩
  · rename_i valid
    have hn : node ∈ s.w.ent.node.elements := hs.wf.nodeHandles.valid (by
      rw [not_or, Bool.not_eq_false] at valid
      exact valid.1)
    have data : deref ((Kind.node.slots s.w.ent).custom node).rmwNode.data = node := by
      have : ((Kind.node.slots s.w.ent).custom node).rmwNode =
          ⟨some .eprosimaMicroxrcedds, some node⟩ := hs.wf.nodeHandles.of_mem hn
      rw [this]
      rfl
    rw [data]
    exact h node s ⟨hs.wf, hs.call, hn⟩

/-! ## Subscriptions -/

theorem createSubscriptionObjects_triple {customNode n i : Nat} {topicName : CStr} {c : CallKind} :
    Triple (Atomic cfg) (Stage cfg c (Adopted (.subscription i) n))
      (createSubscriptionObjects cfg customNode topicName i) fun _ => Settled cfg c := by
  unfold createSubscriptionObjects
  refine (calm_contextOf _).adopted fun context => (calm_postIncrement _ _ _).adopted fun id => ?_
  refine (calm_writeSubscription _).adopted fun _ => (calm_readElement _ _).adopted fun _ => ?_
  refine (calm_runCreation _ _ _ _).adopted fun done => Triple.ite (fun _ => ?_) fun _ => exit_triple
  refine (calm_postIncrement _ _ _).adopted fun reader => ?_
  refine (calm_writeSubscription _).adopted fun _ => give_triple.bind fun _ => ?_
  cases endpointTexts cfg buildDatareaderProfile topicName with
  | none => exact exit_triple
  | some texts => exact (calm_runCreation _ _ _ _).sound.triple

theorem createSubscriptionBody_triple {n i : Nat}
    {typeSupport : TypeSupport MessageTypeSupportCallbacks} {topicName : CStr}
    {qosPolicies : RmwQosProfile} {c : CallKind} :
    Triple (Atomic cfg) (Stage cfg c (Held (.subscription i) n))
      (createSubscriptionBody cfg n typeSupport topicName qosPolicies i) fun _ => Settled cfg c := by
  unfold createSubscriptionBody
  refine Triple.ite (fun _ => exit_triple) fun _ => ?_
  refine (adopt_triple (owningSubscription cfg)).bind fun _ => ?_
  cases typeSupport with
  | undefined => exact exit_triple
  | nullData => exact (calm_writeSubscription _).adopted fun _ => exit_triple
  | callbacks members =>
    refine (calm_writeSubscription _).adopted fun _ => (calm_createTopic _ _ _).adopted fun topic => ?_
    refine (calm_writeSubscription _).adopted fun _ => Triple.ite (fun _ => ?_) fun _ => exit_triple
    exact createSubscriptionObjects_triple

theorem createSubscriptionFail_sound (i : Nat) : Sound cfg (createSubscriptionFail i) := by
  unfold createSubscriptionFail
  refine (calm_readElement _ _).sound.bind fun p => ?_
  cases p.topic with
  | none => exact (owningSubscription cfg).fini_sound i
  | some topic =>
    exact (calm_rmwUxrceFiniTopicMemory _).sound.bind fun _ => (owningSubscription cfg).fini_sound i

/-- `rmw_create_subscription`. -/
theorem rmwCreateSubscription_sound (node : Option Nat)
    (typeSupport : Option (TypeSupport MessageTypeSupportCallbacks)) (topicName : Option CStr)
    (qosPolicies : Option RmwQosProfile) :
    Sound cfg (rmwCreateSubscription cfg node typeSupport topicName qosPolicies) := by
  unfold rmwCreateSubscription
  split
  · exact .of_triple fun c => checkNode_triple fun n => create_triple (owningSubscription cfg)
      (fun _ => createSubscriptionBody_triple) createSubscriptionFail_sound
  · exact .pure

/-! ## Services -/

theorem createServiceBody_triple {n requestId i : Nat}
    {typeSupport : TypeSupport ServiceTypeSupportCallbacks} {serviceName : CStr}
    {qosPolicies : RmwQosProfile} {c : CallKind} :
    Triple (Atomic cfg) (Stage cfg c (Held (.service i) n))
      (createServiceBody cfg n typeSupport serviceName qosPolicies requestId i)
      fun _ => Settled cfg c := by
  unfold createServiceBody
  refine Triple.ite (fun _ => exit_triple) fun _ => ?_
  refine (adopt_triple (owningService cfg)).bind fun _ => ?_
  cases typeSupport with
  | undefined => exact exit_triple
  | nullData => exact (calm_writeService _).adopted fun _ => exit_triple
  | callbacks members =>
    refine (calm_writeService _).adopted fun _ => ?_
    unfold createServiceObject
    refine (calm_contextOf _).adopted fun context => (calm_postIncrement _ _ _).adopted fun id => ?_
    refine (calm_writeService _).adopted fun _ => (calm_readElement _ _).adopted fun _ => ?_
    dsimp only
    cases serviceTexts cfg ⟨id, .replier⟩ serviceName false members qosPolicies with
    | none => exact exit_triple
    | some texts =>
      refine (calm_runCreation _ _ _ _).adopted fun done =>
        Triple.ite (fun _ => ?_) fun _ => exit_triple
      exact (calm_writeService _).adopted fun _ => give_triple.bind fun _ => exit_triple

/-- `rmw_create_service`. -/
theorem rmwCreateService_sound (node : Option Nat)
    (typeSupport : Option (TypeSupport ServiceTypeSupportCallbacks)) (serviceName : Option CStr)
    (qosPolicies : Option RmwQosProfile) (requestId : Nat) :
    Sound cfg (rmwCreateService cfg node typeSupport serviceName qosPolicies requestId) := by
  unfold rmwCreateService
  split
  · exact .of_triple fun c => checkNode_triple fun n => create_triple (owningService cfg)
      (fun _ => createServiceBody_triple) (owningService cfg).fini_sound
  · exact .pure

/-! ## Clients -/

theorem createClientBody_triple {n requestId i : Nat}
    {typeSupport : TypeSupport ServiceTypeSupportCallbacks} {serviceName : CStr}
    {qosPolicies : RmwQosProfile} {c : CallKind} :
    Triple (Atomic cfg) (Stage cfg c (Held (.client i) n))
      (createClientBody cfg n typeSupport serviceName qosPolicies requestId i)
      fun _ => Settled cfg c := by
  unfold createClientBody
  refine Triple.ite (fun _ => exit_triple) fun _ => ?_
  refine (adopt_triple (owningClient cfg)).bind fun _ => ?_
  cases typeSupport with
  | undefined => exact exit_triple
  | nullData => exact (calm_writeClient _).adopted fun _ => exit_triple
  | callbacks members =>
    refine (calm_writeClient _).adopted fun _ => ?_
    unfold createClientObject
    refine (calm_contextOf _).adopted fun context => (calm_postIncrement _ _ _).adopted fun id => ?_
    refine (calm_writeClient _).adopted fun _ => (calm_readElement _ _).adopted fun _ => ?_
    dsimp only
    cases serviceTexts cfg ⟨id, .requester⟩ serviceName true members qosPolicies with
    | none => exact exit_triple
    | some texts =>
      refine (calm_runCreation _ _ _ _).adopted fun done =>
        Triple.ite (fun _ => ?_) fun _ => exit_triple
      exact (calm_writeClient _).adopted fun _ => give_triple.bind fun _ => exit_triple

/-- `rmw_create_client`. -/
theorem rmwCreateClient_sound (node : Option Nat)
    (typeSupport : Option (TypeSupport ServiceTypeSupportCallbacks)) (serviceName : Option CStr)
    (qosPolicies : Option RmwQosProfile) (requestId : Nat) :
    Sound cfg (rmwCreateClient cfg node typeSupport serviceName qosPolicies requestId) := by
  unfold rmwCreateClient
  split
  · exact .of_triple fun c => checkNode_triple fun n => create_triple (owningClient cfg)
      (fun _ => createClientBody_triple) (owningClient cfg).fini_sound
  · exact .pure

/-! ## Destruction -/

theorem rmwDestroySubscription_sound (node subscription : Option Nat) :
    Sound cfg (rmwDestroySubscription cfg node subscription) := by
  unfold rmwDestroySubscription
  refine (calm_destroyChecks _ _ _).sound.bind fun checked => ?_
  cases checked with
  | none => exact .pure
  | some found =>
    refine (calm_readElement _ _).sound.bind fun p => (calm_contextOf _).sound.bind fun context => ?_
    refine (calm_runDestruction _ _).sound.bind fun _ => (calm_destroyTopic _).sound.bind fun _ => ?_
    refine (calm_runDestruction _ _).sound.bind fun _ => (calm_runDestruction _ _).sound.bind fun _ => ?_
    exact ((owningSubscription cfg).fini_sound _).bind fun _ => .pure

theorem rmwDestroyService_sound (node service : Option Nat) :
    Sound cfg (rmwDestroyService cfg node service) := by
  unfold rmwDestroyService
  refine (calm_destroyChecks _ _ _).sound.bind fun checked => ?_
  cases checked with
  | none => exact .pure
  | some found =>
    refine (calm_readElement _ _).sound.bind fun p => (calm_contextOf _).sound.bind fun context => ?_
    refine (calm_runDestruction _ _).sound.bind fun _ => (calm_runDestruction _ _).sound.bind fun _ => ?_
    exact ((owningService cfg).fini_sound _).bind fun _ => .pure

theorem rmwDestroyClient_sound (node client : Option Nat) :
    Sound cfg (rmwDestroyClient cfg node client) := by
  unfold rmwDestroyClient
  refine (calm_destroyChecks _ _ _).sound.bind fun checked => ?_
  cases checked with
  | none => exact .pure
  | some found =>
    refine (calm_readElement _ _).sound.bind fun p => (calm_contextOf _).sound.bind fun context => ?_
    refine (calm_runDestruction _ _).sound.bind fun _ => (calm_runDestruction _ _).sound.bind fun _ => ?_
    exact ((owningClient cfg).fini_sound _).bind fun _ => .pure

end RmwMicroxrcedds
