import RmwMicroxrcedds.Proof.SingleEnds
import RmwMicroxrcedds.Proof.CreationEnds
import RmwMicroxrcedds.Proof.Unmoved

/-!
# The records of entities, while one is created

A creation takes an element and labels it before it talks to the agent. From the label on everything is unmoved
in which the later writes to that element do not show.
-/

namespace RmwMicroxrcedds
set_option autoImplicit false

open Triples

variable {cfg : Config} {α β γ : Type} {v : Entities → γ}

/-- A body unmoved from its start, or from a write to its element. -/
def Labels (v : Entities → γ) (k : Kind β) (i : Nat) (p : Prog α) : Prop :=
  ∀ s, Unmoved v s (p s).2 ∨ ∃ f : β → β, Unmoved v (writeElement k i f s).2 (p s).2

theorem Labels.of_unmoved {k : Kind β} {i : Nat} {p : Prog α} (h : Within (Unmoved v) p) : Labels v k i p :=
  fun s => .inl (h s)

/-- A body that begins with the label. -/
theorem Labels.write {k : Kind β} {i : Nat} {f : β → β} {p : Unit → Prog α} (h : Within (Unmoved v) (p ())) :
    Labels v k i (writeElement k i f >>= p) := fun s => .inr ⟨f, h (writeElement k i f s).2⟩

theorem Labels.ite {k : Kind β} {i : Nat} {c : Prop} [Decidable c] {p q : Prog α} (yes : Labels v k i p)
    (no : Labels v k i q) : Labels v k i (if c then p else q) := by
  split
  · exact yes
  · exact no

theorem Records.drawId (records : Records v) (context : Nat) (k : ObjectKind) :
    Within (Unmoved v) (drawId context k) :=
  Within.bind (walk_readElement _ _) fun _ => Within.bind (records.session.overlooks.write _ _) fun _ => .pure

/-! ## Publishers and subscriptions -/

namespace TwoObjects

variable [Element β] (two : TwoObjects β)

/-- The writes to the element that come after its label do not show. -/
structure Hidden (v : Entities → γ) (i : Nat) : Prop where
  support : ∀ m, Within (Unmoved v) (writeElement two.ep.kind i (two.support m))
  topic : ∀ x, Within (Unmoved v) (writeElement two.ep.kind i (two.ep.withTopic x))
  outer : ∀ x, Within (Unmoved v) (writeElement two.ep.kind i (two.withOuter x))
  inner : ∀ x, Within (Unmoved v) (writeElement two.ep.kind i (two.withInner x))

variable {two} {i : Nat}

/-- The objects of an endpoint are created after its label. -/
theorem Hidden.create (hidden : two.Hidden v i) (records : Records v) (n : Nat) (name : CStr) :
    Within (Unmoved v) (two.create cfg n name i) := by
  unfold TwoObjects.create
  refine Within.bind (walk_contextOf _) fun _ => Within.bind (records.drawId _ _) fun _ => ?_
  refine Within.bind (hidden.outer _) fun _ => Within.bind (walk_readElement _ _) fun _ => ?_
  refine Within.bind (walk_runCreation _ _ _ _) fun created => Within.ite ?_ .pure
  refine Within.bind (records.drawId _ _) fun _ => Within.bind (hidden.inner _) fun _ => ?_
  refine Within.bind (fun _ => .silent rfl rfl) fun _ => ?_
  split
  · exact .pure
  · exact walk_runCreation _ _ _ _

theorem Hidden.body (hidden : two.Hidden v i) (records : Records v) (n : Nat)
    (typeSupport : TypeSupport MessageTypeSupportCallbacks) (name : CStr) (qosPolicies : RmwQosProfile) :
    Labels v two.ep.kind i (two.body cfg n typeSupport name qosPolicies i) := by
  unfold TwoObjects.body
  refine Labels.ite (.of_unmoved .pure) (.write ?_)
  cases typeSupport with
  | undefined => exact .pure
  | nullData => exact Within.bind (hidden.support _) fun _ => .pure
  | callbacks members =>
    refine Within.bind (hidden.support _) fun _ => ?_
    unfold createAll
    refine Within.bind (walk_createTopic records.session.overlooks.write records.topics members) fun topic => ?_
    exact Within.bind (hidden.topic topic) fun _ => Within.ite (hidden.create records n name) .pure

end TwoObjects

/-! ## Services and clients -/

namespace OneObject

variable [Element β] (one : OneObject β)

structure Hidden (v : Entities → γ) (i : Nat) : Prop where
  support : ∀ m, Within (Unmoved v) (writeElement one.kind i (one.support m))
  id : ∀ x, Within (Unmoved v) (writeElement one.kind i (one.withId x))
  finish : ∀ qos r, Within (Unmoved v) (writeElement one.kind i (one.finish qos r))

variable {one} {i : Nat}

theorem Hidden.body (hidden : one.Hidden v i) (records : Records v) (n : Nat)
    (typeSupport : TypeSupport ServiceTypeSupportCallbacks) (name : CStr) (qosPolicies : RmwQosProfile)
    (requestId : Nat) : Labels v one.kind i (one.body cfg n typeSupport name qosPolicies requestId i) := by
  unfold OneObject.body
  refine Labels.ite (.of_unmoved .pure) (.write ?_)
  cases typeSupport with
  | undefined => exact .pure
  | nullData => exact Within.bind (hidden.support _) fun _ => .pure
  | callbacks members =>
    refine Within.bind (hidden.support _) fun _ => ?_
    unfold OneObject.create
    refine Within.bind (walk_contextOf _) fun _ => Within.bind (records.drawId _ _) fun _ => ?_
    refine Within.bind (hidden.id _) fun _ => Within.bind (walk_readElement _ _) fun _ => ?_
    dsimp only
    split
    · exact .pure
    · refine Within.bind (walk_runCreation _ _ _ _) fun created => Within.ite ?_ .pure
      exact Within.bind (hidden.finish _ _) fun _ => Within.bind (fun _ => .silent rfl rfl) fun _ => .pure

end OneObject

/-! ## The create functions -/

/-- A call that is unmoved, or so from the label of the element it takes on. -/
inductive TakesOn (v : Entities → γ) [Element β] (k : Kind β) (s t : State) : Prop
  | unmoved (h : Unmoved v s t)
  | labelled (i : Nat) (f : β → β) (slot : (k.slots s.w.ent).get.1 = some i)
      (h : Unmoved v (writeElement k i f (acquire k id s).2).2 t)

/-- The frame of the create functions of endpoints, services and clients. -/
theorem checked_takesOn [Element β] {k : Kind β} {s : State} {name : CStr} {node : Nat} {p : Nat → Nat → Prog Bool}
    {fail : Nat → Prog Unit} (taken : Within (Unmoved v) (acquire k id))
    (body : ∀ n i, (k.slots s.w.ent).get.1 = some i → Labels v k i (p n i))
    (failed : ∀ i, Within (Unmoved v) (fail i)) :
    TakesOn v k s ((do
      let handle := (← readElement .node node).rmwNode
      if isUxrceRmwIdentifierValid handle.implementationIdentifier = false ∨ name = [] then
        return none
      else
        match ← acquire k id with
        | none => return none
        | some i =>
          if ← p (deref handle.data) i then return some i
          else
            fail i
            return none : Prog (Option Nat)) s).2 := by
  rw [Prog.bind_run, readElement_run]
  dsimp only
  split
  · exact .unmoved (Std.Refl.refl s)
  · have first : Unmoved v s (acquire k id s).2 := taken s
    rw [Prog.bind_run]
    cases slot : (k.slots s.w.ent).get.1 with
    | none =>
      have none : (acquire k id s).1 = none := by
        have nothing : (getMemory k s).1 = none := slot
        rw [acquire, Prog.bind_run, nothing]
        rfl
      rw [none]
      exact .unmoved first
    | some i =>
      have given : (acquire k id s).1 = some i := by rw [acquire_some k id slot]
      rw [given]
      set s₁ := (acquire k id s).2
      dsimp only
      rw [Prog.bind_run]
      set n := deref ((Kind.node.slots s.w.ent).custom node).rmwNode.data
      have rest : Unmoved v (p n i s₁).2 ((if (p n i s₁).1 = true then pure (some i) else do
          fail i
          return none : Prog (Option Nat)) (p n i s₁).2).2 := by
        split
        · exact Std.Refl.refl _
        · exact Within.bind (failed i) (fun _ => .pure) _
      rcases body n i slot s₁ with unmoved | ⟨f, unmoved⟩
      · exact .unmoved (IsTrans.trans _ _ _ first (IsTrans.trans _ _ _ unmoved rest))
      · exact .labelled i f slot (IsTrans.trans _ _ _ unmoved rest)

section Calls

variable (records : Records v) {s : State}
include records

/-- The fail label of an endpoint releases it, and the topic it shows. -/
theorem Records.fail [Element β] (ep : Endpoint β)
    (released : ∀ i, Within (Unmoved v) (finiMemory ep.kind id i)) (i : Nat) :
    Within (Unmoved v) (ep.fail i) := by
  unfold Endpoint.fail
  refine Within.bind (walk_readElement _ _) fun b => Within.bind ?_ fun _ => released i
  cases ep.topic b with
  | none => exact .pure
  | some topic => exact records.topics.fini topic

/-- `rmw_create_publisher` -/
theorem Records.rmwCreatePublisher (node : Option Nat)
    (typeSupport : Option (TypeSupport MessageTypeSupportCallbacks)) (name : Option CStr)
    (qosPolicies : Option RmwQosProfile)
    (hidden : ∀ i, s.w.ent.publisher.get.1 = some i → TwoObjects.publisher.Hidden v i) :
    TakesOn v .publisher s (rmwCreatePublisher cfg node typeSupport name qosPolicies s).2 := by
  unfold RmwMicroxrcedds.rmwCreatePublisher
  split
  · rename_i n t name qos
    simp only [createPublisherFail_eq, createPublisherBody_eq]
    refine checked_takesOn (p := fun n => TwoObjects.publisher.body cfg n t name qos)
      (records.publisher.acquire (fun _ _ => rfl) fun _ => rfl) (fun n i slot => ?_)
      (records.fail .publisher records.releases.publisher)
    exact (hidden i slot).body records n t name qos
  · exact .unmoved (Std.Refl.refl s)

/-- `rmw_create_subscription` -/
theorem Records.rmwCreateSubscription (node : Option Nat)
    (typeSupport : Option (TypeSupport MessageTypeSupportCallbacks)) (name : Option CStr)
    (qosPolicies : Option RmwQosProfile)
    (hidden : ∀ i, s.w.ent.subscription.get.1 = some i → TwoObjects.subscription.Hidden v i) :
    TakesOn v .subscription s (rmwCreateSubscription cfg node typeSupport name qosPolicies s).2 := by
  unfold RmwMicroxrcedds.rmwCreateSubscription
  split
  · rename_i n t name qos
    simp only [createSubscriptionFail_eq, createSubscriptionBody_eq]
    refine checked_takesOn (p := fun n => TwoObjects.subscription.body cfg n t name qos)
      (records.subscription.acquire (fun _ _ => rfl) fun _ => rfl) (fun n i slot => ?_)
      (records.fail .subscription records.releases.subscription)
    exact (hidden i slot).body records n t name qos
  · exact .unmoved (Std.Refl.refl s)

/-- `rmw_create_service` -/
theorem Records.rmwCreateService (node : Option Nat)
    (typeSupport : Option (TypeSupport ServiceTypeSupportCallbacks)) (name : Option CStr)
    (qosPolicies : Option RmwQosProfile) (requestId : Nat)
    (hidden : ∀ i, s.w.ent.service.get.1 = some i → OneObject.service.Hidden v i) :
    TakesOn v .service s (rmwCreateService cfg node typeSupport name qosPolicies requestId s).2 := by
  unfold RmwMicroxrcedds.rmwCreateService
  split
  · rename_i n t name qos
    simp only [createServiceBody_eq]
    refine checked_takesOn (p := fun n => OneObject.service.body cfg n t name qos requestId)
      (records.service.acquire (fun _ _ => rfl) fun _ => rfl) (fun n i slot => ?_) records.releases.service
    exact (hidden i slot).body records n t name qos requestId
  · exact .unmoved (Std.Refl.refl s)

/-- `rmw_create_client` -/
theorem Records.rmwCreateClient (node : Option Nat)
    (typeSupport : Option (TypeSupport ServiceTypeSupportCallbacks)) (name : Option CStr)
    (qosPolicies : Option RmwQosProfile) (requestId : Nat)
    (hidden : ∀ i, s.w.ent.client.get.1 = some i → OneObject.client.Hidden v i) :
    TakesOn v .client s (rmwCreateClient cfg node typeSupport name qosPolicies requestId s).2 := by
  unfold RmwMicroxrcedds.rmwCreateClient
  split
  · rename_i n t name qos
    simp only [createClientBody_eq]
    refine checked_takesOn (p := fun n => OneObject.client.body cfg n t name qos requestId)
      (records.client.acquire (fun _ _ => rfl) fun _ => rfl) (fun n i slot => ?_) records.releases.client
    exact (hidden i slot).body records n t name qos requestId
  · exact .unmoved (Std.Refl.refl s)

end Calls

/-! ## All calls -/

/-- What the view sees is not in the elements that are handed out next. -/
structure Elsewhere (v : Entities → γ) (s : State) : Prop where
  publisher : ∀ i, s.w.ent.publisher.get.1 = some i →
    ∀ f, Within (Unmoved v) (writeElement .publisher i f)
  subscription : ∀ i, s.w.ent.subscription.get.1 = some i →
    ∀ f, Within (Unmoved v) (writeElement .subscription i f)
  service : ∀ i, s.w.ent.service.get.1 = some i → ∀ f, Within (Unmoved v) (writeElement .service i f)
  client : ∀ i, s.w.ent.client.get.1 = some i → ∀ f, Within (Unmoved v) (writeElement .client i f)

/-- A view that does not look at the new element is unmoved along the whole call. -/
theorem TakesOn.unmoved_of [Element β] {k : Kind β} {s t : State} (h : TakesOn v k s t)
    (taken : Within (Unmoved v) (acquire k id))
    (aside : ∀ i, (k.slots s.w.ent).get.1 = some i → ∀ f, Within (Unmoved v) (writeElement k i f)) :
    Unmoved v s t := by
  cases h with
  | unmoved h => exact h
  | labelled i f slot h =>
    have first : Unmoved v s (acquire k id s).2 := taken s
    exact IsTrans.trans _ _ _ first (IsTrans.trans _ _ _ (aside i slot f _) h)

/-- The view at the end is the one at all moments recorded on the way. -/
def Settles (v : Entities → γ) (s t : State) : Prop :=
  ∃ newer, t.trace = newer ++ s.trace ∧ ∀ m ∈ newer, v m.world.ent = v t.w.ent

theorem Unmoved.settles {s t : State} (h : Unmoved v s t) : Settles v s t := by
  obtain ⟨newer, trace, saw⟩ := h.seen
  exact ⟨newer, trace, fun m hm => (saw m hm).trans h.same.symm⟩

/-- A creation records nothing before the label, so all it records sees the view as it is at the end. -/
theorem TakesOn.settles [Element β] {k : Kind β} {s t : State} (h : TakesOn v k s t) : Settles v s t := by
  cases h with
  | unmoved h => exact h.settles
  | labelled i f slot h =>
    obtain ⟨newer, trace, saw⟩ := h.settles
    refine ⟨newer, trace.trans ?_, saw⟩
    rw [acquire_some k id slot]
    rfl

/-- The calls that create no publisher, subscription, service or client. -/
def Call.Plain : Call → Bool
  | .createPublisher .. | .createSubscription .. | .createService .. | .createClient .. => false
  | _ => true

/-- **The calls that create no entity** move no view of the records. -/
theorem Records.performPlain (records : Records v) {c : Call} (plain : c.Plain = true) :
    Within (Unmoved v) (perform cfg c) := by
  have sessions : Overlooks (Unmoved v) .session := records.session.overlooks
  have guards : Overlooks (Unmoved v) .guardCondition := records.guardCondition.overlooks
  have releases : Releases (Unmoved v) := records.releases
  cases c with
  | init env => exact Within.bind (records.rmwInit env) fun _ => .pure
  | shutdown impl => exact Within.bind (frame_rmwShutdown sessions releases impl) fun _ => .pure
  | createNode context name namespace_ =>
    exact Within.bind (frame_rmwCreateNode sessions records.node.overlooks _ name namespace_) fun _ => .pure
  | destroyNode node => exact Within.bind (walk_rmwDestroyNode releases node) fun _ => .pure
  | createPublisher | createSubscription | createService | createClient => cases plain
  | destroyPublisher node publisher =>
    exact Within.bind (walk_rmwDestroyPublisher releases.topic releases.publisher node _) fun _ => .pure
  | destroySubscription node subscription =>
    exact Within.bind (walk_rmwDestroySubscription releases.topic releases.subscription node _) fun _ => .pure
  | destroyService node service =>
    exact Within.bind (walk_rmwDestroyService releases.service node _) fun _ => .pure
  | destroyClient node client =>
    exact Within.bind (walk_rmwDestroyClient releases.client node _) fun _ => .pure
  | take subscription cdrDeserialize => exact Within.bind (outer_takeFrom _ _ _ _) fun _ => .pure
  | takeRequest service cdrDeserialize => exact Within.bind (outer_takeFrom _ _ _ _) fun _ => .pure
  | takeResponse client cdrDeserialize => exact Within.bind (outer_takeFrom _ _ _ _) fun _ => .pure
  | wait set waitTimeout =>
    refine Within.bind (walk_rmwWait outer_clean ?_ ?_ set waitTimeout) fun _ => .pure
    · exact fun c _ => sessions.write c _
    · exact fun i => guards.write i _
  | createGuardCondition =>
    exact Within.bind (walk_rmwCreateGuardCondition guards.get guards.write) fun _ => .pure
  | destroyGuardCondition i => exact Within.bind (walk_rmwDestroyGuardCondition guards.put i) fun _ => .pure
  | triggerGuardCondition i =>
    exact Within.bind (walk_rmwTriggerGuardCondition (fun j => guards.write j _) i) fun _ => .pure
  | publish env publisher => exact Within.bind (walk_rmwPublish env publisher) fun _ => .pure
  | sendRequest env client =>
    refine Within.bind (walk_sendOn env .client _ _ client) fun ret => ?_
    cases ret <;> exact .pure
  | sendResponse env service =>
    refine Within.bind (walk_sendOn env .service _ _ service) fun ret => ?_
    cases ret <;> exact .pure
  | syncSession offset => exact Within.bind (frame_rmwUrosSyncSession sessions offset) fun _ => .pure
  | time d => exact fun s => .silent rfl rfl

/-- No call moves what is elsewhere. -/
theorem Records.perform (records : Records v) {s : State} (aside : Elsewhere v s) (c : Call) :
    Unmoved v s (perform cfg c s).2 := by
  by_cases plain : c.Plain = true
  · exact records.performPlain plain s
  · cases c with
    | createPublisher node typeSupport topicName qosPolicies =>
      apply (records.rmwCreatePublisher node typeSupport topicName qosPolicies ?_).unmoved_of
      · exact records.publisher.acquire (fun _ _ => rfl) fun _ => rfl
      · exact aside.publisher
      · exact fun i slot => ⟨fun _ => aside.publisher i slot _, fun _ => aside.publisher i slot _,
          fun _ => aside.publisher i slot _, fun _ => aside.publisher i slot _⟩
    | createSubscription node typeSupport topicName qosPolicies =>
      apply (records.rmwCreateSubscription node typeSupport topicName qosPolicies ?_).unmoved_of
      · exact records.subscription.acquire (fun _ _ => rfl) fun _ => rfl
      · exact aside.subscription
      · exact fun i slot => ⟨fun _ => aside.subscription i slot _, fun _ => aside.subscription i slot _,
          fun _ => aside.subscription i slot _, fun _ => aside.subscription i slot _⟩
    | createService node typeSupport serviceName qosPolicies requestId =>
      apply (records.rmwCreateService node typeSupport serviceName qosPolicies requestId ?_).unmoved_of
      · exact records.service.acquire (fun _ _ => rfl) fun _ => rfl
      · exact aside.service
      · exact fun i slot => ⟨fun _ => aside.service i slot _, fun _ => aside.service i slot _,
          fun _ _ => aside.service i slot _⟩
    | createClient node typeSupport serviceName qosPolicies requestId =>
      apply (records.rmwCreateClient node typeSupport serviceName qosPolicies requestId ?_).unmoved_of
      · exact records.client.acquire (fun _ _ => rfl) fun _ => rfl
      · exact aside.client
      · exact fun i slot => ⟨fun _ => aside.client i slot _, fun _ => aside.client i slot _,
          fun _ _ => aside.client i slot _⟩
    | _ => exact absurd rfl plain

/-! ## Profiles -/

/-- Profiles are part of the records. -/
theorem records_qos : Records Entities.qos where
  session _ _ _ := funext fun o => by cases o <;> rfl
  node _ _ _ := funext fun o => by cases o <;> rfl
  topic _ _ _ := funext fun o => by cases o <;> rfl
  guardCondition _ _ _ := funext fun o => by cases o <;> rfl
  publisher _ _ _ := funext fun o => by cases o <;> rfl
  subscription _ _ same := funext fun o => by
    cases o with
    | subscription i =>
      have profile := congrArg Subscription.qos (same i)
      exact profile
    | _ => rfl
  service _ _ same := funext fun o => by
    cases o with
    | service i =>
      have profile := congrArg Service.qos (same i)
      exact profile
    | _ => rfl
  client _ _ same := funext fun o => by
    cases o with
    | client i =>
      have profile := congrArg Client.qos (same i)
      exact profile
    | _ => rfl

theorem sees_publisher : Sees Entities.qos .publisher fun _ => () := fun _ _ _ =>
  funext fun o => by cases o <;> rfl

theorem sees_subscription : Sees Entities.qos .subscription Subscription.qos := fun _ _ same =>
  funext fun o => by
    cases o with
    | subscription i => exact same i
    | _ => rfl

theorem sees_service : Sees Entities.qos .service Service.qos := fun _ _ same => funext fun o => by
  cases o with
  | service i => exact same i
  | _ => rfl

theorem sees_client : Sees Entities.qos .client Client.qos := fun _ _ same => funext fun o => by
  cases o with
  | client i => exact same i
  | _ => rfl

/-- **All moments of a call see the profiles there are at its end.** -/
theorem perform_settles (c : Call) (s : State) : Settles Entities.qos s (perform cfg c s).2 := by
  by_cases plain : c.Plain = true
  · exact (records_qos.performPlain plain s).settles
  · cases c with
    | createPublisher node typeSupport topicName qosPolicies =>
      have write : ∀ i (f : Publisher → Publisher), Within (Unmoved Entities.qos) (writeElement .publisher i f) :=
        fun i f => sees_publisher.write (fun _ => rfl) i
      refine (records_qos.rmwCreatePublisher node typeSupport topicName qosPolicies fun i _ => ?_).settles
      exact ⟨fun _ => write i _, fun _ => write i _, fun _ => write i _, fun _ => write i _⟩
    | createSubscription node typeSupport topicName qosPolicies =>
      have write : ∀ i (f : Subscription → Subscription), (∀ b, (f b).qos = b.qos) →
          Within (Unmoved Entities.qos) (writeElement .subscription i f) := fun i f keeps => sees_subscription.write keeps i
      refine (records_qos.rmwCreateSubscription node typeSupport topicName qosPolicies fun i _ => ?_).settles
      exact ⟨fun m => write i (TwoObjects.subscription.support m) fun _ => rfl,
        fun x => write i (TwoObjects.subscription.ep.withTopic x) fun _ => rfl,
        fun x => write i (TwoObjects.subscription.withOuter x) fun _ => rfl,
        fun x => write i (TwoObjects.subscription.withInner x) fun _ => rfl⟩
    | createService node typeSupport serviceName qosPolicies requestId =>
      have write : ∀ i (f : Service → Service), (∀ b, (f b).qos = b.qos) →
          Within (Unmoved Entities.qos) (writeElement .service i f) := fun i f keeps => sees_service.write keeps i
      refine (records_qos.rmwCreateService node typeSupport serviceName qosPolicies requestId fun i _ => ?_).settles
      exact ⟨fun m => write i (OneObject.service.support m) fun _ => rfl,
        fun x => write i (OneObject.service.withId x) fun _ => rfl,
        fun qos r => write i (OneObject.service.finish qos r) fun _ => rfl⟩
    | createClient node typeSupport serviceName qosPolicies requestId =>
      have write : ∀ i (f : Client → Client), (∀ b, (f b).qos = b.qos) →
          Within (Unmoved Entities.qos) (writeElement .client i f) := fun i f keeps => sees_client.write keeps i
      refine (records_qos.rmwCreateClient node typeSupport serviceName qosPolicies requestId fun i _ => ?_).settles
      exact ⟨fun m => write i (OneObject.client.support m) fun _ => rfl,
        fun x => write i (OneObject.client.withId x) fun _ => rfl,
        fun qos r => write i (OneObject.client.finish qos r) fun _ => rfl⟩
    | _ => exact absurd rfl plain

end RmwMicroxrcedds
