import RmwMicroxrcedds.Proof.CreationEnds

/-!
# Entities with a single object

A service stands for a replier, a client for a requester and a node for a participant: one id is
drawn and one request made. They differ in what happens when there is no text for the request, where
a node is forgotten instead of being released.
-/

namespace RmwMicroxrcedds
set_option autoImplicit false

open Triples

variable {cfg : Config} {β : Type}

/-- How the creation of an entity with a single object ends, on the slot `i`. -/
inductive SingleEnd (s₀ : State) (c : Nat) (k : ObjectKind) (i : Nat) (parent : Option UxrObjectId)
    (texts : Option (List CStr)) (forgets : Bool) (leaves : Prop) :
    Option Nat → List ObjectKind → List (XrceRequest × Bool) → Prop
  /-- no id has been drawn -/
  | early (why : leaves) : SingleEnd s₀ c k i parent texts forgets leaves none [] []
  /-- there is no text for the request -/
  | untold (text : texts = none) :
    SingleEnd s₀ c k i parent texts forgets leaves (if forgets then some i else none) [k] []
  | refused {ts : List CStr} (text : texts = some ts)
    (answer : s₀.Reliable c → confirms s₀.agent = false) :
    SingleEnd s₀ c k i parent texts forgets leaves none [k]
      [(.create (s₀.w.ent.nextId c k) parent ts, false)]
  | made {ts : List CStr} (text : texts = some ts)
    (answer : s₀.Reliable c → confirms s₀.agent = true) :
    SingleEnd s₀ c k i parent texts forgets leaves (some i) [k]
      [(.create (s₀.w.ent.nextId c k) parent ts, true)]

/-! ## Services and clients -/

/-- The one object of a service or client. -/
structure OneObject (β : Type) [Element β] where
  kind : Kind β
  object : ObjectKind
  id : β → UxrObjectId
  withId : UxrObjectId → β → β
  ownerNode : β → Option Nat
  requester : Bool
  label : CStr → Nat → RmwQosProfile → β → β
  support : Option ServiceTypeSupportCallbacks → β → β
  finish : RmwQosProfile → Nat → β → β
  address : Nat → Owner
  aside : kind.Aside
  nodes : ∀ t e, (kind.withSlots t e).node = e.node
  id_withId : ∀ x b, id (withId x b) = x
  id_finish : ∀ qos r b, id (finish qos r b) = id b
  owner_label : ∀ name n qos b, ownerNode (label name n qos b) = some n
  owner_support : ∀ m b, ownerNode (support m b) = ownerNode b
  owner_withId : ∀ x b, ownerNode (withId x b) = ownerNode b
  owner_finish : ∀ qos r b, ownerNode (finish qos r b) = ownerNode b
  handle_label : ∀ name n qos b, Element.handle (label name n qos b) = Element.handle b
  handle_support : ∀ m b, Element.handle (support m b) = Element.handle b
  handle_withId : ∀ x b, Element.handle (withId x b) = Element.handle b
  handle_finish : ∀ qos r b, Element.handle (finish qos r b) = Element.handle b
  cards : ∀ e : Entities, e.cards object = (kind.slots e).cards ownerNode id
  cards_others : ∀ (e : Entities) u s t k, k ≠ object → k ≠ .topic →
    (kind.withSlots u { e with session := s, topic := t }).cards k = e.cards k

namespace OneObject

theorem service_nodes (t : Slots Service) (e : Entities) :
    (Kind.service.withSlots t e).node = e.node := rfl

theorem client_nodes (t : Slots Client) (e : Entities) :
    (Kind.client.withSlots t e).node = e.node := rfl

def service : OneObject Service where
  kind := .service
  object := .replier
  id := (·.serviceId)
  withId x p := { p with serviceId := x }
  ownerNode := (·.ownerNode)
  requester := false
  label name n qos p := { p with serviceName := name, ownerNode := some n, qos := qos }
  support m p := { p with typeSupportCallbacks := m }
  finish qos r p := { p with streamId := outputStream qos, serviceDataResquest := r }
  address := .service
  aside := ⟨fun _ _ => rfl, fun _ _ => rfl, fun _ _ _ => rfl, fun _ _ _ => rfl⟩
  nodes := service_nodes
  id_withId _ _ := rfl
  id_finish _ _ _ := rfl
  owner_label _ _ _ _ := rfl
  owner_support _ _ := rfl
  owner_withId _ _ := rfl
  owner_finish _ _ _ := rfl
  handle_label _ _ _ _ := rfl
  handle_support _ _ := rfl
  handle_withId _ _ := rfl
  handle_finish _ _ _ := rfl
  cards _ := rfl
  cards_others e u s t k hk ht := by
    cases k <;> first | rfl | exact absurd rfl ht | exact absurd rfl hk

def client : OneObject Client where
  kind := .client
  object := .requester
  id := (·.clientId)
  withId x p := { p with clientId := x }
  ownerNode := (·.ownerNode)
  requester := true
  label name n qos p := { p with serviceName := name, ownerNode := some n, qos := qos }
  support m p := { p with typeSupportCallbacks := m }
  finish qos r p := { p with streamId := outputStream qos, clientDataRequest := r }
  address := .client
  aside := ⟨fun _ _ => rfl, fun _ _ => rfl, fun _ _ _ => rfl, fun _ _ _ => rfl⟩
  nodes := client_nodes
  id_withId _ _ := rfl
  id_finish _ _ _ := rfl
  owner_label _ _ _ _ := rfl
  owner_support _ _ := rfl
  owner_withId _ _ := rfl
  owner_finish _ _ _ := rfl
  handle_label _ _ _ _ := rfl
  handle_support _ _ := rfl
  handle_withId _ _ := rfl
  handle_finish _ _ _ := rfl
  cards _ := rfl
  cards_others e u s t k hk ht := by
    cases k <;> first | rfl | exact absurd rfl ht | exact absurd rfl hk

variable [Element β] (one : OneObject β)

/-- The entities as bearers of their object. -/
def bearer : Bearer β where
  kind := one.kind
  parent := one.ownerNode
  objects := [one.object]
  id _ := one.id
  own e k hk := by
    rw [List.mem_singleton] at hk
    rw [hk]
    exact one.cards e
  others e u s t k hk := one.cards_others e u s t k (by simpa using hk)

/-- The creation of the object, and the request for its data. -/
def create (cfg : Config) (n : Nat) (members : ServiceTypeSupportCallbacks) (name : CStr)
    (qosPolicies : RmwQosProfile) (requestId i : Nat) : Prog Bool := do
  let context ← contextOf n
  let id ← drawId context one.object
  writeElement one.kind i (one.withId ⟨id, one.object⟩)
  let participant := (← readElement .node n).participantId
  match serviceTexts cfg ⟨id, one.object⟩ name one.requester members qosPolicies with
  | none => return false
  | some texts =>
    if ← runCreation cfg context ⟨id, one.object⟩ participant texts then
      writeElement one.kind i (one.finish qosPolicies requestId)
      modify (·.mapGhost (·.given (one.address i)))
      return true
    else return false

/-- The create function from the slot on. -/
def body (cfg : Config) (n : Nat) (typeSupport : TypeSupport ServiceTypeSupportCallbacks)
    (name : CStr) (qosPolicies : RmwQosProfile) (requestId i : Nat) : Prog Bool := do
  if cfg.topicNameMaxLength < name.length + 1 then return false
  else
    writeElement one.kind i (one.label name n qosPolicies)
    match typeSupport with
    | .undefined => return false
    | .nullData =>
      writeElement one.kind i (one.support none)
      return false
    | .callbacks members =>
      writeElement one.kind i (one.support (some members))
      one.create cfg n members name qosPolicies requestId i

section Body

variable {n i : Nat} {name : CStr} {typeSupport : TypeSupport ServiceTypeSupportCallbacks}
  {qosPolicies : RmwQosProfile} {requestId : Nat} {s₀ : State} {u : Slots β}

/-- The participant of the node, under which the object hangs. -/
def participant (e : Entities) (n : Nat) : Option UxrObjectId := some (e.node.custom n).participantId

/-- The slot belongs to the node and shows the id drawn. -/
structure Complete (n : Nat) (e : Entities) (b : β) : Prop where
  owner : one.ownerNode b = some n
  id : one.id b = e.nextId (e.contextOf n) one.object

/-- What the body has written to the slot `i` of the pool `u`. -/
structure Filled (cfg : Config) (n i : Nat) (s₀ : State) (u : Slots β) (created : Bool) (s : State)
    (f : β → β) (texts : Option (List CStr)) (ks : List ObjectKind)
    (rs : List (XrceRequest × Bool)) : Prop where
  handle : ∀ b, Element.handle (f b) = Element.handle b
  complete : created = true → ∀ b, one.Complete n s₀.w.ent (f b)
  end_ : SingleEnd s₀ (s₀.w.ent.contextOf n) one.object i (participant s₀.w.ent n) texts false True
    (if created then some i else none) ks rs
  spent : Spent one.kind (s₀.w.ent.contextOf n) s₀ ks (u.update i f) s₀.w.ent.topic rs s

theorem create_ends {members : ServiceTypeSupportCallbacks} {g : β → β}
    (handle : ∀ b, Element.handle (g b) = Element.handle b)
    (owner : ∀ b, one.ownerNode (g b) = some n) :
    Hoare (Spent one.kind (s₀.w.ent.contextOf n) s₀ [] (u.update i g) s₀.w.ent.topic [])
      (one.create cfg n members name qosPolicies requestId i)
      fun created s => ∃ f texts ks rs, one.Filled cfg n i s₀ u created s f texts ks rs := by
  unfold create
  refine Spent.context one.nodes n ?_
  refine Spent.draw one.aside (by simp) (Spent.write i _ ?_)
  refine Spent.readNode one.nodes n ?_
  rw [Slots.update_update]
  have named : ∀ b, Element.handle (one.withId (s₀.w.ent.nextId (s₀.w.ent.contextOf n) one.object)
      (g b)) = Element.handle b := fun b => (one.handle_withId _ _).trans (handle b)
  split
  · rename_i text
    exact Triple.pure fun s h => ⟨_, none, _, _, named, by simp, .untold rfl, h⟩
  · rename_i texts text
    refine Triple.bind (Spent.create one.aside cfg _ _ _) fun created => Triple.of_pre fun s h => ?_
    cases created with
    | false =>
      refine Triple.pure fun s' same => ?_
      subst same
      exact ⟨_, some texts, _, _, named, by simp, .refused rfl fun reliable => (h.2 reliable).symm, h.1⟩
    | true =>
      refine Triple.strengthen ?_ fun s' same => same ▸ h.1
      refine Spent.write i _ (Spent.ghost _ (Triple.pure fun s' h' => ?_))
      rw [Slots.update_update] at h'
      refine ⟨_, some texts, _, _, fun b => ?_, fun _ b => ⟨?_, ?_⟩,
        .made rfl fun reliable => (h.2 reliable).symm, h'⟩
      · exact (one.handle_finish _ _ _).trans (named b)
      · rw [one.owner_finish, one.owner_withId, owner]
      · rw [one.id_finish, one.id_withId]
        rfl

theorem body_ends :
    Hoare (Spent one.kind (s₀.w.ent.contextOf n) s₀ [] u s₀.w.ent.topic [])
      (one.body cfg n typeSupport name qosPolicies requestId i)
      fun created s => ∃ f texts ks rs, one.Filled cfg n i s₀ u created s f texts ks rs := by
  have label := one.handle_label name n qosPolicies
  have support : ∀ m b, Element.handle (one.support m (one.label name n qosPolicies b)) =
      Element.handle b := fun m b => (one.handle_support m _).trans (label b)
  unfold body
  refine Triple.ite (fun _ => ?_) fun _ => Spent.write i _ ?_
  · refine Triple.pure fun s h => ⟨fun b => b, none, [], [], fun _ => rfl, by simp, .early trivial, ?_⟩
    have same : (u.update i fun b => b) = u := Slots.update_id u i fun _ => rfl
    rwa [same]
  · cases typeSupport with
    | undefined => exact Triple.pure fun s h => ⟨_, none, _, _, label, by simp, .early trivial, h⟩
    | nullData =>
      refine Spent.write i _ (Triple.pure fun s h => ?_)
      rw [Slots.update_update] at h
      exact ⟨_, none, _, _, support none, by simp, .early trivial, h⟩
    | callbacks members =>
      refine Spent.write i _ ?_
      rw [Slots.update_update]
      refine one.create_ends (support _) fun b => ?_
      rw [one.owner_support, one.owner_label]

end Body

/-- How a create function of services or clients ends. -/
def Ends (node : Option Nat) (s t : State) : Prop :=
  t = s ∨ ∃ n i, node = some n ∧ n ∈ s.w.ent.node.elements ∧ (one.kind.slots s.w.ent).get.1 = some i ∧
    ∃ held texts ks rs, SingleEnd s (s.w.ent.contextOf n) one.object i (participant s.w.ent n) texts
        false True held ks rs ∧
      Created [one.object] (s.w.ent.contextOf n) (some n) held s ks s.w.ent.topic rs t

section Calls

variable {n i size : Nat} {name : CStr} {typeSupport : TypeSupport ServiceTypeSupportCallbacks}
  {qosPolicies : RmwQosProfile} {requestId : Nat} {s₀ : State}

variable (cfg n name typeSupport qosPolicies requestId) in
theorem held_ends (ok : (one.kind.slots s₀.w.ent).Ok size) (hs : Handles (one.kind.slots s₀.w.ent))
    (slot : (one.kind.slots s₀.w.ent).get.1 = some i) :
    Hoare (Spent one.kind (s₀.w.ent.contextOf n) s₀ [] ((one.kind.slots s₀.w.ent).opened i fun b => b)
        s₀.w.ent.topic [])
      (do
        if ← one.body cfg n typeSupport name qosPolicies requestId i then return some i
        else
          finiMemory one.kind (fun b => b) i
          return none)
      fun _ s => ∃ held texts ks rs, SingleEnd s₀ (s₀.w.ent.contextOf n) one.object i
          (participant s₀.w.ent n) texts false True held ks rs ∧
        Created [one.object] (s₀.w.ent.contextOf n) (some n) held s₀ ks s₀.w.ent.topic rs s := by
  refine Triple.bind one.body_ends fun created => Triple.exists_pre fun f =>
    Triple.exists_pre fun texts => Triple.exists_pre fun ks => Triple.exists_pre fun rs =>
    Triple.of_pre fun s h => ?_
  obtain ⟨-, elements, custom⟩ := ok.opened_update slot (fun b => b) f
  cases created with
  | true =>
    refine Triple.pure fun s' same => ⟨_, _, _, _, h.end_, ?_⟩
    subst same
    have own := Slots.update_custom_self ((one.kind.slots s₀.w.ent).opened i fun b => b) i f
    obtain ⟨owner, id⟩ := h.complete rfl (((one.kind.slots s₀.w.ent).opened i fun b => b).custom i)
    refine Spent.made (b := one.bearer) one.aside h.spent elements custom (by rw [own]; exact owner)
      fun k hk => ?_
    rw [show k = one.object from List.mem_singleton.1 hk, own]
    exact id
  | false =>
    have hs' := (hs.opened ok slot fun b => b).update i h.handle
    have mem : i ∈ (((one.kind.slots s₀.w.ent).opened i fun b => b).update i f).elements :=
      elements ▸ List.mem_cons_self
    obtain ⟨given, custom'⟩ := ok.opened_fini hs slot (fun b => b) h.handle (fun b => b)
      fun _ => rfl
    refine Triple.strengthen ?_ fun s' same => same ▸ h.spent
    refine Spent.fini (fun b => b) hs' mem (Triple.pure fun s' h' => ⟨_, _, _, _, h.end_, ?_⟩)
    exact Spent.kept (b := one.bearer) one.aside h' given custom'

/-- The create functions after the check of their arguments. -/
theorem checked_ends {s : State} (wf : Wf cfg s) {node : Nat} (ok : (one.kind.slots s.w.ent).Ok size)
    (hs : Handles (one.kind.slots s.w.ent)) :
    one.Ends (some node) s ((do
      let handle := (← readElement .node node).rmwNode
      if isUxrceRmwIdentifierValid handle.implementationIdentifier = false ∨ name = [] then
        return none
      else
        match ← acquire one.kind fun b => b with
        | none => return none
        | some i =>
          if ← one.body cfg (deref handle.data) typeSupport name qosPolicies requestId i then
            return some i
          else
            finiMemory one.kind (fun b => b) i
            return none : Prog (Option Nat)) s).2 := by
  rw [Prog.bind_run, readElement_run]
  dsimp only
  split
  · exact .inl rfl
  · rename_i valid
    rw [not_or, Bool.not_eq_false] at valid
    have inUse : node ∈ s.w.ent.node.elements := wf.nodeHandles.valid valid.1
    have own : ((Kind.node.slots s.w.ent).custom node).rmwNode =
      ⟨some .eprosimaMicroxrcedds, some node⟩ := wf.nodeHandles.of_mem inUse
    have data : deref ((Kind.node.slots s.w.ent).custom node).rmwNode.data = node := by
      rw [own]
      rfl
    rw [data]
    rcases acquire_cases one.kind (s.w.ent.contextOf node) (fun b => b) ok (a := none)
      (p := fun i => do
        if ← one.body cfg node typeSupport name qosPolicies requestId i then return some i
        else
          finiMemory one.kind (fun b => b) i
          return none) with same | ⟨i, t, slot, spent, run⟩
    · exact .inl (congrArg Prod.snd same)
    · refine .inr ⟨node, i, rfl, inUse, slot, ?_⟩
      have ended := (one.held_ends cfg node name typeSupport qosPolicies requestId ok hs slot t spent).2
      rw [← run] at ended
      exact ended

end Calls

end OneObject

theorem createServiceBody_eq (n : Nat) (typeSupport : TypeSupport ServiceTypeSupportCallbacks)
    (name : CStr) (qosPolicies : RmwQosProfile) (requestId : Nat) :
    createServiceBody cfg n typeSupport name qosPolicies requestId =
      OneObject.service.body cfg n typeSupport name qosPolicies requestId := by
  funext i
  simp only [createServiceBody, createServiceObject, postIncrement_idReplier]
  rfl

theorem createClientBody_eq (n : Nat) (typeSupport : TypeSupport ServiceTypeSupportCallbacks)
    (name : CStr) (qosPolicies : RmwQosProfile) (requestId : Nat) :
    createClientBody cfg n typeSupport name qosPolicies requestId =
      OneObject.client.body cfg n typeSupport name qosPolicies requestId := by
  funext i
  simp only [createClientBody, createClientObject, postIncrement_idRequester]
  rfl

section Calls

variable {s : State} (wf : Wf cfg s) (node : Option Nat)
  (typeSupport : Option (TypeSupport ServiceTypeSupportCallbacks)) (serviceName : Option CStr)
  (qosPolicies : Option RmwQosProfile) (requestId : Nat)

include wf

/-- **`rmw_create_service`** -/
theorem rmwCreateService_ends : OneObject.service.Ends node s
    (rmwCreateService cfg node typeSupport serviceName qosPolicies requestId s).2 := by
  unfold rmwCreateService
  split
  · rename_i n t name qos
    simp only [createServiceBody_eq]
    exact OneObject.service.checked_ends wf wf.service wf.serviceHandles
  · exact .inl rfl

/-- **`rmw_create_client`** -/
theorem rmwCreateClient_ends : OneObject.client.Ends node s
    (rmwCreateClient cfg node typeSupport serviceName qosPolicies requestId s).2 := by
  unfold rmwCreateClient
  split
  · rename_i n t name qos
    simp only [createClientBody_eq]
    exact OneObject.client.checked_ends wf wf.client wf.clientHandles
  · exact .inl rfl

end Calls

/-! ## Nodes -/

theorem Kind.node_aside : Kind.node.Aside :=
  ⟨fun _ _ => rfl, fun _ _ => rfl, fun _ _ _ => rfl, fun _ _ _ => rfl⟩

section Nodes

variable {name namespace_ : CStr} {c i : Nat} {s₀ : State}

/-- A name of the node does not fit its buffer. -/
def NamesTooLong (cfg : Config) (name namespace_ : CStr) : Prop :=
  cfg.nodeNameMaxLength < name.length + 1 ∨ cfg.nodeNameMaxLength < namespace_.length + 1

/-- How `create_node` ends, on the slot `i`. -/
def NodeEnd (cfg : Config) (c : Nat) (name namespace_ : CStr) (i : Nat) (s t : State) : Prop :=
  ∃ held ks rs, SingleEnd s c .participant i none ((participantText cfg name namespace_).map ([·]))
      true (NamesTooLong cfg name namespace_) held ks rs ∧
    Created [.participant] c (some c) held s ks s.w.ent.topic rs t ∧
    t.w.ent.node.memory.size = s.w.ent.node.memory.size

/-- What is written to the slot besides the handle. -/
structure Written (f : Node → Node) : Prop where
  handle : ∀ b, Element.handle (f b) = Element.handle b
  context : ∀ b, (f b).context = b.context

/-- An exit that releases the node. -/
theorem nodeGivenBack {size : Nat} (ok : s₀.w.ent.node.Ok size) (hs : Handles s₀.w.ent.node)
    (slot : s₀.w.ent.node.get.1 = some i) {enter f : Node → Node} (written : Written f)
    {ks : List ObjectKind} {rs : List (XrceRequest × Bool)}
    (end_ : SingleEnd s₀ c .participant i none ((participantText cfg name namespace_).map ([·])) true
      (NamesTooLong cfg name namespace_) none ks rs) :
    Hoare (Spent .node c s₀ ks ((s₀.w.ent.node.opened i enter).update i f) s₀.w.ent.topic rs)
      (do
        rmwUxrceFiniNodeMemory i
        return none : Prog (Option Nat))
      fun _ s => NodeEnd cfg c name namespace_ i s₀ s := by
  have hs' := (hs.opened ok slot enter).update i written.handle
  have mem : i ∈ ((s₀.w.ent.node.opened i enter).update i f).elements :=
    (ok.opened_update slot enter f).2.1 ▸ List.mem_cons_self
  obtain ⟨given, custom⟩ := ok.opened_fini hs slot enter written.handle
    (fun n => { n with context := none }) fun _ => rfl
  refine Spent.fini _ hs' mem (Triple.pure fun s h => ⟨none, ks, rs, end_, ?_, ?_⟩)
  · exact Spent.kept (b := Bearer.node) Kind.node_aside h given custom
  · have node : s.w.ent.node = _ := (congrArg Kind.node.slots h.ent).trans (Kind.spent_slots _)
    rw [node, Slots.fini_size]
    exact ok.get_size

/-- An exit that leaves the node in use. -/
theorem nodeHeld {size : Nat} (ok : s₀.w.ent.node.Ok size) (slot : s₀.w.ent.node.get.1 = some i)
    {f : Node → Node} (written : Written f)
    (id : ∀ b, (f b).participantId = s₀.w.ent.nextId c .participant) {r : Option Nat}
    {ks : List ObjectKind} {rs : List (XrceRequest × Bool)}
    (end_ : SingleEnd s₀ c .participant i none ((participantText cfg name namespace_).map ([·])) true
      (NamesTooLong cfg name namespace_) (some i) ks rs) :
    Hoare (Spent .node c s₀ ks
        ((s₀.w.ent.node.opened i fun n => { n with context := some c }).update i f)
        s₀.w.ent.topic rs)
      (Pure.pure r : Prog (Option Nat)) fun _ s => NodeEnd cfg c name namespace_ i s₀ s := by
  obtain ⟨-, elements, custom⟩ := ok.opened_update slot (fun n => { n with context := some c }) f
  have own := Slots.update_custom_self
    (s₀.w.ent.node.opened i fun n => { n with context := some c }) i f
  refine Triple.pure fun s h => ⟨some i, ks, rs, end_, ?_, ?_⟩
  swap
  · have node : s.w.ent.node = _ := (congrArg Kind.node.slots h.ent).trans (Kind.spent_slots _)
    rw [node]
    exact ok.get_size
  refine Spent.made (b := Bearer.node) Kind.node_aside h elements custom ?_ fun k hk => ?_
  · rw [own]
    show (f _).context = some c
    rw [written.context, Slots.opened, Slots.update_custom_self]
    rfl
  · rw [show k = .participant from List.mem_singleton.1 hk, own]
    exact id _

variable (name namespace_ c) in
theorem createNode_ends {s : State} (wf : Wf cfg s) :
    let t := (createNode cfg name namespace_ (some c) s).2
    (s.w.ent.node.get.1 = none ∧ t = s) ∨
      ∃ i, s.w.ent.node.get.1 = some i ∧ NodeEnd cfg c name namespace_ i s t := by
  unfold createNode
  cases slot : s.w.ent.node.get.1 with
  | none =>
    rw [Prog.bind_run, acquire_none .node _ wf.node slot]
    exact .inl ⟨rfl, rfl⟩
  | some i =>
    refine .inr ⟨i, rfl, ?_⟩
    obtain ⟨t, acquired, spent⟩ := acquire_spent .node c (fun n => { n with context := some c }) slot
    rw [Prog.bind_run, acquired]
    dsimp only
    refine ((?_ : Hoare (Spent .node c s [] (s.w.ent.node.opened i _) s.w.ent.topic []) _
      fun _ t => NodeEnd cfg c name namespace_ i s t) t spent).2
    have untouched : (s.w.ent.node.opened i fun n => { n with context := some c }) =
        (s.w.ent.node.opened i fun n => { n with context := some c }).update i id :=
      (Slots.update_id _ i fun _ => rfl).symm
    refine Triple.ite (fun long => ?_) fun _ => Spent.write i _ ?_
    · rw [untouched]
      exact nodeGivenBack wf.node wf.nodeHandles slot ⟨fun _ => rfl, fun _ => rfl⟩ (.early (.inl long))
    · refine Triple.ite (fun long => ?_) fun _ => Spent.write i _ ?_
      · refine nodeGivenBack wf.node wf.nodeHandles slot ?_ (.early (.inr long))
        exact ⟨fun _ => rfl, fun _ => rfl⟩
      · rw [postIncrement_idParticipant]
        refine Spent.draw Kind.node_aside (by simp) (Spent.write i _ ?_)
        rw [Slots.update_update, Slots.update_update]
        split
        · rename_i none
          refine nodeHeld wf.node slot ?_ ?_ (.untold (by rw [none]; rfl))
          · exact ⟨fun _ => rfl, fun _ => rfl⟩
          · exact fun _ => rfl
        · rename_i text some
          refine Spent.stream Kind.node_aside ?_
          rw [Session.drawn_creationStream]
          refine Triple.bind (Spent.ask cfg _) fun created => Triple.of_pre fun u h => ?_
          have told : (participantText cfg name namespace_).map ([·]) = .some [text] := by
            rw [some]
            rfl
          cases created with
          | true =>
            refine Triple.strengthen ?_ fun u' same => same ▸ h.1
            refine nodeHeld wf.node slot ?_ ?_ (.made told fun reliable => (h.2 reliable).symm)
            · exact ⟨fun _ => rfl, fun _ => rfl⟩
            · exact fun _ => rfl
          | false =>
            refine Triple.strengthen ?_ fun u' same => same ▸ h.1
            refine nodeGivenBack wf.node wf.nodeHandles slot ?_
              (.refused told fun reliable => (h.2 reliable).symm)
            exact ⟨fun _ => rfl, fun _ => rfl⟩

/-- **`rmw_create_node`** -/
theorem rmwCreateNode_ends {s : State} (wf : Wf cfg s) (c : Nat) (name namespace_ : Option CStr) :
    let t := (rmwCreateNode cfg (some c) name namespace_ s).2
    t = s ∨ ∃ i n ns, name = some n ∧ namespace_ = some ns ∧ s.w.ent.node.get.1 = some i ∧
      NodeEnd cfg c n ns i s t := by
  dsimp only
  unfold rmwCreateNode
  split
  · rename_i n ns
    split
    · exact .inl rfl
    · rcases createNode_ends n ns c wf with ⟨-, same⟩ | ⟨i, slot, end_⟩
      · exact .inl same
      · exact .inr ⟨i, n, ns, rfl, rfl, slot, end_⟩
  · exact .inl rfl

end Nodes

end RmwMicroxrcedds
