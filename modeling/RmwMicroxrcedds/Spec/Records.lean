import RmwMicroxrcedds.Proof.Steps
import RmwMicroxrcedds.Proof.UnmovedCreations

/-!
# Entities keep their records

The record of a publisher, subscription, service or client holds the ids of its XRCE objects, its type support, topic,
profile, stream, owner node, name and handle; for a service or client also the id of its data request. The call that
creates the entity writes it. Whatever is called, raised or answered afterwards, these fields stay as they are until
the entity is released. The fields that the user sets, `session_timeout` and the callbacks of the continous
serialization, are not among them.
-/

namespace RmwMicroxrcedds
set_option autoImplicit false

open Triples

variable {cfg : Config} {β : Type}

/-- A kind of entities, with what its records are. -/
structure RecordKind (β : Type) [Element β] where
  kind : Kind β
  record : β → β
  size : Config → Nat
  restore : ∀ a b, record a = record b → Element.handle a = Element.handle b → a = b
  ok : ∀ {cfg : Config} {s : State}, Wf cfg s → (kind.slots s.w.ent).Ok (size cfg)
  handles : ∀ {cfg : Config} {s : State}, Wf cfg s → Handles (kind.slots s.w.ent)
  records : ∀ i, Records fun e => record ((kind.slots e).custom i)
  elsewhere : ∀ (s : State) (i : Nat), (∀ j, (kind.slots s.w.ent).get.1 = some j → j ≠ i) →
    Elsewhere (fun e => record ((kind.slots e).custom i)) s

/-- A write to a kind the view does not look at. -/
theorem unmoved_write {γ : Type} {v : Entities → γ} {k : Kind β} (sees : Sees v k fun _ => ()) (i : Nat)
    (f : β → β) : Within (Unmoved v) (writeElement k i f) := sees.write (fun _ => rfl) i

namespace RecordKind

def publisher : RecordKind Publisher where
  kind := .publisher
  record := Publisher.record
  size := (·.maxPublishers)
  restore := by
    rintro ⟨⟩ ⟨⟩ same handle
    cases same
    cases handle
    rfl
  ok wf := wf.publisher
  handles wf := wf.publisherHandles
  records i := ⟨fun _ _ _ => rfl, fun _ _ _ => rfl, fun _ _ _ => rfl, fun _ _ _ => rfl,
    fun _ _ same => same i, fun _ _ _ => rfl, fun _ _ _ => rfl, fun _ _ _ => rfl⟩
  elsewhere s i apart := by
    constructor
    · intro j slot f s'
      refine .silent ?_ rfl
      exact congrArg Publisher.record (Slots.update_custom_of_ne _ _ (apart j slot).symm)
    · exact fun j _ f => unmoved_write (fun _ _ _ => rfl) j f
    · exact fun j _ f => unmoved_write (fun _ _ _ => rfl) j f
    · exact fun j _ f => unmoved_write (fun _ _ _ => rfl) j f

def subscription : RecordKind Subscription where
  kind := .subscription
  record := Subscription.record
  size := (·.maxSubscriptions)
  restore := by
    rintro ⟨⟩ ⟨⟩ same handle
    cases same
    cases handle
    rfl
  ok wf := wf.subscription
  handles wf := wf.subscriptionHandles
  records i := ⟨fun _ _ _ => rfl, fun _ _ _ => rfl, fun _ _ _ => rfl, fun _ _ _ => rfl,
    fun _ _ _ => rfl, fun _ _ same => same i, fun _ _ _ => rfl, fun _ _ _ => rfl⟩
  elsewhere s i apart := by
    constructor
    · exact fun j _ f => unmoved_write (fun _ _ _ => rfl) j f
    · intro j slot f s'
      refine .silent ?_ rfl
      exact congrArg Subscription.record (Slots.update_custom_of_ne _ _ (apart j slot).symm)
    · exact fun j _ f => unmoved_write (fun _ _ _ => rfl) j f
    · exact fun j _ f => unmoved_write (fun _ _ _ => rfl) j f

def service : RecordKind Service where
  kind := .service
  record := Service.record
  size := (·.maxServices)
  restore := by
    rintro ⟨⟩ ⟨⟩ same handle
    cases same
    cases handle
    rfl
  ok wf := wf.service
  handles wf := wf.serviceHandles
  records i := ⟨fun _ _ _ => rfl, fun _ _ _ => rfl, fun _ _ _ => rfl, fun _ _ _ => rfl,
    fun _ _ _ => rfl, fun _ _ _ => rfl, fun _ _ same => same i, fun _ _ _ => rfl⟩
  elsewhere s i apart := by
    constructor
    · exact fun j _ f => unmoved_write (fun _ _ _ => rfl) j f
    · exact fun j _ f => unmoved_write (fun _ _ _ => rfl) j f
    · intro j slot f s'
      refine .silent ?_ rfl
      exact congrArg Service.record (Slots.update_custom_of_ne _ _ (apart j slot).symm)
    · exact fun j _ f => unmoved_write (fun _ _ _ => rfl) j f

def client : RecordKind Client where
  kind := .client
  record := Client.record
  size := (·.maxClients)
  restore := by
    rintro ⟨⟩ ⟨⟩ same handle
    cases same
    cases handle
    rfl
  ok wf := wf.client
  handles wf := wf.clientHandles
  records i := ⟨fun _ _ _ => rfl, fun _ _ _ => rfl, fun _ _ _ => rfl, fun _ _ _ => rfl,
    fun _ _ _ => rfl, fun _ _ _ => rfl, fun _ _ _ => rfl, fun _ _ same => same i⟩
  elsewhere s i apart := by
    constructor
    · exact fun j _ f => unmoved_write (fun _ _ _ => rfl) j f
    · exact fun j _ f => unmoved_write (fun _ _ _ => rfl) j f
    · exact fun j _ f => unmoved_write (fun _ _ _ => rfl) j f
    · intro j slot f s'
      refine .silent ?_ rfl
      exact congrArg Client.record (Slots.update_custom_of_ne _ _ (apart j slot).symm)

variable [Element β] (k : RecordKind β)

/-- The element is in use at each step, and after it. -/
def Stays (cfg : Config) (i : Nat) : State → List Step → Prop :=
  Runs.Always (step cfg) fun s j => i ∈ (k.kind.slots s.w.ent).elements ∧
    i ∈ (k.kind.slots (step cfg s j).w.ent).elements

instance (cfg : Config) (i : Nat) (s : State) (is : List Step) : Decidable (k.Stays cfg i s is) :=
  inferInstanceAs (Decidable (Runs.Always ..))

/-- One step. -/
theorem step_kept {s : State} (ready : Ready cfg s) (j : Step) {i : Nat}
    (before : i ∈ (k.kind.slots s.w.ent).elements) (after : i ∈ (k.kind.slots (step cfg s j).w.ent).elements) :
    (k.kind.slots (step cfg s j).w.ent).custom i = (k.kind.slots s.w.ent).custom i := by
  have ready' := (step_path ready j).2
  apply k.restore
  · rw [step, call]
    split
    · have apart : ∀ l, (k.kind.slots (s.enter j).w.ent).get.1 = some l → l ≠ i := by
        rintro l slot rfl
        obtain ⟨-, free, -, -⟩ := (k.ok ready.wf).get_some slot
        exact free before
      exact ((k.records i).perform (k.elsewhere (s.enter j) i apart) j.call).same
    · rfl
  · rw [(k.handles ready'.wf).of_mem after, (k.handles ready.wf).of_mem before]

theorem kept {s : State} (ready : Ready cfg s) (is : List Step) {i : Nat} (stays : k.Stays cfg i s is) :
    (k.kind.slots (Runs.exec (step cfg) s is).w.ent).custom i = (k.kind.slots s.w.ent).custom i := by
  induction is generalizing s with
  | nil => rfl
  | cons j is ih =>
    obtain ⟨⟨before, after⟩, rest⟩ := stays
    have later := ih (step_path ready j).2 rest
    exact later.trans (k.step_kept ready j before after)

end RecordKind

/-- **An entity keeps its record** as long as it is in use: no call, no callback and no answer of the agent changes one
of the fields above of a publisher, subscription, service or client between its creation and its release. -/
theorem records_kept (cfg : Config) (is js : List Step) (i : Nat) :
    (RecordKind.publisher.Stays cfg i (run cfg is) js →
      (run cfg (is ++ js)).w.ent.publisher.custom i = (run cfg is).w.ent.publisher.custom i) ∧
    (RecordKind.subscription.Stays cfg i (run cfg is) js →
      (run cfg (is ++ js)).w.ent.subscription.custom i = (run cfg is).w.ent.subscription.custom i) ∧
    (RecordKind.service.Stays cfg i (run cfg is) js →
      (run cfg (is ++ js)).w.ent.service.custom i = (run cfg is).w.ent.service.custom i) ∧
    (RecordKind.client.Stays cfg i (run cfg is) js →
      (run cfg (is ++ js)).w.ent.client.custom i = (run cfg is).w.ent.client.custom i) := by
  have ready := (run_path cfg is).2
  have later : run cfg (is ++ js) = Runs.exec (step cfg) (run cfg is) js := Runs.exec_append ..
  rw [later]
  refine ⟨?_, ?_, ?_, ?_⟩
  · exact RecordKind.publisher.kept ready js
  · exact RecordKind.subscription.kept ready js
  · exact RecordKind.service.kept ready js
  · exact RecordKind.client.kept ready js

/-- Another subscription comes and goes, a sample arrives and is taken. -/
theorem records_kept_busy :
    let is := [Small.init 0, Small.createNode 1, Small.createSubscription 1 (Small.profile 2 ⟨0, 0⟩)]
    let js := [Small.createSubscription 1 (Small.profile 1 ⟨0, 0⟩), Small.wait 1 [Small.sample 0 [7]],
      Small.take 1, Small.destroySubscription 1 0]
    (run Small.config (is ++ js)).w.ent.subscription.custom 1 =
      (run Small.config is).w.ent.subscription.custom 1 := by
  apply (records_kept Small.config _ _ 1).2.1
  decide +kernel

end RmwMicroxrcedds
