import RmwMicroxrcedds.Proof.PoolPrograms
import RmwMicroxrcedds.Proof.Walks

/-!
# The calm calls

Creating and destroying topics and publishers, waits, sends, guard conditions and the
synchronisation of a session are calm.
-/

namespace RmwMicroxrcedds
set_option autoImplicit false

open Triples

variable {cfg : Config} {α β : Type}

/-- What a calm program does to a state that satisfies the invariant. -/
def Calmly (cfg : Config) (s t : State) : Prop := Wf cfg s → Path cfg s t ∧ Wf cfg t ∧ Benign s t

instance : Std.Refl (Calmly cfg) := ⟨fun s wf => ⟨.refl, wf, .refl s⟩⟩

instance : IsTrans State (Calmly cfg) := ⟨fun s t u h k wf => by
  obtain ⟨path, wf', benign⟩ := h wf
  obtain ⟨path', wf'', benign'⟩ := k wf'
  exact ⟨path.trans path', wf'', benign.trans benign'⟩⟩

/-- A calm program is one that does nothing but calmly, -/
theorem Calm.within {p : Prog α} (calm : Calm cfg p) : Within (Calmly cfg) p := calm.run

/-- and the other way round: calm programs are those that keep this relation. -/
theorem Calm.of_within {p : Prog α} (h : Within (Calmly cfg) p) : Calm cfg p := ⟨h⟩

instance : SendsRequests cfg (Calmly cfg) where
  ran session := (calm_uxrRunSession session).within
  waited c untilData timeout := (calm_record (.waited c untilData timeout) trivial).within
  asked context stream request := (calm_runXrceSession context stream request).within

/-! ## Topics and publishers -/

theorem calmly_sessions (c : Nat) (f : Session → Session) :
    Within (Calmly cfg) (writeElement .session c f) := (calm_writeSession c f).within

/-- Topics are in no clause of the invariant: whatever is done to them is calm. -/
theorem calmly_topics : WorksOnTopics (Calmly cfg) where
  get := calm_getTopic.within
  write i f := (calm_writeTopic i f).within
  fini i := (calm_rmwUxrceFiniTopicMemory i).within

/-- Of publishers the invariant speaks of the pool and of the handles. -/
theorem calmly_publishers : WorksOnPublishers (Calmly cfg) where
  acquire := calm_acquirePublisher.within
  write i _ keep := (calm_writePublisher i keep).within
  fini i := (calm_rmwUxrceFiniPublisherMemory i).within

/-- `create_topic` is calm, also where it fails and gives the topic back. -/
theorem calm_createTopic (customNode : Nat) (topicName : CStr) (members : MessageTypeSupportCallbacks) :
    Calm cfg (createTopic cfg customNode topicName members) :=
  .of_within (walk_createTopic calmly_sessions calmly_topics members)

theorem calm_destroyTopic (topic : Nat) : Calm cfg (destroyTopic cfg topic) :=
  .of_within (walk_destroyTopic calmly_topics.fini topic)

/-- So is `rmw_create_publisher`: publishers receive nothing, and own no buffer. -/
theorem calm_rmwCreatePublisher (node : Option Nat)
    (typeSupport : Option (TypeSupport MessageTypeSupportCallbacks)) (topicName : Option CStr)
    (qosPolicies : Option RmwQosProfile) :
    Calm cfg (rmwCreatePublisher cfg node typeSupport topicName qosPolicies) :=
  .of_within (walk_rmwCreatePublisher calmly_sessions calmly_topics calmly_publishers _ _ _ _)

theorem calm_destroyChecks [Element β] (k : Kind β) (node entity : Option Nat) :
    Calm cfg (destroyChecks k node entity) := .of_within (walk_destroyChecks k node entity)

theorem calm_rmwDestroyPublisher (node publisher : Option Nat) :
    Calm cfg (rmwDestroyPublisher cfg node publisher) :=
  .of_within (walk_rmwDestroyPublisher calmly_topics.fini calmly_publishers.fini node publisher)

/-! ## Waits -/

/-- **Waits are calm**: they release expired messages, run sessions, and change flags of sessions and guard
conditions. -/
theorem calm_rmwWait (set : WaitSet Nat) (waitTimeout : Option RmwTime) :
    Calm cfg (rmwWait cfg set waitTimeout) := by
  have lowered : ∀ i, Within (Calmly cfg)
      (writeElement .guardCondition i fun g => { g with hasTriggered := false }) := fun i =>
    (calm_writeGuardCondition i).within
  exact .of_within (walk_rmwWait calm_clean.within (fun c _ => calmly_sessions c _) lowered set waitTimeout)

/-! ## Guard conditions -/

/-- A program that leaves all but the guard conditions alone, and their handles right, is calm. -/
theorem calm_of_guardCondition {α : Type} {p : Prog α}
    (h : ∀ s, Wf cfg s → ∃ t : Slots GuardCondition,
      (p s).2 = (s.mapEnt fun e => { e with guardCondition := t }) ∧ t.Ok cfg.maxGuardCondition ∧
        ∀ i ∈ t.elements, (t.custom i).rmwGuardCondition = ⟨some .eprosimaMicroxrcedds, some i⟩) :
    Calm cfg p := ⟨fun s wf => by
  obtain ⟨t, e, ok, handles⟩ := h s wf
  rw [e]
  have benign : Benign s (s.mapEnt fun e => { e with guardCondition := t }) :=
    ⟨rfl, rfl, rfl, rfl, rfl, fun _ => rfl, fun o => by cases o <;> rfl, rfl, rfl, rfl, rfl⟩
  have wf' : Wf cfg (s.mapEnt fun e => { e with guardCondition := t }) :=
    { wf with guardCondition := ok, guardHandles := handles, owner := wf.owner_of_benign benign }
  exact ⟨.single ⟨wf, wf', benign.micro⟩, wf', benign⟩⟩

theorem calm_rmwCreateGuardCondition : Calm cfg rmwCreateGuardCondition :=
  calm_of_guardCondition fun s wf => by
    rw [rmwCreateGuardCondition, Prog.bind_run]
    cases h : s.w.ent.guardCondition.get.1 with
    | none =>
      rw [getMemory_none .guardCondition wf.guardCondition h]
      exact ⟨s.w.ent.guardCondition, rfl, wf.guardCondition, wf.guardHandles⟩
    | some i =>
      obtain ⟨ok, -, -, elements⟩ := wf.guardCondition.get_some h
      rw [getMemory_some .guardCondition h]
      refine ⟨s.w.ent.guardCondition.get.2.update i fun _ =>
        { hasTriggered := false, rmwGuardCondition := ⟨some .eprosimaMicroxrcedds, some i⟩ },
        rfl, ok.update i _, fun j hj => ?_⟩
      by_cases ne : j = i
      · rw [ne, Slots.update_custom_self]
      · rw [Slots.update_custom_of_ne _ _ ne, Slots.get_custom]
        rw [Slots.update_elements, elements] at hj
        exact wf.guardHandles j (List.mem_of_ne_of_mem ne hj)

theorem calm_rmwDestroyGuardCondition (i : Nat) : Calm cfg (rmwDestroyGuardCondition i) :=
  calm_of_guardCondition fun s wf => by
    by_cases h : i ∈ s.w.ent.guardCondition.elements
    · have e : (rmwDestroyGuardCondition i s).2 =
          s.mapEnt fun e => { e with guardCondition := e.guardCondition.put i } := by
        rw [rmwDestroyGuardCondition, Prog.get_run, if_pos (by simpa using h)]
        rfl
      obtain ⟨ok, elements⟩ := wf.guardCondition.put h
      refine ⟨_, e, ok, fun j hj => ?_⟩
      rw [elements] at hj
      exact wf.guardHandles j (List.mem_of_mem_erase hj)
    · have e : (rmwDestroyGuardCondition i s).2 = s := by
        rw [rmwDestroyGuardCondition, Prog.get_run, if_neg (by simpa using h)]
        rfl
      exact ⟨s.w.ent.guardCondition, e, wf.guardCondition, wf.guardHandles⟩

theorem calm_rmwTriggerGuardCondition (guardCondition : Option Nat) :
    Calm cfg (rmwTriggerGuardCondition guardCondition) :=
  .of_within (walk_rmwTriggerGuardCondition (fun i => (calm_writeGuardCondition i).within) guardCondition)

/-! ## Sends and the clock -/

/-- **Sends are calm**: what they do to the state, the sessions they run do. -/
theorem calm_rmwPublish (env : SendEnvironment) (publisher : Option Nat) :
    Calm cfg (rmwPublish cfg env publisher) := .of_within (walk_rmwPublish env publisher)

theorem calm_sendOn [Element β] (env : SendEnvironment) (k : Kind β)
    (ownerNode : β → Option Nat) (streamId : β → UxrStreamType) (i : Nat) :
    Calm cfg (sendOn cfg env k ownerNode streamId i) := .of_within (walk_sendOn env k ownerNode streamId i)

theorem calm_rmwUrosSyncSession (offset : Int) : Calm cfg (rmwUrosSyncSession cfg offset) :=
  .of_within (walk_rmwUrosSyncSession fun c => calmly_sessions c _)

/-- The clock goes on. -/
theorem calm_time (d : Nat) : Calm cfg
    (modify fun s => { s with w := { s.w with uxrNanos := s.w.uxrNanos + d } } : Prog Unit) :=
  Calm.step fun _ wf => ⟨{ wf with }, .of_ent rfl rfl rfl rfl rfl, .tick d⟩

end RmwMicroxrcedds
