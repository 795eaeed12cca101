import RmwMicroxrcedds.Proof.Draws
import RmwMicroxrcedds.Proof.LedgerCalls
import RmwMicroxrcedds.Proof.Walks

/-!
# Calls that manage no entities

Takes, waits, sends and the calls about guard conditions and the clock leave the nodes, the entities
and the topics as they are, draw no id, and ask nothing of the agent that creates or deletes an
object.
-/

namespace RmwMicroxrcedds
set_option autoImplicit false

open Triples

variable {cfg : Config} {α β : Type}

/-- The counters and the streams of a context. -/
structure Session.Same (c c' : Session) : Prop where
  counter : ∀ k, c'.counter k = c.counter k
  creationStream : c'.creationStream = c.creationStream
  destroyStream : c'.destroyStream = c.destroyStream

theorem Session.Same.refl (c : Session) : c.Same c := ⟨fun _ => rfl, rfl, rfl⟩

theorem Session.Same.trans {c c' c'' : Session} (h : c.Same c') (k : c'.Same c'') : c.Same c'' :=
  ⟨fun j => (k.counter j).trans (h.counter j), k.creationStream.trans h.creationStream,
    k.destroyStream.trans h.destroyStream⟩

/-- What a quiet call leaves as it is. -/
structure Quiet (s t : State) : Prop where
  node : t.w.ent.node = s.w.ent.node
  publisher : t.w.ent.publisher = s.w.ent.publisher
  subscription : t.w.ent.subscription = s.w.ent.subscription
  service : t.w.ent.service = s.w.ent.service
  client : t.w.ent.client = s.w.ent.client
  topic : t.w.ent.topic = s.w.ent.topic
  memory : t.w.ent.session.memory = s.w.ent.session.memory
  session : ∀ c, (s.w.ent.session.custom c).Same (t.w.ent.session.custom c)
  graph : SameGraph s t
  requests : t.requests = s.requests

/-- What leaves the entities alone is quiet, if it asks nothing of the agent and no graph sample comes in. -/
theorem Quiet.of_ent {s t : State} (ent : t.w.ent = s.w.ent) (graph : SameGraph s t)
    (requests : t.requests = s.requests) : Quiet s t := by
  constructor <;> first | exact graph | exact requests | rw [ent]
  exact fun _ => .refl _

instance : Std.Refl Quiet := ⟨fun _ => .of_ent rfl (fun _ => rfl) rfl⟩

instance : IsTrans State Quiet := ⟨fun _ _ _ h k =>
  ⟨k.node.trans h.node, k.publisher.trans h.publisher, k.subscription.trans h.subscription,
    k.service.trans h.service, k.client.trans h.client, k.topic.trans h.topic,
    k.memory.trans h.memory, fun c => (h.session c).trans (k.session c),
    fun c => (k.graph c).trans (h.graph c), k.requests.trans h.requests⟩⟩

/-! ## Actions -/

instance : RunsSessions cfg Quiet where
  ran session s := by
    obtain ⟨-, ent, graph, requests, -⟩ := uxrRunSession_spec cfg session s
    exact .of_ent ent graph requests
  waited _ _ _ _ := .of_ent rfl (fun _ => rfl) rfl

/-- A write to a session that keeps its counters and streams. -/
theorem quiet_writeSession (c : Nat) {f : Session → Session} (same : ∀ b : Session, b.Same (f b)) :
    Within Quiet (writeElement .session c f) := fun s => by
  have kept : ∀ c', (s.w.ent.session.custom c').Same ((s.w.ent.session.update c f).custom c') := by
    intro c'
    by_cases e : c' = c
    · rw [e, Slots.update_custom_self]
      exact same _
    · rw [Slots.update_custom_of_ne _ _ e]
      exact .refl _
  exact ⟨rfl, rfl, rfl, rfl, rfl, rfl, rfl, kept, fun _ => rfl, rfl⟩

/-- A program that changes the guard conditions only. -/
theorem quiet_guardCondition {p : Prog α}
    (h : ∀ s, ∃ t, (p s).2.w.ent = { s.w.ent with guardCondition := t } ∧
      (p s).2.w.buf = s.w.buf ∧ (p s).2.trace = s.trace) : Within Quiet p := fun s => by
  obtain ⟨t, ent, buf, trace⟩ := h s
  constructor <;> first | rw [ent] | skip
  · exact fun _ => .refl _
  · exact fun _ => by rw [buf]
  · rw [State.requests, trace]
    rfl

theorem cleanLoop_graphInfo (nowNs : Int) (k : Nat) (item : Option Nat) (s : State) :
    (cleanLoop nowNs k item s).w.buf.graphInfo = s.w.buf.graphInfo := by
  induction k generalizing item s with
  | zero => rfl
  | succ k ih =>
    cases item with
    | none => rfl
    | some item =>
      rw [cleanLoop]
      split
      · exact ih _ _
      · exact ih _ _

/-- The cleaning changes the buffers only. -/
theorem quiet_clean : Within Quiet rmwUxrceCleanExpiredStaticInputBuffer := fun s => by
  refine .of_ent (cleanLoop_ent _ _ _ _) (fun c => ?_) ?_
  · exact congrArg (fun g => (g c).id) (cleanLoop_graphInfo _ _ _ _)
  exact clean_trace (f := fun m => m.act.ran?) (fun m i e => by rw [e]; rfl) s

/-! ## Calls -/

theorem quiet_takeFrom [Element β] (k : Kind β) (i : Nat) (header : StaticInputBuffer → TakeHeader)
    (cdrDeserialize : List UInt8 → Bool) : Within Quiet (takeFrom k i header cdrDeserialize) :=
  walk_takeFrom quiet_clean (fun _ _ _ _ => .of_ent rfl (fun _ => rfl) rfl) k i header cdrDeserialize

/-- **A wait is quiet**: it writes no more than flags. -/
theorem quiet_rmwWait (set : WaitSet Nat) (waitTimeout : Option RmwTime) :
    Within Quiet (rmwWait cfg set waitTimeout) := by
  apply walk_rmwWait quiet_clean
  · exact fun c _ => quiet_writeSession c fun _ => ⟨fun k => by cases k <;> rfl, rfl, rfl⟩
  · exact fun _ => quiet_guardCondition fun _ => ⟨_, rfl, rfl, rfl⟩

theorem quiet_rmwCreateGuardCondition : Within Quiet rmwCreateGuardCondition := by
  apply walk_rmwCreateGuardCondition
  · exact quiet_guardCondition fun s => ⟨s.w.ent.guardCondition.get.2, rfl, rfl, rfl⟩
  · exact fun _ _ => quiet_guardCondition fun _ => ⟨_, rfl, rfl, rfl⟩

theorem quiet_rmwDestroyGuardCondition (i : Nat) : Within Quiet (rmwDestroyGuardCondition i) := by
  apply walk_rmwDestroyGuardCondition
  exact fun i => quiet_guardCondition fun s => ⟨s.w.ent.guardCondition.put i, rfl, rfl, rfl⟩

theorem quiet_rmwTriggerGuardCondition (guardCondition : Option Nat) :
    Within Quiet (rmwTriggerGuardCondition guardCondition) := by
  apply walk_rmwTriggerGuardCondition
  exact fun _ => quiet_guardCondition fun _ => ⟨_, rfl, rfl, rfl⟩

theorem quiet_rmwUrosSyncSession (offset : Int) : Within Quiet (rmwUrosSyncSession cfg offset) := by
  apply walk_rmwUrosSyncSession
  exact fun c => quiet_writeSession c fun _ => ⟨fun k => by cases k <;> rfl, rfl, rfl⟩

/-- The calls that manage no entities. -/
def Call.Quiet : Call → Bool
  | .take .. | .takeRequest .. | .takeResponse .. | .wait .. | .createGuardCondition
  | .destroyGuardCondition _ | .triggerGuardCondition _ | .publish .. | .sendRequest ..
  | .sendResponse .. | .syncSession _ | .time _ => true
  | _ => false

/-- **A quiet call.** -/
theorem perform_quiet {c : Call} (quiet : c.Quiet = true) : Within Quiet (perform cfg c) := by
  cases c with
  | take subscription cdrDeserialize => exact Within.bind (quiet_takeFrom _ _ _ _) fun _ => .pure
  | takeRequest service cdrDeserialize => exact Within.bind (quiet_takeFrom _ _ _ _) fun _ => .pure
  | takeResponse client cdrDeserialize => exact Within.bind (quiet_takeFrom _ _ _ _) fun _ => .pure
  | wait set waitTimeout => exact Within.bind (quiet_rmwWait _ _) fun _ => .pure
  | createGuardCondition => exact Within.bind quiet_rmwCreateGuardCondition fun _ => .pure
  | destroyGuardCondition i => exact Within.bind (quiet_rmwDestroyGuardCondition i) fun _ => .pure
  | triggerGuardCondition i => exact Within.bind (quiet_rmwTriggerGuardCondition i) fun _ => .pure
  | publish env publisher => exact Within.bind (walk_rmwPublish _ _) fun _ => .pure
  | sendRequest env client =>
    refine Within.bind (walk_sendOn _ _ _ _ _) fun ret => ?_
    cases ret <;> exact .pure
  | sendResponse env service =>
    refine Within.bind (walk_sendOn _ _ _ _ _) fun ret => ?_
    cases ret <;> exact .pure
  | syncSession offset => exact Within.bind (quiet_rmwUrosSyncSession offset) fun _ => .pure
  | time d => exact fun s => .of_ent rfl (fun _ => rfl) rfl
  | _ => simp [Call.Quiet] at quiet

end RmwMicroxrcedds
