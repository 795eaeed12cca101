import RmwMicroxrcedds.Model.StaticBuffers

/-!
# `callbacks.c` and the running of sessions

The client library raises the callbacks while it runs a session. A callback scans the allocated
entities for the delivered id and stores the sample in a static input buffer of the one it finds
first. `runXrceSession` is the only way the create and destroy functions talk to the agent.
-/

namespace RmwMicroxrcedds
set_option autoImplicit false

/-- `ucdr_deserialize_array_uint8_t` into an array: what the reader delivers is copied, at most
`length` bytes; the read succeeds when all of them were there. -/
def ucdrDeserializeArrayUint8T (ub : List UInt8) (array : List UInt8) (length : Nat) :
    Bool × List UInt8 :=
  let written := ub.take length
  (decide (length ≤ ub.length), written ++ array.drop written.length)

/-- The part the three callbacks share, once the entity is found. The second component is the
item of the buffer that was filled. -/
def receive (w : World) (owner : Owner) (qos : RmwQosProfile) (entityType : EntityType)
    (related : Option Related) (ub : List UInt8) (length : Nat) : World × Option Nat :=
  match rmwUxrceGetStaticInputBufferForEntity w.buf owner qos with
  | (none, buf) => ({ w with buf := buf }, none)
  | (some memoryNode, buf) =>
    let (read, bytes) := ucdrDeserializeArrayUint8T ub (buf.data memoryNode).buffer length
    let buf := buf.write memoryNode fun d => { d with buffer := bytes }
    if read then
      ({ w with buf := buf.write memoryNode fun d =>
          { d with
            owner := some owner
            length := length
            related := related.getD d.related
            timestamp := rmwUrosEpochNanos w
            entityType := entityType } }, some memoryNode)
    else ({ w with buf := buf.putMemory memoryNode }, none)

/-- The graph branch of `on_topic`. -/
def onGraph (session : Nat) (ub : List UInt8) (length : Nat) (w : World) : World :=
  let graphInfo := w.buf.graphInfo session
  let (_, bytes) := ucdrDeserializeArrayUint8T ub graphInfo.microBuffer length
  let graphInfo := { graphInfo with
    microBufferLength := length, microBuffer := bytes, initialized := true, hasChanged := true }
  { w with buf := { w.buf with graphInfo := setAt w.buf.graphInfo session graphInfo } }

/-- `on_topic`. `session` is the context given as `args`, which only the graph branch looks at. -/
def onTopic (cfg : Config) (session : Nat) (objectId : UxrObjectId) (ub : List UInt8) (length : Nat)
    (w : World) : World × Option Nat :=
  if cfg.graph ∧ objectId = (w.buf.graphInfo session).datareaderId then
    (onGraph session ub length w, none)
  else
    match w.ent.subscription.elements.find? fun i =>
        (w.ent.subscription.custom i).datareaderId = objectId with
    | none => (w, none)
    | some i =>
      receive w (.subscription i) (w.ent.subscription.custom i).qos .subscription none ub length

/-- `on_request`. -/
def onRequest (requestId : Nat) (sampleId : SampleIdentity) (ub : List UInt8) (length : Nat)
    (w : World) : World × Option Nat :=
  match w.ent.service.elements.find? fun i =>
      (w.ent.service.custom i).serviceDataResquest = requestId with
  | none => (w, none)
  | some i =>
    receive w (.service i) (w.ent.service.custom i).qos .service (some (.sampleId sampleId)) ub length

/-- `on_reply`. The reply id is a `uint16_t`. -/
def onReply (requestId replyId : Nat) (ub : List UInt8) (length : Nat) (w : World) :
    World × Option Nat :=
  match w.ent.client.elements.find? fun i =>
      (w.ent.client.custom i).clientDataRequest = requestId with
  | none => (w, none)
  | some i =>
    receive w (.client i) (w.ent.client.custom i).qos .client
      (some (.replyId (BitVec.ofNat 64 (replyId % 65536)))) ub length

/-- The callback registered for an event. -/
def callback (cfg : Config) (session : Nat) : SessionEvent → World → World × Option Nat
  | .time _, w => (w, none)
  | .topic objectId ub length, w => onTopic cfg session objectId ub length w
  | .request requestId sampleId ub length, w => onRequest requestId sampleId ub length w
  | .reply requestId replyId ub length, w => onReply requestId replyId ub length w

/-- The history variables after a callback has run. -/
def Ghost.received (g : Ghost) (session : Nat) (event : SessionEvent) (w : World)
    (filled : Option Nat) : Ghost :=
  { g with
    rx := g.rx + 1
    source := match filled with
      | none => g.source
      | some item => setAt g.source item (some
          { rx := g.rx, session := session, event := event, nanos := w.uxrNanos,
            incarnation := ((w.buf.data item).owner.map g.incarnation).getD 0 }) }

/-- One thing that happens while a session runs. -/
def raise (cfg : Config) (session : Nat) (s : State) : SessionEvent → State
  | .time d => { s with w := { s.w with uxrNanos := s.w.uxrNanos + d } }
  | event =>
    let s := s.record (.callback session event)
    let (w, filled) := callback cfg session event s.w
    { s with w := w, ghost := s.ghost.received session event w filled }

/-- The agent's answer to the next session run; without one, nothing arrives and nothing is
confirmed. -/
def nextAnswer : Prog Answer := do
  let s ← get
  match s.agent with
  | [] => return { events := [], confirmed := false }
  | answer :: rest =>
    set { s with agent := rest }
    return answer

/-- Running a session: the callbacks are raised, and the result says whether what the caller
waits for was confirmed. -/
def uxrRunSession (cfg : Config) (session : Nat) : Prog Bool := do
  let answer ← nextAnswer
  modify fun s => answer.events.foldl (raise cfg session) s
  return answer.confirmed

/-- `run_xrce_session`. -/
def runXrceSession (cfg : Config) (context : Nat) (targetStream : UxrStreamType)
    (request : XrceRequest) : Prog Bool := do
  let confirmed ← if targetStream = .bestEffort then pure true else uxrRunSession cfg context
  modify (·.record (.ran context request confirmed))
  return confirmed

end RmwMicroxrcedds
