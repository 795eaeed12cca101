import RmwMicroxrcedds.Model.Contexts

/-!
# Takes, waits and sends

`rmw_take.c`, `rmw_request.c`, `rmw_response.c`, `rmw_publish.c`, `rmw_wait.c`,
`rmw_guard_condition.c` and `rmw_uros_sync_session`. The serialisers of a type support are
arguments: a deserialiser is the predicate of the payloads it accepts.
-/

namespace RmwMicroxrcedds
set_option autoImplicit false

/-! ## Takes -/

/-- The fields of `request_header->request_id` that a take writes. -/
structure TakeHeader where
  sequenceNumber : Option (BitVec 64)
  writerGuid : Option (Vector (BitVec 8) 16)
deriving DecidableEq

def TakeHeader.untouched : TakeHeader := ⟨none, none⟩

/-- What a take gives back: the code, `*taken`, the payload presented to the type support, and what
is written into the header. -/
structure TakeResult where
  ret : RmwRet
  taken : Bool
  payload : Option (List UInt8)
  header : TakeHeader
deriving DecidableEq

/-- The part the three take functions share: the cleaning, the search for the oldest buffer of the
owner, and its release once the type support has read it. -/
def takeOldest (owner : Option Owner) (header : StaticInputBuffer → TakeHeader)
    (cdrDeserialize : List UInt8 → Bool) : Prog TakeResult := do
  rmwUxrceCleanExpiredStaticInputBuffer
  let b := (← get).w.buf
  match rmwUxrceFindStaticInputBufferByOwner b owner with
  | none => return { ret := .error, taken := false, payload := none, header := .untouched }
  | some item =>
    let staticBuffer := b.data item
    let payload := staticBuffer.buffer.take staticBuffer.length
    let deserializeRv := cdrDeserialize payload
    modify fun s => (s.record (.take owner item deserializeRv)).mapBuf (·.putMemory item)
    return { ret := if deserializeRv then .ok else .error, taken := deserializeRv
             payload := some payload, header := header staticBuffer }

/-- The result of a take on a handle of another implementation. -/
def takeRefused : TakeResult :=
  { ret := .incorrectRmwImplementation, taken := false, payload := none, header := .untouched }

/-- The check `RMW_CHECK_TYPE_IDENTIFIERS_MATCH` and the take on the entity behind the handle. -/
def takeFrom {β : Type} [Element β] (k : Kind β) (i : Nat)
    (header : StaticInputBuffer → TakeHeader) (cdrDeserialize : List UInt8 → Bool) :
    Prog TakeResult := do
  let handle := Element.handle (← readElement k i)
  if handle.implementationIdentifier = some .foreign then return takeRefused
  else takeOldest (handle.data.bind k.owner) header cdrDeserialize

/-- `rmw_take` and `rmw_take_with_info`. -/
def rmwTakeWithInfo (subscription : Nat) (cdrDeserialize : List UInt8 → Bool) : Prog TakeResult :=
  takeFrom .subscription subscription (fun _ => .untouched) cdrDeserialize

/-- What `rmw_take_sequence` leaves in its output arguments: `data[0..*taken)`, and the two sequence
sizes. -/
structure TakeSequence where
  data : List (List UInt8)
  messageSequenceSize : Nat
  messageInfoSequenceSize : Nat
deriving DecidableEq

/-- `*taken`. -/
def TakeSequence.taken (r : TakeSequence) : Nat := r.data.length

/-- The loop of `rmw_take_sequence`, with the code of the last take and what was taken so far. -/
def takeSequenceLoop (subscription : Nat) (cdrDeserialize : List UInt8 → Bool) :
    Nat → RmwRet → List (List UInt8) → Prog (RmwRet × List (List UInt8))
  | 0, ret, data => return (ret, data)
  | i + 1, _, data => do
    let r ← rmwTakeWithInfo subscription cdrDeserialize
    if r.ret ≠ .ok ∨ r.taken = false then return (r.ret, data)
    else takeSequenceLoop subscription cdrDeserialize i r.ret (data ++ r.payload.toList)

/-- `rmw_take_sequence`. A handle of another implementation leaves the outputs as they are. -/
def rmwTakeSequence (subscription count : Nat) (cdrDeserialize : List UInt8 → Bool) :
    Prog (RmwRet × Option TakeSequence) := do
  let handle := (← readElement .subscription subscription).rmwSubscription
  if handle.implementationIdentifier = some .foreign then return (.incorrectRmwImplementation, none)
  else
    let (ret, data) ← takeSequenceLoop subscription cdrDeserialize count .ok []
    return (ret, some
      { data := data, messageSequenceSize := data.length, messageInfoSequenceSize := data.length })

/-- The conversion from `SampleIdentity` to `rmw_request_id_t`. -/
def SampleIdentity.toRequestId (id : SampleIdentity) : RmwRequestId where
  sequenceNumber := (id.high.signExtend 64 <<< 32) ||| id.low.setWidth 64
  writerGuid := #v[id.entityKind] ++ id.entityKey ++ id.guidPrefix

/-- The header of `rmw_take_request`; a union whose other member was written holds no sample
identity. -/
def requestHeader (staticBuffer : StaticInputBuffer) : TakeHeader :=
  match staticBuffer.related with
  | .sampleId id => ⟨some id.toRequestId.sequenceNumber, some id.toRequestId.writerGuid⟩
  | .replyId _ => .untouched

/-- The header of `rmw_take_response`, which writes the sequence number only. -/
def responseHeader (staticBuffer : StaticInputBuffer) : TakeHeader :=
  match staticBuffer.related with
  | .replyId id => ⟨some id, none⟩
  | .sampleId _ => .untouched

/-- `rmw_take_request`. -/
def rmwTakeRequest (service : Nat) (cdrDeserialize : List UInt8 → Bool) : Prog TakeResult :=
  takeFrom .service service requestHeader cdrDeserialize

/-- `rmw_take_response`. -/
def rmwTakeResponse (client : Nat) (cdrDeserialize : List UInt8 → Bool) : Prog TakeResult :=
  takeFrom .client client responseHeader cdrDeserialize

/-! ## Waits -/

/-- The arrays of a wait set, each of which may be absent. -/
structure WaitSet (γ : Type) where
  subscriptions : Option (List γ)
  guardConditions : Option (List γ)
  services : Option (List γ)
  clients : Option (List γ)
deriving DecidableEq

/-- `UXR_TIMEOUT_INF`. -/
def uxrTimeoutInf : Int := -1

/-- The timeout in milliseconds that `rmw_wait` computes. -/
def waitMilliseconds (waitTimeout : Option RmwTime) : Int :=
  match waitTimeout with
  | none => uxrTimeoutInf
  | some t =>
    if rmwTimeEqual t rmwDurationInfinite then uxrTimeoutInf
    else min (rmwTimeTotalNsec t / 1000000) 2147483647

/-- `custom->owner_node->context->need_to_be_ran = true`. -/
def requestRun {β : Type} (k : Kind β) (ownerNode : β → Option Nat) (i : Nat) : Prog Unit := do
  let context ← contextOf (deref (ownerNode (← readElement k i)))
  writeElement .session context fun c => { c with needToBeRan := true }

/-- Running the sessions of a wait. -/
def runSessions (cfg : Config) (untilData : Bool) (timeout : Int) : List Nat → Prog Unit
  | [] => pure ()
  | context :: rest => do
    let c ← readElement .session context
    if c.needToBeRan ∨ untilData = false then
      modify (·.record (.waited context untilData timeout))
      let _ ← uxrRunSession cfg context
    runSessions cfg untilData timeout rest

/-- The entries of one array after the wait: those without a buffered message become NULL. -/
def readyEntries (b : Buffers) (owner : Nat → Owner) (entries : Option (List Nat)) :
    Option (List (Option Nat)) :=
  entries.map fun l => l.map fun i =>
    if (rmwUxrceFindStaticInputBufferByOwner b (some (owner i))).isSome then some i else none

/-- The guard conditions after the wait; a reported one is reset. -/
def checkGuardConditions : List Nat → Prog (List (Option Nat))
  | [] => return []
  | i :: rest => do
    let g ← readElement .guardCondition i
    if g.hasTriggered then
      writeElement .guardCondition i fun g => { g with hasTriggered := false }
      return some i :: (← checkGuardConditions rest)
    else return none :: (← checkGuardConditions rest)

/-- The part of `rmw_wait` before the entries are checked. -/
def waitSessions (cfg : Config) (set : WaitSet Nat) (waitTimeout : Option RmwTime) : Prog Unit := do
  let timeout := waitMilliseconds waitTimeout
  rmwUxrceCleanExpiredStaticInputBuffer
  let sessions := (← get).w.ent.session.elements
  sessions.forM fun context => writeElement .session context fun c => { c with needToBeRan := false }
  (set.services.getD []).forM (requestRun .service (·.ownerNode))
  (set.clients.getD []).forM (requestRun .client (·.ownerNode))
  (set.subscriptions.getD []).forM (requestRun .subscription (·.ownerNode))
  let custom := (← get).w.ent.session.custom
  -- a `uint8_t` counter
  let availableContexts := sessions.countP (fun context => (custom context).needToBeRan) % 256
  if availableContexts ≠ 0 then
    let perSessionTimeout :=
      if timeout = uxrTimeoutInf then uxrTimeoutInf else timeout.tdiv availableContexts
    runSessions cfg true perSessionTimeout sessions
  else runSessions cfg false 0 sessions

/-- Whether one of the entries is left. -/
def anyLeft (entries : Option (List (Option Nat))) : Bool := (entries.getD []).any Option.isSome

/-- `rmw_wait`. -/
def rmwWait (cfg : Config) (set : WaitSet Nat) (waitTimeout : Option RmwTime) :
    Prog (RmwRet × WaitSet (Option Nat)) := do
  if set.services = none ∧ set.clients = none ∧ set.subscriptions = none ∧
      set.guardConditions = none then
    return (.ok, ⟨none, none, none, none⟩)
  else
    waitSessions cfg set waitTimeout
    let b := (← get).w.buf
    let services := readyEntries b .service set.services
    let clients := readyEntries b .client set.clients
    let subscriptions := readyEntries b .subscription set.subscriptions
    let reported ← checkGuardConditions (set.guardConditions.getD [])
    let guardConditions := set.guardConditions.map fun _ => reported
    let bufferedStatus := anyLeft services || anyLeft clients || anyLeft subscriptions ||
      anyLeft guardConditions
    return (if bufferedStatus then .ok else .timeout,
      { subscriptions := subscriptions, guardConditions := guardConditions, services := services
        clients := clients })

/-! ## Guard conditions -/

/-- `rmw_create_guard_condition`. -/
def rmwCreateGuardCondition : Prog (Option Nat) := do
  match ← getMemory .guardCondition with
  | none => return none
  | some i =>
    writeElement .guardCondition i fun _ =>
      { hasTriggered := false, rmwGuardCondition := ⟨some .eprosimaMicroxrcedds, some i⟩ }
    return some i

/-- `rmw_destroy_guard_condition`: the handle is looked for among the allocated ones. -/
def rmwDestroyGuardCondition (i : Nat) : Prog RmwRet := do
  if (← get).w.ent.guardCondition.elements.contains i then
    putMemory .guardCondition i
    return .ok
  else return .error

/-- `rmw_trigger_guard_condition`. -/
def rmwTriggerGuardCondition (guardCondition : Option Nat) : Prog RmwRet := do
  match guardCondition with
  | none => return .error
  | some i =>
    let handle := (← readElement .guardCondition i).rmwGuardCondition
    if isUxrceRmwIdentifierValid handle.implementationIdentifier then
      writeElement .guardCondition (deref handle.data) fun g => { g with hasTriggered := true }
      return .ok
    else return .error

/-! ## Sends -/

/-- What the client library and the type support decide about a send: whether a stream could be
prepared, how often it was flushed for that, and whether the message was serialised. -/
structure SendEnvironment where
  prepared : Bool
  flushes : Nat
  serialized : Bool

/-- `uxr_prepare_output_stream_fragmented` runs the session each time it flushes the stream. -/
def flushSession (cfg : Config) (context : Nat) : Nat → Prog Unit
  | 0 => pure ()
  | k + 1 => do
    let _ ← uxrRunSession cfg context
    flushSession cfg context k

/-- Sending what was written: a flush on a best effort stream, which reports nothing, or running
the session until the delivery is confirmed. -/
def deliver (cfg : Config) (context : Nat) (stream : UxrStreamType) : Prog Bool := do
  if stream = .bestEffort then return true else uxrRunSession cfg context

/-- `rmw_publish`, for a message that is not NULL. -/
def rmwPublish (cfg : Config) (env : SendEnvironment) (publisher : Option Nat) : Prog RmwRet := do
  match publisher with
  | none => return .error
  | some i =>
    let handle := (← readElement .publisher i).rmwPublisher
    if isUxrceRmwIdentifierValid handle.implementationIdentifier then
      match handle.data with
      | none => return .error
      | some custom =>
        let customPublisher ← readElement .publisher custom
        let context ← contextOf (deref customPublisher.ownerNode)
        flushSession cfg context env.flushes
        if env.prepared then
          let delivered ← deliver cfg context customPublisher.streamId
          return if env.serialized ∧ delivered then .ok else .error
        else return .error
    else return .error

/-- The part `rmw_send_request` and `rmw_send_response` share: neither looks at what the type
support and the delivery report. `none` stands for the dereference of a NULL pointer. -/
def sendOn {β : Type} [Element β] (cfg : Config) (env : SendEnvironment) (k : Kind β)
    (ownerNode : β → Option Nat) (streamId : β → UxrStreamType) (i : Nat) : Prog (Option RmwRet) := do
  let handle := Element.handle (← readElement k i)
  if handle.implementationIdentifier = some .foreign then return some .incorrectRmwImplementation
  else
    match handle.data with
    | none => return none
    | some custom =>
      let b ← readElement k custom
      let context ← contextOf (deref (ownerNode b))
      if env.prepared then
        let _ ← deliver cfg context (streamId b)
        return some .ok
      else return some .error

/-- `rmw_send_request`. -/
def rmwSendRequest (cfg : Config) (env : SendEnvironment) : Nat → Prog (Option RmwRet) :=
  sendOn cfg env .client (·.ownerNode) (·.streamId)

/-- `rmw_send_response`. -/
def rmwSendResponse (cfg : Config) (env : SendEnvironment) : Nat → Prog (Option RmwRet) :=
  sendOn cfg env .service (·.ownerNode) (·.streamId)

/-- The conversion from `rmw_request_id_t` to `SampleIdentity` in `rmw_send_response`. -/
def RmwRequestId.toSampleIdentity (id : RmwRequestId) : SampleIdentity where
  high := (id.sequenceNumber.sshiftRight 32).setWidth 32
  low := id.sequenceNumber.setWidth 32 &&& 0xFFFFFFFF
  entityKind := id.writerGuid[0]
  entityKey := id.writerGuid.extract 1 4
  guidPrefix := id.writerGuid.extract 4 16

/-! ## The clock -/

/-- `rmw_uros_sync_session`; a synchronisation that succeeds leaves the given offset. -/
def rmwUrosSyncSession (cfg : Config) (offset : Int) : Prog RmwRet := do
  let memory := (← get).w.ent.session.memory
  match memory.allocateditems with
  | none => return .error
  | some item =>
    let context := memory.elem item
    if ← uxrRunSession cfg context then
      writeElement .session context fun c => { c with timeOffset := offset }
      return .ok
    else return .error

end RmwMicroxrcedds
