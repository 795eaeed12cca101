import RmwMicroxrcedds.Model.Exchange

/-!
# The sends, step by step

`rmw_publish`, `rmw_send_request` and `rmw_send_response` with what happens to the stream on the way.
Each function here does what the one of its name in `Exchange` does, and writes down the steps. A response
carries the identity of its request on the stream, ahead of the message.
-/

namespace RmwMicroxrcedds.Sends
set_option autoImplicit false

/-- What happens in a send, with the results of the steps that have one. -/
inductive SendEvent where
  /-- `uxr_prepare_output_stream`, or its fragmented variant; a prepared stream is locked -/
  | prepare (prepared : Bool)
  /-- `uxr_serialize_SampleIdentity` -/
  | identify (sampleId : SampleIdentity)
  /-- `cdr_serialize` -/
  | serialize (serialized : Bool)
  /-- `UXR_UNLOCK_STREAM_ID` -/
  | unlock
  /-- `uxr_flash_output_streams` -/
  | flash
  /-- `uxr_run_session_until_confirm_delivery` -/
  | confirm (confirmed : Bool)
deriving DecidableEq

/-- A program over the state that writes down what happens. -/
abbrev Traced := StateT (List SendEvent) Prog

def tell (event : SendEvent) : Traced Unit := modify (· ++ [event])

section Sends

variable (cfg : Config) (env : SendEnvironment)

/-- The preparation of the stream, which flushes the session of a fragmented one. -/
def prepareOutputStream (context : Nat) : Traced Bool := do
  flushSession cfg context env.flushes
  tell (.prepare env.prepared)
  return env.prepared

def cdrSerialize : Traced Bool := do
  tell (.serialize env.serialized)
  return env.serialized

def serializeSampleIdentity (sampleId : Option SampleIdentity) : Traced Unit :=
  match sampleId with
  | none => pure ()
  | some sampleId => tell (.identify sampleId)

/-- What all sends end with; flushing a best effort stream reports nothing. -/
def finish (context : Nat) (stream : UxrStreamType) : Traced Bool := do
  tell .unlock
  if stream = .bestEffort then
    tell .flash
    return true
  else
    let confirmed ← uxrRunSession cfg context
    tell (.confirm confirmed)
    return confirmed

/-- The part of `rmw_publish` that writes to the stream. -/
def publishOn (context : Nat) (stream : UxrStreamType) : Traced RmwRet := do
  if ← prepareOutputStream cfg env context then
    let written ← cdrSerialize env
    let delivered ← finish cfg context stream
    return if written ∧ delivered then .ok else .error
  else return .error

/-- `rmw_publish`. -/
def rmwPublish (publisher : Option Nat) : Traced RmwRet := do
  match publisher with
  | none => return .error
  | some i =>
    let handle := (← readElement .publisher i).rmwPublisher
    if isUxrceRmwIdentifierValid handle.implementationIdentifier then
      match handle.data with
      | none => return .error
      | some custom =>
        let customPublisher ← readElement .publisher custom
        let context ← contextOf (deref customPublisher.ownerNode)
        publishOn cfg env context customPublisher.streamId
    else return .error

/-- `rmw_send_request` and `rmw_send_response`, which do not flush for their stream. -/
def sendOn {β : Type} [Element β] (k : Kind β) (ownerNode : β → Option Nat)
    (streamId : β → UxrStreamType) (sampleId : Option SampleIdentity) (i : Nat) :
    Traced (Option RmwRet) := do
  let handle := Element.handle (← readElement k i)
  if handle.implementationIdentifier = some .foreign then return some .incorrectRmwImplementation
  else
    match handle.data with
    | none => return none
    | some custom =>
      let b ← readElement k custom
      let context ← contextOf (deref (ownerNode b))
      if ← prepareOutputStream cfg { env with flushes := 0 } context then
        serializeSampleIdentity sampleId
        let _ ← cdrSerialize env
        let _ ← finish cfg context (streamId b)
        return some .ok
      else return some .error

/-- `rmw_send_request`. -/
def rmwSendRequest : Nat → Traced (Option RmwRet) := sendOn cfg env .client (·.ownerNode) (·.streamId) none

/-- `rmw_send_response`. -/
def rmwSendResponse (service : Nat) (requestHeader : RmwRequestId) : Traced (Option RmwRet) :=
  sendOn cfg env .service (·.ownerNode) (·.streamId) (some requestHeader.toSampleIdentity) service

/-- A send. -/
inductive Send where
  | publish (publisher : Option Nat)
  | request (client : Nat)
  | response (service : Nat) (requestHeader : RmwRequestId)

/-- A send with its events; nothing stands for the dereference of NULL. -/
def Send.run : Send → Traced (Option RmwRet)
  | .publish publisher => do return some (← rmwPublish cfg env publisher)
  | .request client => rmwSendRequest cfg env client
  | .response service requestHeader => rmwSendResponse cfg env service requestHeader

/-- The send without its events. -/
def Send.perform : Send → Prog (Option RmwRet)
  | .publish publisher => do return some (← RmwMicroxrcedds.rmwPublish cfg env publisher)
  | .request client => RmwMicroxrcedds.rmwSendRequest cfg env client
  | .response service _ => RmwMicroxrcedds.rmwSendResponse cfg env service

end Sends

end RmwMicroxrcedds.Sends
