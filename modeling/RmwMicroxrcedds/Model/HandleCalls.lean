import RmwMicroxrcedds.Model.Exchange

/-!
# The functions that are given a handle

Publications, takes, sends and destructions as a caller meets them who has kept a handle, with the
dereference of NULL as an outcome of its own: nothing is returned then.
-/

namespace RmwMicroxrcedds
set_option autoImplicit false

/-- A take that has found a buffer reads the type support through the data pointer of its handle. -/
def takeThrough {β : Type} [Element β] (k : Kind β) (i : Nat) (take : Prog TakeResult) :
    Prog (Option TakeResult) := do
  let handle := Element.handle (← readElement k i)
  let r ← take
  return if handle.data = none ∧ r.payload ≠ none then none else some r

/-- The loop of `rmw_take_sequence`, with the code of the last take. -/
def takeSequenceThrough (subscription : Nat) (cdrDeserialize : List UInt8 → Bool) :
    Nat → RmwRet → Prog (Option RmwRet)
  | 0, ret => return some ret
  | i + 1, _ => do
    match ← takeThrough .subscription subscription (rmwTakeWithInfo subscription cdrDeserialize) with
    | none => return none
    | some r =>
      if r.ret ≠ .ok ∨ r.taken = false then return some r.ret
      else takeSequenceThrough subscription cdrDeserialize i r.ret

/-- A call that is given a handle of a publisher, subscription, service, client or node. A
destruction is also given the handle of a node, whatever it is. -/
inductive HandleCall where
  | publish (env : SendEnvironment) (publisher : Nat)
  /-- `rmw_take` and `rmw_take_with_info` -/
  | take (subscription : Nat) (cdrDeserialize : List UInt8 → Bool)
  | takeSequence (subscription count : Nat) (cdrDeserialize : List UInt8 → Bool)
  | sendRequest (env : SendEnvironment) (client : Nat)
  | takeRequest (service : Nat) (cdrDeserialize : List UInt8 → Bool)
  | sendResponse (env : SendEnvironment) (service : Nat)
  | takeResponse (client : Nat) (cdrDeserialize : List UInt8 → Bool)
  | destroyPublisher (node : Option Nat) (publisher : Nat)
  | destroySubscription (node : Option Nat) (subscription : Nat)
  | destroyService (node : Option Nat) (service : Nat)
  | destroyClient (node : Option Nat) (client : Nat)
  | destroyNode (node : Nat)

/-- The code a call returns, unless it dereferences NULL. -/
def HandleCall.perform (cfg : Config) : HandleCall → Prog (Option RmwRet)
  | .publish env publisher => do return some (← rmwPublish cfg env (some publisher))
  | .take subscription cdrDeserialize => do
    let r ← takeThrough .subscription subscription (rmwTakeWithInfo subscription cdrDeserialize)
    return r.map (·.ret)
  | .takeSequence subscription count cdrDeserialize => do
    let handle := (← readElement .subscription subscription).rmwSubscription
    if handle.implementationIdentifier = some .foreign then return some .incorrectRmwImplementation
    else takeSequenceThrough subscription cdrDeserialize count .ok
  | .sendRequest env client => rmwSendRequest cfg env client
  | .takeRequest service cdrDeserialize => do
    let r ← takeThrough .service service (rmwTakeRequest service cdrDeserialize)
    return r.map (·.ret)
  | .sendResponse env service => rmwSendResponse cfg env service
  | .takeResponse client cdrDeserialize => do
    let r ← takeThrough .client client (rmwTakeResponse client cdrDeserialize)
    return r.map (·.ret)
  | .destroyPublisher node publisher => do
    return some (← rmwDestroyPublisher cfg node (some publisher))
  | .destroySubscription node subscription => do
    return some (← rmwDestroySubscription cfg node (some subscription))
  | .destroyService node service => do return some (← rmwDestroyService cfg node (some service))
  | .destroyClient node client => do return some (← rmwDestroyClient cfg node (some client))
  | .destroyNode node => do return some (← rmwDestroyNode cfg (some node))

/-- The handle a call is given. -/
def HandleCall.slot : HandleCall → Nat
  | .publish _ publisher | .destroyPublisher _ publisher => publisher
  | .take subscription _ | .takeSequence subscription _ _ | .destroySubscription _ subscription =>
    subscription
  | .sendRequest _ client | .takeResponse client _ | .destroyClient _ client => client
  | .takeRequest service _ | .sendResponse _ service | .destroyService _ service => service
  | .destroyNode node => node

/-- The handles of its kind that are in use. -/
def HandleCall.inUse (e : Entities) : HandleCall → List Nat
  | .publish .. | .destroyPublisher .. => e.publisher.elements
  | .take .. | .takeSequence .. | .destroySubscription .. => e.subscription.elements
  | .sendRequest .. | .takeResponse .. | .destroyClient .. => e.client.elements
  | .takeRequest .. | .sendResponse .. | .destroyService .. => e.service.elements
  | .destroyNode _ => e.node.elements

end RmwMicroxrcedds
