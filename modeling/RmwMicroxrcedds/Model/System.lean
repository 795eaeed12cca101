import RmwMicroxrcedds.Model.Exchange
import RmwMicroxrcedds.Base.Runs

/-!
# The library as a machine

A step is one call of the API, or the passing of time between calls, with the answers the agent
has ready for the session runs of that call. Handles that were destroyed may be passed again
wherever the library checks them. Calls that dereference a pointer the library never checks (the
`impl` of a context that is not open, the entries of a wait set) are taken on live objects only;
on others nothing happens.
-/

namespace RmwMicroxrcedds
set_option autoImplicit false

/-- The calls of the API. -/
inductive Call where
  | init (env : InitEnvironment)
  | shutdown (impl : Option Nat)
  | createNode (context : Nat) (name namespace_ : Option CStr)
  | destroyNode (node : Option Nat)
  | createPublisher (node : Option Nat) (typeSupport : Option (TypeSupport MessageTypeSupportCallbacks))
      (topicName : Option CStr) (qosPolicies : Option RmwQosProfile)
  | destroyPublisher (node publisher : Option Nat)
  | createSubscription (node : Option Nat)
      (typeSupport : Option (TypeSupport MessageTypeSupportCallbacks))
      (topicName : Option CStr) (qosPolicies : Option RmwQosProfile)
  | destroySubscription (node subscription : Option Nat)
  | createService (node : Option Nat) (typeSupport : Option (TypeSupport ServiceTypeSupportCallbacks))
      (serviceName : Option CStr) (qosPolicies : Option RmwQosProfile) (requestId : Nat)
  | destroyService (node service : Option Nat)
  | createClient (node : Option Nat) (typeSupport : Option (TypeSupport ServiceTypeSupportCallbacks))
      (serviceName : Option CStr) (qosPolicies : Option RmwQosProfile) (requestId : Nat)
  | destroyClient (node client : Option Nat)
  | take (subscription : Nat) (cdrDeserialize : List UInt8 → Bool)
  | takeRequest (service : Nat) (cdrDeserialize : List UInt8 → Bool)
  | takeResponse (client : Nat) (cdrDeserialize : List UInt8 → Bool)
  | wait (set : WaitSet Nat) (waitTimeout : Option RmwTime)
  | createGuardCondition
  | destroyGuardCondition (guardCondition : Nat)
  | triggerGuardCondition (guardCondition : Option Nat)
  | publish (env : SendEnvironment) (publisher : Option Nat)
  | sendRequest (env : SendEnvironment) (client : Nat)
  | sendResponse (env : SendEnvironment) (service : Nat)
  | syncSession (offset : Int)
  | time (d : Nat)

/-- What a call gives back. -/
inductive Reply where
  | none
  | ret (ret : RmwRet)
  | opened (ret : RmwRet) (impl : Option Nat)
  | handle (h : Option Nat)
  | took (result : TakeResult)
  | waited (ret : RmwRet) (set : WaitSet (Option Nat))
deriving DecidableEq

def Call.kind : Call → CallKind
  | .init _ => .init
  | .shutdown _ => .shutdown
  | .createNode .. | .createPublisher .. | .createSubscription .. | .createService ..
  | .createClient .. => .create
  | .destroyNode .. | .destroyPublisher .. | .destroySubscription .. | .destroyService ..
  | .destroyClient .. => .destroy
  | .take .. | .takeRequest .. | .takeResponse .. => .take
  | .wait .. => .wait
  | .publish .. | .sendRequest .. | .sendResponse .. => .send
  | _ => .other

/-- The pointers a call dereferences without a check point to live objects. -/
def Call.defined (e : Entities) : Call → Bool
  | .shutdown (some context) | .createNode context .. => e.session.elements.contains context
  | .wait set _ =>
    (set.subscriptions.getD []).all e.subscription.elements.contains &&
    (set.services.getD []).all e.service.elements.contains &&
    (set.clients.getD []).all e.client.elements.contains &&
    (set.guardConditions.getD []).all e.guardCondition.elements.contains
  | _ => true

/-- Running one call. -/
def perform (cfg : Config) : Call → Prog Reply
  | .init env => do
    let (ret, impl) ← rmwInit cfg env
    return .opened ret impl
  | .shutdown impl => return .ret (← rmwShutdown cfg impl)
  | .createNode context name namespace_ =>
    return .handle (← rmwCreateNode cfg (some context) name namespace_)
  | .destroyNode node => return .ret (← rmwDestroyNode cfg node)
  | .createPublisher node typeSupport topicName qosPolicies =>
    return .handle (← rmwCreatePublisher cfg node typeSupport topicName qosPolicies)
  | .destroyPublisher node publisher => return .ret (← rmwDestroyPublisher cfg node publisher)
  | .createSubscription node typeSupport topicName qosPolicies =>
    return .handle (← rmwCreateSubscription cfg node typeSupport topicName qosPolicies)
  | .destroySubscription node subscription =>
    return .ret (← rmwDestroySubscription cfg node subscription)
  | .createService node typeSupport serviceName qosPolicies requestId =>
    return .handle (← rmwCreateService cfg node typeSupport serviceName qosPolicies requestId)
  | .destroyService node service => return .ret (← rmwDestroyService cfg node service)
  | .createClient node typeSupport serviceName qosPolicies requestId =>
    return .handle (← rmwCreateClient cfg node typeSupport serviceName qosPolicies requestId)
  | .destroyClient node client => return .ret (← rmwDestroyClient cfg node client)
  | .take subscription cdrDeserialize => return .took (← rmwTakeWithInfo subscription cdrDeserialize)
  | .takeRequest service cdrDeserialize => return .took (← rmwTakeRequest service cdrDeserialize)
  | .takeResponse client cdrDeserialize => return .took (← rmwTakeResponse client cdrDeserialize)
  | .wait set waitTimeout => do
    let (ret, set) ← rmwWait cfg set waitTimeout
    return .waited ret set
  | .createGuardCondition => return .handle (← rmwCreateGuardCondition)
  | .destroyGuardCondition guardCondition => return .ret (← rmwDestroyGuardCondition guardCondition)
  | .triggerGuardCondition guardCondition => return .ret (← rmwTriggerGuardCondition guardCondition)
  | .publish env publisher => return .ret (← rmwPublish cfg env publisher)
  | .sendRequest env client => do
    match ← rmwSendRequest cfg env client with
    | none => return .none
    | some ret => return .ret ret
  | .sendResponse env service => do
    match ← rmwSendResponse cfg env service with
    | none => return .none
    | some ret => return .ret ret
  | .syncSession offset => return .ret (← rmwUrosSyncSession cfg offset)
  | .time d => do
    modify fun s => { s with w := { s.w with uxrNanos := s.w.uxrNanos + d } }
    return .none

/-- One step of a run. -/
structure Step where
  call : Call
  agent : List Answer

/-- The state a call starts in. -/
def State.enter (s : State) (i : Step) : State := { s with call := i.call.kind, agent := i.agent }

/-- The step function, with what the call gives back. -/
def call (cfg : Config) (s : State) (i : Step) : Reply × State :=
  if i.call.defined s.w.ent then (perform cfg i.call).run (s.enter i) else (.none, s)

def step (cfg : Config) (s : State) (i : Step) : State := (call cfg s i).2

/-- The state after a run of the program. -/
def run (cfg : Config) (is : List Step) : State := Runs.exec (step cfg) State.zero is

/-! ## A small build

The inputs of the examples: two entities of each kind, three static buffers, and an agent that
confirms every request. -/

namespace Small

def config : Config where
  transport := .udp
  maxSessions := 2
  maxNodes := 2
  maxPublishers := 2
  maxSubscriptions := 2
  maxServices := 2
  maxClients := 2
  maxTopicsInternal := 2
  maxHistory := 3
  maxOptions := 2
  maxWaitSets := 2
  maxGuardCondition := 2
  useRefs := false
  graph := false
  entityCreationTimeout := 100
  entityDestroyTimeout := 100
  nodeNameMaxLength := 60
  topicNameMaxLength := 60
  typeNameMaxLength := 60
  entityNamingBufferLength := 200

/-- The same with the graph. -/
def graphConfig : Config := { config with graph := true, entityNamingBufferLength := 600 }

def confirming : List Answer := List.replicate 8 ⟨[], true⟩

def profile (depth : Nat) (lifespan : RmwTime) : RmwQosProfile :=
  ⟨.keepLast, depth, .reliable, lifespan, false⟩

def typeSupport : TypeSupport MessageTypeSupportCallbacks := .callbacks ⟨none, ['m']⟩

def serviceTypeSupport : TypeSupport ServiceTypeSupportCallbacks :=
  .callbacks ⟨⟨none, ['q']⟩, ⟨none, ['r']⟩⟩

/-- A sample for the datareader `id`. -/
def sample (id : Nat) (payload : List UInt8) : SessionEvent :=
  .topic ⟨id, .datareader⟩ payload payload.length

/-- A device that opens, and a library that initialises its transport. -/
def opening : TransportEnvironment := ⟨3, 0, 0, true, false⟩

def init (timeOffset : Int) : Step := ⟨.init ⟨opening, timeOffset, ⟨none, []⟩⟩, confirming⟩

def createNode (context : Nat) : Step := ⟨.createNode context (some ['n']) (some ['/']), confirming⟩

def createPublisher (typeSupport : TypeSupport MessageTypeSupportCallbacks) : Step :=
  ⟨.createPublisher (some 1) (some typeSupport) (some ['t']) (some (profile 1 ⟨0, 0⟩)), confirming⟩

def createSubscription (node : Nat) (qos : RmwQosProfile) : Step :=
  ⟨.createSubscription (some node) (some typeSupport) (some ['t']) (some qos), confirming⟩

def createServiceOf (node : Nat) : Step :=
  ⟨.createService (some node) (some serviceTypeSupport) (some ['s']) (some (profile 1 ⟨0, 0⟩)) 1,
    confirming⟩

/-- A wait for one subscription, with the events of the first session run. -/
def wait (subscription : Nat) (events : List SessionEvent) : Step :=
  ⟨.wait ⟨some [subscription], none, none, none⟩ none, [⟨events, true⟩]⟩

def destroySubscription (node subscription : Nat) : Step :=
  ⟨.destroySubscription (some node) (some subscription), confirming⟩

def take (subscription : Nat) : Step := ⟨.take subscription fun _ => true, []⟩

end Small

end RmwMicroxrcedds
