import RmwMicroxrcedds.Model.InitOptions

/-!
# `init_options.c` and `discovery.c`: the transport settings of an options block

The settings are the character arrays of `rmw_uxrce_transport_params_t`: the serial device, or the
address and the port of the agent. They are printed with `snprintf`, bounded by the size of the array.
-/

namespace RmwMicroxrcedds
set_option autoImplicit false

/-- The build: its transport, whether addresses are IPv6, and `UCLIENT_PROFILE_DISCOVERY`. -/
structure TransportBuild where
  transport : Transport
  ipv6 : Bool
  profileDiscovery : Bool

/-- `MAX_IP_LEN`. -/
def TransportBuild.maxIpLen (build : TransportBuild) : Nat := if build.ipv6 then 39 else 16

/-- `MAX_PORT_LEN`. -/
def maxPortLen : Nat := 5

/-- `MAX_SERIAL_DEVICE`. -/
def maxSerialDevice : Nat := 50

/-- Overwriting one of the settings; those never written are zeroed. -/
def setSetting : List CStr → Nat → CStr → List CStr
  | [], 0, text => [text]
  | [], i + 1, text => [] :: setSetting [] i text
  | _ :: rest, 0, text => text :: rest
  | field :: rest, i + 1, text => field :: setSetting rest i text

namespace TransportParams

/-- The text in one of the arrays. -/
def setting (params : TransportParams) (i : Nat) : CStr := params.settings.getD i []

def serialDevice (params : TransportParams) : CStr := params.setting 0

def agentAddress (params : TransportParams) : CStr := params.setting 0

def agentPort (params : TransportParams) : CStr := params.setting 1

/-- `snprintf(field, size, "%s", text)`. -/
def print (i size : Nat) (text : CStr) (params : TransportParams) : TransportParams :=
  { params with settings := setSetting params.settings i (snprintf size text).1 }

def printSerialDevice (text : CStr) : TransportParams → TransportParams := print 0 maxSerialDevice text

def printAgentAddress (build : TransportBuild) (text : CStr) : TransportParams → TransportParams :=
  print 0 build.maxIpLen text

def printAgentPort (text : CStr) : TransportParams → TransportParams := print 1 maxPortLen text

/-- `memset` of both fields of the agent. -/
def clearAgent (params : TransportParams) : TransportParams :=
  { params with settings := setSetting (setSetting params.settings 0 []) 1 [] }

end TransportParams

/-- The parameters in the block of a struct. -/
def OptionsState.params (s : OptionsState) (block : Nat) : TransportParams :=
  (s.memory.custom block).transportParams

/-- Writing to `rmw_options->impl->transport_params`, and what follows. -/
def OptionsState.editing (s : OptionsState) (rmwOptions : Nat) (edit : TransportParams → TransportParams)
    (andThen : OptionsCall) : Option RmwRet × OptionsState :=
  match (s.options rmwOptions).impl with
  | none => (none, s)
  | some block => andThen { s with memory := s.memory.update block fun impl =>
      { impl with transportParams := edit impl.transportParams } }

/-- `return ret;`. -/
def OptionsCall.returning (ret : RmwRet) : OptionsCall := fun s => (some ret, s)

/-- `rmw_uros_init_options`. -/
def rmwUrosInitOptions (build : TransportBuild) (argv : List CStr) (rmwOptions : Option Nat) :
    OptionsCall := fun s =>
  match rmwOptions with
  | none => (some .invalidArgument, s)
  | some o =>
    match build.transport with
    | .serial =>
      if 2 ≤ argv.length then
        s.editing o (.printSerialDevice (argv.getD 1 [])) (.returning .ok)
      else (some .invalidArgument, s)
    | .udp =>
      if 3 ≤ argv.length then
        s.editing o (.printAgentAddress build (argv.getD 1 [])) fun s =>
          s.editing o (.printAgentPort (argv.getD 2 [])) (.returning .ok)
      else (some .invalidArgument, s)
    | .tcp | .custom => (some .ok, s)

/-- `rmw_uros_options_set_serial_device`. -/
def rmwUrosOptionsSetSerialDevice (build : TransportBuild) (dev : Option CStr) (rmwOptions : Option Nat) :
    OptionsCall := fun s =>
  if build.transport = .serial then
    match rmwOptions, dev with
    | some o, some dev =>
      if dev.length ≤ maxSerialDevice then s.editing o (.printSerialDevice dev) (.returning .ok)
      else (some .invalidArgument, s)
    | _, _ => (some .invalidArgument, s)
  else (some .invalidArgument, s)

/-- The port of `rmw_uros_options_set_udp_address`, which is checked after the address is written. -/
def setUdpPort (port : Option CStr) (o : Nat) : OptionsCall := fun s =>
  match port with
  | none => (some .invalidArgument, s)
  | some port =>
    if port.length ≤ maxPortLen then s.editing o (.printAgentPort port) (.returning .ok)
    else (some .invalidArgument, s)

/-- `rmw_uros_options_set_udp_address`. -/
def rmwUrosOptionsSetUdpAddress (build : TransportBuild) (ip port : Option CStr) (rmwOptions : Option Nat) :
    OptionsCall := fun s =>
  if build.transport = .udp then
    match rmwOptions, ip with
    | some o, some ip =>
      if ip.length ≤ build.maxIpLen then s.editing o (.printAgentAddress build ip) (setUdpPort port o)
      else (some .invalidArgument, s)
    | _, _ => (some .invalidArgument, s)
  else (some .invalidArgument, s)

/-- `rmw_uros_options_set_client_key`. -/
def rmwUrosOptionsSetClientKey (clientKey : Nat) (rmwOptions : Option Nat) : OptionsCall := fun s =>
  match rmwOptions with
  | none => (some .invalidArgument, s)
  | some o => s.editing o (fun params => { params with clientKey := clientKey }) (.returning .ok)

/-! ## Discovery -/

/-- An agent that answers the discovery, as its locator reads after `uxr_locator_to_ip` has written the
address into an array of `MAX_IP_LEN` characters. -/
structure AgentFound (build : TransportBuild) where
  ip : CStr
  port : BitVec 16
  nonempty : ip ≠ []
  fits : ip.length < build.maxIpLen

/-- Whether a session can be created at an address and a port, under a client key. -/
abbrev Reachable := CStr → CStr → Nat → Bool

/-- The text of a port that is handed to the transport. -/
def portStr (port : BitVec 16) : CStr := (snprintf maxPortLen (decimal port.toNat)).1

/-- `on_agent_found`: the settings are stored if a session is created, and nothing else happens. -/
def onAgentFound {build : TransportBuild} (reachable : Reachable) (locator : AgentFound build)
    (params : TransportParams) : Bool × TransportParams :=
  if reachable locator.ip (portStr locator.port) params.clientKey then
    (true, (params.printAgentPort (decimal locator.port.toNat)).printAgentAddress build locator.ip)
  else (false, params)

/-- `uxr_discovery_agents_default`: the callback is raised for one agent after the other until it
returns true. -/
def discoveryAgents {build : TransportBuild} (reachable : Reachable) :
    List (AgentFound build) → TransportParams → TransportParams
  | [], params => params
  | locator :: rest, params =>
    match onAgentFound reachable locator params with
    | (true, params) => params
    | (false, params) => discoveryAgents reachable rest params

/-- `rmw_uros_discover_agent`. -/
def rmwUrosDiscoverAgent {build : TransportBuild} (reachable : Reachable) (found : List (AgentFound build))
    (rmwOptions : Option Nat) : OptionsCall := fun s =>
  if build.profileDiscovery then
    match rmwOptions with
    | none => (some .invalidArgument, s)
    | some o =>
      s.editing o (fun params => discoveryAgents reachable found params.clearAgent) fun s =>
        let params := s.params (deref (s.options o).impl)
        (some (if 0 < params.agentAddress.length then .ok else .timeout), s)
  else (some .invalidArgument, s)

end RmwMicroxrcedds
