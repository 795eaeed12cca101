import RmwMicroxrcedds.Model.Names
import RmwMicroxrcedds.Model.World

/-!
# `rmw_init.c`: the init options

The option structs belong to the user and are named by numbers; the implementation block of one is
an element of `init_options_memory`. A function that would dereference NULL gives back no code.
-/

namespace RmwMicroxrcedds
set_option autoImplicit false

/-- `rmw_uxrce_transport_params_t`: the settings of the transport of the build, and the key of the
client. -/
structure TransportParams where
  settings : List CStr
  clientKey : Nat
deriving DecidableEq, Inhabited

/-- `rmw_uxrce_init_options_impl_t`. -/
structure InitOptionsImpl where
  transportParams : TransportParams
deriving DecidableEq, Inhabited

/-- `rmw_security_options_t`, zeroed or as `rmw_get_default_security_options` returns it. -/
inductive SecurityOptions where
  | zero | default
deriving DecidableEq, Inhabited

/-- `rmw_localhost_only_t`. -/
inductive LocalhostOnly where
  | default | enabled | disabled
deriving DecidableEq, Inhabited

/-- `rmw_init_options_t`. An allocator is a number; the zeroed one, which no check accepts, is
`none`. -/
structure InitOptions where
  instanceId : Nat
  implementationIdentifier : Option Identifier
  domainId : Nat
  securityOptions : SecurityOptions
  localhostOnly : LocalhostOnly
  enclave : Option CStr
  allocator : Option Nat
  impl : Option Nat
deriving DecidableEq

/-- `rmw_get_zero_initialized_init_options`. -/
def rmwGetZeroInitializedInitOptions : InitOptions where
  instanceId := 0
  implementationIdentifier := none
  domainId := 0
  securityOptions := .zero
  localhostOnly := .default
  enclave := none
  allocator := none
  impl := none

/-- The default settings of the transport of the build, each with the size of the field it is printed
into. -/
abbrev TransportDefaults := List (CStr × Nat)

/-- The printing of the default settings up to the first that is too long, over what the fields held.
The result says whether there is none such. -/
def printSettings : TransportDefaults → List CStr → Bool × List CStr
  | [], fields => (true, fields)
  | (text, size) :: rest, fields =>
    if text.length ≤ size then
      let (fits, printed) := printSettings rest (fields.drop 1)
      (fits, (snprintf size text).1 :: printed)
    else (false, fields)

/-- The option structs of the user, and the pool. -/
structure OptionsState where
  options : Nat → InitOptions
  memory : Slots InitOptionsImpl

namespace OptionsState

/-- Overwriting one struct. -/
def write (s : OptionsState) (i : Nat) (o : InitOptions) : OptionsState :=
  { s with options := setAt s.options i o }

/-- Every struct zero-initialised, and static storage. -/
def zero : OptionsState := { options := fun _ => rmwGetZeroInitializedInitOptions, memory := .zero }

end OptionsState

/-- A function of the user's structs and the pool; the code it returns, unless it dereferences
NULL. -/
abbrev OptionsCall := OptionsState → Option RmwRet × OptionsState

/-- `rmw_init_options_init`. The key is the first value other than zero that `rand` returns. -/
def rmwInitOptionsInit (cfg : Config) (defaults : TransportDefaults) (clientKey : Nat)
    (initOptions allocator : Option Nat) : OptionsCall := fun s =>
  match initOptions, allocator with
  | some i, some allocator =>
    if (s.options i).implementationIdentifier ≠ none then (some .invalidArgument, s)
    else
      let s := s.write i
        { s.options i with
          instanceId := 0
          implementationIdentifier := some .eprosimaMicroxrcedds
          allocator := some allocator
          enclave := some ['/']
          domainId := 0
          securityOptions := .default
          localhostOnly := .default }
      let (block, memory) := (s.memory.init cfg.maxOptions).get
      let s := { s with memory := memory }
      match block with
      | none => (some .error, s)
      | some block =>
        let s := s.write i { s.options i with impl := some block }
        let params := (s.memory.custom block).transportParams
        let (fits, settings) := printSettings defaults params.settings
        if fits then
          (some .ok, { s with memory := s.memory.update block fun _ =>
            { transportParams := { settings := settings, clientKey := clientKey } } })
        else
          (some .invalidArgument, { s with memory := s.memory.update block fun _ =>
            { transportParams := { params with settings := settings } } })
  | _, _ => (some .invalidArgument, s)

/-- `rmw_init_options_copy`. -/
def rmwInitOptionsCopy (src dst : Option Nat) : OptionsCall := fun s =>
  match src, dst with
  | some src, some dst =>
    if (s.options src).implementationIdentifier = some .foreign then
      (some .incorrectRmwImplementation, s)
    else if (s.options dst).implementationIdentifier ≠ none then (some .invalidArgument, s)
    else
      let s := s.write dst (s.options src)
      let (block, memory) := s.memory.get
      let s := { s with memory := memory }
      match block with
      | none => (some .error, s)
      | some dstImpl =>
        let s := s.write dst { s.options dst with impl := some dstImpl }
        match (s.options src).impl with
        | none => (none, s)
        | some srcImpl =>
          (some .ok, { s with memory := s.memory.update dstImpl fun _ =>
            { transportParams := (s.memory.custom srcImpl).transportParams } })
  | _, _ => (some .invalidArgument, s)

/-- `rmw_init_options_fini`: the block is looked for among the allocated ones. -/
def rmwInitOptionsFini (initOptions : Option Nat) : OptionsCall := fun s =>
  match initOptions with
  | none => (some .invalidArgument, s)
  | some i =>
    let o := s.options i
    if o.allocator = none then (some .invalidArgument, s)
    else if o.implementationIdentifier = some .foreign then (some .incorrectRmwImplementation, s)
    else
      match s.memory.elements.find? fun block => o.impl = some block with
      | none => (some .error, s)
      | some block =>
        (some .ok, { s with memory := s.memory.put block }.write i rmwGetZeroInitializedInitOptions)

/-- The calls on init options. -/
inductive OptionsStep where
  | init (clientKey : Nat) (initOptions allocator : Option Nat)
  | copy (src dst : Option Nat)
  | fini (initOptions : Option Nat)

/-- Running one call. -/
def OptionsStep.call (cfg : Config) (defaults : TransportDefaults) : OptionsStep → OptionsCall
  | .init clientKey initOptions allocator =>
    rmwInitOptionsInit cfg defaults clientKey initOptions allocator
  | .copy src dst => rmwInitOptionsCopy src dst
  | .fini initOptions => rmwInitOptionsFini initOptions

/-- One step of a run. A program that dereferences NULL is over; it stays in the state before. -/
def optionsStep (cfg : Config) (defaults : TransportDefaults) (s : OptionsState) (i : OptionsStep) :
    OptionsState :=
  match i.call cfg defaults s with
  | (none, _) => s
  | (some _, t) => t

end RmwMicroxrcedds
