import RmwMicroxrcedds.Model.TransportOptions
import RmwMicroxrcedds.Spec.Naming

/-!
# The transport settings

A setter is meant to store what it accepts, whole, and to leave everything alone when it fails. The
checks let a text through that is as long as its array, where the terminator has no room; the setter of
the agent's address writes the address before it looks at the port; the array for a port holds four
digits; and a discovery clears what was there before it starts.
-/

namespace RmwMicroxrcedds
set_option autoImplicit false

/-- The same settings and the same key. -/
structure TransportParams.Same (p q : TransportParams) : Prop where
  setting : ∀ i, p.setting i = q.setting i
  clientKey : p.clientKey = q.clientKey

/-- The block that a pointer to a struct leads to, if both are there. -/
def OptionsState.blockOf (s : OptionsState) (rmwOptions : Option Nat) : Option Nat :=
  rmwOptions.bind fun o => (s.options o).impl

/-- What a setter owes: on success the block of the struct holds what was given, on failure every block is
as it was. -/
structure StoresOrKeeps (s : OptionsState) (rmwOptions : Option Nat) (Stored : TransportParams → Prop)
    (r : Option RmwRet × OptionsState) : Prop where
  stores : r.1 = some .ok → ∀ block ∈ r.2.blockOf rmwOptions, Stored (r.2.params block)
  keeps : ∀ ret, r.1 = some ret → ret ≠ .ok → ∀ block, (r.2.params block).Same (s.params block)

/-! ## Settings -/

theorem setSetting_getD (l : List CStr) (i : Nat) (text : CStr) (j : Nat) :
    (setSetting l i text).getD j [] = if j = i then text else l.getD j [] := by
  induction l, i, text using setSetting.induct generalizing j with
  | case1 text => cases j <;> simp [setSetting]
  | case2 text i ih =>
    cases j with
    | zero => simp [setSetting]
    | succ j => simpa [setSetting] using ih j
  | case3 text field rest => cases j <;> simp [setSetting]
  | case4 text field rest i ih =>
    cases j with
    | zero => simp [setSetting]
    | succ j => simpa [setSetting] using ih j

section Params

variable {p q : TransportParams} {text : CStr} {size : Nat}

theorem TransportParams.setting_print (p : TransportParams) (i size : Nat) (text : CStr) (j : Nat) :
    (p.print i size text).setting j = if j = i then (snprintf size text).1 else p.setting j :=
  setSetting_getD ..

theorem TransportParams.setting_clearAgent (p : TransportParams) (j : Nat) :
    p.clearAgent.setting j = if j = 0 ∨ j = 1 then [] else p.setting j := by
  have clear : p.clearAgent.setting j = if j = 1 then [] else if j = 0 then [] else p.setting j := by
    rw [clearAgent, setting, setSetting_getD, setSetting_getD]
    rfl
  rw [clear]
  by_cases h : j = 1
  · simp [h]
  · simp [h]

/-- Printing leaves the parameters alone when the text was there already. -/
theorem TransportParams.print_same_iff {i : Nat} :
    (p.print i size text).Same p ↔ p.setting i = (snprintf size text).1 := by
  constructor
  · intro same
    have here := same.setting i
    rw [setting_print, if_pos rfl] at here
    exact here.symm
  · intro there
    refine ⟨fun j => ?_, rfl⟩
    rw [setting_print]
    split
    · subst_vars
      exact there.symm
    · rfl

end Params

/-! ## Writing through a struct -/

section Editing

variable {s t : OptionsState} {rmwOptions : Option Nat} {o block : Nat} {Stored : TransportParams → Prop}
  {edit : TransportParams → TransportParams} {ret : RmwRet}

/-- The state after the parameters of a block are written. -/
def OptionsState.edited (s : OptionsState) (block : Nat) (edit : TransportParams → TransportParams) :
    OptionsState :=
  { s with memory := s.memory.update block fun impl =>
      { impl with transportParams := edit impl.transportParams } }

theorem OptionsState.editing_none (h : (s.options o).impl = none) (andThen : OptionsCall) :
    s.editing o edit andThen = (none, s) := by
  rw [editing, h]

theorem OptionsState.editing_some (h : (s.options o).impl = some block) (andThen : OptionsCall) :
    s.editing o edit andThen = andThen (s.edited block edit) := by
  rw [editing, h]
  rfl

theorem OptionsState.edited_params (s : OptionsState) (block : Nat)
    (edit : TransportParams → TransportParams) : (s.edited block edit).params block = edit (s.params block) := by
  simp only [edited, params, Slots.update, setAt_self]

theorem OptionsState.edited_params_of_ne {b : Nat} (h : b ≠ block) :
    (s.edited block edit).params b = s.params b := by
  simp only [edited, params, Slots.update, setAt_of_ne _ _ h]

theorem OptionsState.edited_edited (s : OptionsState) (block : Nat)
    (edit edit' : TransportParams → TransportParams) :
    (s.edited block edit).edited block edit' = s.edited block fun params => edit' (edit params) := by
  simp only [edited, Slots.update, setAt_self, setAt_setAt]

theorem StoresOrKeeps.refused (h : ret ≠ .ok) : StoresOrKeeps s rmwOptions Stored (some ret, s) where
  stores e := absurd (Option.some.inj e) h
  keeps _ _ _ _ := ⟨fun _ => rfl, rfl⟩

theorem StoresOrKeeps.undefined : StoresOrKeeps s rmwOptions Stored (none, t) where
  stores e := by cases e
  keeps _ e := by cases e

theorem StoresOrKeeps.edited_iff (h : s.blockOf rmwOptions = some block) :
    StoresOrKeeps s rmwOptions Stored (some .ok, s.edited block edit) ↔ Stored (edit (s.params block)) := by
  have same : (s.edited block edit).blockOf rmwOptions = some block := h
  constructor
  · intro done
    have stored := done.stores rfl block same
    rwa [OptionsState.edited_params] at stored
  · intro stored
    refine ⟨fun _ b hb => ?_, fun ret e ne => absurd (Option.some.inj e).symm ne⟩
    obtain rfl := Option.some.inj (same.symm.trans hb)
    rwa [OptionsState.edited_params]

/-- Nothing is written. -/
theorem StoresOrKeeps.idle_iff : StoresOrKeeps s rmwOptions Stored (some .ok, s) ↔
    ∀ block ∈ s.blockOf rmwOptions, Stored (s.params block) := by
  constructor
  · intro done
    exact done.stores rfl
  · intro stored
    exact ⟨fun _ => stored, fun ret e ne => absurd (Option.some.inj e).symm ne⟩

/-- Writing the settings is all that a setter does. -/
theorem StoresOrKeeps.editing_iff (Right : TransportParams → Prop)
    (h : ∀ params, Stored (edit params) ↔ Right params) :
    StoresOrKeeps s (some o) Stored (s.editing o edit (.returning .ok)) ↔
      ∀ block ∈ s.blockOf (some o), Right (s.params block) := by
  cases impl : (s.options o).impl with
  | none =>
    rw [OptionsState.editing_none impl]
    refine iff_of_true .undefined fun block hb => ?_
    cases impl.symm.trans hb
  | some block =>
    have there : s.blockOf (some o) = some block := impl
    rw [OptionsState.editing_some impl]
    refine (StoresOrKeeps.edited_iff there).trans ((h _).trans ?_)
    constructor
    · intro right b hb
      obtain rfl := Option.some.inj (there.symm.trans hb)
      exact right
    · intro right
      exact right block there

/-- One write after the other. -/
theorem OptionsState.editing_editing (edit' : TransportParams → TransportParams) (andThen : OptionsCall) :
    (s.editing o edit fun s => s.editing o edit' andThen) =
      s.editing o (fun params => edit' (edit params)) andThen := by
  cases impl : (s.options o).impl with
  | none => rw [editing_none impl, editing_none impl]
  | some block =>
    have impl' : ((s.edited block edit).options o).impl = some block := impl
    rw [editing_some impl, editing_some impl, editing_some impl', edited_edited]

theorem StoresOrKeeps.failed_iff (h : ret ≠ .ok) :
    StoresOrKeeps s rmwOptions Stored (some ret, s.edited block edit) ↔
      (edit (s.params block)).Same (s.params block) := by
  constructor
  · intro done
    have same := done.keeps ret rfl h block
    rwa [OptionsState.edited_params] at same
  · intro same
    refine ⟨fun e => absurd (Option.some.inj e) h, fun _ _ _ b => ?_⟩
    by_cases here : b = block
    · subst here
      rwa [OptionsState.edited_params]
    · rw [OptionsState.edited_params_of_ne here]
      exact ⟨fun _ => rfl, rfl⟩

end Editing

/-! ## The serial device -/

theorem serial_stored_iff (params : TransportParams) (text : CStr) :
    (∀ t ∈ some text, (params.printSerialDevice text).serialDevice = t) ↔ text.length < maxSerialDevice := by
  have stored : (params.printSerialDevice text).serialDevice = (snprintf maxSerialDevice text).1 :=
    TransportParams.setting_print ..
  rw [stored, ← snprintf_eq_iff (.inl (by decide))]
  constructor
  · intro whole
    exact whole text rfl
  · intro whole t ht
    obtain rfl := Option.some.inj ht
    exact whole

/-- Where `rmw_uros_options_set_serial_device` is right: not at the length of the array. -/
theorem set_serial_device_iff (build : TransportBuild) (s : OptionsState) (dev : Option CStr)
    (rmwOptions : Option Nat) :
    StoresOrKeeps s rmwOptions (fun params => ∀ text ∈ dev, params.serialDevice = text)
        (rmwUrosOptionsSetSerialDevice build dev rmwOptions s) ↔
      (build.transport = .serial → ∀ block ∈ s.blockOf rmwOptions, ∀ text ∈ dev,
        text.length ≠ maxSerialDevice) := by
  unfold rmwUrosOptionsSetSerialDevice
  by_cases serial : build.transport = .serial
  · rw [if_pos serial]
    cases rmwOptions with
    | none => exact iff_of_true (.refused (by decide)) fun _ _ h => by cases h
    | some o =>
      cases dev with
      | none => exact iff_of_true (.refused (by decide)) fun _ _ _ _ h => by cases h
      | some text =>
        dsimp only
        by_cases accepted : text.length ≤ maxSerialDevice
        · rw [if_pos accepted]
          refine (StoresOrKeeps.editing_iff _ fun params => serial_stored_iff params text).trans ?_
          constructor
          · intro short _ block hb t ht
            obtain rfl := Option.some.inj ht
            exact Nat.ne_of_lt (short block hb)
          · intro right block hb
            have ne := right serial block hb _ rfl
            omega
        · rw [if_neg accepted]
          exact iff_of_true (.refused (by decide)) fun _ _ _ t ht => by
            obtain rfl := Option.some.inj ht
            omega
  · rw [if_neg serial]
    exact iff_of_true (.refused (by decide)) fun h => absurd h serial

/-! ## The address of the agent -/

theorem TransportBuild.maxIpLen_pos (build : TransportBuild) : 0 < build.maxIpLen := by
  unfold maxIpLen
  split
  · decide
  · decide

/-- The two texts are whole in their arrays when each leaves room for its terminator. -/
theorem agent_stored_iff (build : TransportBuild) (params : TransportParams) (ip port : CStr) :
    let printed := (params.printAgentAddress build ip).printAgentPort port
    printed.agentAddress = ip ∧ printed.agentPort = port ↔
      ip.length < build.maxIpLen ∧ port.length < maxPortLen := by
  have address : ((params.printAgentAddress build ip).printAgentPort port).agentAddress =
      (snprintf build.maxIpLen ip).1 :=
    (TransportParams.setting_print ..).trans (TransportParams.setting_print ..)
  have stored : ((params.printAgentAddress build ip).printAgentPort port).agentPort =
      (snprintf maxPortLen port).1 := TransportParams.setting_print ..
  dsimp only
  rw [address, stored, snprintf_eq_iff (.inl build.maxIpLen_pos), snprintf_eq_iff (.inl (by decide))]

/-- The port passes the check of `rmw_uros_options_set_udp_address`. -/
def PortAccepted (port : Option CStr) : Prop := ∃ text ∈ port, text.length ≤ maxPortLen

/-- Where `rmw_uros_options_set_udp_address` is right, for an address that it accepts: both texts are
shorter than their arrays; or the port is refused, and the address it has written by then was there. -/
def UdpAddressRight (build : TransportBuild) (params : TransportParams) (ip port : Option CStr) : Prop :=
  ∀ text ∈ ip, text.length ≤ build.maxIpLen →
    (PortAccepted port → text.length ≠ build.maxIpLen ∧ ∀ p ∈ port, p.length ≠ maxPortLen) ∧
    (¬PortAccepted port → params.agentAddress = text.take (build.maxIpLen - 1))

/-- The address is written, and the port refused. -/
theorem refused_port_iff {build : TransportBuild} {s : OptionsState} {rmwOptions : Option Nat} {block : Nat}
    {ip : CStr} {port : Option CStr} {Stored : TransportParams → Prop}
    (accepted : ip.length ≤ build.maxIpLen) (refused : ¬PortAccepted port) :
    StoresOrKeeps s rmwOptions Stored
        (some .invalidArgument, s.edited block (.printAgentAddress build ip)) ↔
      UdpAddressRight build (s.params block) (some ip) port := by
  rw [StoresOrKeeps.failed_iff (by decide)]
  refine TransportParams.print_same_iff.trans ?_
  constructor
  · intro there text ht _
    obtain rfl := Option.some.inj ht
    exact ⟨fun h => absurd h refused, fun _ => there⟩
  · intro right
    exact (right ip rfl accepted).2 refused

/-- Both are written. -/
theorem accepted_port_iff {build : TransportBuild} {s : OptionsState} {rmwOptions : Option Nat} {block : Nat}
    {ip port : CStr} (there : s.blockOf rmwOptions = some block) (accepted : ip.length ≤ build.maxIpLen)
    (fits : port.length ≤ maxPortLen) :
    StoresOrKeeps s rmwOptions
        (fun params => (∀ text ∈ some ip, params.agentAddress = text) ∧
          ∀ text ∈ some port, params.agentPort = text)
        (some .ok, s.edited block fun params => (params.printAgentAddress build ip).printAgentPort port) ↔
      UdpAddressRight build (s.params block) (some ip) (some port) := by
  have stored := agent_stored_iff build (s.params block) ip port
  rw [StoresOrKeeps.edited_iff there]
  constructor
  · rintro ⟨address, rest⟩ text ht _
    obtain rfl := Option.some.inj ht
    obtain ⟨short, short'⟩ := stored.1 ⟨address _ rfl, rest _ rfl⟩
    refine ⟨fun _ => ⟨Nat.ne_of_lt short, fun p hp => ?_⟩, fun refused => absurd ⟨port, rfl, fits⟩ refused⟩
    obtain rfl := Option.some.inj hp
    exact Nat.ne_of_lt short'
  · intro right
    obtain ⟨ne, ne'⟩ := (right ip rfl accepted).1 ⟨port, rfl, fits⟩
    obtain ⟨address, rest⟩ := stored.2 ⟨by omega, by have := ne' port rfl; omega⟩
    constructor
    · intro text ht
      obtain rfl := Option.some.inj ht
      exact address
    · intro text ht
      obtain rfl := Option.some.inj ht
      exact rest

theorem set_udp_address_iff (build : TransportBuild) (s : OptionsState) (ip port : Option CStr)
    (rmwOptions : Option Nat) :
    StoresOrKeeps s rmwOptions
        (fun params => (∀ text ∈ ip, params.agentAddress = text) ∧ ∀ text ∈ port, params.agentPort = text)
        (rmwUrosOptionsSetUdpAddress build ip port rmwOptions s) ↔
      (build.transport = .udp → ∀ block ∈ s.blockOf rmwOptions,
        UdpAddressRight build (s.params block) ip port) := by
  unfold rmwUrosOptionsSetUdpAddress
  by_cases udp : build.transport = .udp
  · rw [if_pos udp]
    cases rmwOptions with
    | none => exact iff_of_true (.refused (by decide)) fun _ _ h => by cases h
    | some o =>
      cases ip with
      | none => exact iff_of_true (.refused (by decide)) fun _ _ _ _ h => by cases h
      | some ip =>
        dsimp only
        by_cases accepted : ip.length ≤ build.maxIpLen
        · rw [if_pos accepted]
          cases impl : (s.options o).impl with
          | none =>
            rw [OptionsState.editing_none impl]
            exact iff_of_true .undefined fun _ block hb => by
              cases impl.symm.trans hb
          | some block =>
            have there : s.blockOf (some o) = some block := impl
            have right : (build.transport = .udp → ∀ b ∈ s.blockOf (some o),
                UdpAddressRight build (s.params b) (some ip) port) ↔
                  UdpAddressRight build (s.params block) (some ip) port := by
              constructor
              · intro h
                exact h udp block there
              · intro h _ b hb
                obtain rfl := Option.some.inj (there.symm.trans hb)
                exact h
            rw [OptionsState.editing_some impl, right]
            cases port with
            | none => exact refused_port_iff accepted fun ⟨_, h, _⟩ => by cases h
            | some port =>
              by_cases fits : port.length ≤ maxPortLen
              · have impl' : ((s.edited block (.printAgentAddress build ip)).options o).impl = some block := impl
                rw [setUdpPort, if_pos fits, OptionsState.editing_some impl', OptionsState.edited_edited]
                exact accepted_port_iff there accepted fits
              · rw [setUdpPort, if_neg fits]
                refine refused_port_iff accepted ?_
                rintro ⟨text, ht, le⟩
                obtain rfl := Option.some.inj ht
                exact fits le
        · rw [if_neg accepted]
          exact iff_of_true (.refused (by decide)) fun _ _ _ t ht le => by
            obtain rfl := Option.some.inj ht
            exact absurd le accepted
  · rw [if_neg udp]
    exact iff_of_true (.refused (by decide)) fun h => absurd h udp

/-! ## The arguments of the program -/

/-- The settings that the arguments name, for the transport of the build. -/
def ArgumentsStored (build : TransportBuild) (argv : List CStr) (params : TransportParams) : Prop :=
  match build.transport with
  | .serial => ∀ text ∈ argv[1]?, params.serialDevice = text
  | .udp | .tcp =>
    (∀ text ∈ argv[1]?, params.agentAddress = text) ∧ ∀ text ∈ argv[2]?, params.agentPort = text
  | .custom => True

/-- Where `rmw_uros_init_options` is right: there are too few arguments, or they are shorter than their
arrays. A TCP build ignores the arguments, which have to be there already. -/
def ArgumentsRight (build : TransportBuild) (argv : List CStr) (params : TransportParams) : Prop :=
  match build.transport with
  | .serial => 2 ≤ argv.length → (argv.getD 1 []).length < maxSerialDevice
  | .udp => 3 ≤ argv.length →
    (argv.getD 1 []).length < build.maxIpLen ∧ (argv.getD 2 []).length < maxPortLen
  | .tcp => (∀ text ∈ argv[1]?, params.agentAddress = text) ∧ ∀ text ∈ argv[2]?, params.agentPort = text
  | .custom => True

theorem getElem?_of_le {argv : List CStr} {i : Nat} (h : i + 1 ≤ argv.length) :
    argv[i]? = some (argv.getD i []) := by
  rw [List.getD_eq_getElem?_getD, List.getElem?_eq_getElem h, Option.getD_some]

theorem init_options_iff (build : TransportBuild) (s : OptionsState) (argv : List CStr)
    (rmwOptions : Option Nat) :
    StoresOrKeeps s rmwOptions (ArgumentsStored build argv) (rmwUrosInitOptions build argv rmwOptions s) ↔
      ∀ block ∈ s.blockOf rmwOptions, ArgumentsRight build argv (s.params block) := by
  cases rmwOptions with
  | none => exact iff_of_true (.refused (by decide)) fun _ h => by cases h
  | some o =>
    unfold rmwUrosInitOptions ArgumentsStored ArgumentsRight
    dsimp only
    cases transport : build.transport with
    | serial =>
      dsimp only
      by_cases enough : 2 ≤ argv.length
      · rw [if_pos enough]
        refine StoresOrKeeps.editing_iff (fun _ => 2 ≤ argv.length → _ < maxSerialDevice) fun params => ?_
        rw [getElem?_of_le enough]
        exact (serial_stored_iff params _).trans (imp_iff_right enough).symm
      · rw [if_neg enough]
        exact iff_of_true (.refused (by decide)) fun _ _ h => absurd h enough
    | udp =>
      dsimp only
      by_cases enough : 3 ≤ argv.length
      · rw [if_pos enough, OptionsState.editing_editing]
        refine StoresOrKeeps.editing_iff (fun _ => 3 ≤ argv.length → _ < build.maxIpLen ∧ _ < maxPortLen)
          fun params => ?_
        rw [getElem?_of_le enough, getElem?_of_le (Nat.le_of_succ_le enough)]
        refine Iff.trans ?_ ((agent_stored_iff build params _ _).trans (imp_iff_right enough).symm)
        constructor
        · rintro ⟨address, port⟩
          exact ⟨address _ rfl, port _ rfl⟩
        · rintro ⟨address, port⟩
          constructor
          · intro text ht
            obtain rfl := Option.some.inj ht
            exact address
          · intro text ht
            obtain rfl := Option.some.inj ht
            exact port
      · rw [if_neg enough]
        exact iff_of_true (.refused (by decide)) fun _ _ h => absurd h enough
    | tcp =>
      dsimp only
      exact StoresOrKeeps.idle_iff
    | custom =>
      dsimp only
      exact StoresOrKeeps.idle_iff

/-- The setter of the key, which has nothing to check, is right. -/
theorem set_client_key_right (clientKey : Nat) (s : OptionsState) (rmwOptions : Option Nat) :
    StoresOrKeeps s rmwOptions (fun params => params.clientKey = clientKey)
      (rmwUrosOptionsSetClientKey clientKey rmwOptions s) := by
  cases rmwOptions with
  | none => exact .refused (by decide)
  | some o =>
    unfold rmwUrosOptionsSetClientKey
    apply (StoresOrKeeps.editing_iff (fun _ => True) ?_).2 fun _ _ => trivial
    intro params
    exact iff_of_true rfl trivial

/-! ## Discovery -/

section Discovery

variable {build : TransportBuild} {reachable : Reachable} {found : List (AgentFound build)}

/-- The agent a discovery connects to: the first with which a session is created. -/
def connectedTo (reachable : Reachable) (found : List (AgentFound build)) (clientKey : Nat) :
    Option (AgentFound build) :=
  found.find? fun locator => reachable locator.ip (portStr locator.port) clientKey

theorem discoveryAgents_eq (reachable : Reachable) (found : List (AgentFound build)) (params : TransportParams) :
    discoveryAgents reachable found params =
      match connectedTo reachable found params.clientKey with
      | none => params
      | some agent => (params.printAgentPort (decimal agent.port.toNat)).printAgentAddress build agent.ip := by
  unfold connectedTo
  induction found with
  | nil => rfl
  | cons locator rest ih =>
    rw [discoveryAgents, onAgentFound]
    by_cases connects : reachable locator.ip (portStr locator.port) params.clientKey = true
    · rw [if_pos connects, List.find?_cons, connects]
    · rw [if_neg connects, List.find?_cons, (Bool.not_eq_true _).mp connects]
      exact ih

/-- The settings of the agent it connected to. -/
def AgentStored (reachable : Reachable) (found : List (AgentFound build)) (params : TransportParams) : Prop :=
  ∀ agent ∈ connectedTo reachable found params.clientKey,
    params.agentAddress = agent.ip ∧ params.agentPort = decimal agent.port.toNat

/-- Where `rmw_uros_discover_agent` is right: the agent it connects to has a port of at most four digits; or
there is none, and no address or port is set. -/
def DiscoveryRight (reachable : Reachable) (found : List (AgentFound build)) (params : TransportParams) : Prop :=
  match connectedTo reachable found params.clientKey with
  | some agent => agent.port.toNat < 10000
  | none => params.agentAddress = [] ∧ params.agentPort = []

theorem decimal_short_iff (n : Nat) : (decimal n).length < maxPortLen ↔ n < 10000 :=
  Nat.lt_succ_iff.trans (Nat.length_toDigits_le_iff (by decide) (by decide))

/-- The agent's settings once they are printed. -/
theorem printed_agent (agent : AgentFound build) (params : TransportParams) :
    let printed := (params.printAgentPort (decimal agent.port.toNat)).printAgentAddress build agent.ip
    printed.agentAddress = agent.ip ∧
      printed.agentPort = (snprintf maxPortLen (decimal agent.port.toNat)).1 := by
  constructor
  · exact (TransportParams.setting_print ..).trans (snprintf_whole agent.fits)
  · exact (TransportParams.setting_print ..).trans (TransportParams.setting_print ..)

theorem clearAgent_same_iff (params : TransportParams) :
    params.clearAgent.Same params ↔ params.agentAddress = [] ∧ params.agentPort = [] := by
  constructor
  · intro same
    have address := same.setting 0
    have port := same.setting 1
    rw [TransportParams.setting_clearAgent] at address port
    exact ⟨address.symm, port.symm⟩
  · rintro ⟨address, port⟩
    refine ⟨fun i => ?_, rfl⟩
    rw [TransportParams.setting_clearAgent]
    split
    · rcases ‹i = 0 ∨ i = 1› with rfl | rfl
      · exact address.symm
      · exact port.symm
    · rfl

/-- What a discovery makes of the settings. -/
def discovered (reachable : Reachable) (found : List (AgentFound build)) (params : TransportParams) :
    TransportParams := discoveryAgents reachable found params.clearAgent

/-- A discovery that connects to an agent succeeds; it stores the whole port if that has four digits. -/
theorem discovery_found {s : OptionsState} {rmwOptions : Option Nat} {block : Nat} {agent : AgentFound build}
    (there : s.blockOf rmwOptions = some block)
    (connected : connectedTo reachable found (s.params block).clientKey = some agent) :
    StoresOrKeeps s rmwOptions (AgentStored reachable found)
        (some (if 0 < (discovered reachable found (s.params block)).agentAddress.length then .ok else .timeout),
          s.edited block (discovered reachable found)) ↔
      agent.port.toNat < 10000 := by
  have key : connectedTo reachable found (s.params block).clearAgent.clientKey = some agent := connected
  have after : discovered reachable found (s.params block) =
      ((s.params block).clearAgent.printAgentPort (decimal agent.port.toNat)).printAgentAddress build agent.ip := by
    rw [discovered, discoveryAgents_eq, key]
  obtain ⟨address, port⟩ := printed_agent agent (s.params block).clearAgent
  have succeeds : 0 < (discovered reachable found (s.params block)).agentAddress.length := by
    rw [after, address]
    exact List.length_pos_iff.2 agent.nonempty
  have same : (discovered reachable found (s.params block)).clientKey = (s.params block).clientKey := by
    rw [after]
    rfl
  rw [if_pos succeeds, StoresOrKeeps.edited_iff there, AgentStored, same, connected,
    ← decimal_short_iff, ← snprintf_eq_iff (.inl (by decide)), after]
  constructor
  · intro stored
    exact port.symm.trans (stored agent rfl).2
  · intro whole a ha
    obtain rfl := Option.some.inj ha
    exact ⟨address, port.trans whole⟩

/-- One that does not has cleared the settings. -/
theorem discovery_lost {s : OptionsState} {rmwOptions : Option Nat} {block : Nat}
    (connected : connectedTo reachable found (s.params block).clientKey = none) :
    StoresOrKeeps s rmwOptions (AgentStored reachable found)
        (some (if 0 < (discovered reachable found (s.params block)).agentAddress.length then .ok else .timeout),
          s.edited block (discovered reachable found)) ↔
      (s.params block).agentAddress = [] ∧ (s.params block).agentPort = [] := by
  have key : connectedTo reachable found (s.params block).clearAgent.clientKey = none := connected
  have after : discovered reachable found (s.params block) = (s.params block).clearAgent := by
    rw [discovered, discoveryAgents_eq, key]
  have fails : ¬0 < (discovered reachable found (s.params block)).agentAddress.length := by
    rw [after, TransportParams.agentAddress, TransportParams.setting_clearAgent]
    exact Nat.lt_irrefl 0
  rw [if_neg fails, StoresOrKeeps.failed_iff (by decide), after]
  exact clearAgent_same_iff _

theorem discover_agent_iff (build : TransportBuild) (reachable : Reachable) (found : List (AgentFound build))
    (s : OptionsState) (rmwOptions : Option Nat) :
    StoresOrKeeps s rmwOptions (AgentStored reachable found)
        (rmwUrosDiscoverAgent reachable found rmwOptions s) ↔
      (build.profileDiscovery = true → ∀ block ∈ s.blockOf rmwOptions,
        DiscoveryRight reachable found (s.params block)) := by
  unfold rmwUrosDiscoverAgent
  by_cases profile : build.profileDiscovery = true
  · rw [if_pos profile]
    cases rmwOptions with
    | none => exact iff_of_true (.refused (by decide)) fun _ _ h => by cases h
    | some o =>
      dsimp only
      cases impl : (s.options o).impl with
      | none =>
        rw [OptionsState.editing_none impl]
        refine iff_of_true .undefined fun _ block hb => ?_
        cases impl.symm.trans hb
      | some block =>
        have there : s.blockOf (some o) = some block := impl
        have right : (build.profileDiscovery = true → ∀ b ∈ s.blockOf (some o),
            DiscoveryRight reachable found (s.params b)) ↔
              DiscoveryRight reachable found (s.params block) := by
          constructor
          · intro h
            exact h profile block there
          · intro h _ b hb
            obtain rfl := Option.some.inj (there.symm.trans hb)
            exact h
        have params : (s.edited block (discovered reachable found)).params
            (deref ((s.edited block (discovered reachable found)).options o).impl) =
              discovered reachable found (s.params block) := by
          show (s.edited block _).params (deref (s.options o).impl) = _
          rw [impl]
          exact OptionsState.edited_params ..
        rw [OptionsState.editing_some impl, right, DiscoveryRight]
        show StoresOrKeeps s (some o) _ (some (if 0 < ((s.edited block (discovered reachable found)).params
          (deref ((s.edited block (discovered reachable found)).options o).impl)).agentAddress.length then
            .ok else .timeout), s.edited block (discovered reachable found)) ↔ _
        rw [params]
        cases connected : connectedTo reachable found (s.params block).clientKey with
        | none => exact discovery_lost connected
        | some agent => exact discovery_found there connected
  · rw [if_neg profile]
    exact iff_of_true (.refused (by decide)) fun h => absurd h profile

end Discovery

/-! ## The setters -/

/-- **The setters store what they accept and are atomic** just where no text is as long as its array or
longer, the port is not refused after the address is written, and a discovery that finds an agent finds
one with a port of four digits, and one that finds none had nothing to clear. -/
theorem setters_atomic_iff (build : TransportBuild) (s : OptionsState) (rmwOptions : Option Nat) :
    (∀ dev : Option CStr,
      StoresOrKeeps s rmwOptions (fun params => ∀ text ∈ dev, params.serialDevice = text)
          (rmwUrosOptionsSetSerialDevice build dev rmwOptions s) ↔
        (build.transport = .serial → ∀ block ∈ s.blockOf rmwOptions, ∀ text ∈ dev,
          text.length ≠ maxSerialDevice)) ∧
    (∀ ip port : Option CStr,
      StoresOrKeeps s rmwOptions
          (fun params => (∀ text ∈ ip, params.agentAddress = text) ∧ ∀ text ∈ port, params.agentPort = text)
          (rmwUrosOptionsSetUdpAddress build ip port rmwOptions s) ↔
        (build.transport = .udp → ∀ block ∈ s.blockOf rmwOptions,
          UdpAddressRight build (s.params block) ip port)) ∧
    (∀ argv : List CStr,
      StoresOrKeeps s rmwOptions (ArgumentsStored build argv) (rmwUrosInitOptions build argv rmwOptions s) ↔
        ∀ block ∈ s.blockOf rmwOptions, ArgumentsRight build argv (s.params block)) ∧
    ∀ (reachable : Reachable) (found : List (AgentFound build)),
      StoresOrKeeps s rmwOptions (AgentStored reachable found)
          (rmwUrosDiscoverAgent reachable found rmwOptions s) ↔
        (build.profileDiscovery = true → ∀ block ∈ s.blockOf rmwOptions,
          DiscoveryRight reachable found (s.params block)) :=
  ⟨fun _ => set_serial_device_iff .., fun _ _ => set_udp_address_iff .., fun _ => init_options_iff ..,
    fun _ _ => discover_agent_iff ..⟩

/-- The setters on options just initialised for an agent at 127.0.0.1, port 8888: a device of 50 characters
is cut; the port 12345 is cut, given to the setter, as an argument or by an agent; a port of six digits is
refused when the address is overwritten; and a discovery that finds nobody forgets the agent. -/
theorem setters_cut_texts :
    let serial : TransportBuild := ⟨.serial, false, false⟩
    let udp : TransportBuild := ⟨.udp, false, true⟩
    let ip : CStr := ['1', '0', '.', '0', '.', '0', '.', '1']
    let port : CStr := ['1', '2', '3', '4', '5']
    let agent : AgentFound udp := ⟨ip, 12345, by decide, by decide⟩
    let s := (rmwInitOptionsInit Small.config
      [(['1', '2', '7', '.', '0', '.', '0', '.', '1'], 16), (['8', '8', '8', '8'], 5)] 1 (some 0) (some 0)
      .zero).2
    ¬StoresOrKeeps s (some 0) (fun params => ∀ text ∈ some (List.replicate 50 'd'), params.serialDevice = text)
        (rmwUrosOptionsSetSerialDevice serial (some (List.replicate 50 'd')) (some 0) s) ∧
      ¬StoresOrKeeps s (some 0)
        (fun params => (∀ text ∈ some ip, params.agentAddress = text) ∧ ∀ text ∈ some port, params.agentPort = text)
        (rmwUrosOptionsSetUdpAddress udp (some ip) (some port) (some 0) s) ∧
      ¬StoresOrKeeps s (some 0)
        (fun params => (∀ text ∈ some ip, params.agentAddress = text) ∧
          ∀ text ∈ some (port ++ ['6']), params.agentPort = text)
        (rmwUrosOptionsSetUdpAddress udp (some ip) (some (port ++ ['6'])) (some 0) s) ∧
      ¬StoresOrKeeps s (some 0) (ArgumentsStored udp [['a'], ip, port])
        (rmwUrosInitOptions udp [['a'], ip, port] (some 0) s) ∧
      ¬StoresOrKeeps s (some 0) (AgentStored (fun _ _ _ => true) [agent])
        (rmwUrosDiscoverAgent (fun _ _ _ => true) [agent] (some 0) s) ∧
      ¬StoresOrKeeps s (some 0) (AgentStored (fun _ _ _ => false) [agent])
        (rmwUrosDiscoverAgent (fun _ _ _ => false) [agent] (some 0) s) := by
  intro serial udp ip port agent s
  have there : s.blockOf (some 0) = some 1 := by decide
  refine ⟨?_, ?_, ?_, ?_, ?_, ?_⟩
  · rw [set_serial_device_iff]
    intro right
    exact right rfl 1 there _ rfl rfl
  · rw [set_udp_address_iff]
    intro right
    exact ((right rfl 1 there ip rfl (by decide)).1 ⟨port, rfl, by decide⟩).2 port rfl rfl
  · rw [set_udp_address_iff]
    intro right
    have kept := (right rfl 1 there ip rfl (by decide)).2 fun ⟨_, h, short⟩ => by
      obtain rfl := Option.some.inj h
      revert short
      decide
    revert kept
    decide
  · rw [init_options_iff]
    intro right
    have short := (right 1 there (by decide)).2
    revert short
    decide
  · rw [discover_agent_iff]
    intro right
    have short : agent.port.toNat < 10000 := right rfl 1 there
    revert short
    decide
  · rw [discover_agent_iff]
    intro right
    have cleared : (s.params 1).agentAddress = [] ∧ _ := right rfl 1 there
    have address := cleared.1
    revert address
    decide

end RmwMicroxrcedds
