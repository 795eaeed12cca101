import RmwMicroxrcedds.Proof.Openings

/-!
# Initialisations that fail

Each failing exit of `rmw_init` undoes what was done up to it. The last one, behind the graph, deletes the
session on the agent and stops there: the context keeps its session, the element is not put back and the
transport stays open. Two more leave what `CLOSE_TRANSPORT` does not reach: the serial device, where it is
opened and cannot be set up, and the connection of a TCP build, which defines the macro as nothing.
-/

namespace RmwMicroxrcedds
set_option autoImplicit false

open Triples

variable {cfg : Config}

/-- What a moment does to a transport: it opens it, or leaves it closed. -/
def Moment.transport? (m : Moment) : Option (Nat × Bool) :=
  match m.act with
  | .openTransport session opened => some (session, opened)
  | .closeTransport session => some (session, false)
  | _ => none

/-- What has been done to the transports so far, the latest first. -/
def State.transports (s : State) : List (Nat × Bool) := s.trace.filterMap Moment.transport?

/-- What is new since a state. -/
def State.transportsSince (t s : State) : List (Nat × Bool) :=
  t.transports.take (t.transports.length - s.transports.length)

/-- An initialisation that left no trace: the session pool is as before, once it is set up; the context has
no session; and no transport is open that was opened. -/
structure NoTrace (cfg : Config) (s : State) (r : (RmwRet × Option Nat) × State) : Prop where
  allocated : r.2.w.ent.session.elements = s.w.ent.session.elements
  free : ∀ i, i ∈ r.2.w.ent.session.memory.free ↔ i ∈ (s.w.ent.session.init cfg.maxSessions).memory.free
  impl : r.1.2 = none
  closed : ∀ c, (r.2.transportsSince s).find? (·.1 = c) ≠ some (c, true)

/-- The graph cannot be set up: one of its documents is refused, or the agent does not confirm it. `agent`
is what the agent answers from then on. -/
def GraphFails (cfg : Config) (graphTypeSupport : MessageTypeSupportCallbacks) (agent : List Answer) : Prop :=
  (buildTopicXml cfg graphTopicName graphTypeSupport graphSubscriptionQosPolicies
    [] cfg.entityNamingBufferLength).1 = 0 ∨
  (buildDatareaderXml cfg graphTopicName graphTypeSupport graphSubscriptionQosPolicies
    [] cfg.entityNamingBufferLength).1 = 0 ∨ confirms agent = false

/-- The transport cannot be initialised. -/
def TransportFails (transport : Transport) (env : TransportEnvironment) : Prop :=
  match transport with
  | .serial => env.fd ≤ 0 ∨ env.tcgetattr ≠ 0 ∨ env.tcsetattr ≠ 0 ∨ env.initTransport = false
  | .udp | .tcp | .custom => env.initTransport = false

/-- One of the points at which `rmw_init` can fail does. -/
inductive Fails (cfg : Config) (env : InitEnvironment) (agent : List Answer) (s : State) : Prop where
  | noSession (full : cfg.maxSessions ≤ s.w.ent.session.elements.length)
  | noTransport (fails : TransportFails cfg.transport env.transport)
  | noAgent (unconfirmed : confirms agent = false)
  | noGraph (graph : cfg.graph = true) (fails : GraphFails cfg env.graphTypeSupport agent.tail)

/-- The initialisation comes as far as the graph, which then fails. -/
def StopsAtGraph (cfg : Config) (env : InitEnvironment) (agent : List Answer) (s : State) : Prop :=
  s.w.ent.session.elements.length < cfg.maxSessions ∧ ¬TransportFails cfg.transport env.transport ∧
    confirms agent = true ∧ cfg.graph = true ∧ GraphFails cfg env.graphTypeSupport agent.tail

/-- The initialisation fails in its transport or on the session, and what is open cannot be closed. -/
def StaysOpen (cfg : Config) (env : TransportEnvironment) (agent : List Answer) (s : State) : Prop :=
  s.w.ent.session.elements.length < cfg.maxSessions ∧
    match cfg.transport with
    | .serial => env.fd = 0 ∨ 0 < env.fd ∧ (env.tcgetattr ≠ 0 ∨ env.tcsetattr ≠ 0)
    | .tcp => (env.initTransport = false ∧ env.leavesOpen = true) ∨
        (env.initTransport = true ∧ confirms agent = false)
    | .udp | .custom => False

/-! ## The transport -/

theorem transportFails_iff (env : InitEnvironment) :
    (env.transportInit cfg).ret ≠ .ok ↔ TransportFails cfg.transport env.transport := by
  unfold InitEnvironment.transportInit rmwUxrceTransportInit TransportFails
  cases cfg.transport with
  | serial =>
    dsimp only
    split
    · split
      · simp_all
      · split
        · simp_all
        · split <;> simp_all
    · simp_all
  | udp | tcp | custom => cases h : env.transport.initTransport <;> simp

/-- A transport that is initialised is open and the context refers to it. -/
theorem transportInit_ok {env : InitEnvironment} (ok : (env.transportInit cfg).ret = .ok) :
    (env.transportInit cfg).opened = true ∧ (env.transportInit cfg).held = true := by
  revert ok
  unfold InitEnvironment.transportInit rmwUxrceTransportInit
  cases cfg.transport with
  | serial =>
    dsimp only
    split_ifs <;> simp
  | udp | tcp | custom => cases h : env.transport.initTransport <;> simp

/-- What `CLOSE_TRANSPORT` does to the transports. -/
def closing (cfg : Config) (c : Nat) (held : Bool) : List (Nat × Bool) :=
  if cfg.transport.closes = true ∧ held = true then [(c, false)] else []

/-- A transport is not open any more if it was not opened, or the macro reaches it. -/
theorem find?_closing_iff (c : Nat) (held opened : Bool) :
    (∀ c', (closing cfg c held ++ [(c, opened)]).find? (·.1 = c') ≠ some (c', true)) ↔
      (opened = true → cfg.transport.closes = true ∧ held = true) := by
  rw [closing]
  split
  · rename_i closes
    refine iff_of_true (fun c' found => ?_) fun _ => closes
    by_cases h : c = c' <;> simp [h] at found
  · rename_i stays
    cases opened with
    | false => exact iff_of_true (fun c' => by by_cases h : c = c' <;> simp [h]) (by simp)
    | true => exact iff_of_false (fun none => none c (by simp)) fun reached => stays (reached rfl)

/-! ## The exits -/

theorem uxrRunSession_transports (cfg : Config) (session : Nat) (s : State) :
    (uxrRunSession cfg session s).2.transports = s.transports :=
  uxrRunSession_trace (fun m session ev act => by rw [Moment.transport?, act]) cfg session s

theorem rmwGraphInit_result (graphTypeSupport : MessageTypeSupportCallbacks) (context : Nat)
    (agent : List Answer) :
    Hoare (fun s => s.agent = agent) (rmwGraphInit cfg graphTypeSupport context) fun ret _ =>
      ret ≠ .ok ↔ GraphFails cfg graphTypeSupport agent := by
  unfold rmwGraphInit GraphFails
  -- the ids and the graph info come before anything is asked
  refine Triple.bind (M := fun _ s => s.agent = agent) (Hoare.of fun _ h => h) fun _ => ?_
  refine Triple.bind (M := fun _ s => s.agent = agent) (Hoare.of fun _ h => h) fun _ => ?_
  refine Triple.bind (M := fun _ s => s.agent = agent) (Hoare.of fun _ h => h) fun _ => ?_
  refine Triple.bind (M := fun _ s => s.agent = agent) (Hoare.of fun _ h => h) fun _ => ?_
  refine Triple.bind (M := fun _ s => s.agent = agent) (Hoare.of fun _ h => h) fun _ => ?_
  dsimp only
  refine Triple.ite (fun refused => Triple.pure fun _ _ => ?_) fun accepted => ?_
  · refine iff_of_true (by decide) ?_
    rcases refused with topic | datareader
    · exact .inl topic
    · exact .inr (.inl datareader)
  · refine Triple.bind (M := fun confirmed _ => confirmed = confirms agent) (Hoare.of fun s h => ?_)
      fun confirmed => ?_
    · rw [← h]
      exact (uxrRunSession_spec cfg context s).1
    · refine Triple.bind (M := fun _ _ => confirmed = confirms agent) (Hoare.of fun _ h => h) fun _ => ?_
      refine Triple.pure fun _ h => ?_
      rw [← h]
      have documents := not_or.1 accepted
      cases confirmed with
      | true => exact iff_of_false (fun ne => ne rfl) (by simpa using documents)
      | false => exact iff_of_true (by decide) (.inr (.inr rfl))

/-- How an initialisation ends: what it returns, and what it has done to the transports. `full` is whether
every session is in use, `agent` what the agent answers. -/
inductive InitEnd (cfg : Config) (env : InitEnvironment) (full : Prop) (agent : List Answer)
    (transports : List (Nat × Bool)) : RmwRet × Option Nat → State → Prop where
  | noSession {t : State} (h : full) (size : t.w.ent.session.memory.size = cfg.maxSessions)
    (same : t.transports = transports) :
    InitEnd cfg env full agent transports (.error, none) t
  | noTransport {t : State} {c : Nat} (h : ¬full) (fails : (env.transportInit cfg).ret ≠ .ok)
    (size : t.w.ent.session.memory.size = cfg.maxSessions)
    (closed : t.transports = closing cfg c (env.transportInit cfg).held ++
      (c, (env.transportInit cfg).opened) :: transports) :
    InitEnd cfg env full agent transports ((env.transportInit cfg).ret, none) t
  | noAgent {t : State} {c : Nat} (h : ¬full) (opened : (env.transportInit cfg).ret = .ok)
    (unconfirmed : confirms agent = false) (size : t.w.ent.session.memory.size = cfg.maxSessions)
    (closed : t.transports = closing cfg c (env.transportInit cfg).held ++
      (c, (env.transportInit cfg).opened) :: transports) :
    InitEnd cfg env full agent transports (.error, none) t
  | noGraph {t : State} {c : Nat} (h : ¬full) (opened : (env.transportInit cfg).ret = .ok)
    (confirmed : confirms agent = true) (graph : cfg.graph = true)
    (fails : GraphFails cfg env.graphTypeSupport agent.tail) :
    InitEnd cfg env full agent transports (.error, some c) t
  | opened {t : State} {c : Nat} (h : ¬full) (opened : (env.transportInit cfg).ret = .ok)
    (confirmed : confirms agent = true)
    (graph : cfg.graph = true → ¬GraphFails cfg env.graphTypeSupport agent.tail) :
    InitEnd cfg env full agent transports (.ok, some c) t

theorem closeTransport_spec (c : Nat) (held : Bool) (s : State) :
    (closeTransport cfg c held s).2.w = s.w ∧
      (closeTransport cfg c held s).2.transports = closing cfg c held ++ s.transports := by
  unfold closeTransport closing
  split
  · exact ⟨rfl, rfl⟩
  · exact ⟨rfl, rfl⟩

theorem initFail_ends {env : InitEnvironment} {full : Prop} {agent : List Answer} {c : Nat} {held : Bool}
    {ret : RmwRet} {before transports : List (Nat × Bool)}
    (ends : ∀ t : State, t.w.ent.session.memory.size = cfg.maxSessions →
      t.transports = closing cfg c held ++ before → InitEnd cfg env full agent transports (ret, none) t) :
    Hoare (fun s => s.w.ent.session.memory.size = cfg.maxSessions ∧ s.transports = before)
      (do
        initFail cfg c held
        return (ret, none) : Prog (RmwRet × Option Nat))
      (InitEnd cfg env full agent transports) := .of fun s h => by
  obtain ⟨world, closed⟩ := @closeTransport_spec cfg c held s
  apply ends
  · exact (Slots.put_size ..).trans ((congrArg (·.ent.session.memory.size) world).trans h.1)
  · exact closed.trans (congrArg (closing cfg c held ++ ·) h.2)

/-- **`rmw_init`**, by its exits. -/
theorem rmwInit_ends {s : State} (wf : Wf cfg s) (env : InitEnvironment) :
    InitEnd cfg env (cfg.maxSessions ≤ s.w.ent.session.elements.length) s.agent s.transports
      (rmwInit cfg env s).1 (rmwInit cfg env s).2 := by
  set u := (initFirstPools cfg s).2 with hu
  obtain ⟨ok, elements, size⟩ := wf.session.init
  have session : u.w.ent.session = s.w.ent.session.init cfg.maxSessions := rfl
  unfold rmwInit
  rw [Prog.bind_run, Prog.bind_run, ← hu]
  cases slot : u.w.ent.session.get.1 with
  | none =>
    have taken : getMemory .session u = (none, u) :=
      getMemory_none .session (session ▸ ok) slot
    rw [taken]
    refine .noSession ?_ size rfl
    by_contra room
    have some := Slots.Ok.get_isSome ok (by rw [elements, size]; omega)
    rw [← session, slot] at some
    cases some
  | some c =>
    have room : ¬cfg.maxSessions ≤ s.w.ent.session.elements.length := by
      have spare := Slots.Ok.get_some ok (session ▸ slot)
      have lt := Slots.Ok.length_lt ok spare.2.1 spare.2.2.1
      rw [elements, size] at lt
      omega
    have taken : getMemory .session u = (some c, u.mapEnt fun e =>
        { e with session := u.w.ent.session.get.2 }) := getMemory_some .session slot
    have start : (u.mapEnt fun e => { e with session := u.w.ent.session.get.2 }).agent = s.agent ∧
        u.w.ent.session.get.2.memory.size = cfg.maxSessions ∧
        (u.mapEnt fun e => { e with session := u.w.ent.session.get.2 }).transports = s.transports :=
      ⟨rfl, (Slots.Ok.get_size ok).trans size, rfl⟩
    rw [taken]
    dsimp only
    refine ((?_ : Hoare (fun t => t.agent = s.agent ∧ t.w.ent.session.memory.size = cfg.maxSessions ∧
      t.transports = s.transports) _ (InitEnd cfg env _ s.agent s.transports)) _ start).2
    refine Triple.bind (M := fun _ t => t.agent = s.agent ∧ t.w.ent.session.memory.size = cfg.maxSessions ∧
      t.transports = s.transports) (Hoare.of fun _ h => h) fun _ => ?_
    refine Triple.bind (M := fun _ t => t.agent = s.agent ∧ t.w.ent.session.memory.size = cfg.maxSessions ∧
      t.transports = s.transports) (Hoare.of fun _ h => h) fun _ => ?_
    refine Triple.bind (M := fun _ t => t.agent = s.agent ∧ t.w.ent.session.memory.size = cfg.maxSessions ∧
      t.transports = (c, (env.transportInit cfg).opened) :: s.transports)
      (Hoare.of fun _ h => ⟨h.1, h.2.1, congrArg (_ :: ·) h.2.2⟩) fun _ => ?_
    refine Triple.ite (fun fails => ?_) fun opened => ?_
    · exact (initFail_ends fun t size closed => .noTransport room fails size closed).strengthen fun _ h => h.2
    · have ok : (env.transportInit cfg).ret = .ok := not_not.1 opened
      refine Triple.bind (M := fun confirmed t => confirmed = confirms s.agent ∧ t.agent = s.agent.tail ∧
        t.w.ent.session.memory.size = cfg.maxSessions ∧
        t.transports = (c, (env.transportInit cfg).opened) :: s.transports)
        (Hoare.of fun t h => ?_) fun confirmed => ?_
      · obtain ⟨confirmed, ent, -, -, agent⟩ := uxrRunSession_spec cfg c t
        rw [confirmed, ent, agent, uxrRunSession_transports, h.1, h.2.2]
        exact ⟨rfl, rfl, h.2.1, rfl⟩
      · refine Triple.and_left fun said => Triple.ite (fun yes => ?_) fun no => ?_
        · have confirmed : confirms s.agent = true := said.symm.trans yes
          refine Triple.ite (fun graph => ?_) fun plain => ?_
          · refine Triple.bind ((rmwGraphInit_result env.graphTypeSupport c s.agent.tail).strengthen
              fun _ h => h.1) fun ret => Triple.ite (fun fails => ?_) fun done => ?_
            · refine Triple.bind (M := fun _ _ => GraphFails cfg env.graphTypeSupport s.agent.tail)
                (Hoare.of fun _ h => h.1 fails) fun _ => Triple.pure fun _ fails => ?_
              exact .noGraph room ok confirmed graph fails
            · refine Triple.pure fun _ h => .opened room ok confirmed fun _ fails => ?_
              exact done (h.2 fails)
          · exact Triple.pure fun _ _ => .opened room ok confirmed fun graph => absurd graph plain
        · refine (initFail_ends fun t size closed => .noAgent room ok ?_ size closed).strengthen fun _ h => h.2
          rw [← said]
          exact Bool.eq_false_iff.2 no

/-! ## The trace of a failure -/

/-- The call of a step. -/
def initOf (cfg : Config) (s : State) (env : InitEnvironment) (agent : List Answer) :
    (RmwRet × Option Nat) × State := rmwInit cfg env (s.enter ⟨.init env, agent⟩)

theorem initOf_ready {s : State} (ready : Ready cfg s) (env : InitEnvironment) (agent : List Answer) :
    Ready cfg (initOf cfg s env agent).2 := (step_path ready ⟨.init env, agent⟩).2

theorem transportsSince_of {s t : State} {l : List (Nat × Bool)} (h : t.transports = l ++ s.transports) :
    t.transportsSince s = l := by
  rw [State.transportsSince, h]
  simp

theorem noTrace_of_gaveUp {s : State} (ready : Ready cfg s) {env : InitEnvironment} {agent : List Answer}
    (gaveUp : (initOf cfg s env agent).1.2 = none)
    (size : (initOf cfg s env agent).2.w.ent.session.memory.size = cfg.maxSessions)
    {l : List (Nat × Bool)} (transports : (initOf cfg s env agent).2.transports = l ++ s.transports)
    (closed : ∀ c, l.find? (·.1 = c) ≠ some (c, true)) : NoTrace cfg s (initOf cfg s env agent) := by
  have wf : Wf cfg (s.enter ⟨.init env, agent⟩) := { ready.wf with }
  have opens := rmwInit_opens wf env
  have none : (rmwInit cfg env (s.enter ⟨.init env, agent⟩)).1.2 = Option.none := gaveUp
  rw [none] at opens
  obtain ⟨ok, elements, size'⟩ := ready.wf.session.init
  have same : (initOf cfg s env agent).2.w.ent.session.elements = s.w.ent.session.elements := opens.elements
  refine ⟨same, fun i => ?_, gaveUp, fun c => ?_⟩
  · rw [(initOf_ready ready env agent).wf.session.mem_free, Slots.Ok.mem_free ok, size, size', same, elements]
  · rw [transportsSince_of transports]
    exact closed c

/-- A call that gives up leaves no trace exactly if the macro reaches what it has opened. -/
theorem gaveUp_noTrace_iff {s : State} (ready : Ready cfg s) {env : InitEnvironment} {agent : List Answer}
    (gaveUp : (initOf cfg s env agent).1.2 = none)
    (size : (initOf cfg s env agent).2.w.ent.session.memory.size = cfg.maxSessions) {c : Nat}
    {held opened : Bool}
    (transports : (initOf cfg s env agent).2.transports = closing cfg c held ++ (c, opened) :: s.transports) :
    NoTrace cfg s (initOf cfg s env agent) ↔ (opened = true → cfg.transport.closes = true ∧ held = true) := by
  have since : (initOf cfg s env agent).2.transports = (closing cfg c held ++ [(c, opened)]) ++ s.transports := by
    rw [transports, List.append_assoc, List.singleton_append]
  rw [← find?_closing_iff c]
  constructor
  · intro trace c'
    have closed := trace.closed c'
    rwa [transportsSince_of since] at closed
  · exact noTrace_of_gaveUp ready gaveUp size since

/-- What is left open where the transport fails. -/
theorem staysOpen_of_fails {env : InitEnvironment} {agent : List Answer} {s : State}
    (room : s.w.ent.session.elements.length < cfg.maxSessions) (fails : (env.transportInit cfg).ret ≠ .ok) :
    ((env.transportInit cfg).opened = true →
        cfg.transport.closes = true ∧ (env.transportInit cfg).held = true) ↔
      ¬StaysOpen cfg env.transport agent s := by
  revert fails
  unfold StaysOpen InitEnvironment.transportInit rmwUxrceTransportInit
  cases cfg.transport with
  | serial =>
    dsimp only
    split
    · rename_i positive
      have ne : env.transport.fd ≠ 0 := by omega
      split
      · simp_all
      · split
        · simp_all
        · split <;> simp_all [Transport.closes]
    · rename_i negative
      simp_all
  | tcp => cases h : env.transport.initTransport <;> simp [Transport.closes, room]
  | udp | custom => cases h : env.transport.initTransport <;> simp [Transport.closes]

/-- What is left open where the agent does not confirm the session. -/
theorem staysOpen_of_unconfirmed {env : InitEnvironment} {agent : List Answer} {s : State}
    (room : s.w.ent.session.elements.length < cfg.maxSessions) (ok : (env.transportInit cfg).ret = .ok)
    (unconfirmed : confirms agent = false) :
    ((env.transportInit cfg).opened = true →
        cfg.transport.closes = true ∧ (env.transportInit cfg).held = true) ↔
      ¬StaysOpen cfg env.transport agent s := by
  obtain ⟨opened, held⟩ := transportInit_ok ok
  have works : ¬TransportFails cfg.transport env.transport := fun fails => (transportFails_iff env).2 fails ok
  rw [opened, held]
  revert works
  unfold StaysOpen TransportFails
  cases cfg.transport with
  | serial =>
    intro works
    obtain ⟨positive, get, set, -⟩ : 0 < env.transport.fd ∧ env.transport.tcgetattr = 0 ∧
        env.transport.tcsetattr = 0 ∧ env.transport.initTransport = true := by simpa using works
    have ne : env.transport.fd ≠ 0 := by omega
    simp [Transport.closes, get, set, ne]
  | udp | custom => simp [Transport.closes]
  | tcp => simp_all [Transport.closes]

theorem StaysOpen.fails {env : InitEnvironment} {agent : List Answer} {s : State}
    (h : StaysOpen cfg env.transport agent s) : Fails cfg env agent s := by
  obtain ⟨-, h⟩ := h
  by_cases unconfirmed : confirms agent = false
  · exact .noAgent unconfirmed
  · refine .noTransport ?_
    unfold TransportFails
    revert h
    cases cfg.transport with
    | serial =>
      rintro (zero | ⟨-, get | set⟩)
      · exact .inl zero.le
      · exact .inr (.inl get)
      · exact .inr (.inr (.inl set))
    | tcp =>
      rintro (⟨fails, -⟩ | ⟨-, no⟩)
      · exact fails
      · exact absurd no unconfirmed
    | udp | custom => exact False.elim

/-- What a call returns, and when it leaves no trace. -/
theorem noTrace_iff {s : State} (ready : Ready cfg s) (env : InitEnvironment) (agent : List Answer) :
    ((initOf cfg s env agent).1.1 ≠ .ok ↔ Fails cfg env agent s) ∧
      ((initOf cfg s env agent).1.1 ≠ .ok → (NoTrace cfg s (initOf cfg s env agent) ↔
        ¬(StopsAtGraph cfg env agent s ∨ StaysOpen cfg env.transport agent s))) ∧
      ((initOf cfg s env agent).1.1 ≠ .ok → ¬StopsAtGraph cfg env agent s →
        (initOf cfg s env agent).1.2 = none) := by
  have wf : Wf cfg (s.enter ⟨.init env, agent⟩) := { ready.wf with }
  have ends : InitEnd cfg env (cfg.maxSessions ≤ s.w.ent.session.elements.length) agent s.transports
      (initOf cfg s env agent).1 (initOf cfg s env agent).2 := rmwInit_ends wf env
  have trace := fun gaveUp size => @gaveUp_noTrace_iff cfg s ready env agent gaveUp size
  have untouched := fun gaveUp size => @noTrace_of_gaveUp cfg s ready env agent gaveUp size
  generalize initOf cfg s env agent = r at ends trace untouched
  obtain ⟨⟨ret, impl⟩, t⟩ := r
  dsimp only at ends trace untouched ⊢
  cases ends with
  | noSession full size same =>
    have clean : ¬(StopsAtGraph cfg env agent s ∨ StaysOpen cfg env.transport agent s) := by
      rintro (stops | stays)
      · exact absurd full (Nat.not_le.2 stops.1)
      · exact absurd full (Nat.not_le.2 stays.1)
    have none := untouched rfl size (l := []) same (by simp)
    exact ⟨iff_of_true (by decide) (.noSession full), fun _ => iff_of_true none clean, fun _ _ => rfl⟩
  | noTransport room fails size closed =>
    have transport := (transportFails_iff env).1 fails
    have stops : ¬StopsAtGraph cfg env agent s := fun h => h.2.1 transport
    refine ⟨iff_of_true fails (.noTransport transport), fun _ => ?_, fun _ _ => rfl⟩
    rw [trace rfl size closed, staysOpen_of_fails (Nat.lt_of_not_le room) fails, not_or]
    exact (and_iff_right stops).symm
  | noAgent room ok unconfirmed size closed =>
    have stops : ¬StopsAtGraph cfg env agent s := fun h => by
      rw [h.2.2.1] at unconfirmed
      cases unconfirmed
    refine ⟨iff_of_true (by decide) (.noAgent unconfirmed), fun _ => ?_, fun _ _ => rfl⟩
    rw [trace rfl size closed, staysOpen_of_unconfirmed (Nat.lt_of_not_le room) ok unconfirmed, not_or]
    exact (and_iff_right stops).symm
  | noGraph room opened confirmed graph fails =>
    have stops : StopsAtGraph cfg env agent s :=
      ⟨Nat.lt_of_not_le room, fun h => (transportFails_iff env).2 h opened, confirmed, graph, fails⟩
    refine ⟨iff_of_true (by decide) (.noGraph graph fails), fun _ => ?_, fun _ clean => absurd stops clean⟩
    refine iff_of_false (fun trace => ?_) (not_not.2 (.inl stops))
    cases trace.impl
  | opened room opened confirmed graph =>
    refine ⟨iff_of_false (fun ne => ne rfl) ?_, fun ne => absurd rfl ne, fun ne => absurd rfl ne⟩
    rintro (full | transport | unconfirmed | ⟨set, fails⟩)
    · exact room full
    · exact (transportFails_iff env).2 transport opened
    · rw [confirmed] at unconfirmed
      cases unconfirmed
    · exact graph set fails

/-! ## Attempts -/

/-- The state after attempts to initialise, one after the other. -/
def afterAttempts (cfg : Config) (s : State) (attempts : List (InitEnvironment × List Answer)) : State :=
  attempts.foldl (fun s attempt => (initOf cfg s attempt.1 attempt.2).2) s

/-- The attempts fail, and none of them at the graph. -/
def FailCleanly (cfg : Config) : State → List (InitEnvironment × List Answer) → Prop
  | _, [] => True
  | s, (env, agent) :: attempts =>
    Fails cfg env agent s ∧ ¬StopsAtGraph cfg env agent s ∧
      FailCleanly cfg (initOf cfg s env agent).2 attempts

/-- Any number of attempts. -/
theorem afterAttempts_spec {s : State} (ready : Ready cfg s) {attempts : List (InitEnvironment × List Answer)}
    (fail : FailCleanly cfg s attempts) :
    Ready cfg (afterAttempts cfg s attempts) ∧
      (afterAttempts cfg s attempts).w.ent.session.elements = s.w.ent.session.elements := by
  induction attempts generalizing s with
  | nil => exact ⟨ready, rfl⟩
  | cons attempt attempts ih =>
    obtain ⟨fails, clean, rest⟩ := fail
    obtain ⟨returns, -, gaveUp⟩ := noTrace_iff ready attempt.1 attempt.2
    have none := gaveUp (returns.2 fails) clean
    have opens := rmwInit_opens ({ ready.wf with } : Wf cfg (s.enter ⟨.init attempt.1, attempt.2⟩)) attempt.1
    rw [show (rmwInit cfg attempt.1 (s.enter ⟨.init attempt.1, attempt.2⟩)).1.2 = Option.none from none] at opens
    have same : (initOf cfg s attempt.1 attempt.2).2.w.ent.session.elements = s.w.ent.session.elements :=
      opens.elements
    obtain ⟨ready', later⟩ := ih (initOf_ready ready attempt.1 attempt.2) rest
    exact ⟨ready', later.trans same⟩

/-- Nothing outside stands in the way of an initialisation. -/
def NothingFails (cfg : Config) (env : InitEnvironment) (agent : List Answer) : Prop :=
  ¬TransportFails cfg.transport env.transport ∧ confirms agent = true ∧
    (cfg.graph = true → ¬GraphFails cfg env.graphTypeSupport agent.tail)

theorem initOf_succeeds {s : State} (ready : Ready cfg s) {env : InitEnvironment} {agent : List Answer}
    (h : NothingFails cfg env agent) :
    (initOf cfg s env agent).1.1 = .ok ↔ s.w.ent.session.elements.length < cfg.maxSessions := by
  obtain ⟨transport, confirmed, graph⟩ := h
  have fails : Fails cfg env agent s ↔ cfg.maxSessions ≤ s.w.ent.session.elements.length := by
    refine ⟨?_, .noSession⟩
    rintro (full | fails | unconfirmed | ⟨set, fails⟩)
    · exact full
    · exact absurd fails transport
    · rw [confirmed] at unconfirmed
      cases unconfirmed
    · exact absurd fails (graph set)
  rw [← not_iff_not, ← ne_eq, (noTrace_iff ready env agent).1, fails, Nat.not_lt]

/-- A call that leaves a trace. -/
def Leaves (cfg : Config) (env : InitEnvironment) (agent : List Answer) (s : State) : Prop :=
  ¬(Fails cfg env agent s → (initOf cfg s env agent).1.1 ≠ .ok ∧ NoTrace cfg s (initOf cfg s env agent))

end RmwMicroxrcedds
