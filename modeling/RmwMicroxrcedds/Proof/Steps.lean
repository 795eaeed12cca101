import RmwMicroxrcedds.Proof.Destructions
import RmwMicroxrcedds.Base.Runs

/-!
# Every call is a path of atomic actions

What is left are the calls about nodes and contexts. With them each step of the machine, from any
state in which the previous call has ended, is a path of atomic actions, and so is every run.
-/

namespace RmwMicroxrcedds
set_option autoImplicit false

open Triples

variable {cfg : Config} {α β : Type}

/-! ## The creation of a node -/

/-- The node slot at work is owned by no entity with an assigned id. -/
def Unowned (n : Nat) (s : State) : Prop :=
  ∀ o, s.Alive o → s.ghost.givenIn o ≠ none → s.w.ent.ownerNode o ≠ some n

theorem Unowned.stable {n : Nat} {s t : State} (h : Unowned n s) (b : Benign s t) : Unowned n t :=
  fun o alive given => by
    rw [b.ownerNode]
    exact h o ((b.alive o).1 alive) (b.givenIn ▸ given)

theorem finiNode_triple {n : Nat} {c : CallKind} : Triple (Atomic cfg) (Stage cfg c (Unowned n))
    (rmwUxrceFiniNodeMemory n) fun _ => Settled cfg c := fun _ h =>
  have ⟨path, wf, call⟩ := finiNode_run h.wf h.known
  ⟨path, wf, call.trans h.call, trivial⟩

theorem Calm.unowned {p : Prog α} {f : α → Prog β} {Q : β → State → Prop} {n : Nat} {c : CallKind}
    (h : Calm cfg p) (hf : ∀ a, Triple (Atomic cfg) (Stage cfg c (Unowned n)) (f a) Q) :
    Triple (Atomic cfg) (Stage cfg c (Unowned n)) (p >>= f) Q := (h.stage Unowned.stable).bind hf

/-- `acquire` of a node for an open context. -/
theorem acquireNode_triple {context : Nat} {c : CallKind} :
    Triple (Atomic cfg) (Stage cfg c fun s => context ∈ s.w.ent.session.elements)
      (acquire .node fun n => { n with context := some context })
      fun slot => match slot with
        | none => Settled cfg c
        | some i => Stage cfg c (Unowned i) := fun s h => by
  have wf := h.wf
  cases hg : s.w.ent.node.get.1 with
  | none =>
    rw [acquire_none .node _ wf.node hg]
    exact ⟨.refl, h.settled⟩
  | some i =>
    obtain ⟨ok, free, -, elements⟩ := wf.node.get_some hg
    set nodes := s.w.ent.node.opened i fun n => { n with context := some context } with hnodes
    have telements : nodes.elements = i :: s.w.ent.node.elements := elements
    have others : ∀ j, j ≠ i → nodes.custom j = s.w.ent.node.custom j := fun j hj => by
      rw [hnodes, Slots.opened, Slots.update_custom_of_ne _ _ hj, Slots.get_custom]
    have e : acquire .node (fun n : Node => { n with context := some context }) s =
        (some i, s.mapEnt fun e => { e with node := nodes }) := acquire_some .node _ hg
    have ok' : nodes.Ok cfg.maxNodes := ok.update _ _
    have handles : Handles nodes := wf.nodeHandles.opened wf.node hg _
    have wf' : Wf cfg (s.mapEnt fun e => { e with node := nodes }) := { wf with
      node := ok'
      nodeHandles := handles
      context := fun n hn => by
        by_cases hi : n = i
        · subst hi
          refine ⟨context, h.known, ?_⟩
          have : nodes.custom n = _ := Slots.update_custom_self ..
          exact (congrArg Node.context this).trans rfl
        · have mem : n ∈ s.w.ent.node.elements := by
            have : n ∈ nodes.elements := hn
            rw [telements, List.mem_cons] at this
            exact this.resolve_left hi
          obtain ⟨c, hc, e⟩ := wf.context n mem
          exact ⟨c, hc, (congrArg Node.context (others n hi)).trans e⟩
      owner := fun o alive given => by
        have alive' : s.Alive o := by cases o <;> exact alive
        obtain ⟨m, hm, e⟩ := wf.owner o alive' given
        have hm' : m ∈ nodes.elements := by
          rw [telements]
          exact List.mem_cons_of_mem _ hm
        exact ⟨m, hm', by cases o <;> exact e⟩ }
    rw [e]
    refine ⟨.single ⟨wf, wf', .quiet ⟨rfl, rfl, rfl, rfl, rfl, rfl⟩
      ⟨fun o => by cases o <;> exact Iff.rfl, rfl, rfl, rfl⟩ rfl⟩, wf', h.call, ?_⟩
    intro o alive given same
    have alive' : s.Alive o := by cases o <;> exact alive
    obtain ⟨m, hm, e⟩ := wf.owner o alive' given
    have same' : s.w.ent.ownerNode o = some i := by cases o <;> exact same
    rw [e, Option.some.injEq] at same'
    exact free (same' ▸ hm)

theorem createNode_triple {name namespace_ : CStr} {context : Nat} {c : CallKind} :
    Triple (Atomic cfg) (Stage cfg c fun s => context ∈ s.w.ent.session.elements)
      (createNode cfg name namespace_ (some context)) fun _ => Settled cfg c := by
  have fail : ∀ i, Triple (Atomic cfg) (Stage cfg c (Unowned i)) (do
      rmwUxrceFiniNodeMemory i
      return none : Prog (Option Nat)) fun _ => Settled cfg c := fun i =>
    finiNode_triple.bind fun _ => exit_triple
  unfold createNode
  refine acquireNode_triple.bind fun slot => ?_
  cases slot with
  | none => exact exit_triple
  | some i =>
    refine Triple.ite (fun _ => fail i) fun _ => (calm_writeNode _).unowned fun _ => ?_
    refine Triple.ite (fun _ => fail i) fun _ => (calm_writeNode _).unowned fun _ => ?_
    refine (calm_postIncrement _ _ _).unowned fun id => (calm_writeNode _).unowned fun _ => ?_
    cases participantText cfg name namespace_ with
    | none => exact exit_triple
    | some text =>
      refine (calm_readElement _ _).unowned fun _ => (calm_runXrceSession _ _ _).unowned fun done => ?_
      exact Triple.ite (fun _ => exit_triple) fun _ => fail i

/-- `rmw_create_node`, in an open context. -/
theorem rmwCreateNode_triple {context : Nat} (name namespace_ : Option CStr) {c : CallKind} :
    Triple (Atomic cfg) (Stage cfg c fun s => context ∈ s.w.ent.session.elements)
      (rmwCreateNode cfg (some context) name namespace_) fun _ => Settled cfg c := by
  unfold rmwCreateNode
  split
  · exact Triple.ite (fun _ => exit_triple) fun _ => createNode_triple
  · exact exit_triple

/-! ## `rmw_init` -/

/-- The session at work is taken, and no node belongs to it. -/
structure Unused (context : Nat) (s : State) : Prop where
  session : context ∈ s.w.ent.session.elements
  node : ∀ n ∈ s.w.ent.node.elements, (s.w.ent.node.custom n).context ≠ some context

theorem Unused.stable {context : Nat} {s t : State} (h : Unused context s) (b : Benign s t) :
    Unused context t where
  session := b.session ▸ h.session
  node n hn := by
    rw [b.context]
    exact h.node n (b.node ▸ hn)

theorem Calm.unused {p : Prog α} {f : α → Prog β} {Q : β → State → Prop} {context : Nat}
    {c : CallKind} (h : Calm cfg p)
    (hf : ∀ a, Triple (Atomic cfg) (Stage cfg c (Unused context)) (f a) Q) :
    Triple (Atomic cfg) (Stage cfg c (Unused context)) (p >>= f) Q := (h.stage Unused.stable).bind hf

theorem Handles.init [Element β] {t : Slots β} {n : Nat} (hs : Handles t) (ok : t.Ok n) :
    Handles (t.init n) := fun i => by
  rw [Slots.init_custom, ok.init.2.1]
  exact hs i

theorem calm_initFirstPools : Calm cfg (initFirstPools cfg) := by
  unfold initFirstPools
  refine Calm.bind (Calm.step fun s wf => ?_) fun _ => Calm.step fun s wf => ?_
  · have benign : Benign s (s.mapEnt fun e => { e with session := e.session.init cfg.maxSessions }) :=
      ⟨wf.session.init.2.1, rfl, rfl, rfl, rfl, fun _ => rfl, fun o => by cases o <;> rfl,
        rfl, rfl, rfl, rfl⟩
    exact ⟨{ wf with
        session := wf.session.init.1
        context := wf.context_of_benign benign
        owner := wf.owner_of_benign benign }, benign, benign.micro⟩
  · obtain ⟨ok, elements, -⟩ := Slots.Ok.init wf.staticBuffer
    exact ⟨wf.of_ent rfl rfl ok, .of_ent rfl rfl rfl rfl rfl,
      .quiet ⟨elements, rfl, rfl, rfl, rfl, rfl⟩ ⟨fun _ => Iff.rfl, rfl, rfl, rfl⟩ rfl⟩

theorem calm_initPools : Calm cfg (initPools cfg) := Calm.step fun s wf => by
  have benign : Benign s (s.mapEnt fun e => { e with
      node := e.node.init cfg.maxNodes
      subscription := e.subscription.init cfg.maxSubscriptions
      publisher := e.publisher.init cfg.maxPublishers
      service := e.service.init cfg.maxServices
      client := e.client.init cfg.maxClients
      topic := e.topic.init cfg.maxTopicsInternal
      guardCondition := e.guardCondition.init cfg.maxGuardCondition }) :=
    ⟨rfl, wf.node.init.2.1, wf.subscription.init.2.1, wf.service.init.2.1, wf.client.init.2.1,
      fun _ => rfl, fun o => by cases o <;> rfl, rfl, rfl, rfl, rfl⟩
  have guards : ∀ i ∈ (s.w.ent.guardCondition.init cfg.maxGuardCondition).elements,
      ((s.w.ent.guardCondition.init cfg.maxGuardCondition).custom i).rmwGuardCondition =
        ⟨some .eprosimaMicroxrcedds, some i⟩ := by
    rw [wf.guardCondition.init.2.1, Slots.init_custom]
    exact wf.guardHandles
  exact ⟨{ wf with
      node := wf.node.init.1
      publisher := wf.publisher.init.1
      subscription := wf.subscription.init.1
      service := wf.service.init.1
      client := wf.client.init.1
      guardCondition := wf.guardCondition.init.1
      nodeHandles := wf.nodeHandles.init wf.node
      publisherHandles := wf.publisherHandles.init wf.publisher
      subscriptionHandles := wf.subscriptionHandles.init wf.subscription
      serviceHandles := wf.serviceHandles.init wf.service
      clientHandles := wf.clientHandles.init wf.client
      guardHandles := guards
      context := wf.context_of_benign benign
      owner := wf.owner_of_benign benign }, benign, benign.micro⟩

/-- A change of the session pool in which every context that has a node stays. -/
theorem Wf.setSession {s : State} (wf : Wf cfg s) {t : Slots Session} (ok : t.Ok cfg.maxSessions)
    (keep : ∀ n ∈ s.w.ent.node.elements, ∀ c, (s.w.ent.node.custom n).context = some c →
      c ∈ s.w.ent.session.elements → c ∈ t.elements) :
    let u := s.mapEnt fun e => { e with session := t }
    Path cfg s u ∧ Wf cfg u := by
  have wf' : Wf cfg (s.mapEnt fun e => { e with session := t }) := { wf with
    session := ok
    context := fun n hn => by
      obtain ⟨c, hc, e⟩ := wf.context n hn
      exact ⟨c, keep n hn c e hc, e⟩
    owner := fun o alive given => by
      obtain ⟨n, hn, e⟩ := wf.owner o (by cases o <;> exact alive) given
      exact ⟨n, hn, by cases o <;> exact e⟩ }
  exact ⟨.single ⟨wf, wf', .quiet ⟨rfl, rfl, rfl, rfl, rfl, rfl⟩
    ⟨fun o => by cases o <;> exact Iff.rfl, rfl, rfl, rfl⟩ rfl⟩, wf'⟩

theorem getSession_triple {c : CallKind} : Triple (Atomic cfg) (Settled cfg c) (getMemory .session)
    fun slot => match slot with
      | none => Settled cfg c
      | some context => Stage cfg c (Unused context) := fun s h => by
  have wf := h.wf
  cases hg : s.w.ent.session.get.1 with
  | none =>
    rw [getMemory_none .session wf.session hg]
    exact ⟨.refl, h⟩
  | some context =>
    obtain ⟨ok, free, -, elements⟩ := wf.session.get_some hg
    have e : getMemory .session s =
        (some context, s.mapEnt fun e => { e with session := s.w.ent.session.get.2 }) :=
      getMemory_some .session hg
    obtain ⟨path, wf'⟩ := wf.setSession ok fun n hn c' e hc => by
      rw [elements]
      exact List.mem_cons_of_mem _ hc
    rw [e]
    refine ⟨path, wf', h.call, ?_, fun n hn same => ?_⟩
    · have : context ∈ s.w.ent.session.get.2.elements := by simp [elements]
      exact this
    · obtain ⟨c', hc, e⟩ := wf.context n hn
      have : some context = some c' := same.symm.trans e
      exact free (Option.some.inj this ▸ hc)

/-- Releasing a session that no node belongs to. -/
theorem putSession_triple {context : Nat} {c : CallKind} :
    Triple (Atomic cfg) (Stage cfg c (Unused context)) (putMemory .session context)
      fun _ => Settled cfg c := fun s h => by
  obtain ⟨ok, elements⟩ := h.wf.session.put h.known.session
  have nodup := h.wf.session.nodup
  obtain ⟨path, wf'⟩ := h.wf.setSession ok fun n hn c' e hc => by
    rw [elements, nodup.mem_erase_iff]
    exact ⟨fun same => h.known.node n hn (same ▸ e), hc⟩
  exact ⟨path, wf', h.call, trivial⟩

theorem openTransport_triple {context : Nat} {opened : Bool} {c : CallKind} :
    Triple (Atomic cfg) (Stage cfg c (Unused context)) (openTransport context opened)
      fun _ => Stage cfg c (Unused context) := Triple.step fun s h =>
  have wf : Wf cfg ((s.mapGhost fun g => { g with epoch := g.epoch + 1 }).record
      (.openTransport context opened)) := { h.wf with }
  ⟨⟨h.wf, wf, .opened context opened h.known.node h.known.session⟩, wf, h.call,
    h.known.session, h.known.node⟩

theorem closeTransport_world (context : Nat) (held : Bool) (s : State) :
    (closeTransport cfg context held s).2.w = s.w := by
  unfold closeTransport
  split
  · rfl
  · rfl

theorem calm_closeTransport (context : Nat) (held : Bool) : Calm cfg (closeTransport cfg context held) :=
  Calm.ite (calm_record (.closeTransport context) trivial) Calm.pure

theorem initFail_triple {context : Nat} {held : Bool} {c : CallKind} :
    Triple (Atomic cfg) (Stage cfg c (Unused context)) (initFail cfg context held)
      fun _ => Settled cfg c := by
  unfold initFail
  exact (calm_closeTransport context held).unused fun _ => putSession_triple

theorem calm_writeGraphInfo (context : Nat) (f : GraphInfo → GraphInfo) :
    Calm cfg (writeGraphInfo context f) := Calm.step fun _ wf =>
  ⟨wf.of_ent rfl rfl (Slots.Ok.of_memory wf.staticBuffer rfl), .of_ent rfl rfl rfl rfl rfl,
    .quiet ⟨rfl, rfl, rfl, rfl, rfl, rfl⟩ ⟨fun _ => Iff.rfl, rfl, rfl, rfl⟩ rfl⟩

theorem calm_rmwGraphInit (graphTypeSupport : MessageTypeSupportCallbacks) (context : Nat) :
    Calm cfg (rmwGraphInit cfg graphTypeSupport context) := by
  unfold rmwGraphInit
  refine (calm_postIncrement _ _ _).bind fun _ => (calm_postIncrement _ _ _).bind fun _ => ?_
  refine (calm_postIncrement _ _ _).bind fun _ => (calm_postIncrement _ _ _).bind fun _ => ?_
  refine (calm_writeGraphInfo _ _).bind fun _ => ?_
  dsimp only
  refine Calm.ite Calm.pure ((calm_uxrRunSession _).bind fun confirmed => ?_)
  exact (calm_record (.ran _ _ _) trivial).bind fun _ => Calm.pure

/-- `rmw_init`. -/
theorem rmwInit_sound (env : InitEnvironment) : Sound cfg (rmwInit cfg env) := .of_triple fun c => by
  unfold rmwInit
  refine (calm_initFirstPools.sound.triple).bind fun _ => getSession_triple.bind fun slot => ?_
  cases slot with
  | none => exact exit_triple
  | some context =>
    have fail : ∀ {held : Bool} {r : RmwRet × Option Nat},
        Triple (Atomic cfg) (Stage cfg c (Unused context)) (do
        initFail cfg context held
        return r : Prog (RmwRet × Option Nat)) fun _ => Settled cfg c :=
      initFail_triple.bind fun _ => exit_triple
    refine (calm_writeSession _ _).unused fun _ => calm_initPools.unused fun _ => ?_
    refine openTransport_triple.bind fun _ => Triple.ite (fun _ => fail) fun _ => ?_
    refine (calm_uxrRunSession _).unused fun confirmed => Triple.ite (fun _ => ?_) fun _ => fail
    refine Triple.ite (fun _ => ?_) fun _ => exit_triple
    refine (calm_rmwGraphInit _ _).unused fun ret => Triple.ite (fun _ => ?_) fun _ => exit_triple
    exact (calm_uxrRunSession _).unused fun _ => exit_triple

/-! ## `rmw_shutdown` -/

/-- `rmw_context_fini`. -/
theorem rmwContextFini_triple {impl : Option Nat} {c : CallKind} :
    Triple (Atomic cfg)
      (Stage cfg c fun s => ∀ context, impl = some context → context ∈ s.w.ent.session.elements)
      (rmwContextFini cfg impl) fun _ => Settled cfg c := fun s h => by
  obtain ⟨path, wf, call, session, vacant⟩ := destroyNodes_run h.wf impl
  rw [rmwContextFini, Prog.bind_run]
  set r := destroyAll .node (fun n => n.context == impl) (fun i => rmwDestroyNode cfg (some i))
    (fun _ => false) .ok s
  cases impl with
  | none => exact ⟨path, wf, call.trans h.call, trivial⟩
  | some context =>
    have unused : Unused context r.2 := ⟨session ▸ h.known context rfl,
      fun n hn => beq_eq_false_iff_ne.1 (vacant n hn)⟩
    have fini : Triple (Atomic cfg) (Stage cfg c (Unused context)) (do
        rmwUxrceFiniSessionMemory context
        closeTransport cfg context true
        return r.1.2 : Prog RmwRet) fun _ => Settled cfg c :=
      putSession_triple.bind fun _ =>
        (calm_closeTransport context true).sound.triple.bind fun _ => exit_triple
    have rest : Triple (Atomic cfg) (Stage cfg c (Unused context)) (do
        if (← readElement .session context).destroyStream ≠ .bestEffort then
          let _ ← uxrRunSession cfg context
        rmwUxrceFiniSessionMemory context
        closeTransport cfg context true
        return r.1.2 : Prog RmwRet) fun _ => Settled cfg c := by
      refine (calm_readElement _ _).unused fun x => Triple.ite (fun _ => ?_) fun _ => ?_
      · exact (calm_uxrRunSession _).unused fun _ => fini
      · exact fini
    obtain ⟨path', settled⟩ := rest r.2 ⟨wf, call.trans h.call, unused⟩
    exact ⟨path.trans path', settled⟩

/-- The loop of `rmw_shutdown` releases every buffer. -/
theorem flushLoop_spec (k : Nat) {s : State} (wf : Wf cfg s) (call : s.call = .shutdown)
    (bound : s.queue.length ≤ k) :
    let t := flushLoop k s.queue.head? s
    Path cfg s t ∧ Wf cfg t ∧ t.call = .shutdown ∧ t.queue = [] := by
  induction k generalizing s with
  | zero =>
    have : s.queue = [] := List.length_eq_zero_iff.1 (by omega)
    exact ⟨.refl, wf, call, this⟩
  | succ k ih =>
    cases hq : s.queue with
    | nil => exact ⟨.refl, wf, call, hq⟩
    | cons i rest =>
      have next : (s.w.buf.staticBuffer.memory.link i).next = rest.head? :=
        Slots.Ok.next wf.staticBuffer (l := []) hq
      have mem : i ∈ s.queue := by simp [hq]
      set u := (s.record (.flush i)).mapBuf (·.putMemory i) with hu
      have wf' : Wf cfg u := (wf.of_ent rfl rfl wf.staticBuffer : Wf cfg (s.record (.flush i))).putBuffer mem
      have queue' : u.queue = rest := by
        have := (Buffers.Ok.putMemory wf.staticBuffer mem).2
        refine this.trans ?_
        rw [show s.w.buf.queue = i :: rest from hq, List.erase_cons_head]
      obtain ⟨path, wf'', empty⟩ := ih wf' call (by
        rw [queue']
        simpa [hq] using bound)
      have e : flushLoop (k + 1) (i :: rest).head? s = flushLoop k u.queue.head? u := by
        simp only [List.head?_cons, flushLoop, next, queue', ← hu]
      rw [e]
      exact ⟨.head ⟨wf, wf', .flush i mem call⟩ path, wf'', empty⟩

/-- `rmw_shutdown`: it leaves no buffer in use. -/
theorem rmwShutdown_triple (impl : Option Nat) :
    Triple (Atomic cfg) (Stage cfg .shutdown fun s =>
        ∀ context, impl = some context → context ∈ s.w.ent.session.elements)
      (rmwShutdown cfg impl) fun _ => Stage cfg .shutdown fun s => s.queue = [] := by
  unfold rmwShutdown
  refine rmwContextFini_triple.bind fun ret => Triple.bind (M := fun _ => Stage cfg .shutdown
    fun s => s.queue = []) (Triple.path fun s h => ?_) fun _ => Triple.pure fun _ => id
  have head := Slots.Ok.head h.wf.staticBuffer
  obtain ⟨path, wf, call, empty⟩ := flushLoop_spec s.w.buf.staticBuffer.memory.size h.wf h.call
    (Slots.Ok.length_le h.wf.staticBuffer)
  rw [show s.queue.head? = s.w.buf.staticBuffer.memory.allocateditems from head.symm] at path wf call empty
  exact ⟨path, wf, call, empty⟩

/-! ## Takes -/

/-- Between calls: a shutdown has left no buffer in use. -/
structure Ready (cfg : Config) (s : State) : Prop where
  wf : Wf cfg s
  done : s.call = .shutdown → s.queue = []

theorem takeOldest_triple {owner : Option Owner} {header : StaticInputBuffer → TakeHeader}
    {cdrDeserialize : List UInt8 → Bool} : Triple (Atomic cfg) (Settled cfg .take)
      (takeOldest owner header cdrDeserialize) fun _ => Settled cfg .take := by
  unfold takeOldest
  refine calm_clean.sound.triple.bind fun _ s h => ?_
  rw [Prog.get_run]
  cases found : rmwUxrceFindStaticInputBufferByOwner s.w.buf owner with
  | none => exact ⟨.refl, h⟩
  | some item =>
    have mem : item ∈ s.queue := (Buffers.Ok.find_mem h.wf.staticBuffer found).1
    have wf' : ∀ rv, Wf cfg ((s.record (.take owner item rv)).mapBuf (·.putMemory item)) := fun rv =>
      (h.wf.of_ent rfl rfl h.wf.staticBuffer : Wf cfg (s.record (.take owner item rv))).putBuffer mem
    exact ⟨.single ⟨h.wf, wf' _, .take owner item _ found h.call⟩, wf' _, h.call, trivial⟩

/-- The three take functions. -/
theorem takeFrom_triple [Element β] {k : Kind β} {i : Nat}
    {header : StaticInputBuffer → TakeHeader} {cdrDeserialize : List UInt8 → Bool} :
    Triple (Atomic cfg) (Settled cfg .take) (takeFrom k i header cdrDeserialize)
      fun _ => Settled cfg .take := by
  unfold takeFrom
  exact (calm_readElement _ _).sound.triple.bind fun _ =>
    Triple.ite (fun _ => exit_triple) fun _ => takeOldest_triple

theorem takeFrom_ready [Element β] {k : Kind β} {i : Nat}
    {header : StaticInputBuffer → TakeHeader} {cdrDeserialize : List UInt8 → Bool}
    {s : State} (wf : Wf cfg s) (call : s.call = .take) :
    let p : Prog Reply := do return .took (← takeFrom k i header cdrDeserialize)
    Path cfg s (p s).2 ∧ Ready cfg (p s).2 :=
  have ⟨path, settled⟩ := takeFrom_triple s ⟨wf, call, trivial⟩
  ⟨path, settled.wf, fun e => absurd (settled.call.symm.trans e) (by simp)⟩

/-! ## Steps -/

/-- What is done with the result of a call does not matter. -/
theorem Sound.reply {p : Prog α} (h : Sound cfg p) (f : α → Reply) :
    Sound cfg (do return f (← p) : Prog Reply) := h.bind fun _ => .pure

theorem Sound.ready {p : Prog α} (h : Sound cfg p) {s : State} (wf : Wf cfg s)
    (call : s.call ≠ .shutdown) : Path cfg s (p s).2 ∧ Ready cfg (p s).2 :=
  have ⟨path, wf', same⟩ := h.run s wf
  ⟨path, wf', fun e => absurd (same ▸ e) call⟩

/-- A call on live objects is a path of atomic actions. -/
theorem perform_ready {s : State} (wf : Wf cfg s) {c : Call} (kind : s.call = c.kind)
    (defined : c.defined s.w.ent = true) :
    Path cfg s (perform cfg c s).2 ∧ Ready cfg (perform cfg c s).2 := by
  cases c with
  | init env => exact ((rmwInit_sound env).bind fun _ => .pure).ready wf (by simp [kind, Call.kind])
  | shutdown impl =>
    have live : ∀ context, impl = some context → context ∈ s.w.ent.session.elements := by
      rintro context rfl
      simpa [Call.defined] using defined
    obtain ⟨path, stage⟩ := rmwShutdown_triple impl s ⟨wf, kind, live⟩
    exact ⟨path, stage.wf, fun _ => stage.known⟩
  | createNode context name namespace_ =>
    have live : context ∈ s.w.ent.session.elements := by simpa [Call.defined] using defined
    obtain ⟨path, stage⟩ := rmwCreateNode_triple name namespace_ s
      ⟨wf, kind, live⟩
    exact ⟨path, stage.wf, fun e => absurd (stage.call.symm.trans e) (by simp [Call.kind])⟩
  | destroyNode node => exact ((rmwDestroyNode_sound node).reply .ret).ready wf (by simp [kind, Call.kind])
  | createPublisher node typeSupport topicName qosPolicies =>
    exact ((calm_rmwCreatePublisher _ _ _ _).sound.reply .handle).ready wf (by simp [kind, Call.kind])
  | destroyPublisher node publisher =>
    exact ((calm_rmwDestroyPublisher _ _).sound.reply .ret).ready wf (by simp [kind, Call.kind])
  | createSubscription node typeSupport topicName qosPolicies =>
    exact ((rmwCreateSubscription_sound _ _ _ _).reply .handle).ready wf (by simp [kind, Call.kind])
  | destroySubscription node subscription =>
    exact ((rmwDestroySubscription_sound _ _).reply .ret).ready wf (by simp [kind, Call.kind])
  | createService node typeSupport serviceName qosPolicies requestId =>
    exact ((rmwCreateService_sound _ _ _ _ _).reply .handle).ready wf (by simp [kind, Call.kind])
  | destroyService node service =>
    exact ((rmwDestroyService_sound _ _).reply .ret).ready wf (by simp [kind, Call.kind])
  | createClient node typeSupport serviceName qosPolicies requestId =>
    exact ((rmwCreateClient_sound _ _ _ _ _).reply .handle).ready wf (by simp [kind, Call.kind])
  | destroyClient node client =>
    exact ((rmwDestroyClient_sound _ _).reply .ret).ready wf (by simp [kind, Call.kind])
  | take subscription cdrDeserialize =>
    exact takeFrom_ready wf kind
  | takeRequest service cdrDeserialize =>
    exact takeFrom_ready wf kind
  | takeResponse client cdrDeserialize =>
    exact takeFrom_ready wf kind
  | wait set waitTimeout =>
    exact ((calm_rmwWait _ _).sound.bind fun _ => .pure).ready wf (by simp [kind, Call.kind])
  | createGuardCondition =>
    exact (calm_rmwCreateGuardCondition.sound.reply .handle).ready wf (by simp [kind, Call.kind])
  | destroyGuardCondition guardCondition =>
    exact ((calm_rmwDestroyGuardCondition _).sound.reply .ret).ready wf (by simp [kind, Call.kind])
  | triggerGuardCondition guardCondition =>
    exact ((calm_rmwTriggerGuardCondition _).sound.reply .ret).ready wf (by simp [kind, Call.kind])
  | publish env publisher =>
    exact ((calm_rmwPublish _ _).sound.reply .ret).ready wf (by simp [kind, Call.kind])
  | sendRequest env client =>
    refine Sound.ready ((calm_sendOn env .client _ _ client).sound.bind fun r => ?_) wf
      (by simp [kind, Call.kind])
    cases r <;> exact .pure
  | sendResponse env service =>
    refine Sound.ready ((calm_sendOn env .service _ _ service).sound.bind fun r => ?_) wf
      (by simp [kind, Call.kind])
    cases r <;> exact .pure
  | syncSession offset =>
    exact ((calm_rmwUrosSyncSession _).sound.reply .ret).ready wf (by simp [kind, Call.kind])
  | time d => exact ((calm_time d).sound.bind fun _ => .pure).ready wf (by simp [kind, Call.kind])

/-- **Every step is a path of atomic actions.** -/
theorem step_path {s : State} (ready : Ready cfg s) (i : Step) :
    Path cfg s (step cfg s i) ∧ Ready cfg (step cfg s i) := by
  rw [step, call]
  split
  · have wf : Wf cfg (s.enter i) := { ready.wf with }
    obtain ⟨path, ready'⟩ := perform_ready wf (c := i.call) rfl ‹_›
    exact ⟨.head ⟨ready.wf, wf, .enter i.call.kind i.agent ready.done⟩ path, ready'⟩
  · exact ⟨.refl, ready⟩

theorem ready_zero (cfg : Config) : Ready cfg State.zero where
  wf :=
    { session := Slots.zero_ok _
      node := Slots.zero_ok _
      publisher := Slots.zero_ok _
      subscription := Slots.zero_ok _
      service := Slots.zero_ok _
      client := Slots.zero_ok _
      guardCondition := Slots.zero_ok _
      staticBuffer := Slots.zero_ok _
      nodeHandles := handles_zero rfl
      publisherHandles := handles_zero rfl
      subscriptionHandles := handles_zero rfl
      serviceHandles := handles_zero rfl
      clientHandles := handles_zero rfl
      guardHandles := fun i hi => by
        simp [State.zero, Entities.zero, Slots.zero, Slots.elements, Mempool.elements, Mempool.zero,
          Mempool.allocated, Intrusive.walk] at hi
      context := fun n hn => by
        simp [State.zero, Entities.zero, Slots.zero, Slots.elements, Mempool.elements, Mempool.zero,
          Mempool.allocated, Intrusive.walk] at hn
      owner := fun o _ given => absurd rfl given }
  done h := by simp [State.zero] at h

/-- **Every run is a path of atomic actions** from zeroed storage. -/
theorem run_path (cfg : Config) (is : List Step) :
    Path cfg State.zero (run cfg is) ∧ Ready cfg (run cfg is) :=
  Runs.invariant_exec (G := fun _ _ => True) (I := fun s => Path cfg State.zero s ∧ Ready cfg s)
    (fun _ i h _ =>
      have ⟨path, ready⟩ := step_path h.2 i
      ⟨h.1.trans path, ready⟩)
    ⟨.refl, ready_zero cfg⟩ ((Runs.always_iff).2 fun _ _ _ _ => trivial)

/-- The last step of a run. -/
theorem run_concat (cfg : Config) (is : List Step) (i : Step) :
    run cfg (is ++ [i]) = (call cfg (run cfg is) i).2 := by
  rw [run, Runs.exec_append]
  rfl

/-- A run only adds to its trace. -/
theorem run_trace_suffix (cfg : Config) (is js : List Step) :
    (run cfg is).trace <:+ (run cfg (is ++ js)).trace := by
  induction js using List.reverseRecOn with
  | nil => exact ⟨[], by rw [List.append_nil, List.nil_append]⟩
  | append_singleton js i ih =>
    rw [← List.append_assoc, run_concat]
    exact ih.trans (step_path (run_path cfg (is ++ js)).2 i).1.trace_mono

/-- What every atomic action preserves holds along a path. -/
theorem Path.keeps {K : State → Prop} (pres : ∀ s t, Atomic cfg s t → K s → K t) {s t : State}
    (path : Path cfg s t) (start : K s) : K t := by
  induction path with
  | refl => exact start
  | tail _ step ih => exact pres _ _ step ih

section Rules

variable {G : List Moment → Prop} {K : State → Prop} {is : List Step}

/-- The rule along a path: what every atomic action preserves, as long as the trace so far satisfies
`G`, holds at its end if the trace there satisfies `G`. -/
theorem Path.keeps_while (down : ∀ {l l'}, l <:+ l' → G l' → G l)
    (pres : ∀ s t, Atomic cfg s t → G t.trace → K s → K t) {s t : State} (path : Path cfg s t)
    (start : K s) (all : G t.trace) : K t := by
  induction path with
  | refl => exact start
  | tail path step ih => exact pres _ _ step all (ih (down step.2.2.trace_mono all))

/-- **The rule for reachable states.** What every atomic action preserves, as long as the trace so
far satisfies `G`, holds after every run whose trace satisfies `G`. -/
theorem trace_rule (down : ∀ {l l'}, l <:+ l' → G l' → G l)
    (pres : ∀ s t, Atomic cfg s t → G t.trace → K s → K t) (start : K State.zero)
    (all : G (run cfg is).trace) : K (run cfg is) :=
  (run_path cfg is).1.keeps_while down pres start all

/-- **The rule for recorded moments.** If every action that records a moment in a state of the
invariant records a good one, all moments of the run are good. -/
theorem trace_moment_rule {Q : Moment → Prop} (down : ∀ {l l'}, l <:+ l' → G l' → G l)
    (pres : ∀ s t, Atomic cfg s t → G t.trace → K s → K t) (start : K State.zero)
    (emit : ∀ s t m, Atomic cfg s t → t.trace = m :: s.trace → G t.trace → K s → Q m)
    (all : G (run cfg is).trace) : ∀ m ∈ (run cfg is).trace, Q m := by
  refine (trace_rule (K := fun s => K s ∧ ∀ m ∈ s.trace, Q m) down (fun s t step all h => ?_)
    ⟨start, by simp [State.zero]⟩ all).2
  refine ⟨pres s t step all h.1, fun m hm => ?_⟩
  rcases step.2.2.trace_cases with same | ⟨new, e, -, -⟩
  · exact h.2 m (same ▸ hm)
  · rw [e] at hm
    rcases List.mem_cons.1 hm with rfl | hm
    · exact emit s t m step e all h.1
    · exact h.2 m hm

/-- A condition on the single moments of a trace. -/
theorem forall_mem_of_suffix {P : Moment → Prop} {l l' : List Moment} (h : l <:+ l')
    (all : ∀ m ∈ l', P m) : ∀ m ∈ l, P m := fun m hm => all m (h.subset hm)

theorem run_rule {P : Moment → Prop}
    (pres : ∀ s t, Atomic cfg s t → (∀ m ∈ t.trace, P m) → K s → K t) (start : K State.zero)
    (all : ∀ m ∈ (run cfg is).trace, P m) : K (run cfg is) :=
  trace_rule (G := fun l => ∀ m ∈ l, P m) forall_mem_of_suffix pres start all

theorem moment_rule {P Q : Moment → Prop}
    (pres : ∀ s t, Atomic cfg s t → (∀ m ∈ t.trace, P m) → K s → K t) (start : K State.zero)
    (emit : ∀ s t m, Atomic cfg s t → t.trace = m :: s.trace → P m → K s → Q m)
    (all : ∀ m ∈ (run cfg is).trace, P m) : ∀ m ∈ (run cfg is).trace, Q m :=
  trace_moment_rule (G := fun l => ∀ m ∈ l, P m) forall_mem_of_suffix pres start
    (fun s t m step e all h => emit s t m step e (all m (e ▸ List.mem_cons_self)) h) all

/-- Every moment of a run is recorded in a state of the invariant. -/
theorem moment_state {m : Moment} (hm : m ∈ (run cfg is).trace) : ∃ s, Wf cfg s ∧ m.world = s.w := by
  refine moment_rule (P := fun _ => True) (K := fun _ => True) (Q := fun m => ∃ s, Wf cfg s ∧ m.world = s.w)
    (fun _ _ _ _ _ => trivial) trivial ?_ (fun _ _ => trivial) m hm
  rintro s t m ⟨wf, -, micro⟩ trace - -
  exact ⟨s, wf, micro.world_of_recorded trace⟩

end Rules

end RmwMicroxrcedds
