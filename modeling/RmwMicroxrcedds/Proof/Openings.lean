import RmwMicroxrcedds.Proof.SingleEnds
import RmwMicroxrcedds.Proof.Steps

/-!
# Opening a context

`rmw_init` takes a session, starts its counters at zero, and draws ids for the graph entities only.
The entities in use, the other sessions and the graph entities of the others stay as they are.
-/

namespace RmwMicroxrcedds
set_option autoImplicit false

open Triples

variable {cfg : Config} {α β : Type}

/-- The kinds of objects that have no part in the graph. -/
def ObjectKind.Plain : ObjectKind → Bool
  | .publisher | .datawriter | .requester | .replier => true
  | _ => false

/-- What is done with the session `c` once it has been set up. -/
structure Sets (c : Nat) (s t : State) : Prop where
  cards : ∀ k, t.w.ent.cards k = s.w.ent.cards k
  topics : t.w.ent.topic.custom = s.w.ent.topic.custom
  memory : t.w.ent.session.memory = s.w.ent.session.memory
  others : ∀ c', c' ≠ c → t.w.ent.session.custom c' = s.w.ent.session.custom c'
  counter : ∀ k : ObjectKind, k.Plain = true →
    (t.w.ent.session.custom c).counter k = (s.w.ent.session.custom c).counter k
  creationStream : (t.w.ent.session.custom c).creationStream = (s.w.ent.session.custom c).creationStream
  graph : ∀ c', c' ≠ c → (t.w.buf.graphInfo c').id = (s.w.buf.graphInfo c').id
  agent : agentObjects t.requests = agentObjects s.requests

theorem Sets.of_ent {c : Nat} {s t : State} (ent : t.w.ent = s.w.ent) (graph : SameGraph s t)
    (agent : agentObjects t.requests = agentObjects s.requests) : Sets c s t := by
  refine ⟨?_, ?_, ?_, ?_, ?_, ?_, fun c' _ => graph c', agent⟩ <;> simp [ent]

instance (c : Nat) : Std.Refl (Sets c) := ⟨fun _ => .of_ent rfl (fun _ => rfl) rfl⟩

instance (c : Nat) : IsTrans State (Sets c) := ⟨fun _ _ _ h k =>
  ⟨fun j => (k.cards j).trans (h.cards j), k.topics.trans h.topics, k.memory.trans h.memory,
    fun c' ne => (k.others c' ne).trans (h.others c' ne),
    fun j plain => (k.counter j plain).trans (h.counter j plain),
    k.creationStream.trans h.creationStream,
    fun c' ne => (k.graph c' ne).trans (h.graph c' ne), k.agent.trans h.agent⟩⟩

theorem sets_drawId (c : Nat) {k : ObjectKind} (graph : k.Plain = false) :
    Within (Sets c) (drawId c k) := fun s => by
  have drawn : (drawId c k s).2 =
      s.mapEnt fun e => { e with session := e.session.update c (·.draw k) } := rfl
  rw [drawn]
  refine ⟨fun j => by cases j <;> rfl, rfl, rfl, fun c' ne => ?_, fun j plain => ?_, ?_,
    fun _ _ => rfl, rfl⟩
  · exact Slots.update_custom_of_ne s.w.ent.session (·.draw k) ne
  · show ((s.w.ent.session.update c (·.draw k)).custom c).counter j = _
    have valid : j ≠ .invalid := by
      rintro rfl
      cases plain
    rw [Slots.update_custom_self, Session.counter_draw _ _ _ valid, if_neg]
    rintro rfl
    rw [plain] at graph
    cases graph
  · show ((s.w.ent.session.update c (·.draw k)).custom c).creationStream = _
    rw [Slots.update_custom_self, Session.draw_creationStream]

theorem sets_uxrRunSession (c session : Nat) : Within (Sets c) (uxrRunSession cfg session) := fun s =>
  have ⟨_, ent, graph, requests, _⟩ := uxrRunSession_spec cfg session s
  .of_ent ent graph (congrArg agentObjects requests)

theorem sets_rmwGraphInit (graphTypeSupport : MessageTypeSupportCallbacks) (c : Nat) :
    Within (Sets c) (rmwGraphInit cfg graphTypeSupport c) := by
  unfold rmwGraphInit
  simp only [postIncrement_idParticipant, postIncrement_idSubscriber, postIncrement_idDatareader,
    postIncrement_idTopic]
  refine Within.bind (sets_drawId c rfl) fun participant => ?_
  refine Within.bind (sets_drawId c rfl) fun subscriber => ?_
  refine Within.bind (sets_drawId c rfl) fun datareader => ?_
  refine Within.bind (sets_drawId c rfl) fun topic => ?_
  refine Within.bind (fun s => ⟨fun _ => rfl, rfl, rfl, fun _ _ => rfl, fun _ _ => rfl, rfl,
    fun c' ne => ?_, rfl⟩) fun _ => ?_
  · exact congrArg GraphInfo.id (setAt_of_ne s.w.buf.graphInfo _ ne)
  · refine Within.ite .pure ?_
    refine Within.bind (sets_uxrRunSession c c) fun confirmed => ?_
    refine Within.bind (fun s => .of_ent rfl (fun _ => rfl) ?_) fun _ => .pure
    show agentObjects ((.createGraph _, confirmed) :: s.requests) = _
    simp [agentObjects]

/-- The session `c` has been taken since `s₀`. -/
structure Got (cfg : Config) (s₀ : State) (c : Nat) (s : State) : Prop where
  ok : s.w.ent.session.Ok cfg.maxSessions
  fresh : c ∉ s₀.w.ent.session.elements
  elements : s.w.ent.session.elements = c :: s₀.w.ent.session.elements
  cards : ∀ k, k ≠ .topic → s.w.ent.cards k = s₀.w.ent.cards k
  topics : s.w.ent.topic.custom = s₀.w.ent.topic.custom
  others : ∀ c', c' ≠ c → s.w.ent.session.custom c' = s₀.w.ent.session.custom c'
  counter : ∀ k : ObjectKind, k.Plain = true → (s.w.ent.session.custom c).counter k = 0
  creationStream : 0 < cfg.entityCreationTimeout → s.Reliable c
  graph : ∀ c', c' ≠ c → (s.w.buf.graphInfo c').id = (s₀.w.buf.graphInfo c').id
  agent : agentObjects s.requests = agentObjects s₀.requests

theorem Got.sets {s₀ s t : State} {c : Nat} (h : Got cfg s₀ c s) (k : Sets c s t) : Got cfg s₀ c t where
  ok := h.ok.of_memory k.memory
  fresh := h.fresh
  elements := by
    rw [← h.elements, Slots.elements, Slots.elements, k.memory]
  cards j hj := (k.cards j).trans (h.cards j hj)
  topics := k.topics.trans h.topics
  others c' ne := (k.others c' ne).trans (h.others c' ne)
  counter j plain := (k.counter j plain).trans (h.counter j plain)
  creationStream timeout := by
    rw [State.Reliable, k.creationStream]
    exact h.creationStream timeout
  graph c' ne := (k.graph c' ne).trans (h.graph c' ne)
  agent := k.agent.trans h.agent

/-- No session has been taken since `s₀`. -/
structure GaveUp (s₀ s : State) : Prop where
  elements : s.w.ent.session.elements = s₀.w.ent.session.elements
  cards : ∀ k, k ≠ .topic → s.w.ent.cards k = s₀.w.ent.cards k
  others : ∀ c' ∈ s₀.w.ent.session.elements, s.w.ent.session.custom c' = s₀.w.ent.session.custom c'
  graph : ∀ c' ∈ s₀.w.ent.session.elements,
    (s.w.buf.graphInfo c').id = (s₀.w.buf.graphInfo c').id

/-- How `rmw_init` ends. -/
def Opens (cfg : Config) (s₀ : State) (impl : Option Nat) (s : State) : Prop :=
  match impl with
  | some c => Got cfg s₀ c s
  | none => GaveUp s₀ s

section Init

variable {s₀ : State} {c : Nat}

theorem Got.ne {s : State} (h : Got cfg s₀ c s) {c' : Nat} (hc : c' ∈ s₀.w.ent.session.elements) :
    c' ≠ c := by
  rintro rfl
  exact h.fresh hc

theorem Got.within {p : Prog α} {f : α → Prog β} {Q : β → State → Prop} (h : Within (Sets c) p)
    (next : ∀ a, Hoare (Got cfg s₀ c) (f a) Q) : Hoare (Got cfg s₀ c) (p >>= f) Q :=
  Triple.bind (h.hoare fun _ _ got sets => got.sets sets) next

theorem sets_closeTransport (c context : Nat) (held : Bool) :
    Within (Sets c) (closeTransport cfg context held) :=
  Within.ite (fun _ => .of_ent rfl (fun _ => rfl) rfl) .pure

theorem putSession_opens {ret : RmwRet} : Hoare (Got cfg s₀ c)
    (do
      putMemory .session c
      return (ret, none) : Prog (RmwRet × Option Nat))
    fun r s => Opens cfg s₀ r.2 s := .of fun s h => by
  have mem : c ∈ s.w.ent.session.elements := h.elements ▸ List.mem_cons_self
  have elements := (h.ok.put mem).2
  rw [h.elements, List.erase_cons_head] at elements
  exact ⟨elements, fun k hk => by rw [← h.cards k hk]; cases k <;> rfl,
    fun c' hc => h.others c' (h.ne hc), fun c' hc => h.graph c' (h.ne hc)⟩

theorem initFail_opens {ret : RmwRet} {held : Bool} : Hoare (Got cfg s₀ c)
    (do
      initFail cfg c held
      return (ret, none) : Prog (RmwRet × Option Nat))
    fun r s => Opens cfg s₀ r.2 s := .of fun s h => by
  have got := h.sets (@sets_closeTransport cfg c c held s)
  exact (putSession_opens _ got).2

/-- The pools are set up when the session has been. -/
theorem got_initPools {s : State} (wf : Wf cfg s)
    (slot : s.w.ent.session.get.1 = some c) (env : InitEnvironment) :
    Got cfg s c (initPools cfg (s.mapEnt fun e =>
      { e with session := e.session.get.2.update c (initContext cfg env) })).2 := by
  obtain ⟨ok, fresh, -, elements⟩ := wf.session.get_some slot
  constructor
  · exact ok.update _ _
  · exact fresh
  · exact elements
  · intro k hk
    have kept : ∀ {γ : Type} {n : Nat} {t : Slots γ} (ok : t.Ok n) (parent : γ → Option Nat)
        (id : γ → UxrObjectId), (t.init n).cards parent id = t.cards parent id :=
      fun ok parent id => Slots.cards_kept ok.init.2.1 fun _ _ => rfl
    cases k with
    | invalid => rfl
    | participant => exact kept wf.node _ _
    | topic => exact absurd rfl hk
    | publisher => exact kept wf.publisher _ _
    | subscriber => exact kept wf.subscription _ _
    | datawriter => exact kept wf.publisher _ _
    | datareader => exact kept wf.subscription _ _
    | requester => exact kept wf.client _ _
    | replier => exact kept wf.service _ _
  · rfl
  · exact fun c' ne => Slots.update_custom_of_ne _ _ ne
  · intro k plain
    show ((s.w.ent.session.get.2.update c (initContext cfg env)).custom c).counter k = 0
    rw [Slots.update_custom_self]
    cases k <;> rfl
  · intro timeout
    show ((s.w.ent.session.get.2.update c (initContext cfg env)).custom c).creationStream ≠ _
    rw [Slots.update_custom_self, initContext]
    dsimp only
    rw [if_pos timeout]
    simp
  · exact fun _ _ => rfl
  · rfl

/-- **`rmw_init`** -/
theorem rmwInit_opens (wf : Wf cfg s₀) (env : InitEnvironment) :
    Opens cfg s₀ (rmwInit cfg env s₀).1.2 (rmwInit cfg env s₀).2 := by
  set s := (initFirstPools cfg s₀).2 with hs
  obtain ⟨-, wf', -⟩ := calm_initFirstPools.run s₀ wf
  have elements : s.w.ent.session.elements = s₀.w.ent.session.elements := wf.session.init.2.1
  have custom : s.w.ent.session.custom = s₀.w.ent.session.custom := rfl
  have cards : ∀ k, s.w.ent.cards k = s₀.w.ent.cards k := fun k => by cases k <;> rfl
  have graph : s.w.buf.graphInfo = s₀.w.buf.graphInfo := rfl
  unfold rmwInit
  rw [Prog.bind_run, Prog.bind_run, ← hs]
  cases slot : s.w.ent.session.get.1 with
  | none =>
    have taken : getMemory .session s = (none, s) := getMemory_none .session wf'.session slot
    rw [taken]
    exact ⟨elements, fun k _ => cards k, fun c' _ => congrFun custom c',
      fun c' _ => congrArg (fun g => (g c').id) graph⟩
  | some c =>
    have got := got_initPools wf' slot env
    have start : Got cfg s₀ c (initPools cfg (s.mapEnt fun e =>
        { e with session := e.session.get.2.update c (initContext cfg env) })).2 :=
      { got with
        fresh := elements ▸ got.fresh
        elements := elements ▸ got.elements
        cards := fun k hk => (got.cards k hk).trans (cards k)
        topics := got.topics
        agent := got.agent
        others := fun c' ne => (got.others c' ne).trans (congrFun custom c')
        graph := fun c' ne => (got.graph c' ne).trans (by rw [graph]) }
    have taken : getMemory .session s = (some c, s.mapEnt fun e =>
        { e with session := s.w.ent.session.get.2 }) := getMemory_some .session slot
    rw [taken]
    dsimp only
    rw [Prog.bind_run, Prog.bind_run]
    refine ((?_ : Hoare (Got cfg s₀ c) _ fun (r : RmwRet × Option Nat) s => Opens cfg s₀ r.2 s) _ start).2
    refine Got.within (fun _ => .of_ent rfl (fun _ => rfl) rfl) fun _ => ?_
    refine Triple.ite (fun _ => initFail_opens) fun _ => ?_
    refine Got.within (sets_uxrRunSession c c) fun confirmed => Triple.ite (fun _ => ?_) fun _ => ?_
    · refine Triple.ite (fun _ => ?_) fun _ => Triple.pure fun _ h => h
      refine Got.within (sets_rmwGraphInit _ c) fun ret => Triple.ite (fun _ => ?_) fun _ => ?_
      · exact Got.within (sets_uxrRunSession c c) fun _ => Triple.pure fun _ h => h
      · exact Triple.pure fun _ h => h
    · exact initFail_opens

end Init

end RmwMicroxrcedds
