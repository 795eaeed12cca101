import RmwMicroxrcedds.Base.Reports
import RmwMicroxrcedds.Proof.Removals
import RmwMicroxrcedds.Proof.Shutdowns

/-!
# What the destroy functions ask, and what they report

A destroy function makes its requests on the destroy stream of a context. A best-effort stream waits
for no answer. The functions look at some of the answers only, and the loops of `rmw_destroy_node`
and `rmw_context_fini` report the result of the last destruction.
-/

namespace RmwMicroxrcedds
set_option autoImplicit false

open Reports

variable {cfg : Config} {β : Type}

/-! ## Requests on a destroy stream -/

/-- The answers of the agent, without the callbacks. -/
def State.answers (s : State) : List Bool := s.agent.map (·.confirmed)

/-- A request on the destroy stream of a context. -/
def Entities.ask (e : Entities) (context : Nat) (request : XrceRequest) (counts : Bool) :
    Ask XrceRequest :=
  ⟨request, (e.session.custom context).destroyStream != .bestEffort, counts⟩

theorem Entities.ask_congr {e e' : Entities} (session : e'.session = e.session) (context : Nat)
    (request : XrceRequest) (counts : Bool) :
    e'.ask context request counts = e.ask context request counts := by
  rw [ask, ask, session]

/-- The requests have been made and answered. -/
structure Asks (as : List (Ask XrceRequest)) (s t : State) : Prop where
  requests : t.requests =
    ((heard as s.answers).map fun p => (p.1.request, p.2)).reverse ++ s.requests
  answers : t.answers = rest as s.answers

/-- The value that tells whether all was confirmed. -/
def report (confirmed : Bool) : RmwRet := if confirmed then .ok else .timeout

theorem report_and (a b : Bool) : report (a && b) = if a = true ∧ b = true then .ok else .timeout := by
  cases a <;> cases b <;> rfl

theorem report_last (a b : Bool) : report (a && b) = if b = true then report a else .timeout := by
  cases a <;> cases b <;> rfl

/-- The result says whether all the answers that count were positive. -/
structure Reported (as : List (Ask XrceRequest)) (s : State) (r : RmwRet × State) : Prop where
  asks : Asks as s r.2
  ret : r.1 = report (verdict as s.answers)

section Asks

variable {as bs : List (Ask XrceRequest)} {s t u : State}

theorem Asks.silent (requests : t.requests = s.requests) (agent : t.agent = s.agent) : Asks [] s t :=
  ⟨requests, by rw [State.answers, agent]; rfl⟩

theorem Asks.trans (h : Asks as s t) (k : Asks bs t u) : Asks (as ++ bs) s u where
  requests := by
    rw [k.requests, h.requests, h.answers, heard_append, List.map_append, List.reverse_append,
      List.append_assoc]
  answers := by rw [k.answers, h.answers, rest_append]

/-- What counts is no matter for the dialogue. -/
theorem Asks.hush (h : Asks as s t) : Asks (as.map Ask.hush) s t where
  requests := by
    rw [heard_hush, List.map_map]
    exact h.requests
  answers := by rw [rest_hush, h.answers]

theorem confirms_eq (s : State) : confirms s.agent = s.answers.headD false := by
  rw [State.answers]
  cases s.agent <;> rfl

/-- `run_xrce_session` on the destroy stream. -/
theorem runDestruction_asks (cfg : Config) (context : Nat) (request : XrceRequest) (counts : Bool)
    (s : State) :
    let r := runDestruction cfg context request s
    Asks [s.w.ent.ask context request counts] s r.2 ∧
      r.1 = verdict [s.w.ent.ask context request true] s.answers := by
  intro r
  set stream := (s.w.ent.session.custom context).destroyStream with hstream
  by_cases h : stream = .bestEffort
  · have run : r = (true, s.record (.ran context request true)) := by
      have e : r = runXrceSession cfg context stream request s := rfl
      rw [e]
      simp only [runXrceSession, h, if_true]
      rfl
    have silent : ∀ b, s.w.ent.ask context request b = ⟨request, false, b⟩ := fun b => by
      rw [Entities.ask, ← hstream, h]
      rfl
    rw [run, silent, silent]
    exact ⟨⟨rfl, rfl⟩, rfl⟩
  · obtain ⟨asked, answer⟩ := runXrceSession_spec cfg context stream request s
    obtain ⟨confirmed, agent⟩ := answer h
    have waits : ∀ b, s.w.ent.ask context request b = ⟨request, true, b⟩ := fun b => by
      rw [Entities.ask, ← hstream, bne_iff_ne.2 h]
    have result : r.1 = s.answers.headD false := confirmed.trans (confirms_eq s)
    rw [waits, waits, result]
    refine ⟨⟨?_, ?_⟩, ?_⟩
    · have made : r.2.requests = (request, r.1) :: s.requests := asked.requests
      rw [made, result]
      rfl
    · have left : r.2.agent = s.agent.tail := agent
      rw [State.answers, left, List.map_tail]
      rfl
    · simp [verdict, heard]

theorem finiMemory_asks [Element β] (k : Kind β) (clear : β → β) (i : Nat) (s : State) :
    Asks [] s (finiMemory k clear i s).2 := by
  rw [finiMemory, Prog.bind_run, readElement_run]
  dsimp only
  split
  · cases (Element.handle ((k.slots s.w.ent).custom i)).data.bind k.owner
    · exact .silent rfl rfl
    · exact .silent rfl rfl
  · exact .silent rfl rfl

/-- What `destroy_topic` asks for; its result is dropped by those who call it. -/
def Entities.topicAsks (e : Entities) (topic : Nat) : List (Ask XrceRequest) :=
  match (e.topic.custom topic).ownerNode with
  | none => []
  | some n => [e.ask (e.contextOf n) (.deleteEntity (e.topic.custom topic).topicId) false]

theorem destroyTopic_asks (topic : Nat) (s : State) :
    Asks (s.w.ent.topicAsks topic) s (destroyTopic cfg topic s).2 := by
  rw [destroyTopic, Prog.bind_run, readElement_run, Entities.topicAsks]
  dsimp only
  have own : ((Kind.topic.slots s.w.ent).custom topic).ownerNode =
    (s.w.ent.topic.custom topic).ownerNode := rfl
  rw [own]
  cases (s.w.ent.topic.custom topic).ownerNode with
  | none => exact .silent rfl rfl
  | some customNode =>
    obtain ⟨⟨requests, answers⟩, -⟩ := runDestruction_asks cfg (s.w.ent.contextOf customNode)
      (.deleteEntity (s.w.ent.topic.custom topic).topicId) false s
    exact ⟨requests, answers⟩

theorem Entities.topicAsks_hushed (e : Entities) (topic : Nat) (answers : List Bool) :
    verdict (e.topicAsks topic) answers = true := by
  apply verdict_of_hushed
  intro a ha
  unfold topicAsks at ha
  split at ha
  · cases ha
  · rw [List.mem_singleton.1 ha]
    rfl

/-- Two requests whose answers both count. -/
theorem runDestruction_twice (cfg : Config) (context : Nat) (first second : XrceRequest) (s : State) :
    let r := runDestruction cfg context first s
    let r' := runDestruction cfg context second r.2
    let as := [s.w.ent.ask context first true, s.w.ent.ask context second true]
    Asks as s r'.2 ∧ (r.1 && r'.1) = verdict as s.answers := by
  intro r r' as
  obtain ⟨asks, ret⟩ := runDestruction_asks cfg context first true s
  obtain ⟨asks', ret'⟩ := runDestruction_asks cfg context second true r.2
  have frame : r.2.w.ent = s.w.ent := (runDestruction_frame cfg context first s).ent
  rw [frame] at asks' ret'
  refine ⟨asks.trans asks', ?_⟩
  have whole : verdict as s.answers = (verdict [s.w.ent.ask context first true] s.answers &&
      verdict [s.w.ent.ask context second true] r.2.answers) := by
    rw [asks.answers, ← verdict_append]
    rfl
  rw [whole, ← ret, ← ret']

end Asks

/-! ## Entities -/

/-- What `rmw_destroy_publisher` asks for. -/
def Entities.publisherAsks (e : Entities) (i : Nat) : List (Ask XrceRequest) :=
  let p := e.publisher.custom i
  let context := e.contextOf (deref p.ownerNode)
  e.topicAsks (deref p.topic) ++
    [e.ask context (.deleteEntity p.datawriterId) true, e.ask context (.deleteEntity p.publisherId) true]

/-- What `rmw_destroy_subscription` asks for. -/
def Entities.subscriptionAsks (e : Entities) (i : Nat) : List (Ask XrceRequest) :=
  let p := e.subscription.custom i
  let context := e.contextOf (deref p.ownerNode)
  e.ask context (.cancelData p.datareaderId) false :: (e.topicAsks (deref p.topic) ++
    [e.ask context (.deleteEntity p.datareaderId) true,
      e.ask context (.deleteEntity p.subscriberId) true])

/-- What `rmw_destroy_service` and `rmw_destroy_client` ask for. -/
def Entities.singleAsks (e : Entities) (node : Nat) (id : UxrObjectId) : List (Ask XrceRequest) :=
  [e.ask (e.contextOf node) (.cancelData id) false, e.ask (e.contextOf node) (.deleteEntity id) true]

section Entities

variable {s : State} {node i : Nat}

theorem rmwDestroyPublisher_reports (wf : Wf cfg s) (hn : node ∈ s.w.ent.node.elements)
    (hi : i ∈ s.w.ent.publisher.elements) :
    Reported (s.w.ent.publisherAsks i) s (rmwDestroyPublisher cfg (some node) (some i) s) := by
  rw [rmwDestroyPublisher, Prog.bind_run,
    destroyChecks_some .publisher wf.nodeHandles wf.publisherHandles hn hi]
  dsimp only
  rw [Prog.bind_run, readElement_run]
  dsimp only
  set p : Publisher := (Kind.publisher.slots s.w.ent).custom i
  rw [Prog.bind_run]
  set context := (contextOf (deref p.ownerNode) s).1
  have same : (contextOf (deref p.ownerNode) s).2 = s := rfl
  rw [same, Prog.bind_run]
  have topic : Asks _ s (destroyTopic cfg (deref p.topic) s).2 := destroyTopic_asks (deref p.topic) s
  have session : (destroyTopic cfg (deref p.topic) s).2.w.ent.session = s.w.ent.session := by
    rw [(destroyTopic_effect cfg (deref p.topic) s).ent, destroyedTopic_session]
  set s₁ := (destroyTopic cfg (deref p.topic) s).2
  obtain ⟨asks, ret⟩ := runDestruction_twice cfg context (.deleteEntity p.datawriterId)
    (.deleteEntity p.publisherId) s₁
  rw [Entities.ask_congr session, Entities.ask_congr session] at asks ret
  simp only [Prog.bind_run, Prog.pure_run]
  constructor
  · exact topic.trans (asks.trans (finiMemory_asks .publisher id i _))
  · rw [topic.answers] at ret
    have whole : verdict (s.w.ent.publisherAsks i) s.answers = verdict
        [s.w.ent.ask context (.deleteEntity p.datawriterId) true,
          s.w.ent.ask context (.deleteEntity p.publisherId) true]
        (rest (s.w.ent.topicAsks (deref p.topic)) s.answers) := by
      rw [Entities.publisherAsks, verdict_append, Entities.topicAsks_hushed, Bool.true_and]
      rfl
    rw [whole, ← ret, report_and]

theorem rmwDestroySubscription_reports (wf : Wf cfg s) (hn : node ∈ s.w.ent.node.elements)
    (hi : i ∈ s.w.ent.subscription.elements) :
    Reported (s.w.ent.subscriptionAsks i) s (rmwDestroySubscription cfg (some node) (some i) s) := by
  rw [rmwDestroySubscription, Prog.bind_run,
    destroyChecks_some .subscription wf.nodeHandles wf.subscriptionHandles hn hi]
  dsimp only
  rw [Prog.bind_run, readElement_run]
  dsimp only
  set p : Subscription := (Kind.subscription.slots s.w.ent).custom i
  rw [Prog.bind_run]
  set context := (contextOf (deref p.ownerNode) s).1
  have same : (contextOf (deref p.ownerNode) s).2 = s := rfl
  rw [same, Prog.bind_run]
  obtain ⟨cancel, -⟩ := runDestruction_asks cfg context (.cancelData p.datareaderId) false s
  have frame := (runDestruction_frame cfg context (.cancelData p.datareaderId) s).ent
  set s₀ := (runDestruction cfg context (.cancelData p.datareaderId) s).2
  rw [Prog.bind_run]
  have topic : Asks _ s₀ (destroyTopic cfg (deref p.topic) s₀).2 := destroyTopic_asks (deref p.topic) s₀
  have session : (destroyTopic cfg (deref p.topic) s₀).2.w.ent.session = s.w.ent.session := by
    rw [(destroyTopic_effect cfg (deref p.topic) s₀).ent, destroyedTopic_session, frame]
  set s₁ := (destroyTopic cfg (deref p.topic) s₀).2
  obtain ⟨asks, ret⟩ := runDestruction_twice cfg context (.deleteEntity p.datareaderId)
    (.deleteEntity p.subscriberId) s₁
  rw [Entities.ask_congr session, Entities.ask_congr session] at asks ret
  rw [frame] at topic
  simp only [Prog.bind_run, Prog.pure_run]
  constructor
  · exact cancel.trans (topic.trans (asks.trans (finiMemory_asks .subscription id i _)))
  · rw [topic.answers, cancel.answers] at ret
    have whole : verdict (s.w.ent.subscriptionAsks i) s.answers = verdict
        [s.w.ent.ask context (.deleteEntity p.datareaderId) true,
          s.w.ent.ask context (.deleteEntity p.subscriberId) true]
        (rest (s.w.ent.topicAsks (deref p.topic))
          (rest [s.w.ent.ask context (.cancelData p.datareaderId) false] s.answers)) := by
      rw [Entities.subscriptionAsks, verdict_cons_of_hushed _ _ rfl, verdict_append,
        Entities.topicAsks_hushed, Bool.true_and]
      rfl
    rw [whole, ← ret, report_and]

/-- A cancellation, whose answer is ignored, and a deletion. -/
theorem runDestruction_single (cfg : Config) (node : Nat) (id : UxrObjectId) (s : State) :
    let context := s.w.ent.contextOf node
    let t := (runDestruction cfg context (.cancelData id) s).2
    let r := runDestruction cfg context (.deleteEntity id) t
    Asks (s.w.ent.singleAsks node id) s r.2 ∧
      report r.1 = report (verdict (s.w.ent.singleAsks node id) s.answers) := by
  intro context t r
  obtain ⟨cancel, -⟩ := runDestruction_asks cfg context (.cancelData id) false s
  obtain ⟨delete, ret⟩ := runDestruction_asks cfg context (.deleteEntity id) true t
  have frame : t.w.ent = s.w.ent := (runDestruction_frame cfg context (.cancelData id) s).ent
  rw [frame] at delete ret
  have whole : verdict (s.w.ent.singleAsks node id) s.answers = _ :=
    verdict_cons_of_hushed [s.w.ent.ask context (.deleteEntity id) true] s.answers rfl
  refine ⟨cancel.trans delete, ?_⟩
  rw [whole, ret, cancel.answers]

theorem rmwDestroyService_reports (wf : Wf cfg s) (hn : node ∈ s.w.ent.node.elements)
    (hi : i ∈ s.w.ent.service.elements) :
    Reported (s.w.ent.singleAsks node (s.w.ent.service.custom i).serviceId) s
      (rmwDestroyService cfg (some node) (some i) s) := by
  obtain ⟨asks, ret⟩ := runDestruction_single cfg node (s.w.ent.service.custom i).serviceId s
  rw [rmwDestroyService, Prog.bind_run,
    destroyChecks_some .service wf.nodeHandles wf.serviceHandles hn hi]
  simp only [Prog.bind_run, Prog.pure_run, readElement_run]
  constructor
  · have all := asks.trans (finiMemory_asks .service id i _)
    rwa [List.append_nil] at all
  · exact ret

theorem rmwDestroyClient_reports (wf : Wf cfg s) (hn : node ∈ s.w.ent.node.elements)
    (hi : i ∈ s.w.ent.client.elements) :
    Reported (s.w.ent.singleAsks node (s.w.ent.client.custom i).clientId) s
      (rmwDestroyClient cfg (some node) (some i) s) := by
  obtain ⟨asks, ret⟩ := runDestruction_single cfg node (s.w.ent.client.custom i).clientId s
  rw [rmwDestroyClient, Prog.bind_run,
    destroyChecks_some .client wf.nodeHandles wf.clientHandles hn hi]
  simp only [Prog.bind_run, Prog.pure_run, readElement_run]
  constructor
  · have all := asks.trans (finiMemory_asks .client id i _)
    rwa [List.append_nil] at all
  · exact ret

end Entities

/-! ## Nodes -/

/-- An entity of a node, as its destruction comes to it. -/
inductive Piece where
  | publisher (i : Nat)
  | subscription (i : Nat)
  | service (i : Nat)
  | client (i : Nat)

/-- What is asked for the entity. -/
def Piece.asks (e : Entities) (n : Nat) : Piece → List (Ask XrceRequest)
  | .publisher i => e.publisherAsks i
  | .subscription i => e.subscriptionAsks i
  | .service i => e.singleAsks n (e.service.custom i).serviceId
  | .client i => e.singleAsks n (e.client.custom i).clientId

/-- The entities once it has been destroyed. -/
def Piece.destroyed (e : Entities) : Piece → Entities
  | .publisher i => destroyedPublisher i e
  | .subscription i => destroyedSubscription i e
  | .service i => { e with service := e.service.fini id i }
  | .client i => { e with client := e.client.fini id i }

/-- The entities of the node in the order of its destruction. -/
def Entities.pieces (e : Entities) (n : Nat) : List Piece :=
  (e.publisher.chosen (ofNode (·.ownerNode) n)).map .publisher ++
    ((e.subscription.chosen (ofNode (·.ownerNode) n)).map .subscription ++
      ((e.service.chosen (ofNode (·.ownerNode) n)).map .service ++
        (e.client.chosen (ofNode (·.ownerNode) n)).map .client))

/-- The requests of the loops, after those of `done`; the result of each entity replaces the one
before. -/
def piecesAsks (n : Nat) : List Piece → Entities → List (Ask XrceRequest) → List (Ask XrceRequest) × Entities
  | [], e, done => (done, e)
  | p :: ps, e, done => piecesAsks n ps (p.destroyed e) (follow done (p.asks e n))

/-- What `rmw_destroy_node` asks for, and the entities it leaves. -/
def Entities.nodeAsks (e : Entities) (n : Nat) : List (Ask XrceRequest) × Entities :=
  let (asks, e) := piecesAsks n (e.pieces n) e []
  (asks ++ [e.ask (e.contextOf n) (.deleteEntity (e.node.custom n).participantId) true],
    { e with node := e.node.fini (fun n => { n with context := none }) n })

theorem Slots.chosen_erase {t u : Slots β} {i : Nat} {is : List Nat} {mine : β → Bool}
    (nodup : t.elements.Nodup) (elements : u.elements = t.elements.erase i)
    (custom : ∀ j, j ≠ i → u.custom j = t.custom j) (first : t.chosen mine = i :: is) :
    u.chosen mine = is := by
  have same : (t.elements.erase i).filter (fun j => mine (u.custom j)) =
      (t.elements.erase i).filter fun j => mine (t.custom j) :=
    List.filter_congr fun j hj => by rw [custom j (nodup.mem_erase_iff.1 hj).1]
  rw [chosen, elements, same, ← List.erase_filter]
  exact (congrArg (List.erase · i) first).trans (List.erase_cons_head _ _)

theorem Slots.chosen_fini [Element β] {t : Slots β} {size i : Nat} {is : List Nat} {mine : β → Bool}
    (ok : t.Ok size) (hs : Handles t) (first : t.chosen mine = i :: is) :
    (t.fini id i).chosen mine = is := by
  have hi := (mem_chosen.1 (first ▸ List.mem_cons_self)).1
  obtain ⟨-, -, elements, custom⟩ := ok.fini hs hi id fun _ => rfl
  exact chosen_erase ok.nodup elements custom first

theorem Vacant.chosen {k : Kind β} {mine : β → Bool} {e : Entities} (h : Vacant k mine e) :
    (k.slots e).chosen mine = [] := List.filter_eq_nil_iff.2 fun j hj => by simp [h j hj]

/-- The destruction of a node, between two of its entities. -/
structure Underway (cfg : Config) (n : Nat) (s₀ : State) (ret : RmwRet) (s : State) : Prop where
  reached : Reached cfg s₀ s
  asked : ∃ done, Asks done s₀ s ∧ ret = report (verdict done s₀.answers) ∧
    piecesAsks n (s.w.ent.pieces n) s.w.ent done = piecesAsks n (s₀.w.ent.pieces n) s₀.w.ent []

theorem Underway.step {n : Nat} {s₀ s : State} {ret : RmwRet} {r : RmwRet × State} {p : Piece}
    {ps : List Piece} (h : Underway cfg n s₀ ret s) (reached : Reached cfg s₀ r.2)
    (reported : Reported (p.asks s.w.ent n) s r) (ent : r.2.w.ent = p.destroyed s.w.ent)
    (before : s.w.ent.pieces n = p :: ps) (after : r.2.w.ent.pieces n = ps) :
    Underway cfg n s₀ r.1 r.2 := by
  obtain ⟨done, asks, -, plan⟩ := h.asked
  refine ⟨reached, follow done (p.asks s.w.ent n), asks.hush.trans reported.asks, ?_, ?_⟩
  · rw [verdict_follow, ← asks.answers]
    exact reported.ret
  · rw [← plan, before, after, ent]
    rfl

theorem underway_rule {s₀ : State} {n : Nat} (hn : n ∈ s₀.w.ent.node.elements) :
    ResultRule cfg n (Underway cfg n s₀) := by
  have reached : NodeRule cfg n (Reached cfg s₀) := reached_rule hn
  have chosen : ∀ {γ : Type} {t : Slots γ} {ownerNode : γ → Option Nat} {i : Nat} {is : List Nat},
      t.chosen (ofNode ownerNode n) = i :: is → i ∈ t.elements ∧ ownerNode (t.custom i) = some n := by
    intro γ t ownerNode i is first
    obtain ⟨hi, own⟩ := Slots.mem_chosen.1 (first ▸ List.mem_cons_self)
    exact ⟨hi, eq_of_beq own⟩
  constructor
  · exact fun ret s h => h.reached.wf
  · exact fun ret s h => reached.node s h.reached
  · intro ret s i is h first
    obtain ⟨hi, own⟩ := chosen first
    have wf := h.reached.wf
    have hn' := reached.node s h.reached
    have ent := (rmwDestroyPublisher_effect wf hn' hi).1.ent
    apply h.step (p := .publisher i) (reached.publisher s i h.reached hi own)
      (rmwDestroyPublisher_reports wf hn' hi) ent
    · rw [Entities.pieces, first]
      rfl
    · have left := Slots.chosen_fini wf.publisher wf.publisherHandles first
      rw [ent, Entities.pieces]
      simp only [destroyedPublisher, left, destroyedTopic_subscription, destroyedTopic_service,
        destroyedTopic_client]
      rfl
  · intro ret s i is h pubs first
    obtain ⟨hi, own⟩ := chosen first
    have wf := h.reached.wf
    have hn' := reached.node s h.reached
    have ent := (rmwDestroySubscription_effect wf hn' hi).1.ent
    have none : s.w.ent.publisher.chosen (ofNode (·.ownerNode) n) = [] := pubs.chosen
    apply h.step (p := .subscription i) (reached.subscription s i h.reached hi own)
      (rmwDestroySubscription_reports wf hn' hi) ent
    · rw [Entities.pieces, none, first]
      rfl
    · have left := Slots.chosen_fini wf.subscription wf.subscriptionHandles first
      rw [ent, Entities.pieces]
      simp only [destroyedSubscription, left, destroyedTopic_publisher, destroyedTopic_service,
        destroyedTopic_client, none, List.map_nil, List.nil_append]
      rfl
  · intro ret s i is h pubs subs first
    obtain ⟨hi, own⟩ := chosen first
    have wf := h.reached.wf
    have hn' := reached.node s h.reached
    have ent := (rmwDestroyService_effect wf hn' hi).1.ent
    have none : s.w.ent.publisher.chosen (ofNode (·.ownerNode) n) = [] := pubs.chosen
    have none' : s.w.ent.subscription.chosen (ofNode (·.ownerNode) n) = [] := subs.chosen
    apply h.step (p := .service i) (reached.service s i h.reached hi own)
      (rmwDestroyService_reports wf hn' hi) ent
    · rw [Entities.pieces, none, none', first]
      rfl
    · have left := Slots.chosen_fini wf.service wf.serviceHandles first
      rw [ent, Entities.pieces]
      simp only [left, none, none', List.map_nil, List.nil_append]
      rfl
  · intro ret s i is h pubs subs services first
    obtain ⟨hi, own⟩ := chosen first
    have wf := h.reached.wf
    have hn' := reached.node s h.reached
    have ent := (rmwDestroyClient_effect wf hn' hi).1.ent
    have none : s.w.ent.publisher.chosen (ofNode (·.ownerNode) n) = [] := pubs.chosen
    have none' : s.w.ent.subscription.chosen (ofNode (·.ownerNode) n) = [] := subs.chosen
    have none'' : s.w.ent.service.chosen (ofNode (·.ownerNode) n) = [] := services.chosen
    apply h.step (p := .client i) (reached.client s i h.reached hi own)
      (rmwDestroyClient_reports wf hn' hi) ent
    · rw [Entities.pieces, none, none', none'', first]
      rfl
    · have left := Slots.chosen_fini wf.client wf.clientHandles first
      rw [ent, Entities.pieces]
      simp only [left, none, none', none'', List.map_nil, List.nil_append]

/-- **`rmw_destroy_node`**, on a node in use. -/
theorem rmwDestroyNode_reports {s : State} (wf : Wf cfg s) {n : Nat}
    (hn : n ∈ s.w.ent.node.elements) :
    let r := rmwDestroyNode cfg (some n) s
    Reported (s.w.ent.nodeAsks n).1 s r ∧ r.2.w.ent = (s.w.ent.nodeAsks n).2 := by
  have start : Underway cfg n s .ok s := ⟨⟨.refl, wf, rfl, rfl, rfl⟩, [], .silent rfl rfl, rfl, rfl⟩
  obtain ⟨t, ret, h, bare, e⟩ := (underway_rule hn).run start
  obtain ⟨done, asks, result, plan⟩ := h.asked
  have none : t.w.ent.pieces n = [] := by
    have pubs : t.w.ent.publisher.chosen _ = [] := bare.publisher.chosen
    have subs : t.w.ent.subscription.chosen _ = [] := bare.subscription.chosen
    have services : t.w.ent.service.chosen _ = [] := bare.service.chosen
    have clients : t.w.ent.client.chosen _ = [] := bare.client.chosen
    rw [Entities.pieces, pubs, subs, services, clients]
    rfl
  rw [none] at plan
  have wft := h.reached.wf
  have hn' : n ∈ t.w.ent.node.elements := h.reached.node ▸ hn
  have whole : s.w.ent.nodeAsks n = (done ++
      [t.w.ent.ask (t.w.ent.contextOf n) (.deleteEntity (t.w.ent.node.custom n).participantId) true],
      { t.w.ent with node := t.w.ent.node.fini (fun n => { n with context := Option.none }) n }) := by
    rw [Entities.nodeAsks, ← plan]
    rfl
  obtain ⟨last, confirmed⟩ := runDestruction_asks cfg (t.w.ent.contextOf n)
    (.deleteEntity (t.w.ent.node.custom n).participantId) true t
  rw [e, whole]
  refine ⟨⟨?_, ?_⟩, (destroyParticipant_effect wft hn' ret).ent⟩
  · have end_ := last.trans (finiMemory_asks .node (fun n => { n with context := Option.none }) n _)
    rw [List.append_nil] at end_
    exact asks.trans end_
  · rw [verdict_append, ← asks.answers, ← confirmed, destroyParticipant, Prog.bind_run, Prog.bind_run,
      Prog.bind_run, Prog.pure_run, result]
    exact (report_last _ _).symm

/-! ## Contexts -/

/-- The requests of the node loop of `rmw_context_fini`, after those of `done`. -/
def nodesAsks : List Nat → Entities → List (Ask XrceRequest) → List (Ask XrceRequest)
  | [], _, done => done
  | n :: ns, e, done => nodesAsks ns (e.nodeAsks n).2 (follow done (e.nodeAsks n).1)

/-- What `rmw_context_fini` asks for. The session itself is deleted in another way. -/
def Entities.contextAsks (e : Entities) (impl : Option Nat) : List (Ask XrceRequest) :=
  nodesAsks (e.node.chosen (·.context == impl)) e []

theorem destroyNodes_reports {s : State} (wf : Wf cfg s) (impl : Option Nat) :
    let r := destroyAll .node (fun n => n.context == impl) (fun i => rmwDestroyNode cfg (some i))
      (fun _ => false) .ok s
    Reported (s.w.ent.contextAsks impl) s (r.1.2, r.2) := by
  have rule : LoopRule .node cfg.maxNodes (fun n => n.context == impl)
      (fun i => rmwDestroyNode cfg (some i)) (fun _ => false) fun ret t => Wf cfg t ∧ ∃ done,
        Asks done s t ∧ ret = report (verdict done s.answers) ∧
          nodesAsks (t.w.ent.node.chosen (·.context == impl)) t.w.ent done = s.w.ent.contextAsks impl := by
    refine ⟨fun _ _ h => h.1.node, fun ret t n ns ⟨wf, done, asks, _, plan⟩ first => ?_⟩
    have hn := (Slots.mem_chosen.1 (first ▸ List.mem_cons_self)).1
    obtain ⟨-, wf', -, -, erased⟩ := rmwDestroyNode_run wf hn
    obtain ⟨reported, ent⟩ := rmwDestroyNode_reports wf hn
    have left : (rmwDestroyNode cfg (some n) t).2.w.ent.node.chosen (·.context == impl) = ns :=
      Slots.chosen_erase wf.node.nodup erased.elements erased.custom first
    refine ⟨rfl, ⟨wf', follow done (t.w.ent.nodeAsks n).1, asks.hush.trans reported.asks, ?_, ?_⟩, erased⟩
    · rw [verdict_follow, ← asks.answers]
      exact reported.ret
    · have first' : t.w.ent.node.chosen (·.context == impl) = n :: ns := first
      rw [← plan, left, first', ent]
      rfl
  have start : Wf cfg s ∧ ∃ done, Asks done s s ∧ RmwRet.ok = report (verdict done s.answers) ∧
      nodesAsks (s.w.ent.node.chosen (·.context == impl)) s.w.ent done = s.w.ent.contextAsks impl :=
    ⟨wf, [], .silent rfl rfl, rfl, rfl⟩
  intro r
  obtain ⟨-, ⟨-, done, asks, ret, plan⟩, vacant⟩ := rule.run .ok start
  have none : r.2.w.ent.node.chosen (·.context == impl) = [] := vacant.chosen
  have all : nodesAsks (r.2.w.ent.node.chosen (·.context == impl)) r.2.w.ent done =
    s.w.ent.contextAsks impl := plan
  rw [none] at all
  exact all ▸ ⟨asks, ret⟩

theorem closeTransport_requests (context : Nat) (held : Bool) (s : State) :
    (closeTransport cfg context held s).2.requests = s.requests := by
  unfold closeTransport
  split
  · rfl
  · rfl

/-- **`rmw_context_fini`** -/
theorem rmwContextFini_reports {s : State} (wf : Wf cfg s) (impl : Option Nat) :
    let r := rmwContextFini cfg impl s
    r.2.requests = ((heard (s.w.ent.contextAsks impl) s.answers).map
        fun p => (p.1.request, p.2)).reverse ++ s.requests ∧
      r.1 = report (verdict (s.w.ent.contextAsks impl) s.answers) := by
  obtain ⟨asks, ret⟩ := destroyNodes_reports wf impl
  intro r
  have run : r.1 = (destroyAll .node (fun n => n.context == impl) (fun i => rmwDestroyNode cfg (some i))
      (fun _ => false) .ok s).1.2 ∧ r.2.requests = (destroyAll .node (fun n => n.context == impl)
      (fun i => rmwDestroyNode cfg (some i)) (fun _ => false) .ok s).2.requests := by
    simp only [r]
    rw [rmwContextFini, Prog.bind_run]
    cases impl with
    | none => exact ⟨rfl, rfl⟩
    | some context =>
      dsimp only
      rw [Prog.bind_run, readElement_run]
      dsimp only
      have closed : ∀ u : State, ((do
          rmwUxrceFiniSessionMemory context
          closeTransport cfg context true : Prog Unit) u).2.requests = u.requests :=
        fun _ => closeTransport_requests ..
      split
      · have silent := (uxrRunSession_spec cfg context (destroyAll .node
          (fun n => n.context == some context) (fun i => rmwDestroyNode cfg (some i)) (fun _ => false)
          .ok s).2).2.2.2.1
        exact ⟨rfl, (closed _).trans silent⟩
      · exact ⟨rfl, closed _⟩
  rw [run.1, run.2]
  exact ⟨asks.requests, ret⟩

end RmwMicroxrcedds
