import RmwMicroxrcedds.Proof.Dialogue
import RmwMicroxrcedds.Proof.Effects
import RmwMicroxrcedds.Proof.Receptions
import RmwMicroxrcedds.Spec.GraphDecoding
import RmwMicroxrcedds.Spec.GraphQueries

/-!
# From the agent's graph to the answers

The graph of a context is a last-writer-wins register: each sample for its datareader replaces it, and no other
callback, on this session or another, touches it. So what a query answers is what the last sample encodes, and a
sample that was cut off makes every query fail until the next one comes.
-/

namespace RmwMicroxrcedds
set_option autoImplicit false

open Cdr

variable {cfg : Config} {c : Nat}

/-- Callbacks in the order in which they are raised, each with its session. -/
def raiseAll (cfg : Config) (s : State) (raised : List (Nat × SessionEvent)) : State :=
  raised.foldl (fun s e => raise cfg e.1 s e.2) s

/-- The graph info of a context after a sample for it. -/
def GraphInfo.after (graphInfo : GraphInfo) (ub : List UInt8) (length : Nat) : GraphInfo :=
  { graphInfo with
    microBufferLength := length
    microBuffer := (ucdrDeserializeArrayUint8T ub graphInfo.microBuffer length).2
    initialized := true
    hasChanged := true }

/-! ## One callback -/

theorem raise_graphInfo (session : Nat) (s : State) (ev : SessionEvent) :
    (raise cfg session s ev).w.buf.graphInfo = (callback cfg session ev s.w).1.buf.graphInfo := by
  cases ev with
  | time d => rfl
  | _ => rfl

/-- A sample for the graph of the context. -/
theorem callback_graph_sample (profile : cfg.graph = true) (w : World) (ub : List UInt8) (length : Nat) :
    (callback cfg c (.topic (w.buf.graphInfo c).datareaderId ub length) w).1.buf.graphInfo c =
      (w.buf.graphInfo c).after ub length := by
  have graph : cfg.graph = true ∧ (w.buf.graphInfo c).datareaderId = (w.buf.graphInfo c).datareaderId :=
    ⟨profile, rfl⟩
  have taken : callback cfg c (.topic (w.buf.graphInfo c).datareaderId ub length) w =
      (onGraph c ub length w, none) := if_pos graph
  rw [taken]
  exact setAt_self ..

/-- No other callback touches it. -/
theorem callback_graph_other {session : Nat} {ev : SessionEvent} {w : World}
    (other : session = c → ¬ graphSample cfg session w ev) :
    (callback cfg session ev w).1.buf.graphInfo c = w.buf.graphInfo c := by
  cases ev with
  | time d => rfl
  | topic objectId ub length =>
    simp only [callback, onTopic]
    split
    · rename_i graph
      have ne : c ≠ session := fun same => other same.symm graph
      simp only [onGraph]
      exact setAt_of_ne _ _ ne
    · split
      · rfl
      · rw [receive_graphInfo]
  | request requestId sampleId ub length =>
    simp only [callback, onRequest]
    split
    · rfl
    · rw [receive_graphInfo]
  | reply requestId replyId ub length =>
    simp only [callback, onReply]
    split
    · rfl
    · rw [receive_graphInfo]

/-- The datareader of the graph stays. -/
theorem raise_reader (session : Nat) (s : State) (ev : SessionEvent) :
    ((raise cfg session s ev).w.buf.graphInfo c).datareaderId = (s.w.buf.graphInfo c).datareaderId := by
  rw [raise_graphInfo]
  by_cases mine : session = c ∧ graphSample cfg session s.w ev
  · obtain ⟨rfl, graph⟩ := mine
    cases ev with
    | topic objectId ub length =>
      obtain ⟨profile, rfl⟩ := graph
      rw [callback_graph_sample profile]
      rfl
    | _ => exact graph.elim
  · rw [callback_graph_other fun same graph => mine ⟨same, graph⟩]

/-! ## Many callbacks -/

theorem raiseAll_ent (s : State) (raised : List (Nat × SessionEvent)) :
    (raiseAll cfg s raised).w.ent = s.w.ent := by
  induction raised generalizing s with
  | nil => rfl
  | cons e raised ih => exact (ih _).trans (raise_frame cfg e.1 s e.2).ent

theorem raiseAll_reader (s : State) (raised : List (Nat × SessionEvent)) :
    ((raiseAll cfg s raised).w.buf.graphInfo c).datareaderId = (s.w.buf.graphInfo c).datareaderId := by
  induction raised generalizing s with
  | nil => rfl
  | cons e raised ih => exact (ih _).trans (raise_reader e.1 s e.2)

/-- Callbacks that are no sample for the graph of the context leave it. -/
theorem raiseAll_graph_other (s : State) (raised : List (Nat × SessionEvent))
    (others : ∀ e ∈ raised, e.1 = c → ∀ ub length, e.2 ≠ .topic (s.w.buf.graphInfo c).datareaderId ub length) :
    (raiseAll cfg s raised).w.buf.graphInfo c = s.w.buf.graphInfo c := by
  induction raised generalizing s with
  | nil => rfl
  | cons e raised ih =>
    have kept : (raise cfg e.1 s e.2).w.buf.graphInfo c = s.w.buf.graphInfo c := by
      rw [raise_graphInfo]
      apply callback_graph_other
      intro mine graph
      cases shape : e.2 with
      | topic objectId ub length =>
        rw [shape] at graph
        have reader : objectId = (s.w.buf.graphInfo c).datareaderId := by rw [← mine]; exact graph.2
        exact others e List.mem_cons_self mine ub length (by rw [shape, reader])
      | _ => rw [shape] at graph; exact graph
    have rest := ih (raise cfg e.1 s e.2) fun e' mem mine ub length => by
      rw [kept]
      exact others e' (List.mem_cons_of_mem _ mem) mine ub length
    exact rest.trans kept

/-- **The last sample is the graph.** -/
theorem raiseAll_graph (profile : cfg.graph = true) (s : State) (before after : List (Nat × SessionEvent))
    (received rest : List UInt8)
    (last : ∀ e ∈ after, e.1 = c → ∀ ub length, e.2 ≠ .topic (s.w.buf.graphInfo c).datareaderId ub length) :
    let sample := SessionEvent.topic (s.w.buf.graphInfo c).datareaderId (received ++ rest) received.length
    let graphInfo := (raiseAll cfg s (before ++ (c, sample) :: after)).w.buf.graphInfo c
    graphInfo.initialized = true ∧ graphInfo.sample = received := by
  intro sample graphInfo
  set s₁ := raiseAll cfg s before
  set s₂ := raise cfg c s₁ sample
  have reader : (s₁.w.buf.graphInfo c).datareaderId = (s.w.buf.graphInfo c).datareaderId := raiseAll_reader s before
  have reader' : (s₂.w.buf.graphInfo c).datareaderId = (s.w.buf.graphInfo c).datareaderId :=
    (raise_reader c s₁ sample).trans reader
  have stored : s₂.w.buf.graphInfo c = (s₁.w.buf.graphInfo c).after (received ++ rest) received.length := by
    have written := callback_graph_sample (c := c) profile s₁.w (received ++ rest) received.length
    rw [reader] at written
    exact (congrFun (raise_graphInfo c s₁ sample) c).trans written
  have split : raiseAll cfg s (before ++ (c, sample) :: after) = raiseAll cfg s₂ after := by
    simp only [raiseAll, List.foldl_append, List.foldl_cons]
    rfl
  have final : graphInfo = s₂.w.buf.graphInfo c := by
    show (raiseAll cfg s (before ++ (c, sample) :: after)).w.buf.graphInfo c = _
    rw [split]
    apply raiseAll_graph_other
    rw [reader']
    exact last
  rw [final, stored]
  refine ⟨rfl, ?_⟩
  simp [GraphInfo.sample, GraphInfo.after, ucdrDeserializeArrayUint8T]

/-! ## Answers -/

/-- What is left to decode once the callbacks are over. -/
theorem raiseAll_decodes (profile : cfg.graph = true) (s : State) (before after : List (Nat × SessionEvent))
    (received rest : List UInt8)
    (last : ∀ e ∈ after, e.1 = c → ∀ ub length, e.2 ≠ .topic (s.w.buf.graphInfo c).datareaderId ub length) :
    let sample := SessionEvent.topic (s.w.buf.graphInfo c).datareaderId (received ++ rest) received.length
    let graphInfo := (raiseAll cfg s (before ++ (c, sample) :: after)).w.buf.graphInfo c
    graphInfo.initialized = true ∧ rmwGraphFillDataFromBuffer cdr graphInfo =
      (readSequence cdr (readNode cdr) (0, received)).map fun r => ⟨r.1⟩ := by
  intro sample graphInfo
  obtain ⟨initialized, stored⟩ := raiseAll_graph profile s before after received rest last
  refine ⟨initialized, ?_⟩
  rw [rmwGraphFillDataFromBuffer_eq, stored]

/-- **The answers follow the agent's graph.** Callbacks of any kind are raised on any sessions, and the last of them
on the datareader of a context's graph brings `received`, which fits its buffer. If that is the encoding of a graph, every node of the context
counts the publishers and the subscribers of a topic in this very graph, and its endpoint infos list them; if it is
less than an encoding, the queries report an error and count nothing. -/
theorem graph_answers (profile : cfg.graph = true) (kinds : EntityKinds) (s : State)
    (before after : List (Nat × SessionEvent)) (received rest : List UInt8)
    (last : ∀ e ∈ after, e.1 = c → ∀ ub length, e.2 ≠ .topic (s.w.buf.graphInfo c).datareaderId ub length)
    {graph : Graph} (fits : graph.encoding.length < 2 ^ 32) (plain : graph.All ByteText)
    (short : graph.All Storable) {node : Nat}
    (handle : (s.w.ent.node.custom node).rmwNode = ⟨some .eprosimaMicroxrcedds, some node⟩)
    (own : (s.w.ent.node.custom node).context = some c) (topicName : CStr) (count : Nat) :
    let sample := SessionEvent.topic (s.w.buf.graphInfo c).datareaderId (received ++ rest) received.length
    let w := (raiseAll cfg s (before ++ (c, sample) :: after)).w
    (received = graph.encoding →
      rmwCountPublishers cfg cdr kinds w (some node) (some topicName) (some count) =
          some (.ok, some (graph.endpoints kinds.publisher topicName).length) ∧
        rmwCountSubscribers cfg cdr kinds w (some node) (some topicName) (some count) =
          some (.ok, some (graph.endpoints kinds.subscriber topicName).length) ∧
        ∀ allocator : Allocator, (∀ k, allocator k = true) →
          ((∀ pair ∈ graph.endpoints kinds.publisher topicName, pair.2.types ≠ []) →
            rmwGetPublishersInfoByTopic cfg cdr kinds w (some node) (some allocator) topicName (some []) =
              some (.ok, some ((graph.endpoints kinds.publisher topicName).map
                (endpointInfo kinds kinds.publisher)))) ∧
          ((∀ pair ∈ graph.endpoints kinds.subscriber topicName, pair.2.types ≠ []) →
            rmwGetSubscriptionsInfoByTopic cfg cdr kinds w (some node) (some allocator) topicName (some []) =
              some (.ok, some ((graph.endpoints kinds.subscriber topicName).map
                (endpointInfo kinds kinds.subscriber))))) ∧
      (received <+: graph.encoding → received ≠ graph.encoding →
        rmwCountPublishers cfg cdr kinds w (some node) (some topicName) (some count) = some (.error, some 0) ∧
          rmwCountSubscribers cfg cdr kinds w (some node) (some topicName) (some count) = some (.error, some 0)) := by
  intro sample w
  obtain ⟨initialized, decodes⟩ := raiseAll_decodes profile s before after received rest last
  have ent : w.ent = s.w.ent := raiseAll_ent s _
  rw [← ent] at handle own
  refine ⟨fun whole => ?_, fun cut ne => ?_⟩
  · have read := (Graph.inverts fits plain short).whole 0 []
    rw [List.append_nil] at read
    have decoded : rmwGraphFillDataFromBuffer cdr (w.buf.graphInfo c) = some graph := by
      refine Eq.trans decodes ?_
      rw [whole, Graph.encoding, read]
      rfl
    have found : HasSample cdr w node graph := ⟨handle, c, own, initialized, decoded⟩
    refine ⟨?_, ?_, fun allocator grants => ⟨fun typed => ?_, fun typed => ?_⟩⟩
    · rw [rmwCountPublishers, if_pos profile, rmwCountEntities_spec found]
    · rw [rmwCountSubscribers, if_pos profile, rmwCountEntities_spec found]
    · rw [rmwGetPublishersInfoByTopic, if_pos profile]
      exact (rmwGetEndpointInfoByTopic_iff kinds found _ topicName grants).2 typed
    · rw [rmwGetSubscriptionsInfoByTopic, if_pos profile]
      exact (rmwGetEndpointInfoByTopic_iff kinds found _ topicName grants).2 typed
  · have shorter : received.length < graph.encoding.length :=
      Nat.lt_of_le_of_ne cut.length_le fun same => ne (cut.eq_of_length same)
    have unread := (Graph.inverts fits plain short).cut 0 _ cut shorter
    rw [unread] at decodes
    have refused : ∀ kind, rmwCountEntities cdr kind w (some node) (some topicName) (some count) =
        some (.error, some 0) := by
      intro kind
      have info : w.graphInfoOf ⟨some .eprosimaMicroxrcedds, some node⟩ = some (w.buf.graphInfo c) := by
        simp [World.graphInfoOf, own]
      have started : (w.buf.graphInfo c).initialized = true := initialized
      have undecoded : rmwGraphFillDataFromBuffer cdr (w.buf.graphInfo c) = none := decodes
      simp [rmwCountEntities, handle, info, started, undecoded]
    constructor
    · rw [rmwCountPublishers, if_pos profile, refused]
    · rw [rmwCountSubscribers, if_pos profile, refused]

/-- A context with the graph, and a node. -/
def Small.graphNode : State := run Small.graphConfig [Small.init 0, Small.createNode 1]

/-- The small graph between callbacks on two sessions, whole and cut after twenty bytes. -/
theorem graph_answers_small :
    let reader := (Small.graphNode.w.buf.graphInfo 1).datareaderId
    let told := fun received : List UInt8 => (raiseAll Small.graphConfig Small.graphNode
      ([(1, .topic reader [1] 1)] ++ (1, .topic reader (received ++ [7]) received.length) ::
        [(0, .topic reader [2] 1), (1, .time 2)])).w
    let asked := fun w => rmwCountPublishers Small.graphConfig cdr Small.kinds w (some 1) (some ['t']) (some 5)
    asked (told (Small.graphOf 1).encoding) = some (.ok, some 1) ∧
      asked (told ((Small.graphOf 1).encoding.take 20)) = some (.error, some 0) := by
  intro reader told asked
  have last : ∀ e ∈ [((0 : Nat), SessionEvent.topic reader [2] 1), (1, .time 2)], e.1 = 1 →
      ∀ ub length, e.2 ≠ .topic reader ub length := by
    intro e mem mine ub length
    rcases List.mem_cons.1 mem with rfl | mem
    · exact absurd mine (by decide)
    · rw [List.mem_singleton.1 mem]
      exact SessionEvent.noConfusion
  have answers := fun received => @graph_answers Small.graphConfig 1 rfl Small.kinds Small.graphNode
    [(1, .topic reader [1] 1)] [(0, .topic reader [2] 1), (1, .time 2)] received [7] last (Small.graphOf 1)
    (by decide +kernel) (by decide +kernel) (by decide +kernel) 1 (by decide +kernel) (by decide +kernel) ['t'] 5
  have one : (Graph.endpoints (Small.graphOf 1) Small.kinds.publisher ['t']).length = 1 := by decide
  constructor
  · have counted := ((answers _).1 rfl).1
    rw [one] at counted
    exact counted
  · exact ((answers _).2 (List.take_prefix _ _) (by decide +kernel)).1

end RmwMicroxrcedds
