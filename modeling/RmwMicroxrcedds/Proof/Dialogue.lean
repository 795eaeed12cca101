import RmwMicroxrcedds.Proof.Effects

/-!
# The dialogue with the agent

The requests of a run, with the answers they got, stand in its trace. Running a session consumes one
answer of the script and leaves the entities and the ids of the graph as they are; what a call asks
of the agent is therefore a list in front of what was asked before.
-/

namespace RmwMicroxrcedds
set_option autoImplicit false

variable {cfg : Config}

/-- A request of `run_xrce_session` and its answer. -/
def Act.ran? : Act → Option (XrceRequest × Bool)
  | .ran _ request confirmed => some (request, confirmed)
  | _ => none

/-- The request deletes an object. -/
def XrceRequest.deletes : XrceRequest → Bool
  | .deleteEntity _ => true
  | _ => false

/-- The requests made so far, the latest first. -/
def State.requests (s : State) : List (XrceRequest × Bool) := s.trace.filterMap (·.act.ran?)

/-- The objects the agent has confirmed since, as a list without regard to order and repetition:
creations that were confirmed, less what was deleted after them. The latest request comes first. -/
def agentObjects : List (XrceRequest × Bool) → List UxrObjectId
  | [] => []
  | (.create id _ _, true) :: rs => id :: agentObjects rs
  | (.deleteEntity id, true) :: rs => (agentObjects rs).filter (· ≠ id)
  | _ :: rs => agentObjects rs

/-- An object the agent has after `rs` was created by one of them, or was there before and has not
been deleted. -/
theorem mem_agentObjects_append {id : UxrObjectId} {rs old : List (XrceRequest × Bool)}
    (mem : id ∈ agentObjects (rs ++ old)) : (∃ p ts, (.create id p ts, true) ∈ rs) ∨
      (id ∈ agentObjects old ∧ (.deleteEntity id, true) ∉ rs) := by
  have skip : ∀ {r : XrceRequest × Bool} {rs}, r ≠ (.deleteEntity id, true) →
      ((∃ p ts, (.create id p ts, true) ∈ rs) ∨
        (id ∈ agentObjects old ∧ (.deleteEntity id, true) ∉ rs)) →
      ((∃ p ts, (.create id p ts, true) ∈ r :: rs) ∨
        (id ∈ agentObjects old ∧ (.deleteEntity id, true) ∉ r :: rs)) := by
    rintro r rs ne (⟨p, ts, mem⟩ | ⟨mem, kept⟩)
    · exact .inl ⟨p, ts, List.mem_cons_of_mem _ mem⟩
    · refine .inr ⟨mem, fun deleted => ?_⟩
      rcases List.mem_cons.1 deleted with e | deleted
      · exact ne e.symm
      · exact kept deleted
  induction rs with
  | nil => exact .inr ⟨mem, by simp⟩
  | cons r rs ih =>
    obtain ⟨request, confirmed⟩ := r
    cases request with
    | create id' p ts =>
      cases confirmed with
      | false => exact skip (by simp) (ih mem)
      | true =>
        rcases List.mem_cons.1 mem with rfl | mem
        · exact .inl ⟨p, ts, List.mem_cons_self⟩
        · exact skip (by simp) (ih mem)
    | deleteEntity id' =>
      cases confirmed with
      | false => exact skip (by simp) (ih mem)
      | true =>
        obtain ⟨mem, ne⟩ := List.mem_filter.1 mem
        exact skip (by simpa using fun e => of_decide_eq_true ne e.symm) (ih mem)
    | createGraph ids => exact skip (by simp) (ih (by simpa [agentObjects] using mem))
    | cancelData id' => exact skip (by simp) (ih (by simpa [agentObjects] using mem))

/-- Whether the agent confirms what is asked next. -/
def confirms (agent : List Answer) : Bool := (agent.head?.map (·.confirmed)).getD false

/-- The ids of the graph entities. -/
def GraphInfo.id (g : GraphInfo) : ObjectKind → List Nat
  | .participant => [g.participantId.id]
  | .subscriber => [g.subscriberId.id]
  | .topic => [g.topicId.id]
  | .datareader => [g.datareaderId.id]
  | _ => []

/-- The graph entities keep their ids. -/
def SameGraph (s t : State) : Prop := ∀ c, (t.w.buf.graphInfo c).id = (s.w.buf.graphInfo c).id

/-- What the callbacks of a session run leave as it is. -/
structure Overheard (s t : State) : Prop where
  ent : t.w.ent = s.w.ent
  graph : SameGraph s t
  requests : t.requests = s.requests
  agent : t.agent = s.agent

theorem Overheard.refl (s : State) : Overheard s s := ⟨rfl, fun _ => rfl, rfl, rfl⟩

theorem Overheard.trans {s t u : State} (h : Overheard s t) (k : Overheard t u) : Overheard s u :=
  ⟨k.ent.trans h.ent, fun c => (k.graph c).trans (h.graph c), k.requests.trans h.requests,
    k.agent.trans h.agent⟩

/-! ## Callbacks -/

theorem getBuffer_graphInfo (b : Buffers) (entity : Owner) (qos : RmwQosProfile) :
    (rmwUxrceGetStaticInputBufferForEntity b entity qos).2.graphInfo = b.graphInfo := by
  unfold rmwUxrceGetStaticInputBufferForEntity
  dsimp only
  split <;> split <;> rfl

theorem receive_graphInfo (w : World) (o : Owner) (qos : RmwQosProfile) (type : EntityType)
    (related : Option Related) (ub : List UInt8) (length : Nat) :
    (receive w o qos type related ub length).1.buf.graphInfo = w.buf.graphInfo := by
  have got := getBuffer_graphInfo w.buf o qos
  unfold receive
  split
  · rename_i h
    rw [h] at got
    exact got
  · rename_i h
    rw [h] at got
    dsimp only
    split <;> exact got

theorem onGraph_id (session : Nat) (ub : List UInt8) (length : Nat) (w : World) (c : Nat) :
    ((onGraph session ub length w).buf.graphInfo c).id = (w.buf.graphInfo c).id := by
  unfold onGraph
  dsimp only
  by_cases e : c = session
  · rw [e, setAt_self]
    rfl
  · rw [setAt_of_ne _ _ e]

theorem callback_graph (cfg : Config) (session : Nat) (ev : SessionEvent) (w : World) (c : Nat) :
    ((callback cfg session ev w).1.buf.graphInfo c).id = (w.buf.graphInfo c).id := by
  cases ev with
  | time d => rfl
  | topic objectId ub length =>
    simp only [callback, onTopic]
    split
    · exact onGraph_id ..
    · split
      · rfl
      · rw [receive_graphInfo]
  | request requestId sampleId ub length =>
    simp only [callback, onRequest]
    split
    · rfl
    · rw [receive_graphInfo]
  | reply requestId replyId ub length =>
    simp only [callback, onReply]
    split
    · rfl
    · rw [receive_graphInfo]

theorem raise_overheard (cfg : Config) (session : Nat) (s : State) (ev : SessionEvent) :
    Overheard s (raise cfg session s ev) := by
  by_cases route : ev.route = none
  · cases ev with
    | time d => exact ⟨rfl, fun _ => rfl, rfl, rfl⟩
    | _ => simp [SessionEvent.route] at route
  · rw [raise_eq s session route]
    exact ⟨callback_ent .., fun c => callback_graph cfg session ev s.w c, rfl, rfl⟩

theorem raise_foldl_overheard (cfg : Config) (session : Nat) (evs : List SessionEvent) (s : State) :
    Overheard s (evs.foldl (raise cfg session) s) := by
  induction evs generalizing s with
  | nil => exact .refl s
  | cons ev evs ih => exact (raise_overheard cfg session s ev).trans (ih _)

/-! ## Session runs -/

/-- A session run takes one answer from the script. -/
theorem uxrRunSession_spec (cfg : Config) (session : Nat) (s : State) :
    let r := uxrRunSession cfg session s
    r.1 = confirms s.agent ∧ r.2.w.ent = s.w.ent ∧ SameGraph s r.2 ∧ r.2.requests = s.requests ∧
      r.2.agent = s.agent.tail := by
  have answer : (nextAnswer s).1.confirmed = confirms s.agent ∧
      (nextAnswer s).2 = { s with agent := s.agent.tail } := by
    cases h : s.agent with
    | nil =>
      simp only [nextAnswer, bind, StateT.bind, get, getThe, MonadStateOf.get, StateT.get, pure, h]
      exact ⟨rfl, by rw [List.tail_nil, ← h]; rfl⟩
    | cons a rest =>
      simp only [nextAnswer, bind, StateT.bind, get, getThe, MonadStateOf.get, StateT.get, pure, h]
      exact ⟨rfl, rfl⟩
  obtain ⟨confirmed, taken⟩ := answer
  have heard := raise_foldl_overheard cfg session (nextAnswer s).1.events (nextAnswer s).2
  intro r
  have run : r.2 = (nextAnswer s).1.events.foldl (raise cfg session) (nextAnswer s).2 := rfl
  rw [← run, taken] at heard
  exact ⟨confirmed, heard.ent, heard.graph, heard.requests, heard.agent⟩

/-- A session run records callbacks only. -/
theorem uxrRunSession_trace {α : Type} {f : Moment → Option α}
    (silent : ∀ m session ev, m.act = .callback session ev → f m = none) (cfg : Config) (session : Nat)
    (s : State) : (uxrRunSession cfg session s).2.trace.filterMap f = s.trace.filterMap f := by
  have raised : ∀ (s : State) (ev : SessionEvent),
      (raise cfg session s ev).trace.filterMap f = s.trace.filterMap f := by
    intro s ev
    cases ev with
    | time d => rfl
    | _ => exact List.filterMap_cons_none (silent _ session _ rfl)
  have folded : ∀ (evs : List SessionEvent) (s : State),
      (evs.foldl (raise cfg session) s).trace.filterMap f = s.trace.filterMap f := by
    intro evs
    induction evs with
    | nil => exact fun _ => rfl
    | cons ev evs ih => exact fun s => (ih _).trans (raised s ev)
  have answered : (nextAnswer s).2.trace = s.trace := by
    cases h : s.agent with
    | nil =>
      simp only [nextAnswer, bind, StateT.bind, get, getThe, MonadStateOf.get, StateT.get, pure, h]
      rfl
    | cons a rest =>
      simp only [nextAnswer, bind, StateT.bind, get, getThe, MonadStateOf.get, StateT.get, pure, h]
      rfl
  exact (folded _ _).trans (congrArg (List.filterMap f) answered)

/-- What the answer to a request leaves as it is. -/
structure Asked (request : XrceRequest) (confirmed : Bool) (s t : State) : Prop where
  ent : t.w.ent = s.w.ent
  graph : SameGraph s t
  requests : t.requests = (request, confirmed) :: s.requests

/-- `run_xrce_session`. -/
theorem runXrceSession_spec (cfg : Config) (context : Nat) (stream : UxrStreamType)
    (request : XrceRequest) (s : State) :
    let r := runXrceSession cfg context stream request s
    Asked request r.1 s r.2 ∧
      (stream ≠ .bestEffort → r.1 = confirms s.agent ∧ r.2.agent = s.agent.tail) := by
  intro r
  by_cases h : stream = .bestEffort
  · have run : r = (true, s.record (.ran context request true)) := by
      simp only [r, runXrceSession, h, if_true]
      rfl
    rw [run]
    exact ⟨⟨rfl, fun _ => rfl, rfl⟩, fun ne => absurd h ne⟩
  · obtain ⟨confirmed, ent, graph, requests, agent⟩ := uxrRunSession_spec cfg context s
    have run : r = ((uxrRunSession cfg context s).1,
        (uxrRunSession cfg context s).2.record (.ran context request (uxrRunSession cfg context s).1)) := by
      simp only [r, runXrceSession, h, if_false]
      rfl
    rw [run]
    refine ⟨⟨ent, graph, ?_⟩, fun _ => ⟨confirmed, agent⟩⟩
    rw [← requests]
    rfl

end RmwMicroxrcedds
