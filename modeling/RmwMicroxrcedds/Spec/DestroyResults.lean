import RmwMicroxrcedds.Proof.Verdicts

/-!
# Results of the destroy functions

A destroy function is to report a timeout as soon as one of the deletions it asks for is not
confirmed. The result of `destroy_topic` is dropped, and the loops over the entities of a node and
the nodes of a context keep the last result only. So a function reports what it should exactly if
the deletions it looks at in the end betray those it does not.
-/

namespace RmwMicroxrcedds
set_option autoImplicit false

open Reports

variable {cfg : Config}

/-! ## The functions -/

/-- The destroy functions with what they are given. -/
inductive Destroy where
  | publisher (node publisher : Nat)
  | subscription (node subscription : Nat)
  | service (node service : Nat)
  | client (node client : Nat)
  | node (node : Nat)
  | context (impl : Option Nat)

def Destroy.perform (cfg : Config) : Destroy → Prog RmwRet
  | .publisher n i => rmwDestroyPublisher cfg (some n) (some i)
  | .subscription n i => rmwDestroySubscription cfg (some n) (some i)
  | .service n i => rmwDestroyService cfg (some n) (some i)
  | .client n i => rmwDestroyClient cfg (some n) (some i)
  | .node n => rmwDestroyNode cfg (some n)
  | .context impl => rmwContextFini cfg impl

def Destroy.kind : Destroy → CallKind
  | .context _ => .shutdown
  | _ => .destroy

/-- All handles are in use. -/
def Destroy.Live (e : Entities) : Destroy → Prop
  | .publisher n i => n ∈ e.node.elements ∧ i ∈ e.publisher.elements
  | .subscription n i => n ∈ e.node.elements ∧ i ∈ e.subscription.elements
  | .service n i => n ∈ e.node.elements ∧ i ∈ e.service.elements
  | .client n i => n ∈ e.node.elements ∧ i ∈ e.client.elements
  | .node n => n ∈ e.node.elements
  | .context impl => ∀ c ∈ impl, c ∈ e.session.elements

instance (e : Entities) : (d : Destroy) → Decidable (d.Live e)
  | .publisher n i => inferInstanceAs (Decidable (n ∈ e.node.elements ∧ i ∈ e.publisher.elements))
  | .subscription n i => inferInstanceAs (Decidable (n ∈ e.node.elements ∧ i ∈ e.subscription.elements))
  | .service n i => inferInstanceAs (Decidable (n ∈ e.node.elements ∧ i ∈ e.service.elements))
  | .client n i => inferInstanceAs (Decidable (n ∈ e.node.elements ∧ i ∈ e.client.elements))
  | .node n => inferInstanceAs (Decidable (n ∈ e.node.elements))
  | .context impl => inferInstanceAs (Decidable (∀ c ∈ impl, c ∈ e.session.elements))

/-- The requests the function makes, and which of the answers count. -/
def Destroy.asks (e : Entities) : Destroy → List (Ask XrceRequest)
  | .publisher _ i => e.publisherAsks i
  | .subscription _ i => e.subscriptionAsks i
  | .service n i => e.singleAsks n (e.service.custom i).serviceId
  | .client n i => e.singleAsks n (e.client.custom i).clientId
  | .node n => (e.nodeAsks n).1
  | .context impl => e.contextAsks impl

/-! ## What they report -/

/-- The deletions asked for between two states, with whether they were confirmed. -/
def deletions (s t : State) : List (XrceRequest × Bool) :=
  (t.requests.take (t.requests.length - s.requests.length)).filter (·.1.deletes)

/-- The result tells whether all deletions were confirmed. -/
structure Tells (s : State) (r : RmwRet × State) : Prop where
  ok : r.1 = .ok ↔ ∀ q ∈ deletions s r.2, q.2 = true
  timeout : (∃ q ∈ deletions s r.2, q.2 = false) → r.1 = .timeout

instance (s : State) (r : RmwRet × State) : Decidable (Tells s r) :=
  decidable_of_iff ((r.1 = .ok ↔ ∀ q ∈ deletions s r.2, q.2 = true) ∧
    ((∃ q ∈ deletions s r.2, q.2 = false) → r.1 = .timeout))
    ⟨fun h => ⟨h.1, h.2⟩, fun h => ⟨h.ok, h.timeout⟩⟩

/-- If the answers that count are all positive, those to the other deletions are. -/
def Honest (as : List (Ask XrceRequest)) (answers : List Bool) : Prop :=
  (∀ p ∈ heard as answers, p.1.counts = true → p.2 = true) →
    ∀ p ∈ heard as answers, p.1.request.deletes = true → p.2 = true

theorem report_eq_ok {b : Bool} : report b = .ok ↔ b = true := by
  cases b <;> simp [report]

/-- A result that looks at deletions only. -/
theorem reports_iff {as : List (Ask XrceRequest)} {s : State} {r : RmwRet × State}
    (counted : ∀ a ∈ as, a.counts = true → a.request.deletes = true)
    (requests : r.2.requests =
      ((heard as s.answers).map fun p => (p.1.request, p.2)).reverse ++ s.requests)
    (ret : r.1 = report (verdict as s.answers)) : Tells s r ↔ Honest as s.answers := by
  have mem : ∀ q, q ∈ deletions s r.2 ↔
      ∃ p ∈ heard as s.answers, p.1.request.deletes = true ∧ (p.1.request, p.2) = q := fun q => by
    rw [deletions, requests, List.length_append, Nat.add_sub_cancel, List.take_left', List.mem_filter,
      List.mem_reverse, List.mem_map]
    · constructor
      · rintro ⟨⟨p, hp, rfl⟩, deletes⟩
        exact ⟨p, hp, deletes, rfl⟩
      · rintro ⟨p, hp, deletes, rfl⟩
        exact ⟨⟨p, hp, rfl⟩, deletes⟩
    · rfl
  have confirmed : (∀ q ∈ deletions s r.2, q.2 = true) ↔
      Confirmed XrceRequest.deletes as s.answers := by
    constructor
    · exact fun all p hp deletes => all _ ((mem _).2 ⟨p, hp, deletes, rfl⟩)
    · intro all q hq
      obtain ⟨p, hp, deletes, rfl⟩ := (mem q).1 hq
      exact all p hp deletes
  have ok : r.1 = .ok ↔ verdict as s.answers = true := by rw [ret, report_eq_ok]
  have honest : Honest as s.answers ↔
      (verdict as s.answers = true → Confirmed XrceRequest.deletes as s.answers) := by
    rw [verdict_iff]
    rfl
  have told : (verdict as s.answers = true ↔ Confirmed XrceRequest.deletes as s.answers) ↔ _ :=
    verdict_iff_confirmed_iff counted
  constructor
  · intro reports
    apply honest.2
    apply told.1
    rw [← ok, ← confirmed]
    exact reports.ok
  · intro h
    have agree := told.2 (honest.1 h)
    have exact_ : r.1 = .ok ↔ ∀ q ∈ deletions s r.2, q.2 = true := by rw [ok, confirmed, agree]
    refine ⟨exact_, fun ⟨q, hq, failed⟩ => ?_⟩
    have not : verdict as s.answers ≠ true := fun v => by
      have := exact_.1 (ok.2 v) q hq
      rw [failed] at this
      cases this
    rw [ret, report, if_neg not]

/-! ## Only deletions count -/

/-- An answer that counts is one to a deletion. -/
def CountsDeletions (as : List (Ask XrceRequest)) : Prop :=
  ∀ a ∈ as, a.counts = true → a.request.deletes = true

section Counts

variable {as bs : List (Ask XrceRequest)} (e : Entities)

theorem CountsDeletions.nil : CountsDeletions [] := fun _ h => nomatch h

theorem CountsDeletions.append (h : CountsDeletions as) (k : CountsDeletions bs) :
    CountsDeletions (as ++ bs) := fun a ha => (List.mem_append.1 ha).elim (h a) (k a)

theorem CountsDeletions.follow (k : CountsDeletions bs) : CountsDeletions (Reports.follow as bs) := by
  refine append (fun a ha counts => ?_) k
  obtain ⟨b, -, rfl⟩ := List.mem_map.1 ha
  cases counts

theorem topicAsks_counts (topic : Nat) : CountsDeletions (e.topicAsks topic) := by
  intro a ha counts
  unfold Entities.topicAsks at ha
  split at ha
  · cases ha
  · rw [List.mem_singleton.1 ha]
    rfl

theorem publisherAsks_counts (i : Nat) : CountsDeletions (e.publisherAsks i) := by
  apply (topicAsks_counts e _).append
  simp [CountsDeletions, Entities.ask, XrceRequest.deletes]

theorem subscriptionAsks_counts (i : Nat) : CountsDeletions (e.subscriptionAsks i) := by
  have first : CountsDeletions
      [e.ask (e.contextOf (deref (e.subscription.custom i).ownerNode))
        (.cancelData (e.subscription.custom i).datareaderId) false] := by
    simp [CountsDeletions, Entities.ask]
  apply first.append
  apply (topicAsks_counts e _).append
  simp [CountsDeletions, Entities.ask, XrceRequest.deletes]

theorem singleAsks_counts (node : Nat) (id : UxrObjectId) : CountsDeletions (e.singleAsks node id) := by
  simp [CountsDeletions, Entities.singleAsks, Entities.ask, XrceRequest.deletes]

theorem Piece.asks_counts (n : Nat) (p : Piece) : CountsDeletions (p.asks e n) := by
  cases p with
  | publisher i => exact publisherAsks_counts e i
  | subscription i => exact subscriptionAsks_counts e i
  | service i => exact singleAsks_counts e n _
  | client i => exact singleAsks_counts e n _

theorem piecesAsks_counts (n : Nat) (ps : List Piece) {done : List (Ask XrceRequest)}
    (h : CountsDeletions done) : CountsDeletions (piecesAsks n ps e done).1 := by
  induction ps generalizing e done with
  | nil => exact h
  | cons p ps ih => exact ih _ (p.asks_counts e n).follow

theorem nodeAsks_counts (n : Nat) : CountsDeletions (e.nodeAsks n).1 := by
  apply (piecesAsks_counts e n _ .nil).append
  simp [CountsDeletions, Entities.ask, XrceRequest.deletes]

theorem nodesAsks_counts (ns : List Nat) {done : List (Ask XrceRequest)} (h : CountsDeletions done) :
    CountsDeletions (nodesAsks ns e done) := by
  induction ns generalizing e done with
  | nil => exact h
  | cons n ns ih => exact ih _ (nodeAsks_counts e n).follow

theorem Destroy.asks_counts (d : Destroy) : CountsDeletions (d.asks e) := by
  cases d with
  | publisher n i => exact publisherAsks_counts e i
  | subscription n i => exact subscriptionAsks_counts e i
  | service n i => exact singleAsks_counts e n _
  | client n i => exact singleAsks_counts e n _
  | node n => exact nodeAsks_counts e n
  | context impl => exact nodesAsks_counts e _ .nil

end Counts

/-! ## The statement -/

/-- The functions ask and report as they are said to. -/
theorem Destroy.reports {s : State} (wf : Wf cfg s) {d : Destroy} (live : d.Live s.w.ent) :
    (d.perform cfg s).2.requests = ((heard (d.asks s.w.ent) s.answers).map
        fun p => (p.1.request, p.2)).reverse ++ s.requests ∧
      (d.perform cfg s).1 = report (verdict (d.asks s.w.ent) s.answers) := by
  have split : ∀ {as r}, Reported as s r → r.2.requests = ((heard as s.answers).map
      fun p => (p.1.request, p.2)).reverse ++ s.requests ∧ r.1 = report (verdict as s.answers) :=
    fun h => ⟨h.asks.requests, h.ret⟩
  cases d with
  | publisher n i => exact split (rmwDestroyPublisher_reports wf live.1 live.2)
  | subscription n i => exact split (rmwDestroySubscription_reports wf live.1 live.2)
  | service n i => exact split (rmwDestroyService_reports wf live.1 live.2)
  | client n i => exact split (rmwDestroyClient_reports wf live.1 live.2)
  | node n => exact split (rmwDestroyNode_reports wf live).1
  | context impl => exact rmwContextFini_reports wf impl

/-- **What a destroy function reports**, after every run and for all answers of the agent: it is
whether all deletions were confirmed exactly if the answers that count tell. -/
theorem destroy_reports_iff (cfg : Config) (is : List Step) (agent : List Answer) (d : Destroy)
    (live : d.Live (run cfg is).w.ent) :
    let s := { run cfg is with call := d.kind, agent := agent }
    Tells s (d.perform cfg s) ↔ Honest (d.asks s.w.ent) (agent.map (·.confirmed)) := by
  intro s
  have wf : Wf cfg s := { (run_path cfg is).2.wf with }
  obtain ⟨requests, ret⟩ := d.reports wf live
  exact reports_iff (d.asks_counts s.w.ent) requests ret

/-- Services and clients always report what they should. -/
theorem singleAsks_honest (e : Entities) (node : Nat) (id : UxrObjectId) (answers : List Bool) :
    Honest (e.singleAsks node id) answers := by
  intro counted p hp deletes
  apply counted p hp
  have own := mem_of_mem_heard _ _ hp
  simp only [Entities.singleAsks, List.mem_cons, List.not_mem_nil, or_false] at own
  rcases own with own | own
  · rw [own] at deletes
    cases deletes
  · rw [own]
    rfl

namespace Small

def answers (bs : List Bool) : List Answer := bs.map fun b => ⟨[], b⟩

/-- A publisher. -/
def withPublisher : List Step := [init 0, createNode 1, createPublisher typeSupport]

/-- Two services of one node. -/
def withServices : List Step := [init 0, createNode 1, createServiceOf 1, createServiceOf 1]

/-- Two nodes. -/
def withNodes : List Step := [init 0, createNode 1, createNode 1]

end Small

/-- The agent leaves the topic unconfirmed. -/
theorem destroy_reports_topic :
    let s := { run Small.config Small.withPublisher with
      call := .destroy, agent := Small.answers [false, true, true] }
    Tells s (rmwDestroyPublisher Small.config (some 1) (some 1) s) ↔
      Honest (s.w.ent.publisherAsks 1) [false, true, true] :=
  destroy_reports_iff Small.config Small.withPublisher (Small.answers [false, true, true])
    (.publisher 1 1) (by decide +kernel)

/-- The topic of a publisher, the first of two services of a node, the first of two nodes of a context
are left unconfirmed, and nothing is reported. -/
theorem destroy_hides_timeouts :
    let start := fun is bs => { run Small.config is with call := .destroy, agent := Small.answers bs }
    let s := start Small.withPublisher [false, true, true]
    let t := start Small.withServices [true, false, true, true, true]
    let u := start Small.withNodes [false, true]
    (rmwDestroyPublisher Small.config (some 1) (some 1) s).1 = .ok ∧
      ¬ Tells s (rmwDestroyPublisher Small.config (some 1) (some 1) s) ∧
      (rmwDestroyNode Small.config (some 1) t).1 = .ok ∧
      ¬ Tells t (rmwDestroyNode Small.config (some 1) t) ∧
      (rmwContextFini Small.config (some 1) u).1 = .ok ∧
      ¬ Tells u (rmwContextFini Small.config (some 1) u) := by
  decide +kernel

end RmwMicroxrcedds
