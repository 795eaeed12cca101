import RmwMicroxrcedds.Model.HandleCalls
import RmwMicroxrcedds.Proof.Receipts
import RmwMicroxrcedds.Spec.ExactExpiry

/-!
# Handles of destroyed entities

A destroyed entity leaves a handle with a NULL identifier and a NULL data pointer. Publications and
destructions compare the identifier and refuse it. The other functions let a NULL identifier pass: a take
then looks for a buffer owned by NULL, and there is none in a reachable state; a send follows the pointer.
-/

namespace RmwMicroxrcedds
set_option autoImplicit false

variable {cfg : Config}

/-! ## The labels of the buffers -/

/-! ## The calls -/

theorem takeThrough_run {β : Type} [Element β] {k : Kind β} {i : Nat} {take : Prog TakeResult}
    {s t : State} {r : TakeResult} (ran : takeThrough k i take s = (some r, t)) : take s = (r, t) := by
  rw [takeThrough, Prog.bind_run, readElement_run, Prog.bind_run] at ran
  dsimp only at ran
  split at ran
  · cases ran
  · cases ran
    rfl

/-- The loop is that of `rmw_take_sequence`. -/
theorem takeSequenceThrough_run {subscription : Nat} {cdrDeserialize : List UInt8 → Bool} (count : Nat)
    {last ret : RmwRet} {s t : State} (data : List (List UInt8))
    (ran : takeSequenceThrough subscription cdrDeserialize count last s = (some ret, t)) :
    (takeSequenceLoop subscription cdrDeserialize count last data s).1.1 = ret ∧
      (takeSequenceLoop subscription cdrDeserialize count last data s).2 = t := by
  induction count generalizing last s data with
  | zero =>
    cases ran
    exact ⟨rfl, rfl⟩
  | succ count ih =>
    rw [takeSequenceThrough, Prog.bind_run] at ran
    rw [takeSequenceLoop, Prog.bind_run]
    obtain ⟨found, u, took⟩ : ∃ found u,
        takeThrough .subscription subscription (rmwTakeWithInfo subscription cdrDeserialize) s = (found, u) :=
      ⟨_, _, rfl⟩
    rw [took] at ran
    cases found with
    | none => cases ran
    | some r =>
      rw [takeThrough_run took]
      dsimp only at ran ⊢
      by_cases stop : r.ret ≠ .ok ∨ r.taken = false
      · rw [if_pos stop] at ran ⊢
        cases ran
        exact ⟨rfl, rfl⟩
      · rw [if_neg stop] at ran ⊢
        exact ih _ ran

/-- What a take without a buffer comes back with. -/
def takeMissed : TakeResult := { ret := .error, taken := false, payload := none, header := .untouched }

section Takes

variable {s : State} (wf : Wf cfg s) (labelled : ∀ i ∈ s.queue, Labelled s i)
include wf labelled

/-- No buffer in use is owned by NULL, before and after a cleaning. -/
theorem find_null : rmwUxrceFindStaticInputBufferByOwner
    (rmwUxrceCleanExpiredStaticInputBuffer s).2.w.buf none = none := by
  obtain ⟨-, wf', cleaned⟩ := clean_spec wf
  by_contra found
  obtain ⟨i, found⟩ := Option.ne_none_iff_exists'.1 found
  obtain ⟨kept, null⟩ : i ∈ (rmwUxrceCleanExpiredStaticInputBuffer s).2.queue ∧
      ((rmwUxrceCleanExpiredStaticInputBuffer s).2.slot i).owner = none :=
    Buffers.Ok.find_mem wf'.staticBuffer found
  rw [cleaned.queue] at kept
  obtain ⟨o, owner, -⟩ := (labelled i (List.mem_of_mem_filter kept)).owner
  rw [← cleaned.slot] at owner
  cases owner.symm.trans null

variable {β : Type} [Element β] {k : Kind β} (handles : Handles (k.slots s.w.ent)) {i : Nat}
  (dead : i ∉ (k.slots s.w.ent).elements)
include handles dead

theorem takeFrom_dead (header : StaticInputBuffer → TakeHeader) (cdrDeserialize : List UInt8 → Bool) :
    takeFrom k i header cdrDeserialize s =
      (takeMissed, (rmwUxrceCleanExpiredStaticInputBuffer s).2) := by
  have handle := handles.of_not_mem dead
  have search : takeFrom k i header cdrDeserialize s = takeOldest none header cdrDeserialize s := by
    rw [takeFrom, Prog.bind_run, readElement_run]
    dsimp only
    rw [handle]
    rfl
  rw [search]
  rcases takeOldest_run wf none header cdrDeserialize with ⟨-, missed⟩ | ⟨item, found, -⟩
  · exact missed
  · cases (find_null wf labelled).symm.trans found

theorem takeThrough_dead (header : StaticInputBuffer → TakeHeader) (cdrDeserialize : List UInt8 → Bool) :
    takeThrough k i (takeFrom k i header cdrDeserialize) s =
      (some takeMissed, (rmwUxrceCleanExpiredStaticInputBuffer s).2) := by
  rw [takeThrough, Prog.bind_run, readElement_run, Prog.bind_run,
    takeFrom_dead wf labelled handles dead]
  simp only [takeMissed, ne_eq, not_true_eq_false, and_false, if_false]
  rfl

end Takes

/-- A sequence of takes ends with the first one. -/
theorem takeSequence_dead {s : State} (wf : Wf cfg s) (labelled : ∀ i ∈ s.queue, Labelled s i)
    {subscription : Nat} (dead : subscription ∉ s.w.ent.subscription.elements)
    (cdrDeserialize : List UInt8 → Bool) (count : Nat) :
    (HandleCall.takeSequence subscription (count + 1) cdrDeserialize).perform cfg s =
      (some .error, (rmwUxrceCleanExpiredStaticInputBuffer s).2) := by
  have handle : ((Kind.subscription.slots s.w.ent).custom subscription).rmwSubscription = ⟨none, none⟩ :=
    wf.subscriptionHandles.of_not_mem dead
  have missed : takeThrough .subscription subscription (rmwTakeWithInfo subscription cdrDeserialize) s =
      (some takeMissed, (rmwUxrceCleanExpiredStaticInputBuffer s).2) :=
    takeThrough_dead (k := .subscription) wf labelled wf.subscriptionHandles dead _ cdrDeserialize
  unfold HandleCall.perform
  dsimp only
  rw [Prog.bind_run, readElement_run]
  dsimp only
  rw [handle, if_neg (by simp), takeSequenceThrough, Prog.bind_run, missed]
  rfl

/-- A NULL identifier passes the check of a send. -/
theorem sendOn_dead {β : Type} [Element β] {k : Kind β} {s : State} (handles : Handles (k.slots s.w.ent))
    {i : Nat} (dead : i ∉ (k.slots s.w.ent).elements) (env : SendEnvironment)
    (ownerNode : β → Option Nat) (streamId : β → UxrStreamType) :
    sendOn cfg env k ownerNode streamId i s = (none, s) := by
  have handle := handles.of_not_mem dead
  rw [sendOn, Prog.bind_run, readElement_run]
  dsimp only
  rw [handle]
  rfl

theorem rmwPublish_dead {s : State} (wf : Wf cfg s) {i : Nat} (dead : i ∉ s.w.ent.publisher.elements)
    (env : SendEnvironment) : rmwPublish cfg env (some i) s = (.error, s) := by
  have handle : ((Kind.publisher.slots s.w.ent).custom i).rmwPublisher = ⟨none, none⟩ :=
    wf.publisherHandles.of_not_mem dead
  unfold rmwPublish
  dsimp only
  rw [Prog.bind_run, readElement_run]
  dsimp only
  rw [handle]
  rfl

/-- What a call does before it follows the data pointer of its handle. -/
inductive Precaution where
  /-- it wants the identifier to be that of this implementation -/
  | compares
  /-- it lets a NULL identifier pass, and looks for a buffer the pointer owns -/
  | searches
  /-- it lets a NULL identifier pass -/
  | trusts

def HandleCall.precaution : HandleCall → Precaution
  | .take .. | .takeSequence .. | .takeRequest .. | .takeResponse .. => .searches
  | .sendRequest .. | .sendResponse .. => .trusts
  | _ => .compares

/-- A sequence of takes has room for one. -/
def HandleCall.Counted : HandleCall → Prop
  | .takeSequence _ count _ => 0 < count
  | _ => True

/-- What becomes of a call on a dead handle. -/
def Precaution.outcome (s : State) : Precaution → Option RmwRet × State
  | .compares => (some .error, s)
  | .searches => (some .error, (rmwUxrceCleanExpiredStaticInputBuffer s).2)
  | .trusts => (none, s)

/-- A code that is handed on. -/
theorem handed {p : Prog RmwRet} {s t : State} {ret : RmwRet} (ran : p s = (ret, t)) :
    (p >>= fun ret => pure (some ret) : Prog (Option RmwRet)) s = (some ret, t) := by
  rw [Prog.bind_run, ran, Prog.pure_run]

theorem handed_missed {p : Prog (Option TakeResult)} {s t : State} (ran : p s = (some takeMissed, t)) :
    (p >>= fun r => pure (r.map (·.ret)) : Prog (Option RmwRet)) s = (some .error, t) := by
  rw [Prog.bind_run, ran, Prog.pure_run]
  rfl

theorem HandleCall.perform_dead {s : State} (wf : Wf cfg s) (labelled : ∀ i ∈ s.queue, Labelled s i)
    (c : HandleCall) (dead : c.slot ∉ c.inUse s.w.ent) (counted : c.Counted) :
    c.perform cfg s = c.precaution.outcome s := by
  -- a destruction that is not refused has found the entity in use
  have refused : ∀ {β : Type} {k : Kind β} {node : Option Nat} {i : Nat}, i ∉ (k.slots s.w.ent).elements →
      ∀ {p : Prog RmwRet}, BothInUse k s node (some i) ∨ p s = (.error, s) → p s = (.error, s) := by
    rintro β k node i dead p (⟨_, j, -, same, -, mem⟩ | same)
    · cases same
      exact absurd mem dead
    · exact same
  cases c with
  | publish env publisher => exact handed (rmwPublish_dead wf dead env)
  | take subscription cdrDeserialize =>
    exact handed_missed (takeThrough_dead (k := .subscription) wf labelled wf.subscriptionHandles dead _ _)
  | takeSequence subscription count cdrDeserialize =>
    obtain ⟨count, rfl⟩ := Nat.exists_eq_succ_of_ne_zero (Nat.pos_iff_ne_zero.1 counted)
    exact takeSequence_dead wf labelled dead cdrDeserialize count
  | sendRequest env client => exact sendOn_dead (k := .client) wf.clientHandles dead env _ _
  | takeRequest service cdrDeserialize =>
    exact handed_missed (takeThrough_dead (k := .service) wf labelled wf.serviceHandles dead _ _)
  | sendResponse env service => exact sendOn_dead (k := .service) wf.serviceHandles dead env _ _
  | takeResponse client cdrDeserialize =>
    exact handed_missed (takeThrough_dead (k := .client) wf labelled wf.clientHandles dead _ _)
  | destroyPublisher node publisher =>
    exact handed (refused dead (rmwDestroyPublisher_cases wf node (some publisher)))
  | destroySubscription node subscription =>
    exact handed (refused dead (rmwDestroySubscription_cases wf node (some subscription)))
  | destroyService node service =>
    exact handed (refused dead (rmwDestroyService_cases wf node (some service)))
  | destroyClient node client =>
    exact handed (refused dead (rmwDestroyClient_cases wf node (some client)))
  | destroyNode node =>
    apply handed
    apply rmwDestroyNode_refused wf
    rintro n same
    cases same
    exact dead

/-! ## What is left alone -/

/-- The message in the buffer belongs to a live entity and is not expired. -/
structure State.Current (s : State) (i : Nat) : Prop where
  queued : i ∈ s.queue
  live : ∃ o ∈ (s.slot i).owner, s.Alive o
  pending : ¬ s.PastDeadline (rmwUrosEpochNanos s.w) i

/-- The entities and the messages of the live ones. -/
structure Unharmed (s t : State) : Prop where
  pools : t.w.ent = s.w.ent
  queue : t.queue.Sublist s.queue
  messages : ∀ i, s.Current i → i ∈ t.queue ∧ t.slot i = s.slot i

theorem Unharmed.refl (s : State) : Unharmed s s :=
  ⟨rfl, List.Sublist.refl _, fun _ current => ⟨current.queued, rfl⟩⟩

/-- The cleaning judges every message of a live entity by its deadline. -/
def State.DeadlinesFit (s : State) : Prop :=
  ∀ i ∈ s.queue, (∃ o ∈ (s.slot i).owner, s.Alive o) → s.DeadlineFits (rmwUrosEpochNanos s.w) i

instance (s : State) : Decidable s.DeadlinesFit :=
  inferInstanceAs (Decidable (∀ i ∈ s.queue, (∃ o ∈ (s.slot i).owner, s.Alive o) → _))

/-- A cleaning leaves the messages that are not expired exactly while their deadlines fit. -/
theorem clean_unharmed_iff {s : State} (wf : Wf cfg s) (labelled : ∀ i ∈ s.queue, Labelled s i) :
    Unharmed s (rmwUxrceCleanExpiredStaticInputBuffer s).2 ↔ s.DeadlinesFit := by
  obtain ⟨-, -, cleaned⟩ := clean_spec wf
  have kept : ∀ i, i ∈ (rmwUxrceCleanExpiredStaticInputBuffer s).2.queue ↔
      i ∈ s.queue ∧ ¬ expired s.w.ent (rmwUrosEpochNanos s.w) (s.slot i) := by
    intro i
    rw [cleaned.queue, List.mem_filter, decide_eq_true_eq]
  have exact : ∀ i ∈ s.queue, (∃ o ∈ (s.slot i).owner, s.Alive o) →
      ((expired s.w.ent (rmwUrosEpochNanos s.w) (s.slot i) ↔ s.PastDeadline (rmwUrosEpochNanos s.w) i) ↔
        s.DeadlineFits (rmwUrosEpochNanos s.w) i) := by
    rintro i mem -
    exact expired_exact_iff (labelled i mem) (rmwUrosEpochNanos_le _)
  constructor
  · intro unharmed i mem live
    by_cases past : s.PastDeadline (rmwUrosEpochNanos s.w) i
    · intro _
      have nowFits := rmwUrosEpochNanos_le s.w
      rcases past with future | late
      · omega
      · omega
    · have stays := ((kept i).1 (unharmed.messages i ⟨mem, live, past⟩).1).2
      exact (exact i mem live).1 (iff_of_false stays past)
  · intro fit
    refine ⟨cleaned.ent, ?_, fun i current => ⟨?_, congrFun cleaned.slot i⟩⟩
    · rw [cleaned.queue]
      exact List.filter_sublist
    · have judged := (exact i current.queued current.live).2 (fit i current.queued current.live)
      exact (kept i).2 ⟨current.queued, fun late => current.pending (judged.1 late)⟩

/-- The call reports an error, and has left everything alone. -/
def HandleCall.Rejected (cfg : Config) (s : State) (c : HandleCall) : Prop :=
  ∃ ret t, c.perform cfg s = (some ret, t) ∧ ret ≠ .ok ∧ Unharmed s t

/-- What a call needs of the state to be rejected: a send cannot have it. -/
def Precaution.Suffices (s : State) : Precaution → Prop
  | .compares => True
  | .searches => s.DeadlinesFit
  | .trusts => False

/-- **Calls on dead handles** are rejected in every reachable state, except for the sends of a client or
a service, which follow a NULL pointer, and the takes at a time when the cleaning misjudges the deadline
of a message. -/
theorem dead_handle_rejected_iff (cfg : Config) (is : List Step) (c : HandleCall)
    (dead : c.slot ∉ c.inUse (run cfg is).w.ent) (counted : c.Counted) :
    c.Rejected cfg (run cfg is) ↔ c.precaution.Suffices (run cfg is) := by
  have wf := (run_path cfg is).2.wf
  have labelled := labelled_of_run cfg is
  unfold HandleCall.Rejected
  rw [c.perform_dead wf labelled dead counted]
  cases c.precaution with
  | compares => exact iff_of_true ⟨.error, _, rfl, by decide, .refl _⟩ trivial
  | searches =>
    rw [Precaution.Suffices, ← clean_unharmed_iff wf labelled]
    constructor
    · rintro ⟨ret, t, same, -, unharmed⟩
      cases same
      exact unharmed
    · intro unharmed
      exact ⟨.error, _, rfl, by decide, unharmed⟩
  | trusts =>
    refine iff_of_false ?_ id
    rintro ⟨ret, t, same, -⟩
    cases same

/-- Two subscriptions, each with a message, the second of which is then destroyed. -/
theorem dead_handle_rejected_take :
    let is := [Small.init 0, Small.createNode 1, Small.createSubscription 1 (Small.profile 1 ⟨0, 0⟩),
      Small.createSubscription 1 (Small.profile 1 ⟨0, 0⟩),
      Small.wait 1 [Small.sample 0 [7], Small.sample 1 [8]], Small.destroySubscription 1 1]
    let s := run Small.config is
    s.w.ent.subscription.elements = [0] ∧ s.queue.length = 2 ∧
      (HandleCall.takeSequence 1 2 fun _ => true).Rejected Small.config s := by
  intro is s
  refine ⟨by decide +kernel, by decide +kernel, ?_⟩
  exact (dead_handle_rejected_iff Small.config is (.takeSequence 1 2 fun _ => true) (by decide +kernel)
    (by decide : 0 < 2)).2 (by decide +kernel : s.DeadlinesFit)

/-- A request over a client and a response over a service that have been destroyed. -/
theorem dead_client_is_followed :
    let created := [Small.init 0, Small.createNode 1, Small.createServiceOf 1,
      ⟨.createClient (some 1) (some Small.serviceTypeSupport) (some ['s'])
        (some (Small.profile 1 ⟨0, 0⟩)) 1, Small.confirming⟩]
    let s := run Small.config (created ++ [⟨.destroyClient (some 1) (some 1), Small.confirming⟩,
      ⟨.destroyService (some 1) (some 1), Small.confirming⟩])
    let request := HandleCall.sendRequest ⟨true, 0, true⟩ 1
    let response := HandleCall.sendResponse ⟨true, 0, true⟩ 1
    (run Small.config created).w.ent.client.elements = [1] ∧
      (run Small.config created).w.ent.service.elements = [1] ∧
      request.slot ∉ request.inUse s.w.ent ∧ response.slot ∉ response.inUse s.w.ent ∧
      (request.perform Small.config s).1 = none ∧ (response.perform Small.config s).1 = none ∧
      ¬ request.Rejected Small.config s ∧ ¬ response.Rejected Small.config s := by
  intro created s request response
  have followed : (request.perform Small.config s).1 = none ∧
      (response.perform Small.config s).1 = none := by decide +kernel
  refine ⟨by decide +kernel, by decide +kernel, by decide +kernel, by decide +kernel, followed.1,
    followed.2, ?_, ?_⟩
  · rintro ⟨ret, t, ran, -⟩
    rw [ran] at followed
    cases followed.1
  · rintro ⟨ret, t, ran, -⟩
    rw [ran] at followed
    cases followed.2

end RmwMicroxrcedds
