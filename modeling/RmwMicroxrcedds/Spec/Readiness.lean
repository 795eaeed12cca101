import RmwMicroxrcedds.Proof.Replay
import RmwMicroxrcedds.Spec.ExactExpiry
import RmwMicroxrcedds.Spec.WaitReports

/-!
# Ready entities and the takes that follow

`rmw_wait` releases the expired messages before it runs the sessions and looks for messages
afterwards; a take releases the expired ones again. What the wait reports can be taken exactly if
one of the messages lasts: it was unexpired when the wait began or came in during it, nothing is given
its buffer afterwards, and the reading on return lies between its timestamp and its deadline, which 64
bits can hold.
-/

namespace RmwMicroxrcedds
set_option autoImplicit false

variable {cfg : Config}

/-- The take of an entity, with a type support that accepts every payload. -/
def Owner.take (o : Owner) : Call := o.takeWith fun _ => true

/-- The entry of the entity is not NULL. -/
def WaitSet.Leaves (set : WaitSet (Option Nat)) : Owner → Prop
  | .subscription i => some i ∈ set.subscriptions.getD []
  | .service i => some i ∈ set.services.getD []
  | .client i => some i ∈ set.clients.getD []

instance (set : WaitSet (Option Nat)) (o : Owner) : Decidable (set.Leaves o) :=
  match o with
  | .subscription i => inferInstanceAs (Decidable (some i ∈ set.subscriptions.getD []))
  | .service i => inferInstanceAs (Decidable (some i ∈ set.services.getD []))
  | .client i => inferInstanceAs (Decidable (some i ∈ set.clients.getD []))

/-- The result of a call that is a take. -/
def Reply.took? : Reply → Option TakeResult
  | .took r => some r
  | _ => Option.none

/-- A take succeeds. -/
def Takes (cfg : Config) (s : State) (o : Owner) : Prop :=
  ∃ r ∈ (call cfg s ⟨o.take, []⟩).1.took?, r.ret = .ok ∧ r.taken = true

instance (cfg : Config) (s : State) (o : Owner) : Decidable (Takes cfg s o) :=
  inferInstanceAs (Decidable (∃ r ∈ (call cfg s ⟨o.take, []⟩).1.took?, _))

/-- The reading when the clock of the client shows `nanos`. -/
def State.readingAt (s : State) (nanos : Int) : Int := rmwUrosEpochNanos { s.w with uxrNanos := nanos }

/-- A message that lives for `lifespan` has come and is not past its deadline, which 64 bits can hold. -/
def Lasts (lifespan nowNs timestamp : Int) : Prop :=
  timestamp ≤ nowNs ∧ nowNs ≤ timestamp + lifespan ∧ timestamp + lifespan ≤ Machine64.int64Max

instance (lifespan nowNs timestamp : Int) : Decidable (Lasts lifespan nowNs timestamp) :=
  inferInstanceAs (Decidable (_ ∧ _ ∧ _))

/-- The message in a buffer, if it lasts. -/
def State.lasting (s : State) (i : Nat) : Option (Option Owner × Int) :=
  (s.w.buf.message i).filter fun message =>
    Lasts ((message.1.map s.w.ent.lifespanOf).getD 0) (rmwUrosEpochNanos s.w) message.2

/-- A message of the entity lasts until the clock shows `nanos`: one that lasts in `s` already, or that
one of the moments `l` since then brings, and whose buffer no later one of them is given. -/
def LastsThrough (cfg : Config) (s : State) (l : List Moment) (nanos : Int) (o : Owner) : Prop :=
  ∃ i timestamp, messageAfter cfg i (s.lasting i) l = some (some o, timestamp) ∧
    Lasts (s.w.ent.lifespanOf o) (s.readingAt nanos) timestamp

/-- The cleaning of a take leaves a message of the entity. -/
def Unexpired (s : State) (o : Owner) : Prop :=
  ∃ i ∈ s.queue, (s.slot i).owner = some o ∧
    ¬ expired s.w.ent (rmwUrosEpochNanos s.w) (s.slot i)

instance (s : State) (o : Owner) : Decidable (Unexpired s o) :=
  inferInstanceAs (Decidable (∃ i ∈ s.queue, _))

/-- What the cleaning leaves is what lasts. -/
theorem not_expired_lasts {s : State} {i : Nat} (labelled : Labelled s i) :
    ¬ expired s.w.ent (rmwUrosEpochNanos s.w) (s.slot i) ↔
      Lasts (((s.slot i).owner.map s.w.ent.lifespanOf).getD 0) (rmwUrosEpochNanos s.w)
        (s.slot i).timestamp := by
  rw [not_expired_iff labelled (rmwUrosEpochNanos_le _)]
  unfold State.PastDeadline State.DeadlineFits State.deadline Lasts
  omega

theorem unexpired_iff {s : State} (labelled : ∀ i ∈ s.queue, Labelled s i) (o : Owner) :
    Unexpired s o ↔ ∃ i timestamp, s.w.buf.message i = some (some o, timestamp) ∧
      Lasts (s.w.ent.lifespanOf o) (rmwUrosEpochNanos s.w) timestamp := by
  constructor
  · rintro ⟨i, queued, owner, fresh⟩
    refine ⟨i, (s.slot i).timestamp, ?_, ?_⟩
    · exact (if_pos queued).trans (congrArg some (Prod.ext owner rfl))
    · have lasts := (not_expired_lasts (labelled i queued)).1 fresh
      rwa [owner] at lasts
  · rintro ⟨i, timestamp, message, lasts⟩
    rw [Buffers.message] at message
    split at message
    · rename_i queued
      obtain ⟨owner, rfl⟩ := Prod.mk.inj (Option.some.inj message)
      refine ⟨i, queued, owner, (not_expired_lasts (labelled i queued)).2 ?_⟩
      rw [show (s.slot i).owner = some o from owner]
      exact lasts
    · cases message

/-! ## Takes of entities in use -/

/-- A take on an owner that is searched for by its own address succeeds if and only if it has an
unexpired message. -/
theorem takeOldest_ok_iff {s : State} (wf : Wf cfg s) (o : Owner)
    (header : StaticInputBuffer → TakeHeader) :
    ((takeOldest (some o) header (fun _ => true) s).1.ret = .ok ∧
      (takeOldest (some o) header (fun _ => true) s).1.taken = true) ↔ Unexpired s o := by
  obtain ⟨-, wf', cleaned⟩ := clean_spec wf
  have none_iff := Buffers.Ok.find_none (o := o) wf'.staticBuffer
  rcases takeOldest_run wf (some o) header fun _ => true with ⟨none, e⟩ | ⟨i, -, queued, same, e⟩
  · have late := none_iff.1 none
    simp only [e, reduceCtorEq, Bool.false_eq_true, and_false, false_iff]
    rintro ⟨i, hi, owner, fresh⟩
    have kept : i ∈ (rmwUxrceCleanExpiredStaticInputBuffer s).2.queue := by
      rw [cleaned.queue]
      exact List.mem_filter.2 ⟨hi, by simpa using fresh⟩
    have mem : i ∈ (rmwUxrceCleanExpiredStaticInputBuffer s).2.w.buf.ofOwner o :=
      Buffers.mem_ofOwner.2 ⟨kept,
        (congrArg StaticInputBuffer.owner (congrFun cleaned.slot i)).trans owner⟩
    have stamp := late i mem
    rw [show (rmwUxrceCleanExpiredStaticInputBuffer s).2.w.buf.slot i = s.slot i from
      congrFun cleaned.slot i] at stamp
    exact absurd (timestamp_lt_of_unexpired fresh) (not_lt.2 stamp)
  · simp only [e, if_true, and_self, true_iff]
    rw [cleaned.queue, List.mem_filter] at queued
    refine ⟨i, queued.1, ?_, by simpa using queued.2⟩
    rw [← cleaned.slot, same]

/-- The same for the take functions, on a handle in use. -/
theorem takeFrom_ok_iff {β : Type} [Element β] {k : Kind β} {s : State} (wf : Wf cfg s)
    (handles : Handles (k.slots s.w.ent)) {i : Nat} (hi : i ∈ (k.slots s.w.ent).elements)
    {o : Owner} (owner : k.owner i = some o) (header : StaticInputBuffer → TakeHeader) :
    ((takeFrom k i header (fun _ => true) s).1.ret = .ok ∧
      (takeFrom k i header (fun _ => true) s).1.taken = true) ↔ Unexpired s o := by
  rw [takeFrom_run handles hi owner]
  exact takeOldest_ok_iff wf o header

/-- A take on an entity in use succeeds if and only if it has an unexpired message. -/
theorem takes_iff {s : State} (wf : Wf cfg s) {o : Owner} (alive : s.Alive o) :
    Takes cfg s o ↔ Unexpired s o := by
  have result : ∀ {r : TakeResult}, (∃ r' ∈ (Reply.took r).took?, r'.ret = .ok ∧ r'.taken = true) ↔
      r.ret = .ok ∧ r.taken = true := fun {r} =>
    ⟨fun ⟨_, e, h⟩ => Option.some.inj e ▸ h, fun h => ⟨r, rfl, h⟩⟩
  have wf' : ∀ i, Wf cfg (s.enter i) := fun _ => { wf with }
  cases o with
  | subscription i =>
    exact result.trans (takeFrom_ok_iff (k := .subscription) (wf' ⟨.take i _, []⟩)
      wf.subscriptionHandles alive rfl _)
  | service i =>
    exact result.trans (takeFrom_ok_iff (k := .service) (wf' ⟨.takeRequest i _, []⟩)
      wf.serviceHandles alive rfl _)
  | client i =>
    exact result.trans (takeFrom_ok_iff (k := .client) (wf' ⟨.takeResponse i _, []⟩)
      wf.clientHandles alive rfl _)

/-! ## Waits -/

theorem mem_of_readyEntries {b : Buffers} {owner : Nat → Owner} {entries : Option (List Nat)}
    {i : Nat} (h : some i ∈ (readyEntries b owner entries).getD []) : i ∈ entries.getD [] := by
  cases entries with
  | none => simp [readyEntries] at h
  | some l =>
    simp only [readyEntries, Option.map_some, Option.getD_some, List.mem_map] at h
    obtain ⟨j, hj, e⟩ := h
    split at e
    · exact Option.some.inj e ▸ hj
    · cases e

/-- The entries a wait leaves are entries it was given. -/
theorem rmwWait_leaves {s : State} {set : WaitSet Nat} {waitTimeout : Option RmwTime} {o : Owner}
    (h : (rmwWait cfg set waitTimeout s).1.2.Leaves o) :
    match o with
    | .subscription i => i ∈ set.subscriptions.getD []
    | .service i => i ∈ set.services.getD []
    | .client i => i ∈ set.clients.getD [] := by
  rw [rmwWait] at h
  split at h
  · cases o <;> cases h
  · cases o <;> exact mem_of_readyEntries h

/-- Lifespans and offsets of the clock are the same. -/
structure SameTimes (s t : State) : Prop where
  qos : ∀ o, t.w.ent.qos o = s.w.ent.qos o
  reading : ∀ nanos, t.readingAt nanos = s.readingAt nanos

theorem SameTimes.lifespanOf {s t : State} (h : SameTimes s t) (o : Owner) :
    t.w.ent.lifespanOf o = s.w.ent.lifespanOf o := by
  rw [Entities.lifespanOf, Entities.lifespanOf, h.qos]

theorem sameTimes_checkGuardConditions (entries : List Nat) (s : State) :
    SameTimes s (checkGuardConditions entries s).2 := by
  induction entries generalizing s with
  | nil => exact ⟨fun _ => rfl, fun _ => rfl⟩
  | cons i rest ih =>
    rw [checkGuardConditions_cons]
    obtain ⟨qos, reading⟩ := ih (resetGuard i s)
    refine ⟨fun o => (qos o).trans ?_, fun nanos => (reading nanos).trans rfl⟩
    cases o <;> rfl

theorem Entities.flagged_timeOffset (e : Entities) (set : WaitSet Nat) (c : Nat) :
    ((e.flagged set).session.custom c).timeOffset = (e.session.custom c).timeOffset := by
  simp only [flagged, mapSessions]
  split <;> split <;> rfl

theorem sameTimes_waitSessions (set : WaitSet Nat) (waitTimeout : Option RmwTime) (s : State) :
    SameTimes s (waitSessions cfg set waitTimeout s).2 := by
  obtain ⟨ent, -⟩ := @waitSessions_spec cfg set waitTimeout s
  constructor
  · intro o
    rw [ent]
    cases o <;> rfl
  · intro nanos
    rw [State.readingAt, State.readingAt, rmwUrosEpochNanos, rmwUrosEpochNanos]
    simp only [ent, Entities.flagged_timeOffset]
    rfl

/-- A wait changes neither lifespans nor offsets. -/
theorem sameTimes_rmwWait {set : WaitSet Nat} (present : ¬ set.Absent) (waitTimeout : Option RmwTime)
    (s : State) : SameTimes s (rmwWait cfg set waitTimeout s).2 := by
  rw [rmwWait_present present]
  have ran := @sameTimes_waitSessions cfg set waitTimeout s
  have checked := sameTimes_checkGuardConditions (set.guardConditions.getD [])
    (waitSessions cfg set waitTimeout s).2
  constructor
  · exact fun o => (checked.qos o).trans (ran.qos o)
  · exact fun nanos => (checked.reading nanos).trans (ran.reading nanos)

/-- The messages that a cleaning leaves are those that last. -/
theorem clean_message {s : State} (wf : Wf cfg s) (labelled : ∀ i ∈ s.queue, Labelled s i) (i : Nat) :
    (rmwUxrceCleanExpiredStaticInputBuffer s).2.w.buf.message i = s.lasting i := by
  obtain ⟨-, -, cleaned⟩ := clean_spec wf
  have slot : ∀ j, (rmwUxrceCleanExpiredStaticInputBuffer s).2.w.buf.slot j = s.w.buf.slot j :=
    congrFun cleaned.slot
  have kept : i ∈ (rmwUxrceCleanExpiredStaticInputBuffer s).2.w.buf.queue ↔
      i ∈ s.queue ∧ ¬ expired s.w.ent (rmwUrosEpochNanos s.w) (s.slot i) := by
    rw [show (rmwUxrceCleanExpiredStaticInputBuffer s).2.w.buf.queue = _ from cleaned.queue,
      List.mem_filter, decide_eq_true_iff]
  rw [State.lasting, Buffers.message, Buffers.message, slot]
  by_cases queued : i ∈ s.w.buf.queue
  · have lasts := not_expired_lasts (labelled i queued)
    rw [if_pos queued, Option.filter_some]
    refine if_congr ?_ rfl rfl
    rw [kept, and_iff_right (show i ∈ s.queue from queued), decide_eq_true_iff]
    exact lasts
  · rw [if_neg fun mem => queued (kept.1 mem).1, if_neg queued]
    rfl

/-- What is in a buffer after a wait is what lasted until the cleaning, or what came in. -/
theorem rmwWait_message {s : State} (wf : Wf cfg s) (labelled : ∀ i ∈ s.queue, Labelled s i)
    {set : WaitSet Nat} (present : ¬ set.Absent) (waitTimeout : Option RmwTime) (i : Nat) :
    let t := (rmwWait cfg set waitTimeout s).2
    t.w.buf.message i = messageAfter cfg i (s.lasting i) (t.since s) := by
  intro t
  obtain ⟨expiries, wf', -⟩ := clean_spec wf
  obtain ⟨path, -, silent⟩ := @rmwWait_unreleased cfg set present waitTimeout s wf'
  have quiet : (rmwUxrceCleanExpiredStaticInputBuffer s).2.trace.filterMap (·.act.callback?) =
      s.trace.filterMap (·.act.callback?) :=
    clean_trace (fun m i act => by rw [act]; rfl) s
  obtain ⟨l, e⟩ := Path.trace_mono path
  obtain ⟨l₀, e₀⟩ := Path.trace_mono expiries
  rw [← e, List.filterMap_append] at silent
  rw [← e₀, List.filterMap_append] at quiet
  have unreleased := List.filterMap_eq_nil_iff.1 (List.append_left_eq_self.1 silent)
  have none := List.filterMap_eq_nil_iff.1 (List.append_left_eq_self.1 quiet)
  rw [Path.message path e.symm unreleased i, clean_message wf labelled,
    State.since_eq (l := l ++ l₀) (by rw [List.append_assoc, e₀, e]), messageAfter_append, messageAfter_quiet none]

/-- **A ready entity can be taken from** exactly if one of its messages lasts until `rmw_wait` returns:
it was queued before and unexpired then, or came in during the wait; no later message is given its
buffer; and the reading on return is not past its deadline, which 64 bits can hold. -/
theorem ready_takes_iff (is : List Step) (set : WaitSet Nat) (waitTimeout : Option RmwTime)
    (agent : List Answer) {ret : RmwRet} {left : WaitSet (Option Nat)}
    (returned : (call cfg (run cfg is) ⟨.wait set waitTimeout, agent⟩).1 = .waited ret left)
    {o : Owner} (ready : left.Leaves o) :
    let s := run cfg is
    let t := run cfg (is ++ [⟨.wait set waitTimeout, agent⟩])
    Takes cfg t o ↔ LastsThrough cfg s (t.since s) t.w.uxrNanos o := by
  intro s t
  have labelled := labelled_of_run cfg
  have wf : Wf cfg (s.enter ⟨.wait set waitTimeout, agent⟩) := { (run_path cfg is).2.wf with }
  have result : t = (call cfg s ⟨.wait set waitTimeout, agent⟩).2 := run_concat ..
  rw [call] at returned result
  split at returned
  · rename_i defined
    rw [if_pos defined] at result
    obtain ⟨rfl, rfl⟩ := Reply.waited.inj returned
    have given := rmwWait_leaves ready
    have present : ¬ set.Absent := by
      rintro ⟨services, clients, subscriptions, -⟩
      cases o <;> simp [services, clients, subscriptions] at given
    have after : t = (rmwWait cfg set waitTimeout (s.enter ⟨.wait set waitTimeout, agent⟩)).2 := result
    have times : SameTimes s t := by
      rw [after]
      obtain ⟨qos, reading⟩ := @sameTimes_rmwWait cfg set present waitTimeout
        (s.enter ⟨.wait set waitTimeout, agent⟩)
      exact ⟨qos, reading⟩
    have message : ∀ i, t.w.buf.message i = messageAfter cfg i (s.lasting i) (t.since s) :=
      after ▸ rmwWait_message wf (fun i mem => { labelled is i mem with }) present waitTimeout
    have alive : t.Alive o := by
      obtain ⟨-, -, benign⟩ := (calm_rmwWait set waitTimeout : Calm cfg _).run _ wf
      rw [after]
      refine (benign.alive o).2 ?_
      simp only [Call.defined, Bool.and_eq_true, List.all_eq_true, List.contains_iff_mem] at defined
      cases o with
      | subscription i => exact defined.1.1.1 i given
      | service i => exact defined.1.1.2 i given
      | client i => exact defined.1.2 i given
    rw [takes_iff (run_path cfg _).2.wf alive, unexpired_iff (labelled _), LastsThrough]
    refine exists_congr fun i => exists_congr fun timestamp => ?_
    rw [← message, ← times.lifespanOf, ← times.reading]
    rfl
  · cases returned

/-- A sample arrives and five seconds pass before the wait returns. -/
theorem ready_takes_iff_fresh :
    let is := [Small.init 0, Small.createNode 1, Small.createSubscription 1 (Small.profile 1 ⟨0, 0⟩)]
    let wait := Small.wait 1 [Small.sample 0 [7], .time 5000000000]
    Takes Small.config (run Small.config (is ++ [wait])) (.subscription 1) :=
  (@ready_takes_iff Small.config _ _ _ _ .ok ⟨some [some 1], none, none, none⟩ (by decide)
    (.subscription 1) (by decide)).2 ⟨2, 0, by decide, by decide⟩

/-- A message waits to be taken with a lifespan of one second. The next wait finds it unexpired,
runs the session for two seconds and reports the subscription ready; the take then releases the
message and reports an error. -/
theorem ready_entity_is_empty :
    let is := [Small.init 0, Small.createNode 1, Small.createSubscription 1 (Small.profile 1 ⟨1, 0⟩),
      Small.wait 1 [Small.sample 0 [7]]]
    let wait := Small.wait 1 [.time 2000000000]
    (call Small.config (run Small.config is) wait).1 =
        .waited .ok ⟨some [some 1], none, none, none⟩ ∧
      (call Small.config (run Small.config (is ++ [wait])) ⟨Owner.take (.subscription 1), []⟩).1 =
        .took { ret := .error, taken := false, payload := none, header := .untouched } ∧
      ¬ Takes Small.config (run Small.config (is ++ [wait])) (.subscription 1) := by
  decide

/-- A message that never expires comes in one nanosecond after the clock's zero; its deadline does not
fit, and the take releases it. -/
example :
    let is := [Small.init 0, Small.createNode 1,
      Small.createSubscription 1 (Small.profile 1 rmwDurationInfinite)]
    let wait := Small.wait 1 [.time 1, Small.sample 0 [7]]
    (call Small.config (run Small.config is) wait).1 =
        .waited .ok ⟨some [some 1], none, none, none⟩ ∧
      ¬ Takes Small.config (run Small.config (is ++ [wait])) (.subscription 1) := by
  decide

end RmwMicroxrcedds
