import RmwMicroxrcedds.Proof.Arrivals
import RmwMicroxrcedds.Proof.Survivors
import RmwMicroxrcedds.Proof.Triggers

/-!
# What a wait reports

On return the entries of a wait set show which entities have a message in the buffers and which guard
conditions were triggered since they were last reported. A wait takes down the guard conditions it
reports, and of the messages it loses only those that its cleaning releases or a callback displaces.
-/

namespace RmwMicroxrcedds
set_option autoImplicit false

open Triples

variable {cfg : Config}

/-- A static buffer in use is owned by the entity. -/
def State.HasMessage (s : State) (o : Owner) : Prop := ∃ i ∈ s.queue, (s.slot i).owner = some o

instance (s : State) (o : Owner) : Decidable (s.HasMessage o) :=
  inferInstanceAs (Decidable (∃ i ∈ s.queue, _))

/-- An entry on return is the one given if the condition holds, and otherwise NULL. -/
inductive Entry (P : Nat → Prop) (i : Nat) : Option Nat → Prop
  | left (h : P i) : Entry P i (some i)
  | null (h : ¬ P i) : Entry P i none

/-- The entries of an array on return; an absent array stays absent. -/
def Entries (P : Nat → Prop) : Option (List Nat) → Option (List (Option Nat)) → Prop :=
  Option.Rel (List.Forall₂ (Entry P))

/-- Some entry is not NULL. -/
def WaitSet.SomeLeft (left : WaitSet (Option Nat)) : Prop :=
  ∃ i, some i ∈ left.subscriptions.getD [] ++ left.guardConditions.getD [] ++
    left.services.getD [] ++ left.clients.getD []

/-- The readings that messages were stamped with are below `INT64_MAX`. -/
def ReadingsFit (cfg : Config) (trace : List Moment) : Prop :=
  ∀ now ∈ trace.filterMap (Moment.stamp? cfg), now < Machine64.int64Max

instance (cfg : Config) (trace : List Moment) : Decidable (ReadingsFit cfg trace) :=
  inferInstanceAs (Decidable (∀ now ∈ trace.filterMap (Moment.stamp? cfg), _))

/-- What `rmw_wait` reports and leaves behind: `is` is the run before it, `t` the state on return. -/
structure WaitReport (cfg : Config) (is : List Step) (set : WaitSet Nat) (t : State) (ret : RmwRet)
    (left : WaitSet (Option Nat)) : Prop where
  subscriptions : Entries (fun i => t.HasMessage (.subscription i)) set.subscriptions left.subscriptions
  services : Entries (fun i => t.HasMessage (.service i)) set.services left.services
  clients : Entries (fun i => t.HasMessage (.client i)) set.clients left.clients
  guardConditions : Entries (TriggeredSince cfg is) set.guardConditions left.guardConditions
  ok : left.SomeLeft → ret = .ok
  timeout : ¬ left.SomeLeft → ret = .timeout
  reset : ∀ g, some g ∈ left.guardConditions.getD [] → t.triggered g = false
  others : ∀ g, some g ∉ left.guardConditions.getD [] → t.triggered g = (run cfg is).triggered g
  pool : t.w.ent.guardCondition.elements = (run cfg is).w.ent.guardCondition.elements
  messages : ∃ l, t.trace = l ++ (run cfg is).trace ∧
    ∀ i ∈ (rmwUxrceCleanExpiredStaticInputBuffer (run cfg is)).2.queue,
      (∀ m ∈ l, ¬ m.Displaces cfg i) → Stays (run cfg is) t i

/-! ## Messages -/

/-- The invariant is kept, by actions that release no buffer. -/
def Unreleased (cfg : Config) (s t : State) : Prop :=
  Wf cfg s → Path cfg s t ∧ Wf cfg t ∧
    t.trace.filterMap Moment.released? = s.trace.filterMap Moment.released?

instance : Std.Refl (Unreleased cfg) := ⟨fun _ wf => ⟨.refl, wf, rfl⟩⟩

instance : IsTrans State (Unreleased cfg) := ⟨fun _ _ _ h k wf =>
  have ⟨path, wf', silent⟩ := h wf
  have ⟨path', wf'', silent'⟩ := k wf'
  ⟨path.trans path', wf'', silent'.trans silent⟩⟩

theorem Calm.unreleased {α : Type} {p : Prog α} (calm : Calm cfg p)
    (silent : ∀ s, (p s).2.trace.filterMap Moment.released? = s.trace.filterMap Moment.released?) :
    Within (Unreleased cfg) p := fun s wf =>
  have ⟨path, wf', _⟩ := calm.run s wf
  ⟨path, wf', silent s⟩

theorem unreleased_writeSession (c : Nat) (f : Session → Session) :
    Within (Unreleased cfg) (writeElement .session c f) :=
  (calm_writeSession c f).unreleased fun _ => rfl

instance : RunsSessions cfg (Unreleased cfg) where
  ran session := (calm_uxrRunSession session).unreleased fun s =>
    uxrRunSession_trace (fun m _ ev act => by rw [Moment.released?, act]) cfg session s
  waited c untilData timeout :=
    (calm_record (.waited c untilData timeout) trivial).unreleased fun _ => List.filterMap_cons_none rfl

theorem checkGuardConditions_rest (entries : List Nat) (s : State) :
    (checkGuardConditions entries s).2.w.buf = s.w.buf ∧
      (checkGuardConditions entries s).2.trace = s.trace := by
  induction entries generalizing s with
  | nil => exact ⟨rfl, rfl⟩
  | cons i rest ih =>
    rw [checkGuardConditions_cons]
    exact ih (resetGuard i s)

theorem unreleased_checkGuardConditions (entries : List Nat) :
    Within (Unreleased cfg) (checkGuardConditions entries) :=
  walk_checkGuardConditions (fun i => (calm_writeGuardCondition i).unreleased fun _ => rfl) entries

/-- After its cleaning a wait releases no buffer. -/
theorem rmwWait_unreleased {set : WaitSet Nat} (present : ¬ set.Absent) (waitTimeout : Option RmwTime)
    (s : State) : Unreleased cfg (rmwUxrceCleanExpiredStaticInputBuffer s).2
      (rmwWait cfg set waitTimeout s).2 := by
  rw [rmwWait_present present]
  refine IsTrans.trans _ _ _ ?_ (unreleased_checkGuardConditions _ _)
  have request : ∀ {β : Type} (k : Kind β) (ownerNode : β → Option Nat) (i : Nat),
      Within (Unreleased cfg) (requestRun k ownerNode i) :=
    walk_requestRun fun c => unreleased_writeSession c _
  unfold waitSessions
  rw [Prog.bind_run]
  refine Within.get (fun t => ?_) _
  refine Within.bind (walk_forM fun _ => unreleased_writeSession _ _) fun _ => ?_
  refine Within.bind (walk_forM fun _ => request _ _ _) fun _ => ?_
  refine Within.bind (walk_forM fun _ => request _ _ _) fun _ => ?_
  refine Within.bind (walk_forM fun _ => request _ _ _) fun _ => ?_
  exact Within.get fun u => Within.ite (walk_runSessions _ _ _) (walk_runSessions _ _ _)

/-- What is queued after the cleaning stays unless a callback displaces it. -/
theorem rmwWait_stays {s : State} (wf : Wf cfg s) {set : WaitSet Nat} (present : ¬ set.Absent)
    (waitTimeout : Option RmwTime) :
    ∃ l, (rmwWait cfg set waitTimeout s).2.trace = l ++ s.trace ∧
      ∀ i ∈ (rmwUxrceCleanExpiredStaticInputBuffer s).2.queue, (∀ m ∈ l, ¬ m.Displaces cfg i) →
        Stays s (rmwWait cfg set waitTimeout s).2 i := by
  obtain ⟨expiries, wf', cleaned⟩ := clean_spec wf
  obtain ⟨path, -, silent⟩ := @rmwWait_unreleased cfg set present waitTimeout s wf'
  set c := (rmwUxrceCleanExpiredStaticInputBuffer s).2
  obtain ⟨l, e⟩ := Path.trace_mono path
  obtain ⟨l₀, e₀⟩ := Path.trace_mono expiries
  have unreleased : ∀ m ∈ l, m.released? = none := by
    rw [← e, List.filterMap_append] at silent
    have none : l.filterMap Moment.released? = [] := List.append_left_eq_self.1 silent
    exact List.filterMap_eq_nil_iff.1 none
  refine ⟨l ++ l₀, by rw [← e, ← e₀, List.append_assoc], fun i hi spared => ?_⟩
  have before : Stays s c i := ⟨hi, congrFun cleaned.slot i, by rw [cleaned.ghost]⟩
  refine before.trans (Path.stays path e.symm hi fun m hm => ⟨spared m (List.mem_append_left _ hm), ?_⟩)
  rw [unreleased m hm]
  exact Option.some_ne_none i |>.symm

/-! ## Entries -/

/-- The search by owner finds a message if there is one. -/
theorem find_isSome_iff {s : State} (wf : Wf cfg s) (stamped : Stamped cfg s)
    (fit : ReadingsFit cfg s.trace) (o : Owner) :
    (rmwUxrceFindStaticInputBufferByOwner s.w.buf (some o)).isSome = true ↔ s.HasMessage o := by
  have early : ∀ i ∈ s.queue, (s.slot i).timestamp < Machine64.int64Max := fun i hi =>
    fit _ (stamped i hi)
  rw [Option.isSome_iff_ne_none, Ne, Buffers.Ok.find_none wf.staticBuffer]
  simp only [not_forall, not_le]
  constructor
  · rintro ⟨i, hi, -⟩
    obtain ⟨queued, owner⟩ := Buffers.mem_ofOwner.1 hi
    exact ⟨i, queued, owner⟩
  · rintro ⟨i, queued, owner⟩
    exact ⟨i, Buffers.mem_ofOwner.2 ⟨queued, owner⟩, early i queued⟩

theorem entries_map {P : Nat → Prop} {f : Nat → Option Nat} {l : List Nat}
    (entry : ∀ i ∈ l, Entry P i (f i)) : List.Forall₂ (Entry P) l (l.map f) := by
  induction l with
  | nil => exact .nil
  | cons i l ih =>
    exact .cons (entry i List.mem_cons_self) (ih fun j hj => entry j (List.mem_cons_of_mem _ hj))

theorem readyEntries_entries {s : State} (wf : Wf cfg s) (stamped : Stamped cfg s)
    (fit : ReadingsFit cfg s.trace) (owner : Nat → Owner) (entries : Option (List Nat)) :
    Entries (fun i => s.HasMessage (owner i)) entries (readyEntries s.w.buf owner entries) := by
  cases entries with
  | none => exact .none
  | some l =>
    refine .some (entries_map fun i _ => ?_)
    by_cases found : (rmwUxrceFindStaticInputBufferByOwner s.w.buf (some (owner i))).isSome = true
    · rw [if_pos found]
      exact .left ((find_isSome_iff wf stamped fit _).1 found)
    · rw [if_neg found]
      exact .null fun held => found ((find_isSome_iff wf stamped fit _).2 held)

theorem anyLeft_iff (left : WaitSet (Option Nat)) : left.anyLeft = true ↔ left.SomeLeft := by
  have any : ∀ entries : Option (List (Option Nat)),
      anyLeft entries = true ↔ ∃ i, some i ∈ entries.getD [] := by
    intro entries
    rw [anyLeft, List.any_eq_true]
    constructor
    · rintro ⟨entry, mem, h⟩
      obtain ⟨i, rfl⟩ := Option.isSome_iff_exists.1 h
      exact ⟨i, mem⟩
    · rintro ⟨i, mem⟩
      exact ⟨some i, mem, rfl⟩
  simp only [WaitSet.anyLeft, WaitSet.SomeLeft, Bool.or_eq_true, any, List.mem_append, exists_or]
  tauto

/-- Guard conditions in use, each listed once. -/
theorem guard_entries (is : List Step) {u : State} (same : SameGuards (run cfg is) u)
    {entries : Option (List Nat)}
    (live : ∀ g ∈ entries.getD [], g ∈ (run cfg is).w.ent.guardCondition.elements)
    (distinct : (entries.getD []).Nodup) :
    Entries (TriggeredSince cfg is) entries
      (entries.map fun _ => (checkGuardConditions (entries.getD []) u).1) := by
  cases entries with
  | none => exact .none
  | some l =>
    apply Option.Rel.some
    show List.Forall₂ _ l (checkGuardConditions l u).1
    rw [checkGuardConditions_entries (show l.Nodup from distinct) u]
    refine entries_map fun g hg => ?_
    have history := triggered_iff is (live g hg)
    rw [same.triggered g]
    by_cases up : (run cfg is).triggered g = true
    · rw [if_pos up]
      exact .left (history.1 up)
    · rw [if_neg up]
      exact .null fun triggered => up (history.2 triggered)

/-! ## The report -/

/-- **`rmw_wait` reports exactly what is ready.** After every run and for every wait set that is not
absent as a whole, whose entries are in use and whose guard conditions are listed once, and whatever
callbacks the sessions raise. -/
theorem wait_reports_exactly (is : List Step) (set : WaitSet Nat) (waitTimeout : Option RmwTime)
    (agent : List Answer) (present : ¬ set.Absent)
    (live : (Call.wait set waitTimeout).defined (run cfg is).w.ent = true)
    (distinct : (set.guardConditions.getD []).Nodup)
    (fit : ReadingsFit cfg (run cfg (is ++ [⟨.wait set waitTimeout, agent⟩])).trace) :
    ∃ ret left, (call cfg (run cfg is) ⟨.wait set waitTimeout, agent⟩).1 = .waited ret left ∧
      WaitReport cfg is set (run cfg (is ++ [⟨.wait set waitTimeout, agent⟩])) ret left := by
  set i : Step := ⟨.wait set waitTimeout, agent⟩
  set s := (run cfg is).enter i
  set t := run cfg (is ++ [i])
  set u := (waitSessions cfg set waitTimeout s).2
  set left := set.checked u.w.buf (checkGuardConditions (set.guardConditions.getD []) u).1
  have wf : Wf cfg s := { (run_path cfg is).2.wf with }
  have result : call cfg (run cfg is) i = perform cfg i.call s := if_pos live
  have returned : t = (rmwWait cfg set waitTimeout s).2 := by
    rw [show t = _ from run_concat cfg is i, result]
    rfl
  have reply : (rmwWait cfg set waitTimeout s).1 = (if left.anyLeft then .ok else .timeout, left) := by
    rw [rmwWait_present present]
  have flags : ∀ g, t.triggered g = true ↔ s.triggered g = true ∧
      some g ∉ left.guardConditions.getD [] := by
    intro g
    rw [returned, rmwWait_flags, reply]
  have only : OnlyAt _ s t := returned ▸ rmwWait_only set waitTimeout s
  -- the buffers on return are those the entries were checked against
  have buf : t.w.buf = u.w.buf := by
    rw [returned, rmwWait_present present]
    exact (checkGuardConditions_rest _ u).1
  have ready : ∀ owner entries, Entries (fun j => t.HasMessage (owner j)) entries
      (readyEntries u.w.buf owner entries) := fun owner entries =>
    buf ▸ readyEntries_entries (run_path cfg _).2.wf (run_stamped cfg _) fit owner entries
  have inUse : ∀ g ∈ set.guardConditions.getD [], g ∈ (run cfg is).w.ent.guardCondition.elements := by
    simp only [Call.defined, Bool.and_eq_true, List.all_eq_true, List.contains_iff_mem] at live
    exact live.2
  refine ⟨if left.anyLeft then .ok else .timeout, left, ?_, ?_⟩
  · rw [result]
    show Reply.waited (rmwWait cfg set waitTimeout s).1.1 (rmwWait cfg set waitTimeout s).1.2 = _
    rw [reply]
  constructor
  · exact ready .subscription set.subscriptions
  · exact ready .service set.services
  · exact ready .client set.clients
  · exact guard_entries is (sameGuards_waitSessions set waitTimeout s) inUse distinct
  · exact fun some => if_pos ((anyLeft_iff left).2 some)
  · exact fun none => if_neg fun some => none ((anyLeft_iff left).1 some)
  · exact fun g reported => Bool.eq_false_iff.2 fun up => ((flags g).1 up).2 reported
  · intro g unreported
    rw [Bool.eq_iff_iff, flags g]
    exact ⟨And.left, fun up => ⟨up, unreported⟩⟩
  · exact congrArg Mempool.elements only.memory
  · obtain ⟨l, trace, stays⟩ := rmwWait_stays wf present waitTimeout
    refine ⟨l, returned ▸ trace, fun j hj spared => ?_⟩
    have queue : (rmwUxrceCleanExpiredStaticInputBuffer s).2.queue =
        (rmwUxrceCleanExpiredStaticInputBuffer (run cfg is)).2.queue := by
      rw [(clean_spec wf).2.2.queue, (clean_spec (run_path cfg is).2.wf).2.2.queue]
      rfl
    have kept : Stays s t j := returned ▸ stays j (queue ▸ hj) spared
    exact ⟨kept.queued, kept.slot, kept.source⟩

/-- A session, two subscriptions and a guard condition that was triggered; a message arrives for the
second subscription. -/
theorem wait_reports_exactly_ready :
    let is := [Small.init 0, Small.createNode 1, Small.createSubscription 1 (Small.profile 1 ⟨0, 0⟩),
      Small.createSubscription 1 (Small.profile 1 ⟨0, 0⟩), ⟨.createGuardCondition, []⟩,
      ⟨.triggerGuardCondition (some 1), []⟩]
    let set : WaitSet Nat := ⟨some [1, 0], some [1], none, none⟩
    let i : Step := ⟨.wait set none, [⟨[Small.sample 1 [7]], true⟩]⟩
    (call Small.config (run Small.config is) i).1 =
        .waited .ok ⟨some [none, some 0], some [some 1], none, none⟩ ∧
      ∃ ret left, (call Small.config (run Small.config is) i).1 = .waited ret left ∧
        WaitReport Small.config is set (run Small.config (is ++ [i])) ret left :=
  ⟨by decide, wait_reports_exactly _ _ _ _ (by decide) (by decide) (by decide) (by decide)⟩

end RmwMicroxrcedds
