import RmwMicroxrcedds.Proof.Calm

/-!
# Running sessions, cleaning and emptying the buffers

A session run is a sequence of clock ticks and callbacks, the cleaning a sequence of expiries, the
emptying of a shutdown a sequence of flushes. The loops follow pointers; the theorems say which
buffers are left.
-/

namespace RmwMicroxrcedds
set_option autoImplicit false

open Triples

variable {cfg : Config} {α β : Type}

/-! ## Session runs -/

/-- What `raise` does for an event that is not the passing of time. -/
theorem raise_eq (s : State) (session : Nat) {ev : SessionEvent} (route : ev.route ≠ none) :
    raise cfg session s ev =
      { s.record (.callback session ev) with
        w := (callback cfg session ev s.w).1
        ghost := s.ghost.received session ev (callback cfg session ev s.w).1
          (callback cfg session ev s.w).2 } := by
  cases ev with
  | time d => exact absurd rfl route
  | _ => rfl

/-- One event of a session run. -/
theorem raise_spec {s : State} (wf : Wf cfg s) (session : Nat) (ev : SessionEvent) :
    Wf cfg (raise cfg session s ev) ∧ Benign s (raise cfg session s ev) ∧
      Micro cfg s (raise cfg session s ev) := by
  by_cases route : ev.route = none
  · cases ev with
    | time d => exact ⟨{ wf with }, .of_ent rfl rfl rfl rfl rfl, .tick d⟩
    | _ => simp [SessionEvent.route] at route
  · obtain ⟨ent, -, ok, -⟩ := callback_spec (w := s.w) cfg session ev wf.staticBuffer
    have micro : Micro cfg s (raise cfg session s ev) := .callback session ev route
    rw [raise_eq s session route] at micro ⊢
    exact ⟨wf.of_ent ent rfl ok, .of_ent ent rfl rfl rfl rfl, micro⟩

/-- A run of events. -/
theorem raise_foldl {s : State} (wf : Wf cfg s) (session : Nat) (evs : List SessionEvent) :
    Path cfg s (evs.foldl (raise cfg session) s) ∧ Wf cfg (evs.foldl (raise cfg session) s) ∧
      Benign s (evs.foldl (raise cfg session) s) := by
  induction evs generalizing s with
  | nil => exact ⟨.refl, wf, .refl s⟩
  | cons ev evs ih =>
    obtain ⟨wf', benign, micro⟩ := raise_spec wf session ev
    obtain ⟨path, wf'', benign'⟩ := ih wf'
    exact ⟨.head ⟨wf, wf', micro⟩ path, wf'', benign.trans benign'⟩

theorem calm_nextAnswer : Calm cfg nextAnswer := ⟨fun s wf => by
  cases h : s.agent with
  | nil =>
    have e : nextAnswer s = ({ events := [], confirmed := false }, s) := by
      simp only [nextAnswer, bind, StateT.bind, get, getThe, MonadStateOf.get, StateT.get, pure, h]
      rfl
    rw [e]
    exact ⟨.refl, wf, .refl s⟩
  | cons answer rest =>
    have e : nextAnswer s = (answer, { s with agent := rest }) := by
      simp only [nextAnswer, bind, StateT.bind, get, getThe, MonadStateOf.get, StateT.get, pure, h]
      rfl
    have wf' : Wf cfg { s with agent := rest } := { wf with }
    have benign : Benign s { s with agent := rest } := .of_ent rfl rfl rfl rfl rfl
    rw [e]
    exact ⟨.single ⟨wf, wf', .quiet ⟨rfl, rfl, rfl, rfl, rfl, rfl⟩ benign.sameOwners rfl⟩, wf',
      benign⟩⟩

/-- **Session runs are calm.** -/
theorem calm_uxrRunSession (session : Nat) : Calm cfg (uxrRunSession cfg session) :=
  calm_nextAnswer.bind fun answer =>
    (Calm.path fun _ wf => raise_foldl wf session answer.events).bind fun _ => Calm.pure

theorem calm_runXrceSession (context : Nat) (stream : UxrStreamType) (request : XrceRequest) :
    Calm cfg (runXrceSession cfg context stream request) := by
  have noted : ∀ confirmed, Calm cfg (do
      modify (·.record (.ran context request confirmed))
      return confirmed : Prog Bool) := fun confirmed =>
    (calm_record (.ran context request confirmed) trivial).bind fun _ => Calm.pure
  exact Calm.ite (Calm.pure.bind noted) ((calm_uxrRunSession context).bind noted)

theorem calm_runCreation (context : Nat) (id parent : UxrObjectId) (texts : List CStr) :
    Calm cfg (runCreation cfg context id parent texts) :=
  (calm_readElement .session context).bind fun _ => calm_runXrceSession ..

theorem calm_runDestruction (context : Nat) (request : XrceRequest) :
    Calm cfg (runDestruction cfg context request) :=
  (calm_readElement .session context).bind fun _ => calm_runXrceSession ..

theorem calm_postIncrement (context : Nat) (counter : Session → Nat)
    (store : Nat → Session → Session) : Calm cfg (postIncrement context counter store) :=
  (calm_readElement .session context).bind fun _ => (calm_writeSession ..).bind fun _ => Calm.pure

/-! ## Readings and deadlines -/

theorem rmwUrosEpochNanos_le (w : World) : rmwUrosEpochNanos w ≤ Machine64.int64Max := by
  unfold rmwUrosEpochNanos
  split
  · decide
  · exact Machine64.wrap64_le _

theorem le_rmwUrosEpochNanos (w : World) : -9223372036854775808 ≤ rmwUrosEpochNanos w := by
  unfold rmwUrosEpochNanos
  split
  · decide
  · exact Machine64.le_wrap64 _

/-- No lifespan counts as less than a nanosecond. -/
theorem effectiveLifespan_pos (e : Entities) (d : StaticInputBuffer) :
    1 ≤ rmwTimeTotalNsec (effectiveLifespan e d) := by
  have unspecified : rmwTimeTotalNsec rmwDurationUnspecified = 0 := by
    simp only [rmwTimeTotalNsec, rmwDurationUnspecified, Machine64.int64Max]
    omega
  rw [effectiveLifespan]
  split
  · simp only [rmwTimeTotalNsec, rmwUxrceQosLifespanDefault, Machine64.int64Max]
    omega
  · rename_i specified
    rw [rmwTimeEqual, unspecified, beq_iff_eq] at specified
    unfold rmwTimeTotalNsec Machine64.int64Max at *
    omega

/-- A message stamped with the last representable time is expired at every reading. -/
theorem timestamp_lt_of_unexpired {w : World} {d : StaticInputBuffer}
    (h : ¬ expired w.ent (rmwUrosEpochNanos w) d) : d.timestamp < Machine64.int64Max := by
  by_contra ge
  refine h ?_
  have now := rmwUrosEpochNanos_le w
  by_cases early : rmwUrosEpochNanos w < d.timestamp
  · exact .inr early
  · left
    have stamp : d.timestamp = Machine64.int64Max := by omega
    have pos := effectiveLifespan_pos w.ent d
    have le : rmwTimeTotalNsec (effectiveLifespan w.ent d) ≤ Machine64.int64Max := min_le_right _ _
    rw [stamp, Machine64.wrap64_of_overflow (by omega) (by omega)]
    unfold Machine64.int64Max at *
    omega

/-- The test of the cleaning is exact while the deadline can be represented. -/
theorem not_expired {e : Entities} {nowNs : Int} {d : StaticInputBuffer}
    (stamp : -9223372036854775808 ≤ d.timestamp) (past : d.timestamp ≤ nowNs)
    (timely : nowNs ≤ d.timestamp + rmwTimeTotalNsec (effectiveLifespan e d))
    (fits : d.timestamp + rmwTimeTotalNsec (effectiveLifespan e d) ≤ Machine64.int64Max) :
    ¬ expired e nowNs d := by
  have pos := effectiveLifespan_pos e d
  rw [expired, Machine64.wrap64_eq (by omega) fits]
  omega

/-! ## The cleaning -/

/-- Releasing a buffer keeps the invariant. -/
theorem Wf.putBuffer {s : State} (wf : Wf cfg s) {i : Nat} (h : i ∈ s.queue) :
    Wf cfg (s.mapBuf (·.putMemory i)) :=
  wf.of_ent rfl rfl (Buffers.Ok.putMemory wf.staticBuffer h).1

/-- What the cleaning leaves: the buffers that are not expired, in their order. -/
structure Cleaned (nowNs : Int) (s t : State) : Prop where
  queue : t.queue = s.queue.filter fun i => ¬ expired s.w.ent nowNs (s.slot i)
  slot : t.slot = s.slot
  ent : t.w.ent = s.w.ent
  nanos : t.w.uxrNanos = s.w.uxrNanos
  graphInfo : t.w.buf.graphInfo = s.w.buf.graphInfo
  agent : t.agent = s.agent
  ghost : t.ghost = s.ghost
  call : t.call = s.call

/-- What the cleaning does to one item. -/
def cleanItem (nowNs : Int) (s : State) (item : Nat) : State :=
  if expired s.w.ent nowNs (s.w.buf.data item) then
    (s.record (.expire item)).mapBuf (·.putMemory item)
  else s

/-- The items that the loop of the cleaning visits. -/
def cleanVisits (nowNs : Int) : Nat → Option Nat → State → List Nat
  | 0, _, _ => []
  | _ + 1, none, _ => []
  | k + 1, some item, s =>
    item :: cleanVisits nowNs k (s.w.buf.staticBuffer.memory.link item).next (cleanItem nowNs s item)

/-- The loop treats the items it visits, one after the other. -/
theorem cleanLoop_eq (nowNs : Int) (k : Nat) (item : Option Nat) (s : State) :
    cleanLoop nowNs k item s = (cleanVisits nowNs k item s).foldl (cleanItem nowNs) s := by
  induction k generalizing item s with
  | zero => rfl
  | succ k ih =>
    cases item with
    | none => rfl
    | some i =>
      rw [cleanLoop, cleanVisits, List.foldl_cons, ← ih]
      unfold cleanItem
      split
      · rfl
      · rfl

section Items

variable {nowNs : Int} {s : State} {n : Nat}

/-- One item: an expired one leaves the queue, wherever it stands. -/
theorem cleanItem_spec (nowNs : Int) (ok : s.w.buf.Ok n) {kept rest : List Nat} {i : Nat}
    (queue : s.queue = kept ++ i :: rest) :
    let t := cleanItem nowNs s i
    t.w.buf.Ok n ∧
      t.queue = kept ++ (if expired s.w.ent nowNs (s.slot i) then rest else i :: rest) ∧
      t.slot = s.slot ∧ t.w.ent = s.w.ent := by
  have nodup : (kept ++ i :: rest).Nodup := queue ▸ Slots.Ok.nodup ok
  rw [cleanItem, Buffers.Ok.data_eq ok, State.slot]
  split
  · have mem : i ∈ s.w.buf.queue := by
      rw [show s.w.buf.queue = kept ++ i :: rest from queue]
      simp
    obtain ⟨ok', erased⟩ := Buffers.Ok.putMemory ok mem
    refine ⟨ok', ?_, rfl, rfl⟩
    refine erased.trans ?_
    rw [show s.w.buf.queue = kept ++ i :: rest from queue, List.erase_append_right,
      List.erase_cons_head]
    rw [List.nodup_append] at nodup
    exact fun h => nodup.2.2 i h i (by simp) rfl
  · exact ⟨ok, queue, rfl, rfl⟩

/-- Although items are unlinked on the way, the walk visits those of the list, each once. -/
theorem cleanVisits_eq (nowNs : Int) (k : Nat) (ok : s.w.buf.Ok n) (kept rest : List Nat)
    (queue : s.queue = kept ++ rest) (fuel : rest.length ≤ k) :
    cleanVisits nowNs k rest.head? s = rest := by
  induction k generalizing s kept rest with
  | zero =>
    have empty : rest = [] := List.length_eq_zero_iff.1 (by omega)
    subst empty
    rfl
  | succ k ih =>
    cases rest with
    | nil => rfl
    | cons i rest =>
      have fuel' : rest.length ≤ k := by simpa using fuel
      obtain ⟨ok', queue', -, -⟩ := cleanItem_spec nowNs ok queue
      rw [List.head?_cons, cleanVisits, Slots.Ok.next ok queue]
      congr 1
      split at queue'
      · exact ih ok' kept rest queue' fuel'
      · exact ih ok' (kept ++ [i]) rest (by simpa using queue') fuel'

/-- **The rule for the cleaning.** The items of the list are treated one after the other; what the
treatment of an item in use preserves is preserved. -/
theorem cleanItems_rule {I : State → Prop}
    (pres : ∀ t i, I t → t.w.buf.Ok n → i ∈ t.queue → I (cleanItem nowNs t i)) (start : I s)
    (ok : s.w.buf.Ok n) (kept rest : List Nat) (queue : s.queue = kept ++ rest) :
    let t := rest.foldl (cleanItem nowNs) s
    I t ∧ t.queue = kept ++ (rest.filter fun i => ¬ expired s.w.ent nowNs (s.slot i)) ∧
      t.slot = s.slot ∧ t.w.ent = s.w.ent := by
  induction rest generalizing s kept with
  | nil => exact ⟨start, by simpa using queue, rfl, rfl⟩
  | cons i rest ih =>
    obtain ⟨ok', queue', slot', ent'⟩ := cleanItem_spec nowNs ok queue
    have start' := pres s i start ok (by simp [queue])
    rw [List.foldl_cons]
    split at queue'
    · rename_i late
      obtain ⟨kept', queue'', slot'', ent''⟩ := ih start' ok' kept queue'
      refine ⟨kept', ?_, slot''.trans slot', ent''.trans ent'⟩
      rw [queue'', List.filter_cons_of_neg (by simpa using late), ent', slot']
    · rename_i timely
      obtain ⟨kept', queue'', slot'', ent''⟩ := ih start' ok' (kept ++ [i]) (by simpa using queue')
      refine ⟨kept', ?_, slot''.trans slot', ent''.trans ent'⟩
      rw [queue'', List.filter_cons_of_pos (by simpa using timely), ent', slot', List.append_assoc]
      rfl

end Items

/-- The cleaning, as a walk over the buffers in use. -/
theorem clean_eq {s : State} {n : Nat} (ok : s.w.buf.Ok n) :
    (rmwUxrceCleanExpiredStaticInputBuffer s).2 =
      s.queue.foldl (cleanItem (rmwUrosEpochNanos s.w)) s := by
  have head : s.w.buf.staticBuffer.memory.allocateditems = s.queue.head? := Slots.Ok.head ok
  have visits := cleanVisits_eq (rmwUrosEpochNanos s.w) _ ok [] s.queue rfl
    (Slots.Ok.length_le ok)
  rw [← head] at visits
  have loop := cleanLoop_eq (rmwUrosEpochNanos s.w) s.w.buf.staticBuffer.memory.size
    s.w.buf.staticBuffer.memory.allocateditems s
  rw [visits] at loop
  exact loop

/-- **The cleaning** releases exactly the expired buffers. -/
theorem clean_spec {s : State} (wf : Wf cfg s) :
    let t := (rmwUxrceCleanExpiredStaticInputBuffer s).2
    Path cfg s t ∧ Wf cfg t ∧ Cleaned (rmwUrosEpochNanos s.w) s t := by
  set nowNs := rmwUrosEpochNanos s.w with now
  -- besides the path and the invariant, what no item touches
  have pres : ∀ t i, (Path cfg s t ∧ Wf cfg t ∧ t.w.ent = s.w.ent ∧ t.w.uxrNanos = s.w.uxrNanos ∧
      t.w.buf.graphInfo = s.w.buf.graphInfo ∧ t.agent = s.agent ∧ t.ghost = s.ghost ∧
      t.call = s.call) → t.w.buf.Ok cfg.maxHistory → i ∈ t.queue →
      Path cfg s (cleanItem nowNs t i) ∧ Wf cfg (cleanItem nowNs t i) ∧
        (cleanItem nowNs t i).w.ent = s.w.ent ∧ (cleanItem nowNs t i).w.uxrNanos = s.w.uxrNanos ∧
        (cleanItem nowNs t i).w.buf.graphInfo = s.w.buf.graphInfo ∧
        (cleanItem nowNs t i).agent = s.agent ∧ (cleanItem nowNs t i).ghost = s.ghost ∧
        (cleanItem nowNs t i).call = s.call := by
    rintro t i ⟨path, wf', ent, nanos, frame⟩ ok mem
    rw [cleanItem, Buffers.Ok.data_eq ok]
    split
    · rename_i late
      have reading : nowNs = rmwUrosEpochNanos t.w := by
        rw [now, rmwUrosEpochNanos, rmwUrosEpochNanos, ent, nanos]
      have wf'' := (wf'.of_ent rfl rfl wf'.staticBuffer :
        Wf cfg (t.record (.expire i))).putBuffer mem
      exact ⟨path.tail ⟨wf', wf'', .expire i mem (reading ▸ late)⟩, wf'', ent, nanos, frame⟩
    · exact ⟨path, wf', ent, nanos, frame⟩
  have treated := cleanItems_rule pres ⟨.refl, wf, rfl, rfl, rfl, rfl, rfl, rfl⟩ wf.staticBuffer []
    s.queue rfl
  rw [← clean_eq wf.staticBuffer] at treated
  obtain ⟨⟨path, wf', -, nanos, graphInfo, agent, ghost, call⟩, queue, slot, ent⟩ := treated
  exact ⟨path, wf', queue, slot, ent, nanos, graphInfo, agent, ghost, call⟩

theorem cleanLoop_ent (nowNs : Int) (k : Nat) (item : Option Nat) (s : State) :
    (cleanLoop nowNs k item s).w.ent = s.w.ent := by
  induction k generalizing item s with
  | zero => rfl
  | succ k ih =>
    cases item with
    | none => rfl
    | some i =>
      rw [cleanLoop]
      split
      · exact ih _ _
      · exact ih _ _

/-- A cleaning records releases of expired buffers and nothing else. -/
theorem cleanLoop_trace {α : Type} {f : Moment → Option α}
    (silent : ∀ m i, m.act = .expire i → f m = none) (nowNs : Int) (k : Nat) (item : Option Nat)
    (s : State) : (cleanLoop nowNs k item s).trace.filterMap f = s.trace.filterMap f := by
  induction k generalizing item s with
  | zero => rfl
  | succ k ih =>
    cases item with
    | none => rfl
    | some i =>
      rw [cleanLoop]
      split
      · rw [ih]
        exact List.filterMap_cons_none (silent _ i rfl)
      · exact ih _ _

theorem clean_trace {α : Type} {f : Moment → Option α}
    (silent : ∀ m i, m.act = .expire i → f m = none) (s : State) :
    (rmwUxrceCleanExpiredStaticInputBuffer s).2.trace.filterMap f = s.trace.filterMap f :=
  cleanLoop_trace silent _ _ _ _

theorem calm_clean : Calm cfg rmwUxrceCleanExpiredStaticInputBuffer := ⟨fun _ wf =>
  have ⟨path, wf', cleaned⟩ := clean_spec wf
  ⟨path, wf', .of_ent cleaned.ent (by rw [cleaned.ghost]) (by rw [cleaned.ghost])
    (by rw [cleaned.ghost]) cleaned.call⟩⟩

end RmwMicroxrcedds
