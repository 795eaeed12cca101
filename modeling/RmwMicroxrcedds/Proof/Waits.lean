import RmwMicroxrcedds.Proof.Dialogue

/-!
# The sessions a wait runs

`rmw_wait` clears a flag in every session, sets it again through the entities of the wait set, counts
the flags and runs either the sessions flagged or all of them. Whatever the callbacks do meanwhile,
which sessions are run, and for how long, is decided by the entities before the call.
-/

namespace RmwMicroxrcedds
set_option autoImplicit false

variable {cfg : Config}

/-- `custom->owner_node->context`. -/
def Entities.sessionOf (e : Entities) (o : Owner) : Nat :=
  deref (e.node.custom (deref (e.ownerNode o))).context

/-- The entities of a wait set, in the order in which the flags are set. -/
def WaitSet.owners (set : WaitSet Nat) : List Owner :=
  (set.services.getD []).map .service ++ (set.clients.getD []).map .client ++
    (set.subscriptions.getD []).map .subscription

/-- The sessions in use that an entity of the wait set belongs to. -/
def Entities.owning (e : Entities) (set : WaitSet Nat) : List Nat :=
  e.session.elements.filter fun c => c ∈ set.owners.map e.sessionOf

/-- A session run of a wait: the session, whether it is run until data arrives, and its timeout. -/
def Moment.waited? (m : Moment) : Option (Nat × Bool × Int) :=
  match m.act with
  | .waited session untilData timeout => some (session, untilData, timeout)
  | _ => none

/-- The session runs of the waits so far, the latest first. -/
def State.waits (s : State) : List (Nat × Bool × Int) := s.trace.filterMap Moment.waited?

/-! ## Flags -/

/-- Writing fields of the sessions in a list. -/
def Entities.mapSessions (e : Entities) (l : List Nat) (f : Session → Session) : Entities :=
  { e with session := { e.session with
      custom := fun c => if c ∈ l then f (e.session.custom c) else e.session.custom c } }

theorem Entities.mapSessions_nil (e : Entities) (f : Session → Session) : e.mapSessions [] f = e := by
  simp [mapSessions]

theorem Entities.mapSessions_cons {f : Session → Session} (idem : ∀ c, f (f c) = f c) (e : Entities)
    (i : Nat) (l : List Nat) :
    { e with session := e.session.update i f }.mapSessions l f = e.mapSessions (i :: l) f := by
  have custom : ∀ c, (if c ∈ l then f (setAt e.session.custom i (f (e.session.custom i)) c)
      else setAt e.session.custom i (f (e.session.custom i)) c) =
        if c ∈ i :: l then f (e.session.custom c) else e.session.custom c := by
    intro c
    by_cases h : c = i
    · subst h
      simp [idem]
    · simp [setAt_of_ne _ _ h, h]
  simp only [mapSessions, Slots.update, custom]

theorem Entities.mapSessions_append {f : Session → Session} (idem : ∀ c, f (f c) = f c) (e : Entities)
    (l l' : List Nat) : (e.mapSessions l f).mapSessions l' f = e.mapSessions (l ++ l') f := by
  have custom : ∀ c, (if c ∈ l' then f (if c ∈ l then f (e.session.custom c) else e.session.custom c)
      else if c ∈ l then f (e.session.custom c) else e.session.custom c) =
        if c ∈ l ++ l' then f (e.session.custom c) else e.session.custom c := by
    intro c
    by_cases h : c ∈ l <;> by_cases h' : c ∈ l' <;> simp [h, h', idem]
  simp only [mapSessions, custom]

/-- The loop that writes the sessions of a list. -/
theorem forM_writeSession {f : Session → Session} (idem : ∀ c, f (f c) = f c) (l : List Nat)
    (s : State) :
    (l.forM fun c => writeElement .session c f) s = ((), s.mapEnt (·.mapSessions l f)) := by
  induction l generalizing s with
  | nil =>
    have same : s.mapEnt (·.mapSessions [] f) = s := by
      simp only [State.mapEnt, Entities.mapSessions_nil]
    rw [same]
    rfl
  | cons i l ih =>
    rw [List.forM_eq_forM, List.forM_cons, Prog.bind_run, ← List.forM_eq_forM]
    have write : (writeElement .session i f s).2 =
        s.mapEnt fun e => { e with session := e.session.update i f } := rfl
    rw [write, ih]
    simp only [State.mapEnt, Entities.mapSessions_cons idem]

/-- One of the three loops that set the flags. -/
theorem forM_requestRun {β : Type} (k : Kind β) (ownerNode : β → Option Nat)
    (apart : ∀ e i f, k.slots { e with session := e.session.update i f } = k.slots e) (l : List Nat)
    (s : State) :
    (l.forM (requestRun k ownerNode)) s =
      ((), s.mapEnt (·.mapSessions
        (l.map fun i => deref (s.w.ent.node.custom (deref (ownerNode
          ((k.slots s.w.ent).custom i)))).context) fun c => { c with needToBeRan := true })) := by
  induction l generalizing s with
  | nil =>
    have same : s.mapEnt (·.mapSessions [] fun c => { c with needToBeRan := true }) = s := by
      simp only [State.mapEnt, Entities.mapSessions_nil]
    rw [List.map_nil, same]
    rfl
  | cons i l ih =>
    rw [List.forM_eq_forM, List.forM_cons, Prog.bind_run, ← List.forM_eq_forM]
    set c := deref (s.w.ent.node.custom (deref (ownerNode ((k.slots s.w.ent).custom i)))).context
    have write : (requestRun k ownerNode i s).2 = s.mapEnt fun e =>
        { e with session := e.session.update c fun c => { c with needToBeRan := true } } := rfl
    have cons := Entities.mapSessions_cons (f := fun c => { c with needToBeRan := true }) fun _ => rfl
    rw [write, ih]
    simp only [State.mapEnt, apart, List.map_cons]
    rw [cons]

/-! ## Runs -/

theorem uxrRunSession_waits (cfg : Config) (session : Nat) (s : State) :
    (uxrRunSession cfg session s).2.waits = s.waits :=
  uxrRunSession_trace (fun m session ev act => by rw [Moment.waited?, act]) cfg session s

/-- The loops that run the sessions. -/
theorem runSessions_spec (untilData : Bool) (timeout : Int) (l : List Nat) (s : State) :
    let t := (runSessions cfg untilData timeout l s).2
    t.w.ent = s.w.ent ∧
      t.waits = ((l.filter fun c => (s.w.ent.session.custom c).needToBeRan ∨ untilData = false).map
        fun c => (c, untilData, timeout)).reverse ++ s.waits := by
  induction l generalizing s with
  | nil => exact ⟨rfl, rfl⟩
  | cons c l ih =>
    rw [runSessions, Prog.bind_run, readElement_run]
    by_cases ran : (s.w.ent.session.custom c).needToBeRan = true ∨ untilData = false
    · have ran' : ((Kind.session.slots s.w.ent).custom c).needToBeRan = true ∨ untilData = false := ran
      obtain ⟨-, ent, -⟩ := uxrRunSession_spec cfg c (s.record (.waited c untilData timeout))
      have waits := uxrRunSession_waits cfg c (s.record (.waited c untilData timeout))
      obtain ⟨ent', waits'⟩ := ih (uxrRunSession cfg c (s.record (.waited c untilData timeout))).2
      have step : (runSessions cfg untilData timeout l
          (uxrRunSession cfg c (s.record (.waited c untilData timeout))).2).2.waits = _ := waits'
      simp only [if_pos ran']
      refine ⟨ent'.trans ent, step.trans ?_⟩
      rw [waits, ent, List.filter_cons_of_pos (by simpa using ran), List.map_cons, List.reverse_cons,
        List.append_assoc]
      rfl
    · have ran' : ¬ (((Kind.session.slots s.w.ent).custom c).needToBeRan = true ∨ untilData = false) := ran
      have skipped : (c :: l).filter (fun c => (s.w.ent.session.custom c).needToBeRan ∨ untilData = false) =
          l.filter fun c => (s.w.ent.session.custom c).needToBeRan ∨ untilData = false :=
        List.filter_cons_of_neg (by simpa using ran)
      rw [skipped, if_neg ran']
      exact ih s

/-! ## The wait -/

/-- The entities once the flags are set. -/
def Entities.flagged (e : Entities) (set : WaitSet Nat) : Entities :=
  (e.mapSessions e.session.elements fun c => { c with needToBeRan := false }).mapSessions
    (set.owners.map e.sessionOf) fun c => { c with needToBeRan := true }

theorem Entities.flagged_iff (e : Entities) (set : WaitSet Nat) {c : Nat} (hc : c ∈ e.session.elements) :
    ((e.flagged set).session.custom c).needToBeRan = true ↔ c ∈ set.owners.map e.sessionOf := by
  simp only [flagged, mapSessions, if_pos hc]
  split
  · simp [*]
  · simp [*]

/-- The timeout each session run until data is given. -/
def perSessionTimeout (timeout : Int) (availableContexts : Nat) : Int :=
  if timeout = uxrTimeoutInf then uxrTimeoutInf else timeout.tdiv availableContexts

/-- The sessions run by a wait, with their timeouts. -/
def Entities.waitRuns (e : Entities) (set : WaitSet Nat) (waitTimeout : Option RmwTime) :
    List (Nat × Bool × Int) :=
  let availableContexts := (e.owning set).length % 256
  if availableContexts ≠ 0 then
    (e.owning set).map fun c => (c, true, perSessionTimeout (waitMilliseconds waitTimeout) availableContexts)
  else e.session.elements.map fun c => (c, false, 0)

/-- The part of `rmw_wait` that runs the sessions. -/
theorem waitSessions_spec (set : WaitSet Nat) (waitTimeout : Option RmwTime) (s : State) :
    let t := (waitSessions cfg set waitTimeout s).2
    t.w.ent = s.w.ent.flagged set ∧ t.waits = (s.w.ent.waitRuns set waitTimeout).reverse ++ s.waits := by
  have cleaned : (rmwUxrceCleanExpiredStaticInputBuffer s).2.w.ent = s.w.ent := cleanLoop_ent _ _ _ _
  have quiet : (rmwUxrceCleanExpiredStaticInputBuffer s).2.waits = s.waits :=
    clean_trace (fun m i act => by rw [Moment.waited?, act]) s
  set c := (rmwUxrceCleanExpiredStaticInputBuffer s).2 with hc
  set sessions := c.w.ent.session.elements with hsessions
  have cleared := forM_writeSession (f := fun c => { c with needToBeRan := false }) (fun _ => rfl) sessions c
  set c₁ := c.mapEnt (·.mapSessions sessions fun c => { c with needToBeRan := false }) with hc₁
  have services := forM_requestRun .service (·.ownerNode) (fun _ _ _ => rfl) (set.services.getD []) c₁
  set c₂ := c₁.mapEnt _ with hc₂
  have clients := forM_requestRun .client (·.ownerNode) (fun _ _ _ => rfl) (set.clients.getD []) c₂
  set c₃ := c₂.mapEnt _ with hc₃
  have subscriptions := forM_requestRun .subscription (·.ownerNode) (fun _ _ _ => rfl)
    (set.subscriptions.getD []) c₃
  set u := c₃.mapEnt _ with hu
  have run : waitSessions cfg set waitTimeout s =
      let availableContexts := sessions.countP (fun context => (u.w.ent.session.custom context).needToBeRan) % 256
      if availableContexts ≠ 0 then
        runSessions cfg true (perSessionTimeout (waitMilliseconds waitTimeout) availableContexts) sessions u
      else runSessions cfg false 0 sessions u := by
    rw [waitSessions, Prog.bind_run, Prog.get_run, Prog.bind_run, cleared, Prog.bind_run, services,
      Prog.bind_run, clients, Prog.bind_run, subscriptions, Prog.get_run]
    simp only [perSessionTimeout]
    split
    · rfl
    · rfl
  have flagged : u.w.ent = s.w.ent.flagged set := by
    have owners : set.owners.map s.w.ent.sessionOf =
        ((set.services.getD []).map fun i => s.w.ent.sessionOf (.service i)) ++
          ((set.clients.getD []).map fun i => s.w.ent.sessionOf (.client i)) ++
          (set.subscriptions.getD []).map fun i => s.w.ent.sessionOf (.subscription i) := by
      simp [WaitSet.owners, Function.comp_def]
    have append := Entities.mapSessions_append (f := fun c => { c with needToBeRan := true }) fun _ => rfl
    rw [Entities.flagged, owners, ← append, ← append, ← cleaned]
    rfl
  have elements : sessions = s.w.ent.session.elements := by rw [hsessions, cleaned]
  have flags : ∀ i ∈ sessions, decide ((u.w.ent.session.custom i).needToBeRan = true) =
      decide (i ∈ set.owners.map s.w.ent.sessionOf) := by
    intro i hi
    rw [decide_eq_decide, flagged]
    exact Entities.flagged_iff _ _ (elements ▸ hi)
  have owning : sessions.filter (fun i => (u.w.ent.session.custom i).needToBeRan = true) =
      s.w.ent.owning set := by
    rw [List.filter_congr flags, elements, Entities.owning]
  have count : sessions.countP (fun context => (u.w.ent.session.custom context).needToBeRan) =
      (s.w.ent.owning set).length := by
    rw [← owning, List.countP_eq_length_filter]
    simp only [Bool.decide_eq_true]
  have before : u.waits = s.waits := quiet
  rw [run, count, Entities.waitRuns]
  dsimp only
  split
  · obtain ⟨ent, waits⟩ := @runSessions_spec cfg true (perSessionTimeout (waitMilliseconds waitTimeout)
      ((s.w.ent.owning set).length % 256)) sessions u
    refine ⟨ent.trans flagged, waits.trans ?_⟩
    have wanted : sessions.filter (fun i =>
        (u.w.ent.session.custom i).needToBeRan = true ∨ true = false) = s.w.ent.owning set := by
      rw [← owning]
      simp
    rw [wanted, before]
  · obtain ⟨ent, waits⟩ := @runSessions_spec cfg false 0 sessions u
    refine ⟨ent.trans flagged, waits.trans ?_⟩
    have wanted : sessions.filter (fun i =>
        (u.w.ent.session.custom i).needToBeRan = true ∨ false = false) = s.w.ent.session.elements := by
      rw [← elements]
      simp
    rw [wanted, before]

/-- No array is given: `rmw_wait` returns at once. -/
def WaitSet.Absent (set : WaitSet Nat) : Prop :=
  set.services = none ∧ set.clients = none ∧ set.subscriptions = none ∧ set.guardConditions = none

instance (set : WaitSet Nat) : Decidable set.Absent := inferInstanceAs (Decidable (_ ∧ _))

theorem rmwWait_absent {set : WaitSet Nat} (absent : set.Absent) (waitTimeout : Option RmwTime) (s : State) :
    rmwWait cfg set waitTimeout s = ((.ok, ⟨none, none, none, none⟩), s) := by
  have returns : set.services = none ∧ set.clients = none ∧ set.subscriptions = none ∧
      set.guardConditions = none := absent
  rw [rmwWait, if_pos returns]
  rfl

/-- What a wait leaves in the arrays, given the buffers at the end and the check of the guard
conditions. -/
def WaitSet.checked (set : WaitSet Nat) (b : Buffers) (reported : List (Option Nat)) :
    WaitSet (Option Nat) where
  subscriptions := readyEntries b .subscription set.subscriptions
  guardConditions := set.guardConditions.map fun _ => reported
  services := readyEntries b .service set.services
  clients := readyEntries b .client set.clients

/-- Whether an entry is left in one of the arrays. -/
def WaitSet.anyLeft (left : WaitSet (Option Nat)) : Bool :=
  RmwMicroxrcedds.anyLeft left.services || RmwMicroxrcedds.anyLeft left.clients ||
    RmwMicroxrcedds.anyLeft left.subscriptions || RmwMicroxrcedds.anyLeft left.guardConditions

theorem rmwWait_present {set : WaitSet Nat} (present : ¬set.Absent) (waitTimeout : Option RmwTime)
    (s : State) :
    let t := (waitSessions cfg set waitTimeout s).2
    let r := checkGuardConditions (set.guardConditions.getD []) t
    let left := set.checked t.w.buf r.1
    rmwWait cfg set waitTimeout s = ((if left.anyLeft then .ok else .timeout, left), r.2) := by
  have goes : ¬(set.services = none ∧ set.clients = none ∧ set.subscriptions = none ∧
      set.guardConditions = none) := present
  rw [rmwWait, if_neg goes]
  rfl

end RmwMicroxrcedds
