import RmwMicroxrcedds.Proof.Guards

/-!
# When a guard condition is up

The flag of a guard condition in use says whether a trigger came after it was handed out and after
the last wait that reported it. A trigger may name a guard condition that was destroyed; the next
creation in that element takes the flag down again.
-/

namespace RmwMicroxrcedds
set_option autoImplicit false

variable {cfg : Config}

/-- The call is `rmw_trigger_guard_condition` on the guard condition. -/
def TriggersGuard (i : Step) (g : Nat) : Prop := i.call = .triggerGuardCondition (some g)

/-- The call is an `rmw_create_guard_condition` that returns the guard condition. -/
def CreatesGuard (cfg : Config) (s : State) (i : Step) (g : Nat) : Prop :=
  i.call = .createGuardCondition ∧ (call cfg s i).1 = .handle (some g)

/-- The call is an `rmw_wait` that leaves the guard condition in its array. -/
def ReportsGuard (cfg : Config) (s : State) (i : Step) (g : Nat) : Prop :=
  ∃ ret left, (call cfg s i).1 = .waited ret left ∧ some g ∈ left.guardConditions.getD []

/-- The guard condition was triggered since it was created or last reported. -/
def TriggeredSince (cfg : Config) (is : List Step) (g : Nat) : Prop :=
  Runs.Since (step cfg) (fun _ i => TriggersGuard i g)
    (fun s i => CreatesGuard cfg s i g ∨ ReportsGuard cfg s i g) State.zero is

/-- Only a wait gives a wait set back. -/
theorem waited_cases {c : Call} {s : State} {ret : RmwRet} {left : WaitSet (Option Nat)}
    (h : (perform cfg c s).1 = .waited ret left) :
    ∃ set waitTimeout, c = .wait set waitTimeout ∧ (rmwWait cfg set waitTimeout s).1 = (ret, left) := by
  cases c with
  | wait set waitTimeout =>
    obtain ⟨rfl, rfl⟩ := Reply.waited.inj h
    exact ⟨set, waitTimeout, rfl, rfl⟩
  | sendRequest env client =>
    rw [perform, Prog.bind_run] at h
    generalize (rmwSendRequest cfg env client s).1 = sent at h
    cases sent <;> cases h
  | sendResponse env service =>
    rw [perform, Prog.bind_run] at h
    generalize (rmwSendResponse cfg env service s).1 = sent at h
    cases sent <;> cases h
  | _ => cases h

/-- What a step does to the guard conditions. -/
structure GuardsStep (cfg : Config) (s : State) (i : Step) (t : State) : Prop where
  own : OwnGuards t
  fresh : ∀ g ∈ t.w.ent.guardCondition.elements, g ∉ s.w.ent.guardCondition.elements →
    ¬ t.triggered g = true ∧ CreatesGuard cfg s i g
  kept : ∀ g ∈ s.w.ent.guardCondition.elements, t.triggered g = true ↔
    TriggersGuard i g ∨ s.triggered g = true ∧ ¬ (CreatesGuard cfg s i g ∨ ReportsGuard cfg s i g)

/-- A call that is none of those about guard conditions. -/
theorem KeptGuards.step {s t : State} {i : Step} (own : OwnGuards s) (kept : KeptGuards (s.enter i) t)
    (triggers : ∀ g, ¬ TriggersGuard i g) (creates : ∀ g, ¬ CreatesGuard cfg s i g)
    (reports : ∀ g, ¬ ReportsGuard cfg s i g) : GuardsStep cfg s i t where
  own := by
    have own' : OwnGuards (s.enter i) := own
    exact own'.of_handle fun g => by rw [kept.custom]
  fresh g hg new := absurd (show g ∈ (s.enter i).w.ent.guardCondition.elements from kept.elements ▸ hg) new
  kept g _ := by
    rw [State.triggered, kept.custom]
    simp [triggers, creates, reports, State.triggered, State.enter]

/-! ## The calls -/

section Calls

variable {s : State} {i : Step} (run : call cfg s i = perform cfg i.call (s.enter i))

include run in
theorem not_reports (other : ∀ set waitTimeout, i.call ≠ .wait set waitTimeout) (g : Nat) :
    ¬ ReportsGuard cfg s i g := by
  rintro ⟨ret, left, e, -⟩
  rw [run] at e
  obtain ⟨set, waitTimeout, call, -⟩ := waited_cases e
  exact other set waitTimeout call

theorem not_triggers (other : ∀ g, i.call ≠ .triggerGuardCondition g) (g : Nat) :
    ¬ TriggersGuard i g := other (some g)

theorem not_creates (other : i.call ≠ .createGuardCondition) (g : Nat) : ¬ CreatesGuard cfg s i g :=
  fun h => other h.1

variable (wf : Wf cfg (s.enter i)) (own : OwnGuards s)
include run wf own

theorem createGuard_step (c : i.call = .createGuardCondition) :
    GuardsStep cfg s i (perform cfg i.call (s.enter i)).2 := by
  have triggers : ∀ g, ¬ TriggersGuard i g := not_triggers fun g e => by rw [c] at e; cases e
  have reports := not_reports run fun _ _ e => by rw [c] at e; cases e
  have reply : (call cfg s i).1 = .handle (rmwCreateGuardCondition (s.enter i)).1 := by
    rw [run, c]
    rfl
  rw [c]
  rcases rmwCreateGuardCondition_spec wf with none | ⟨g, made, new, elements, custom⟩
  · have nothing : (perform cfg .createGuardCondition (s.enter i)).2 = s.enter i :=
      congrArg Prod.snd none
    rw [nothing]
    apply KeptGuards.step own (SameGuards.kept rfl) triggers ?_ reports
    rintro g ⟨-, e⟩
    rw [reply, none] at e
    cases e
  · have created : CreatesGuard cfg s i g := ⟨c, reply.trans (congrArg Reply.handle made)⟩
    have only : ∀ g', CreatesGuard cfg s i g' → g' = g := by
      rintro g' ⟨-, e⟩
      rw [reply, made] at e
      exact (Option.some.inj (Reply.handle.inj e)).symm
    set t := (perform cfg .createGuardCondition (s.enter i)).2
    have content : t.w.ent.guardCondition.custom =
        setAt s.w.ent.guardCondition.custom g (freshGuard g) := custom
    constructor
    · intro g'
      dsimp only
      rw [content]
      by_cases e : g' = g
      · rw [e, setAt_self]
        exact fun _ => rfl
      · rw [setAt_of_ne _ _ e]
        exact own g'
    · intro g' hg' new'
      have e : g' = g := (List.mem_cons.1 (elements ▸ hg')).resolve_right new'
      rw [State.triggered, content, e, setAt_self]
      exact ⟨Bool.false_ne_true, created⟩
    · intro g' hg'
      have ne : g' ≠ g := fun e => new (e ▸ hg')
      have created' : ¬ CreatesGuard cfg s i g' := fun e => ne (only g' e)
      rw [State.triggered, content, setAt_of_ne _ _ ne]
      simp [triggers, reports, created', State.triggered]

theorem destroyGuard_step {j : Nat} (c : i.call = .destroyGuardCondition j) :
    GuardsStep cfg s i (perform cfg i.call (s.enter i)).2 := by
  have triggers : ∀ g, ¬ TriggersGuard i g := not_triggers fun g e => by rw [c] at e; cases e
  have creates : ∀ g, ¬ CreatesGuard cfg s i g := not_creates fun e => by rw [c] at e; cases e
  have reports := not_reports run fun _ _ e => by rw [c] at e; cases e
  obtain ⟨elements, custom⟩ := rmwDestroyGuardCondition_spec wf j
  rw [c]
  set t := (perform cfg (.destroyGuardCondition j) (s.enter i)).2
  have content : t.w.ent.guardCondition.custom = s.w.ent.guardCondition.custom := custom
  constructor
  · exact own.of_handle fun g => by rw [content]
  · exact fun g hg new => absurd (elements hg) new
  · intro g _
    rw [State.triggered, content]
    simp [triggers, creates, reports, State.triggered]

theorem triggerGuard_step {h : Option Nat} (c : i.call = .triggerGuardCondition h) :
    GuardsStep cfg s i (perform cfg i.call (s.enter i)).2 := by
  have creates : ∀ g, ¬ CreatesGuard cfg s i g := not_creates fun e => by rw [c] at e; cases e
  have reports := not_reports run fun _ _ e => by rw [c] at e; cases e
  rw [c]
  cases h with
  | none =>
    apply KeptGuards.step own (SameGuards.kept rfl) ?_ creates reports
    intro g e
    rw [TriggersGuard, c] at e
    cases e
  | some j =>
    have own' : OwnGuards (s.enter i) := own
    obtain ⟨memory, handle, up⟩ := rmwTriggerGuardCondition_spec own' j
    set t := (perform cfg (.triggerGuardCondition (some j)) (s.enter i)).2
    have elements : t.w.ent.guardCondition.elements = s.w.ent.guardCondition.elements :=
      congrArg Mempool.elements memory
    constructor
    · exact own'.of_handle handle
    · exact fun g hg new => absurd (elements ▸ hg) new
    · intro g hg
      have valid : isUxrceRmwIdentifierValid ((s.enter i).w.ent.guardCondition.custom
          g).rmwGuardCondition.implementationIdentifier = true := by
        rw [wf.guardHandles g hg]
        rfl
      have triggers : TriggersGuard i g ↔ g = j := by
        rw [TriggersGuard, c]
        constructor
        · exact fun e => (Option.some.inj (Call.triggerGuardCondition.inj e)).symm
        · exact fun e => by rw [e]
      refine (up g).trans ?_
      simp only [valid, triggers, creates, reports, and_true, or_self, not_false_eq_true]
      exact or_comm

omit wf in
theorem wait_step {set : WaitSet Nat} {waitTimeout : Option RmwTime} (c : i.call = .wait set waitTimeout) :
    GuardsStep cfg s i (perform cfg i.call (s.enter i)).2 := by
  have triggers : ∀ g, ¬ TriggersGuard i g := not_triggers fun g e => by rw [c] at e; cases e
  have creates : ∀ g, ¬ CreatesGuard cfg s i g := not_creates fun e => by rw [c] at e; cases e
  set result := rmwWait cfg set waitTimeout (s.enter i)
  have reply : (call cfg s i).1 = .waited result.1.1 result.1.2 := by
    rw [run, c]
    rfl
  have reported : ∀ g, ReportsGuard cfg s i g ↔ some g ∈ result.1.2.guardConditions.getD [] := by
    intro g
    rw [ReportsGuard, reply]
    constructor
    · rintro ⟨ret, left, e, mem⟩
      obtain ⟨-, rfl⟩ := Reply.waited.inj e
      exact mem
    · exact fun mem => ⟨_, _, rfl, mem⟩
  have only : OnlyAt _ (s.enter i) result.2 := rmwWait_only set waitTimeout (s.enter i)
  have elements : result.2.w.ent.guardCondition.elements = s.w.ent.guardCondition.elements :=
    congrArg Mempool.elements only.memory
  rw [c]
  constructor
  · exact own.of_handle only.handle
  · exact fun g hg new => absurd (elements ▸ hg) new
  · intro g _
    refine (rmwWait_flags set waitTimeout (s.enter i) g).trans ?_
    simp only [reported, triggers, creates, false_or]
    rfl

end Calls

/-- **Every step.** -/
theorem step_guards {s : State} (ready : Ready cfg s) (own : OwnGuards s) (i : Step) :
    GuardsStep cfg s i (step cfg s i) := by
  by_cases defined : i.call.defined s.w.ent = true
  · have run : call cfg s i = perform cfg i.call (s.enter i) := if_pos defined
    have wf : Wf cfg (s.enter i) := { ready.wf with }
    rw [step, run]
    cases about : i.call.AboutGuards with
    | false =>
      apply KeptGuards.step own (perform_guards wf about)
      · exact not_triggers fun g e => by rw [e] at about; cases about
      · exact not_creates fun e => by rw [e] at about; cases about
      · exact not_reports run fun _ _ e => by rw [e] at about; cases about
    | true =>
      cases c : i.call with
      | createGuardCondition => exact c ▸ createGuard_step run wf own c
      | destroyGuardCondition j => exact c ▸ destroyGuard_step run wf own c
      | triggerGuardCondition h => exact c ▸ triggerGuard_step run wf own c
      | wait set waitTimeout => exact c ▸ wait_step run own c
      | _ => rw [c] at about; cases about
  · have same : call cfg s i = (.none, s) := if_neg defined
    have kept : KeptGuards (s.enter i) s := SameGuards.kept rfl
    rw [step, same]
    apply kept.step own
    · intro g e
      rw [TriggersGuard] at e
      exact defined (by rw [e]; rfl)
    · rintro g ⟨-, e⟩
      rw [same] at e
      cases e
    · rintro g ⟨ret, left, e, -⟩
      rw [same] at e
      cases e

theorem ownGuards_zero : OwnGuards State.zero := fun g valid => by cases valid

/-- **The history of the flags.** A guard condition in use is up exactly if it was triggered since it
was created or last reported. -/
theorem triggered_iff (is : List Step) {g : Nat}
    (inUse : g ∈ (run cfg is).w.ent.guardCondition.elements) :
    (run cfg is).triggered g = true ↔ TriggeredSince cfg is g := by
  refine @Runs.flag_iff_since _ _ _ (fun s => Ready cfg s ∧ OwnGuards s)
    (fun s => g ∈ s.w.ent.guardCondition.elements) (fun s => s.triggered g = true) _ _
    (fun s i h => ⟨(step_path h.1 i).2, (step_guards h.1 h.2 i).own⟩) (fun s i h new used => ?_)
    (fun s i h used _ => (step_guards h.1 h.2 i).kept g used) _ ⟨ready_zero cfg, ownGuards_zero⟩ ?_ is inUse
  · obtain ⟨down, created⟩ := (step_guards h.1 h.2 i).fresh g used new
    refine ⟨down, .inl created, fun triggers => ?_⟩
    rw [TriggersGuard, created.1] at triggers
    cases triggers
  · simp [State.zero, Entities.zero, Slots.zero, Slots.elements, Mempool.elements, Mempool.zero,
      Mempool.allocated, Intrusive.walk]

end RmwMicroxrcedds
