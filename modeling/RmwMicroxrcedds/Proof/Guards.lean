import RmwMicroxrcedds.Proof.Frames
import RmwMicroxrcedds.Proof.Steps
import RmwMicroxrcedds.Proof.Waits

/-!
# The pool of guard conditions

Only the calls about guard conditions and the waits touch the pool. A wait reports the guard
conditions that are up and takes these down. Whether one is up is therefore what the calls since it
was handed out say.
-/

namespace RmwMicroxrcedds
set_option autoImplicit false

open Triples

variable {cfg : Config}

/-- The pool of guard conditions is left alone. -/
def SameGuards (s t : State) : Prop := t.w.ent.guardCondition = s.w.ent.guardCondition

instance : Frame SameGuards where
  refl _ := rfl
  trans := fun _ _ _ h k => k.trans h
  of_ent ent := congrArg Entities.guardCondition ent

namespace SameGuards

theorem overlooks_session : Overlooks SameGuards .session := fun _ _ => rfl

theorem overlooks_nodes : OverlooksNodes SameGuards := by
  constructor <;> exact fun _ _ => rfl

end SameGuards

/-- `hasTriggered` of a guard condition. -/
def State.triggered (s : State) (g : Nat) : Bool := (s.w.ent.guardCondition.custom g).hasTriggered

theorem SameGuards.triggered {s t : State} (h : SameGuards s t) (g : Nat) :
    t.triggered g = s.triggered g :=
  congrArg (fun u : Slots GuardCondition => (u.custom g).hasTriggered) h

/-! ## What a wait does -/

/-- The reset of a reported guard condition. -/
def resetGuard (i : Nat) (s : State) : State :=
  s.mapEnt fun e =>
    { e with guardCondition := e.guardCondition.update i fun g => { g with hasTriggered := false } }

theorem resetGuard_handle (i : Nat) (s : State) (j : Nat) :
    ((resetGuard i s).w.ent.guardCondition.custom j).rmwGuardCondition =
      (s.w.ent.guardCondition.custom j).rmwGuardCondition :=
  s.w.ent.guardCondition.update_keep i (f := fun g => { g with hasTriggered := false })
    (fun _ => rfl) j

theorem resetGuard_of_ne {i j : Nat} (s : State) (ne : j ≠ i) :
    (resetGuard i s).w.ent.guardCondition.custom j = s.w.ent.guardCondition.custom j :=
  s.w.ent.guardCondition.update_custom_of_ne (fun g => { g with hasTriggered := false }) ne

/-- A guard condition that is down is reset already. -/
theorem resetGuard_of_down {i : Nat} {s : State} (down : s.triggered i = false) :
    resetGuard i s = s := by
  have same : s.w.ent.guardCondition.update i (fun g => { g with hasTriggered := false }) =
      s.w.ent.guardCondition := by
    have custom : (⟨false, (s.w.ent.guardCondition.custom i).rmwGuardCondition⟩ : GuardCondition) =
        s.w.ent.guardCondition.custom i := by rw [← down]; rfl
    exact congrArg (Slots.mk s.w.ent.guardCondition.memory) (setAt_same custom)
  simp only [resetGuard, State.mapEnt, same]

theorem resetGuard_triggered (i : Nat) (s : State) (g : Nat) :
    (resetGuard i s).triggered g = true ↔ s.triggered g = true ∧ g ≠ i := by
  by_cases e : g = i
  · subst e
    have down : (resetGuard g s).triggered g = false :=
      congrArg GuardCondition.hasTriggered (s.w.ent.guardCondition.update_custom_self g
        fun g => { g with hasTriggered := false })
    simp [down]
  · rw [State.triggered, resetGuard_of_ne s e]
    simp [State.triggered, e]

theorem checkGuardConditions_cons (i : Nat) (rest : List Nat) (s : State) :
    checkGuardConditions (i :: rest) s =
      ((if s.triggered i then some i else none) :: (checkGuardConditions rest (resetGuard i s)).1,
        (checkGuardConditions rest (resetGuard i s)).2) := by
  rw [checkGuardConditions, Prog.bind_run, readElement_run]
  by_cases up : s.triggered i = true
  · rw [if_pos up, if_pos (show ((Kind.guardCondition.slots s.w.ent).custom i).hasTriggered = true from up)]
    rfl
  · rw [resetGuard_of_down (Bool.eq_false_iff.2 up), if_neg up,
      if_neg (show ¬ ((Kind.guardCondition.slots s.w.ent).custom i).hasTriggered = true from up)]
    rfl

/-- Of the guard conditions only the flags of those listed have changed. -/
structure OnlyAt (entries : List Nat) (s t : State) : Prop where
  memory : t.w.ent.guardCondition.memory = s.w.ent.guardCondition.memory
  handle : ∀ i, (t.w.ent.guardCondition.custom i).rmwGuardCondition =
    (s.w.ent.guardCondition.custom i).rmwGuardCondition
  others : ∀ i, i ∉ entries →
    t.w.ent.guardCondition.custom i = s.w.ent.guardCondition.custom i

theorem SameGuards.onlyAt {entries : List Nat} {s t : State} (h : SameGuards s t) :
    OnlyAt entries s t := by
  constructor <;> rw [h]
  · exact fun _ => rfl
  · exact fun _ _ => rfl

theorem checkGuardConditions_only (entries : List Nat) (s : State) :
    OnlyAt entries s (checkGuardConditions entries s).2 := by
  induction entries generalizing s with
  | nil => exact SameGuards.onlyAt rfl
  | cons j rest ih =>
    rw [checkGuardConditions_cons]
    obtain ⟨memory, handle, others⟩ := ih (resetGuard j s)
    constructor
    · exact memory
    · exact fun i => (handle i).trans (resetGuard_handle j s i)
    · intro i hi
      rw [others i fun h => hi (List.mem_cons_of_mem _ h)]
      exact resetGuard_of_ne s fun h => hi (h ▸ List.mem_cons_self)

/-- What is up before the check is reported and down afterwards. -/
theorem checkGuardConditions_flags (entries : List Nat) (s : State) :
    let r := checkGuardConditions entries s
    (∀ g, r.2.triggered g = true ↔ s.triggered g = true ∧ g ∉ entries) ∧
      ∀ g, some g ∈ r.1 ↔ g ∈ entries ∧ s.triggered g = true := by
  induction entries generalizing s with
  | nil => exact ⟨fun g => by simp [checkGuardConditions, Prog.pure_run],
      fun g => by simp [checkGuardConditions, Prog.pure_run]⟩
  | cons i rest ih =>
    rw [checkGuardConditions_cons]
    obtain ⟨flags, reported⟩ := ih (resetGuard i s)
    constructor
    · intro g
      rw [flags, resetGuard_triggered, List.mem_cons, not_or, and_assoc]
    · intro g
      rw [List.mem_cons, reported, resetGuard_triggered, List.mem_cons]
      by_cases e : g = i
      · subst e
        by_cases up : s.triggered g = true <;> simp [up]
      · have other : ¬ some g = if s.triggered i then some i else none := by
          split
          · exact fun h => e (Option.some.inj h)
          · exact Option.some_ne_none g
        simp [e, other]

/-- Where no guard condition is listed twice, the entries show what was up before. -/
theorem checkGuardConditions_entries {entries : List Nat} (distinct : entries.Nodup) (s : State) :
    (checkGuardConditions entries s).1 =
      entries.map fun g => if s.triggered g then some g else none := by
  induction entries generalizing s with
  | nil => rfl
  | cons i rest ih =>
    obtain ⟨new, distinct⟩ := List.nodup_cons.1 distinct
    have same : ∀ g ∈ rest, (resetGuard i s).triggered g = s.triggered g := by
      intro g hg
      have ne : g ≠ i := fun e => new (e ▸ hg)
      rw [State.triggered, resetGuard_of_ne s ne]
      rfl
    rw [checkGuardConditions_cons, List.map_cons, ih distinct]
    show _ :: _ = _ :: _
    rw [List.map_congr_left fun g hg => by rw [same g hg]]

theorem sameGuards_waitSessions (set : WaitSet Nat) (waitTimeout : Option RmwTime) (s : State) :
    SameGuards s (waitSessions cfg set waitTimeout s).2 :=
  frame_waitSessions SameGuards.overlooks_session set waitTimeout s

/-- A wait touches the flags of its guard conditions and nothing else of the pool. -/
theorem rmwWait_only (set : WaitSet Nat) (waitTimeout : Option RmwTime) (s : State) :
    OnlyAt (set.guardConditions.getD []) s (rmwWait cfg set waitTimeout s).2 := by
  by_cases absent : set.Absent
  · rw [rmwWait_absent absent]
    exact SameGuards.onlyAt rfl
  · rw [rmwWait_present absent]
    have before : SameGuards s (waitSessions cfg set waitTimeout s).2 :=
      sameGuards_waitSessions set waitTimeout s
    obtain ⟨memory, handle, others⟩ := checkGuardConditions_only (set.guardConditions.getD [])
      (waitSessions cfg set waitTimeout s).2
    rw [SameGuards] at before
    rw [before] at memory handle others
    exact ⟨memory, handle, others⟩

/-- The entries a wait leaves in its array of guard conditions are those of the check. -/
theorem rmwWait_reported (set : WaitSet Nat) (waitTimeout : Option RmwTime) (s : State) (g : Nat) :
    some g ∈ (rmwWait cfg set waitTimeout s).1.2.guardConditions.getD [] ↔
      g ∈ set.guardConditions.getD [] ∧ s.triggered g = true := by
  by_cases absent : set.Absent
  · rw [rmwWait_absent absent]
    simp [absent.2.2.2]
  · obtain ⟨-, reported⟩ := checkGuardConditions_flags (set.guardConditions.getD [])
      (waitSessions cfg set waitTimeout s).2
    have before : (waitSessions cfg set waitTimeout s).2.triggered g = s.triggered g :=
      (sameGuards_waitSessions set waitTimeout s).triggered g
    rw [← before, ← reported g, rmwWait_present absent]
    cases given : set.guardConditions with
    | none => simp [WaitSet.checked, given, checkGuardConditions, Prog.pure_run]
    | some l => simp [WaitSet.checked, given]

/-- The guard conditions that are up after a wait are those that were up and are not reported. -/
theorem rmwWait_flags (set : WaitSet Nat) (waitTimeout : Option RmwTime) (s : State) (g : Nat) :
    (rmwWait cfg set waitTimeout s).2.triggered g = true ↔ s.triggered g = true ∧
      some g ∉ (rmwWait cfg set waitTimeout s).1.2.guardConditions.getD [] := by
  rw [rmwWait_reported]
  by_cases absent : set.Absent
  · rw [rmwWait_absent absent]
    simp [absent.2.2.2]
  · obtain ⟨flags, -⟩ := checkGuardConditions_flags (set.guardConditions.getD [])
      (waitSessions cfg set waitTimeout s).2
    have before : (waitSessions cfg set waitTimeout s).2.triggered g = s.triggered g :=
      (sameGuards_waitSessions set waitTimeout s).triggered g
    rw [rmwWait_present absent, flags, before]
    tauto

/-! ## The other calls -/

/-- The guard conditions in use and the contents of their elements are as before. -/
structure KeptGuards (s t : State) : Prop where
  elements : t.w.ent.guardCondition.elements = s.w.ent.guardCondition.elements
  custom : t.w.ent.guardCondition.custom = s.w.ent.guardCondition.custom

theorem SameGuards.kept {s t : State} (h : SameGuards s t) : KeptGuards s t :=
  ⟨congrArg Slots.elements h, congrArg Slots.custom h⟩

/-- **`rmw_init`** finds the pool initialised, or initialises it while no guard condition is in use. -/
theorem rmwInit_guards {s : State} (wf : Wf cfg s) (env : InitEnvironment) :
    KeptGuards s (rmwInit cfg env s).2 := by
  have rule : Hoare (fun t => t.w.ent.guardCondition.Ok cfg.maxGuardCondition ∧ KeptGuards s t)
      (rmwInit cfg env) fun _ t => t.w.ent.guardCondition.Ok cfg.maxGuardCondition ∧ KeptGuards s t := by
    apply rmwInit_rule env
    · rintro t u ⟨ok, kept⟩ only
      have same : SameGuards t u := only.frame SameGuards.overlooks_session
      have pool : u.w.ent.guardCondition = t.w.ent.guardCondition := same
      exact ⟨pool ▸ ok, same.kept.elements.trans kept.elements, same.kept.custom.trans kept.custom⟩
    · refine .of fun t ⟨ok, kept⟩ => ?_
      obtain ⟨ok', elements, -⟩ := ok.init
      exact ⟨ok', elements.trans kept.elements, kept.custom⟩
  exact (rule s ⟨wf.guardCondition, SameGuards.kept rfl⟩).2.2

/-- The calls that work on guard conditions. -/
def Call.AboutGuards : Call → Bool
  | .wait .. | .createGuardCondition | .destroyGuardCondition _ | .triggerGuardCondition _ => true
  | _ => false

/-- Every other call leaves the guard conditions alone. -/
theorem perform_guards {s : State} (wf : Wf cfg s) {c : Call} (other : c.AboutGuards = false) :
    KeptGuards s (perform cfg c s).2 := by
  have sessions := SameGuards.overlooks_session
  have nodes := SameGuards.overlooks_nodes
  have releases := nodes.releases
  have same : ∀ {α : Type} {p : Prog α} {f : α → Reply}, Within SameGuards p →
      KeptGuards s ((do return f (← p) : Prog Reply) s).2 := fun h => SameGuards.kept (h s)
  cases c with
  | init env => exact rmwInit_guards wf env
  | shutdown impl => exact same (frame_rmwShutdown sessions releases impl)
  | createNode context name namespace_ => exact same (frame_rmwCreateNode sessions nodes.node _ _ _)
  | destroyNode node => exact same (walk_rmwDestroyNode releases node)
  | createPublisher node typeSupport topicName qosPolicies =>
    exact same (walk_rmwCreatePublisher sessions.write nodes.topic.topics nodes.publisher.publishers _ _ _ _)
  | destroyPublisher node publisher =>
    exact same (walk_rmwDestroyPublisher releases.topic releases.publisher _ _)
  | createSubscription node typeSupport topicName qosPolicies =>
    exact same (frame_rmwCreateSubscription sessions nodes.topic.topics nodes.subscription _ _ _ _)
  | destroySubscription node subscription =>
    exact same (walk_rmwDestroySubscription releases.topic releases.subscription _ _)
  | createService node typeSupport serviceName qosPolicies requestId =>
    exact same (frame_rmwCreateService sessions nodes.service _ _ _ _)
  | destroyService node service => exact same (walk_rmwDestroyService releases.service _ _)
  | createClient node typeSupport serviceName qosPolicies requestId =>
    exact same (frame_rmwCreateClient sessions nodes.client _ _ _ _)
  | destroyClient node client => exact same (walk_rmwDestroyClient releases.client _ _)
  | take subscription cdrDeserialize => exact same (outer_takeFrom _ _ _ _)
  | takeRequest service cdrDeserialize => exact same (outer_takeFrom _ _ _ _)
  | takeResponse client cdrDeserialize => exact same (outer_takeFrom _ _ _ _)
  | publish env publisher => exact same (walk_rmwPublish _ _)
  | sendRequest env client =>
    have sent : Within SameGuards (perform cfg (.sendRequest env client)) :=
      Within.bind (walk_sendOn _ _ _ _ _) fun ret => by cases ret <;> exact .pure
    exact SameGuards.kept (sent s)
  | sendResponse env service =>
    have sent : Within SameGuards (perform cfg (.sendResponse env service)) :=
      Within.bind (walk_sendOn _ _ _ _ _) fun ret => by cases ret <;> exact .pure
    exact SameGuards.kept (sent s)
  | syncSession offset => exact same (frame_rmwUrosSyncSession sessions offset)
  | time d => exact SameGuards.kept rfl
  | _ => cases other

/-! ## The calls about guard conditions -/

/-- Whatever carries the identifier leads to its own element, in use or not. -/
def OwnGuards (s : State) : Prop :=
  ∀ g, let handle := (s.w.ent.guardCondition.custom g).rmwGuardCondition
    isUxrceRmwIdentifierValid handle.implementationIdentifier = true → handle.data = some g

theorem OwnGuards.of_handle {s t : State} (own : OwnGuards s)
    (handle : ∀ g, (t.w.ent.guardCondition.custom g).rmwGuardCondition =
      (s.w.ent.guardCondition.custom g).rmwGuardCondition) : OwnGuards t := by
  intro g
  rw [handle g]
  exact own g

/-- The element of a guard condition just created. -/
def freshGuard (g : Nat) : GuardCondition :=
  { hasTriggered := false, rmwGuardCondition := ⟨some .eprosimaMicroxrcedds, some g⟩ }

/-- **`rmw_create_guard_condition`** -/
theorem rmwCreateGuardCondition_spec {s : State} (wf : Wf cfg s) :
    rmwCreateGuardCondition s = (none, s) ∨ ∃ g, (rmwCreateGuardCondition s).1 = some g ∧
      let t := (rmwCreateGuardCondition s).2.w.ent.guardCondition
      g ∉ s.w.ent.guardCondition.elements ∧ t.elements = g :: s.w.ent.guardCondition.elements ∧
        t.custom = setAt s.w.ent.guardCondition.custom g (freshGuard g) := by
  rw [rmwCreateGuardCondition, Prog.bind_run]
  cases h : s.w.ent.guardCondition.get.1 with
  | none =>
    rw [getMemory_none .guardCondition wf.guardCondition h]
    exact .inl rfl
  | some g =>
    obtain ⟨-, free, -, elements⟩ := wf.guardCondition.get_some h
    rw [getMemory_some .guardCondition h]
    exact .inr ⟨g, rfl, free, elements, rfl⟩

/-- **`rmw_destroy_guard_condition`** -/
theorem rmwDestroyGuardCondition_spec {s : State} (wf : Wf cfg s) (i : Nat) :
    let t := (rmwDestroyGuardCondition i s).2.w.ent.guardCondition
    t.elements ⊆ s.w.ent.guardCondition.elements ∧ t.custom = s.w.ent.guardCondition.custom := by
  intro t
  by_cases h : i ∈ s.w.ent.guardCondition.elements
  · have e : t = s.w.ent.guardCondition.put i := by
      simp only [t]
      rw [rmwDestroyGuardCondition, Prog.get_run, if_pos (by simpa using h)]
      rfl
    obtain ⟨-, elements⟩ := wf.guardCondition.put h
    rw [e, elements]
    exact ⟨List.erase_subset, rfl⟩
  · have e : t = s.w.ent.guardCondition := by
      simp only [t]
      rw [rmwDestroyGuardCondition, Prog.get_run, if_neg (by simpa using h)]
      rfl
    rw [e]
    exact ⟨List.Subset.refl _, rfl⟩

/-- **`rmw_trigger_guard_condition`** puts the flag of the guard condition up if that carries the
identifier, and touches nothing else. -/
theorem rmwTriggerGuardCondition_spec {s : State} (own : OwnGuards s) (i : Nat) :
    let t := (rmwTriggerGuardCondition (some i) s).2
    t.w.ent.guardCondition.memory = s.w.ent.guardCondition.memory ∧
      (∀ g, (t.w.ent.guardCondition.custom g).rmwGuardCondition =
        (s.w.ent.guardCondition.custom g).rmwGuardCondition) ∧
      ∀ g, t.triggered g = true ↔ s.triggered g = true ∨ g = i ∧ isUxrceRmwIdentifierValid
        (s.w.ent.guardCondition.custom g).rmwGuardCondition.implementationIdentifier = true := by
  intro t
  by_cases valid : isUxrceRmwIdentifierValid
      (s.w.ent.guardCondition.custom i).rmwGuardCondition.implementationIdentifier = true
  · have e : t.w.ent.guardCondition =
        s.w.ent.guardCondition.update i fun g => { g with hasTriggered := true } := by
      have carries : isUxrceRmwIdentifierValid ((Kind.guardCondition.slots s.w.ent).custom
        i).rmwGuardCondition.implementationIdentifier = true := valid
      have data : ((Kind.guardCondition.slots s.w.ent).custom i).rmwGuardCondition.data = some i :=
        own i valid
      simp only [t]
      rw [rmwTriggerGuardCondition, Prog.bind_run, readElement_run]
      dsimp only
      rw [if_pos carries, data]
      rfl
    refine ⟨by rw [e]; rfl, fun g => ?_, fun g => ?_⟩
    · rw [e]
      exact s.w.ent.guardCondition.update_keep i (f := fun g => { g with hasTriggered := true })
        (fun _ => rfl) g
    · rw [State.triggered, e]
      by_cases same : g = i
      · subst same
        rw [Slots.update_custom_self]
        simp [valid]
      · rw [Slots.update_custom_of_ne _ _ same]
        simp [same, State.triggered]
  · have e : t = s := by
      simp only [t]
      rw [rmwTriggerGuardCondition, Prog.bind_run, readElement_run, if_neg]
      · rfl
      · exact valid
    refine ⟨by rw [e], fun g => by rw [e], fun g => ?_⟩
    rw [e]
    constructor
    · exact .inl
    · rintro (up | ⟨rfl, carries⟩)
      · exact up
      · exact absurd carries valid

end RmwMicroxrcedds
