import RmwMicroxrcedds.Model.GuardHandles
import RmwMicroxrcedds.Proof.Guards

/-!
# Guard conditions that are real

The guard conditions of the pool lead to themselves as long as they are in use. The one of a context
leads nowhere, or to a flag of the graph info: the first call that hands it out breaks the promise,
and no other call can.
-/

namespace RmwMicroxrcedds
set_option autoImplicit false

open Triples

variable {cfg : Config}

/-! ## What a real guard condition is -/

/-- Of the guard conditions nothing has changed but the flags of those that the handles lead to. -/
structure OnlyFlags (hs : List GuardHandle) (s t : State) : Prop where
  memory : t.w.ent.guardCondition.memory = s.w.ent.guardCondition.memory
  handle : ∀ i, (t.w.ent.guardCondition.custom i).rmwGuardCondition =
    (s.w.ent.guardCondition.custom i).rmwGuardCondition
  flag : ∀ i, (∀ h ∈ hs, castGuard s.w h ≠ some i) →
    t.w.ent.guardCondition.custom i = s.w.ent.guardCondition.custom i

/-- The handle leads to a guard condition in use, and a trigger sets its flag and nothing else. -/
def Real (s : State) (h : GuardHandle) : Prop :=
  ∃ i ∈ s.w.ent.guardCondition.elements, guardData s.w h = some (.guardCondition i) ∧
    triggerHandle h s = some (.ok, s.mapEnt fun e =>
      { e with guardCondition := e.guardCondition.update i fun g => { g with hasTriggered := true } })

/-- A sample for the graph of the context was stored since its guard condition was last reported. -/
def GuardState.StoredSince (cfg : Config) (g : GuardState) (context : Nat) (s : State) : Prop :=
  ∃ m ∈ s.trace.take (s.trace.length - g.reportedAt context), ∃ ev,
    m.act = .callback context ev ∧ graphSample cfg context m.world ev

/-- The promise about guard conditions, over a run. -/
structure GuardsReal (cfg : Config) (is : List GuardStep) : Prop where
  real : ∀ pre, pre <+: is → ∀ h ∈ (guardRun cfg pre).handed, Real (guardRun cfg pre).s h
  wait : ∀ pre set guardConditions waitTimeout agent post,
    is = pre ++ .wait set guardConditions waitTimeout agent :: post →
    (∀ h ∈ guardConditions, h ∈ (guardRun cfg pre).handed) →
    ∃ r, waitHandles cfg set guardConditions waitTimeout agent (guardRun cfg pre).s = some r ∧
      OnlyFlags guardConditions (guardRun cfg pre).s r.2
  graph : cfg.graph = true → ∀ pre set guardConditions waitTimeout agent post,
    is = pre ++ .wait set guardConditions waitTimeout agent :: post →
    (∀ h ∈ guardConditions, h ∈ (guardRun cfg pre).handed) →
    ∀ (k : Nat) context, guardConditions[k]? = some (.graph context) →
    ∃ r, waitHandles cfg set guardConditions waitTimeout agent (guardRun cfg pre).s = some r ∧
      (r.1.Reports k ↔ (guardRun cfg pre).StoredSince cfg context r.2)

/-! ## Guard conditions of the pool -/

section Created
variable {s : State} (wf : Wf cfg s) {i : Nat} (hi : i ∈ s.w.ent.guardCondition.elements)
include wf hi

theorem guardData_created : guardData s.w (.created i) = some (.guardCondition i) := by
  rw [guardData, wf.guardHandles i hi]
  rfl

theorem castGuard_created : castGuard s.w (.created i) = some i := by
  rw [castGuard, guardData_created wf hi]

/-- **A guard condition of the pool is real** while it is in use. -/
theorem real_created : Real s (.created i) := by
  refine ⟨i, hi, guardData_created wf hi, ?_⟩
  have valid : isUxrceRmwIdentifierValid (guardIdentifier s.w (.created i)) = true := by
    rw [guardIdentifier, wf.guardHandles i hi]
    rfl
  rw [triggerHandle, if_pos valid, castGuard_created wf hi]
  rfl

end Created

/-- The casts of guard conditions of the pool. -/
theorem casts_created {s : State} (wf : Wf cfg s) {guards : List GuardHandle}
    (created : ∀ h ∈ guards, ∃ i, h = .created i ∧ i ∈ s.w.ent.guardCondition.elements) :
    ∃ data, guards.mapM (castGuard s.w) = some data ∧
      ∀ i ∈ data, ∃ h ∈ guards, castGuard s.w h = some i := by
  induction guards with
  | nil => exact ⟨[], rfl, by simp⟩
  | cons h guards ih =>
    obtain ⟨i, rfl, hi⟩ := created h List.mem_cons_self
    obtain ⟨data, casts, sources⟩ := ih fun h' mem => created h' (List.mem_cons_of_mem _ mem)
    have cast := castGuard_created wf hi
    refine ⟨i :: data, by simp [cast, casts], fun j hj => ?_⟩
    obtain rfl | mem := List.mem_cons.1 hj
    · exact ⟨_, List.mem_cons_self, cast⟩
    · obtain ⟨h', mem', e⟩ := sources j mem
      exact ⟨h', List.mem_cons_of_mem _ mem', e⟩

/-- A wait on guard conditions of the pool that are in use. -/
theorem waitHandles_created {s : State} (wf : Wf cfg s) {guards : List GuardHandle}
    (created : ∀ h ∈ guards, ∃ i, h = .created i ∧ i ∈ s.w.ent.guardCondition.elements)
    (set : WaitSet Nat) (waitTimeout : Option RmwTime) (agent : List Answer) :
    ∃ r, waitHandles cfg set guards waitTimeout agent s = some r ∧ OnlyFlags guards s r.2 := by
  obtain ⟨data, casts, sources⟩ := casts_created wf created
  set i : Step := ⟨.wait { set with guardConditions := some data } waitTimeout, agent⟩
  refine ⟨call cfg s i, by rw [waitHandles, casts]; rfl, ?_⟩
  unfold call
  split
  · obtain ⟨memory, handle, flag⟩ : OnlyAt data (s.enter i)
      (rmwWait cfg { set with guardConditions := some data } waitTimeout (s.enter i)).2 :=
      rmwWait_only { set with guardConditions := some data } waitTimeout (s.enter i)
    refine ⟨memory, handle, fun j none => flag j fun mem => ?_⟩
    obtain ⟨h, hh, e⟩ := sources j mem
    exact none h hh e
  · exact ⟨rfl, fun _ => rfl, fun _ _ => rfl⟩

/-! ## Runs -/

/-- What holds as long as the graph guard condition is not asked for. -/
structure Sane (cfg : Config) (g : GuardState) : Prop where
  ready : Ready cfg g.s
  created : ∀ h ∈ g.handed, ∃ i, h = .created i ∧ i ∈ g.s.w.ent.guardCondition.elements

/-- The step does not ask a node in use for the graph guard condition. -/
def AvoidsGraph (g : GuardState) (i : GuardStep) : Prop :=
  ∀ node ∈ g.s.w.ent.node.elements, i ≠ .getGraphGuardCondition node

theorem Ready.keep {s t : State} (h : Ready cfg s) (wf : Wf cfg t) (call : t.call = s.call)
    (queue : t.queue = s.queue) : Ready cfg t := ⟨wf, fun e => queue.trans (h.done (call ▸ e))⟩

/-- The getter, on a node in use. -/
theorem rmwNodeGetGraphGuardCondition_run {s : State} (ready : Ready cfg s) {node : Nat}
    (hn : node ∈ s.w.ent.node.elements) :
    let r := rmwNodeGetGraphGuardCondition cfg node s
    (∃ context ∈ r.2.w.ent.session.elements, r.1 = .graph context) ∧ Ready cfg r.2 := by
  intro r
  obtain ⟨context, inUse, own⟩ := ready.wf.context node hn
  have handle : ((Kind.node.slots s.w.ent).custom node).rmwNode =
      ⟨some .eprosimaMicroxrcedds, some node⟩ := ready.wf.nodeHandles.of_mem hn
  have calm : Calm cfg (rmwNodeGetGraphGuardCondition cfg node) := by
    unfold rmwNodeGetGraphGuardCondition
    refine (calm_readElement _ _).bind fun _ => (calm_contextOf _).bind fun context => ?_
    refine Calm.ite ((calm_readElement _ _).bind fun c => Calm.ite ?_ Calm.pure) Calm.pure
    exact (calm_writeSession _ _).bind fun _ => Calm.pure
  obtain ⟨-, wf, benign⟩ := calm.run s ready.wf
  have result : r.1 = .graph context ∧ r.2.queue = s.queue := by
    have e : r = (do
        if cfg.graph then
          let c ← readElement .session context
          if c.graphGuardCondition.data = none then
            writeElement .session context fun c =>
              { c with graphGuardCondition := { c.graphGuardCondition with data := some context } }
        return .graph context : Prog GuardHandle) s := by
      show rmwNodeGetGraphGuardCondition cfg node s = _
      rw [rmwNodeGetGraphGuardCondition, Prog.bind_run, readElement_run]
      dsimp only
      rw [handle, Prog.bind_run]
      have found : (contextOf node s).1 = context := by
        show deref (s.w.ent.node.custom node).context = context
        rw [own]
        rfl
      simp only [deref, Option.getD_some, found]
      rfl
    rw [e]
    split
    · rw [Prog.bind_run, readElement_run]
      split
      · exact ⟨rfl, rfl⟩
      · exact ⟨rfl, rfl⟩
    · exact ⟨rfl, rfl⟩
  exact ⟨⟨context, benign.session ▸ inUse, result.1⟩, ready.keep wf benign.call result.2⟩

/-- The state of the library is ready for the next call after every step. -/
theorem guardAct_ready {g : GuardState} (ready : Ready cfg g.s) (i : GuardStep) :
    Ready cfg (guardAct cfg g i).s := by
  cases i with
  | api i => exact (step_path ready i).2
  | getGraphGuardCondition node =>
    simp only [guardAct]
    split
    · exact (rmwNodeGetGraphGuardCondition_run ready ‹_›).2
    · exact ready
  | trigger h =>
    simp only [guardAct]
    split
    · exact ready
    · rename_i ret t e
      unfold triggerHandle at e
      split at e
      · obtain ⟨i, -, e⟩ := Option.map_eq_some_iff.1 e
        obtain ⟨rfl, rfl⟩ := Prod.mk.inj e
        have calm : Calm cfg (writeElement .guardCondition i fun g => { g with hasTriggered := true }) :=
          calm_writeGuardCondition i
        obtain ⟨-, wf, benign⟩ := calm.run g.s ready.wf
        exact ready.keep wf benign.call rfl
      · obtain ⟨rfl, rfl⟩ := Prod.mk.inj (Option.some.inj e)
        exact ready
  | wait set guards waitTimeout agent =>
    simp only [guardAct, waitHandles]
    cases guards.mapM (castGuard g.s.w) with
    | none => exact ready
    | some data => exact (step_path ready _).2

theorem guardStep_ready {g : GuardState} (ready : Ready cfg g.s) (i : GuardStep) :
    Ready cfg (guardStep cfg g i).s := guardAct_ready ready i

theorem guardRun_ready (is : List GuardStep) : Ready cfg (guardRun cfg is).s :=
  Runs.invariant_exec (G := fun _ _ => True) (I := fun g : GuardState => Ready cfg g.s)
    (fun _ i h _ => guardStep_ready h i) (show Ready cfg GuardState.zero.s from ready_zero cfg)
    (Runs.always_iff.2 fun _ _ _ _ => trivial)

/-- Only the getter hands out the guard condition of a context. -/
theorem created_of_handed {g : GuardState} (sane : Sane cfg g) {i : GuardStep}
    (avoids : AvoidsGraph g i) : ∀ h ∈ (guardAct cfg g i).handed, ∃ j, h = .created j := by
  intro h mem
  have old : h ∈ g.handed → ∃ j, h = .created j := fun mem =>
    (sane.created h mem).imp fun _ e => e.1
  cases i with
  | api i =>
    obtain new | mem := List.mem_append.1 mem
    · unfold Reply.created? at new
      split at new
      · exact ⟨_, List.mem_singleton.1 new⟩
      · simp at new
    · exact old mem
  | getGraphGuardCondition node =>
    simp only [guardAct] at mem
    split at mem
    · exact absurd rfl (avoids node ‹_›)
    · exact old mem
  | trigger _ =>
    simp only [guardAct] at mem
    split at mem
    · exact old mem
    · exact old mem
  | wait set guards waitTimeout agent =>
    simp only [guardAct] at mem
    split at mem
    · exact old mem
    · exact old mem

theorem Sane.step {g : GuardState} (sane : Sane cfg g) {i : GuardStep} (avoids : AvoidsGraph g i) :
    Sane cfg (guardStep cfg g i) where
  ready := guardAct_ready sane.ready i
  created h mem := by
    obtain ⟨mem, live⟩ := List.mem_filter.1 mem
    obtain ⟨j, rfl⟩ := created_of_handed sane avoids h mem
    exact ⟨j, rfl, of_decide_eq_true live⟩

/-- The invariant along a run that never asks for the graph guard condition. -/
theorem sane_of_avoids {is : List GuardStep}
    (avoids : Runs.Always (guardStep cfg) AvoidsGraph GuardState.zero is) {pre : List GuardStep}
    (h : pre <+: is) : Sane cfg (guardRun cfg pre) := by
  obtain ⟨rest, rfl⟩ := h
  refine Runs.invariant_exec (G := AvoidsGraph) (fun _ _ sane avoids => sane.step avoids)
    ⟨ready_zero cfg, by simp [GuardState.zero]⟩ (Runs.always_iff.2 fun pre i post e => ?_)
  exact Runs.always_iff.1 avoids pre i (post ++ rest) (by rw [e, List.append_assoc]; rfl)

theorem not_real {s : State} {h : GuardHandle} (cast : castGuard s.w h = none) : ¬ Real s h := by
  rintro ⟨i, -, data, -⟩
  rw [castGuard, data] at cast
  cases cast

/-- The guard condition of a context never leads to an object of its own kind. -/
theorem castGuard_graph (w : World) (context : Nat) : castGuard w (.graph context) = none := by
  rw [castGuard, guardData]
  cases (w.ent.session.custom context).graphGuardCondition.data with
  | none => rfl
  | some _ => rfl

/-- **The guard conditions of a run are real** exactly when no step of it asks a node in use for the
graph guard condition. -/
theorem guards_real_iff (cfg : Config) (is : List GuardStep) :
    GuardsReal cfg is ↔ Runs.Always (guardStep cfg) AvoidsGraph GuardState.zero is := by
  constructor
  · intro guards
    rw [Runs.always_iff]
    rintro pre i post rfl node hn rfl
    have ready : Ready cfg (guardRun cfg pre).s := guardRun_ready pre
    obtain ⟨⟨context, inUse, e⟩, -⟩ := rmwNodeGetGraphGuardCondition_run ready hn
    have after : guardRun cfg (pre ++ [.getGraphGuardCondition node]) =
        guardStep cfg (guardRun cfg pre) (.getGraphGuardCondition node) := by
      rw [guardRun, Runs.exec_append]
      rfl
    have handed : .graph context ∈
        (guardRun cfg (pre ++ [.getGraphGuardCondition node])).handed := by
      have act : guardAct cfg (guardRun cfg pre) (.getGraphGuardCondition node) =
          { guardRun cfg pre with
            s := (rmwNodeGetGraphGuardCondition cfg node (guardRun cfg pre).s).2
            handed := (rmwNodeGetGraphGuardCondition cfg node (guardRun cfg pre).s).1 ::
              (guardRun cfg pre).handed } := if_pos hn
      rw [after, guardStep, act, e]
      exact List.mem_filter.2 ⟨List.mem_cons_self, decide_eq_true inUse⟩
    refine not_real ?_ (guards.real _ ⟨post, by simp⟩ _ handed)
    exact castGuard_graph _ context
  · intro avoids
    refine ⟨fun pre h handle mem => ?_, fun pre set guards waitTimeout agent post e handed => ?_,
      fun _ pre set guards waitTimeout agent post e handed k context entry => ?_⟩
    · have sane := sane_of_avoids avoids h
      obtain ⟨i, rfl, hi⟩ := sane.created handle mem
      exact real_created sane.ready.wf hi
    · have sane := sane_of_avoids avoids ⟨_, e.symm⟩
      exact waitHandles_created sane.ready.wf (fun h mem => sane.created h (handed h mem)) set
        waitTimeout agent
    · have sane := sane_of_avoids avoids ⟨_, e.symm⟩
      obtain ⟨i, none, -⟩ := sane.created _ (handed _ (List.mem_of_getElem? entry))
      cases none

/-- A trigger follows the pointer of every guard condition that carries the identifier. -/
theorem triggerHandle_none {s : State} {h : GuardHandle}
    (valid : isUxrceRmwIdentifierValid (guardIdentifier s.w h) = true)
    (cast : castGuard s.w h = none) : triggerHandle h s = none := by
  rw [triggerHandle, if_pos valid, cast]
  rfl

/-- A wait follows it in any case. -/
theorem waitHandles_none {s : State} {h : GuardHandle} (cast : castGuard s.w h = none)
    (set : WaitSet Nat) (waitTimeout : Option RmwTime) (agent : List Answer) :
    waitHandles cfg set [h] waitTimeout agent s = none := by
  simp [waitHandles, cast]

/-- The getter has handed out a guard condition that leads to `data`, and a trigger of it and a wait
on it follow that pointer. -/
def LeadsAstray (cfg : Config) (is : List GuardStep) (data : Option GuardTarget) : Prop :=
  (guardRun cfg is).handed = [.graph 1] ∧ guardData (guardRun cfg is).s.w (.graph 1) = data ∧
    triggerHandle (.graph 1) (guardRun cfg is).s = none ∧
    waitHandles cfg ⟨none, none, none, none⟩ [.graph 1] none [] (guardRun cfg is).s = none ∧
    ¬ GuardsReal cfg is

theorem leadsAstray {is : List GuardStep} {data : Option GuardTarget}
    (handed : (guardRun cfg is).handed = [.graph 1])
    (target : guardData (guardRun cfg is).s.w (.graph 1) = data)
    (valid : isUxrceRmwIdentifierValid (guardIdentifier (guardRun cfg is).s.w (.graph 1)) = true) :
    LeadsAstray cfg is data := by
  have cast := castGuard_graph (guardRun cfg is).s.w 1
  refine ⟨handed, target, triggerHandle_none valid cast, waitHandles_none cast _ _ _,
    fun guards => not_real cast ?_⟩
  exact guards.real is (List.prefix_refl _) (.graph 1) (handed ▸ List.mem_singleton_self _)

/-- A session, a node, and the graph guard condition of the node. -/
def Small.graphGuard : List GuardStep :=
  [.api (Small.init 0), .api (Small.createNode 1), .getGraphGuardCondition 1]

/-- With the graph profile the guard condition leads to a flag of the graph info, without it
nowhere. -/
theorem graph_guard_is_not_real :
    LeadsAstray Small.config Small.graphGuard none ∧
      LeadsAstray Small.graphConfig Small.graphGuard (some (.hasChanged 1)) := by
  constructor
  · apply leadsAstray <;> decide +kernel
  · apply leadsAstray <;> decide +kernel

end RmwMicroxrcedds
