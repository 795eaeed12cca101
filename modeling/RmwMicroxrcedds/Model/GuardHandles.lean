import RmwMicroxrcedds.Model.System

/-!
# `rmw_node_get_graph_guard_condition`: guard conditions as the user sees them

A `rmw_guard_condition_t *` leads to an untyped pointer, which `rmw_trigger_guard_condition` and
`rmw_wait` cast. The machine of this file extends the one of all calls by the graph guard condition
and by triggers and waits on any guard condition; it lists the guard conditions that were given to
the user and are still there.
-/

namespace RmwMicroxrcedds
set_option autoImplicit false

/-- A `rmw_guard_condition_t *`: the one embedded in an element of the pool, or that of a context. -/
inductive GuardHandle where
  | created (guardCondition : Nat)
  | graph (context : Nat)
deriving DecidableEq

/-- What a data pointer points to: a `rmw_uxrce_guard_condition_t`, or `graph_info.has_changed` of a
context. -/
inductive GuardTarget where
  | guardCondition (i : Nat)
  | hasChanged (context : Nat)
deriving DecidableEq

/-- `guard_condition->implementation_identifier`. -/
def guardIdentifier (w : World) : GuardHandle → Option Identifier
  | .created i => (w.ent.guardCondition.custom i).rmwGuardCondition.implementationIdentifier
  | .graph context => (w.ent.session.custom context).graphGuardCondition.implementationIdentifier

/-- `guard_condition->data`. That of a context only ever gets the address of its `has_changed`. -/
def guardData (w : World) : GuardHandle → Option GuardTarget
  | .created i => (w.ent.guardCondition.custom i).rmwGuardCondition.data.map .guardCondition
  | .graph context => (w.ent.session.custom context).graphGuardCondition.data.map .hasChanged

/-- `rmw_node_get_graph_guard_condition`. -/
def rmwNodeGetGraphGuardCondition (cfg : Config) (node : Nat) : Prog GuardHandle := do
  let customNode := deref (← readElement .node node).rmwNode.data
  let context ← contextOf customNode
  if cfg.graph then
    let c ← readElement .session context
    if c.graphGuardCondition.data = none then
      writeElement .session context fun c =>
        { c with graphGuardCondition := { c.graphGuardCondition with data := some context } }
  return .graph context

/-- The element that the cast of a data pointer leads to, where there is one. -/
def castGuard (w : World) (h : GuardHandle) : Option Nat :=
  match guardData w h with
  | some (.guardCondition i) => some i
  | _ => none

/-- `rmw_trigger_guard_condition`. A cast that leads to no guard condition has no result. -/
def triggerHandle (h : GuardHandle) (s : State) : Option (RmwRet × State) :=
  if isUxrceRmwIdentifierValid (guardIdentifier s.w h) then
    (castGuard s.w h).map fun i =>
      (.ok, (writeElement .guardCondition i (fun g => { g with hasTriggered := true }) s).2)
  else some (.error, s)

/-- `rmw_wait` with the data pointers of guard conditions. -/
def waitHandles (cfg : Config) (set : WaitSet Nat) (guardConditions : List GuardHandle)
    (waitTimeout : Option RmwTime) (agent : List Answer) (s : State) : Option (Reply × State) :=
  (guardConditions.mapM (castGuard s.w)).map fun data =>
    call cfg s ⟨.wait { set with guardConditions := some data } waitTimeout, agent⟩

/-- The steps: a call of the API, or one about a guard condition. -/
inductive GuardStep where
  | api (i : Step)
  | getGraphGuardCondition (node : Nat)
  | trigger (guardCondition : GuardHandle)
  | wait (set : WaitSet Nat) (guardConditions : List GuardHandle) (waitTimeout : Option RmwTime)
      (agent : List Answer)

/-- The library, the guard conditions the user holds, and for each context how long the trace was
when its graph guard condition was last reported, or the context opened. -/
structure GuardState where
  s : State
  handed : List GuardHandle
  reportedAt : Nat → Nat

def GuardState.zero : GuardState := { s := .zero, handed := [], reportedAt := fun _ => 0 }

/-- Not destroyed, and of an open context. -/
def GuardHandle.Live (s : State) : GuardHandle → Prop
  | .created i => i ∈ s.w.ent.guardCondition.elements
  | .graph context => context ∈ s.w.ent.session.elements

instance (s : State) : DecidablePred (GuardHandle.Live s)
  | .created _ => inferInstanceAs (Decidable (_ ∈ _))
  | .graph _ => inferInstanceAs (Decidable (_ ∈ _))

/-- The guard condition a call gives to the user. -/
def Reply.created? (c : Call) (reply : Reply) : List GuardHandle :=
  match c, reply with
  | .createGuardCondition, .handle (some i) => [.created i]
  | _, _ => []

/-- Whether the entry at a position was left in the wait set. -/
def Reply.Reports (reply : Reply) (k : Nat) : Prop :=
  match reply with
  | .waited _ set => ∃ i, (set.guardConditions.getD [])[k]? = some (some i)
  | _ => False

instance (reply : Reply) (k : Nat) : Decidable (reply.Reports k) :=
  match reply with
  | .waited _ set =>
    match h : (set.guardConditions.getD [])[k]? with
    | some (some i) => .isTrue ⟨i, h⟩
    | some none => .isFalse fun ⟨_, e⟩ => by simp [h] at e
    | none => .isFalse fun ⟨_, e⟩ => by simp [h] at e
  | .none | .ret _ | .opened .. | .handle _ | .took _ => .isFalse id

/-- The changes of a step, before the handles that it ended are dropped. -/
def guardAct (cfg : Config) (g : GuardState) : GuardStep → GuardState
  | .api i =>
    let (reply, t) := call cfg g.s i
    { s := t
      handed := reply.created? i.call ++ g.handed
      reportedAt :=
        match reply with
        | .opened _ (some context) => setAt g.reportedAt context g.s.trace.length
        | _ => g.reportedAt }
  | .getGraphGuardCondition node =>
    if node ∈ g.s.w.ent.node.elements then
      let (h, t) := rmwNodeGetGraphGuardCondition cfg node g.s
      { g with s := t, handed := h :: g.handed }
    else g
  | .trigger h =>
    match triggerHandle h g.s with
    | none => g
    | some (_, t) => { g with s := t }
  | .wait set guardConditions waitTimeout agent =>
    match waitHandles cfg set guardConditions waitTimeout agent g.s with
    | none => g
    | some (reply, t) =>
      { g with
        s := t
        reportedAt := fun context =>
          if ∃ k < guardConditions.length,
              guardConditions[k]? = some (.graph context) ∧ reply.Reports k then
            t.trace.length
          else g.reportedAt context }

/-- The step function. A program that casts a wrong pointer is over; it stays in the state before. -/
def guardStep (cfg : Config) (g : GuardState) (i : GuardStep) : GuardState :=
  let g' := guardAct cfg g i
  { g' with handed := g'.handed.filter fun h => h.Live g'.s }

/-- The state after a run. -/
def guardRun (cfg : Config) (is : List GuardStep) : GuardState :=
  Runs.exec (guardStep cfg) GuardState.zero is

end RmwMicroxrcedds
