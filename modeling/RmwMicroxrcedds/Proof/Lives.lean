import RmwMicroxrcedds.Proof.Receipts
import RmwMicroxrcedds.Proof.UnmovedCreations

/-!
# The lives of an entity

An address is handed out again and again, and its incarnation counts how often. Between two states with one
incarnation the entity has not been handed out, so one in use in the later state was in use all along, and has
the profile it had.
-/

namespace RmwMicroxrcedds
set_option autoImplicit false

open Triples

variable {cfg : Config} {γ δ : Type}

/-- Incarnations grow from `s` on, and an entity in use that was not handed out since was in use in `s`. -/
def Continues (s : State) (e : Entities) (g : Ghost) : Prop :=
  ∀ o, s.ghost.incarnation o ≤ g.incarnation o ∧
    (e.Alive o → g.incarnation o = s.ghost.incarnation o → s.Alive o)

theorem Continues.refl (s : State) : Continues s s.w.ent s.ghost := fun _ => ⟨le_rfl, fun alive _ => alive⟩

theorem Continues.trans {s t : State} {e : Entities} {g : Ghost} (first : Continues s t.w.ent t.ghost)
    (next : Continues t e g) : Continues s e g := by
  intro o
  obtain ⟨le, back⟩ := first o
  obtain ⟨le', back'⟩ := next o
  refine ⟨le.trans le', fun alive same => ?_⟩
  have same' : g.incarnation o = t.ghost.incarnation o := by omega
  exact back (back' alive same') (same'.symm.trans same)

/-- Actions after which the same entities are in use, or fewer. -/
theorem Continues.of_alive {s t : State} (incarnation : t.ghost.incarnation = s.ghost.incarnation)
    (alive : ∀ o, t.Alive o → s.Alive o) : Continues s t.w.ent t.ghost := fun o =>
  ⟨(congrFun incarnation o).ge, fun ho _ => alive o ho⟩

theorem Atomic.continues {s t : State} (step : Atomic cfg s t) : Continues s t.w.ent t.ghost := by
  obtain ⟨wf, -, micro⟩ := step
  cases micro with
  | quiet _ owners => exact .of_alive owners.incarnation fun o => (owners.alive o).1
  | acquire o _ dead alive ghost =>
    intro p
    rw [ghost]
    by_cases e : p = o
    · subst e
      have next : (s.ghost.handedOut p).incarnation p = s.ghost.incarnation p + 1 := if_pos rfl
      refine ⟨by omega, fun _ same => ?_⟩
      omega
    · have same : (s.ghost.handedOut o).incarnation p = s.ghost.incarnation p := if_neg e
      exact ⟨same.ge, fun ho _ => ((alive p).1 ho).resolve_left e⟩
  | release o _ _ alive ghost => exact .of_alive (by rw [ghost]) fun p ho => ((alive p).1 ho).2
  | callback session ev route =>
    have raised := raise_raised wf session route
    refine .of_alive raised.incarnation fun o ho => ?_
    rwa [State.Alive, raised.ent] at ho
  | note | assign | opened | tick | expire | take | flush | enter => exact .refl _

/-- A moment has the incarnations of the state it is recorded in. -/
theorem Micro.incarnation_of_recorded {s t : State} {m : Moment} (h : Micro cfg s t)
    (e : t.trace = m :: s.trace) : m.ghost.incarnation = s.ghost.incarnation := by
  have stay : ∀ {l : List Moment}, l = m :: l → False := fun e => by simpa using congrArg List.length e
  cases h with
  | opened c ok =>
    rw [← (List.cons.inj e).1]
    rfl
  | quiet _ _ trace | acquire _ _ _ _ _ trace => exact (stay (trace.symm.trans e)).elim
  | assign | tick | enter => exact (stay e).elim
  | release _ _ _ _ _ trace => rw [← (List.cons.inj (trace.symm.trans e)).1]
  | callback session ev route =>
    cases ev with
    | time d => exact absurd rfl route
    | _ => rw [← (List.cons.inj e).1]
  | note | expire | take | flush => rw [← (List.cons.inj e).1]

/-- The end of a path and the moments recorded on it continue its start. -/
theorem Path.continues {s t : State} (path : Path cfg s t) :
    Continues s t.w.ent t.ghost ∧
      ∃ newer, t.trace = newer ++ s.trace ∧ ∀ m ∈ newer, Continues s m.world.ent m.ghost := by
  induction path with
  | refl => exact ⟨.refl s, [], rfl, fun _ hm => absurd hm List.not_mem_nil⟩
  | @tail t u path step ih =>
    obtain ⟨first, newer, trace, all⟩ := ih
    refine ⟨first.trans step.continues, ?_⟩
    rcases step.2.2.trace_cases with same | ⟨m, e, world, -⟩
    · exact ⟨newer, same.trans trace, all⟩
    · refine ⟨m :: newer, by rw [e, trace, List.cons_append], ?_⟩
      intro m' hm
      rcases List.mem_cons.1 hm with rfl | old
      · intro o
        rw [world, step.2.2.incarnation_of_recorded e]
        exact first o
      · exact all m' old

/-! ## Profiles -/

/-- The profile of one entity. -/
theorem records_qos_of (o : Owner) : Records fun e => e.qos o where
  session e u same := congrFun (records_qos.session e u same) o
  node e u same := congrFun (records_qos.node e u same) o
  topic e u same := congrFun (records_qos.topic e u same) o
  guardCondition e u same := congrFun (records_qos.guardCondition e u same) o
  publisher e u same := congrFun (records_qos.publisher e u same) o
  subscription e u same := congrFun (records_qos.subscription e u same) o
  service e u same := congrFun (records_qos.service e u same) o
  client e u same := congrFun (records_qos.client e u same) o

/-- The slots handed out next are not those of an entity in use. -/
theorem elsewhere_qos {s : State} (wf : Wf cfg s) {o : Owner} (alive : s.Alive o) :
    Elsewhere (fun e => e.qos o) s := by
  constructor
  · intro i _ f s'
    exact .silent (by cases o <;> rfl) rfl
  · intro i slot f s'
    refine .silent ?_ rfl
    cases o with
    | subscription j =>
      have ne : j ≠ i := by
        rintro rfl
        exact (wf.subscription.get_some slot).2.1 alive
      exact congrArg Subscription.qos (Slots.update_custom_of_ne _ _ ne)
    | _ => rfl
  · intro i slot f s'
    refine .silent ?_ rfl
    cases o with
    | service j =>
      have ne : j ≠ i := by
        rintro rfl
        exact (wf.service.get_some slot).2.1 alive
      exact congrArg Service.qos (Slots.update_custom_of_ne _ _ ne)
    | _ => rfl
  · intro i slot f s'
    refine .silent ?_ rfl
    cases o with
    | client j =>
      have ne : j ≠ i := by
        rintro rfl
        exact (wf.client.get_some slot).2.1 alive
      exact congrArg Client.qos (Slots.update_custom_of_ne _ _ ne)
    | _ => rfl

/-- Two moments of one life of an entity see one profile. -/
def OneProfile (l : List Moment) : Prop :=
  ∀ m ∈ l, ∀ m' ∈ l, ∀ o, m.world.ent.Alive o → m'.world.ent.Alive o →
    m.ghost.incarnation o = m'.ghost.incarnation o → m.world.ent.qos o = m'.world.ent.qos o

theorem OneProfile.suffix {l l' : List Moment} (h : l <:+ l') (all : OneProfile l') : OneProfile l :=
  fun m hm m' hm' => all m (h.subset hm) m' (h.subset hm')

/-- The state after a call, seen from the moments so far. -/
structure Profiled (s : State) : Prop where
  moments : OneProfile s.trace
  now : ∀ m ∈ s.trace, ∀ o, m.world.ent.Alive o → s.Alive o →
    m.ghost.incarnation o = s.ghost.incarnation o → m.world.ent.qos o = s.w.ent.qos o
  past : ∀ m ∈ s.trace, ∀ o, m.ghost.incarnation o ≤ s.ghost.incarnation o

/-- The numbers of the moments recorded so far are not above those of the state. -/
theorem Path.past {s t : State} (path : Path cfg s t)
    (past : ∀ m ∈ s.trace, ∀ o, m.ghost.incarnation o ≤ s.ghost.incarnation o) :
    ∀ m ∈ t.trace, ∀ o, m.ghost.incarnation o ≤ t.ghost.incarnation o := by
  refine path.keeps (K := fun s => ∀ m ∈ s.trace, ∀ o, m.ghost.incarnation o ≤ s.ghost.incarnation o)
    (fun s t step h m hm o => ?_) past
  have grows := (step.continues o).1
  rcases step.2.2.trace_cases with same | ⟨m', e, -, -⟩
  · exact (h m (same ▸ hm) o).trans grows
  · rw [e] at hm
    rcases List.mem_cons.1 hm with rfl | old
    · rwa [step.2.2.incarnation_of_recorded e]
    · exact (h m old o).trans grows

/-- A call keeps this: the moments of the call see the profiles it leaves, and those of the entities in use
before are the ones there were. -/
theorem Profiled.perform {s t : State} (h : Profiled s) (wf : Wf cfg s) {c : Call}
    (after : (perform cfg c s).2 = t) (path : Path cfg s t) : Profiled t := by
  obtain ⟨newer, trace, settled⟩ := @perform_settles cfg c s
  obtain ⟨lives, newer', trace', lived⟩ := path.continues
  rw [after] at trace settled
  obtain rfl : newer' = newer := List.append_cancel_right (trace'.symm.trans trace)
  have stay : ∀ o, s.Alive o → t.w.ent.qos o = s.w.ent.qos o := fun o alive =>
    after ▸ ((records_qos_of o).perform (elsewhere_qos wf alive) c).same
  have past := path.past h.past
  have split : ∀ m ∈ t.trace, m ∈ newer' ∨ m ∈ s.trace := fun m hm => List.mem_append.1 (trace ▸ hm)
  -- an old moment and a new state or moment of one life
  have carry : ∀ m ∈ s.trace, ∀ (e : Entities) (g : Ghost), Continues s e g → ∀ o, m.world.ent.Alive o →
      e.Alive o → m.ghost.incarnation o = g.incarnation o → m.world.ent.qos o = t.w.ent.qos o := by
    intro m hm e g continues o alive alive' same
    obtain ⟨grows, back⟩ := continues o
    have le := h.past m hm o
    have was : s.Alive o := back alive' (by omega)
    exact (h.now m hm o alive was (by omega)).trans (stay o was).symm
  refine ⟨?_, ?_, past⟩
  · intro m hm m' hm' o alive alive' same
    rcases split m hm with new | old <;> rcases split m' hm' with new' | old'
    · rw [settled m new, settled m' new']
    · rw [settled m new]
      exact (carry m' old' _ _ (lived m new) o alive' alive same.symm).symm
    · rw [settled m' new']
      exact carry m old _ _ (lived m' new') o alive alive' same
    · exact h.moments m old m' old' o alive alive' same
  · intro m hm o alive alive' same
    rcases split m hm with new | old
    · rw [settled m new]
    · exact carry m old _ _ lives o alive alive' same

theorem Profiled.step {s : State} (h : Profiled s) (ready : Ready cfg s) (i : Step) :
    Profiled (RmwMicroxrcedds.step cfg s i) := by
  rw [RmwMicroxrcedds.step, call]
  split
  · have wf : Wf cfg (s.enter i) := { ready.wf with }
    have entered : Profiled (s.enter i) := ⟨h.moments, h.now, h.past⟩
    exact entered.perform wf rfl (perform_ready wf (c := i.call) rfl ‹_›).1
  · exact h

theorem profiled_run (cfg : Config) (is : List Step) : Profiled (run cfg is) := by
  induction is using List.reverseRecOn with
  | nil =>
    have none : ∀ m ∈ (run cfg []).trace, False := fun m hm => absurd hm List.not_mem_nil
    exact ⟨fun m hm => (none m hm).elim, fun m hm => (none m hm).elim, fun m hm => (none m hm).elim⟩
  | append_singleton is i ih =>
    rw [run_concat]
    exact ih.step (run_path cfg is).2 i

/-- **One profile a life.** -/
theorem oneProfile_run (cfg : Config) (is : List Step) : OneProfile (run cfg is).trace :=
  (profiled_run cfg is).moments

end RmwMicroxrcedds
