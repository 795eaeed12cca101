import RmwMicroxrcedds.Proof.Receipts

/-!
# Contexts and routing

The callbacks look an entity up by its id alone, and every context numbers its objects from 0. A
sample therefore reaches an entity of the context it was delivered in only while no entity of
another context that carries the same id stands in front of it in the list of its kind.
-/

namespace RmwMicroxrcedds
set_option autoImplicit false

variable {cfg : Config}

/-- The entity carries the id an event is delivered for. -/
def Entities.Carries (e : Entities) (ev : SessionEvent) (o : Owner) : Prop :=
  ev.route = some (e.route o)

instance (e : Entities) (ev : SessionEvent) (o : Owner) : Decidable (e.Carries ev o) :=
  inferInstanceAs (Decidable (_ = _))

/-- A buffer filled by a callback is owned by an entity of the context whose session raised it,
which carries the id. -/
def Routed (cfg : Config) (m : Moment) : Prop :=
  ∀ c ∈ m.act.callback?,
    let r := callback cfg c.1 c.2 m.world
    ∀ i ∈ r.2, ∃ o ∈ (r.1.buf.slot i).owner,
      r.1.ent.Alive o ∧ r.1.ent.ownerContext o = some c.1 ∧ r.1.ent.Carries c.2 o

instance (cfg : Config) (m : Moment) : Decidable (Routed cfg m) :=
  inferInstanceAs (Decidable (∀ c ∈ m.act.callback?, ∀ i ∈ _, ∃ o ∈ _, _))

/-- In front of every entity of another context that carries the id delivered, one of the
delivering context carries it. -/
def OwnFirst (m : Moment) : Prop :=
  ∀ c ∈ m.act.callback?, ∀ o ∈ m.world.ent.scanned c.2, m.world.ent.Carries c.2 o →
    m.world.ent.ownerContext o = some c.1 ∨
    ∃ p ∈ (m.world.ent.scanned c.2).takeWhile (· ≠ o),
      m.world.ent.Carries c.2 p ∧ m.world.ent.ownerContext p = some c.1

instance (m : Moment) : Decidable (OwnFirst m) :=
  inferInstanceAs (Decidable (∀ c ∈ m.act.callback?, ∀ o ∈ _, _))

theorem mem_before_of_mem_takeWhile {α : Type} [DecidableEq α] {before after : List α} {a b : α}
    (h : b ∈ (before ++ a :: after).takeWhile (· ≠ a)) : b ∈ before := by
  induction before with
  | nil => simp at h
  | cons x before ih =>
    by_cases hx : x = a
    · subst hx
      simp at h
    · rw [List.cons_append, List.takeWhile_cons_of_pos (by simpa using hx)] at h
      rcases List.mem_cons.1 h with rfl | h
      · simp
      · exact List.mem_cons_of_mem _ (ih h)

/-- One callback: the entity found belongs to the delivering context. -/
theorem ownerContext_of_finds {m : Moment} (first : OwnFirst m) {session : Nat} {ev : SessionEvent}
    (act : m.act = .callback session ev) {o : Owner} (finds : m.world.ent.Finds ev o) :
    m.world.ent.ownerContext o = some session := by
  have mem := finds.mem
  obtain ⟨before, after, scan, route, none⟩ := finds
  rcases first (session, ev) (Act.callback?_eq_some.2 act) o mem route with own | ⟨p, hp, carries, -⟩
  · exact own
  · rw [scan] at hp
    exact absurd carries (none p (mem_before_of_mem_takeWhile hp))

/-- **Routing respects contexts** in every run in which each callback finds its own context's
entities in front. -/
theorem stored_in_own_context (is : List Step)
    (first : ∀ m ∈ (run cfg is).trace, OwnFirst m) : ∀ m ∈ (run cfg is).trace, Routed cfg m := by
  refine moment_rule (K := fun _ => True) (fun _ _ _ _ _ => trivial) trivial ?_ first
  rintro s t m ⟨wf, -, micro⟩ trace first - ⟨session, ev⟩ hc r i hi
  have act := Act.callback?_eq_some.1 hc
  have world : m.world = s.w := by
    rw [(micro.recorded trace).2 (by rw [act]; simp)]
  obtain ⟨ent, -, -, delivery⟩ := callback_spec (w := m.world) cfg session ev
    (world ▸ wf.staticBuffer)
  have filled : r.2 = some i := hi
  rw [show (callback cfg session ev m.world).2 = some i from filled] at delivery
  obtain ⟨o, finds, -, -, slot⟩ := delivery.filled
  refine ⟨o, ?_, ?_, ?_, ?_⟩
  · exact congrArg StaticInputBuffer.owner slot
  · rw [show r.1.ent = m.world.ent from ent]
    exact Entities.alive_of_scanned finds.mem
  · rw [show r.1.ent = m.world.ent from ent]
    exact ownerContext_of_finds first act finds
  · rw [show r.1.ent = m.world.ent from ent]
    obtain ⟨before, after, -, route, -⟩ := finds
    exact route

/-- One context and its subscription: the sample is delivered where it belongs. -/
theorem stored_in_own_context_single :
    (∀ m ∈ (run Small.config [Small.init 0, Small.createNode 1,
        Small.createSubscription 1 (Small.profile 1 ⟨0, 0⟩), Small.wait 1 [Small.sample 0 [7]]]).trace,
      OwnFirst m) ∧
    ∀ m ∈ (run Small.config [Small.init 0, Small.createNode 1,
        Small.createSubscription 1 (Small.profile 1 ⟨0, 0⟩), Small.wait 1 [Small.sample 0 [7]]]).trace,
      Routed Small.config m :=
  have first := by decide
  ⟨first, stored_in_own_context _ first⟩

/-- Two contexts with a subscription each: a sample for datareader 0 of the older context is stored
for the subscription of the younger one, whose datareader is number 0 as well. -/
theorem sample_crosses_contexts :
    ¬ ∀ m ∈ (run Small.config [Small.init 0, Small.init 0, Small.createNode 1, Small.createNode 0,
        Small.createSubscription 1 (Small.profile 1 ⟨0, 0⟩),
        Small.createSubscription 0 (Small.profile 1 ⟨0, 0⟩),
        Small.wait 1 [Small.sample 0 [7]]]).trace, Routed Small.config m := by
  decide

end RmwMicroxrcedds
