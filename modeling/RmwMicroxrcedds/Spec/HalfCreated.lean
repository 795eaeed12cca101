import RmwMicroxrcedds.Spec.Routing

/-!
# Entities under construction

An element is in its list, and so in the callbacks' view, from `get_memory` on, with the id of its
previous use. Where no such left-over id is the one delivered, a sample reaches an entity that was
given the id in the session that is open.
-/

namespace RmwMicroxrcedds
set_option autoImplicit false

variable {cfg : Config}

/-- A buffer filled by a callback is owned by an entity that was given an id in the present session,
the id delivered. -/
def StoredForGiven (cfg : Config) (m : Moment) : Prop :=
  ∀ c ∈ m.act.callback?,
    let r := callback cfg c.1 c.2 m.world
    ∀ i ∈ r.2, ∃ o ∈ (r.1.buf.slot i).owner,
      m.ghost.givenIn o = some m.ghost.epoch ∧ m.world.ent.Carries c.2 o

instance (cfg : Config) (m : Moment) : Decidable (StoredForGiven cfg m) :=
  inferInstanceAs (Decidable (∀ c ∈ m.act.callback?, ∀ i ∈ _, ∃ o ∈ _, _))

/-- No entity under construction still shows the id delivered. -/
def NoLeftOverId (m : Moment) : Prop :=
  ∀ c ∈ m.act.callback?, ∀ o ∈ m.world.ent.scanned c.2,
    m.world.ent.Carries c.2 o → m.ghost.givenIn o ≠ none

instance (m : Moment) : Decidable (NoLeftOverId m) :=
  inferInstanceAs (Decidable (∀ c ∈ m.act.callback?, ∀ o ∈ _, _))

/-- At most one context is open. -/
def SingleContext (m : Moment) : Prop := m.world.ent.session.elements.length ≤ 1

instance (m : Moment) : Decidable (SingleContext m) := inferInstanceAs (Decidable (_ ≤ _))

/-- Every entity in use is under construction or was given its id in the present session. -/
def GivenNow (s : State) : Prop :=
  ∀ o, s.Alive o → s.ghost.givenIn o = none ∨ s.ghost.givenIn o = some s.ghost.epoch

/-- While a session opens alone, nothing in use has an id. -/
theorem nothing_given {s : State} (wf : Wf cfg s) {c : Nat}
    (unused : ∀ n ∈ s.w.ent.node.elements, (s.w.ent.node.custom n).context ≠ some c)
    (used : c ∈ s.w.ent.session.elements) (single : s.w.ent.session.elements.length ≤ 1) (o : Owner)
    (alive : s.Alive o) : s.ghost.givenIn o = none := by
  by_contra given
  obtain ⟨n, hn, -⟩ := wf.owner o alive given
  obtain ⟨d, hd, context⟩ := wf.context n hn
  have same : d = c := by
    obtain ⟨x, hx⟩ := List.length_eq_one_iff.1
      (le_antisymm single (List.length_pos_of_mem used))
    rw [hx, List.mem_singleton] at used hd
    rw [used, hd]
  exact unused n hn (same ▸ context)

theorem GivenNow.atomic {s t : State} (h : GivenNow s) (step : Atomic cfg s t)
    (single : ∀ m ∈ t.trace, SingleContext m) : GivenNow t := by
  obtain ⟨wf, -, micro⟩ := step
  cases micro with
  | quiet buffers owners =>
    intro o alive
    rw [owners.givenIn, owners.epoch]
    exact h o ((owners.alive o).1 alive)
  | acquire o buffers dead alive ghost =>
    intro p hp
    rw [ghost]
    by_cases e : p = o
    · exact .inl (if_pos e)
    · have given : (s.ghost.handedOut o).givenIn p = s.ghost.givenIn p := if_neg e
      rw [given]
      exact h p (((alive p).1 hp).resolve_left e)
  | assign o =>
    intro p hp
    by_cases e : p = o
    · exact .inr (if_pos e)
    · have given : (s.ghost.given o).givenIn p = s.ghost.givenIn p := if_neg e
      exact given ▸ h p hp
  | release o buffers live alive ghost =>
    intro p hp
    rw [ghost]
    exact h p ((alive p).1 hp).2
  | opened c ok unused used =>
    intro o alive
    exact .inl (nothing_given wf unused used (single _ List.mem_cons_self) o alive)
  | callback session ev route =>
    have raised := raise_raised wf session route
    intro o alive
    rw [raised.givenIn, raised.epoch]
    rw [State.Alive, raised.ent] at alive
    exact h o alive
  | _ => exact h

/-- **A half-created entity never receives data** in every run with one context at a time in which
no entity under construction shows an id that is delivered. -/
theorem stored_for_given (is : List Step) (single : ∀ m ∈ (run cfg is).trace, SingleContext m)
    (silent : ∀ m ∈ (run cfg is).trace, NoLeftOverId m) :
    ∀ m ∈ (run cfg is).trace, StoredForGiven cfg m := by
  refine moment_rule (P := fun m => SingleContext m ∧ NoLeftOverId m) (K := GivenNow)
    (fun s t step all h => h.atomic step fun m hm => (all m hm).1)
    (fun o alive => .inl rfl) ?_ fun m hm => ⟨single m hm, silent m hm⟩
  rintro s t m ⟨wf, -, micro⟩ trace ⟨-, silent⟩ given ⟨session, ev⟩ hc r i hi
  have act := Act.callback?_eq_some.1 hc
  have moment := (micro.recorded trace).2 (by rw [act]; simp)
  have world : m.world = s.w := by rw [moment]
  have ghost : m.ghost = s.ghost := by rw [moment]
  obtain ⟨-, -, -, delivery⟩ := callback_spec (w := m.world) cfg session ev (world ▸ wf.staticBuffer)
  have filled : r.2 = some i := hi
  rw [show (callback cfg session ev m.world).2 = some i from filled] at delivery
  obtain ⟨o, finds, -, -, slot⟩ := delivery.filled
  have carries : m.world.ent.Carries ev o := by
    obtain ⟨before, after, -, route, -⟩ := finds
    exact route
  have alive : s.Alive o := by
    rw [State.Alive, ← world]
    exact Entities.alive_of_scanned finds.mem
  have known := silent (session, ev) hc o finds.mem carries
  refine ⟨o, congrArg StaticInputBuffer.owner slot, ?_, carries⟩
  rw [ghost] at known ⊢
  exact (given o alive).resolve_left known

/-- A subscription is destroyed and created again with nothing arriving in between. -/
theorem stored_for_given_quiet :
    let is := [Small.init 0, Small.createNode 1, Small.createSubscription 1 (Small.profile 1 ⟨0, 0⟩),
      Small.wait 1 [Small.sample 0 [7]], Small.destroySubscription 1 1,
      Small.createSubscription 1 (Small.profile 1 ⟨0, 0⟩), Small.wait 1 [Small.sample 1 [8]]]
    (∀ m ∈ (run Small.config is).trace, SingleContext m) ∧
      (∀ m ∈ (run Small.config is).trace, NoLeftOverId m) ∧
      ∀ m ∈ (run Small.config is).trace, StoredForGiven Small.config m :=
  have single := by decide
  have silent := by decide
  ⟨single, silent, stored_for_given _ single silent⟩

/-- A late sample for the datareader of a destroyed subscription arrives while the topic of the next
one is being created in the same slot: it is stored for the subscription under construction. -/
theorem half_created_receives :
    let is := [Small.init 0, Small.createNode 1, Small.createSubscription 1 (Small.profile 1 ⟨0, 0⟩),
      Small.destroySubscription 1 1,
      ⟨.createSubscription (some 1) (some Small.typeSupport) (some ['t'])
        (some (Small.profile 1 ⟨0, 0⟩)), ⟨[Small.sample 0 [7]], true⟩ :: Small.confirming⟩]
    (∀ m ∈ (run Small.config is).trace, SingleContext m) ∧
      ¬ ∀ m ∈ (run Small.config is).trace, StoredForGiven Small.config m := by
  decide

end RmwMicroxrcedds
