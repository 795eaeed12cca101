import RmwMicroxrcedds.Proof.Sessions

/-!
# Handing out and releasing elements

The runs of `getMemory`, `acquire` and `finiMemory` in terms of the lists of elements in use, and
the calm ones among them: those of topics, publishers and guard conditions.
-/

namespace RmwMicroxrcedds
set_option autoImplicit false

open Triples

variable {cfg : Config} {β : Type} {n : Nat}

/-- The history variables when an element is handed out. -/
def Kind.handOut (k : Kind β) (i : Nat) (g : Ghost) : Ghost :=
  match k.owner i with
  | some o => g.handedOut o
  | none => g

theorem getMemory_none (k : Kind β) {s : State} (ok : (k.slots s.w.ent).Ok n)
    (h : (k.slots s.w.ent).get.1 = none) : getMemory k s = (none, s) := by
  have same := ok.get_none h
  have e : getMemory k s = ((k.slots s.w.ent).get.1,
      (s.mapEnt (k.withSlots (k.slots s.w.ent).get.2)).mapGhost fun g =>
        match (k.slots s.w.ent).get.1.bind k.owner with
        | some o => g.handedOut o
        | none => g) := rfl
  rw [e, h, same]
  simp only [State.mapEnt, State.mapGhost, k.withSlots_slots, Option.bind_none]

theorem getMemory_some (k : Kind β) {s : State} {i : Nat} (h : (k.slots s.w.ent).get.1 = some i) :
    getMemory k s = (some i,
      (s.mapEnt (k.withSlots (k.slots s.w.ent).get.2)).mapGhost (k.handOut i)) := by
  have e : getMemory k s = ((k.slots s.w.ent).get.1,
      (s.mapEnt (k.withSlots (k.slots s.w.ent).get.2)).mapGhost fun g =>
        match (k.slots s.w.ent).get.1.bind k.owner with
        | some o => g.handedOut o
        | none => g) := rfl
  rw [e, h]
  rfl

theorem writeElement_run (k : Kind β) (i : Nat) (f : β → β) (s : State) :
    writeElement k i f s = ((), s.mapEnt fun e => k.withSlots ((k.slots e).update i f) e) := rfl

/-- `acquire` fails exactly when no element is free, and then changes nothing. -/
theorem acquire_none [Element β] (k : Kind β) (enter : β → β) {s : State}
    (ok : (k.slots s.w.ent).Ok n) (h : (k.slots s.w.ent).get.1 = none) :
    acquire k enter s = (none, s) := by
  rw [acquire, Prog.bind_run, getMemory_none k ok h]
  rfl

/-- `acquire` hands out an element with its handle filled in. -/
theorem acquire_some [Element β] (k : Kind β) (enter : β → β) {s : State} {i : Nat}
    (h : (k.slots s.w.ent).get.1 = some i) :
    acquire k enter s = (some i,
      (s.mapEnt (k.withSlots ((k.slots s.w.ent).opened i enter))).mapGhost (k.handOut i)) := by
  rw [acquire, Prog.bind_run, getMemory_some k h]
  simp only [Prog.bind_run, writeElement_run, Prog.pure_run, State.mapEnt, State.mapGhost,
    k.slots_withSlots, k.withSlots_withSlots, Slots.opened]

/-- Releasing a handle of an element that is not in use does nothing. -/
theorem finiMemory_of_not_mem [Element β] (k : Kind β) (clear : β → β) {s : State} {i : Nat}
    (hs : Handles (k.slots s.w.ent)) (h : i ∉ (k.slots s.w.ent).elements) :
    finiMemory k clear i s = ((), s) := by
  have hb := hs.of_not_mem h
  rw [finiMemory, Prog.bind_run, readElement_run]
  simp only [hb, Option.bind_none, ne_eq, reduceCtorEq, not_false_eq_true, if_true]
  rw [Prog.modify_run, State.mapEnt, Slots.fini_of_not_mem hs h, k.withSlots_slots]

/-- The release of an element as it is recorded. -/
def Kind.released (k : Kind β) (i : Nat) (s : State) : State :=
  match k.owner i with
  | some o => s.record (.release o)
  | none => s

theorem finiMemory_of_mem [Element β] (k : Kind β) (clear : β → β) {s : State} {i : Nat}
    (hs : Handles (k.slots s.w.ent)) (h : i ∈ (k.slots s.w.ent).elements) :
    finiMemory k clear i s =
      ((), (k.released i s).mapEnt fun e => k.withSlots ((k.slots e).fini clear i) e) := by
  have hb := hs.of_mem h
  rw [finiMemory, Prog.bind_run, readElement_run]
  simp only [hb, Option.bind_some, ne_eq, Option.some.injEq, reduceCtorEq, not_false_eq_true, if_true]
  rw [Kind.released]
  cases k.owner i <;> rfl

/-! ## Topics, publishers and guard conditions -/

/-- Whatever happens to the topics is calm: the invariant leaves them out. -/
theorem calm_of_topic {α : Type} {p : Prog α}
    (h : ∀ s, ∃ t, (p s).2 = s.mapEnt fun e => { e with topic := t }) : Calm cfg p := ⟨fun s wf => by
  obtain ⟨t, e⟩ := h s
  rw [e]
  have benign : Benign s (s.mapEnt fun e => { e with topic := t }) :=
    ⟨rfl, rfl, rfl, rfl, rfl, fun _ => rfl, fun o => by cases o <;> rfl, rfl, rfl, rfl, rfl⟩
  have wf' : Wf cfg (s.mapEnt fun e => { e with topic := t }) :=
    { wf with owner := wf.owner_of_benign benign }
  exact ⟨.single ⟨wf, wf', benign.micro⟩, wf', benign⟩⟩

theorem calm_getTopic : Calm cfg (getMemory .topic) :=
  calm_of_topic fun s => ⟨s.w.ent.topic.get.2, by
    cases h : s.w.ent.topic.get.1 with
    | none =>
      have e : getMemory .topic s = (s.w.ent.topic.get.1,
          (s.mapEnt fun e => { e with topic := s.w.ent.topic.get.2 }).mapGhost fun g =>
            match s.w.ent.topic.get.1.bind Kind.topic.owner with
            | some o => g.handedOut o
            | none => g) := rfl
      rw [e, h]
      rfl
    | some i => rw [getMemory_some .topic h]; rfl⟩

theorem calm_rmwUxrceFiniTopicMemory (topic : Nat) : Calm cfg (rmwUxrceFiniTopicMemory topic) :=
  (calm_of_topic fun s => ⟨s.w.ent.topic.put topic, rfl⟩).bind fun _ => calm_writeTopic _ _

theorem calm_of_publisher {α : Type} {p : Prog α}
    (h : ∀ s, Wf cfg s → ∃ t : Slots Publisher, (p s).2 = (s.mapEnt fun e => { e with publisher := t }) ∧
      t.Ok cfg.maxPublishers ∧ Handles t) : Calm cfg p := ⟨fun s wf => by
  obtain ⟨t, e, ok, handles⟩ := h s wf
  rw [e]
  have benign : Benign s (s.mapEnt fun e => { e with publisher := t }) :=
    ⟨rfl, rfl, rfl, rfl, rfl, fun _ => rfl, fun o => by cases o <;> rfl, rfl, rfl, rfl, rfl⟩
  have wf' : Wf cfg (s.mapEnt fun e => { e with publisher := t }) :=
    { wf with publisher := ok, publisherHandles := handles, owner := wf.owner_of_benign benign }
  exact ⟨.single ⟨wf, wf', benign.micro⟩, wf', benign⟩⟩

theorem calm_acquirePublisher : Calm cfg (acquire .publisher id) := calm_of_publisher fun s wf => by
  cases h : s.w.ent.publisher.get.1 with
  | none =>
    rw [acquire_none .publisher id wf.publisher h]
    exact ⟨s.w.ent.publisher, rfl, wf.publisher, wf.publisherHandles⟩
  | some i =>
    rw [acquire_some .publisher id h]
    exact ⟨_, rfl, (wf.publisher.get_some h).1.update _ _, wf.publisherHandles.opened wf.publisher h id⟩

/-- The pool after the release of an element in use. -/
theorem Slots.Ok.fini [Element β] {t : Slots β} (ok : t.Ok n) (hs : Handles t) {i : Nat}
    (h : i ∈ t.elements) (clear : β → β)
    (keep : ∀ b, Element.handle (clear b) = Element.handle b) :
    (t.fini clear i).Ok n ∧ Handles (t.fini clear i) ∧
      (t.fini clear i).elements = t.elements.erase i ∧
      ∀ j, j ≠ i → (t.fini clear i).custom j = t.custom j := by
  obtain ⟨custom, e, own, others⟩ := Slots.fini_of_mem hs h keep
  obtain ⟨ok', elements⟩ := ok.put h
  have elements' : (t.fini clear i).elements = t.elements.erase i := by
    rw [e]
    exact elements
  refine ⟨e ▸ ok'.of_memory rfl, fun j => ?_, elements', fun j hj => ?_⟩
  · rw [elements']
    by_cases hj : j = i
    · subst hj
      rw [e]
      simpa [ok.nodup.mem_erase_iff] using own
    · rw [e]
      simp only [others j hj, hs j, ok.nodup.mem_erase_iff, ne_eq, hj, not_false_eq_true, true_and]
  · rw [e]
    exact others j hj

theorem calm_rmwUxrceFiniPublisherMemory (i : Nat) : Calm cfg (rmwUxrceFiniPublisherMemory i) :=
  calm_of_publisher fun s wf => by
    by_cases h : i ∈ s.w.ent.publisher.elements
    · obtain ⟨ok, handles, -, -⟩ := wf.publisher.fini wf.publisherHandles h id fun _ => rfl
      rw [rmwUxrceFiniPublisherMemory, finiMemory_of_mem .publisher id wf.publisherHandles h]
      exact ⟨_, rfl, ok, handles⟩
    · rw [rmwUxrceFiniPublisherMemory, finiMemory_of_not_mem .publisher id wf.publisherHandles h]
      exact ⟨s.w.ent.publisher, rfl, wf.publisher, wf.publisherHandles⟩

end RmwMicroxrcedds
