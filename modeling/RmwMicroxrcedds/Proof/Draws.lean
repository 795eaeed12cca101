import RmwMicroxrcedds.Proof.Dialogue

/-!
# Drawing object ids

The create functions take the ids of their objects from the counters of the context. `Spent` is what
a create function has done so far: the pool it works on, the topics, the kinds it has drawn an id of,
and what it has asked of the agent. The rules follow the actions of the create functions, so that a
walk through one of them ends with the exact list of each.
-/

namespace RmwMicroxrcedds
set_option autoImplicit false

open Triples

variable {cfg : Config} {α β γ : Type}

/-! ## Counters -/

/-- The counter the ids of the objects of a kind are drawn from. -/
def Session.counter (c : Session) : ObjectKind → Nat
  | .invalid => 0
  | .participant => c.idParticipant
  | .topic => c.idTopic
  | .publisher => c.idPublisher
  | .subscriber => c.idSubscriber
  | .datawriter => c.idDatawriter
  | .datareader => c.idDatareader
  | .requester => c.idRequester
  | .replier => c.idReplier

/-- The context once an id has been drawn. -/
def Session.draw (c : Session) : ObjectKind → Session
  | .invalid => c
  | .participant => { c with idParticipant := (c.idParticipant + 1) % 65536 }
  | .topic => { c with idTopic := (c.idTopic + 1) % 65536 }
  | .publisher => { c with idPublisher := (c.idPublisher + 1) % 65536 }
  | .subscriber => { c with idSubscriber := (c.idSubscriber + 1) % 65536 }
  | .datawriter => { c with idDatawriter := (c.idDatawriter + 1) % 65536 }
  | .datareader => { c with idDatareader := (c.idDatareader + 1) % 65536 }
  | .requester => { c with idRequester := (c.idRequester + 1) % 65536 }
  | .replier => { c with idReplier := (c.idReplier + 1) % 65536 }

/-- One id of each of the kinds. -/
def Session.drawn (c : Session) (ks : List ObjectKind) : Session := ks.foldl Session.draw c

theorem Session.counter_draw (c : Session) (k k' : ObjectKind) (valid : k ≠ .invalid) :
    (c.draw k').counter k = if k = k' then (c.counter k + 1) % 65536 else c.counter k := by
  cases k' <;> cases k <;> first | rfl | exact absurd rfl valid

@[simp] theorem Session.draw_creationStream (c : Session) (k : ObjectKind) :
    (c.draw k).creationStream = c.creationStream := by cases k <;> rfl

@[simp] theorem Session.draw_destroyStream (c : Session) (k : ObjectKind) :
    (c.draw k).destroyStream = c.destroyStream := by cases k <;> rfl

theorem Session.drawn_append (c : Session) (ks : List ObjectKind) (k : ObjectKind) :
    c.drawn (ks ++ [k]) = (c.drawn ks).draw k := by
  rw [drawn, List.foldl_append]
  rfl

@[simp] theorem Session.drawn_creationStream (c : Session) (ks : List ObjectKind) :
    (c.drawn ks).creationStream = c.creationStream := by
  induction ks generalizing c with
  | nil => rfl
  | cons k ks ih => exact (ih (c.draw k)).trans (c.draw_creationStream k)

@[simp] theorem Session.drawn_destroyStream (c : Session) (ks : List ObjectKind) :
    (c.drawn ks).destroyStream = c.destroyStream := by
  induction ks generalizing c with
  | nil => rfl
  | cons k ks ih => exact (ih (c.draw k)).trans (c.draw_destroyStream k)

/-- The counter of a kind that no id was drawn of. -/
theorem Session.counter_drawn_of_not_mem (c : Session) {ks : List ObjectKind} {k : ObjectKind}
    (fresh : k ∉ ks) : (c.drawn ks).counter k = c.counter k := by
  induction ks generalizing c with
  | nil => rfl
  | cons k' ks ih =>
    rw [List.mem_cons, not_or] at fresh
    refine (ih (c.draw k') fresh.2).trans ?_
    by_cases valid : k = .invalid
    · subst valid
      rfl
    · rw [counter_draw c k k' valid, if_neg fresh.1]

/-- The counter of a kind that one id was drawn of. -/
theorem Session.counter_drawn_of_mem (c : Session) {ks : List ObjectKind} {k : ObjectKind}
    (valid : k ≠ .invalid) (nodup : ks.Nodup) (mem : k ∈ ks) :
    (c.drawn ks).counter k = (c.counter k + 1) % 65536 := by
  induction ks generalizing c with
  | nil => cases mem
  | cons k' ks ih =>
    rw [List.nodup_cons] at nodup
    rcases List.mem_cons.1 mem with rfl | mem
    · exact (counter_drawn_of_not_mem (c.draw k) nodup.1).trans
        ((counter_draw c k k valid).trans (if_pos rfl))
    · refine (ih (c.draw k') nodup.2 mem).trans ?_
      rw [counter_draw c k k' valid, if_neg fun e : k = k' => nodup.1 (e ▸ mem)]

/-! ## What has been done -/

/-- A pool apart from those of the sessions and topics. -/
structure Kind.Aside (k : Kind β) : Prop where
  session : ∀ u e, (k.withSlots u e).session = e.session
  topic : ∀ u e, (k.withSlots u e).topic = e.topic
  putSession : ∀ u e t, { k.withSlots u e with session := t } = k.withSlots u { e with session := t }
  putTopic : ∀ u e t, { k.withSlots u e with topic := t } = k.withSlots u { e with topic := t }

/-- The entities with a pool, the topics and the counters of a context as given. -/
def Kind.spent (k : Kind β) (c : Nat) (ks : List ObjectKind) (u : Slots β) (ts : Slots Topic)
    (e : Entities) : Entities :=
  k.withSlots u { e with session := e.session.update c (·.drawn ks), topic := ts }

/-- What has been done since `s₀`. -/
structure Spent (k : Kind β) (c : Nat) (s₀ : State) (ks : List ObjectKind) (u : Slots β)
    (ts : Slots Topic) (rs : List (XrceRequest × Bool)) (s : State) : Prop where
  ent : s.w.ent = k.spent c ks u ts s₀.w.ent
  graph : SameGraph s₀ s
  requests : s.requests = rs ++ s₀.requests
  agent : (s₀.w.ent.session.custom c).creationStream ≠ .bestEffort →
    s.agent = s₀.agent.drop rs.length

theorem Slots.update_id (t : Slots β) (i : Nat) {f : β → β} (h : ∀ b, f b = b) : t.update i f = t := by
  rw [Slots.update, setAt_same (h _)]

@[simp] theorem Slots.update_update (t : Slots β) (i : Nat) (f g : β → β) :
    (t.update i f).update i g = t.update i fun b => g (f b) := by
  simp only [Slots.update, setAt_self, setAt_setAt]

/-- Drawing an id from the counter of a kind. -/
def drawId (context : Nat) (k : ObjectKind) : Prog Nat := do
  let value := (← readElement .session context).counter k
  writeElement .session context (·.draw k)
  return value

section Rules

variable {k : Kind β} {c : Nat} {s₀ : State} {ks : List ObjectKind} {u : Slots β}
  {ts : Slots Topic} {rs : List (XrceRequest × Bool)}

theorem Spent.refl (k : Kind β) (c : Nat) (s : State) :
    Spent k c s [] (k.slots s.w.ent) s.w.ent.topic [] s := by
  refine ⟨?_, fun _ => rfl, rfl, fun _ => rfl⟩
  have same : s.w.ent.session.update c (·.drawn []) = s.w.ent.session := Slots.update_id _ _ fun _ => rfl
  rw [Kind.spent, same]
  exact (k.withSlots_slots _).symm

theorem Kind.spent_slots (e : Entities) : k.slots (k.spent c ks u ts e) = u := k.slots_withSlots _ _

/-- A step that leaves the dialogue alone. -/
theorem Spent.step {s t : State} (h : Spent k c s₀ ks u ts rs s) {ks' : List ObjectKind}
    {u' : Slots β} {ts' : Slots Topic} (ent : t.w.ent = k.spent c ks' u' ts' s₀.w.ent)
    (buf : t.w.buf = s.w.buf) (requests : t.requests = s.requests) (agent : t.agent = s.agent) :
    Spent k c s₀ ks' u' ts' rs t where
  ent := ent
  graph := by
    rw [SameGraph, buf]
    exact h.graph
  requests := requests.trans h.requests
  agent reliable := agent.trans (h.agent reliable)

variable {Q : γ → State → Prop}

/-- A program that only reads. -/
theorem Spent.read {p : Prog α} {a : α} {rest : α → Prog γ}
    (run : ∀ s, Spent k c s₀ ks u ts rs s → p s = (a, s))
    (next : Hoare (Spent k c s₀ ks u ts rs) (rest a) Q) :
    Hoare (Spent k c s₀ ks u ts rs) (p >>= rest) Q := Hoare.of fun s h => by
  rw [Prog.bind_run, run s h]
  exact (next s h).2

/-- A write to the pool. -/
theorem Spent.write (i : Nat) (f : β → β) {rest : Unit → Prog γ}
    (next : Hoare (Spent k c s₀ ks (u.update i f) ts rs) (rest ()) Q) :
    Hoare (Spent k c s₀ ks u ts rs) (writeElement k i f >>= rest) Q := Hoare.of fun s h => by
  refine (next (s.mapEnt fun e => k.withSlots ((k.slots e).update i f) e) (h.step ?_ rfl rfl rfl)).2
  show k.withSlots ((k.slots s.w.ent).update i f) s.w.ent = _
  rw [h.ent, Kind.spent_slots, Kind.spent, k.withSlots_withSlots]
  rfl

/-- The history variables are nobody's business here. -/
theorem Spent.ghost (g : Ghost → Ghost) {rest : Unit → Prog γ}
    (next : Hoare (Spent k c s₀ ks u ts rs) (rest ()) Q) :
    Hoare (Spent k c s₀ ks u ts rs) (modify (·.mapGhost g) >>= rest) Q := Hoare.of fun s h =>
  (next (s.mapGhost g) (h.step h.ent rfl rfl rfl)).2

variable (aside : k.Aside)

include aside

theorem Kind.Aside.spent_session (e : Entities) :
    (k.spent c ks u ts e).session = e.session.update c (·.drawn ks) := aside.session _ _

theorem Kind.Aside.spent_topic (e : Entities) : (k.spent c ks u ts e).topic = ts := aside.topic _ _

/-- The drawing of an id. -/
theorem Spent.draw {j : ObjectKind} (fresh : j ∉ ks) {rest : Nat → Prog γ}
    (next : Hoare (Spent k c s₀ (ks ++ [j]) u ts rs)
      (rest ((s₀.w.ent.session.custom c).counter j)) Q) :
    Hoare (Spent k c s₀ ks u ts rs) (drawId c j >>= rest) Q := Hoare.of fun s h => by
  have session : s.w.ent.session = s₀.w.ent.session.update c (·.drawn ks) := by
    rw [h.ent, aside.spent_session]
  have value : (s.w.ent.session.custom c).counter j = (s₀.w.ent.session.custom c).counter j := by
    rw [session, Slots.update_custom_self, Session.counter_drawn_of_not_mem _ fresh]
  have run : drawId c j s = ((s₀.w.ent.session.custom c).counter j,
      s.mapEnt fun e => { e with session := e.session.update c (·.draw j) }) := by
    rw [← value]
    rfl
  rw [Prog.bind_run, run]
  refine (next (s.mapEnt fun e => { e with session := e.session.update c (·.draw j) })
    (h.step ?_ rfl rfl rfl)).2
  have drawn : s.w.ent.session.update c (·.draw j) =
      s₀.w.ent.session.update c (·.drawn (ks ++ [j])) := by
    simp only [session, Slots.update_update, Session.drawn_append]
  show { s.w.ent with session := s.w.ent.session.update c (·.draw j) } = _
  rw [drawn, h.ent, Kind.spent, aside.putSession]
  rfl

/-- The entities with the topics replaced. -/
theorem Spent.setTopics {s : State} (h : Spent k c s₀ ks u ts rs s) (ts' : Slots Topic) :
    { s.w.ent with topic := ts' } = k.spent c ks u ts' s₀.w.ent := by
  rw [h.ent, Kind.spent, aside.putTopic]
  rfl

/-- A write to the topics. -/
theorem Spent.topics {p : Prog Unit} {ts' : Slots Topic} {rest : Unit → Prog γ}
    (run : ∀ s, s.w.ent.topic = ts → p s = ((), s.mapEnt fun e => { e with topic := ts' }))
    (next : Hoare (Spent k c s₀ ks u ts' rs) (rest ()) Q) :
    Hoare (Spent k c s₀ ks u ts rs) (p >>= rest) Q := Hoare.of fun s h => by
  have topic : s.w.ent.topic = ts := by rw [h.ent, aside.spent_topic]
  rw [Prog.bind_run, run s topic]
  refine (next (s.mapEnt fun e => { e with topic := ts' }) (h.step ?_ rfl rfl rfl)).2
  exact h.setTopics aside ts'

theorem Spent.writeTopic (x : Nat) (f : Topic → Topic) {rest : Unit → Prog γ}
    (next : Hoare (Spent k c s₀ ks u (ts.update x f) rs) (rest ()) Q) :
    Hoare (Spent k c s₀ ks u ts rs) (writeElement .topic x f >>= rest) Q :=
  Spent.topics aside (fun s h => by rw [← h]; rfl) next

theorem Spent.finiTopic (x : Nat) {rest : Unit → Prog γ}
    (next : Hoare (Spent k c s₀ ks u (ts.finiTopic x) rs) (rest ()) Q) :
    Hoare (Spent k c s₀ ks u ts rs) (rmwUxrceFiniTopicMemory x >>= rest) Q :=
  Spent.topics aside (fun s h => by rw [← h]; rfl) next

/-- Handing out a topic. -/
theorem Spent.take {rest : Option Nat → Prog γ}
    (next : Hoare (Spent k c s₀ ks u ts.get.2 rs) (rest ts.get.1) Q) :
    Hoare (Spent k c s₀ ks u ts rs) (getMemory .topic >>= rest) Q := Hoare.of fun s h => by
  have topic : s.w.ent.topic = ts := by rw [h.ent, aside.spent_topic]
  set t := (getMemory .topic s).2 with ht
  have run : getMemory .topic s = (ts.get.1, t) := by
    rw [ht, ← topic]
    rfl
  have ent : t.w.ent = { s.w.ent with topic := ts.get.2 } := by
    rw [← topic]
    rfl
  rw [Prog.bind_run, run]
  exact (next t (h.step (ent.trans (h.setTopics aside _)) rfl rfl rfl)).2

/-- The context is reached through its session. -/
theorem Spent.stream {rest : Session → Prog γ}
    (next : Hoare (Spent k c s₀ ks u ts rs) (rest ((s₀.w.ent.session.custom c).drawn ks)) Q) :
    Hoare (Spent k c s₀ ks u ts rs) (readElement .session c >>= rest) Q :=
  Spent.read (fun s h => by
    have session : s.w.ent.session = s₀.w.ent.session.update c (·.drawn ks) := by
      rw [h.ent, aside.spent_session]
    rw [readElement_run]
    show (s.w.ent.session.custom c, s) = _
    rw [session, Slots.update_custom_self]) next

omit aside in
/-- A request and its answer. -/
theorem Spent.ask (cfg : Config) (request : XrceRequest) :
    Hoare (Spent k c s₀ ks u ts rs)
      (runXrceSession cfg c (s₀.w.ent.session.custom c).creationStream request)
      fun confirmed s => Spent k c s₀ ks u ts ((request, confirmed) :: rs) s ∧
        ((s₀.w.ent.session.custom c).creationStream ≠ .bestEffort →
          confirmed = confirms (s₀.agent.drop rs.length)) := Hoare.of fun s h => by
  obtain ⟨asked, reliable⟩ := runXrceSession_spec cfg c
    (s₀.w.ent.session.custom c).creationStream request s
  refine ⟨⟨asked.ent.trans h.ent, fun x => (asked.graph x).trans (h.graph x), ?_, fun ne => ?_⟩,
    fun ne => ?_⟩
  · rw [asked.requests, h.requests, List.cons_append]
  · rw [(reliable ne).2, h.agent ne, List.tail_drop, List.length_cons]
  · rw [(reliable ne).1, h.agent ne]

/-- The request for an object. -/
theorem Spent.create (cfg : Config) (id parent : UxrObjectId) (texts : List CStr) :
    Hoare (Spent k c s₀ ks u ts rs) (runCreation cfg c id parent texts)
      fun confirmed s => Spent k c s₀ ks u ts ((.create id (some parent) texts, confirmed) :: rs) s ∧
        ((s₀.w.ent.session.custom c).creationStream ≠ .bestEffort →
          confirmed = confirms (s₀.agent.drop rs.length)) := by
  unfold runCreation
  refine Spent.stream aside ?_
  rw [Session.drawn_creationStream]
  exact Spent.ask cfg _

end Rules

end RmwMicroxrcedds
