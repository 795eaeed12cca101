import RmwMicroxrcedds.Proof.Numbers
import RmwMicroxrcedds.Base.Accounts

/-!
# What becomes of a message

A message that a callback has stored lies in a buffer until it is taken, expires, gives way to a newer sample
for the same entity, or is released by a shutdown. The books over a run balance: what was stored is what is
buffered and what has ended in one of these ways, each message once.
-/

namespace RmwMicroxrcedds
set_option autoImplicit false

open Accounts (Balanced)

variable {cfg : Config}

/-- How a message ends. -/
inductive Fate where
  | handedOut
  /-- taken, and not accepted by the type support -/
  | undeserialized
  | expired
  | flushed
  /-- its buffer holds a newer sample -/
  | replaced
  /-- its buffer was granted to a newer sample, which could not be read -/
  | spoilt
deriving DecidableEq

/-- The number of the message that a callback has stored. -/
def Moment.stored? (cfg : Config) (m : Moment) : Option Nat :=
  match m.act with
  | .callback session event => (callback cfg session event m.world).2.map fun _ => m.ghost.rx
  | _ => none

/-- The buffer in use whose message a callback has taken away. -/
def Moment.displaced? (cfg : Config) (m : Moment) : Option (Nat × Fate) :=
  match m.act with
  | .callback session event =>
    let (w, filled) := callback cfg session event m.world
    match filled with
    | some i => if i ∈ m.world.buf.queue then some (i, .replaced) else none
    | none => (m.world.buf.queue.find? (· ∉ w.buf.queue)).map fun i => (i, .spoilt)
  | _ => none

/-- The buffer whose message an action ends, and how. -/
def Moment.end? (cfg : Config) (m : Moment) : Option (Nat × Fate) :=
  match m.act with
  | .callback .. => m.displaced? cfg
  | .take _ i deserialized => some (i, if deserialized then .handedOut else .undeserialized)
  | .expire i => some (i, .expired)
  | .flush i => some (i, .flushed)
  | _ => none

/-- The number of the message that an action ends, and how. -/
def Moment.fate? (cfg : Config) (m : Moment) : Option (Nat × Fate) :=
  (m.end? cfg).map fun e => (m.ghost.number e.1, e.2)

/-- The messages stored in a run. -/
def State.stored (cfg : Config) (s : State) : List Nat := s.trace.filterMap (Moment.stored? cfg)

/-- The messages that have ended, each with its fate. -/
def State.fates (cfg : Config) (s : State) : List (Nat × Fate) := s.trace.filterMap (Moment.fate? cfg)

/-- The books of a run. -/
def BooksBalance (cfg : Config) (s : State) : Prop :=
  Balanced (s.stored cfg) s.queue s.ghost.number ((s.fates cfg).map Prod.fst)

section Books

variable {s t : State}

theorem Ghost.number_congr {g g' : Ghost} (source : g'.source = g.source) : g'.number = g.number := by
  funext i
  rw [number, source, number]

/-- An action that leaves the buffers alone. -/
theorem BooksBalance.keep (h : BooksBalance cfg s) (queue : t.queue = s.queue)
    (source : t.ghost.source = s.ghost.source)
    (trace : t.trace = s.trace ∨ ∃ m, t.trace = m :: s.trace ∧ m.stored? cfg = none ∧ m.end? cfg = none) :
    BooksBalance cfg t := by
  have same : t.stored cfg = s.stored cfg ∧ t.fates cfg = s.fates cfg := by
    rcases trace with same | ⟨m, e, stored, ended⟩
    · rw [State.stored, State.fates, same]
      exact ⟨rfl, rfl⟩
    · rw [State.stored, State.fates, e]
      exact ⟨List.filterMap_cons_none stored, List.filterMap_cons_none (by rw [Moment.fate?, ended]; rfl)⟩
  rw [BooksBalance, same.1, same.2, queue, Ghost.number_congr source]
  exact h

/-- A release of a buffer. -/
theorem BooksBalance.release (h : BooksBalance cfg s) {i : Nat} (queued : i ∈ s.queue)
    (queue : t.queue = s.queue.erase i) (source : t.ghost.source = s.ghost.source) {m : Moment}
    (trace : t.trace = m :: s.trace) (state : m.ghost = s.ghost) (stored : m.stored? cfg = none) {fate : Fate}
    (ended : m.end? cfg = some (i, fate)) : BooksBalance cfg t := by
  have left : t.fates cfg = (s.ghost.number i, fate) :: s.fates cfg := by
    rw [State.fates, trace, List.filterMap_cons_some (b := (s.ghost.number i, fate))]
    · rfl
    · rw [Moment.fate?, ended, state]
      rfl
  have entered : t.stored cfg = s.stored cfg := by
    rw [State.stored, trace]
    exact List.filterMap_cons_none stored
  rw [BooksBalance, left, entered, queue, Ghost.number_congr source]
  exact Balanced.leave h queued

/-- A callback. -/
theorem BooksBalance.raised (wf : Wf cfg s) (h : BooksBalance cfg s) {session : Nat} {ev : SessionEvent}
    (route : ev.route ≠ none) : BooksBalance cfg (raise cfg session s ev) := by
  have nodup : s.queue.Nodup := Slots.Ok.nodup wf.staticBuffer
  have raised := raise_raised wf session route
  set t := raise cfg session s ev with ht
  set m : Moment := ⟨s.call, .callback session ev, s.w, s.ghost⟩ with hm
  have world : t.w = (callback cfg session ev s.w).1 := by rw [ht, raise_eq s session route]
  have storedBy : ∀ filled, (callback cfg session ev s.w).2 = filled →
      m.stored? cfg = filled.map fun _ => s.ghost.rx := fun filled e => by
    rw [Moment.stored?, hm]
    dsimp only
    rw [e]
  have endedBy : (callback cfg session ev s.w).2 = none →
      m.end? cfg = (s.queue.find? (· ∉ t.queue)).map fun i => (i, .spoilt) := fun e => by
    rw [Moment.end?, hm]
    dsimp only
    rw [Moment.displaced?]
    dsimp only
    rw [e]
    show _ = (s.queue.find? (· ∉ t.w.buf.queue)).map _
    rw [world]
    rfl
  have idle : t.queue = s.queue → (callback cfg session ev s.w).2 = none →
      m.stored? cfg = none ∧ m.end? cfg = none := fun queue e => by
    refine ⟨storedBy none e, ?_⟩
    rw [endedBy e, queue, Option.map_eq_none_iff, List.find?_eq_none]
    simp
  cases raised.receipt with
  | ignored queue slot source nobody fills =>
    exact h.keep queue source (.inr ⟨m, raised.trace, idle queue fills⟩)
  | refused o meant why queue slot source fills =>
    exact h.keep queue source (.inr ⟨m, raised.trace, idle queue fills⟩)
  | unread o meant i grant short queue slot source fills =>
    by_cases used : i ∈ s.queue
    · have first : s.queue.find? (· ∉ t.queue) = some i := by
        obtain ⟨before, after, split⟩ := List.append_of_mem used
        rw [List.find?_eq_some_iff_append, queue]
        refine ⟨by simpa using nodup.not_mem_erase, before, after, split, fun j mem => ?_⟩
        have ne : j ≠ i := by
          rintro rfl
          rw [split, List.nodup_append] at nodup
          exact nodup.2.2 j mem j List.mem_cons_self rfl
        simp only [Bool.not_eq_true', decide_eq_false_iff_not, not_not]
        exact nodup.mem_erase_iff.2 ⟨ne, split ▸ List.mem_append_left _ mem⟩
      apply h.release used queue source raised.trace rfl (storedBy none fills)
      rw [endedBy fills, first]
      rfl
    · have same : t.queue = s.queue := queue.trans (List.erase_of_not_mem used)
      exact h.keep same source (.inr ⟨m, raised.trace, idle same fills⟩)
  | stored o meant i grant read queue slot source fills =>
    have entered : t.stored cfg = s.ghost.rx :: s.stored cfg := by
      rw [State.stored, raised.trace, List.filterMap_cons_some (storedBy _ fills)]
      rfl
    have ended : m.end? cfg = if i ∈ s.queue then some (i, .replaced) else none := by
      rw [Moment.end?, hm]
      dsimp only
      rw [Moment.displaced?]
      dsimp only
      rw [fills]
      rfl
    have own : t.ghost.number i = s.ghost.rx := by
      rw [Ghost.number, source, setAt_self]
      rfl
    have others : ∀ j, j ≠ i → t.ghost.number j = s.ghost.number j := fun j ne => by
      rw [Ghost.number, source, setAt_of_ne _ _ ne, Ghost.number]
    by_cases used : i ∈ s.queue
    · rw [if_pos used] at queue ended
      have left : t.fates cfg = (s.ghost.number i, .replaced) :: s.fates cfg := by
        rw [State.fates, raised.trace, List.filterMap_cons_some (b := (s.ghost.number i, .replaced))]
        · rfl
        · rw [Moment.fate?, ended]
          rfl
      rw [BooksBalance, entered, left, queue]
      exact Balanced.replace h nodup used own others
    · rw [if_neg used] at queue ended
      have left : t.fates cfg = s.fates cfg := by
        rw [State.fates, raised.trace]
        exact List.filterMap_cons_none (by rw [Moment.fate?, ended]; rfl)
      rw [BooksBalance, entered, left, queue]
      exact Balanced.enter h own fun j mem => others j (by rintro rfl; exact used mem)

/-- Every atomic action balances the books. -/
theorem BooksBalance.atomic (step : Atomic cfg s t) (h : BooksBalance cfg s) : BooksBalance cfg t := by
  obtain ⟨wf, -, micro⟩ := step
  cases micro with
  | quiet buffers owners trace => exact h.keep buffers.queue buffers.source (.inl trace)
  | note act neutral =>
    refine h.keep rfl rfl (.inr ⟨_, rfl, ?_, ?_⟩)
    · cases act <;> first | rfl | exact neutral.elim
    · cases act <;> first | rfl | exact neutral.elim
  | acquire o buffers dead alive ghost trace => exact h.keep buffers.queue buffers.source (.inl trace)
  | assign o => exact h.keep rfl rfl (.inl rfl)
  | release o buffers live alive ghost trace =>
    exact h.keep buffers.queue buffers.source (.inr ⟨_, trace, rfl, rfl⟩)
  | opened c ok => exact h.keep rfl rfl (.inr ⟨_, rfl, rfl, rfl⟩)
  | tick d => exact h.keep rfl rfl (.inl rfl)
  | callback session ev route => exact h.raised wf route
  | expire i queued => exact h.release queued (queue_putMemory wf queued) rfl rfl rfl rfl rfl
  | take o i deserialized found =>
    have queued := (Buffers.Ok.find_mem wf.staticBuffer found).1
    exact h.release queued (queue_putMemory wf queued) rfl rfl rfl rfl rfl
  | flush i queued => exact h.release queued (queue_putMemory wf queued) rfl rfl rfl rfl rfl
  | enter => exact h.keep rfl rfl (.inl rfl)

end Books

theorem booksBalance_of_run (cfg : Config) (is : List Step) : BooksBalance cfg (run cfg is) := by
  apply (run_path cfg is).1.keeps fun _ _ => BooksBalance.atomic
  exact .refl _

/-- The messages have different numbers. -/
theorem State.stored_nodup {s : State} (h : (s.trace.filterMap Moment.number?).Nodup) : (s.stored cfg).Nodup := by
  have sub : ∀ l : List Moment, (l.filterMap (Moment.stored? cfg)).Sublist (l.filterMap Moment.number?) := by
    intro l
    induction l with
    | nil => simp
    | cons m l ih =>
      cases stored : m.stored? cfg with
      | none =>
        rw [List.filterMap_cons_none stored, List.filterMap_cons]
        split
        · exact ih
        · exact ih.cons _
      | some r =>
        have number : m.number? = some r := by
          rw [Moment.stored?] at stored
          split at stored
          · rename_i session event act
            obtain ⟨i, -, rfl⟩ := Option.map_eq_some_iff.1 stored
            rw [Moment.number?, act]
            rfl
          · cases stored
        rw [List.filterMap_cons_some stored, List.filterMap_cons_some number]
        exact ih.cons_cons r
  exact h.sublist (sub s.trace)

/-- **Every message has one fate**: in every run a message has been stored if and only if it is buffered or has
ended, no message is buffered twice, has ended twice, or both, and no two messages are the same. -/
theorem message_fates (is : List Step) :
    let s := run cfg is
    (∀ r, r ∈ s.stored cfg ↔ (∃ i ∈ s.queue, s.ghost.number i = r) ∨ ∃ fate, (r, fate) ∈ s.fates cfg) ∧
      (s.stored cfg).Nodup ∧ (s.queue.map s.ghost.number).Nodup ∧ ((s.fates cfg).map Prod.fst).Nodup ∧
      ∀ i ∈ s.queue, ∀ fate, (s.ghost.number i, fate) ∉ s.fates cfg := by
  intro s
  have books : (s.stored cfg).Perm (s.queue.map s.ghost.number ++ (s.fates cfg).map Prod.fst) :=
    booksBalance_of_run cfg is
  have stored : (s.stored cfg).Nodup := State.stored_nodup (run_numbered cfg is).numbers
  obtain ⟨buffered, ended, apart⟩ := List.nodup_append.1 (books.nodup_iff.1 stored)
  refine ⟨fun r => ?_, stored, buffered, ended, fun i hi fate mem => ?_⟩
  · rw [books.mem_iff, List.mem_append]
    simp only [List.mem_map, Prod.exists, exists_and_right, exists_eq_right]
  · exact apart _ (List.mem_map_of_mem hi) _ (List.mem_map_of_mem (f := Prod.fst) mem) rfl

/-! ## Displacement -/

/-- The message in a buffer in use gives way to a sample for an entity: it is one of the entity's own, none of
which is older, and the entity's history is full and not KEEP_ALL. -/
structure Buffers.GivesWay (b : Buffers) (o : Owner) (qos : RmwQosProfile) (i : Nat) : Prop where
  queued : i ∈ b.queue
  own : (b.slot i).owner = some o
  history : qos.history ≠ .keepAll
  bounded : qos.depth ≠ 0
  full : qos.depth ≤ (b.ofOwner o).length
  oldest : ∀ j ∈ b.ofOwner o, (b.slot i).timestamp ≤ (b.slot j).timestamp

section Displacement

variable {b b' : Buffers} {o : Owner} {qos : RmwQosProfile} {ev : SessionEvent} {now : Int} {i : Nat}

/-- The buffers in use that are granted are those that give way. -/
theorem Buffers.Grant.givesWay (grant : b.Grant o qos i) (used : i ∈ b.queue) : b.GivesWay o qos i := by
  cases grant with
  | fresh _ free => exact absurd used free
  | evict full history oldest =>
    obtain ⟨before, after, first⟩ := oldest
    rw [Buffers.Room, not_or, not_lt] at full
    constructor
    · exact used
    · exact first.relevant
    · exact history
    · exact full.1
    · exact full.2
    · intro j mem
      obtain ⟨queued, own⟩ := Buffers.mem_ofOwner.1 mem
      exact first.le queued own

/-- A reception that fills a buffer takes no message but the one in that buffer. -/
theorem Reception.replaced (h : Reception b o qos ev now b' (some i)) (used : i ∈ b.queue) :
    b.GivesWay o qos i := by
  cases h with
  | stored _ grant => exact grant.givesWay used

/-- A reception that fills no buffer takes at most the message of the buffer it was granted. -/
theorem Reception.spoilt (h : Reception b o qos ev now b' none) (used : i ∈ b.queue)
    (gone : i ∉ b'.queue) : b.GivesWay o qos i := by
  cases h with
  | refused _ same => exact absurd used (same ▸ gone)
  | unread k grant _ queue =>
    have granted : i = k := by
      by_contra ne
      rw [queue] at gone
      exact gone ((List.mem_erase_of_ne ne).2 used)
    subst granted
    exact grant.givesWay used

end Displacement

/-- **A message gives way to its own entity's samples only**: in every run, a callback that takes away the
message of a buffer in use has a sample for the entity that owns the buffer, the history of this entity is full
and not KEEP_ALL, and no message of the entity is older. -/
theorem displaced_own (is : List Step) :
    ∀ m ∈ (run cfg is).trace, ∀ i fate, m.displaced? cfg = some (i, fate) →
      ∃ session event o, m.act = .callback session event ∧ addressee cfg session event m.world = some o ∧
        m.world.buf.GivesWay o (m.world.ent.qos o) i := by
  intro m hm i fate displaced
  obtain ⟨s, wf, world⟩ := moment_state hm
  rw [Moment.displaced?] at displaced
  split at displaced
  · rename_i session event act
    rw [world] at displaced ⊢
    obtain ⟨-, -, -, delivery⟩ := callback_spec (w := s.w) cfg session event wf.staticBuffer
    refine ⟨session, event, ?_⟩
    dsimp only at displaced
    cases filled : (callback cfg session event s.w).2 with
    | some k =>
      rw [filled] at displaced delivery
      obtain ⟨used, e⟩ := Option.ite_none_right_eq_some.1 displaced
      cases e
      cases delivery with
      | routed o meant reception => exact ⟨o, act, meant, reception.replaced used⟩
    | none =>
      rw [filled] at displaced delivery
      obtain ⟨k, found, e⟩ := Option.map_eq_some_iff.1 displaced
      cases e
      have used : i ∈ s.w.buf.queue := List.mem_of_find?_eq_some found
      have gone : i ∉ (callback cfg session event s.w).1.buf.queue := by
        simpa using List.find?_some found
      cases delivery with
      | ignored _ same =>
        have queue : (callback cfg session event s.w).1.buf.queue = s.w.buf.queue :=
          congrArg Slots.elements same
        exact absurd used (queue ▸ gone)
      | routed o meant reception => exact ⟨o, act, meant, reception.spoilt used gone⟩
  · cases displaced

/-- A subscription of depth one: the second sample takes the first one's place, the third cannot be read. -/
theorem displaced_own_small :
    let s := run Small.config [Small.init 0, Small.createNode 1,
      Small.createSubscription 1 (Small.profile 1 ⟨0, 0⟩),
      Small.wait 1 [Small.sample 0 [7], Small.sample 0 [8], .topic ⟨0, .datareader⟩ [] 1]]
    ∀ fate ∈ [Fate.replaced, .spoilt], ∃ m ∈ s.trace, m.displaced? Small.config = some (2, fate) ∧
      ∃ session event o, m.act = .callback session event ∧
        addressee Small.config session event m.world = some o ∧
        m.world.buf.GivesWay o (m.world.ent.qos o) 2 := by
  intro s fate mem
  have displaced : ∀ fate ∈ [Fate.replaced, .spoilt],
      ∃ m ∈ s.trace, m.displaced? Small.config = some (2, fate) := by decide
  obtain ⟨m, hm, gone⟩ := displaced fate mem
  exact ⟨m, hm, gone, displaced_own _ m hm 2 fate gone⟩

end RmwMicroxrcedds
