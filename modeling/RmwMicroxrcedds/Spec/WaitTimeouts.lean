import RmwMicroxrcedds.Proof.Waits
import Mathlib.Algebra.Ring.Int.Defs

/-!
# The timeout of a wait

A finite timeout is to be shared among the sessions that own an entity of the wait set. The sessions
are counted in a `uint8_t`. From 256 owning sessions on the count is too small, so the shares are too
large, and at every multiple of 256 it says that no session owns anything.
-/

namespace RmwMicroxrcedds
set_option autoImplicit false

variable {cfg : Config}

/-- A finite timeout in milliseconds, truncated and clamped to `INT32_MAX`. -/
def finiteTimeout : Option RmwTime → Option Int
  | none => none
  | some t =>
    if rmwTimeEqual t rmwDurationInfinite then none
    else some (min (rmwTimeTotalNsec t / 1000000) 2147483647)

/-- The session runs of one wait, the first first. -/
def waitRuns (cfg : Config) (set : WaitSet Nat) (waitTimeout : Option RmwTime) (s : State) :
    List (Nat × Bool × Int) :=
  let after := (rmwWait cfg set waitTimeout s).2.waits
  (after.take (after.length - s.waits.length)).reverse

/-- How the runs of a wait are to be chosen, and their timeouts. -/
structure SplitsTimeout (e : Entities) (set : WaitSet Nat) (waitTimeout : Option RmwTime)
    (runs : List (Nat × Bool × Int)) : Prop where
  owning : e.owning set ≠ [] →
    runs.map (fun r => (r.1, r.2.1)) = (e.owning set).map fun c => (c, true)
  others : e.owning set = [] → runs = e.session.elements.map fun c => (c, false, 0)
  each : ∀ T ∈ finiteTimeout waitTimeout, ∀ r ∈ runs, 0 ≤ r.2.2 ∧ r.2.2 ≤ T
  sum : ∀ T ∈ finiteTimeout waitTimeout, (runs.map (·.2.2)).sum ≤ T

/-- Where a session owns something, one is run until data arrives. -/
theorem SplitsTimeout.waits {e : Entities} {set : WaitSet Nat} {waitTimeout : Option RmwTime}
    {runs : List (Nat × Bool × Int)} (splits : SplitsTimeout e set waitTimeout runs)
    (some : e.owning set ≠ []) : ∃ r ∈ runs, r.2.1 = true := by
  obtain ⟨c, hc⟩ := List.exists_mem_of_ne_nil _ some
  have run : (c, true) ∈ runs.map fun r => (r.1, r.2.1) := by
    rw [splits.owning some]
    exact List.mem_map.2 ⟨c, hc, rfl⟩
  obtain ⟨r, hr, same⟩ := List.mem_map.1 run
  exact ⟨r, hr, congrArg Prod.snd same⟩

/-! ## The runs -/

theorem checkGuardConditions_waits (entries : List Nat) (s : State) :
    (checkGuardConditions entries s).2.waits = s.waits := by
  induction entries generalizing s with
  | nil => rfl
  | cons i rest ih =>
    rw [checkGuardConditions, Prog.bind_run, readElement_run]
    split
    · exact ih _
    · exact ih _

theorem waitRuns_of {set : WaitSet Nat} {waitTimeout : Option RmwTime} {s : State}
    {runs : List (Nat × Bool × Int)}
    (after : (rmwWait cfg set waitTimeout s).2.waits = runs.reverse ++ s.waits) :
    waitRuns cfg set waitTimeout s = runs := by
  rw [waitRuns, after]
  simp

theorem waitRuns_absent {set : WaitSet Nat} (absent : set.Absent) (waitTimeout : Option RmwTime)
    (s : State) : waitRuns cfg set waitTimeout s = [] := by
  apply waitRuns_of
  rw [rmwWait_absent absent]
  rfl

/-- Which sessions a wait runs is decided before it runs any. -/
theorem waitRuns_present {set : WaitSet Nat} (present : ¬set.Absent) (waitTimeout : Option RmwTime)
    (s : State) : waitRuns cfg set waitTimeout s = s.w.ent.waitRuns set waitTimeout := by
  apply waitRuns_of
  rw [rmwWait_present present, checkGuardConditions_waits]
  exact (waitSessions_spec set waitTimeout s).2

/-! ## The shares -/

theorem finiteTimeout_eq (waitTimeout : Option RmwTime) :
    waitMilliseconds waitTimeout = (finiteTimeout waitTimeout).getD uxrTimeoutInf := by
  cases waitTimeout with
  | none => rw [waitMilliseconds, finiteTimeout, Option.getD_none]
  | some t =>
    by_cases infinite : rmwTimeEqual t rmwDurationInfinite = true
    · rw [waitMilliseconds, if_pos infinite, finiteTimeout, if_pos infinite, Option.getD_none]
    · rw [waitMilliseconds, if_neg infinite, finiteTimeout, if_neg infinite, Option.getD_some]

theorem finiteTimeout_nonneg {waitTimeout : Option RmwTime} {T : Int}
    (h : T ∈ finiteTimeout waitTimeout) : 0 ≤ T := by
  cases waitTimeout with
  | none => cases h
  | some t =>
    have total : 0 ≤ rmwTimeTotalNsec t := by
      unfold rmwTimeTotalNsec Machine64.int64Max
      omega
    rw [finiteTimeout] at h
    split at h
    · cases h
    · cases h
      omega

/-- The share of a finite timeout is its quotient. -/
theorem perSessionTimeout_finite {waitTimeout : Option RmwTime} {T : Int}
    (h : T ∈ finiteTimeout waitTimeout) (count : Nat) :
    perSessionTimeout (waitMilliseconds waitTimeout) count = ((T.toNat / count : Nat) : Int) := by
  have nonneg := finiteTimeout_nonneg h
  have finite : T ≠ uxrTimeoutInf := by
    unfold uxrTimeoutInf
    omega
  rw [finiteTimeout_eq, h, Option.getD_some, perSessionTimeout, if_neg finite,
    Int.tdiv_eq_ediv_of_nonneg nonneg, Int.natCast_ediv, Int.toNat_of_nonneg nonneg]

/-- Equal shares fit a finite timeout as `Machine64.shares_le_iff` says. -/
theorem shares_fit {waitTimeout : Option RmwTime} {T : Int} (h : T ∈ finiteTimeout waitTimeout)
    {sessions : List Nat} (counted : sessions.length % 256 ≠ 0) :
    let share := perSessionTimeout (waitMilliseconds waitTimeout) (sessions.length % 256)
    (0 ≤ share ∧ share ≤ T) ∧
      (((sessions.map fun c => (c, true, share)).map (·.2.2)).sum ≤ T ↔
        sessions.length < 256 ∨ T < (sessions.length % 256 : Nat)) := by
  have nonneg := finiteTimeout_nonneg h
  have share := perSessionTimeout_finite h (sessions.length % 256)
  have le := Nat.div_le_self T.toNat (sessions.length % 256)
  have fits := @Machine64.shares_le_iff sessions.length 256 T.toNat (by decide) counted
  have sum : ((sessions.map fun c => (c, true,
      perSessionTimeout (waitMilliseconds waitTimeout) (sessions.length % 256))).map (·.2.2)).sum =
        ((sessions.length * (T.toNat / (sessions.length % 256)) : Nat) : Int) := by
    rw [share, List.map_map, Function.comp_def, List.map_const', List.sum_replicate_int, Int.natCast_mul]
  dsimp only
  rw [sum, share]
  refine ⟨⟨Int.natCast_nonneg _, by omega⟩, ?_⟩
  constructor
  · intro small
    rcases fits.1 (by omega) with few | less
    · exact .inl few
    · exact .inr (by omega)
  · intro small
    have := fits.2 (small.imp_right fun less => by omega)
    omega

/-! ## The wait -/

/-- Where the timeout is split as it should: an array is given, or there is no session; and the
sessions that own an entity of the wait set fit the counter, or are no multiple of 256 and the timeout is
infinite or so short that every share is 0. -/
def WaitSet.Countable (e : Entities) (set : WaitSet Nat) (waitTimeout : Option RmwTime) : Prop :=
  (set.Absent → e.session.elements = []) ∧
    ((e.owning set).length < 256 ∨ (e.owning set).length % 256 ≠ 0 ∧
      ∀ T ∈ finiteTimeout waitTimeout, T < ((e.owning set).length % 256 : Nat))

theorem WaitSet.Absent.owning {set : WaitSet Nat} (h : set.Absent) (e : Entities) : e.owning set = [] := by
  obtain ⟨services, clients, subscriptions, -⟩ := h
  have owners : set.owners = [] := by
    simp [owners, services, clients, subscriptions]
  simp [Entities.owning, owners]

/-- A wait runs the sessions it should, with timeouts that fit its own, just when the sessions that
own an entity of its wait set can be counted. -/
theorem wait_splits_timeout_iff (cfg : Config) (set : WaitSet Nat) (waitTimeout : Option RmwTime) (s : State) :
    SplitsTimeout s.w.ent set waitTimeout (waitRuns cfg set waitTimeout s) ↔
      set.Countable s.w.ent waitTimeout := by
  by_cases absent : set.Absent
  · rw [waitRuns_absent absent]
    have none := absent.owning s.w.ent
    constructor
    · intro splits
      refine ⟨fun _ => ?_, .inl (by rw [none]; decide)⟩
      simpa using (splits.others none).symm
    · rintro ⟨empty, -⟩
      refine ⟨fun h => absurd none h, fun _ => by rw [empty absent]; rfl, fun _ _ _ hr => (by cases hr), ?_⟩
      intro T hT
      exact finiteTimeout_nonneg hT
  rw [waitRuns_present absent, Entities.waitRuns]
  by_cases counted : (s.w.ent.owning set).length % 256 ≠ 0
  · rw [if_pos counted]
    have some : s.w.ent.owning set ≠ [] := by
      intro none
      rw [none] at counted
      exact counted rfl
    have pairs : ((s.w.ent.owning set).map fun c => (c, true, perSessionTimeout
        (waitMilliseconds waitTimeout) ((s.w.ent.owning set).length % 256))).map (fun r => (r.1, r.2.1)) =
          (s.w.ent.owning set).map fun c => (c, true) := by
      rw [List.map_map]
      rfl
    constructor
    · intro splits
      refine ⟨fun h => absurd h absent, ?_⟩
      by_cases few : (s.w.ent.owning set).length < 256
      · exact .inl few
      · refine .inr ⟨counted, fun T hT => ?_⟩
        exact ((shares_fit hT counted).2.1 (splits.sum T hT)).resolve_left few
    · rintro ⟨-, few⟩
      refine ⟨fun _ => pairs, fun none => absurd none some, ?_, ?_⟩
      · intro T hT r hr
        obtain ⟨c, -, rfl⟩ := List.mem_map.1 hr
        exact (shares_fit hT counted).1
      · intro T hT
        exact (shares_fit hT counted).2.2 (few.imp_right fun h => h.2 T hT)
  · rw [if_neg counted]
    have zero : (s.w.ent.owning set).length % 256 = 0 := not_not.1 counted
    have sum : ((s.w.ent.session.elements.map fun c => (c, false, (0 : Int))).map (·.2.2)).sum = 0 := by
      rw [List.map_map, Function.comp_def, List.map_const', List.sum_replicate_int, Int.mul_zero]
    constructor
    · intro splits
      refine ⟨fun h => absurd h absent, .inl ?_⟩
      by_contra many
      have some : s.w.ent.owning set ≠ [] := by
        intro none
        rw [none] at many
        exact many (by decide)
      obtain ⟨r, hr, waits⟩ := splits.waits some
      obtain ⟨c, -, rfl⟩ := List.mem_map.1 hr
      cases waits
    · rintro ⟨-, few⟩
      have none : s.w.ent.owning set = [] := by
        apply List.length_eq_zero_iff.1
        omega
      refine ⟨fun h => absurd none h, fun _ => rfl, ?_, ?_⟩
      · intro T hT r hr
        obtain ⟨c, -, rfl⟩ := List.mem_map.1 hr
        exact ⟨le_rfl, finiteTimeout_nonneg hT⟩
      · intro T hT
        rw [sum]
        exact finiteTimeout_nonneg hT

/-! ## Too many sessions -/

/-- A pool over an array of `n` elements after `k` calls of `get_memory`. -/
def Slots.drawn {β : Type} (custom : Nat → β) (n : Nat) : Nat → Slots β
  | 0 => Slots.init ⟨.zero, custom⟩ n
  | k + 1 => (Slots.drawn custom n k).get.2

theorem Slots.drawn_custom {β : Type} (custom : Nat → β) (n k : Nat) :
    (Slots.drawn custom n k).custom = custom := by
  induction k with
  | zero => rfl
  | succ k ih => exact ih

theorem Slots.drawn_spec {β : Type} [Inhabited β] (custom : Nat → β) (n k : Nat) (h : k ≤ n) :
    (Slots.drawn custom n k).Ok n ∧ (Slots.drawn custom n k).elements.length = k ∧
      (Slots.drawn custom n k).memory.size = n := by
  induction k with
  | zero =>
    have zero : (Slots.zero : Slots β).Ok n := Slots.zero_ok n
    have start : (Slots.mk .zero custom).Ok n := zero.of_memory rfl
    obtain ⟨ok, elements, size⟩ := start.init
    exact ⟨ok, congrArg List.length elements, size⟩
  | succ k ih =>
    obtain ⟨ok, length, size⟩ := ih (by omega)
    obtain ⟨i, hi⟩ := Option.isSome_iff_exists.1 (ok.get_isSome (by omega))
    obtain ⟨ok', -, -, elements⟩ := ok.get_some hi
    refine ⟨ok', ?_, ok.get_size.trans size⟩
    show (Slots.drawn custom n k).get.2.elements.length = k + 1
    rw [elements, List.length_cons, length]

/-- `n` sessions in use, each with a node and a service: the node at `i` is on the session at `i`, the
service at `i` on the node at `i`. -/
def State.crowded (n : Nat) : State :=
  { State.zero with w := { State.zero.w with ent := { Entities.zero with
    session := .drawn (fun _ => default) n n
    node := .drawn (fun i => { (default : Node) with context := some i }) n n
    service := .drawn (fun i => { (default : Service) with ownerNode := some i }) n n } } }

/-- A wait set of the first `n` services. -/
def WaitSet.ofServices (n : Nat) : WaitSet Nat := ⟨none, none, some (List.range n), none⟩

theorem State.crowded_owning (n : Nat) :
    ((State.crowded n).w.ent.owning (.ofServices n)).length = n := by
  obtain ⟨ok, length, size⟩ := Slots.drawn_spec (fun _ => (default : Session)) n n le_rfl
  have session : ∀ i, (State.crowded n).w.ent.sessionOf (.service i) = i := by
    intro i
    show deref (((Slots.drawn (fun i => { (default : Node) with context := some i }) n n).custom (deref
      ((Slots.drawn (fun i => { (default : Service) with ownerNode := some i }) n n).custom i).ownerNode)).context) = i
    rw [Slots.drawn_custom, Slots.drawn_custom]
    rfl
  have all : ∀ c ∈ (State.crowded n).w.ent.session.elements,
      c ∈ (WaitSet.ofServices n).owners.map (State.crowded n).w.ent.sessionOf := by
    intro c hc
    have small : c < n := by
      have lt := ok.lt (i := c) hc
      omega
    refine List.mem_map.2 ⟨.service c, ?_, session c⟩
    simp [WaitSet.owners, WaitSet.ofServices, small]
  have owning : (State.crowded n).w.ent.owning (.ofServices n) = (State.crowded n).w.ent.session.elements :=
    List.filter_eq_self.2 fun c hc => by simpa using all c hc
  rw [owning]
  exact length

/-- With 256 sessions, all of which own a service of the wait set, a wait of one second blocks in none
of them: every session is run with timeout 0. -/
theorem wait_forgets_sessions :
    let s := State.crowded 256
    let set := WaitSet.ofServices 256
    let second : Option RmwTime := some ⟨1, 0⟩
    let cfg : Config := { Small.config with maxSessions := 256, maxNodes := 256, maxServices := 256 }
    (s.w.ent.owning set).length = 256 ∧
      waitRuns cfg set second s = s.w.ent.session.elements.map (fun c => (c, false, 0)) ∧
      ¬SplitsTimeout s.w.ent set second (waitRuns cfg set second s) := by
  intro s set second cfg
  have many : (s.w.ent.owning set).length = 256 := State.crowded_owning 256
  have present : ¬set.Absent := fun h => by cases h.1
  have runs : waitRuns cfg set second s = s.w.ent.session.elements.map (fun c => (c, false, 0)) := by
    rw [waitRuns_present present, Entities.waitRuns]
    exact if_neg (by rw [many]; decide)
  refine ⟨many, runs, fun splits => ?_⟩
  have some : s.w.ent.owning set ≠ [] := by
    intro none
    rw [none] at many
    cases many
  obtain ⟨r, hr, waits⟩ := splits.waits some
  rw [runs] at hr
  obtain ⟨c, -, rfl⟩ := List.mem_map.1 hr
  cases waits

end RmwMicroxrcedds
