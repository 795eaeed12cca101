import RmwMicroxrcedds.Base.Threads

/-!
# Progress under recursive mutexes

* `can_return`: when every operation gives back what it took, every call can return.
* `starved`: a mutex that a thread has kept lets no other thread in, ever again.
-/

namespace Threads
set_option autoImplicit false

variable {σ α M Op Tid : Type} [DecidableEq M] [DecidableEq Tid] {leaks : Prop} {p : Program M Op σ α}
  {init : M → σ} {s : System Tid M Op σ α} {t : Tid} {m : M}

/-! ## Every call can return -/

/-- A mutex that is held is held by a call that is inside, and as often as this call took it. -/
def System.Clean (p : Program M Op σ α) (s : System Tid M Op σ α) : Prop :=
  ∀ m, s.times m ≠ 0 → ∃ t r, s.running t = some r ∧ p.mutex r.op = m ∧ r.held = s.times m

/-- The call that holds a mutex is the only one that can go on under it. -/
theorem System.Clean.mine (h : Inv leaks p init s) (clean : s.Clean p) {r : Running Op σ α}
    (at_ : s.running t = some r) (free : s.times (p.mutex r.op) = 0 ∨ s.holder (p.mutex r.op) = some t)
    (taken : s.times (p.mutex r.op) ≠ 0) : r.held = s.times (p.mutex r.op) := by
  obtain ⟨u, q, at_', on, held⟩ := clean _ taken
  by_cases e : u = t
  · subst e
    rw [at_] at at_'
    obtain rfl := Option.some.inj at_'
    exact held
  · exact absurd on (h.elsewhere at_' (by omega) e free)

theorem System.Clean.advance (clean : s.Clean p) {s' : System Tid M Op σ α} {r : Running Op σ α}
    (r' : Running Op σ α) (at_ : s.running t = some r) (op : r'.op = r.op)
    (running : s'.running = Function.update s.running t (some r'))
    (elsewhere : ∀ m, m ≠ p.mutex r.op → s'.times m = s.times m)
    (here : s'.times (p.mutex r.op) ≠ 0 → r'.held = s'.times (p.mutex r.op)) : s'.Clean p := by
  intro m taken
  by_cases e : m = p.mutex r.op
  · subst e
    exact ⟨t, r', by rw [running, Function.update_self], by rw [op], here taken⟩
  · rw [elsewhere m e] at taken ⊢
    obtain ⟨u, q, at_', on, held⟩ := clean m taken
    refine ⟨u, q, ?_, on, held⟩
    have ne : u ≠ t := by
      rintro rfl
      rw [at_] at at_'
      obtain rfl := Option.some.inj at_'
      exact e on.symm
    rw [running, Function.update_of_ne ne]
    exact at_'

/-- Operations that give back what they took leave no mutex behind. -/
theorem System.Clean.step (h : Inv False p init s) (guarded : ∀ op, (p.code op).Guarded False)
    (clean : s.Clean p) (i : Tid × Op) : (step p s i).Clean p := by
  obtain ⟨t, op⟩ := i
  have moves := step_moves p s t op
  generalize Threads.step p s (t, op) = s' at moves ⊢
  cases moves with
  | call idle =>
    intro m taken
    obtain ⟨u, q, at_, on, held⟩ := clean m taken
    have ne : u ≠ t := by
      rintro rfl
      rw [idle] at at_
      cases at_
    refine ⟨u, q, ?_, on, held⟩
    dsimp only
    rw [Function.update_of_ne ne]
    exact at_
  | @ret n op' held a at_ =>
    intro m taken
    obtain ⟨u, q, at_', on, held'⟩ := clean m taken
    have ne : u ≠ t := by
      rintro rfl
      rw [at_] at at_'
      obtain rfl := Option.some.inj at_'
      dsimp only at held'
      cases held with
      | zero => exact taken held'.symm
      | succ d =>
        obtain ⟨-, -, stays, -⟩ := (h.phase u _ at_).inside_of
        exact stays
    refine ⟨u, q, ?_, on, held'⟩
    dsimp only
    rw [Function.update_of_ne ne]
    exact at_'
  | @enter n op' rest at_ free =>
    refine clean.advance ⟨n, op', 1, rest⟩ at_ rfl rfl (fun m ne => Function.update_of_ne ne ..) fun _ => ?_
    dsimp only
    rw [Function.update_self]
    by_cases taken : s.times (p.mutex op') = 0
    · omega
    · have held : 0 = s.times (p.mutex op') := clean.mine h at_ free taken
      omega
  | @again n op' d rest at_ free =>
    obtain ⟨-, times, -⟩ := (h.phase t _ at_).inside_of
    have held : d + 1 = s.times (p.mutex op') := clean.mine h at_ free (Nat.ne_zero_of_lt times)
    refine clean.advance ⟨n, op', d + 2, rest⟩ at_ rfl rfl (fun m ne => Function.update_of_ne ne ..) fun _ => ?_
    dsimp only
    rw [Function.update_self]
    omega
  | wait => exact clean
  | @unlock n op' held rest at_ =>
    obtain ⟨d, rfl⟩ : ∃ d, held = d + 1 :=
      h.busy guarded at_ (fun _ e => by cases e) fun _ e => by cases e
    obtain ⟨holder, times, -⟩ := (h.phase t _ at_).inside_of
    have held : d + 1 = s.times (p.mutex op') := clean.mine h at_ (.inr holder) (Nat.ne_zero_of_lt times)
    refine clean.advance ⟨n, op', d, rest⟩ at_ rfl rfl (fun m ne => Function.update_of_ne ne ..) fun _ => ?_
    dsimp only
    rw [Function.update_self]
    omega
  | @access n op' held effect rest at_ =>
    obtain ⟨d, rfl⟩ : ∃ d, held = d + 1 :=
      h.busy guarded at_ (fun _ e => by cases e) fun _ e => by cases e
    obtain ⟨holder, times, -⟩ := (h.phase t _ at_).inside_of
    exact clean.advance ⟨n, op', d + 1, rest (s.memory (p.mutex op'))⟩ at_ rfl rfl (fun m ne => rfl) (clean.mine h at_ (.inr holder))

theorem clean_exec (guarded : ∀ op, (p.code op).Guarded False) (is : List (Tid × Op)) :
    (Runs.exec (step p) (.start init) is).Clean p := by
  induction is using List.reverseRecOn with
  | nil => exact fun m taken => absurd rfl taken
  | append_singleton is i ih =>
    rw [Runs.exec_append]
    exact ih.step (inv_exec guarded is) guarded i

/-- The thread can move alone until its call has returned. -/
def System.Returns (p : Program M Op σ α) (s : System Tid M Op σ α) (t : Tid) (n : Nat) (op : Op) : Prop :=
  ∃ k, let s' := Runs.exec (Threads.step p) s (List.replicate k (t, op))
    s'.running = Function.update s.running t none ∧ ∃ a held, .returned n t op a held ∈ s'.events

theorem System.Returns.of_step {n : Nat} {op : Op} (h : (Threads.step p s (t, op)).Returns p t n op)
    {x : Option (Running Op σ α)}
    (running : (Threads.step p s (t, op)).running = Function.update s.running t x) :
    s.Returns p t n op := by
  obtain ⟨k, idle, a, held, returned⟩ := h
  refine ⟨k + 1, ?_, a, held, returned⟩
  show (Runs.exec _ (Threads.step p s (t, op)) (List.replicate k (t, op))).running = _
  rw [idle, running, Function.update_idem]

/-- A call that is inside, or about to return, returns when its thread moves alone. -/
theorem Inv.returns (guarded : ∀ op, (p.code op).Guarded leaks) {n : Nat} {op : Op} {code : Code σ α}
    (h : Inv leaks p init s) {held : Nat} (at_ : s.running t = some ⟨n, op, held, code⟩)
    (begun : 0 < held ∨ ∃ a, code = .done a) : s.Returns p t n op := by
  induction code generalizing s held with
  | done a =>
    have next : Threads.step p s (t, op) = { s with
        running := Function.update s.running t none
        events := .returned n t op a held :: s.events } := by
      simp only [Threads.step, at_]
    refine ⟨1, ?_, a, held, ?_⟩
    · show (Threads.step p s (t, op)).running = _
      rw [next]
    · show _ ∈ (Threads.step p s (t, op)).events
      rw [next]
      exact List.mem_cons_self
  | lock rest ih =>
    have inside : 0 < held := by
      rcases begun with inside | ⟨a, e⟩
      · exact inside
      · cases e
    obtain ⟨d, rfl⟩ := Nat.exists_eq_succ_of_ne_zero (Nat.ne_of_gt inside)
    obtain ⟨holder, -⟩ := (h.phase t _ at_).inside_of
    have running : (Threads.step p s (t, op)).running =
        Function.update s.running t (some ⟨n, op, d + 2, rest⟩) := by
      simp only [Threads.step, at_, if_pos (Or.inr holder)]
    have at_' := congrFun running t
    rw [Function.update_self] at at_'
    exact (ih (h.step guarded (t, op)) at_' (.inl (Nat.succ_pos _))).of_step running
  | unlock rest ih =>
    obtain ⟨d, rfl⟩ : ∃ d, held = d + 1 :=
      h.busy guarded at_ (fun _ e => by cases e) fun _ e => by cases e
    obtain ⟨-, -, stays, -⟩ := (h.phase t _ at_).inside_of
    have running : (Threads.step p s (t, op)).running =
        Function.update s.running t (some ⟨n, op, d, rest⟩) := by
      simp only [Threads.step, at_, Nat.add_sub_cancel]
    have at_' := congrFun running t
    rw [Function.update_self] at at_'
    have begun : 0 < d ∨ ∃ a, rest = .done a := by
      cases d with
      | zero => exact .inr stays
      | succ d => exact .inl (Nat.succ_pos _)
    exact (ih (h.step guarded (t, op)) at_' begun).of_step running
  | access effect rest ih =>
    obtain ⟨d, rfl⟩ : ∃ d, held = d + 1 :=
      h.busy guarded at_ (fun _ e => by cases e) fun _ e => by cases e
    have running : (Threads.step p s (t, op)).running =
        Function.update s.running t (some ⟨n, op, d + 1, rest (s.memory (p.mutex op))⟩) := by
      simp only [Threads.step, at_]
    have at_' := congrFun running t
    rw [Function.update_self] at at_'
    exact (ih _ (h.step guarded (t, op)) at_' (.inl (Nat.succ_pos _))).of_step running

/-- A call that has not entered returns when its thread moves alone, if the mutex is free. -/
theorem Inv.returns_free (guarded : ∀ op, (p.code op).Guarded leaks) {n : Nat} {op : Op} {code : Code σ α}
    (h : Inv leaks p init s) (at_ : s.running t = some ⟨n, op, 0, code⟩) (free : s.times (p.mutex op) = 0) :
    s.Returns p t n op := by
  cases hp : h.phase t _ at_ with
  | before =>
    obtain ⟨rest, e, -⟩ := guarded op
    rw [e] at at_
    have running : (Threads.step p s (t, op)).running =
        Function.update s.running t (some ⟨n, op, 1, rest⟩) := by
      simp only [Threads.step, at_, if_pos (Or.inl free)]
    have at_' := congrFun running t
    rw [Function.update_self] at at_'
    exact ((h.step guarded (t, op)).returns guarded at_' (.inl Nat.one_pos)).of_step running
  | after => exact h.returns guarded at_ (.inr ⟨_, rfl⟩)

/-- **No deadlock.** When every operation gives back what it took, every call under way can return, whatever the
schedule was so far. -/
theorem can_return (guarded : ∀ op, (p.code op).Guarded False) (is : List (Tid × Op)) {n held : Nat} {op : Op}
    {code : Code σ α}
    (at_ : (Runs.exec (step p) (.start init) is).running t = some ⟨n, op, held, code⟩) :
    ∃ js a held, .returned n t op a held ∈ (Runs.exec (step p) (.start init) (is ++ js)).events := by
  have h : Inv False p init (Runs.exec (step p) (.start init) is) := inv_exec guarded is
  have clean : (Runs.exec (step p) (.start init) is).Clean p := clean_exec guarded is
  have alone : ∀ js : List (Tid × Op),
      (Runs.exec (step p) (.start init) (is ++ js)).Returns p t n op →
      ∃ js a held, .returned n t op a held ∈ (Runs.exec (step p) (.start init) (is ++ js)).events := by
    rintro js ⟨k, -, a, held, returned⟩
    refine ⟨js ++ List.replicate k (t, op), a, held, ?_⟩
    rw [← List.append_assoc, Runs.exec_append]
    exact returned
  cases held with
  | succ d => exact alone [] (by simpa using h.returns guarded at_ (.inl (Nat.succ_pos d)))
  | zero =>
    by_cases free : (Runs.exec (step p) (.start init) is).times (p.mutex op) = 0
    · exact alone [] (by simpa using h.returns_free guarded at_ free)
    · obtain ⟨u, ⟨n', op', held', code'⟩, at_', on, held⟩ := clean _ free
      have inside : 0 < held' := Nat.pos_of_ne_zero fun e => free (held.symm.trans e)
      have ne : t ≠ u := by
        rintro rfl
        rw [at_] at at_'
        cases at_'
        exact absurd inside (Nat.lt_irrefl 0)
      obtain ⟨k, idle, -⟩ := h.returns guarded at_' (.inl inside)
      obtain ⟨d, rfl⟩ := Nat.exists_eq_succ_of_ne_zero (Nat.ne_of_gt inside)
      obtain ⟨holder, -⟩ := (h.phase u _ at_').inside_of
      set js := List.replicate k (u, op')
      rw [← Runs.exec_append] at idle
      have h' : Inv False p init (Runs.exec (step p) (.start init) (is ++ js)) := inv_exec guarded _
      have there : (Runs.exec (step p) (.start init) (is ++ js)).running t = some ⟨n, op, 0, code⟩ := by
        rw [idle, Function.update_of_ne ne]
        exact at_
      have free' : (Runs.exec (step p) (.start init) (is ++ js)).times (p.mutex op) = 0 := by
        by_contra taken
        have clean' : (Runs.exec (step p) (.start init) (is ++ js)).Clean p := clean_exec guarded _
        obtain ⟨v, q, at_v, on', held⟩ := clean' _ taken
        rw [idle] at at_v
        rcases update_some at_v with ⟨-, e⟩ | ⟨ne, at_v⟩
        · cases e
        · have apart := h.elsewhere at_v (by omega) ne (.inr holder)
          exact apart (on'.trans on.symm)
      exact alone js (h'.returns_free guarded there free')

/-! ## Starvation -/

/-- The thread holds the mutex more often than the call it is at took it. -/
structure System.Keeps (p : Program M Op σ α) (s : System Tid M Op σ α) (t : Tid) (m : M) : Prop where
  holder : s.holder m = some t
  more : ∀ r, s.running t = some r → p.mutex r.op = m → r.held < s.times m
  taken : s.times m ≠ 0

omit [DecidableEq M] [DecidableEq Tid] in
/-- A move that leaves the mutex alone. -/
theorem System.Keeps.same (keeps : s.Keeps p t m) {s' : System Tid M Op σ α}
    (holder : s'.holder m = s.holder m) (times : s'.times m = s.times m)
    (running : ∀ r, s'.running t = some r → p.mutex r.op = m → r.held = 0 ∨
      ∃ q, s.running t = some q ∧ p.mutex q.op = m ∧ r.held = q.held) : s'.Keeps p t m := by
  constructor
  · rw [holder, keeps.holder]
  · intro r at_ on
    rw [times]
    rcases running r at_ on with none | ⟨q, at_', on', e⟩
    · have taken := keeps.taken
      omega
    · rw [e]
      exact keeps.more q at_' on'
  · rw [times]
    exact keeps.taken

omit [DecidableEq Tid] in
/-- Another thread cannot take or give back the mutex. -/
theorem System.Keeps.blocks (h : Inv leaks p init s) (keeps : s.Keeps p t m) {u : Tid} (ne : u ≠ t) :
    ¬ (s.times m = 0 ∨ s.holder m = some u) ∧
      ∀ r, s.running u = some r → p.mutex r.op = m → r.held = 0 := by
  constructor
  · rintro (free | holder)
    · exact keeps.taken free
    · rw [keeps.holder] at holder
      exact ne (Option.some.inj holder).symm
  · intro r at_ on
    exact Nat.eq_zero_of_not_pos fun inside => h.elsewhere at_ inside ne (.inr keeps.holder) on

omit [DecidableEq M] in
/-- A move of another thread, or under another mutex. -/
theorem System.Keeps.aside (keeps : s.Keeps p t m) {s' : System Tid M Op σ α} {u : Tid} {r r' : Running Op σ α}
    (at_ : s.running u = some r) (running : s'.running = Function.update s.running u (some r'))
    (op : r'.op = r.op) (held : u = t → p.mutex r.op = m → r'.held = r.held)
    (holder : s'.holder m = s.holder m) (times : s'.times m = s.times m) : s'.Keeps p t m := by
  apply keeps.same holder times
  intro q at_' on
  rw [running] at at_'
  rcases update_some at_' with ⟨rfl, e⟩ | ⟨ne, old⟩
  · obtain rfl := Option.some.inj e
    rw [op] at on
    exact .inr ⟨r, at_, on, held rfl on⟩
  · exact .inr ⟨q, old, on, rfl⟩

omit [DecidableEq M] in
/-- The thread takes the mutex once more, or gives it back once. -/
theorem System.Keeps.own {s' : System Tid M Op σ α} {r' : Running Op σ α}
    (running : s'.running = Function.update s.running t (some r')) (holder : s'.holder m = some t)
    (more : r'.held < s'.times m) : s'.Keeps p t m := by
  constructor
  · exact holder
  · intro q at_ on
    rw [running, Function.update_self] at at_
    exact Option.some.inj at_ ▸ more
  · exact Nat.ne_zero_of_lt more

/-- Whatever moves, the thread keeps the mutex. -/
theorem System.Keeps.step (h : Inv leaks p init s) (guarded : ∀ op, (p.code op).Guarded leaks)
    (keeps : s.Keeps p t m) (i : Tid × Op) : (step p s i).Keeps p t m := by
  obtain ⟨u, op⟩ := i
  have moves := step_moves p s u op
  generalize Threads.step p s (u, op) = s' at moves ⊢
  have own : ∀ {r}, s.running u = some r → p.mutex r.op = m →
      (s.times m = 0 ∨ s.holder m = some u) ∨ 0 < r.held → u = t := fun {r} at_ on able => by
    by_contra ne
    obtain ⟨shut, outside⟩ := keeps.blocks h ne
    have none := outside r at_ on
    exact able.elim shut (by omega)
  cases moves with
  | call idle =>
    refine keeps.same rfl rfl ?_
    intro r at_ on
    rcases update_some at_ with ⟨-, e⟩ | ⟨-, old⟩
    · obtain rfl := Option.some.inj e
      exact .inl rfl
    · exact .inr ⟨r, old, on, rfl⟩
  | ret at_ =>
    refine keeps.same rfl rfl ?_
    intro r at_' on
    rcases update_some at_' with ⟨-, e⟩ | ⟨-, old⟩
    · cases e
    · exact .inr ⟨r, old, on, rfl⟩
  | @enter n op' rest at_ free =>
    by_cases on : p.mutex op' = m
    · subst on
      obtain rfl := own at_ rfl (.inl free)
      refine .own rfl (Function.update_self ..) ?_
      have taken := keeps.taken
      dsimp only
      rw [Function.update_self]
      omega
    · exact keeps.aside at_ rfl rfl (fun _ on' => absurd on' on) (Function.update_of_ne (Ne.symm on) ..)
        (Function.update_of_ne (Ne.symm on) ..)
  | @again n op' d rest at_ free =>
    by_cases on : p.mutex op' = m
    · subst on
      obtain rfl := own at_ rfl (.inl free)
      refine .own rfl (Function.update_self ..) ?_
      have more := keeps.more _ at_ rfl
      dsimp only at more ⊢
      rw [Function.update_self]
      omega
    · exact keeps.aside at_ rfl rfl (fun _ on' => absurd on' on) (Function.update_of_ne (Ne.symm on) ..)
        (Function.update_of_ne (Ne.symm on) ..)
  | wait => exact keeps
  | @unlock n op' held rest at_ =>
    obtain ⟨d, rfl⟩ : ∃ d, held = d + 1 :=
      h.busy guarded at_ (fun _ e => by cases e) fun _ e => by cases e
    by_cases on : p.mutex op' = m
    · subst on
      obtain rfl := own at_ rfl (.inr (Nat.succ_pos _))
      refine .own rfl keeps.holder ?_
      have more := keeps.more _ at_ rfl
      dsimp only at more ⊢
      rw [Function.update_self]
      omega
    · exact keeps.aside at_ rfl rfl (fun _ on' => absurd on' on) rfl (Function.update_of_ne (Ne.symm on) ..)
  | access at_ => exact keeps.aside at_ rfl rfl (fun _ _ => rfl) rfl rfl

/-- No other thread enters. -/
theorem System.Keeps.shut (h : Inv leaks p init s) (keeps : s.Keeps p t m) (i : Tid × Op) {n : Nat} {u : Tid}
    {op : Op} (on : p.mutex op = m) (ne : u ≠ t) (entered : .entered n u op ∈ (Threads.step p s i).events) :
    .entered n u op ∈ s.events := by
  obtain ⟨v, op'⟩ := i
  have moves := step_moves p s v op'
  generalize Threads.step p s (v, op') = s' at moves entered
  cases moves with
  | call idle =>
    rcases List.mem_cons.1 entered with e | old
    · cases e
    · exact old
  | ret at_ =>
    rcases List.mem_cons.1 entered with e | old
    · cases e
    · exact old
  | enter at_ free =>
    rcases List.mem_cons.1 entered with e | old
    · cases e
      subst on
      exact absurd free (keeps.blocks h ne).1
    · exact old
  | again => exact entered
  | wait => exact entered
  | unlock => exact entered
  | access => exact entered

/-- A call that has returned with the mutex keeps it. -/
theorem keeps_exec (guarded : ∀ op, (p.code op).Guarded leaks) (is : List (Tid × Op)) {n held : Nat} {op : Op}
    {a : α} (returned : .returned n t op a held ∈ (Runs.exec (step p) (.start init) is).events)
    (kept : held ≠ 0) : (Runs.exec (step p) (.start init) is).Keeps p t (p.mutex op) := by
  induction is using List.reverseRecOn with
  | nil => exact absurd returned List.not_mem_nil
  | append_singleton is i ih =>
    have h : Inv leaks p init (Runs.exec (step p) (.start init) is) := inv_exec guarded is
    rw [Runs.exec_append] at returned ⊢
    by_cases old : .returned n t op a held ∈ (Runs.exec (step p) (.start init) is).events
    · exact (ih old).step h guarded i
    · generalize Runs.exec (step p) (.start init) is = s at h returned old ⊢
      obtain ⟨u, op'⟩ := i
      have moves := step_moves p s u op'
      change .returned n t op a held ∈ (step p s (u, op')).events at returned
      change (step p s (u, op')).Keeps p t (p.mutex op)
      generalize step p s (u, op') = s' at moves returned ⊢
      cases moves with
      | call => exact absurd ((List.mem_cons.1 returned).resolve_left fun e => by cases e) old
      | enter => exact absurd ((List.mem_cons.1 returned).resolve_left fun e => by cases e) old
      | ret at_ =>
        rcases List.mem_cons.1 returned with e | mem
        · cases e
          obtain ⟨d, rfl⟩ := Nat.exists_eq_succ_of_ne_zero kept
          obtain ⟨holder, times, -⟩ := (h.phase t _ at_).inside_of
          constructor
          · exact holder
          · intro r at_' on
            dsimp only at at_'
            rw [Function.update_self] at at_'
            cases at_'
          · exact Nat.ne_zero_of_lt times
        · exact absurd mem old
      | again => exact absurd returned old
      | wait => exact absurd returned old
      | unlock => exact absurd returned old
      | access => exact absurd returned old

/-- **Starvation.** Once a call has returned without giving the mutex back, no call of another thread enters under
this mutex any more, and so none returns that had not entered before. -/
theorem starved (guarded : ∀ op, (p.code op).Guarded leaks) (is js : List (Tid × Op)) {n held : Nat} {op : Op}
    {a : α} (returned : .returned n t op a held ∈ (Runs.exec (step p) (.start init) is).events)
    (kept : held ≠ 0) {n' : Nat} {u : Tid} {op' : Op} (same : p.mutex op' = p.mutex op) (ne : u ≠ t)
    (entered : .entered n' u op' ∈ (Runs.exec (step p) (.start init) (is ++ js)).events) :
    .entered n' u op' ∈ (Runs.exec (step p) (.start init) is).events := by
  induction js using List.reverseRecOn with
  | nil => rwa [List.append_nil] at entered
  | append_singleton js i ih =>
    have still : .returned n t op a held ∈ (Runs.exec (step p) (.start init) (is ++ js)).events := by
      rw [Runs.exec_append]
      obtain ⟨newer, events⟩ := exec_events (Runs.exec (step p) (.start init) is) js
      rw [events]
      exact List.mem_append_right _ returned
    rw [← List.append_assoc, Runs.exec_append] at entered
    exact ih ((keeps_exec guarded _ still kept).shut (inv_exec guarded _) i same ne entered)

end Threads
