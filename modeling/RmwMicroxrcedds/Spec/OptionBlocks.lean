import RmwMicroxrcedds.Model.InitOptions
import RmwMicroxrcedds.Model.System
import RmwMicroxrcedds.Pool.StaticPool

/-!
# Init options and their blocks

A struct is in use while its implementation identifier is set. The blocks of the structs in use are
kept apart as long as no call is refused a block: a copy duplicates the struct, pointer included,
before it asks for a block of its own, and an initialisation marks the struct before it has one.
-/

namespace RmwMicroxrcedds
set_option autoImplicit false

namespace OptionsState

/-- The struct is in use. -/
def InUse (s : OptionsState) (x : Nat) : Prop := (s.options x).implementationIdentifier ≠ none

instance (s : OptionsState) (x : Nat) : Decidable (s.InUse x) := inferInstanceAs (Decidable (_ ≠ _))

/-- The structs in use have blocks of their own, each of them allocated. -/
structure Separate (s : OptionsState) : Prop where
  distinct : ∀ x y, x ≠ y → s.InUse x → s.InUse y → (s.options x).impl ≠ (s.options y).impl
  allocated : ∀ x, s.InUse x → ∃ b ∈ s.memory.elements, (s.options x).impl = some b

/-- The struct `x` gives back its own block and nothing else. -/
def Releases (s : OptionsState) (x : Nat) (t : OptionsState) : Prop :=
  ∃ b, (s.options x).impl = some b ∧ t.memory.elements = s.memory.elements.erase b ∧
    t.options = setAt s.options x rmwGetZeroInitializedInitOptions

end OptionsState

variable {cfg : Config} {defaults : TransportDefaults}

/-- The invariant: structs in use have an allocator and are of this implementation. -/
structure Blocks (cfg : Config) (s : OptionsState) : Prop where
  ok : s.memory.Ok cfg.maxOptions
  separate : s.Separate
  own : ∀ x, (s.options x).implementationIdentifier ≠ some .foreign
  allocator : ∀ x, s.InUse x ↔ (s.options x).allocator ≠ none

theorem blocks_zero (cfg : Config) : Blocks cfg .zero where
  ok := Slots.zero_ok _
  separate := ⟨fun _ _ _ h => absurd rfl h, fun _ h => absurd rfl h⟩
  own _ := by simp [OptionsState.zero, rmwGetZeroInitializedInitOptions]
  allocator _ := iff_of_false (fun h => h rfl) fun h => h rfl

section Writes

variable {s : OptionsState} {memory : Slots InitOptionsImpl} {y b : Nat} {o : InitOptions}

/-- A struct that was not in use is given a block that was free. -/
theorem Blocks.give (h : Blocks cfg s) (ok : memory.Ok cfg.maxOptions)
    (fresh : b ∉ s.memory.elements) (elements : memory.elements = b :: s.memory.elements)
    (impl : o.impl = some b) (own : o.implementationIdentifier ≠ some .foreign)
    (allocator : o.implementationIdentifier ≠ none ↔ o.allocator ≠ none) :
    Blocks cfg { options := setAt s.options y o, memory := memory } := by
  have other : ∀ x, x ≠ y → s.InUse x → (s.options x).impl ≠ some b := by
    intro x ne used same
    obtain ⟨b', hb, impl'⟩ := h.separate.allocated x used
    obtain rfl := Option.some.inj (impl'.symm.trans same)
    exact fresh hb
  have at_self : setAt s.options y o y = o := setAt_self ..
  have at_ne : ∀ {x}, x ≠ y → setAt s.options y o x = s.options x := fun ne => setAt_of_ne _ _ ne
  refine ⟨ok, ⟨?_, ?_⟩, ?_, ?_⟩
  · intro x z ne usedX usedZ
    simp only [OptionsState.InUse] at usedX usedZ
    dsimp only
    by_cases hx : x = y
    · have hz : z ≠ y := fun e => ne (hx.trans e.symm)
      rw [at_ne hz] at usedZ
      rw [hx, at_self, at_ne hz, impl]
      exact (other z hz usedZ).symm
    · rw [at_ne hx] at usedX
      by_cases hz : z = y
      · rw [hz, at_self, at_ne hx, impl]
        exact other x hx usedX
      · rw [at_ne hz] at usedZ
        rw [at_ne hx, at_ne hz]
        exact h.separate.distinct x z ne usedX usedZ
  · intro x used
    rw [OptionsState.InUse] at used
    dsimp only at used ⊢
    by_cases hx : x = y
    · rw [hx, at_self, impl, elements]
      exact ⟨b, List.mem_cons_self, rfl⟩
    · rw [at_ne hx] at used ⊢
      obtain ⟨b', hb, impl'⟩ := h.separate.allocated x used
      exact ⟨b', elements ▸ List.mem_cons_of_mem _ hb, impl'⟩
  · intro x
    by_cases hx : x = y
    · rw [hx]
      dsimp only
      rwa [at_self]
    · dsimp only
      rw [at_ne hx]
      exact h.own x
  · intro x
    rw [OptionsState.InUse]
    by_cases hx : x = y
    · rw [hx]
      dsimp only
      rwa [at_self]
    · dsimp only
      rw [at_ne hx]
      exact h.allocator x

/-- A struct in use gives back its block. -/
theorem Blocks.release (h : Blocks cfg s) (used : s.InUse y) (impl : (s.options y).impl = some b)
    (mem : b ∈ s.memory.elements) :
    Blocks cfg ({ s with memory := s.memory.put b }.write y rmwGetZeroInitializedInitOptions) := by
  obtain ⟨ok, elements⟩ := h.ok.put mem
  have at_self : setAt s.options y rmwGetZeroInitializedInitOptions y =
    rmwGetZeroInitializedInitOptions := setAt_self ..
  have at_ne : ∀ {x}, x ≠ y → setAt s.options y rmwGetZeroInitializedInitOptions x = s.options x :=
    fun ne => setAt_of_ne _ _ ne
  have stays : ∀ {x}, (OptionsState.write { s with memory := s.memory.put b } y
      rmwGetZeroInitializedInitOptions).InUse x → x ≠ y ∧ s.InUse x := by
    intro x still
    rw [OptionsState.InUse, OptionsState.write] at still
    dsimp only at still
    by_cases hx : x = y
    · rw [hx, at_self] at still
      exact absurd rfl still
    · rw [at_ne hx] at still
      exact ⟨hx, still⟩
  refine ⟨ok, ⟨?_, ?_⟩, ?_, ?_⟩
  · intro x z ne usedX usedZ
    obtain ⟨hx, usedX⟩ := stays usedX
    obtain ⟨hz, usedZ⟩ := stays usedZ
    rw [OptionsState.write]
    dsimp only
    rw [at_ne hx, at_ne hz]
    exact h.separate.distinct x z ne usedX usedZ
  · intro x usedX
    obtain ⟨hx, before⟩ := stays usedX
    obtain ⟨b', hb, impl'⟩ := h.separate.allocated x before
    rw [OptionsState.write]
    dsimp only
    rw [at_ne hx, elements]
    refine ⟨b', (List.mem_erase_of_ne ?_).2 hb, impl'⟩
    rintro rfl
    exact h.separate.distinct x y hx before used (impl'.trans impl.symm)
  · intro x
    rw [OptionsState.write]
    dsimp only
    by_cases hx : x = y
    · rw [hx, at_self]
      simp [rmwGetZeroInitializedInitOptions]
    · rw [at_ne hx]
      exact h.own x
  · intro x
    rw [OptionsState.InUse, OptionsState.write]
    dsimp only
    by_cases hx : x = y
    · rw [hx, at_self]
      exact iff_of_false (fun h => h rfl) fun h => h rfl
    · rw [at_ne hx]
      exact h.allocator x

end Writes

/-! ## The calls -/

/-- A block is free. -/
def HasFree (t : Slots InitOptionsImpl) : Prop := t.elements.length < t.memory.size

instance (t : Slots InitOptionsImpl) : Decidable (HasFree t) := inferInstanceAs (Decidable (_ < _))

theorem get_none_iff {t : Slots InitOptionsImpl} {n : Nat} (ok : t.Ok n) :
    t.get.1 = none ↔ ¬ HasFree t := by
  constructor
  · intro none free
    have some := ok.get_isSome free
    rw [none] at some
    cases some
  · intro full
    cases slot : t.get.1 with
    | none => rfl
    | some b =>
      obtain ⟨-, free, lt, -⟩ := ok.get_some slot
      exact absurd (ok.length_lt free lt) full

/-- Whether the settings fit does not depend on what the fields held. -/
theorem printSettings_fits (defaults : TransportDefaults) (fields : List CStr) :
    (printSettings defaults fields).1 = true ↔ ∀ d ∈ defaults, d.1.length ≤ d.2 := by
  induction defaults generalizing fields with
  | nil => simp [printSettings]
  | cons d rest ih =>
    obtain ⟨text, size⟩ := d
    rw [printSettings, List.forall_mem_cons]
    split
    · rename_i fits
      exact (ih _).trans (and_iff_right fits).symm
    · rename_i long
      exact iff_of_false (by simp) fun h => long h.1

section Calls

variable {s : OptionsState} {x y : Nat}

/-- An initialisation that is granted a block and whose settings fit. -/
theorem init_granted (key allocator : Nat) (h : Blocks cfg s) (unused : ¬ s.InUse x)
    (free : HasFree (s.memory.init cfg.maxOptions)) (fits : ∀ d ∈ defaults, d.1.length ≤ d.2) :
    ∃ t, rmwInitOptionsInit cfg defaults key (some x) (some allocator) s = (some .ok, t) ∧
      Blocks cfg t := by
  obtain ⟨ok, elements, -⟩ := h.ok.init
  cases slot : (s.memory.init cfg.maxOptions).get.1 with
  | none => exact absurd free ((get_none_iff ok).1 slot)
  | some b =>
    obtain ⟨ok', fresh, -, elements'⟩ := ok.get_some slot
    rw [elements] at fresh elements'
    have printed := fun fields => (printSettings_fits defaults fields).2 fits
    have unmarked : ¬ (s.options x).implementationIdentifier ≠ none := unused
    simp only [rmwInitOptionsInit, if_neg unmarked, OptionsState.write, slot, printed, if_true,
      setAt_self, setAt_setAt]
    refine ⟨_, rfl, h.give (ok'.update _ _) fresh elements' rfl ?_ ?_⟩
    · exact fun foreign => by cases foreign
    · exact iff_of_true (fun none => by cases none) fun none => by cases none

/-- An initialisation without a free block, or whose settings do not fit, has marked the struct. -/
theorem init_refused (key allocator : Nat) (h : Blocks cfg s) (unused : ¬ s.InUse x)
    (refused : ¬ (HasFree (s.memory.init cfg.maxOptions) ∧ ∀ d ∈ defaults, d.1.length ≤ d.2)) :
    ∃ ret t, rmwInitOptionsInit cfg defaults key (some x) (some allocator) s = (some ret, t) ∧
      ret ≠ .ok ∧ t.InUse x := by
  obtain ⟨ok, -, -⟩ := h.ok.init
  have unmarked : ¬ (s.options x).implementationIdentifier ≠ none := unused
  cases slot : (s.memory.init cfg.maxOptions).get.1 with
  | none =>
    simp only [rmwInitOptionsInit, if_neg unmarked, OptionsState.write, slot]
    exact ⟨_, _, rfl, by decide, by simp [OptionsState.InUse]⟩
  | some b =>
    have free : HasFree (s.memory.init cfg.maxOptions) := by
      by_contra full
      cases slot.symm.trans ((get_none_iff ok).2 full)
    have printed : ∀ fields, (printSettings defaults fields).1 = false := by
      intro fields
      rw [← Bool.not_eq_true, printSettings_fits]
      exact fun fits => refused ⟨free, fits⟩
    simp only [rmwInitOptionsInit, if_neg unmarked, OptionsState.write, slot, printed,
      Bool.false_eq_true, if_false]
    exact ⟨_, _, rfl, by decide, by simp [OptionsState.InUse]⟩

/-- A copy that is granted a block. -/
theorem copy_granted (h : Blocks cfg s) (unused : ¬ s.InUse y) (free : HasFree s.memory) :
    (rmwInitOptionsCopy (some x) (some y) s).1 = none ∨
    ∃ t, rmwInitOptionsCopy (some x) (some y) s = (some .ok, t) ∧ Blocks cfg t := by
  have own := h.own x
  have unmarked : ¬ (s.options y).implementationIdentifier ≠ none := unused
  cases slot : s.memory.get.1 with
  | none => exact absurd free ((get_none_iff h.ok).1 slot)
  | some b =>
    obtain ⟨ok', fresh, -, elements'⟩ := h.ok.get_some slot
    simp only [rmwInitOptionsCopy, if_neg own, if_neg unmarked, OptionsState.write, slot, setAt_self,
      setAt_setAt]
    split
    · exact .inl rfl
    · exact .inr ⟨_, rfl, h.give (ok'.update _ _) fresh elements' rfl own (h.allocator x)⟩

/-- A copy without a free block has duplicated the struct. -/
theorem copy_refused (h : Blocks cfg s) (unused : ¬ s.InUse y) (full : ¬ HasFree s.memory) :
    rmwInitOptionsCopy (some x) (some y) s = (some .error, s.write y (s.options x)) := by
  have own := h.own x
  have unmarked : ¬ (s.options y).implementationIdentifier ≠ none := unused
  have slot := (get_none_iff h.ok).2 full
  simp only [rmwInitOptionsCopy, if_neg own, if_neg unmarked, OptionsState.write, slot,
    h.ok.get_none slot]

/-- A finalisation of a struct in use. -/
theorem fini_inUse (h : Blocks cfg s) (used : s.InUse x) :
    ∃ t, rmwInitOptionsFini (some x) s = (some .ok, t) ∧ Blocks cfg t ∧ s.Releases x t := by
  obtain ⟨b, mem, impl⟩ := h.separate.allocated x used
  have found : s.memory.elements.find? (fun block => (s.options x).impl = some block) = some b := by
    cases find : s.memory.elements.find? fun block => (s.options x).impl = some block with
    | none => simpa [impl] using List.find?_eq_none.1 find b mem
    | some b' =>
      have same : (s.options x).impl = some b' := by simpa using List.find?_some find
      exact (impl.symm.trans same).symm
  have allocator := (h.allocator x).1 used
  simp only [rmwInitOptionsFini, if_neg allocator, if_neg (h.own x), found]
  exact ⟨_, rfl, h.release used impl mem, b, impl, (h.ok.put mem).2, rfl⟩

/-- A finalisation of a struct that is not in use is refused. -/
theorem fini_unused (h : Blocks cfg s) (unused : ¬ s.InUse x) :
    rmwInitOptionsFini (some x) s = (some .invalidArgument, s) := by
  have allocator : (s.options x).allocator = none :=
    not_not.1 fun some => unused ((h.allocator x).2 some)
  simp only [rmwInitOptionsFini, if_pos allocator]

end Calls

/-! ## Runs -/

/-- A block is free for every struct that an initialisation or a copy is about to mark, and the
settings of an initialisation fit their fields. (A copy of a struct onto an equal one changes nothing
where no block is free.) -/
def Granted (cfg : Config) (defaults : TransportDefaults) (s : OptionsState) : OptionsStep → Prop
  | .init _ (some x) (some _) => ¬ s.InUse x →
      HasFree (s.memory.init cfg.maxOptions) ∧ ∀ d ∈ defaults, d.1.length ≤ d.2
  | .copy (some x) (some y) => ¬ s.InUse y → s.options x ≠ s.options y → HasFree s.memory
  | _ => True

/-- What holds of a call that returns: the structs in use keep apart, an error leaves everything
as it was, and a finalisation gives back the block of its struct. -/
def Kept (cfg : Config) (defaults : TransportDefaults) (s : OptionsState) (i : OptionsStep) : Prop :=
  ∀ ret, (i.call cfg defaults s).1 = some ret →
    let t := (i.call cfg defaults s).2
    t.Separate ∧ (ret ≠ .ok → t = s) ∧
      ∀ x, i = .fini (some x) → s.InUse x → ret = .ok ∧ s.Releases x t

section Steps

variable {s : OptionsState} {i : OptionsStep} {ret : RmwRet} {t : OptionsState}

/-- A call other than a finalisation that succeeds. -/
theorem kept_of_ok (result : i.call cfg defaults s = (some .ok, t)) (separate : t.Separate)
    (fini : ∀ x, i = .fini (some x) → s.InUse x → s.Releases x t) : Kept cfg defaults s i := by
  intro ret e
  rw [result] at e ⊢
  obtain rfl := Option.some.inj e
  exact ⟨separate, fun error => absurd rfl error, fun x h used => ⟨rfl, fini x h used⟩⟩

/-- A call that is refused and changes nothing. -/
theorem kept_of_error (h : Blocks cfg s) (result : i.call cfg defaults s = (some ret, s))
    (fini : ∀ x, i = .fini (some x) → ¬ s.InUse x) : Kept cfg defaults s i := by
  intro ret' e
  rw [result] at e ⊢
  exact ⟨h.separate, fun _ => rfl, fun x hx used => absurd used (fini x hx)⟩

/-- A program that dereferences NULL is over. -/
theorem optionsStep_crash (crash : (i.call cfg defaults s).1 = none) :
    optionsStep cfg defaults s i = s := by
  rw [optionsStep]
  generalize i.call cfg defaults s = r at crash
  obtain ⟨ret, t⟩ := r
  dsimp only at crash
  rw [crash]

/-- A call that is refused and changes something. -/
theorem not_kept (result : i.call cfg defaults s = (some ret, t)) (error : ret ≠ .ok) (changed : t ≠ s) :
    ¬ Kept cfg defaults s i := by
  intro kept
  have := (kept ret (by rw [result])).2.1 error
  rw [result] at this
  exact changed this

end Steps

/-- One call: either it keeps the invariant and the properties of a call that returns, or it is refused a block. -/
theorem step_cases {s : OptionsState} (h : Blocks cfg s) (i : OptionsStep) :
    (Granted cfg defaults s i ∧ Kept cfg defaults s i ∧ Blocks cfg (optionsStep cfg defaults s i)) ∨
      ¬ Granted cfg defaults s i ∧ ¬ Kept cfg defaults s i := by
  -- a call that returns an error and changes nothing
  have refused : ∀ {ret}, i.call cfg defaults s = (some ret, s) → Granted cfg defaults s i →
      (∀ x, i = .fini (some x) → ¬ s.InUse x) →
      (Granted cfg defaults s i ∧ Kept cfg defaults s i ∧ Blocks cfg (optionsStep cfg defaults s i)) := by
    intro ret result granted fini
    refine ⟨granted, kept_of_error h result fini, ?_⟩
    rw [optionsStep, result]
    exact h
  have succeeded : ∀ {t}, i.call cfg defaults s = (some .ok, t) → Granted cfg defaults s i →
      Blocks cfg t → (∀ x, i = .fini (some x) → s.InUse x → s.Releases x t) →
      (Granted cfg defaults s i ∧ Kept cfg defaults s i ∧ Blocks cfg (optionsStep cfg defaults s i)) := by
    intro t result granted blocks fini
    refine ⟨granted, kept_of_ok result blocks.separate fini, ?_⟩
    rw [optionsStep, result]
    exact blocks
  cases i with
  | init key initOptions allocator =>
    cases initOptions with
    | none => exact .inl (refused rfl trivial (by simp))
    | some x =>
      cases allocator with
      | none => exact .inl (refused rfl trivial (by simp))
      | some a =>
        by_cases used : s.InUse x
        · have marked : (s.options x).implementationIdentifier ≠ none := used
          have result : rmwInitOptionsInit cfg defaults key (some x) (some a) s =
              (some .invalidArgument, s) := by simp only [rmwInitOptionsInit, if_pos marked]
          exact .inl (refused result (fun unused => absurd used unused) (by simp))
        · by_cases granted : HasFree (s.memory.init cfg.maxOptions) ∧ ∀ d ∈ defaults, d.1.length ≤ d.2
          · obtain ⟨t, result, blocks⟩ := init_granted key a h used granted.1 granted.2
            exact .inl (succeeded result (fun _ => granted) blocks (by simp))
          · obtain ⟨ret, t, result, error, inUse⟩ := init_refused key a h used granted
            refine .inr ⟨fun all => granted (all used), not_kept result error ?_⟩
            rintro rfl
            exact used inUse
  | copy src dst =>
    cases src with
    | none => exact .inl (refused rfl trivial (by simp))
    | some x =>
      cases dst with
      | none => exact .inl (refused rfl trivial (by simp))
      | some y =>
        by_cases used : s.InUse y
        · have own := h.own x
          have marked : (s.options y).implementationIdentifier ≠ none := used
          have result : rmwInitOptionsCopy (some x) (some y) s = (some .invalidArgument, s) := by
            simp only [rmwInitOptionsCopy, if_neg own, if_pos marked]
          exact .inl (refused result (fun unused => absurd used unused) (by simp))
        · by_cases free : HasFree s.memory
          · rcases copy_granted (x := x) h used free with crash | ⟨t, result, blocks⟩
            · left
              refine ⟨fun _ _ => free, fun ret e => ?_, ?_⟩
              · cases e.symm.trans crash
              · have crashed : (OptionsStep.call cfg defaults (.copy (some x) (some y)) s).1 = none := crash
                rw [optionsStep_crash crashed]
                exact h
            · exact .inl (succeeded result (fun _ _ => free) blocks (by simp))
          · have result := copy_refused (x := x) h used free
            by_cases same : s.options x = s.options y
            · have stay : s.write y (s.options x) = s := by
                rw [OptionsState.write, setAt_same same]
              rw [stay] at result
              exact .inl (refused result (fun _ differ => absurd same differ) (by simp))
            · refine .inr ⟨fun all => free (all used same), not_kept result (by decide) fun e => same ?_⟩
              rw [← congrArg (fun t => t.options y) e]
              exact (setAt_self ..).symm
  | fini initOptions =>
    cases initOptions with
    | none => exact .inl (refused rfl trivial (by simp))
    | some x =>
      by_cases used : s.InUse x
      · obtain ⟨t, result, blocks, releases⟩ := fini_inUse h used
        refine .inl (succeeded result trivial blocks ?_)
        rintro _ ⟨⟩ -
        exact releases
      · refine .inl (refused (fini_unused h used) trivial ?_)
        rintro _ ⟨⟩
        exact used

/-- **Init options keep their blocks apart** exactly in the runs in which no call is refused one. -/
theorem blocks_kept_iff_granted (cfg : Config) (defaults : TransportDefaults) (is : List OptionsStep) :
    Runs.Always (optionsStep cfg defaults) (Kept cfg defaults) .zero is ↔
      Runs.Always (optionsStep cfg defaults) (Granted cfg defaults) .zero is := by
  refine Runs.always_iff_always (I := Blocks cfg) ?_ ?_ (blocks_zero cfg)
  · intro s i h granted
    rcases step_cases h i with ⟨-, -, blocks⟩ | ⟨not, -⟩
    · exact blocks
    · exact absurd granted not
  · intro s i h
    rcases step_cases h i with ⟨granted, kept, -⟩ | ⟨not, notKept⟩
    · exact iff_of_true kept granted
    · exact iff_of_false notKept not

/-- One block, and a struct that has it: a copy reports an error and leaves its destination in use, with
the block of the source. The finalisation of the copy then releases that block, and the one of the
source fails. -/
theorem copy_shares_block :
    let cfg := { Small.config with maxOptions := 1 }
    let s := Runs.exec (optionsStep cfg []) .zero [.init 5 (some 0) (some 0)]
    let t := (OptionsStep.call cfg [] (.copy (some 0) (some 1)) s).2
    (OptionsStep.call cfg [] (.copy (some 0) (some 1)) s).1 = some .error ∧ s.options 1 ≠ t.options 1 ∧
      t.InUse 0 ∧ t.InUse 1 ∧ (t.options 0).impl = (t.options 1).impl ∧
      (OptionsStep.call cfg [] (.fini (some 0))
        (OptionsStep.call cfg [] (.fini (some 1)) t).2).1 = some .error := by
  decide

end RmwMicroxrcedds
