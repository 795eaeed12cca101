import Mathlib.Data.List.Induction

/-!
# Runs of a deterministic machine

A machine is a step function; a run feeds it a list of inputs. `Always P` says that `P`
holds of every state a run goes through together with the input it receives there. The rules
carry an invariant along a run whose steps all satisfy a condition, and turn a step-by-step
equivalence of two conditions into one about whole runs. `Since P Q` looks back for a step that
satisfied `P` and was not followed by one that satisfied `Q`.
-/

namespace Runs

variable {σ ι : Type} {step : σ → ι → σ}

/-- The state after the inputs. -/
def exec (step : σ → ι → σ) (s : σ) (is : List ι) : σ := is.foldl step s

@[simp] theorem exec_nil (s : σ) : exec step s [] = s := rfl

@[simp] theorem exec_cons (s : σ) (i : ι) (is : List ι) :
    exec step s (i :: is) = exec step (step s i) is := rfl

theorem exec_append (s : σ) (is js : List ι) :
    exec step s (is ++ js) = exec step (exec step s is) js := List.foldl_append

/-- `P` holds of each input of the run and the state it meets. -/
def Always (step : σ → ι → σ) (P : σ → ι → Prop) : σ → List ι → Prop
  | _, [] => True
  | s, i :: is => P s i ∧ Always step P (step s i) is

instance Always.decidable {P : σ → ι → Prop} [∀ s i, Decidable (P s i)] :
    ∀ s is, Decidable (Always step P s is)
  | _, [] => .isTrue trivial
  | s, i :: is =>
    have : Decidable (Always step P (step s i) is) := Always.decidable (step s i) is
    inferInstanceAs (Decidable (P s i ∧ Always step P (step s i) is))

/-- `Always` over the prefixes of the run. -/
theorem always_iff {P : σ → ι → Prop} {s : σ} {is : List ι} :
    Always step P s is ↔ ∀ pre i post, is = pre ++ i :: post → P (exec step s pre) i := by
  induction is generalizing s with
  | nil => simp [Always]
  | cons j is ih =>
    simp only [Always, ih]
    constructor
    · rintro ⟨hj, rest⟩ pre i post e
      cases pre with
      | nil =>
        obtain ⟨rfl, rfl⟩ := List.cons.inj e
        exact hj
      | cons k pre =>
        obtain ⟨rfl, e'⟩ := List.cons.inj e
        exact rest pre i post e'
    · intro h
      exact ⟨h [] j is rfl, fun pre i post e => h (j :: pre) i post (by rw [e]; rfl)⟩

/-- Two conditions at once. -/
theorem Always.and {P Q : σ → ι → Prop} {s : σ} {is : List ι} (h : Always step P s is)
    (k : Always step Q s is) : Always step (fun s i => P s i ∧ Q s i) s is := by
  induction is generalizing s with
  | nil => trivial
  | cons i is ih => exact ⟨⟨h.1, k.1⟩, ih h.2 k.2⟩

/-- A condition on the inputs alone. -/
theorem Always.and_mem {P : σ → ι → Prop} {R : ι → Prop} {s : σ} {is : List ι}
    (h : Always step P s is) (all : ∀ i ∈ is, R i) : Always step (fun s i => P s i ∧ R i) s is := by
  induction is generalizing s with
  | nil => trivial
  | cons i is ih =>
    exact ⟨⟨h.1, all i List.mem_cons_self⟩, ih h.2 fun j hj => all j (List.mem_cons_of_mem _ hj)⟩

/-- **The run rule.** An invariant that every step allowed by `G` preserves holds at the end of
every run of allowed steps. -/
theorem invariant_exec {G : σ → ι → Prop} {I : σ → Prop}
    (pres : ∀ s i, I s → G s i → I (step s i)) {s : σ} {is : List ι} (start : I s)
    (allowed : Always step G s is) : I (exec step s is) := by
  induction is generalizing s with
  | nil => exact start
  | cons i is ih => exact ih (pres s i start allowed.1) allowed.2

/-- The same at every step of the run. -/
theorem always_of_invariant {G Q : σ → ι → Prop} {I : σ → Prop}
    (pres : ∀ s i, I s → G s i → I (step s i)) (gives : ∀ s i, I s → G s i → Q s i)
    {s : σ} {is : List ι} (start : I s) (allowed : Always step G s is) :
    Always step Q s is := by
  induction is generalizing s with
  | nil => trivial
  | cons i is ih =>
    exact ⟨gives s i start allowed.1, ih (pres s i start allowed.1) allowed.2⟩

/-- If under the invariant each step satisfies `Q` exactly when it satisfies `G`, a run satisfies
`Q` throughout exactly when it satisfies `G` throughout. -/
theorem always_iff_always {G Q : σ → ι → Prop} {I : σ → Prop}
    (pres : ∀ s i, I s → G s i → I (step s i)) (same : ∀ s i, I s → (Q s i ↔ G s i))
    {s : σ} {is : List ι} (start : I s) : Always step Q s is ↔ Always step G s is := by
  constructor
  · intro h
    induction is generalizing s with
    | nil => trivial
    | cons i is ih =>
      have g := (same s i start).1 h.1
      exact ⟨g, ih (pres s i start g) h.2⟩
  · exact always_of_invariant pres (fun s i inv g => (same s i inv).2 g) start

/-! ## Flags -/

theorem always_concat {P : σ → ι → Prop} {s : σ} {is : List ι} {i : ι} :
    Always step P s (is ++ [i]) ↔ Always step P s is ∧ P (exec step s is) i := by
  induction is generalizing s with
  | nil => simp [Always]
  | cons j is ih => simp only [List.cons_append, Always, ih, exec_cons, and_assoc]

/-- `P` held of some step, and `Q` of none after it. -/
def Since (step : σ → ι → σ) (P Q : σ → ι → Prop) (s : σ) (is : List ι) : Prop :=
  ∃ pre i post, is = pre ++ i :: post ∧ P (exec step s pre) i ∧
    Always step (fun s i => ¬ Q s i) (exec step s (pre ++ [i])) post

theorem since_concat {P Q : σ → ι → Prop} {s : σ} {is : List ι} {i : ι} :
    Since step P Q s (is ++ [i]) ↔
      P (exec step s is) i ∨ Since step P Q s is ∧ ¬ Q (exec step s is) i := by
  constructor
  · rintro ⟨pre, j, post, e, set, quiet⟩
    rcases List.eq_nil_or_concat post with rfl | ⟨post, k, rfl⟩
    · obtain ⟨rfl, last⟩ := List.append_inj' e rfl
      obtain rfl := List.singleton_inj.1 last
      exact .inl set
    · rw [List.concat_eq_append] at e quiet
      have e' : is ++ [i] = (pre ++ j :: post) ++ [k] := by simpa using e
      obtain ⟨rfl, last⟩ := List.append_inj' e' rfl
      obtain rfl := List.singleton_inj.1 last
      rw [always_concat, ← exec_append] at quiet
      refine .inr ⟨⟨pre, j, post, rfl, set, quiet.1⟩, ?_⟩
      simpa using quiet.2
  · rintro (set | ⟨⟨pre, j, post, rfl, set, quiet⟩, unset⟩)
    · exact ⟨is, i, [], rfl, set, trivial⟩
    · refine ⟨pre, j, post ++ [i], by simp, set, always_concat.2 ⟨quiet, ?_⟩⟩
      rw [← exec_append]
      simpa using unset

/-- **The flag rule.** A flag that is down when it comes into use, is put up by `P` and taken down by
`Q` and by nothing else, shows whether there was a `P` after the last `Q`. -/
theorem flag_iff_since {I Used Up : σ → Prop} {P Q : σ → ι → Prop}
    (pres : ∀ s i, I s → I (step s i))
    (fresh : ∀ s i, I s → ¬ Used s → Used (step s i) → ¬ Up (step s i) ∧ Q s i ∧ ¬ P s i)
    (kept : ∀ s i, I s → Used s → Used (step s i) → (Up (step s i) ↔ P s i ∨ Up s ∧ ¬ Q s i))
    {s : σ} (start : I s) (unused : ¬ Used s) (is : List ι) (used : Used (exec step s is)) :
    Up (exec step s is) ↔ Since step P Q s is := by
  have inv : ∀ is, I (exec step s is) := fun is =>
    invariant_exec (G := fun _ _ => True) (fun s i h _ => pres s i h) start
      (always_iff.2 fun _ _ _ _ => trivial)
  induction is using List.reverseRecOn with
  | nil => exact absurd used unused
  | append_singleton is i ih =>
    rw [since_concat]
    rw [exec_append, exec_cons, exec_nil] at used ⊢
    by_cases before : Used (exec step s is)
    · have earlier : Up (exec step s is) ↔ Since step P Q s is := ih before
      rw [kept _ i (inv is) before used, earlier]
    · obtain ⟨down, unset, idle⟩ := fresh _ i (inv is) before used
      simp [down, unset, idle]

end Runs
