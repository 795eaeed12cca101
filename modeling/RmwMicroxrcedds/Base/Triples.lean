import Mathlib.Logic.Relation
import Mathlib.Order.Defs.Unbundled

/-!
# Triples for state-passing programs

`Triple R P p Q`: started in a state satisfying `P`, the program `p` goes through steps of `R` to
a state that satisfies `Q`, which may speak about the result. The relation makes a triple say more
than its postcondition: what every step of `R` preserves holds all along the program. The rules
follow the constructors of a program; an atomic action is a `modify` that is one step of `R`.
-/

namespace Triples

variable {σ α β : Type} {R : σ → σ → Prop}

/-- From every state of `P`, the program takes `R`-steps to a state and result of `Q`. -/
def Triple (R : σ → σ → Prop) (P : σ → Prop) (p : StateM σ α) (Q : α → σ → Prop) : Prop :=
  ∀ s, P s → Relation.ReflTransGen R s (p s).2 ∧ Q (p s).1 (p s).2

variable {P P' : σ → Prop} {Q Q' : α → σ → Prop}

theorem Triple.conseq {p : StateM σ α} (h : Triple R P p Q) (pre : ∀ s, P' s → P s)
    (post : ∀ a s, Q a s → Q' a s) : Triple R P' p Q' := fun s hs =>
  ⟨(h s (pre s hs)).1, post _ _ (h s (pre s hs)).2⟩

theorem Triple.weaken {p : StateM σ α} (h : Triple R P p Q) (post : ∀ a s, Q a s → Q' a s) :
    Triple R P p Q' := h.conseq (fun _ => id) post

theorem Triple.strengthen {p : StateM σ α} (h : Triple R P p Q) (pre : ∀ s, P' s → P s) :
    Triple R P' p Q := h.conseq pre fun _ _ => id

theorem Triple.pure {a : α} (h : ∀ s, P s → Q a s) : Triple R P (Pure.pure a) Q := fun s hs =>
  ⟨.refl, h s hs⟩

theorem Triple.bind {p : StateM σ α} {f : α → StateM σ β} {M : α → σ → Prop} {Q : β → σ → Prop}
    (hp : Triple R P p M) (hf : ∀ a, Triple R (M a) (f a) Q) : Triple R P (p >>= f) Q := fun s hs =>
  have first := hp s hs
  have second := hf _ _ first.2
  ⟨first.1.trans second.1, second.2⟩

/-- An atomic action. -/
theorem Triple.step {f : σ → σ} {Q : Unit → σ → Prop}
    (h : ∀ s, P s → R s (f s) ∧ Q () (f s)) :
    Triple R P (modify f : StateM σ Unit) Q := fun s hs =>
  ⟨.single (h s hs).1, (h s hs).2⟩

/-- A change of state made of several atomic actions. -/
theorem Triple.path {f : σ → σ} {Q : Unit → σ → Prop}
    (h : ∀ s, P s → Relation.ReflTransGen R s (f s) ∧ Q () (f s)) :
    Triple R P (modify f : StateM σ Unit) Q := h

theorem Triple.ite {c : Prop} [Decidable c] {p q : StateM σ α}
    (hp : c → Triple R P p Q) (hq : ¬ c → Triple R P q Q) :
    Triple R P (if c then p else q) Q := by
  split
  · exact hp ‹_›
  · exact hq ‹_›

/-- The precondition may be taken apart before the program runs. -/
theorem Triple.of_pre {p : StateM σ α} (h : ∀ s, P s → Triple R (fun s' => s' = s) p Q) :
    Triple R P p Q := fun s hs => h s hs s rfl

/-- A fact that does not depend on the state. -/
theorem Triple.and_left {p : StateM σ α} {c : Prop} (h : c → Triple R P p Q) :
    Triple R (fun s => c ∧ P s) p Q := fun s hs => h hs.1 s hs.2

theorem Triple.exists_pre {ι : Type} {P : ι → σ → Prop} {p : StateM σ α}
    (h : ∀ i, Triple R (P i) p Q) : Triple R (fun s => ∃ i, P i s) p Q := fun s ⟨i, hs⟩ => h i s hs

/-! ## Triples without steps, and frames -/

/-- A triple that says nothing about the steps taken. -/
abbrev Hoare (P : σ → Prop) (p : StateM σ α) (Q : α → σ → Prop) : Prop :=
  Triple (fun _ _ => True) P p Q

theorem Hoare.of {p : StateM σ α} (h : ∀ s, P s → Q (p s).1 (p s).2) : Hoare P p Q := fun s hs =>
  ⟨.single trivial, h s hs⟩

/-- The program relates every start to the end it leads to. -/
def Within (R : σ → σ → Prop) (p : StateM σ α) : Prop := ∀ s, R s (p s).2

/-- An assertion that the relation keeps is kept by the program. -/
theorem Within.hoare {p : StateM σ α} (h : Within R p) (stable : ∀ s t, P s → R s t → P t) :
    Hoare P p fun _ => P := .of fun s hs => stable _ _ hs (h s)

theorem Within.ite {c : Prop} [Decidable c] {p q : StateM σ α} (hp : Within R p) (hq : Within R q) :
    Within R (if c then p else q) := by
  split
  · exact hp
  · exact hq

theorem Within.get {f : σ → StateM σ β} (h : ∀ s, Within R (f s)) :
    Within R (MonadState.get >>= f) := fun s => h s s

theorem Within.pure [Std.Refl R] {a : α} : Within R (Pure.pure a : StateM σ α) := fun s =>
  Std.Refl.refl s

theorem Within.bind [IsTrans σ R] {p : StateM σ α} {f : α → StateM σ β} (hp : Within R p)
    (hf : ∀ a, Within R (f a)) : Within R (p >>= f) := fun s =>
  IsTrans.trans _ _ _ (hp s) (hf _ _)

end Triples
