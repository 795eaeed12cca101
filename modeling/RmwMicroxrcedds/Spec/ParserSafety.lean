import RmwMicroxrcedds.Proof.GraphSurvey

/-!
# The parser on arbitrary bytes

A sample may break anywhere and the allocator may refuse anything. The parser comes through unharmed
when the sample is read in full with everything granted, and when it breaks at the name of a type, after
which no count is read any more. Then even a refused sequence of types does no harm if no more than its
first name was read into it.
-/

namespace RmwMicroxrcedds.GraphParser
set_option autoImplicit false

variable {β : Type} {ucdr : Ucdr β}

/-- Some read has failed, or a request to the allocator has been refused. -/
def Filling.Failed (env : Surroundings) (s : Filling β) : Prop :=
  s.tempBuffer = none ∨ (∃ k < s.sequences, env.sequences k = false) ∨
    ∃ k < s.strings, env.strings k = false

/-- The parser has come to its end without taking an item outside a sequence, it has initialised
sequences with counts that were read, and it reports every failure. -/
def Safe (env : Surroundings) (result : Option (Graph × Filling β)) : Prop :=
  ∃ graph s, result = some (graph, s) ∧ s.unread = false ∧ (s.Failed env → s.ret = .error)

/-- The sample is read in full and everything is granted, or it breaks at the name of a type and the
sequences that the parser relies on by then are granted. -/
def Harmless (env : Surroundings) : Except Place Graph × Walk β → Prop
  | (.ok _, sample) =>
    (∀ k < sample.sequences, env.sequences k = true) ∧ ∀ k < sample.strings, env.strings k = true
  | (.error .typeName, sample) => ∀ k ∈ sample.relied, env.sequences k = true
  | (.error .elsewhere, _) => False

namespace Small

open RmwMicroxrcedds.Small

/-- A stored sample. -/
def stored (bytes : List UInt8) : GraphInfo :=
  { (default : GraphInfo) with initialized := true, microBuffer := bytes, microBufferLength := bytes.length }

/-- Counts that hold a one before they are written, and an allocator that grants everything. -/
def granting : Surroundings := ⟨fun _ => 1, fun _ => true, fun _ => true⟩

end Small

section Harm

variable {env : Surroundings} {result : Option (Graph × Filling β)}

theorem not_safe_of_unread (h : (result.map fun r => r.2.unread) = some true) : ¬ Safe env result := by
  rintro ⟨graph, s, rfl, unread, -⟩
  rw [Option.map_some, unread] at h
  cases h

theorem not_safe_of_refused (h : (result.map fun r => r.2.ret) = some .ok)
    (asked : (result.map fun r => decide (0 < r.2.strings)) = some true)
    (refused : env.strings 0 = false) : ¬ Safe env result := by
  rintro ⟨graph, s, rfl, -, reported⟩
  have pos : 0 < s.strings := of_decide_eq_true (Option.some.inj asked)
  have error := reported (.inr (.inr ⟨0, pos, refused⟩))
  rw [Option.map_some, error] at h
  cases h

end Harm

end RmwMicroxrcedds.GraphParser
