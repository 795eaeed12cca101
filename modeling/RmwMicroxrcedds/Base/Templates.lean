/-!
# Texts around fields

A template is an opening and, for each field, the literal that follows it. A literal begins with a mark that no
field before it holds, so a text made from the template can be read from left to right: a field reaches to the
next mark. A text that was cut anywhere cannot be read at all, because the literal it was cut in or before is
missing.
-/

namespace Templates
set_option autoImplicit false

variable {α : Type} [DecidableEq α]

/-- A literal, with the mark it begins with. -/
structure Literal (α : Type) where
  text : List α
  mark : α
  begins : text.head? = some mark

/-- The fields, each with the literal after it. -/
def spell : List (List α) → List (Literal α) → List α
  | field :: fields, l :: literals => field ++ (l.text ++ spell fields literals)
  | _, _ => []

/-- One field for each literal, which does not hold its mark. -/
def Marked : List (List α) → List (Literal α) → Prop
  | [], [] => True
  | field :: fields, l :: literals => l.mark ∉ field ∧ Marked fields literals
  | _, _ => False

/-- The fields of a text, if it consists of fields and literals to its end. -/
def fields : List (Literal α) → List α → Option (List (List α))
  | [], text => if text = [] then some [] else none
  | l :: literals, text => do
    let rest ← l.text.isPrefixOf? (text.dropWhile (· ≠ l.mark))
    let others ← fields literals rest
    return text.takeWhile (· ≠ l.mark) :: others

structure Template (α : Type) where
  opening : List α
  literals : List (Literal α)

def Template.render (t : Template α) (values : List (List α)) : List α := t.opening ++ spell values t.literals

def Template.read (t : Template α) (text : List α) : Option (List (List α)) := do
  let rest ← t.opening.isPrefixOf? text
  fields t.literals rest

/-! ## Prefixes -/

theorem isPrefixOf?_append (l r : List α) : l.isPrefixOf? (l ++ r) = some r := by
  induction l with
  | nil => rfl
  | cons a l ih =>
    show (if a == a then l.isPrefixOf? (l ++ r) else none) = some r
    rw [if_pos (beq_self_eq_true a)]
    exact ih

theorem isPrefixOf?_short {l text : List α} (short : text.length < l.length) : l.isPrefixOf? text = none := by
  induction l generalizing text with
  | nil => simp at short
  | cons a l ih =>
    cases text with
    | nil => rfl
    | cons b text =>
      simp only [List.length_cons, Nat.add_lt_add_iff_right] at short
      show (if a == b then l.isPrefixOf? text else none) = none
      rw [ih short, ite_self]

/-- A literal that was cut is not found. -/
theorem isPrefixOf?_take (l r : List α) (k : Nat) :
    l.isPrefixOf? ((l ++ r).take k) = if l.length ≤ k then some (r.take (k - l.length)) else none := by
  split
  · rename_i whole
    rw [List.take_append, List.take_of_length_le whole]
    exact isPrefixOf?_append _ _
  · apply isPrefixOf?_short
    rw [List.length_take]
    omega

/-! ## Reading -/

section Reading

variable {mark : α} {field : List α} (plain : mark ∉ field)
include plain

theorem unmarked : ∀ a ∈ field, decide (a ≠ mark) = true := by
  intro a mem
  simp only [ne_eq, decide_eq_true_eq]
  rintro rfl
  exact plain mem

theorem takeWhile_field (rest : List α) : (field ++ mark :: rest).takeWhile (· ≠ mark) = field := by
  rw [List.takeWhile_append_of_pos (unmarked plain)]
  simp

theorem dropWhile_field (rest : List α) : (field ++ mark :: rest).dropWhile (· ≠ mark) = mark :: rest := by
  rw [List.dropWhile_append_of_pos (unmarked plain)]
  simp

/-- No mark is left once the text was cut in the field. -/
theorem dropWhile_cut (k : Nat) : (field.take k).dropWhile (· ≠ mark) = [] := by
  have unmarked_take : ∀ a ∈ field.take k, decide (a ≠ mark) = true := fun a mem =>
    unmarked plain a (List.mem_of_mem_take mem)
  rw [← List.append_nil (field.take k), List.dropWhile_append_of_pos unmarked_take, List.dropWhile_nil]

end Reading

/-- **Reading a text that may have been cut** gives the fields back if it is whole, and nothing otherwise. -/
theorem fields_take {values : List (List α)} {literals : List (Literal α)} (marked : Marked values literals)
    (k : Nat) : fields literals ((spell values literals).take k) =
      if (spell values literals).length ≤ k then some values else none := by
  induction values generalizing literals k with
  | nil =>
    cases literals with
    | nil => simp [spell, fields]
    | cons l literals => exact marked.elim
  | cons field values ih =>
    cases literals with
    | nil => exact marked.elim
    | cons l literals =>
      obtain ⟨plain, marked⟩ := marked
      have length : (spell (field :: values) (l :: literals)).length =
          field.length + (l.text.length + (spell values literals).length) := by
        simp [spell]
      obtain ⟨tail, begun⟩ := List.head?_eq_some_iff.1 l.begins
      have pos : ([] : List α).length < l.text.length := by simp [begun]
      rw [length, fields, spell, List.take_append]
      by_cases inside : k ≤ field.length
      · -- cut before the mark
        have none_left : k - field.length = 0 := by omega
        rw [none_left, List.take_zero, List.append_nil, dropWhile_cut plain, isPrefixOf?_short pos,
          if_neg (by omega)]
        rfl
      · obtain ⟨j, rfl⟩ : ∃ j, k = field.length + (j + 1) := ⟨k - field.length - 1, by omega⟩
        have reached : (l.text ++ spell values literals).take (j + 1) =
            l.mark :: (tail ++ spell values literals).take j := by rw [begun]; rfl
        rw [List.take_of_length_le (by omega), Nat.add_sub_cancel_left, reached, dropWhile_field plain,
          takeWhile_field plain, ← reached, isPrefixOf?_take]
        by_cases whole : l.text.length ≤ j + 1
        · rw [if_pos whole]
          have rest := ih marked (j + 1 - l.text.length)
          by_cases all : (spell values literals).length ≤ j + 1 - l.text.length
          · rw [if_pos all] at rest
            rw [if_pos (by omega)]
            simp [rest]
          · rw [if_neg all] at rest
            rw [if_neg (by omega)]
            simp [rest]
        · rw [if_neg whole, if_neg (by omega)]
          rfl

theorem Template.read_take {t : Template α} {values : List (List α)} (marked : Marked values t.literals) (k : Nat) :
    t.read ((t.render values).take k) = if (t.render values).length ≤ k then some values else none := by
  have length : (t.render values).length = t.opening.length + (spell values t.literals).length := by
    rw [Template.render, List.length_append]
  rw [length, Template.read, Template.render, isPrefixOf?_take]
  by_cases opened : t.opening.length ≤ k
  · rw [if_pos opened]
    show fields t.literals _ = _
    rw [fields_take marked]
    by_cases all : (spell values t.literals).length ≤ k - t.opening.length
    · rw [if_pos all, if_pos (by omega)]
    · rw [if_neg all, if_neg (by omega)]
  · rw [if_neg opened, if_neg (by omega)]
    rfl

end Templates
