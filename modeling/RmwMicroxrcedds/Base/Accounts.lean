import Mathlib.Data.List.Nodup
import Mathlib.Data.List.Perm.Basic

/-!
# Items in slots

Items enter a store, lie in slots, and leave it. The books balance if what has entered is what lies in the
slots in use together with what has left, each item as often as it entered. The rules say what a store may do
without upsetting them.
-/

namespace Accounts
set_option autoImplicit false

variable {α κ : Type}

/-- What has entered, up to order. -/
def Balanced (entered : List α) (slots : List κ) (item : κ → α) (left : List α) : Prop :=
  entered.Perm (slots.map item ++ left)

variable {entered left : List α} {slots : List κ} {item item' : κ → α} {k : κ} {a : α}

/-- An item enters a slot that was free. -/
theorem Balanced.enter (h : Balanced entered slots item left) (own : item' k = a)
    (kept : ∀ j ∈ slots, item' j = item j) : Balanced (a :: entered) (k :: slots) item' left := by
  rw [Balanced, List.map_cons, own, List.map_congr_left kept, List.cons_append]
  exact h.cons a

/-- The items of the slots that are not kept leave. -/
theorem Balanced.discard (h : Balanced entered slots item left) (p : κ → Bool) :
    Balanced entered (slots.filter p) item ((slots.filter fun j => !p j).map item ++ left) := by
  have parts : ((slots.filter p).map item ++ (slots.filter fun j => !p j).map item).Perm (slots.map item) := by
    rw [← List.map_append]
    exact (List.filter_append_perm p slots).map item
  rw [Balanced, ← List.append_assoc]
  exact h.trans (parts.symm.append_right left)

variable [DecidableEq κ]

/-- The item of a slot leaves. -/
theorem Balanced.leave (h : Balanced entered slots item left) (used : k ∈ slots) :
    Balanced entered (slots.erase k) item (item k :: left) := by
  have first : (slots.map item).Perm (item k :: (slots.erase k).map item) :=
    (List.perm_cons_erase used).map item
  apply h.trans
  calc slots.map item ++ left
      _ |>.Perm (item k :: (slots.erase k).map item ++ left) := first.append_right left
      _ |>.Perm ((slots.erase k).map item ++ item k :: left) := List.perm_middle.symm

/-- An item takes the slot of another, which leaves. -/
theorem Balanced.replace (h : Balanced entered slots item left) (nodup : slots.Nodup) (used : k ∈ slots)
    (own : item' k = a) (kept : ∀ j, j ≠ k → item' j = item j) :
    Balanced (a :: entered) slots item' (item k :: left) := by
  have away : Balanced entered (slots.erase k) item (item k :: left) := h.leave used
  have back : Balanced (a :: entered) (k :: slots.erase k) item' (item k :: left) :=
    away.enter own fun j mem => kept j (nodup.mem_erase_iff.1 mem).1
  apply back.trans
  exact ((List.perm_cons_erase used).symm.map item').append_right _

end Accounts
