import Mathlib.Data.List.Basic

/-!
# Runs of bytes in memory

`memcmp`, `memcpy` and `memset` on lists of bytes: what a comparison of `n` bytes tells, and what a
copy to the front of a run keeps of the bytes it copies.
-/

namespace Bytes

/-- `memcmp`: the difference of the first bytes that differ, of `n` at most. -/
def memcmp : List UInt8 → List UInt8 → Nat → Int
  | a :: as, b :: bs, n + 1 => if a = b then memcmp as bs n else (a.toNat : Int) - b.toNat
  | _, _, _ => 0

/-- `memcpy` to the front of a run. -/
def memcpy (dest src : List UInt8) (n : Nat) : List UInt8 := src.take n ++ dest.drop n

/-- `memset` at the front of a run. -/
def memset (dest : List UInt8) (c : UInt8) (n : Nat) : List UInt8 := List.replicate n c ++ dest.drop n

theorem toNat_sub_eq_zero {a b : UInt8} : (a.toNat : Int) - b.toNat = 0 ↔ a = b := by
  constructor
  · intro zero
    apply UInt8.toNat_inj.1
    omega
  · rintro rfl
    omega

/-- The comparison of two runs in full. -/
theorem memcmp_eq_zero {as bs : List UInt8} {n : Nat} (first : as.length = n) (second : bs.length = n) :
    memcmp as bs n = 0 ↔ as = bs := by
  induction n generalizing as bs with
  | zero =>
    rw [List.length_eq_zero_iff] at first second
    subst first second
    simp [memcmp]
  | succ n ih =>
    obtain ⟨a, as, rfl⟩ := List.exists_cons_of_length_eq_add_one first
    obtain ⟨b, bs, rfl⟩ := List.exists_cons_of_length_eq_add_one second
    simp only [List.length_cons, Nat.add_right_cancel_iff] at first second
    rw [memcmp]
    by_cases same : a = b
    · rw [if_pos same, ih first second, same]
      simp
    · rw [if_neg same, toNat_sub_eq_zero]
      simp [same]

theorem length_memcpy {dest src : List UInt8} {n : Nat} (source : n ≤ src.length)
    (room : n ≤ dest.length) : (memcpy dest src n).length = dest.length := by
  rw [memcpy, List.length_append, List.length_take, List.length_drop]
  omega

theorem length_memset {dest : List UInt8} {n : Nat} (c : UInt8) (room : n ≤ dest.length) :
    (memset dest c n).length = dest.length := by
  rw [memset, List.length_append, List.length_replicate, List.length_drop]
  omega

/-- All of a run is overwritten. -/
theorem memset_all {dest : List UInt8} {n : Nat} (c : UInt8) (whole : dest.length = n) :
    memset dest c n = List.replicate n c := by
  rw [memset, ← whole, List.drop_length, List.append_nil]

/-- What is copied can be told from the copy. -/
theorem memcpy_inj {dest src src' : List UInt8} {n : Nat} (first : src.length = n)
    (second : src'.length = n) : memcpy dest src n = memcpy dest src' n ↔ src = src' := by
  rw [memcpy, memcpy, List.append_cancel_right_eq, ← first, List.take_length, first, ← second,
    List.take_length]

end Bytes
