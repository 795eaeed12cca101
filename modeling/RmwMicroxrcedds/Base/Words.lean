import Mathlib.Data.Vector.Basic

/-!
# Words and bytes side by side

A double word put together from a signed high and an unsigned low word by shift and OR, and the two
words cut out of it again; a vector cut into three runs of bytes and put together again.
-/

namespace Words

/-- `((int64_t) high << 32) | low`. -/
def join (high low : BitVec 32) : BitVec 64 := (high.signExtend 64 <<< 32) ||| low.setWidth 64

/-- `(int32_t) (n >> 32)`. -/
def high (n : BitVec 64) : BitVec 32 := (n.sshiftRight 32).setWidth 32

/-- `(uint32_t) n & 0xFFFFFFFF`. -/
def low (n : BitVec 64) : BitVec 32 := n.setWidth 32 &&& 0xFFFFFFFF

theorem low_eq (n : BitVec 64) : low n = n.setWidth 32 := by
  have ones : (0xFFFFFFFF : BitVec 32) = BitVec.allOnes 32 := rfl
  rw [low, ones, BitVec.and_allOnes]

@[simp] theorem low_join (a b : BitVec 32) : low (join a b) = b := by
  rw [low_eq, join]
  ext i hi
  simp

@[simp] theorem high_join (a b : BitVec 32) : high (join a b) = a := by
  rw [high, join]
  ext i hi
  have lt : 32 + i < 64 := by omega
  have ge : ¬ 64 ≤ i := by omega
  simp [BitVec.getLsbD_sshiftRight, BitVec.getElem_signExtend, lt, ge, hi]

@[simp] theorem join_high_low (n : BitVec 64) : join (high n) (low n) = n := by
  rw [low_eq, join, high]
  ext i hi
  by_cases lower : i < 32
  · simp [lower, BitVec.getLsbD_eq_getElem hi]
  · have lt : i - 32 < 32 := by omega
    have back : 32 + (i - 32) = i := by omega
    have ge : ¬ 64 ≤ i - 32 := by omega
    simp [BitVec.getLsbD_sshiftRight, BitVec.getElem_signExtend, lower, lt, back, hi, ge]

section Runs

variable {α : Type} (a : α) (b : Vector α 3) (d : Vector α 12) (v : Vector α 16)

/-- Sixteen bytes from runs of one, three and twelve. -/
def assemble : Vector α 16 := #v[a] ++ b ++ d

theorem getElem_assemble {i : Nat} (h : i < 16) :
    (assemble a b d)[i] =
      if first : i < 1 then a
      else if second : i < 4 then b[i - 1]
      else d[i - 4] := by
  show (#v[a] ++ b ++ d : Vector α (1 + 3 + 12))[i] = _
  simp only [Vector.getElem_append]
  by_cases second : i < 4
  · by_cases first : i < 1
    · have zero : i = 0 := by omega
      subst zero
      rfl
    · simp [first, second]
  · have first : ¬ i < 1 := by omega
    simp [first, second]

theorem assemble_first (pos : 0 < 16) : (assemble a b d)[0] = a := by
  rw [getElem_assemble]
  rfl

theorem assemble_second : (assemble a b d).extract 1 4 = b := by
  ext i hi
  have lt : 1 + i < 4 := by omega
  have first : ¬ 1 + i < 1 := by omega
  rw [Vector.getElem_extract, getElem_assemble]
  simp [lt]

theorem assemble_third : (assemble a b d).extract 4 16 = d := by
  ext i hi
  have second : ¬ 4 + i < 4 := by omega
  have first : ¬ 4 + i < 1 := by omega
  rw [Vector.getElem_extract, getElem_assemble, dif_neg first, dif_neg second]
  simp

theorem assemble_extract (pos : 0 < 16) : assemble v[0] (v.extract 1 4) (v.extract 4 16) = v := by
  ext i hi
  rw [getElem_assemble _ _ _ hi]
  split
  · have zero : i = 0 := by omega
    subst zero
    rfl
  · split
    · rw [Vector.getElem_extract]
      congr 1
      omega
    · rw [Vector.getElem_extract]
      congr 1
      omega

end Runs

end Words
