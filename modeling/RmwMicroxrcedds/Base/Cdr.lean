import Mathlib.Algebra.Ring.Nat
import Mathlib.Data.List.Infix

/-!
# Little-endian CDR

Readers of a byte string that know how far they have come, and writers that know where they start, so
that both can align. `Inverts read write x` says that `read` gives back `x` from what `write` has written,
wherever it stands and whatever follows, and gives nothing when the end is cut off. `Consumes` keeps of
this that the bytes are read past, and `Rejects` says that they never are. The three are carried through
sequencing, so a format is dealt with part by part.
-/

namespace Cdr
set_option autoImplicit false

variable {α γ : Type}

/-- How far the buffer was read, and what is left of it. -/
abbrev Cursor := Nat × List UInt8

abbrev Reader := StateT Cursor Option

/-- The bytes written at a position. -/
abbrev Writer := Nat → List UInt8

/-! ## Sequencing -/

def Writer.append (first second : Writer) : Writer := fun position =>
  first position ++ second (position + (first position).length)

def Writer.empty : Writer := fun _ => []

structure Inverts (read : Reader α) (write : Writer) (x : α) : Prop where
  whole : ∀ position rest, read (position, write position ++ rest) =
    some (x, (position + (write position).length, rest))
  cut : ∀ position bytes, bytes <+: write position → bytes.length < (write position).length →
    read (position, bytes) = none

def Consumes (read : Reader α) (write : Writer) : Prop :=
  ∀ position rest, ∃ x, read (position, write position ++ rest) =
    some (x, (position + (write position).length, rest))

def Rejects (read : Reader α) (write : Writer) : Prop :=
  ∀ position rest, read (position, write position ++ rest) = none

theorem bind_some {read : Reader α} {next : α → Reader γ} {x : α} {here there : Cursor}
    (h : read here = some (x, there)) : (read >>= next) here = next x there := by
  show (read here).bind _ = _
  rw [h]
  rfl

theorem bind_none {read : Reader α} {next : α → Reader γ} {here : Cursor} (h : read here = none) :
    (read >>= next) here = none := by
  show (read here).bind _ = _
  rw [h]
  rfl

section Rules

variable {read : Reader α} {next : α → Reader γ} {write later : Writer} {x : α} {y : γ}

theorem append_run (write later : Writer) (position : Nat) (rest : List UInt8) :
    write.append later position ++ rest =
      write position ++ (later (position + (write position).length) ++ rest) :=
  List.append_assoc ..

theorem append_length (write later : Writer) (position : Nat) :
    (write.append later position).length =
      (write position).length + (later (position + (write position).length)).length :=
  List.length_append

/-- What is read back has been read to its end. -/
theorem Inverts.consumes (h : Inverts read write x) : Consumes read write := fun position rest =>
  ⟨x, h.whole position rest⟩

theorem Inverts.pure (x : α) : Inverts (pure x) .empty x where
  whole _ _ := rfl
  cut _ _ _ shorter := absurd shorter (Nat.not_lt_zero _)

theorem Consumes.pure (x : α) : Consumes (pure x) .empty := (Inverts.pure x).consumes

/-- Readers that invert their writers compose. -/
theorem Inverts.bind (first : Inverts read write x) (second : Inverts (next x) later y) :
    Inverts (read >>= next) (write.append later) y where
  whole position rest := by
    rw [append_run, bind_some (first.whole position _), second.whole, append_length, Nat.add_assoc]
  cut position bytes starts shorter := by
    rw [append_length] at shorter
    by_cases early : bytes.length < (write position).length
    · apply bind_none
      exact first.cut position bytes ((List.isPrefix_append_of_length (Nat.le_of_lt early)).1 starts) early
    · have passed : write position <+: bytes :=
        List.prefix_of_prefix_length_le (List.prefix_append _ _) starts (Nat.le_of_not_lt early)
      obtain ⟨bytes, rfl⟩ := passed
      rw [bind_some (first.whole position bytes)]
      rw [List.length_append] at shorter
      exact second.cut _ bytes ((List.prefix_append_right_inj _).1 starts) (by omega)

/-- So do those that only read to the end. -/
theorem Consumes.bind (first : Consumes read write) (second : ∀ x, Consumes (next x) later) :
    Consumes (read >>= next) (write.append later) := by
  intro position rest
  obtain ⟨x, read⟩ := first position (later (position + (write position).length) ++ rest)
  obtain ⟨y, read'⟩ := second x (position + (write position).length) rest
  refine ⟨y, ?_⟩
  rw [append_run, bind_some read, read', append_length, Nat.add_assoc]

/-- A value that later readers depend on. -/
theorem Inverts.consumes_bind (first : Inverts read write x) (second : Consumes (next x) later) :
    Consumes (read >>= next) (write.append later) := by
  intro position rest
  obtain ⟨y, read⟩ := second (position + (write position).length) rest
  refine ⟨y, ?_⟩
  rw [append_run, bind_some (first.whole position _), read, append_length, Nat.add_assoc]

/-- A refusal of the first part is one of the whole, -/
theorem Rejects.first (h : Rejects read write) : Rejects (read >>= next) (write.append later) := by
  intro position rest
  rw [append_run]
  exact bind_none (h position _)

/-- and so is one of the second. -/
theorem Consumes.rejects_bind (first : Consumes read write) (h : ∀ x, Rejects (next x) later) :
    Rejects (read >>= next) (write.append later) := by
  intro position rest
  obtain ⟨x, read⟩ := first position (later (position + (write position).length) ++ rest)
  rw [append_run, bind_some read]
  exact h x _ rest

theorem Inverts.rejects_bind (first : Inverts read write x) (h : Rejects (next x) later) :
    Rejects (read >>= next) (write.append later) := by
  intro position rest
  rw [append_run, bind_some (first.whole position _)]
  exact h _ rest

theorem append_empty (write : Writer) : write.append .empty = write :=
  funext fun _ => List.append_nil _

theorem Inverts.map (f : α → γ) (h : Inverts read write x) :
    Inverts (read >>= fun x => Pure.pure (f x)) write (f x) :=
  append_empty write ▸ h.bind (Inverts.pure (f x))

theorem Consumes.map (f : α → γ) (h : Consumes read write) :
    Consumes (read >>= fun x => Pure.pure (f x)) write :=
  append_empty write ▸ h.bind fun x => Consumes.pure (f x)

theorem Rejects.map (f : α → γ) (h : Rejects read write) :
    Rejects (read >>= fun x => Pure.pure (f x)) write :=
  append_empty write ▸ h.first

end Rules

/-! ## Items -/

section Items

variable {read : Reader α} {write : α → Writer}

/-- The items of a sequence, one after the other. -/
def writeItems (write : α → Writer) : List α → Writer
  | [] => .empty
  | x :: xs => (write x).append (writeItems write xs)

def readItems (read : Reader α) (size : Nat) : Reader (List α) := (List.range size).mapM fun _ => read

theorem mapM_succ (read : Reader α) (l : List Nat) (i : Nat) :
    ((i :: l).mapM fun _ => read) = do
      let x ← read
      let xs ← l.mapM fun _ => read
      return x :: xs := List.mapM_cons

theorem mapM_congr_length (read : Reader α) (l l' : List Nat) (same : l.length = l'.length) :
    (l.mapM fun _ => read) = l'.mapM fun _ => read := by
  induction l generalizing l' with
  | nil =>
    obtain rfl := List.eq_nil_of_length_eq_zero same.symm
    rfl
  | cons i l ih =>
    obtain ⟨j, l', rfl⟩ := List.exists_cons_of_length_eq_add_one same.symm
    rw [mapM_succ, mapM_succ, ih l' (Nat.succ.inj same)]

theorem readItems_succ (read : Reader α) (size : Nat) : readItems read (size + 1) = do
    let x ← read
    let xs ← readItems read size
    return x :: xs := by
  rw [readItems, readItems, ← mapM_succ read (List.range size) 0]
  exact mapM_congr_length read _ _ (by simp)

/-- Items one after the other are read back, -/
theorem inverts_items (xs : List α) (each : ∀ x ∈ xs, Inverts read (write x) x) :
    Inverts (readItems read xs.length) (writeItems write xs) xs := by
  induction xs with
  | nil => exact Inverts.pure []
  | cons x xs ih =>
    rw [List.length_cons, readItems_succ]
    refine (each x List.mem_cons_self).bind ?_
    exact (ih fun y mem => each y (List.mem_cons_of_mem _ mem)).map (x :: ·)

theorem consumes_items (xs : List α) (each : ∀ x ∈ xs, Consumes read (write x)) :
    Consumes (readItems read xs.length) (writeItems write xs) := by
  induction xs with
  | nil => exact Consumes.pure []
  | cons x xs ih =>
    rw [List.length_cons, readItems_succ]
    refine (each x List.mem_cons_self).bind fun first => ?_
    exact (ih fun y mem => each y (List.mem_cons_of_mem _ mem)).map (first :: ·)

/-- Items up to one that cannot be read. -/
theorem rejects_items (xs : List α) (each : ∀ x ∈ xs, Consumes read (write x) ∨ Rejects read (write x))
    (bad : ∃ x ∈ xs, Rejects read (write x)) :
    Rejects (readItems read xs.length) (writeItems write xs) := by
  induction xs with
  | nil =>
    obtain ⟨x, mem, -⟩ := bad
    cases mem
  | cons x xs ih =>
    rw [List.length_cons, readItems_succ]
    by_cases first : Rejects read (write x)
    · exact first.first
    · refine ((each x List.mem_cons_self).resolve_right first).rejects_bind fun x' => ?_
      refine (ih (fun y mem => each y (List.mem_cons_of_mem _ mem)) ?_).map (x' :: ·)
      obtain ⟨y, mem, rejects⟩ := bad
      obtain rfl | mem := List.mem_cons.1 mem
      · exact absurd rejects first
      · exact ⟨y, mem, rejects⟩

end Items

/-! ## Bytes and numbers -/

/-- The way to the next multiple of `align`. -/
def padding (align position : Nat) : Nat := (align - position % align) % align

def readBytes (align size : Nat) : Reader (List UInt8) := fun here =>
  let skip := padding align here.1
  if skip + size ≤ here.2.length then
    some ((here.2.drop skip).take size, (here.1 + skip + size, here.2.drop (skip + size)))
  else none

def writeBytes (align : Nat) (bytes : List UInt8) : Writer := fun position =>
  List.replicate (padding align position) 0 ++ bytes

theorem inverts_bytes (align : Nat) (bytes : List UInt8) {size : Nat} (length : bytes.length = size) :
    Inverts (readBytes align size) (writeBytes align bytes) bytes where
  whole position rest := by
    subst length
    have enough : padding align position + bytes.length ≤
        (writeBytes align bytes position ++ rest).length := by
      simp only [writeBytes, List.length_append, List.length_replicate]
      omega
    have skipped : (writeBytes align bytes position ++ rest).drop (padding align position) =
        bytes ++ rest := by
      rw [writeBytes, List.append_assoc]
      exact List.drop_left' List.length_replicate
    have passed : (writeBytes align bytes position ++ rest).drop
        (padding align position + bytes.length) = rest := by
      rw [← List.drop_drop, skipped, List.drop_left]
    have written : (writeBytes align bytes position).length =
        padding align position + bytes.length := by
      simp [writeBytes]
    simp only [readBytes, if_pos enough, skipped, passed, List.take_left, written, Nat.add_assoc]
  cut position bytes' _ shorter := by
    have short : ¬ padding align position + size ≤ bytes'.length := by
      simp only [writeBytes, List.length_append, List.length_replicate] at shorter
      omega
    exact if_neg short

def readUint8 : Reader UInt8 := do
  let bytes ← readBytes 1 1
  return bytes.headD 0

def writeUint8 (n : UInt8) : Writer := writeBytes 1 [n]

theorem inverts_uint8 (n : UInt8) : Inverts readUint8 (writeUint8 n) n := by
  have read : Inverts (readBytes 1 1) (writeBytes 1 [n]) [n] := inverts_bytes 1 [n] rfl
  exact read.map fun bytes => bytes.headD 0

def readUint32 : Reader UInt32 := do
  let bytes ← readBytes 4 4
  return bytes.foldr (fun byte n => n * 256 + byte.toUInt32) 0

def writeUint32 (n : Nat) : Writer :=
  writeBytes 4 [UInt8.ofNat n, UInt8.ofNat (n / 2 ^ 8), UInt8.ofNat (n / 2 ^ 16), UInt8.ofNat (n / 2 ^ 24)]

/-- The four bytes of a number, as they are put together again. -/
theorem uint32_of_bytes {n : Nat} (small : n < 2 ^ 32) :
    [UInt8.ofNat n, UInt8.ofNat (n / 2 ^ 8), UInt8.ofNat (n / 2 ^ 16), UInt8.ofNat (n / 2 ^ 24)].foldr
      (fun byte n => n * 256 + byte.toUInt32) 0 = UInt32.ofNat n := by
  apply UInt32.toNat_inj.1
  simp only [List.foldr_cons, List.foldr_nil, UInt32.toNat_add, UInt32.toNat_mul,
    UInt8.toNat_toUInt32, UInt8.toNat_ofNat', UInt32.toNat_ofNat', UInt32.reduceToNat]
  omega

/-- A number below 2³² is read back from its four bytes. -/
theorem inverts_uint32 {n : Nat} (small : n < 2 ^ 32) :
    Inverts readUint32 (writeUint32 n) (UInt32.ofNat n) := by
  have read : Inverts (readBytes 4 4) (writeUint32 n) _ := inverts_bytes 4 _ rfl
  rw [← uint32_of_bytes small]
  exact read.map fun bytes : List UInt8 => bytes.foldr (fun byte n => n * 256 + byte.toUInt32) 0

/-! ## Texts and sequences -/

/-- The text in bytes of a string: as far as the first NUL. -/
def textOf (bytes : List UInt8) : List Char := (bytes.takeWhile (· ≠ 0)).map fun byte => Char.ofNat byte.toNat

/-- The bytes of a text, with the NUL that ends it. -/
def bytesOf (text : List Char) : List UInt8 := (text.map fun char => UInt8.ofNat char.toNat) ++ [0]

/-- A text of bytes other than NUL. -/
def ByteText (text : List Char) : Prop := ∀ char ∈ text, 0 < char.toNat ∧ char.toNat < 256

instance (text : List Char) : Decidable (ByteText text) :=
  List.decidableBAll (fun char : Char => 0 < char.toNat ∧ char.toNat < 256) text

theorem textOf_bytesOf {text : List Char} (plain : ByteText text) : textOf (bytesOf text) = text := by
  unfold textOf bytesOf
  induction text with
  | nil => rfl
  | cons char text ih =>
    obtain ⟨pos, small⟩ := plain char List.mem_cons_self
    have byte : (UInt8.ofNat char.toNat).toNat = char.toNat := by
      rw [UInt8.toNat_ofNat']
      omega
    have other : UInt8.ofNat char.toNat ≠ 0 := by
      intro zero
      rw [zero] at byte
      exact absurd byte (by simpa using Nat.ne_of_lt pos)
    rw [List.map_cons, List.cons_append, List.takeWhile_cons_of_pos (by simpa using other), List.map_cons,
      byte, Char.ofNat_toNat, ih fun c mem => plain c (List.mem_cons_of_mem _ mem)]

def readString (capacity : Nat) : Reader (List Char) := do
  let length ← readUint32
  if length.toNat ≤ capacity then
    let bytes ← readBytes 1 length.toNat
    return textOf bytes
  else failure

def writeString (text : List Char) : Writer :=
  (writeUint32 (text.length + 1)).append (writeBytes 1 (bytesOf text))

/-- A number of 32 bits that is read back. -/
theorem toNat_ofNat {n : Nat} (small : n < 2 ^ 32) : (UInt32.ofNat n).toNat = n := by
  rw [UInt32.toNat_ofNat']
  omega

section Strings

variable {text : List Char} {capacity : Nat} (small : text.length + 1 < 2 ^ 32)
include small

/-- A text with room for its terminator is read back, -/
theorem inverts_string (plain : ByteText text) (fits : text.length < capacity) :
    Inverts (readString capacity) (writeString text) text := by
  refine (inverts_uint32 small).bind ?_
  rw [toNat_ofNat small, if_pos (by omega)]
  have bytes : Inverts (readBytes 1 (text.length + 1)) (writeBytes 1 (bytesOf text)) (bytesOf text) :=
    inverts_bytes 1 _ (by simp [bytesOf])
  have read := bytes.map textOf
  rwa [textOf_bytesOf plain] at read

theorem consumes_string (fits : text.length < capacity) :
    Consumes (readString capacity) (writeString text) := by
  refine (inverts_uint32 small).consumes_bind ?_
  rw [toNat_ofNat small, if_pos (by omega)]
  have bytes : Inverts (readBytes 1 (text.length + 1)) (writeBytes 1 (bytesOf text)) (bytesOf text) :=
    inverts_bytes 1 _ (by simp [bytesOf])
  exact bytes.consumes.map textOf

/-- and one without is refused. -/
theorem rejects_string (long : capacity ≤ text.length) :
    Rejects (readString capacity) (writeString text) := by
  refine (inverts_uint32 small).rejects_bind ?_
  rw [toNat_ofNat small, if_neg (by omega)]
  exact fun _ _ => rfl

end Strings

section Sequences

variable {read : Reader α} {write : α → Writer}

def readSequence (read : Reader α) : Reader (List α) := do
  let size ← readUint32
  readItems read size.toNat

def writeSequence (write : α → Writer) (xs : List α) : Writer :=
  (writeUint32 xs.length).append (writeItems write xs)

variable {xs : List α} (small : xs.length < 2 ^ 32)
include small

/-- A sequence is read back item by item after its length. -/
theorem inverts_sequence (each : ∀ x ∈ xs, Inverts read (write x) x) :
    Inverts (readSequence read) (writeSequence write xs) xs := by
  refine (inverts_uint32 small).bind ?_
  rw [toNat_ofNat small]
  exact inverts_items xs each

theorem consumes_sequence (each : ∀ x ∈ xs, Consumes read (write x)) :
    Consumes (readSequence read) (writeSequence write xs) := by
  refine (inverts_uint32 small).consumes_bind ?_
  rw [toNat_ofNat small]
  exact consumes_items xs each

/-- It is refused if one of its items is, and the others are read to their end. -/
theorem rejects_sequence (each : ∀ x ∈ xs, Consumes read (write x) ∨ Rejects read (write x))
    (bad : ∃ x ∈ xs, Rejects read (write x)) :
    Rejects (readSequence read) (writeSequence write xs) := by
  refine (inverts_uint32 small).rejects_bind ?_
  rw [toNat_ofNat small]
  exact rejects_items xs each bad

end Sequences

/-! ## Sizes -/

/-- What is written somewhere is short enough for its bytes to be counted in 32 bits. -/
def Sized (write : Writer) : Prop := ∃ position, (write position).length < 2 ^ 32

theorem Sized.first {write later : Writer} (h : Sized (write.append later)) : Sized write := by
  obtain ⟨position, lt⟩ := h
  rw [append_length] at lt
  exact ⟨position, by omega⟩

theorem Sized.second {write later : Writer} (h : Sized (write.append later)) : Sized later := by
  obtain ⟨position, lt⟩ := h
  rw [append_length] at lt
  exact ⟨position + (write position).length, by omega⟩

/-- The length of a text that was written fits its four bytes. -/
theorem Sized.string {text : List Char} (h : Sized (writeString text)) : text.length + 1 < 2 ^ 32 := by
  obtain ⟨position, lt⟩ := h.second
  simp only [writeBytes, bytesOf, List.length_append, List.length_map, List.length_singleton] at lt
  omega

theorem Sized.items {write : α → Writer} {xs : List α} (h : Sized (writeItems write xs)) :
    ∀ x ∈ xs, Sized (write x) := by
  induction xs with
  | nil => exact fun x mem => by cases mem
  | cons y xs ih =>
    intro x mem
    obtain rfl | mem := List.mem_cons.1 mem
    · exact h.first
    · exact ih h.second x mem

/-- Items that take at least a byte each are no more than the bytes. -/
theorem length_le_items {write : α → Writer} (full : ∀ x position, 0 < (write x position).length)
    (xs : List α) (position : Nat) : xs.length ≤ (writeItems write xs position).length := by
  induction xs generalizing position with
  | nil => exact Nat.zero_le _
  | cons x xs ih =>
    rw [writeItems, append_length, List.length_cons]
    have first := full x position
    have rest := ih (position + (write x position).length)
    omega

/-- The items of a sequence can be counted. -/
theorem Sized.sequence {write : α → Writer} (full : ∀ x position, 0 < (write x position).length)
    {xs : List α} (h : Sized (writeSequence write xs)) : xs.length < 2 ^ 32 ∧ ∀ x ∈ xs, Sized (write x) := by
  obtain ⟨position, lt⟩ := h.second
  exact ⟨Nat.lt_of_le_of_lt (length_le_items full xs position) lt, h.second.items⟩

theorem writeBytes_pos (align : Nat) {bytes : List UInt8} (full : bytes ≠ []) (position : Nat) :
    0 < (writeBytes align bytes position).length := by
  have pos := List.length_pos_iff.2 full
  simp only [writeBytes, List.length_append]
  omega

theorem append_pos {write later : Writer} (full : ∀ position, 0 < (write position).length)
    (position : Nat) : 0 < (write.append later position).length := by
  rw [append_length]
  have first := full position
  omega

end Cdr
