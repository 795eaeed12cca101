import RmwMicroxrcedds.Base.Bytes
import RmwMicroxrcedds.Model.World

/-!
# `rmw_get_gid_for_publisher.c`, `rmw_get_gid_for_client.c` and `rmw_compare_gids_equal.c`

A `rmw_gid_t` is an identifier followed by an array of bytes. The getters copy the id of an object
into the array; the comparison reads `sizeof(rmw_gid_t)` bytes from the start of the array, more than
the array has. So a gid comes with the bytes that lie behind it in memory.
-/

namespace RmwMicroxrcedds
set_option autoImplicit false

/-- The platform, with the layouts of `rmw_gid_t` and `uxrObjectId`. -/
structure GidPlatform where
  /-- `RMW_GID_STORAGE_SIZE` -/
  storageSize : Nat
  /-- `sizeof(const char *)` -/
  pointerSize : Nat
  pointerSize_pos : 0 < pointerSize
  /-- the bytes a `rmw_gid_t` has behind its array -/
  tail : Nat
  /-- `UXR_PUBLISHER_ID` and so on -/
  typeByte : ObjectKind → UInt8
  typeByte_injective : Function.Injective typeByte
  bigEndian : Bool
  /-- the bytes a `uxrObjectId` has behind its members -/
  padding : Nat

/-- `sizeof(rmw_gid_t)`. -/
def GidPlatform.sizeofGid (m : GidPlatform) : Nat := m.pointerSize + m.storageSize + m.tail

/-- `sizeof(uxrObjectId)`: a `uint16_t` and a `uint8_t`. -/
def GidPlatform.sizeofObjectId (m : GidPlatform) : Nat := 3 + m.padding

/-- A `rmw_gid_t` in memory. -/
structure RmwGid (m : GidPlatform) where
  implementationIdentifier : Option Identifier
  data : List UInt8
  /-- the `sizeof(rmw_gid_t)` bytes from the start of the array, without the array -/
  behind : List UInt8
  data_length : data.length = m.storageSize
  behind_length : behind.length = m.pointerSize + m.tail
deriving DecidableEq

/-- The bytes of an `uxrObjectId`; its padding has what happens to be there. -/
def UxrObjectId.bytes (m : GidPlatform) (object : UxrObjectId) (padding : Vector UInt8 m.padding) :
    List UInt8 :=
  let low := UInt8.ofNat (object.id % 256)
  let high := UInt8.ofNat (object.id / 256)
  (if m.bigEndian then [high, low] else [low, high]) ++ [m.typeByte object.type] ++ padding.toList

theorem UxrObjectId.length_bytes (m : GidPlatform) (object : UxrObjectId) (padding : Vector UInt8 m.padding) :
    (object.bytes m padding).length = m.sizeofObjectId := by
  unfold bytes GidPlatform.sizeofObjectId
  dsimp only
  split <;> simp <;> omega

/-- `memset` and `memcpy` of the getters. -/
def RmwGid.fill {m : GidPlatform} (gid : RmwGid m) (object : UxrObjectId)
    (padding : Vector UInt8 m.padding) (room : m.sizeofObjectId ≤ m.storageSize) : RmwGid m :=
  { gid with
    data := Bytes.memcpy (Bytes.memset gid.data 0 m.storageSize) (object.bytes m padding) m.sizeofObjectId
    data_length := by
      have whole : (Bytes.memset gid.data 0 m.storageSize).length = m.storageSize :=
        (Bytes.length_memset 0 (Nat.le_of_eq gid.data_length.symm)).trans gid.data_length
      rw [Bytes.length_memcpy, whole]
      · exact Nat.le_of_eq (UxrObjectId.length_bytes m object padding).symm
      · exact Nat.le_trans room (Nat.le_of_eq whole.symm) }

/-- The getters, for a handle, what lies at a data pointer, and the gid. There is no result where a NULL data
pointer is followed. -/
def rmwGetGid (m : GidPlatform) (handle : Option Handle)
    (stored : Nat → UxrObjectId × Vector UInt8 m.padding) (gid : Option (RmwGid m)) :
    Option (RmwRet × Option (RmwGid m)) :=
  match handle, gid with
  | none, _ | _, none => some (.invalidArgument, gid)
  | some handle, some gid =>
    if handle.implementationIdentifier = some .foreign then some (.incorrectRmwImplementation, some gid)
    else if room : m.sizeofObjectId ≤ m.storageSize then
      match handle.data with
      | none => none
      | some custom => some (.ok, some (gid.fill (stored custom).1 (stored custom).2 room))
    else some (.error, some gid)

section Getters

variable (m : GidPlatform) (e : Entities) (padding : Nat → Vector UInt8 m.padding)

/-- `rmw_get_gid_for_publisher`. -/
def rmwGetGidForPublisher (publisher : Option Nat) (gid : Option (RmwGid m)) :
    Option (RmwRet × Option (RmwGid m)) :=
  rmwGetGid m (publisher.map fun i => (e.publisher.custom i).rmwPublisher)
    (fun customPublisher => ((e.publisher.custom customPublisher).publisherId, padding customPublisher)) gid

/-- `rmw_get_gid_for_client`. -/
def rmwGetGidForClient (client : Option Nat) (gid : Option (RmwGid m)) :
    Option (RmwRet × Option (RmwGid m)) :=
  rmwGetGid m (client.map fun i => (e.client.custom i).rmwClient)
    (fun customClient => ((e.client.custom customClient).clientId, padding customClient)) gid

end Getters

/-- `rmw_compare_gids_equal`, with `*result` where it is written. -/
def rmwCompareGidsEqual {m : GidPlatform} (gid1 gid2 : Option (RmwGid m)) : RmwRet × Option Bool :=
  match gid1, gid2 with
  | none, _ | _, none => (.invalidArgument, none)
  | some gid1, some gid2 =>
    if gid1.implementationIdentifier = some .foreign ∨ gid2.implementationIdentifier = some .foreign then
      (.incorrectRmwImplementation, none)
    else
      (.ok, some (Bytes.memcmp (gid1.data ++ gid1.behind) (gid2.data ++ gid2.behind) m.sizeofGid = 0))

end RmwMicroxrcedds
