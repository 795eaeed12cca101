import RmwMicroxrcedds.Model.GraphQueries

/-!
# `rmw_graph.c`: the parser, statement by statement

`rmw_graph_fill_data_from_buffer` with what its callers do not see: a failing read is recorded and the
statements after it run on, with a count that was never written; the sequences and strings come from an
allocator that may refuse. A failing read leaves what it was to fill in as it was and sets the error flag
of the buffer, after which every read fails. A sequence whose initialisation fails has no items and its
`data` is NULL; the loop over it runs all the same. Reading or writing outside a sequence has no result.
-/

namespace RmwMicroxrcedds.GraphParser
set_option autoImplicit false

deriving instance Inhabited for GraphEntity
deriving instance Inhabited for GraphNode

/-- What the parser meets besides the sample: the contents of its counts before they are written, and
the answers to the requests for sequences with items and for strings, each counted from the first. -/
structure Surroundings where
  unwritten : Nat → UInt32
  sequences : Allocator
  strings : Allocator

/-- The parser between two statements: its variables, how many counts it has declared, how many requests
it has made, and whether it has initialised a sequence with a count that had not been read. -/
structure Filling (β : Type) where
  ret : RmwRet
  tempBuffer : Option β
  counts : Nat
  sequences : Nat
  strings : Nat
  unread : Bool

abbrev Fill (β : Type) := StateT (Filling β) Option

variable {α γ β : Type}

/-- `UCDR_DESERIALIZE_AND_CHECK_RETVAL`: nothing was written when the read fails. -/
def read (reader : Reader β α) : Fill β (Option α) := fun s =>
  match s.tempBuffer.bind reader with
  | some (value, rest) => some (some value, { s with tempBuffer := some rest })
  | none => some (none, { s with tempBuffer := none, ret := .error })

/-- What a pointer of the parser points to: an item of a sequence or a field of one, nothing because it
is NULL, or memory that belongs to no sequence. -/
inductive Target (α : Type) where
  | item (value : α)
  | null
  | wild

/-- The field at the start of a struct has the address of the struct. -/
def Target.first (field : α → γ) : Target α → Target γ
  | .item value => .item (field value)
  | .null => .null
  | .wild => .wild

/-- The address of any other field is not NULL where that of the struct is. -/
def Target.later (field : α → γ) : Target α → Target γ
  | .item value => .item (field value)
  | .null | .wild => .wild

/-- What a sequence holds of its item. -/
def Target.held : Target α → List α
  | .item value => [value]
  | .null | .wild => []

def Target.set (value : α) : Target α → Target α
  | .item _ => .item value
  | .null => .null
  | .wild => .wild

/-- The addresses `&data[i]` for `i < size`: `data` is NULL when the sequence was refused. -/
def addresses [Inhabited α] (granted : Bool) : Nat → List (Target α)
  | 0 => []
  | size + 1 =>
    if granted then List.replicate (size + 1) (.item default)
    else .null :: List.replicate size .wild

/-- The items of a sequence, taken in order by `for (i = 0; i < size && (ret == RMW_RET_OK); ++i)`. -/
def fillItems (body : Target α → Fill β α) : List (Target α) → Fill β (List α)
  | [] => pure []
  | item :: items => do
    if (← get).ret = .ok then
      let value ← body item
      let values ← fillItems body items
      return (item.set value).held ++ values
    else return (item :: items).flatMap Target.held

section Parser

variable (ucdr : Ucdr β) (env : Surroundings)

/-- A count, and whether it was read. -/
def readCount : Fill β (UInt32 × Bool) := do
  let unwritten := env.unwritten (← get).counts
  modify fun s => { s with counts := s.counts + 1 }
  match ← read ucdr.deserializeUint32T with
  | some count => return (count, true)
  | none => return (unwritten, false)

/-- `X__Sequence__init`, and the items that the loop after it takes. -/
def initSequence [Inhabited α] (count : UInt32 × Bool) : Fill β (List (Target α)) := do
  modify fun s => { s with unread := s.unread || !count.2 }
  if count.1 = 0 then return []
  let granted := env.sequences (← get).sequences
  modify fun s => { s with sequences := s.sequences + 1 }
  return addresses granted count.1.toNat

/-- A count, the sequence and the loop over it. -/
def fillSequence [Inhabited α] (body : Target α → Fill β α) : Fill β (List α) := do
  let count ← readCount ucdr env
  let items ← initSequence env count
  fillItems body items

/-- `rosidl_runtime_c__String__assign` of the `temp_string` that a string was read into. It returns at
once when the string is NULL, and a refused request leaves the string as it was. -/
def fillString (string : Target CStr) : Fill β CStr := do
  let text ← read (ucdr.deserializeString tempStringSize)
  match string with
  | .item string =>
    let granted := env.strings (← get).strings
    modify fun s => { s with strings := s.strings + 1 }
    return if granted then text.getD [] else string
  | .null => return []
  | .wild => fun _ => none

/-- The kind of an entity, written to its field when it can be read. -/
def fillKind (entityType : Target UInt8) : Fill β UInt8 := do
  match ← read ucdr.deserializeUint8T, entityType with
  | some kind, .item _ => return kind
  | some _, .null | some _, .wild => fun _ => none
  | none, .item entityType => return entityType
  | none, .null | none, .wild => return 0

/-- The body of the loop over the entities. -/
def fillEntity (entity : Target GraphEntity) : Fill β GraphEntity := do
  let entityType ← fillKind ucdr (entity.first fun entity => entity.entityType)
  let name ← fillString ucdr env (entity.later fun entity => entity.name)
  let types ← fillSequence ucdr env (fillString ucdr env)
  return { entityType := entityType, name := name, types := types }

/-- The body of the loop over the nodes. -/
def fillNode (node : Target GraphNode) : Fill β GraphNode := do
  let nodeNamespace ← fillString ucdr env (node.first fun node => node.nodeNamespace)
  let nodeName ← fillString ucdr env (node.later fun node => node.nodeName)
  let entities ← fillSequence ucdr env (fillEntity ucdr env)
  return { nodeNamespace := nodeNamespace, nodeName := nodeName, entities := entities }

/-- The parser from its first statement on the sample. -/
def fillGraph : Fill β Graph := do
  let nodes ← fillSequence ucdr env (fillNode ucdr env)
  return { nodes := nodes }

/-- The parser before anything is read. -/
def Filling.start (tempBuffer : β) : Filling β := ⟨.ok, some tempBuffer, 0, 0, 0, false⟩

/-- `rmw_graph_fill_data_from_buffer`: what it has filled in, and its variables at the end, among them
the `ret` it returns. -/
def rmwGraphFillDataFromBuffer (graphInfo : GraphInfo) : Option (Graph × Filling β) :=
  let tempBuffer := ucdr.initBuffer graphInfo.microBuffer graphInfo.microBufferLength
  fillGraph ucdr env (.start tempBuffer)

end Parser

end RmwMicroxrcedds.GraphParser
