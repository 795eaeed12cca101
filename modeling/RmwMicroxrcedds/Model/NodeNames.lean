import RmwMicroxrcedds.Model.GraphQueries

/-!
# `rmw_node_names.c`

The names of the nodes of the graph. The arrays are `rcutils` arrays, filled in entry by entry; a
request that the allocator refuses leaves NULL behind, which is only looked at for the arrays.
-/

namespace RmwMicroxrcedds
set_option autoImplicit false

/-- `rcutils_string_array_t`. -/
structure RcutilsStringArray where
  size : Nat
  data : Option (List (Option CStr))
deriving DecidableEq

/-- `rcutils_get_zero_initialized_string_array`. -/
def RcutilsStringArray.zero : RcutilsStringArray := ⟨0, none⟩

/-- `data[i] = text`. -/
def RcutilsStringArray.write (array : RcutilsStringArray) (i : Nat) (text : CStr) :
    RcutilsStringArray :=
  { array with data := array.data.map fun texts => texts.set i (some text) }

/-- The two arrays, and the number of requests to the allocator so far. -/
structure NamesState where
  nodeNames : RcutilsStringArray
  nodeNamespaces : RcutilsStringArray
  requests : Nat
deriving DecidableEq

/-- A part of `rmw_get_node_names`: it goes on, goes to `fini` with a code, or dereferences NULL. -/
abbrev NamesProg := ExceptT RmwRet (StateT NamesState Option)

namespace NamesProg

/-- A dereference of NULL. -/
def crash : NamesProg Unit := fun _ => none

/-- A request to the allocator. -/
def request (allocator : Allocator) : NamesProg Bool := do
  let s ← get
  set { s with requests := s.requests + 1 }
  return allocator s.requests

/-- `rcutils_string_array_init`: an array of NULL entries. -/
def initArray (allocator : Allocator) (size : Nat)
    (store : RcutilsStringArray → NamesState → NamesState) : NamesProg Unit := do
  if ← request allocator then
    modify (store ⟨size, some (List.replicate size none)⟩)
  else throw .error

/-- A zeroed block for a text, and the text printed into it. The bound of the printing is the size of
the array. -/
def copyText (allocator : Allocator) (size : Nat) (text : CStr) : NamesProg CStr := do
  let zeroed ← request allocator
  if !zeroed then crash
  return (snprintf size text).1

/-- The body of the loop of `rmw_get_node_names`. -/
def copyNode (allocator : Allocator) (i : Nat) (node : GraphNode) : NamesProg Unit := do
  let nodeNamespace ← copyText allocator (← get).nodeNamespaces.size node.nodeNamespace
  modify fun s => { s with nodeNamespaces := s.nodeNamespaces.write i nodeNamespace }
  let nodeName ← copyText allocator (← get).nodeNames.size node.nodeName
  modify fun s => { s with nodeNames := s.nodeNames.write i nodeName }

/-- The loop of `rmw_get_node_names`, from entry `i` on. -/
def copyNodes (allocator : Allocator) (i : Nat) : List GraphNode → NamesProg Unit
  | [] => pure ()
  | node :: nodes => do
    copyNode allocator i node
    copyNodes allocator (i + 1) nodes

/-- `rmw_get_node_names` from the creation of the message on. -/
def fillArrays {β : Type} (ucdr : Ucdr β) (allocator : Allocator) (graphInfo : GraphInfo) :
    NamesProg Unit := do
  let created ← request allocator
  if !created then crash
  match rmwGraphFillDataFromBuffer ucdr graphInfo with
  | none => throw .error
  | some graphData =>
    -- Init node name and namespaces string array
    initArray allocator graphData.nodes.length fun array s => { s with nodeNames := array }
    initArray allocator graphData.nodes.length fun array s => { s with nodeNamespaces := array }
    -- Copy information into result arrays
    copyNodes allocator 0 graphData.nodes

end NamesProg

section Queries

variable {β : Type} (cfg : Config) (ucdr : Ucdr β) (allocator : Allocator)

/-- `rmw_get_node_names`. The arrays are what the pointers point to, before and after; `allocator` is
the default one. -/
def rmwGetNodeNames (w : World) (node : Option Nat) (nodeNames nodeNamespaces : Option RcutilsStringArray) :
    Option (RmwRet × Option RcutilsStringArray × Option RcutilsStringArray) :=
  if cfg.graph then
    match node with
    | none => some (.invalidArgument, nodeNames, nodeNamespaces)
    | some node =>
      let handle := (w.ent.node.custom node).rmwNode
      if handle.implementationIdentifier = some .foreign then
        some (.incorrectRmwImplementation, nodeNames, nodeNamespaces)
      -- `rmw_check_zero_rmw_string_array`
      else if nodeNames ≠ some .zero ∨ nodeNamespaces ≠ some .zero then
        some (.invalidArgument, nodeNames, nodeNamespaces)
      else do
        let graphInfo ← w.graphInfoOf handle
        if graphInfo.initialized then
          match ← NamesProg.fillArrays ucdr allocator graphInfo ⟨.zero, .zero, 0⟩ with
          | (.ok _, s) => return (.ok, some s.nodeNames, some s.nodeNamespaces)
          | (.error ret, s) => return (ret, some s.nodeNames, some s.nodeNamespaces)
        else return (.ok, nodeNames, nodeNamespaces)
  else some (.unsupported, nodeNames, nodeNamespaces)

/-- `rmw_get_node_names_with_enclaves`: the enclaves are not looked at. -/
def rmwGetNodeNamesWithEnclaves (w : World) (node : Option Nat)
    (nodeNames nodeNamespaces _enclaves : Option RcutilsStringArray) :
    Option (RmwRet × Option RcutilsStringArray × Option RcutilsStringArray) :=
  rmwGetNodeNames cfg ucdr allocator w node nodeNames nodeNamespaces

end Queries

end RmwMicroxrcedds
