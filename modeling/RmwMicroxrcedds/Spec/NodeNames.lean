import RmwMicroxrcedds.Model.NodeNames
import RmwMicroxrcedds.Spec.GraphQueries
import RmwMicroxrcedds.Spec.Naming

/-!
# The names of the nodes

The blocks for the texts have the right length and the arrays one entry for each node, but the bound of
the printing is the number of nodes: a name is complete exactly when it is shorter than the graph has
nodes.
-/

namespace RmwMicroxrcedds
set_option autoImplicit false

variable {β : Type} {cfg : Config} {ucdr : Ucdr β} {allocator : Allocator}

/-- The array of a text of every node. -/
def Graph.texts (graph : Graph) (text : GraphNode → CStr) : RcutilsStringArray :=
  ⟨graph.nodes.length, some (graph.nodes.map fun node => some (text node))⟩

/-- The array that `rmw_get_node_names` fills with that text. -/
def Graph.cutTexts (graph : Graph) (text : GraphNode → CStr) : RcutilsStringArray :=
  graph.texts fun node => (snprintf graph.nodes.length (text node)).1

namespace NamesProg

variable (grants : ∀ k, allocator k = true)
include grants

theorem request_granted (s : NamesState) :
    request allocator s = some (.ok true, { s with requests := s.requests + 1 }) := by
  rw [← grants s.requests]
  rfl

theorem initArray_granted (size : Nat) (store : RcutilsStringArray → NamesState → NamesState)
    (s : NamesState) : initArray allocator size store s = some (.ok (),
      store ⟨size, some (List.replicate size none)⟩ { s with requests := s.requests + 1 }) := by
  unfold initArray
  rw [bind_ok (request_granted grants s)]
  rfl

theorem copyText_granted (size : Nat) (text : CStr) (s : NamesState) :
    copyText allocator size text s =
      some (.ok (snprintf size text).1, { s with requests := s.requests + 1 }) := by
  unfold copyText
  rw [bind_ok (request_granted grants s)]
  rfl

/-- One entry of both arrays. -/
theorem copyNode_granted (i : Nat) (node : GraphNode) (s : NamesState) :
    copyNode allocator i node s = some (.ok (),
      { nodeNames := s.nodeNames.write i (snprintf s.nodeNames.size node.nodeName).1
        nodeNamespaces :=
          s.nodeNamespaces.write i (snprintf s.nodeNamespaces.size node.nodeNamespace).1
        requests := s.requests + 2 }) := by
  unfold copyNode
  rw [bind_ok (a := s) rfl]
  rw [bind_ok (copyText_granted grants _ _ s)]
  rw [bind_ok (a := ()) rfl]
  rw [bind_ok (a := { s with
    nodeNamespaces := s.nodeNamespaces.write i (snprintf s.nodeNamespaces.size node.nodeNamespace).1
    requests := s.requests + 1 }) rfl]
  rw [bind_ok (copyText_granted grants _ _ _)]
  rfl

/-- An array of `n` entries, of which the first have been filled in. -/
def filled (n : Nat) (texts : List (Option CStr)) (left : Nat) : RcutilsStringArray :=
  ⟨n, some (texts ++ List.replicate left none)⟩

omit grants in
theorem filled_write (n : Nat) (texts : List (Option CStr)) (left : Nat) (text : CStr) :
    (filled n texts (left + 1)).write texts.length text = filled n (texts ++ [some text]) left := by
  simp [filled, RcutilsStringArray.write, List.replicate_succ]

/-- The loop. The entries before `i` have been filled in. -/
theorem copyNodes_granted (n : Nat) (nodes : List GraphNode) (names namespaces : List (Option CStr))
    (i requests : Nat) (before : names.length = i) (before' : namespaces.length = i) :
    copyNodes allocator i nodes
        ⟨filled n names nodes.length, filled n namespaces nodes.length, requests⟩ =
      some (.ok (),
        { nodeNames := filled n (names ++ nodes.map fun node => some (snprintf n node.nodeName).1) 0
          nodeNamespaces :=
            filled n (namespaces ++ nodes.map fun node => some (snprintf n node.nodeNamespace).1) 0
          requests := requests + 2 * nodes.length }) := by
  induction nodes generalizing names namespaces i requests with
  | nil =>
    simp only [copyNodes, List.map_nil, List.append_nil, List.length_nil]
    rfl
  | cons node nodes ih =>
    rw [copyNodes, bind_ok (copyNode_granted grants i node _)]
    subst before
    rw [List.length_cons, filled_write, ← before', filled_write]
    have rest := ih (names ++ [some (snprintf n node.nodeName).1])
      (namespaces ++ [some (snprintf n node.nodeNamespace).1]) (names.length + 1) (requests + 2)
      (by simp) (by simp [before'])
    rw [before']
    refine rest.trans ?_
    simp only [List.append_assoc, List.singleton_append, List.map_cons]
    congr 3
    omega

/-- What a sample that decodes leaves in the arrays. -/
theorem fillArrays_granted {graphInfo : GraphInfo} {graph : Graph}
    (decodes : rmwGraphFillDataFromBuffer ucdr graphInfo = some graph) :
    fillArrays ucdr allocator graphInfo ⟨.zero, .zero, 0⟩ = some (.ok (),
      { nodeNames := graph.cutTexts (·.nodeName)
        nodeNamespaces := graph.cutTexts (·.nodeNamespace)
        requests := 3 + 2 * graph.nodes.length }) := by
  unfold fillArrays
  rw [bind_ok (request_granted grants _)]
  simp only [Bool.not_true, Bool.false_eq_true, if_false, decodes]
  rw [bind_ok (initArray_granted grants _ _ _)]
  rw [bind_ok (initArray_granted grants _ _ _)]
  have loop := copyNodes_granted grants graph.nodes.length graph.nodes [] [] 0 3 rfl rfl
  simp only [filled, List.nil_append, List.replicate_zero, List.append_nil] at loop
  exact loop

end NamesProg

/-! ## Complete names -/

theorem Graph.cutTexts_eq_iff (graph : Graph) (text : GraphNode → CStr) :
    graph.cutTexts text = graph.texts text ↔
      ∀ node ∈ graph.nodes, (text node).length < graph.nodes.length := by
  rw [cutTexts, texts, texts, RcutilsStringArray.mk.injEq, Option.some.injEq, List.map_inj_left]
  simp only [Option.some.injEq, true_and]
  have bound : ∀ node ∈ graph.nodes, 0 < graph.nodes.length := fun _ mem => List.length_pos_of_mem mem
  constructor
  · intro same node mem
    exact (snprintf_eq_iff (.inl (bound node mem))).1 (same node mem)
  · intro short node mem
    exact (snprintf_eq_iff (.inl (bound node mem))).2 (short node mem)

/-- **The names of the nodes** are reported exactly when every name and every namespace is shorter
than the graph has nodes. -/
theorem node_names_exact_iff (profile : cfg.graph = true) (grants : ∀ k, allocator k = true)
    {w : World} {node : Nat} {graph : Graph} (sample : HasSample ucdr w node graph) :
    rmwGetNodeNames cfg ucdr allocator w (some node) (some .zero) (some .zero) =
        some (.ok, some (graph.texts (·.nodeName)), some (graph.texts (·.nodeNamespace))) ↔
      ∀ node ∈ graph.nodes, node.nodeName.length < graph.nodes.length ∧
        node.nodeNamespace.length < graph.nodes.length := by
  obtain ⟨graphInfo, info, initialized, decodes⟩ := sample.graphInfo
  have returned : rmwGetNodeNames cfg ucdr allocator w (some node) (some .zero) (some .zero) =
      some (.ok, some (graph.cutTexts (·.nodeName)), some (graph.cutTexts (·.nodeNamespace))) := by
    simp [rmwGetNodeNames, profile, sample.handle, info, initialized,
      NamesProg.fillArrays_granted grants decodes]
  rw [returned, Option.some.injEq, Prod.mk.injEq, Prod.mk.injEq, Option.some.injEq, Option.some.injEq,
    graph.cutTexts_eq_iff, graph.cutTexts_eq_iff]
  constructor
  · rintro ⟨-, names, namespaces⟩ node mem
    exact ⟨names node mem, namespaces node mem⟩
  · intro short
    exact ⟨rfl, fun node mem => (short node mem).1, fun node mem => (short node mem).2⟩

namespace Small

/-- A sample of two nodes, `n` and `m`, in the root namespace. -/
def pairSample : List UInt8 :=
  [2, 0, 0, 0, 2, 0, 0, 0, 47, 0, 0, 0, 2, 0, 0, 0, 110, 0, 0, 0, 0, 0, 0, 0,
    2, 0, 0, 0, 47, 0, 0, 0, 2, 0, 0, 0, 109, 0, 0, 0, 0, 0, 0, 0]

def pairGraph : Graph := ⟨[⟨['/'], ['n'], []⟩, ⟨['/'], ['m'], []⟩]⟩

/-- The sample comes in while a node is created. -/
def sampledNode (bytes : List UInt8) : List Step :=
  [init 0, ⟨.createNode 1 (some ['n']) (some ['/']), ⟨[sample 0 bytes], true⟩ :: confirming⟩]

end Small

/-- Two nodes with names of one character. -/
theorem node_names_exact_pair :
    rmwGetNodeNames Small.graphConfig cdr (fun _ => true)
        (run Small.graphConfig (Small.sampledNode Small.pairSample)).w (some 1) (some .zero)
        (some .zero) =
      some (.ok, some (Small.pairGraph.texts (·.nodeName)),
        some (Small.pairGraph.texts (·.nodeNamespace))) :=
  have sample : HasSample cdr (run Small.graphConfig (Small.sampledNode Small.pairSample)).w 1
      Small.pairGraph := .of_facts (c := 1) (by decide +kernel)
  (node_names_exact_iff rfl (fun _ => rfl) sample).2 (by decide)

/-- With a single node the name and the namespace come back empty. -/
theorem single_name_is_cut :
    let w := (run Small.graphConfig (Small.sampledNode (Small.graphSample 1))).w
    HasSample cdr w 1 (Small.graphOf 1) ∧
      rmwGetNodeNames Small.graphConfig cdr (fun _ => true) w (some 1) (some .zero)
        (some .zero) = some (.ok, some ⟨1, some [some []]⟩, some ⟨1, some [some []]⟩) ∧
      ¬ rmwGetNodeNames Small.graphConfig cdr (fun _ => true) w (some 1) (some .zero)
        (some .zero) = some (.ok, some ((Small.graphOf 1).texts (·.nodeName)),
          some ((Small.graphOf 1).texts (·.nodeNamespace))) := by
  intro w
  -- one evaluation of the run for all of it
  have facts : ((w.ent.node.custom 1).rmwNode = ⟨some .eprosimaMicroxrcedds, some 1⟩ ∧
      (w.ent.node.custom 1).context = some 1 ∧ (w.buf.graphInfo 1).initialized = true ∧
        rmwGraphFillDataFromBuffer cdr (w.buf.graphInfo 1) = some (Small.graphOf 1)) ∧
      rmwGetNodeNames Small.graphConfig cdr (fun _ => true) w (some 1) (some .zero)
        (some .zero) = some (.ok, some ⟨1, some [some []]⟩, some ⟨1, some [some []]⟩) := by
    decide +kernel
  obtain ⟨sample, names⟩ := facts
  refine ⟨.of_facts sample, names, ?_⟩
  rw [names]
  decide

end RmwMicroxrcedds
