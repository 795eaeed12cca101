import RmwMicroxrcedds.Proof.GraphSurvey

/-!
# The parser and the encoding

The encoding of a graph, written part by part as CDR has it, and the parser on it with the readers of CDR.
A text fits `temp_string` when it is shorter than the array; where all texts of a graph do, the parser
gives the graph back, and it reports an error for the encoding of any other graph and for an encoding
that was cut off.
-/

namespace RmwMicroxrcedds
set_option autoImplicit false

open Cdr

/-! ## The encoding -/

def GraphEntity.encode (entity : GraphEntity) : Writer :=
  (writeUint8 entity.entityType).append
    ((writeString entity.name).append (writeSequence writeString entity.types))

def GraphNode.encode (node : GraphNode) : Writer :=
  (writeString node.nodeNamespace).append
    ((writeString node.nodeName).append (writeSequence GraphEntity.encode node.entities))

/-- The encoding of a graph. -/
def Graph.encoding (graph : Graph) : List UInt8 := writeSequence GraphNode.encode graph.nodes 0

/-- All texts of an entity have a property. -/
def GraphEntity.All (P : CStr → Prop) (entity : GraphEntity) : Prop :=
  P entity.name ∧ ∀ type ∈ entity.types, P type

def GraphNode.All (P : CStr → Prop) (node : GraphNode) : Prop :=
  P node.nodeNamespace ∧ P node.nodeName ∧ ∀ entity ∈ node.entities, entity.All P

def Graph.All (P : CStr → Prop) (graph : Graph) : Prop := ∀ node ∈ graph.nodes, node.All P

instance (P : CStr → Prop) [DecidablePred P] (entity : GraphEntity) : Decidable (entity.All P) :=
  inferInstanceAs (Decidable (_ ∧ _))

instance (P : CStr → Prop) [DecidablePred P] (node : GraphNode) : Decidable (node.All P) :=
  inferInstanceAs (Decidable (_ ∧ _ ∧ _))

instance (P : CStr → Prop) [DecidablePred P] (graph : Graph) : Decidable (graph.All P) :=
  inferInstanceAs (Decidable (∀ node ∈ graph.nodes, _))

/-- At most 255 bytes. -/
def Storable (text : CStr) : Prop := text.length ≤ 255

instance (text : CStr) : Decidable (Storable text) := inferInstanceAs (Decidable (_ ≤ _))

/-! ## The parts -/

theorem encode_string_pos (text : CStr) (position : Nat) : 0 < (writeString text position).length :=
  append_pos (writeBytes_pos 4 (by simp)) position

theorem GraphEntity.encode_pos (entity : GraphEntity) (position : Nat) :
    0 < (entity.encode position).length := append_pos (writeBytes_pos 1 (by simp)) position

theorem GraphNode.encode_pos (node : GraphNode) (position : Nat) : 0 < (node.encode position).length :=
  append_pos (encode_string_pos _) position

section Entity

variable {entity : GraphEntity} (fits : Sized entity.encode)
include fits

theorem GraphEntity.counted : entity.name.length + 1 < 2 ^ 32 ∧ entity.types.length < 2 ^ 32 ∧
    ∀ type ∈ entity.types, type.length + 1 < 2 ^ 32 := by
  obtain ⟨size, types⟩ := fits.second.second.sequence encode_string_pos
  exact ⟨fits.second.first.string, size, fun type mem => (types type mem).string⟩

theorem GraphEntity.inverts (plain : entity.All ByteText) (short : entity.All Storable) :
    Inverts (readEntity cdr) entity.encode entity := by
  obtain ⟨name, size, types⟩ := GraphEntity.counted fits
  refine (inverts_uint8 entity.entityType).bind ?_
  refine (inverts_string name plain.1 (Nat.lt_succ_of_le short.1)).bind ?_
  have read : Inverts (Cdr.readSequence (readString tempStringSize))
      (writeSequence writeString entity.types) entity.types :=
    inverts_sequence size fun type mem =>
      inverts_string (types type mem) (plain.2 type mem) (Nat.lt_succ_of_le (short.2 type mem))
  exact read.map (GraphEntity.mk entity.entityType entity.name)

theorem GraphEntity.consumes (short : entity.All Storable) : Consumes (readEntity cdr) entity.encode := by
  obtain ⟨name, size, types⟩ := GraphEntity.counted fits
  refine (inverts_uint8 entity.entityType).consumes_bind ?_
  refine (consumes_string name (Nat.lt_succ_of_le short.1)).bind fun name' => ?_
  have read : Consumes (Cdr.readSequence (readString tempStringSize))
      (writeSequence writeString entity.types) :=
    consumes_sequence size fun type mem =>
      consumes_string (types type mem) (Nat.lt_succ_of_le (short.2 type mem))
  exact read.map (GraphEntity.mk entity.entityType name')

theorem GraphEntity.rejects (long : ¬ entity.All Storable) : Rejects (readEntity cdr) entity.encode := by
  obtain ⟨name, size, types⟩ := GraphEntity.counted fits
  refine (inverts_uint8 entity.entityType).rejects_bind ?_
  by_cases short : Storable entity.name
  · refine (consumes_string name (Nat.lt_succ_of_le short)).rejects_bind fun name' => ?_
    have read : Rejects (Cdr.readSequence (readString tempStringSize))
        (writeSequence writeString entity.types) := by
      refine rejects_sequence size (fun type mem => ?_) ?_
      · by_cases short : Storable type
        · exact .inl (consumes_string (types type mem) (Nat.lt_succ_of_le short))
        · exact .inr (rejects_string (types type mem) (Nat.lt_of_not_le short))
      · by_contra none
        refine long ⟨short, fun type mem => ?_⟩
        by_contra high
        exact none ⟨type, mem, rejects_string (types type mem) (Nat.lt_of_not_le high)⟩
    exact read.map (GraphEntity.mk entity.entityType name')
  · exact (rejects_string name (Nat.lt_of_not_le short)).first

end Entity

section Node

variable {node : GraphNode} (fits : Sized node.encode)
include fits

theorem GraphNode.counted : node.nodeNamespace.length + 1 < 2 ^ 32 ∧ node.nodeName.length + 1 < 2 ^ 32 ∧
    node.entities.length < 2 ^ 32 ∧ ∀ entity ∈ node.entities, Sized entity.encode := by
  obtain ⟨size, entities⟩ := fits.second.second.sequence GraphEntity.encode_pos
  exact ⟨fits.first.string, fits.second.first.string, size, entities⟩

theorem GraphNode.inverts (plain : node.All ByteText) (short : node.All Storable) :
    Inverts (readNode cdr) node.encode node := by
  obtain ⟨nodeNamespace, name, size, entities⟩ := GraphNode.counted fits
  refine (inverts_string nodeNamespace plain.1 (Nat.lt_succ_of_le short.1)).bind ?_
  refine (inverts_string name plain.2.1 (Nat.lt_succ_of_le short.2.1)).bind ?_
  have read : Inverts (Cdr.readSequence (readEntity cdr))
      (writeSequence GraphEntity.encode node.entities) node.entities :=
    inverts_sequence size fun entity mem =>
      GraphEntity.inverts (entities entity mem) (plain.2.2 entity mem) (short.2.2 entity mem)
  exact read.map (GraphNode.mk node.nodeNamespace node.nodeName)

theorem GraphNode.consumes (short : node.All Storable) : Consumes (readNode cdr) node.encode := by
  obtain ⟨nodeNamespace, name, size, entities⟩ := GraphNode.counted fits
  refine (consumes_string nodeNamespace (Nat.lt_succ_of_le short.1)).bind fun namespace' => ?_
  refine (consumes_string name (Nat.lt_succ_of_le short.2.1)).bind fun name' => ?_
  have read : Consumes (Cdr.readSequence (readEntity cdr))
      (writeSequence GraphEntity.encode node.entities) :=
    consumes_sequence size fun entity mem =>
      GraphEntity.consumes (entities entity mem) (short.2.2 entity mem)
  exact read.map (GraphNode.mk namespace' name')

theorem GraphNode.rejects (long : ¬ node.All Storable) : Rejects (readNode cdr) node.encode := by
  obtain ⟨nodeNamespace, name, size, entities⟩ := GraphNode.counted fits
  by_cases short : Storable node.nodeNamespace
  · refine (consumes_string nodeNamespace (Nat.lt_succ_of_le short)).rejects_bind fun namespace' => ?_
    by_cases short' : Storable node.nodeName
    · refine (consumes_string name (Nat.lt_succ_of_le short')).rejects_bind fun name' => ?_
      have read : Rejects (Cdr.readSequence (readEntity cdr))
          (writeSequence GraphEntity.encode node.entities) := by
        refine rejects_sequence size (fun entity mem => ?_) ?_
        · by_cases short : entity.All Storable
          · exact .inl (GraphEntity.consumes (entities entity mem) short)
          · exact .inr (GraphEntity.rejects (entities entity mem) short)
        · by_contra none
          refine long ⟨short, short', fun entity mem => ?_⟩
          by_contra high
          exact none ⟨entity, mem, GraphEntity.rejects (entities entity mem) high⟩
      exact read.map (GraphNode.mk namespace' name')
    · exact (rejects_string name (Nat.lt_of_not_le short')).first
  · exact (rejects_string nodeNamespace (Nat.lt_of_not_le short)).first

end Node

/-! ## Graphs -/

section Graph

variable {graph : Graph} (fits : graph.encoding.length < 2 ^ 32)
include fits

theorem Graph.counted : graph.nodes.length < 2 ^ 32 ∧ ∀ node ∈ graph.nodes, Sized node.encode := by
  have written : Sized (writeSequence GraphNode.encode graph.nodes) := ⟨0, fits⟩
  exact written.sequence GraphNode.encode_pos

theorem Graph.inverts (plain : graph.All ByteText) (short : graph.All Storable) :
    Inverts (readSequence cdr (readNode cdr)) (writeSequence GraphNode.encode graph.nodes) graph.nodes := by
  obtain ⟨size, nodes⟩ := Graph.counted fits
  exact inverts_sequence size fun node mem =>
    GraphNode.inverts (nodes node mem) (plain node mem) (short node mem)

theorem Graph.rejects (long : ¬ graph.All Storable) :
    Rejects (readSequence cdr (readNode cdr)) (writeSequence GraphNode.encode graph.nodes) := by
  obtain ⟨size, nodes⟩ := Graph.counted fits
  refine rejects_sequence size (fun node mem => ?_) ?_
  · by_cases short : node.All Storable
    · exact .inl (GraphNode.consumes (nodes node mem) short)
    · exact .inr (GraphNode.rejects (nodes node mem) short)
  · by_contra none
    refine long fun node mem => ?_
    by_contra high
    exact none ⟨node, mem, GraphNode.rejects (nodes node mem) high⟩

end Graph

/-- The sample stored for the graph. -/
def GraphInfo.sample (graphInfo : GraphInfo) : List UInt8 :=
  graphInfo.microBuffer.take graphInfo.microBufferLength

theorem rmwGraphFillDataFromBuffer_eq (graphInfo : GraphInfo) :
    rmwGraphFillDataFromBuffer cdr graphInfo =
      (readSequence cdr (readNode cdr) (0, graphInfo.sample)).map fun r => ⟨r.1⟩ :=
  GraphParser.decoder_eq cdr graphInfo

/-- The parser returns a graph. -/
def Decodes (env : GraphParser.Surroundings) (graphInfo : GraphInfo) (graph : Graph) : Prop :=
  ∃ s, GraphParser.rmwGraphFillDataFromBuffer cdr env graphInfo = some (graph, s) ∧ s.ret = .ok

/-- The parser returns an error. -/
def Refuses (env : GraphParser.Surroundings) (graphInfo : GraphInfo) : Prop :=
  ∃ graph s, GraphParser.rmwGraphFillDataFromBuffer cdr env graphInfo = some (graph, s) ∧ s.ret = .error

/-- **The parser inverts the encoding.** A graph of texts of at most 255 bytes comes back from its
encoding, and not from less; the encoding of a graph with a longer text is refused. The encoding is one
that a buffer with a size of 32 bits can hold. -/
theorem parser_inverts_encoding (env : GraphParser.Surroundings)
    (sequences : ∀ k, env.sequences k = true) (strings : ∀ k, env.strings k = true) (graph : Graph)
    (fits : graph.encoding.length < 2 ^ 32) (graphInfo : GraphInfo) :
    (graph.All ByteText → graph.All Storable → graphInfo.sample = graph.encoding →
      Decodes env graphInfo graph) ∧
    (graph.All ByteText → graph.All Storable → graphInfo.sample <+: graph.encoding →
      graphInfo.sample ≠ graph.encoding → Refuses env graphInfo) ∧
    (¬ graph.All Storable → graphInfo.sample = graph.encoding → Refuses env graphInfo) := by
  obtain ⟨filled, s, ran, outcome⟩ :=
    GraphParser.rmwGraphFillDataFromBuffer_decodes cdr sequences strings graphInfo
  rw [rmwGraphFillDataFromBuffer_eq] at outcome
  refine ⟨fun plain short stored => ?_, fun plain short cut ne => ?_, fun long stored => ?_⟩
  · have read := (Graph.inverts fits plain short).whole 0 []
    rw [List.append_nil] at read
    rw [stored, Graph.encoding, read] at outcome
    obtain ⟨ok, rfl⟩ := outcome
    exact ⟨s, ran, ok⟩
  · have shorter : graphInfo.sample.length < graph.encoding.length :=
      Nat.lt_of_le_of_ne cut.length_le fun same => ne (cut.eq_of_length same)
    rw [(Graph.inverts fits plain short).cut 0 _ cut shorter] at outcome
    exact ⟨filled, s, ran, outcome⟩
  · have read := Graph.rejects fits long 0 []
    rw [List.append_nil] at read
    rw [stored, Graph.encoding, read] at outcome
    exact ⟨filled, s, ran, outcome⟩

/-- The small graph, the same cut off in the name of its type, and one with a name of 256 bytes. -/
theorem parser_inverts_encoding_small :
    let env : GraphParser.Surroundings := ⟨fun _ => 1, fun _ => true, fun _ => true⟩
    let stored := fun bytes : List UInt8 =>
      { (default : GraphInfo) with microBuffer := bytes, microBufferLength := bytes.length }
    let long : Graph := ⟨[⟨['/'], List.replicate 256 'n', []⟩]⟩
    Decodes env (stored (Small.graphOf 1).encoding) (Small.graphOf 1) ∧
      Refuses env (stored ((Small.graphOf 1).encoding.take 45)) ∧
      Refuses env (stored long.encoding) := by
  intro env stored long
  have granted : ∀ k, (fun _ => true : Allocator) k = true := fun _ => rfl
  have small : (Small.graphOf 1).encoding.length < 2 ^ 32 := by decide +kernel
  refine ⟨?_, ?_, ?_⟩
  · exact (parser_inverts_encoding env granted granted _ small (stored _)).1 (by decide +kernel)
      (by decide +kernel) (by decide +kernel)
  · exact (parser_inverts_encoding env granted granted _ small (stored _)).2.1 (by decide +kernel)
      (by decide +kernel) (by decide +kernel) (by decide +kernel)
  · exact (parser_inverts_encoding env granted granted long (by decide +kernel)
      (stored _)).2.2 (by decide +kernel) (by decide +kernel)

end RmwMicroxrcedds
