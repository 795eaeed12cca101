import RmwMicroxrcedds.Model.GraphQueries

/-!
# Queries on the graph

The pairs of a node and an entity with a name and a kind are listed once, for the whole graph; the
two loops of the source are the two ways of going through that list. Counting always agrees with it.
The infos take the first type of every entity without looking whether there is one.
-/

namespace RmwMicroxrcedds
set_option autoImplicit false

variable {β : Type} {cfg : Config} {ucdr : Ucdr β} {kinds : EntityKinds}

/-- The pairs of a node and an entity of it with the name and the kind, in graph order. -/
def Graph.endpoints (graph : Graph) (kind : UInt8) (topicName : CStr) :
    List (GraphNode × GraphEntity) :=
  graph.nodes.flatMap fun node =>
    (node.entities.filter fun entity => topicName = entity.name ∧ kind = entity.entityType).map
      (node, ·)

/-- What an entry says about a pair. -/
def endpointInfo (kinds : EntityKinds) (kind : UInt8) (pair : GraphNode × GraphEntity) :
    TopicEndpointInfo where
  nodeName := some pair.1.nodeName
  nodeNamespace := some pair.1.nodeNamespace
  topicType := pair.2.types.head?
  endpointType := endpointKindToEndpointType kinds kind

/-! ## Counting -/

theorem countEntities_eq (kind : UInt8) (topicName : CStr) (entities : List GraphEntity)
    (count : Nat) :
    entities.foldl (fun count entity =>
      if topicName = entity.name ∧ kind = entity.entityType then count + 1 else count) count =
      count + (entities.filter fun entity =>
        topicName = entity.name ∧ kind = entity.entityType).length := by
  induction entities generalizing count with
  | nil => rfl
  | cons entity entities ih =>
    rw [List.foldl_cons, ih]
    by_cases h : topicName = entity.name ∧ kind = entity.entityType
    · rw [if_pos h, List.filter_cons_of_pos (by simpa using h), List.length_cons]
      omega
    · rw [if_neg h, List.filter_cons_of_neg (by simpa using h)]

theorem countNodes_eq (kind : UInt8) (topicName : CStr) (nodes : List GraphNode) (count : Nat) :
    nodes.foldl (fun count node => node.entities.foldl (fun count entity =>
      if topicName = entity.name ∧ kind = entity.entityType then count + 1 else count) count) count =
      count + (Graph.endpoints ⟨nodes⟩ kind topicName).length := by
  induction nodes generalizing count with
  | nil => rfl
  | cons node nodes ih =>
    rw [List.foldl_cons, countEntities_eq, ih]
    simp only [Graph.endpoints, List.flatMap_cons, List.length_append, List.length_map]
    omega

/-! ## One entry -/

section Fallible

variable {ε σ α γ : Type} {p : ExceptT ε (StateT σ Option) α} {f : α → ExceptT ε (StateT σ Option) γ} {s t : σ}
  {a : α}

theorem bind_ok (h : p s = some (.ok a, t)) : (p >>= f) s = f a t := by
  show (p s).bind _ = _
  rw [h]
  rfl

theorem bind_crash (h : p s = none) : (p >>= f) s = none := by
  show (p s).bind _ = _
  rw [h]
  rfl

end Fallible

namespace InfoProg

variable {allocator : Allocator}

theorem request_granted (grants : ∀ k, allocator k = true) (s : InfoState) :
    request allocator s = some (.ok true, { s with requests := s.requests + 1 }) := by
  rw [← grants s.requests]
  rfl

theorem setText_granted (grants : ∀ k, allocator k = true) (position : Nat)
    (field : Option CStr → TopicEndpointInfo → TopicEndpointInfo) (text : CStr) (s : InfoState) :
    setText allocator position field text s = some (.ok (),
      { endpointsInfo := (s.endpointsInfo.modify position (field (some []))).modify position
          (field (some text))
        requests := s.requests + 2 }) := by
  unfold setText
  rw [bind_ok (request_granted grants s)]
  rw [bind_ok (a := ()) rfl]
  rw [bind_ok (request_granted grants _)]
  rfl

theorem addEntry_granted (grants : ∀ k, allocator k = true) (s : InfoState) :
    addEntry allocator s = some (.ok (),
      { endpointsInfo := s.endpointsInfo ++ [default], requests := s.requests + 1 }) := by
  unfold addEntry
  rw [bind_ok (request_granted grants s)]
  rw [bind_ok (a := { s with requests := s.requests + 1 }) rfl]
  dsimp only
  split <;> rfl

end InfoProg

/-- Writing to the entry that was added last. -/
theorem modify_last (entries : List TopicEndpointInfo) (entry : TopicEndpointInfo)
    (f : TopicEndpointInfo → TopicEndpointInfo) :
    (entries ++ [entry]).modify entries.length f = entries ++ [f entry] := by
  induction entries with
  | nil => rfl
  | cons first entries ih => exact congrArg (first :: ·) ih

open InfoProg in
/-- The entry of a pair as far as its type: the room for it and the two names of the node. -/
theorem addEndpointInfo_named {allocator : Allocator} (grants : ∀ k, allocator k = true)
    (kind : UInt8) (node : GraphNode) (entity : GraphEntity) (s : InfoState) :
    addEndpointInfo kinds allocator kind node entity s =
      (do
        setFirstType allocator s.endpointsInfo.length entity.types
        writeEntry s.endpointsInfo.length fun info =>
          { info with endpointType := endpointKindToEndpointType kinds kind } : InfoProg Unit)
        { endpointsInfo :=
            s.endpointsInfo ++ [⟨some node.nodeName, some node.nodeNamespace, none, .invalid⟩]
          requests := s.requests + 5 } := by
  unfold addEndpointInfo
  rw [bind_ok (a := s) rfl]
  rw [bind_ok (addEntry_granted grants s)]
  rw [bind_ok (setText_granted grants _ _ _ _)]
  rw [bind_ok (setText_granted grants _ _ _ _)]
  simp only [modify_last]
  rfl

open InfoProg in
variable (kinds) in
/-- **The entry of a pair.** An entity that lists a type gets its entry at the end of the array. -/
theorem addEndpointInfo_typed {allocator : Allocator} (grants : ∀ k, allocator k = true)
    (kind : UInt8) (node : GraphNode) (entity : GraphEntity) (typed : entity.types ≠ [])
    (s : InfoState) :
    addEndpointInfo kinds allocator kind node entity s = some (.ok (),
      { endpointsInfo := s.endpointsInfo ++ [endpointInfo kinds kind (node, entity)]
        requests := s.requests + 7 }) := by
  obtain ⟨firstType, others, types⟩ := List.exists_cons_of_ne_nil typed
  rw [addEndpointInfo_named grants, types]
  simp only [setFirstType]
  rw [bind_ok (setText_granted grants _ _ _ _)]
  simp only [modify_last, endpointInfo, types, List.head?_cons]
  refine (congrArg some (congrArg (Prod.mk _) ?_))
  simp only [modify_last]

/-- An entity that lists none is read all the same. -/
theorem addEndpointInfo_untyped {allocator : Allocator} (grants : ∀ k, allocator k = true)
    (kind : UInt8) (node : GraphNode) (entity : GraphEntity) (untyped : entity.types = [])
    (s : InfoState) : addEndpointInfo kinds allocator kind node entity s = none := by
  rw [addEndpointInfo_named grants, untyped]
  exact bind_crash rfl

/-! ## The loops -/

theorem forM_entities (allocator : Allocator) (kind : UInt8) (topicName : CStr) (node : GraphNode)
    (entities : List GraphEntity) :
    (entities.forM fun entity =>
      if topicName = entity.name ∧ kind = entity.entityType then
        addEndpointInfo kinds allocator kind node entity
      else pure ()) =
      ((entities.filter fun entity => topicName = entity.name ∧ kind = entity.entityType).map
        (node, ·)).forM fun pair => addEndpointInfo kinds allocator kind pair.1 pair.2 := by
  induction entities with
  | nil => rfl
  | cons entity entities ih =>
    rw [List.forM, ih]
    by_cases h : topicName = entity.name ∧ kind = entity.entityType
    · rw [List.filter_cons_of_pos (by simpa using h), if_pos h]
      rfl
    · rw [List.filter_cons_of_neg (by simpa using h), if_neg h, pure_bind]

/-- The two loops go through the matching pairs, in graph order. -/
theorem addEndpointInfos_eq (allocator : Allocator) (kind : UInt8) (topicName : CStr)
    (graph : Graph) :
    addEndpointInfos kinds allocator kind topicName graph =
      (graph.endpoints kind topicName).forM fun pair =>
        addEndpointInfo kinds allocator kind pair.1 pair.2 := by
  unfold addEndpointInfos Graph.endpoints
  simp only [forM_entities]
  induction graph.nodes with
  | nil => rfl
  | cons node nodes ih =>
    rw [List.forM, ih, List.flatMap_cons]
    exact (List.forM_append).symm

variable {allocator : Allocator}

/-- The run of the loop where every pair lists a type. -/
theorem addEndpointInfos_typed (grants : ∀ k, allocator k = true) (kind : UInt8)
    (pairs : List (GraphNode × GraphEntity)) (typed : ∀ pair ∈ pairs, pair.2.types ≠ [])
    (s : InfoState) :
    (pairs.forM fun pair => addEndpointInfo kinds allocator kind pair.1 pair.2) s =
      some (.ok (),
        { endpointsInfo := s.endpointsInfo ++ pairs.map (endpointInfo kinds kind)
          requests := s.requests + 7 * pairs.length }) := by
  induction pairs generalizing s with
  | nil =>
    show some (Except.ok (), s) = _
    simp
  | cons pair pairs ih =>
    have first := addEndpointInfo_typed kinds grants kind pair.1 pair.2
      (typed pair List.mem_cons_self) s
    refine (bind_ok first).trans ?_
    rw [ih fun p hp => typed p (List.mem_cons_of_mem _ hp)]
    simp only [List.append_assoc, List.singleton_append, List.map_cons, List.length_cons]
    congr 3
    omega

/-- The run of the loop where a pair lists none. -/
theorem addEndpointInfos_untyped (grants : ∀ k, allocator k = true) (kind : UInt8)
    (pairs : List (GraphNode × GraphEntity)) (untyped : ∃ pair ∈ pairs, pair.2.types = [])
    (s : InfoState) :
    (pairs.forM fun pair => addEndpointInfo kinds allocator kind pair.1 pair.2) s = none := by
  induction pairs generalizing s with
  | nil => simp at untyped
  | cons pair pairs ih =>
    by_cases h : pair.2.types = []
    · exact bind_crash (addEndpointInfo_untyped grants kind pair.1 pair.2 h s)
    · refine (bind_ok (addEndpointInfo_typed kinds grants kind pair.1 pair.2 h s)).trans ?_
      apply ih
      obtain ⟨other, mem, none⟩ := untyped
      obtain rfl | mem := List.mem_cons.mp mem
      · exact absurd none h
      · exact ⟨other, mem, none⟩

/-! ## The agreement -/

/-- Node `node` belongs to a context whose graph sample decodes to `graph`. -/
structure HasSample (ucdr : Ucdr β) (w : World) (node : Nat) (graph : Graph) : Prop where
  handle : (w.ent.node.custom node).rmwNode = ⟨some .eprosimaMicroxrcedds, some node⟩
  sample : ∃ context, (w.ent.node.custom node).context = some context ∧
    (w.buf.graphInfo context).initialized = true ∧
    rmwGraphFillDataFromBuffer ucdr (w.buf.graphInfo context) = some graph

theorem HasSample.of_facts {ucdr : Ucdr β} {w : World} {node c : Nat} {graph : Graph}
    (facts : (w.ent.node.custom node).rmwNode = ⟨some .eprosimaMicroxrcedds, some node⟩ ∧
      (w.ent.node.custom node).context = some c ∧ (w.buf.graphInfo c).initialized = true ∧
      rmwGraphFillDataFromBuffer ucdr (w.buf.graphInfo c) = some graph) : HasSample ucdr w node graph :=
  ⟨facts.1, c, facts.2⟩

/-- The publisher is one of the node, for the topic. -/
def World.PublisherOf (w : World) (publisher node : Nat) (topicName : CStr) : Prop :=
  (w.ent.publisher.custom publisher).rmwPublisher.data = some publisher ∧
    (w.ent.publisher.custom publisher).ownerNode = some node ∧
    (w.ent.publisher.custom publisher).topicName = topicName

/-- The subscription is one of the node, for the topic. -/
def World.SubscriptionOf (w : World) (subscription node : Nat) (topicName : CStr) : Prop :=
  (w.ent.subscription.custom subscription).rmwSubscription.data = some subscription ∧
    (w.ent.subscription.custom subscription).ownerNode = some node ∧
    (w.ent.subscription.custom subscription).topicName = topicName

/-- The six queries about a topic, with allocators for the two kinds of endpoint infos. -/
structure QueriesAgree (cfg : Config) (ucdr : Ucdr β) (kinds : EntityKinds)
    (allocator default : Allocator) (w : World) (node : Nat) (graph : Graph) (topicName : CStr) :
    Prop where
  countPublishers : ∀ count,
    rmwCountPublishers cfg ucdr kinds w (some node) (some topicName) (some count) =
      some (.ok, some (graph.endpoints kinds.publisher topicName).length)
  countSubscribers : ∀ count,
    rmwCountSubscribers cfg ucdr kinds w (some node) (some topicName) (some count) =
      some (.ok, some (graph.endpoints kinds.subscriber topicName).length)
  publishersInfo :
    rmwGetPublishersInfoByTopic cfg ucdr kinds w (some node) (some allocator) topicName (some []) =
      some (.ok, some ((graph.endpoints kinds.publisher topicName).map
        (endpointInfo kinds kinds.publisher)))
  subscriptionsInfo :
    rmwGetSubscriptionsInfoByTopic cfg ucdr kinds w (some node) (some allocator) topicName
        (some []) =
      some (.ok, some ((graph.endpoints kinds.subscriber topicName).map
        (endpointInfo kinds kinds.subscriber)))
  matchedSubscriptions : ∀ publisher count, w.PublisherOf publisher node topicName →
    rmwPublisherCountMatchedSubscriptions cfg ucdr kinds default w publisher count =
      some (.ok, (graph.endpoints kinds.subscriber topicName).length)
  matchedPublishers : ∀ subscription count, w.SubscriptionOf subscription node topicName →
    rmwSubscriptionCountMatchedPublishers cfg ucdr kinds default w subscription count =
      some (.ok, (graph.endpoints kinds.publisher topicName).length)

variable {w : World} {node : Nat} {graph : Graph}

/-- What the queries find when they follow the handle of the node. -/
theorem HasSample.graphInfo (h : HasSample ucdr w node graph) : ∃ graphInfo,
    w.graphInfoOf ⟨some .eprosimaMicroxrcedds, some node⟩ = some graphInfo ∧
      graphInfo.initialized = true ∧ rmwGraphFillDataFromBuffer ucdr graphInfo = some graph := by
  obtain ⟨context, own, initialized, decodes⟩ := h.sample
  exact ⟨_, by simp [World.graphInfoOf, own], initialized, decodes⟩

/-- Counting agrees with the graph, whatever the entities list. -/
theorem rmwCountEntities_spec (sample : HasSample ucdr w node graph) (kind : UInt8)
    (topicName : CStr) (count : Nat) :
    rmwCountEntities ucdr kind w (some node) (some topicName) (some count) =
      some (.ok, some (graph.endpoints kind topicName).length) := by
  obtain ⟨graphInfo, info, initialized, decodes⟩ := sample.graphInfo
  have counted := countNodes_eq kind topicName graph.nodes 0
  rw [Nat.zero_add] at counted
  simp [rmwCountEntities, sample.handle, info, initialized, decodes, counted]

theorem rmwGetEndpointInfoByTopic_eq (sample : HasSample ucdr w node graph) (kind : UInt8)
    (topicName : CStr) (allocator : Allocator) :
    rmwGetEndpointInfoByTopic ucdr kinds kind w (some node) (some allocator) topicName (some []) =
      (addEndpointInfos kinds allocator kind topicName graph ⟨[], 0⟩).map fun
        | (.ok _, s) => (.ok, some s.endpointsInfo)
        | (.error ret, s) => (ret, some s.endpointsInfo) := by
  obtain ⟨graphInfo, info, initialized, decodes⟩ := sample.graphInfo
  simp only [rmwGetEndpointInfoByTopic, sample.handle, info]
  simp only [Option.bind_eq_bind, Option.bind_some, initialized, if_true, decodes]
  cases addEndpointInfos kinds allocator kind topicName graph ⟨[], 0⟩ with
  | none => rfl
  | some r =>
    obtain ⟨_ | _, s⟩ := r
    · rfl
    · rfl

variable (kinds) in
/-- The infos are those of the matching pairs exactly when each of these lists a type. -/
theorem rmwGetEndpointInfoByTopic_iff (sample : HasSample ucdr w node graph) (kind : UInt8)
    (topicName : CStr) {allocator : Allocator} (grants : ∀ k, allocator k = true) :
    (rmwGetEndpointInfoByTopic ucdr kinds kind w (some node) (some allocator) topicName (some []) =
        some (.ok, some ((graph.endpoints kind topicName).map (endpointInfo kinds kind)))) ↔
      ∀ pair ∈ graph.endpoints kind topicName, pair.2.types ≠ [] := by
  rw [rmwGetEndpointInfoByTopic_eq sample, addEndpointInfos_eq]
  constructor
  · intro agree pair mem untyped
    rw [addEndpointInfos_untyped grants kind _ ⟨pair, mem, untyped⟩] at agree
    simp at agree
  · intro typed
    rw [addEndpointInfos_typed grants kind _ typed]
    simp

/-- **The queries on the graph agree** about a topic exactly when every publisher and subscriber of
the topic lists a type. -/
theorem queries_agree_iff_typed (profile : cfg.graph = true) {allocator default : Allocator}
    (grants : ∀ k, allocator k = true) (grantsDefault : ∀ k, default k = true)
    (sample : HasSample ucdr w node graph) (topicName : CStr) :
    QueriesAgree cfg ucdr kinds allocator default w node graph topicName ↔
      ∀ kind ∈ [kinds.publisher, kinds.subscriber], ∀ pair ∈ graph.endpoints kind topicName,
        pair.2.types ≠ [] := by
  constructor
  · intro agree kind mem
    obtain rfl | rfl : kind = kinds.publisher ∨ kind = kinds.subscriber := by simpa using mem
    · apply (rmwGetEndpointInfoByTopic_iff kinds sample _ topicName grants).1
      simpa only [rmwGetPublishersInfoByTopic, profile, if_true] using agree.publishersInfo
    · apply (rmwGetEndpointInfoByTopic_iff kinds sample _ topicName grants).1
      simpa only [rmwGetSubscriptionsInfoByTopic, profile, if_true] using agree.subscriptionsInfo
  · intro typed
    have publishers := typed kinds.publisher (by simp)
    have subscribers := typed kinds.subscriber (by simp)
    exact
      { countPublishers := fun count => by
          rw [rmwCountPublishers, if_pos profile, rmwCountEntities_spec sample]
        countSubscribers := fun count => by
          rw [rmwCountSubscribers, if_pos profile, rmwCountEntities_spec sample]
        publishersInfo := by
          rw [rmwGetPublishersInfoByTopic, if_pos profile]
          exact (rmwGetEndpointInfoByTopic_iff kinds sample _ topicName grants).2 publishers
        subscriptionsInfo := by
          rw [rmwGetSubscriptionsInfoByTopic, if_pos profile]
          exact (rmwGetEndpointInfoByTopic_iff kinds sample _ topicName grants).2 subscribers
        matchedSubscriptions := by
          rintro publisher count ⟨data, owner, rfl⟩
          have info := (rmwGetEndpointInfoByTopic_iff kinds sample _ _ grantsDefault).2
            subscribers
          simp [rmwPublisherCountMatchedSubscriptions, profile, data, owner,
            rmwGetSubscriptionsInfoByTopic, info, countMatched]
        matchedPublishers := by
          rintro subscription count ⟨data, owner, rfl⟩
          have info := (rmwGetEndpointInfoByTopic_iff kinds sample _ _ grantsDefault).2
            publishers
          simp [rmwSubscriptionCountMatchedPublishers, profile, data, owner,
            rmwGetPublishersInfoByTopic, info, countMatched] }

/-- The publisher of the small graph lists one type. -/
theorem queries_agree_typed :
    QueriesAgree Small.graphConfig cdr Small.kinds (fun _ => true) (fun _ => true)
      (run Small.graphConfig (Small.graphRun 1)).w 1 (Small.graphOf 1) ['t'] :=
  have sample : HasSample cdr (run Small.graphConfig (Small.graphRun 1)).w 1 (Small.graphOf 1) :=
    .of_facts (c := 1) (by decide +kernel)
  (queries_agree_iff_typed rfl (fun _ => rfl) (fun _ => rfl) sample _).2 (by decide +kernel)

/-- With a publisher that lists no type the count is one, and the query for the infos reads a type
that is not there. -/
theorem untyped_publisher_is_read :
    let w := (run Small.graphConfig (Small.graphRun 0)).w
    HasSample cdr w 1 (Small.graphOf 0) ∧
      rmwCountPublishers Small.graphConfig cdr Small.kinds w (some 1) (some ['t']) (some 0) =
        some (.ok, some 1) ∧
      rmwGetPublishersInfoByTopic Small.graphConfig cdr Small.kinds w (some 1)
        (some fun _ => true) ['t'] (some []) = none ∧
      ¬ QueriesAgree Small.graphConfig cdr Small.kinds (fun _ => true) (fun _ => true) w 1
        (Small.graphOf 0) ['t'] := by
  intro w
  -- the run is evaluated once
  have facts : ((w.ent.node.custom 1).rmwNode = ⟨some .eprosimaMicroxrcedds, some 1⟩ ∧
      (w.ent.node.custom 1).context = some 1 ∧ (w.buf.graphInfo 1).initialized = true ∧
        rmwGraphFillDataFromBuffer cdr (w.buf.graphInfo 1) = some (Small.graphOf 0)) ∧
      rmwCountPublishers Small.graphConfig cdr Small.kinds w (some 1) (some ['t']) (some 0) =
        some (.ok, some 1) ∧
      rmwGetPublishersInfoByTopic Small.graphConfig cdr Small.kinds w (some 1)
        (some fun _ => true) ['t'] (some []) = none := by
    decide +kernel
  obtain ⟨sample, count, read⟩ := facts
  refine ⟨.of_facts sample, count, read, fun agree => ?_⟩
  have entries := agree.publishersInfo
  rw [read] at entries
  simp at entries

end RmwMicroxrcedds
