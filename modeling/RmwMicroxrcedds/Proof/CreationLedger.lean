import RmwMicroxrcedds.Proof.TopicLedger
import RmwMicroxrcedds.Proof.Walks

/-!
# What the create functions do to the ledger

Everything a create function does between the access to the pool and its exit leaves the pools
alone, but for the topic it makes and the reference it stores. What the fail label does depends on
the topic the slot shows: the one just made, or none, or, when the function fails before it has
stored a topic of its own, the one an earlier occupant left behind.
-/

namespace RmwMicroxrcedds
set_option autoImplicit false

open Triples

variable {cfg : Config} {α β : Type}

/-! ## Programs that leave the ledger alone -/

/-- Neither the pools nor the topics have changed. -/
structure Still (s t : State) : Prop where
  pools : SamePools s.w.ent t.w.ent
  topics : SameTopics s.w.ent t.w.ent

instance : Std.Refl Still := ⟨fun _ => ⟨.refl _, .refl _⟩⟩

instance : IsTrans State Still := ⟨fun _ _ _ h k => ⟨h.pools.trans k.pools, h.topics.trans k.topics⟩⟩

theorem Still.of_ent {s t : State} (ent : t.w.ent = s.w.ent) : Still s t := by
  constructor <;> rw [ent]
  · exact .refl _
  · exact .refl _

/-- What leaves the entities alone leaves the ledger alone. -/
theorem EntFrame.still {s t : State} (h : EntFrame s t) : Still s t := .of_ent h.ent

theorem still_given (o : Owner) : Within Still (modify (·.mapGhost (·.given o))) := fun _ => .of_ent rfl

instance : SendsRequests cfg Still where
  ran session s := (uxrRunSession_frame cfg session s).still
  waited _ _ _ _ := .of_ent rfl
  asked context stream request s := (runXrceSession_frame cfg context stream request s).still

theorem still_writeSession (i : Nat) (f : Session → Session) :
    Within Still (writeElement .session i f) := fun _ =>
  ⟨⟨.refl _, .refl _, .refl _, .refl _, .refl _, fun _ => rfl, fun _ => rfl⟩, rfl, fun _ h => h⟩

theorem still_writeNode (i : Nat) {f : Node → Node}
    (keep : ∀ b, Element.handle (f b) = Element.handle b) : Within Still (writeElement .node i f) :=
  fun _ => ⟨⟨.update _ i keep, .refl _, .refl _, .refl _, .refl _, fun _ => rfl, fun _ => rfl⟩,
    rfl, fun _ h => h⟩

theorem still_writeService (i : Nat) {f : Service → Service}
    (keep : ∀ b, Element.handle (f b) = Element.handle b) : Within Still (writeElement .service i f) :=
  fun _ => ⟨⟨.refl _, .refl _, .refl _, .update _ i keep, .refl _, fun _ => rfl, fun _ => rfl⟩,
    rfl, fun _ h => h⟩

theorem still_writeClient (i : Nat) {f : Client → Client}
    (keep : ∀ b, Element.handle (f b) = Element.handle b) : Within Still (writeElement .client i f) :=
  fun _ => ⟨⟨.refl _, .refl _, .refl _, .refl _, .update _ i keep, fun _ => rfl, fun _ => rfl⟩,
    rfl, fun _ h => h⟩

/-- A write to a publisher that keeps its handle and its topic. -/
theorem still_writePublisher (i : Nat) {f : Publisher → Publisher}
    (keep : ∀ b, Element.handle (f b) = Element.handle b) (topic : ∀ b, (f b).topic = b.topic) :
    Within Still (writeElement .publisher i f) :=
  fun _ => ⟨⟨.refl _, .update _ i keep, .refl _, .refl _, .refl _, Slots.update_keep _ i topic,
    fun _ => rfl⟩, rfl, fun _ h => h⟩

theorem still_writeSubscription (i : Nat) {f : Subscription → Subscription}
    (keep : ∀ b, Element.handle (f b) = Element.handle b) (topic : ∀ b, (f b).topic = b.topic) :
    Within Still (writeElement .subscription i f) :=
  fun _ => ⟨⟨.refl _, .refl _, .update _ i keep, .refl _, .refl _, fun _ => rfl,
    Slots.update_keep _ i topic⟩, rfl, fun _ h => h⟩

/-- A write to a topic that keeps its owner. -/
theorem still_writeTopic (i : Nat) {f : Topic → Topic}
    (keep : ∀ b, (f b).ownerNode = b.ownerNode) : Within Still (writeElement .topic i f) :=
  fun s => ⟨⟨.refl _, .refl _, .refl _, .refl _, .refl _, fun _ => rfl, fun _ => rfl⟩, rfl,
    fun x h => by
      have same : ((s.w.ent.topic.update i f).custom x).ownerNode = (s.w.ent.topic.custom x).ownerNode :=
        Slots.update_keep _ i keep x
      exact same ▸ h⟩

/-! ## Topics -/

/-- The pools are those of `e`, and `ts` are the topics in use. -/
structure During (cfg : Config) (e : Entities) (size : Nat) (ts : List Nat) (s : State) : Prop where
  pools : SamePools e s.w.ent
  topics : Topics cfg size ts s.w.ent.topic

/-- The books stay right along a program that leaves the ledger alone. -/
theorem During.still {e : Entities} {size : Nat} {ts : List Nat} {s t : State}
    (h : During cfg e size ts s) (k : Still s t) : During cfg e size ts t :=
  ⟨h.pools.trans k.pools, h.topics.same k.topics⟩

/-- A program that leaves the ledger alone, followed by another. -/
theorem Within.during {e : Entities} {size : Nat} {ts : List Nat} {p : Prog α} {f : α → Prog β}
    {Q : β → State → Prop} (h : Within Still p) (next : ∀ a, Hoare (During cfg e size ts) (f a) Q) :
    Hoare (During cfg e size ts) (p >>= f) Q :=
  Triple.bind (h.hoare fun _ _ hs k => hs.still k) next

/-- A topic has just been handed out. -/
def Taken (cfg : Config) (e : Entities) (size : Nat) (ts : List Nat) (topic : Nat) (s : State) : Prop :=
  SamePools e s.w.ent ∧
    ∃ t, Topics cfg size ts t ∧ t.get.1 = some topic ∧ s.w.ent.topic = t.get.2

section Topic

variable {e : Entities} {size : Nat} {ts : List Nat} {customNode : Nat} {topicName : CStr}
  {members : MessageTypeSupportCallbacks}

/-- With its owner written, the topic handed out is one of those in use. -/
theorem createTopicBody_hoare {topic : Nat} :
    Hoare (Taken cfg e size ts topic) (createTopicBody cfg customNode topicName members topic)
      fun _ => During cfg e size (topic :: ts) := by
  unfold createTopicBody
  refine Triple.bind (M := fun _ => During cfg e size (topic :: ts)) (Hoare.of ?_) fun _ => ?_
  · rintro s ⟨pools, t, topics, slot, taken⟩
    constructor
    · exact pools.trans ⟨.refl _, .refl _, .refl _, .refl _, .refl _, fun _ => rfl, fun _ => rfl⟩
    · have owned := topics.take slot (f := fun t =>
        { t with ownerNode := some customNode, messageTypeSupportCallbacks := some members }) (by simp)
      rw [← taken] at owned
      exact owned
  · refine Within.during (walk_contextOf customNode) fun context => ?_
    refine Within.during (walk_postIncrement still_writeSession _ _ _) fun id => ?_
    refine Within.during (still_writeTopic topic fun _ => rfl) fun _ => ?_
    refine Within.during (walk_readElement .node customNode) fun node => ?_
    dsimp only
    split
    · exact Triple.pure fun _ h => h
    · refine Within.during (walk_readElement .session context) fun session => ?_
      exact (SendsRequests.asked _ _ _ : Within Still _).hoare fun _ _ h k => h.still k

/-- A release takes it from the books again. -/
theorem finiTopic_hoare {topic : Nat} :
    Hoare (During cfg e size (topic :: ts)) (rmwUxrceFiniTopicMemory topic)
      fun _ => During cfg e size ts := .of fun s h => by
  have released := h.topics.release (x := topic) List.mem_cons_self
  rw [List.erase_cons_head] at released
  exact ⟨h.pools.trans (Endpoint.samePools_finiTopic topic _), released⟩

/-- `create_topic`. -/
theorem createTopic_hoare :
    Hoare (During cfg e size ts) (createTopic cfg customNode topicName members)
      fun topic => During cfg e size (topic.toList ++ ts) := by
  unfold createTopic
  refine .of fun s h => ?_
  cases slot : s.w.ent.topic.get.1 with
  | none =>
    rw [Prog.bind_run, getMemory_none .topic h.topics.ok slot]
    exact h
  | some topic =>
    rw [Prog.bind_run, getMemory_some .topic slot]
    have rest : Hoare (Taken cfg e size ts topic)
        (do
          if ← createTopicBody cfg customNode topicName members topic then return some topic
          else
            rmwUxrceFiniTopicMemory topic
            return none)
        fun topic => During cfg e size (topic.toList ++ ts) := by
      refine Triple.bind createTopicBody_hoare fun created => Triple.ite (fun _ => ?_) fun _ => ?_
      · exact Triple.pure fun _ h => h
      · exact Triple.bind finiTopic_hoare fun _ => Triple.pure fun _ h => h
    refine (rest _ ⟨?_, s.w.ent.topic, h.topics, slot, rfl⟩).2
    exact h.pools.trans ⟨.refl _, .refl _, .refl _, .refl _, .refl _, fun _ => rfl, fun _ => rfl⟩

end Topic

/-! ## The bodies of the create functions -/

/-- What a body that reaches `create_topic` leaves: the slot shows the topic made, or none. -/
def Stored [Element β] (ep : Endpoint β) (cfg : Config) (e : Entities) (size : Nat) (ts : List Nat)
    (i : Nat) (created : Bool) (s : State) : Prop :=
  ∃ x, During cfg (ep.place i x e) size (x.toList ++ ts) s ∧ (created = true → x ≠ none)

section Bodies

variable {e : Entities} {size : Nat} {ts : List Nat} {customNode : Nat} {topicName : CStr}
  {members : MessageTypeSupportCallbacks} {qosPolicies : RmwQosProfile} {i : Nat}

/-- Storing the result of `create_topic`. -/
theorem place_hoare [Element β] (ep : Endpoint β) {x : Option Nat} {f : β → β}
    (set : f = ep.withTopic x) :
    Hoare (During cfg e size (x.toList ++ ts)) (writeElement ep.kind i f)
      fun _ => During cfg (ep.place i x e) size (x.toList ++ ts) := .of fun s h => by
  rw [set]
  have ent : (writeElement ep.kind i (ep.withTopic x) s).2.w.ent = ep.place i x s.w.ent := rfl
  constructor
  · rw [ent]
    exact ep.place_congr i x h.pools
  · rw [ent, Endpoint.place, ep.topics_withSlots]
    exact h.topics

/-- A publisher ends up with the topic made for it, or with none. -/
theorem createPublisherBody_hoare (fits : ¬ cfg.topicNameMaxLength < topicName.length + 1) :
    Hoare (During cfg e size ts)
      (createPublisherBody cfg customNode (.callbacks members) topicName qosPolicies i)
      (Stored .publisher cfg e size ts i) := by
  rw [createPublisherBody, if_neg fits]
  refine Within.during (still_writePublisher i (fun _ => rfl) fun _ => rfl) fun _ => ?_
  refine Within.during (still_writePublisher i (fun _ => rfl) fun _ => rfl) fun _ => ?_
  refine Triple.bind createTopic_hoare fun x => ?_
  refine Triple.bind (place_hoare .publisher rfl) fun _ => ?_
  cases x with
  | none => exact Triple.pure fun s h => ⟨none, h, by simp⟩
  | some x =>
    have objects : Within Still (createPublisherObjects cfg customNode topicName i) :=
      walk_createPublisherObjects still_writeSession fun _ keep topic => still_writePublisher i keep topic
    refine Triple.weaken (objects.hoare fun _ _ h k => h.still k) ?_
    exact fun created s h => ⟨some x, h, by simp⟩

/-- So does a subscription. -/
theorem createSubscriptionBody_hoare (fits : ¬ cfg.topicNameMaxLength < topicName.length + 1) :
    Hoare (During cfg e size ts)
      (createSubscriptionBody cfg customNode (.callbacks members) topicName qosPolicies i)
      (Stored .subscription cfg e size ts i) := by
  rw [createSubscriptionBody, if_neg fits]
  refine Within.during (still_writeSubscription i (fun _ => rfl) fun _ => rfl) fun _ => ?_
  refine Within.during (still_writeSubscription i (fun _ => rfl) fun _ => rfl) fun _ => ?_
  refine Triple.bind createTopic_hoare fun x => ?_
  refine Triple.bind (place_hoare .subscription rfl) fun _ => ?_
  cases x with
  | none => exact Triple.pure fun s h => ⟨none, h, by simp⟩
  | some x =>
    have objects : Within Still (createSubscriptionObjects cfg customNode topicName i) :=
      walk_createSubscriptionObjects still_writeSession still_given fun _ keep topic =>
        still_writeSubscription i keep topic
    refine Triple.weaken (objects.hoare fun _ _ h k => h.still k) ?_
    exact fun created s h => ⟨some x, h, by simp⟩

end Bodies

end RmwMicroxrcedds
