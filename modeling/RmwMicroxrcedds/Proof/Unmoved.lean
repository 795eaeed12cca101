import RmwMicroxrcedds.Proof.Frames

/-!
# What no call changes, not even for a while

A view of the entities is unmoved along a program if it is at the end what it was at the start, and was the same
at every moment the program recorded. A view that looks at no list of a pool, and of the elements at no more
than the records of publishers, subscriptions, services and clients without their handles, is unmoved along
every call that creates none of these. A creation writes the record of its own element.
-/

namespace RmwMicroxrcedds
set_option autoImplicit false

open Triples

variable {cfg : Config} {α β γ δ : Type} {v : Entities → γ}

/-- The view is the same at the end, and was so at the moments recorded on the way. -/
structure Unmoved (v : Entities → γ) (s t : State) : Prop where
  same : v t.w.ent = v s.w.ent
  seen : ∃ newer, t.trace = newer ++ s.trace ∧ ∀ m ∈ newer, v m.world.ent = v s.w.ent

instance : Std.Refl (Unmoved v) := ⟨fun _ => ⟨rfl, [], rfl, fun _ hm => absurd hm List.not_mem_nil⟩⟩

instance : IsTrans State (Unmoved v) := ⟨fun s t u h k => by
  obtain ⟨first, trace, saw⟩ := h.seen
  obtain ⟨next, trace', saw'⟩ := k.seen
  refine ⟨k.same.trans h.same, next ++ first, ?_, ?_⟩
  · rw [trace', trace, List.append_assoc]
  · intro m hm
    rcases List.mem_append.1 hm with new | old
    · exact (saw' m new).trans h.same
    · exact saw m old⟩

/-- Nothing is recorded, and the view is the same. -/
theorem Unmoved.silent {s t : State} (same : v t.w.ent = v s.w.ent) (trace : t.trace = s.trace) :
    Unmoved v s t := ⟨same, [], trace, fun _ hm => absurd hm List.not_mem_nil⟩

/-- One moment is recorded, which sees the world as it is. -/
theorem Unmoved.recorded {s t : State} {m : Moment} (same : t.w.ent = s.w.ent) (world : m.world = s.w)
    (trace : t.trace = m :: s.trace) : Unmoved v s t := by
  refine ⟨by rw [same], [m], trace, ?_⟩
  intro m' hm
  rw [List.mem_singleton.1 hm, world]

instance : Outer (Unmoved v) where
  silent ent trace := .silent (congrArg v ent) trace
  recorded := .recorded

/-! ## Pools -/

/-- Of a pool the view looks at most at `r` of the elements. -/
def Sees (v : Entities → γ) (k : Kind β) (r : β → δ) : Prop :=
  ∀ (e : Entities) (u : Slots β), (∀ i, r (u.custom i) = r ((k.slots e).custom i)) →
    v (k.withSlots u e) = v e

section Pool

variable {k : Kind β} {r : β → δ} (sees : Sees v k r)
include sees

/-- A write that keeps what the view looks at. -/
protected theorem Sees.write {f : β → β} (keeps : ∀ b, r (f b) = r b) (i : Nat) :
    Within (Unmoved v) (writeElement k i f) := fun s => by
  apply Unmoved.silent
  · apply sees
    intro j
    by_cases e : j = i
    · rw [e, Slots.update_custom_self, keeps]
    · rw [Slots.update_custom_of_ne _ _ e]
  · rfl

protected theorem Sees.get : Within (Unmoved v) (getMemory k) := fun s => by
  apply Unmoved.silent
  · exact sees _ _ fun _ => rfl
  · rfl

variable [Element β] (bare : ∀ h b, r (Element.withHandle h b) = r b)
include bare

/-- Taking an element fills in its handle, which the view does not look at. -/
protected theorem Sees.acquire {enter : β → β} (keeps : ∀ b, r (enter b) = r b) :
    Within (Unmoved v) (acquire k enter) := by
  refine Within.bind sees.get fun slot => ?_
  cases slot with
  | none => exact .pure
  | some i =>
    have written : ∀ b, r (Element.withHandle ⟨some .eprosimaMicroxrcedds, some i⟩ (enter b)) = r b :=
      fun b => (bare _ _).trans (keeps b)
    exact Within.bind (sees.write written i) fun _ => .pure

omit sees in
theorem Slots.fini_seen {clear : β → β} (keeps : ∀ b, r (clear b) = r b) (t : Slots β) (i j : Nat) :
    r ((t.fini clear i).custom j) = r (t.custom j) := by
  have updated : ∀ (t : Slots β) (i : Nat) (f : β → β), (∀ b, r (f b) = r b) → ∀ j,
      r ((t.update i f).custom j) = r (t.custom j) := by
    intro t i f h j
    by_cases e : j = i
    · rw [e, Slots.update_custom_self, h]
    · rw [Slots.update_custom_of_ne _ _ e]
  rw [Slots.fini]
  dsimp only
  split
  · rw [updated _ _ _ fun b => bare _ b]
  · rw [updated _ _ _ fun b => bare _ b, Slots.put_custom, updated _ _ _ keeps, updated _ _ _ fun b => bare _ b]

protected theorem Sees.fini {clear : β → β} (keeps : ∀ b, r (clear b) = r b) (i : Nat) :
    Within (Unmoved v) (finiMemory k clear i) := by
  have released : Within (Unmoved v)
      (modify (·.mapEnt fun e => k.withSlots ((k.slots e).fini clear i) e) : Prog Unit) := fun s => by
    apply Unmoved.silent
    · exact sees _ _ fun j => Slots.fini_seen bare keeps _ i j
    · rfl
  refine Within.bind (walk_readElement _ _) fun b => Within.ite ?_ .pure
  dsimp only
  split
  · exact Within.bind (outer_record _) fun _ => released
  · exact released

end Pool

/-! ## Views that look at the records of entities only -/

/-- The record of an entity without the handle embedded in it. -/
def Publisher.record (p : Publisher) : Publisher := { p with rmwPublisher := default }

def Subscription.record (p : Subscription) : Subscription := { p with rmwSubscription := default }

def Service.record (p : Service) : Service := { p with rmwService := default }

def Client.record (p : Client) : Client := { p with rmwClient := default }

/-- The view looks at no more than the records of entities. -/
structure Records (v : Entities → γ) : Prop where
  session : Sees v .session fun _ => ()
  node : Sees v .node fun _ => ()
  topic : Sees v .topic fun _ => ()
  guardCondition : Sees v .guardCondition fun _ => ()
  publisher : Sees v .publisher Publisher.record
  subscription : Sees v .subscription Subscription.record
  service : Sees v .service Service.record
  client : Sees v .client Client.record

/-- A pool of which the view looks at no element is overlooked. -/
theorem Sees.overlooks {k : Kind β} (sees : Sees v k fun _ => ()) : Overlooks (Unmoved v) k := fun s u =>
  .silent (sees s.w.ent u fun _ => rfl) rfl

section Records

variable (records : Records v)
include records

theorem Records.topics : WorksOnTopics (Unmoved v) := records.topic.overlooks.topics

/-- **A release** leaves the record in its element. -/
theorem Records.releases : Releases (Unmoved v) where
  node i := records.node.overlooks.fini _ i
  publisher i := records.publisher.fini (fun _ _ => rfl) (fun _ => rfl) i
  subscription i := records.subscription.fini (fun _ _ => rfl) (fun _ => rfl) i
  service i := records.service.fini (fun _ _ => rfl) (fun _ => rfl) i
  client i := records.client.fini (fun _ _ => rfl) (fun _ => rfl) i
  topic := records.topics.fini

/-! ## The first call -/

/-- The first `rmw_init` lays out the pools, and leaves the elements as they are. -/
theorem Records.initPools : Within (Unmoved v) (initPools cfg) := fun s => by
  refine .silent ?_ rfl
  let e₁ := Kind.node.withSlots (s.w.ent.node.init cfg.maxNodes) s.w.ent
  let e₂ := Kind.subscription.withSlots (s.w.ent.subscription.init cfg.maxSubscriptions) e₁
  let e₃ := Kind.publisher.withSlots (s.w.ent.publisher.init cfg.maxPublishers) e₂
  let e₄ := Kind.service.withSlots (s.w.ent.service.init cfg.maxServices) e₃
  let e₅ := Kind.client.withSlots (s.w.ent.client.init cfg.maxClients) e₄
  let e₆ := Kind.topic.withSlots (s.w.ent.topic.init cfg.maxTopicsInternal) e₅
  calc v (Kind.guardCondition.withSlots (s.w.ent.guardCondition.init cfg.maxGuardCondition) e₆)
      = v e₆ := records.guardCondition e₆ _ fun _ => rfl
    _ = v e₅ := records.topic e₅ _ fun _ => rfl
    _ = v e₄ := records.client e₄ _ fun _ => rfl
    _ = v e₃ := records.service e₃ _ fun _ => rfl
    _ = v e₂ := records.publisher e₂ _ fun _ => rfl
    _ = v e₁ := records.subscription e₁ _ fun _ => rfl
    _ = v s.w.ent := records.node _ _ fun _ => rfl

/-- **`rmw_init`** -/
theorem Records.rmwInit (env : InitEnvironment) : Within (Unmoved v) (rmwInit cfg env) := by
  have sessions : Overlooks (Unmoved v) .session := records.session.overlooks
  have fail : ∀ {context : Nat} {held : Bool} {r : RmwRet × Option Nat}, Within (Unmoved v) (do
      initFail cfg context held
      return r : Prog (RmwRet × Option Nat)) := fun {context held r} =>
    Within.bind (frame_initFail sessions _ _) fun _ => .pure
  have first : Within (Unmoved v) (initFirstPools cfg) := by
    refine Within.bind (fun s => ?_) fun _ => fun s => .silent rfl rfl
    exact .silent (records.session _ (s.w.ent.session.init cfg.maxSessions) fun _ => rfl) rfl
  unfold RmwMicroxrcedds.rmwInit
  refine Within.bind first fun _ => Within.bind sessions.get fun slot => ?_
  cases slot with
  | none => exact .pure
  | some context =>
    refine Within.bind (sessions.write _ _) fun _ => Within.bind records.initPools fun _ => ?_
    refine Within.bind (fun _ => .recorded rfl rfl rfl) fun _ => Within.ite fail ?_
    refine Within.bind (outer_uxrRunSession _) fun confirmed => Within.ite ?_ fail
    refine Within.ite ?_ .pure
    refine Within.bind (frame_rmwGraphInit sessions _ _) fun ret => Within.ite ?_ .pure
    exact Within.bind (outer_uxrRunSession _) fun _ => .pure

end Records

end RmwMicroxrcedds
