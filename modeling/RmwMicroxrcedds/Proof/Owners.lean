import RmwMicroxrcedds.Proof.Effects

/-!
# Creating and releasing the entities that own buffers

Subscriptions, services and clients go through the same atomic actions: the element is handed out,
it gets its node, then the id by which the callbacks know it, and at last it is released. The rules
are stated once for the three pools.
-/

namespace RmwMicroxrcedds
set_option autoImplicit false

open Triples

variable {cfg : Config} {α β : Type}

/-! ## Sound programs -/

/-- A program that keeps the invariant, action by action, and stays within its call. -/
structure Sound (cfg : Config) (p : Prog α) : Prop where
  run : ∀ s, Wf cfg s → Path cfg s (p s).2 ∧ Wf cfg (p s).2 ∧ (p s).2.call = s.call

theorem Calm.sound {p : Prog α} (h : Calm cfg p) : Sound cfg p := ⟨fun s wf =>
  have ⟨path, wf', benign⟩ := h.run s wf
  ⟨path, wf', benign.call⟩⟩

theorem Sound.pure {a : α} : Sound cfg (Pure.pure a) := Calm.pure.sound

theorem Sound.bind {p : Prog α} {f : α → Prog β} (hp : Sound cfg p) (hf : ∀ a, Sound cfg (f a)) :
    Sound cfg (p >>= f) := ⟨fun s wf =>
  have ⟨path, wf', call⟩ := hp.run s wf
  have ⟨path', wf'', call'⟩ := (hf _).run _ wf'
  ⟨path.trans path', wf'', call'.trans call⟩⟩

/-! ## The three pools -/

/-- A pool whose elements can own static buffers. -/
structure Owning (cfg : Config) [Element β] (k : Kind β) where
  capacity : Nat
  address : Nat → Owner
  ownerNode : β → Option Nat
  owner_eq : ∀ i, k.owner i = some (address i)
  address_injective : ∀ i j, address i = address j → i = j
  ownerNode_handle : ∀ h b, ownerNode (Element.withHandle h b) = ownerNode b
  ok : ∀ s, Wf cfg s → (k.slots s.w.ent).Ok capacity
  handles : ∀ s, Wf cfg s → Handles (k.slots s.w.ent)
  node : ∀ t e, (k.withSlots t e).node = e.node
  alive_iff : ∀ e i, e.Alive (address i) ↔ i ∈ (k.slots e).elements
  alive_other : ∀ t e o, (∀ i, o ≠ address i) → ((k.withSlots t e).Alive o ↔ e.Alive o)
  ownerNode_eq : ∀ e i, e.ownerNode (address i) = ownerNode ((k.slots e).custom i)
  ownerNode_other : ∀ t e o, (∀ i, o ≠ address i) → (k.withSlots t e).ownerNode o = e.ownerNode o
  /-- another pool of this kind with other history variables -/
  set : ∀ (s : State) (t : Slots β) (g : Ghost), Wf cfg s → t.Ok capacity → Handles t →
    (∀ o, (k.withSlots t s.w.ent).Alive o → g.givenIn o ≠ none →
      ∃ n ∈ s.w.ent.node.elements, (k.withSlots t s.w.ent).ownerNode o = some n) →
    Wf cfg ((s.mapEnt (k.withSlots t)).mapGhost fun _ => g)

def owningSubscription (cfg : Config) : Owning cfg .subscription where
  capacity := cfg.maxSubscriptions
  address := .subscription
  ownerNode := (·.ownerNode)
  owner_eq _ := rfl
  address_injective _ _ := Owner.subscription.inj
  ownerNode_handle _ _ := rfl
  ok _ wf := wf.subscription
  handles _ wf := wf.subscriptionHandles
  node _ _ := rfl
  alive_iff _ _ := Iff.rfl
  alive_other _ _ o h := by
    cases o with
    | subscription i => exact absurd rfl (h i)
    | _ => exact Iff.rfl
  ownerNode_eq _ _ := rfl
  ownerNode_other _ _ o h := by
    cases o with
    | subscription i => exact absurd rfl (h i)
    | _ => rfl
  set _ _ _ wf ok handles owner :=
    { wf with subscription := ok, subscriptionHandles := handles, owner := owner }

def owningService (cfg : Config) : Owning cfg .service where
  capacity := cfg.maxServices
  address := .service
  ownerNode := (·.ownerNode)
  owner_eq _ := rfl
  address_injective _ _ := Owner.service.inj
  ownerNode_handle _ _ := rfl
  ok _ wf := wf.service
  handles _ wf := wf.serviceHandles
  node _ _ := rfl
  alive_iff _ _ := Iff.rfl
  alive_other _ _ o h := by
    cases o with
    | service i => exact absurd rfl (h i)
    | _ => exact Iff.rfl
  ownerNode_eq _ _ := rfl
  ownerNode_other _ _ o h := by
    cases o with
    | service i => exact absurd rfl (h i)
    | _ => rfl
  set _ _ _ wf ok handles owner :=
    { wf with service := ok, serviceHandles := handles, owner := owner }

def owningClient (cfg : Config) : Owning cfg .client where
  capacity := cfg.maxClients
  address := .client
  ownerNode := (·.ownerNode)
  owner_eq _ := rfl
  address_injective _ _ := Owner.client.inj
  ownerNode_handle _ _ := rfl
  ok _ wf := wf.client
  handles _ wf := wf.clientHandles
  node _ _ := rfl
  alive_iff _ _ := Iff.rfl
  alive_other _ _ o h := by
    cases o with
    | client i => exact absurd rfl (h i)
    | _ => exact Iff.rfl
  ownerNode_eq _ _ := rfl
  ownerNode_other _ _ o h := by
    cases o with
    | client i => exact absurd rfl (h i)
    | _ => rfl
  set _ _ _ wf ok handles owner :=
    { wf with client := ok, clientHandles := handles, owner := owner }

namespace Owning

variable [Element β] {k : Kind β} (own : Owning cfg k)

/-- The owner clause of the invariant when only elements of this pool are touched. -/
theorem owner_clause {s : State} (wf : Wf cfg s) {t : Slots β} {g : Ghost}
    (here : ∀ i, i ∈ t.elements → g.givenIn (own.address i) ≠ none →
      ∃ n ∈ s.w.ent.node.elements, own.ownerNode (t.custom i) = some n)
    (there : ∀ o, (∀ i, o ≠ own.address i) → g.givenIn o = s.ghost.givenIn o) :
    ∀ o, (k.withSlots t s.w.ent).Alive o → g.givenIn o ≠ none →
      ∃ n ∈ s.w.ent.node.elements, (k.withSlots t s.w.ent).ownerNode o = some n := by
  intro o alive given
  by_cases h : ∃ i, o = own.address i
  · obtain ⟨i, rfl⟩ := h
    rw [own.alive_iff, k.slots_withSlots] at alive
    obtain ⟨n, hn, e⟩ := here i alive given
    exact ⟨n, hn, by rw [own.ownerNode_eq, k.slots_withSlots, e]⟩
  · have h' : ∀ i, o ≠ own.address i := fun i e => h ⟨i, e⟩
    rw [own.alive_other t _ o h'] at alive
    rw [there o h'] at given
    rw [own.ownerNode_other t _ o h']
    exact wf.owner o alive given

/-- Which entities are in use after the pool has changed. -/
theorem alive_set {s : State} {t : Slots β} {m : Nat → Prop}
    (h : ∀ j, j ∈ t.elements ↔ m j) (o : Owner) (other : Prop)
    (same : (∀ j, o ≠ own.address j) → (other ↔ s.w.ent.Alive o))
    (here : ∀ j, o = own.address j → (m j ↔ other)) :
    (k.withSlots t s.w.ent).Alive o ↔ other := by
  by_cases ho : ∃ j, o = own.address j
  · obtain ⟨j, rfl⟩ := ho
    rw [own.alive_iff, k.slots_withSlots, h]
    exact here j rfl
  · have ho' : ∀ j, o ≠ own.address j := fun j e => ho ⟨j, e⟩
    rw [own.alive_other t _ o ho', same ho']

/-- What holds of an element between `get_memory` and the assignment of its node. -/
structure Held (o : Owner) (n : Nat) (s : State) : Prop where
  node : n ∈ s.w.ent.node.elements
  fresh : s.ghost.givenIn o = none

/-- What holds of it until its id is assigned. -/
structure Adopted (o : Owner) (n : Nat) (s : State) : Prop extends Held o n s where
  owner : s.w.ent.ownerNode o = some n

theorem Held.stable {o : Owner} {n : Nat} {s t : State} (h : Held o n s) (b : Benign s t) :
    Held o n t := ⟨b.node ▸ h.node, by rw [b.givenIn, h.fresh]⟩

theorem Adopted.stable {o : Owner} {n : Nat} {s t : State} (h : Adopted o n s) (b : Benign s t) :
    Adopted o n t := ⟨h.toHeld.stable b, (b.ownerNode o).trans h.owner⟩

/-- `acquire` of an owner's element. -/
theorem acquire_run {s : State} (wf : Wf cfg s) {n : Nat} (hn : n ∈ s.w.ent.node.elements) :
    (acquire k id s = (none, s)) ∨
    ∃ i t, acquire k id s = (some i, t) ∧ Path cfg s t ∧ Wf cfg t ∧ t.call = s.call ∧
      Held (own.address i) n t := by
  cases h : (k.slots s.w.ent).get.1 with
  | none => exact .inl (acquire_none k id (own.ok s wf) h)
  | some i =>
    obtain ⟨ok, free, -, elements⟩ := (own.ok s wf).get_some h
    set t := (k.slots s.w.ent).opened i id
    have telements : ∀ j, j ∈ t.elements ↔ j = i ∨ j ∈ (k.slots s.w.ent).elements := fun j => by
      rw [← List.mem_cons, ← elements]
      exact Iff.rfl
    have handOut : k.handOut i s.ghost = s.ghost.handedOut (own.address i) := by
      rw [Kind.handOut, own.owner_eq]
    have keep : ∀ j, own.ownerNode (t.custom j) = own.ownerNode ((k.slots s.w.ent).custom j) :=
      fun j => Slots.update_keep (k.slots s.w.ent).get.2 i (own.ownerNode_handle _) j
    have wf' : Wf cfg ((s.mapEnt (k.withSlots t)).mapGhost (k.handOut i)) := by
      refine own.set s t (k.handOut i s.ghost) wf (ok.update _ _)
        ((own.handles s wf).opened (own.ok s wf) h id) (own.owner_clause wf ?_ ?_)
      · intro j hj given
        rw [handOut] at given
        have ne : own.address j ≠ own.address i := fun e => given (if_pos e)
        have given' : s.ghost.givenIn (own.address j) ≠ none := fun e => given ((if_neg ne).trans e)
        have alive : s.Alive (own.address j) := (own.alive_iff _ _).2
          (((telements j).1 hj).resolve_left fun e => ne (e ▸ rfl))
        rw [keep, ← own.ownerNode_eq]
        exact wf.owner _ alive given'
      · intro o ho
        rw [handOut]
        exact if_neg (ho i)
    refine .inr ⟨i, _, acquire_some k id h, .single ⟨wf, wf', ?_⟩, wf', rfl, ?_⟩
    · refine .acquire (own.address i) ⟨rfl, rfl, rfl, ?_, ?_, rfl⟩ ?_ (fun o => ?_) handOut rfl
      · exact (congrArg Ghost.source handOut).trans rfl
      · exact (congrArg Ghost.rx handOut).trans rfl
      · exact fun alive => free ((own.alive_iff _ _).1 alive)
      · refine own.alive_set telements o _ (fun ho => ?_) fun j e => ?_
        · exact ⟨fun h => h.resolve_left (ho i), .inr⟩
        · subst e
          exact or_congr ⟨fun e => e ▸ rfl, own.address_injective _ _⟩ (own.alive_iff _ _).symm
    · refine ⟨?_, ?_⟩
      · exact (congrArg (fun t : Slots Node => n ∈ t.elements) (own.node t s.w.ent)).mpr hn
      · exact (congrArg (fun g : Ghost => g.givenIn (own.address i)) handOut).trans (if_pos rfl)

/-- The assignment of the node. -/
theorem adopt_run {s : State} (wf : Wf cfg s) {n i : Nat} (held : Held (own.address i) n s)
    {f : β → β} (keep : ∀ b, Element.handle (f b) = Element.handle b)
    (owner : ∀ b, own.ownerNode (f b) = some n) :
    let t := (writeElement k i f s).2
    Path cfg s t ∧ Wf cfg t ∧ t.call = s.call ∧ Adopted (own.address i) n t := by
  set t := (k.slots s.w.ent).update i f
  have e : (writeElement k i f s).2 = s.mapEnt (k.withSlots t) := rfl
  have wf' : Wf cfg (s.mapEnt (k.withSlots t)) := by
    refine own.set s t s.ghost wf ((own.ok s wf).update _ _) ((own.handles s wf).update i keep)
      (own.owner_clause wf ?_ fun _ _ => rfl)
    intro j hj given
    have ne : j ≠ i := fun e => given (e ▸ held.fresh)
    rw [Slots.update_custom_of_ne _ _ ne, ← own.ownerNode_eq]
    exact wf.owner _ ((own.alive_iff _ _).2 hj) given
  have alive : ∀ o, (s.mapEnt (k.withSlots t)).Alive o ↔ s.Alive o := fun o =>
    own.alive_set (s := s) (t := t) (m := fun j => j ∈ (k.slots s.w.ent).elements)
      (fun _ => Iff.rfl) o _
      (fun _ => Iff.rfl) fun j e => by
        subst e
        exact (own.alive_iff _ _).symm
  rw [e]
  refine ⟨.single ⟨wf, wf', .quiet ⟨rfl, rfl, rfl, rfl, rfl, rfl⟩ ⟨alive, rfl, rfl, rfl⟩ rfl⟩, wf',
    rfl, ⟨?_, held.fresh⟩, ?_⟩
  · exact (congrArg (fun t : Slots Node => n ∈ t.elements) (own.node t s.w.ent)).mpr held.node
  · refine (own.ownerNode_eq _ i).trans ?_
    have := congrArg (fun t : Slots β => own.ownerNode (t.custom i)) (k.slots_withSlots t s.w.ent)
    refine this.trans ?_
    rw [Slots.update_custom_self, owner]

/-- The release of an element. -/
theorem fini_sound (own : Owning cfg k) (i : Nat) : Sound cfg (finiMemory k id i) := ⟨fun s wf => by
  by_cases h : i ∈ (k.slots s.w.ent).elements
  · obtain ⟨ok, handles, elements, others⟩ :=
      (own.ok s wf).fini (own.handles s wf) h id fun _ => rfl
    have nodup := (own.ok s wf).nodup
    set t := (k.slots s.w.ent).fini id i
    have e : finiMemory k id i s = ((), (s.record (.release (own.address i))).mapEnt (k.withSlots t)) := by
      rw [finiMemory_of_mem k id (own.handles s wf) h, Kind.released, own.owner_eq]
      rfl
    have telements : ∀ j, j ∈ t.elements ↔ j ≠ i ∧ j ∈ (k.slots s.w.ent).elements := fun j => by
      rw [elements, nodup.mem_erase_iff]
    have wf' : Wf cfg ((s.record (.release (own.address i))).mapEnt (k.withSlots t)) := by
      have wf₁ : Wf cfg (s.record (.release (own.address i))) := { wf with }
      refine own.set _ t s.ghost wf₁ ok handles (own.owner_clause wf₁ ?_ fun _ _ => rfl)
      intro j hj given
      obtain ⟨ne, mem⟩ := (telements j).1 hj
      rw [others j ne, ← own.ownerNode_eq]
      exact wf.owner _ ((own.alive_iff _ _).2 mem) given
    rw [e]
    refine ⟨.single ⟨wf, wf', ?_⟩, wf', rfl⟩
    refine .release (own.address i) ⟨rfl, rfl, rfl, rfl, rfl, rfl⟩ ((own.alive_iff _ _).2 h)
      (fun o => ?_) rfl rfl
    refine own.alive_set (s := s) telements o _ (fun ho => ?_) fun j e => ?_
    · exact ⟨fun h => h.2, fun h => ⟨ho i, h⟩⟩
    · subst e
      exact and_congr ⟨fun ne e => ne (own.address_injective _ _ e), fun ne e => ne (e ▸ rfl)⟩
        (own.alive_iff _ _).symm
  · rw [finiMemory_of_not_mem k id (own.handles s wf) h]
    exact ⟨.refl, wf, rfl⟩⟩

end Owning

/-- The assignment of the id. -/
theorem give_run {s : State} (wf : Wf cfg s) {o : Owner} {n : Nat} (adopted : Owning.Adopted o n s) :
    Path cfg s (s.mapGhost (·.given o)) ∧ Wf cfg (s.mapGhost (·.given o)) := by
  have wf' : Wf cfg (s.mapGhost (·.given o)) := { wf with
    owner := fun p alive given => by
      by_cases h : p = o
      · subst h
        exact ⟨n, adopted.node, adopted.owner⟩
      · exact wf.owner p alive fun e => given ((if_neg h).trans e) }
  exact ⟨.single ⟨wf, wf', .assign o⟩, wf'⟩

end RmwMicroxrcedds
