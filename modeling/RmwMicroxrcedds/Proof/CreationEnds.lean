import RmwMicroxrcedds.Proof.ObjectDraws

/-!
# What a creation leaves behind

The create functions work on the element handed out and release it again when something fails. What
is left of a creation at its end is a card in front of the others or none, the ids drawn, the topics,
and the requests made.
-/

namespace RmwMicroxrcedds
set_option autoImplicit false

open Triples

variable {cfg : Config} {α β γ : Type}

/-- What a creation that started in `s₀` has done; `held` is the element that is in use because of
it. -/
structure Created (objects : List ObjectKind) (c : Nat) (parent held : Option Nat) (s₀ : State)
    (ks : List ObjectKind) (ts : Slots Topic) (rs : List (XrceRequest × Bool)) (s : State) : Prop where
  session : s.w.ent.session = s₀.w.ent.session.update c (·.drawn ks)
  topic : s.w.ent.topic = ts
  graph : SameGraph s₀ s
  requests : s.requests = rs ++ s₀.requests
  cards : ∀ k, k ≠ .topic → s.w.ent.cards k = match held with
    | some i => if k ∈ objects then ⟨i, parent, s₀.w.ent.nextId c k⟩ :: s₀.w.ent.cards k
      else s₀.w.ent.cards k
    | none => s₀.w.ent.cards k

section Created

variable {b : Bearer β} {c i n : Nat} {parent : Option Nat} {s₀ s : State} {ks : List ObjectKind}
  {u : Slots β} {ts : Slots Topic} {rs : List (XrceRequest × Bool)}

variable (aside : b.kind.Aside) (spent : Spent b.kind c s₀ ks u ts rs s)

include aside spent

/-- The element has been given back. -/
theorem Spent.kept (elements : u.elements = (b.kind.slots s₀.w.ent).elements)
    (custom : ∀ j ∈ (b.kind.slots s₀.w.ent).elements, u.custom j = (b.kind.slots s₀.w.ent).custom j) :
    Created b.objects c parent none s₀ ks ts rs s where
  session := by rw [spent.ent, aside.spent_session]
  topic := by rw [spent.ent, aside.spent_topic]
  graph := spent.graph
  requests := spent.requests
  cards k hk := by
    rw [spent.ent]
    exact b.kept elements custom hk

/-- The element is in use. -/
theorem Spent.made (elements : u.elements = i :: (b.kind.slots s₀.w.ent).elements)
    (custom : ∀ j ∈ (b.kind.slots s₀.w.ent).elements, u.custom j = (b.kind.slots s₀.w.ent).custom j)
    (owner : b.parent (u.custom i) = parent)
    (ids : ∀ k ∈ b.objects, b.id k (u.custom i) = s₀.w.ent.nextId c k) :
    Created b.objects c parent (some i) s₀ ks ts rs s where
  session := by rw [spent.ent, aside.spent_session]
  topic := by rw [spent.ent, aside.spent_topic]
  graph := spent.graph
  requests := spent.requests
  cards k hk := by
    rw [spent.ent, Kind.spent, b.made elements custom hk, owner]
    dsimp only
    split
    · rename_i own
      rw [ids k own]
    · rfl

end Created

/-! ## The element handed out -/

section Frame

variable [Element β] {k : Kind β} {c i n : Nat} {s₀ s : State} {ks : List ObjectKind} {t u : Slots β}
  {ts : Slots Topic} {rs : List (XrceRequest × Bool)}

theorem Slots.Ok.opened_update (ok : t.Ok n) (slot : t.get.1 = some i) (enter f : β → β) :
    ((t.opened i enter).update i f).Ok n ∧
      ((t.opened i enter).update i f).elements = i :: t.elements ∧
      ∀ j ∈ t.elements, ((t.opened i enter).update i f).custom j = t.custom j := by
  obtain ⟨ok', fresh, -, elements⟩ := ok.get_some slot
  refine ⟨(ok'.update _ _).update _ _, elements, fun j hj => ?_⟩
  have ne : j ≠ i := by
    rintro rfl
    exact fresh hj
  rw [update_custom_of_ne _ _ ne, opened, update_custom_of_ne _ _ ne, get_custom]

/-- An element handed out and given back. -/
theorem Slots.Ok.opened_fini (ok : t.Ok n) (hs : Handles t) (slot : t.get.1 = some i)
    (enter : β → β) {f : β → β} (handle : ∀ b, Element.handle (f b) = Element.handle b)
    (clear : β → β)
    (keep : ∀ b, Element.handle (clear b) = Element.handle b) :
    (((t.opened i enter).update i f).fini clear i).elements = t.elements ∧
      ∀ j ∈ t.elements, (((t.opened i enter).update i f).fini clear i).custom j = t.custom j := by
  obtain ⟨ok', elements, custom⟩ := ok.opened_update slot enter f
  have fresh := (ok.get_some slot).2.1
  have hs' := (hs.opened ok slot enter).update i handle
  have mem : i ∈ ((t.opened i enter).update i f).elements := elements ▸ List.mem_cons_self
  obtain ⟨-, -, erased, others⟩ := ok'.fini hs' mem clear keep
  constructor
  · rw [erased, elements, List.erase_cons_head]
  · intro j hj
    have ne : j ≠ i := by
      rintro rfl
      exact fresh hj
    rw [others j ne, custom j hj]

/-- What is handed out. -/
theorem acquire_spent (k : Kind β) (c : Nat) (enter : β → β) (slot : (k.slots s.w.ent).get.1 = some i) :
    ∃ t, acquire k enter s = (some i, t) ∧
      Spent k c s [] ((k.slots s.w.ent).opened i enter) s.w.ent.topic [] t := by
  refine ⟨_, acquire_some k enter slot, (Spent.refl k c s).step ?_ rfl rfl rfl⟩
  have session : s.w.ent.session.update c (·.drawn []) = s.w.ent.session :=
    Slots.update_id _ _ fun _ => rfl
  rw [Kind.spent, session]
  rfl

/-- The create functions end at once or go on with an element. -/
theorem acquire_cases (k : Kind β) (c : Nat) (enter : β → β) (ok : (k.slots s.w.ent).Ok n)
    {a : γ} {p : Nat → Prog γ} :
    let r := (do
      match ← acquire k enter with
      | none => return a
      | some i => p i : Prog γ) s
    r = (a, s) ∨ ∃ i t, (k.slots s.w.ent).get.1 = some i ∧
      Spent k c s [] ((k.slots s.w.ent).opened i enter) s.w.ent.topic [] t ∧ r = p i t := by
  dsimp only
  rw [Prog.bind_run]
  cases slot : (k.slots s.w.ent).get.1 with
  | none =>
    rw [acquire_none k enter ok slot]
    exact .inl rfl
  | some i =>
    obtain ⟨t, acquired, spent⟩ := acquire_spent k c enter slot
    rw [acquired]
    exact .inr ⟨i, t, rfl, spent, rfl⟩

/-- The release of the element. -/
theorem Spent.fini (clear : β → β) (hs : Handles u) (mem : i ∈ u.elements) {rest : Unit → Prog γ}
    {Q : γ → State → Prop}
    (next : Hoare (Spent k c s₀ ks (u.fini clear i) ts rs) (rest ()) Q) :
    Hoare (Spent k c s₀ ks u ts rs) (finiMemory k clear i >>= rest) Q := Hoare.of fun s h => by
  have slots : k.slots s.w.ent = u := by rw [h.ent, Kind.spent_slots]
  have released : ((k.released i s).w.ent = s.w.ent ∧ (k.released i s).w.buf = s.w.buf) ∧
      (k.released i s).requests = s.requests ∧ (k.released i s).agent = s.agent := by
    unfold Kind.released
    split <;> exact ⟨⟨rfl, rfl⟩, rfl, rfl⟩
  rw [Prog.bind_run, finiMemory_of_mem k clear (slots.symm ▸ hs) (slots.symm ▸ mem)]
  set t := (k.released i s).mapEnt fun e => k.withSlots ((k.slots e).fini clear i) e with ht
  refine (next t (h.step ?_ released.1.2 released.2.1 released.2.2)).2
  show k.withSlots ((k.slots (k.released i s).w.ent).fini clear i) (k.released i s).w.ent = _
  rw [released.1.1, slots, h.ent, Kind.spent, k.withSlots_withSlots]
  rfl

end Frame

/-! ## Publishers and subscriptions -/

namespace TwoObjects

variable [Element β] (two : TwoObjects β)

/-- The create function from the slot on. -/
def body (cfg : Config) (n : Nat) (typeSupport : TypeSupport MessageTypeSupportCallbacks)
    (name : CStr) (qosPolicies : RmwQosProfile) (i : Nat) : Prog Bool := do
  if cfg.topicNameMaxLength < name.length + 1 then return false
  else
    writeElement two.ep.kind i (two.label name n qosPolicies)
    match typeSupport with
    | .undefined => return false
    | .nullData =>
      writeElement two.ep.kind i (two.support none)
      return false
    | .callbacks members =>
      writeElement two.ep.kind i (two.support (some members))
      two.createAll cfg n name members i

section Body

variable {n i : Nat} {name : CStr} {typeSupport : TypeSupport MessageTypeSupportCallbacks}
  {qosPolicies : RmwQosProfile} {s₀ : State} {u : Slots β}

/-- How the create function ends before the label `fail`, on the slot `i` of the pool `u`. -/
inductive BodyEnd (cfg : Config) (n i : Nat) (name : CStr)
    (typeSupport : TypeSupport MessageTypeSupportCallbacks) (s₀ : State) (u : Slots β) :
    Bool → List ObjectKind → Slots β → Slots Topic → List (XrceRequest × Bool) → Prop
  | early (f : β → β) (handle : ∀ b, Element.handle (f b) = Element.handle b)
    (topic : ∀ b, two.ep.topic (f b) = two.ep.topic b) (leaves : LeavesEarly cfg name typeSupport) :
    BodyEnd cfg n i name typeSupport s₀ u false [] (u.update i f) s₀.w.ent.topic []
  | late (f : β → β) (handle : ∀ b, Element.handle (f b) = Element.handle b)
    (owner : ∀ b, two.ownerNode (f b) = some n) (members : MessageTypeSupportCallbacks)
    (callbacks : typeSupport = .callbacks members)
    (fits : ¬ cfg.topicNameMaxLength < name.length + 1)
    {created : Bool} {ks : List ObjectKind} {u' : Slots β} {ts : Slots Topic}
    {rs : List (XrceRequest × Bool)}
    (end_ : two.End cfg n i name members s₀ (u.update i f) created ks u' ts rs) :
    BodyEnd cfg n i name typeSupport s₀ u created ks u' ts rs

theorem body_ends :
    Hoare (Spent two.ep.kind (s₀.w.ent.contextOf n) s₀ [] u s₀.w.ent.topic [])
      (two.body cfg n typeSupport name qosPolicies i)
      fun created s => ∃ ks u' ts rs,
        two.BodyEnd cfg n i name typeSupport s₀ u created ks u' ts rs ∧
        Spent two.ep.kind (s₀.w.ent.contextOf n) s₀ ks u' ts rs s := by
  have label := two.handle_label name n qosPolicies
  have support : ∀ m b, Element.handle (two.support m (two.label name n qosPolicies b)) =
      Element.handle b := fun m b => (two.handle_support m _).trans (label b)
  unfold body
  refine Triple.ite (fun long => ?_) fun fits => ?_
  · refine Triple.pure fun s h => ⟨[], u.update i id, s₀.w.ent.topic, [], ?_, ?_⟩
    · exact .early id (fun _ => rfl) (fun _ => rfl) (.inl long)
    · have same : u.update i id = u := Slots.update_id u i fun _ => rfl
      rwa [same]
  · refine Spent.write i _ ?_
    cases typeSupport with
    | undefined =>
      refine Triple.pure fun s h => ⟨_, _, _, _, .early _ label ?_ (.inr (by simp)), h⟩
      exact two.topic_label name n qosPolicies
    | nullData =>
      refine Spent.write i _ (Triple.pure fun s h => ?_)
      rw [Slots.update_update] at h
      refine ⟨_, _, _, _, .early _ (support none) (fun b => ?_) (.inr (by simp)), h⟩
      rw [two.topic_support, two.topic_label]
    | callbacks members =>
      refine Spent.write i _ ?_
      rw [Slots.update_update]
      refine Triple.weaken two.createAll_ends fun created s ⟨ks, u', ts, rs, end_, h⟩ => ?_
      refine ⟨ks, u', ts, rs, .late _ (support _) (fun b => ?_) members rfl fits end_, h⟩
      rw [two.owner_support, two.owner_label]

/-- The create function gets as far as the topic. -/
structure GoesOn (cfg : Config) (name : CStr) (typeSupport : TypeSupport MessageTypeSupportCallbacks)
    (members : MessageTypeSupportCallbacks) : Prop where
  fits : ¬ cfg.topicNameMaxLength < name.length + 1
  callbacks : typeSupport = .callbacks members

/-- How the create function ends, with the element `held`. -/
inductive Outcome (cfg : Config) (n i : Nat) (name : CStr)
    (typeSupport : TypeSupport MessageTypeSupportCallbacks) (s₀ : State) :
    Option Nat → List ObjectKind → Slots Topic → List (XrceRequest × Bool) → Prop
  /-- no topic has been tried -/
  | early (leaves : LeavesEarly cfg name typeSupport) :
    Outcome cfg n i name typeSupport s₀ none []
      (Endpoint.releasedTopics (two.ep.topicOf s₀.w.ent i) s₀.w.ent.topic) []
  | topicless {members : MessageTypeSupportCallbacks} {ks : List ObjectKind} {ts : Slots Topic}
    {rs : List (XrceRequest × Bool)} (late : GoesOn cfg name typeSupport members)
    (topic : TopicEnd cfg n name members s₀ none ks ts rs) :
    Outcome cfg n i name typeSupport s₀ none ks ts rs
  | alone {members : MessageTypeSupportCallbacks} {x : Nat} {ts : Slots Topic}
    {rs : List (XrceRequest × Bool)} (late : GoesOn cfg name typeSupport members)
    (topic : TopicEnd cfg n name members s₀ (some x) [.topic] ts rs)
    (answer : s₀.Reliable (s₀.w.ent.contextOf n) → confirms (s₀.agent.drop 1) = false) :
    Outcome cfg n i name typeSupport s₀ none [.topic, two.outer] (ts.finiTopic x)
      ((two.outerRequest s₀.w.ent n, false) :: rs)
  | unnamed {members : MessageTypeSupportCallbacks} {x : Nat} {ts : Slots Topic}
    {rs : List (XrceRequest × Bool)} (late : GoesOn cfg name typeSupport members)
    (topic : TopicEnd cfg n name members s₀ (some x) [.topic] ts rs)
    (text : endpointTexts cfg two.profile name = none) :
    Outcome cfg n i name typeSupport s₀ none [.topic, two.outer, two.inner] (ts.finiTopic x)
      ((two.outerRequest s₀.w.ent n, true) :: rs)
  | refused {members : MessageTypeSupportCallbacks} {x : Nat} {ts : Slots Topic}
    {rs : List (XrceRequest × Bool)} (late : GoesOn cfg name typeSupport members)
    (topic : TopicEnd cfg n name members s₀ (some x) [.topic] ts rs) (texts : List CStr)
    (text : endpointTexts cfg two.profile name = some texts)
    (answer : s₀.Reliable (s₀.w.ent.contextOf n) → confirms (s₀.agent.drop 2) = false) :
    Outcome cfg n i name typeSupport s₀ none [.topic, two.outer, two.inner] (ts.finiTopic x)
      ((two.innerRequest s₀.w.ent n texts, false) :: (two.outerRequest s₀.w.ent n, true) :: rs)
  | made {members : MessageTypeSupportCallbacks} {x : Nat} {ts : Slots Topic}
    {rs : List (XrceRequest × Bool)} (late : GoesOn cfg name typeSupport members)
    (topic : TopicEnd cfg n name members s₀ (some x) [.topic] ts rs) (texts : List CStr) :
    Outcome cfg n i name typeSupport s₀ (some i) [.topic, two.outer, two.inner] ts
      ((two.innerRequest s₀.w.ent n texts, true) :: (two.outerRequest s₀.w.ent n, true) :: rs)

section Named

variable {two} {e : Entities} {b : β} {x : Option Nat}

theorem topic_named : two.ep.topic (two.named e n (two.ep.withTopic x b)) = x := by
  rw [named, two.topic_withInner, two.topic_withOuter, two.ep.topic_withTopic]

theorem handle_named :
    Element.handle (two.named e n (two.ep.withTopic x b)) = Element.handle b := by
  rw [named, two.handle_withInner, two.handle_withOuter, two.ep.handle_withTopic]

theorem owner_named : two.ownerNode (two.named e n (two.ep.withTopic x b)) = two.ownerNode b := by
  rw [named, two.owner_withInner, two.owner_withOuter, two.owner_withTopic]

theorem outerId_named : two.outerId (two.named e n b) = e.nextId (e.contextOf n) two.outer := by
  rw [named, two.outerId_withInner, two.outerId_withOuter]

theorem innerId_named : two.innerId (two.named e n b) = e.nextId (e.contextOf n) two.inner := by
  rw [named, two.innerId_withInner]

end Named

/-- The slot belongs to the node and shows the ids drawn. -/
structure Complete (n : Nat) (e : Entities) (b : β) : Prop where
  owner : two.ownerNode b = some n
  outer : two.outerId b = e.nextId (e.contextOf n) two.outer
  inner : two.innerId b = e.nextId (e.contextOf n) two.inner

/-- What the body has written to the slot, and what the label `fail` makes of it. -/
theorem BodyEnd.slot {created : Bool} {ks : List ObjectKind} {u' : Slots β} {ts : Slots Topic}
    {rs : List (XrceRequest × Bool)} (shown : two.ep.topic (u.custom i) = two.ep.topicOf s₀.w.ent i)
    (h : two.BodyEnd cfg n i name typeSupport s₀ u created ks u' ts rs) :
    ∃ f : β → β, (∀ b, Element.handle (f b) = Element.handle b) ∧ u' = u.update i f ∧
      (created = true → ∀ b, two.Complete n s₀.w.ent (f b)) ∧
      two.Outcome cfg n i name typeSupport s₀ (if created then some i else none) ks
        (if created then ts else
          Endpoint.releasedTopics (two.ep.topic (f (u.custom i))) ts) rs := by
  cases h with
  | early f handle topic leaves =>
    refine ⟨f, handle, rfl, by simp, ?_⟩
    rw [topic, shown]
    exact .early leaves
  | late f handle owner members callbacks fits end_ =>
    have late : GoesOn cfg name typeSupport members := ⟨fits, callbacks⟩
    cases end_ with
    | topicless topic =>
      refine ⟨fun b => two.ep.withTopic none (f b), fun b => ?_, Slots.update_update .., by simp, ?_⟩
      · rw [two.ep.handle_withTopic, handle]
      · rw [two.ep.topic_withTopic]
        exact .topicless late topic
    | @alone x ts rs topic answer =>
      refine ⟨fun b => two.withOuter (s₀.w.ent.nextId (s₀.w.ent.contextOf n) two.outer)
        (two.ep.withTopic (some x) (f b)), fun b => ?_, Slots.update_update .., by simp, ?_⟩
      · rw [two.handle_withOuter, two.ep.handle_withTopic, handle]
      · rw [two.topic_withOuter, two.ep.topic_withTopic]
        exact .alone late topic answer
    | @unnamed x ts rs topic text =>
      refine ⟨fun b => two.named s₀.w.ent n (two.ep.withTopic (some x) (f b)), fun b => ?_,
        Slots.update_update .., by simp, ?_⟩
      · rw [handle_named, handle]
      · rw [topic_named]
        exact .unnamed late topic text
    | @asked x ts rs _ topic texts text answer =>
      refine ⟨fun b => two.named s₀.w.ent n (two.ep.withTopic (some x) (f b)), fun b => ?_,
        Slots.update_update .., fun _ b => ⟨?_, outerId_named, innerId_named⟩, ?_⟩
      · rw [handle_named, handle]
      · rw [owner_named, owner]
      · rw [topic_named]
        cases created with
        | true => exact .made late topic texts
        | false => exact .refused late topic texts text fun reliable => (answer reliable).symm

end Body

section Calls

variable {n i size : Nat} {name : CStr} {typeSupport : TypeSupport MessageTypeSupportCallbacks}
  {qosPolicies : RmwQosProfile} {s₀ : State}

/-- The label `fail`. -/
theorem fail_rule {c : Nat} {ks : List ObjectKind} {u : Slots β} {ts : Slots Topic}
    {rs : List (XrceRequest × Bool)} (hs : Handles u) (mem : i ∈ u.elements)
    {rest : Unit → Prog γ} {Q : γ → State → Prop}
    (next : Hoare (Spent two.ep.kind c s₀ ks (u.fini id i)
      (Endpoint.releasedTopics (two.ep.topic (u.custom i)) ts) rs) (rest ()) Q) :
    Hoare (Spent two.ep.kind c s₀ ks u ts rs) (two.ep.fail i >>= rest) Q := by
  have read : ∀ s, Spent two.ep.kind c s₀ ks u ts rs s →
      readElement two.ep.kind i s = (u.custom i, s) := fun s h => by
    rw [readElement_run, h.ent, Kind.spent_slots]
  have release : Hoare (Spent two.ep.kind c s₀ ks u ts rs)
      (Endpoint.releaseTopic (two.ep.topic (u.custom i)) >>= fun _ =>
        finiMemory two.ep.kind id i >>= rest) Q := by
    cases shown : two.ep.topic (u.custom i) with
    | none =>
      rw [shown] at next
      exact Spent.fini id hs mem next
    | some x =>
      rw [shown] at next
      exact Spent.finiTopic two.aside x (Spent.fini id hs mem next)
  have assoc : (two.ep.fail i >>= rest) = readElement two.ep.kind i >>= fun b =>
      Endpoint.releaseTopic (two.ep.topic b) >>= fun _ => finiMemory two.ep.kind id i >>= rest := rfl
  rw [assoc]
  exact Spent.read read release

theorem held_outcome (ok : (two.ep.kind.slots s₀.w.ent).Ok size)
    (hs : Handles (two.ep.kind.slots s₀.w.ent)) (slot : (two.ep.kind.slots s₀.w.ent).get.1 = some i) :
    Hoare (Spent two.ep.kind (s₀.w.ent.contextOf n) s₀ []
        ((two.ep.kind.slots s₀.w.ent).opened i id) s₀.w.ent.topic [])
      (do
        if ← two.body cfg n typeSupport name qosPolicies i then return some i
        else
          two.ep.fail i
          return none)
      fun _ s => ∃ held ks ts rs, two.Outcome cfg n i name typeSupport s₀ held ks ts rs ∧
        Created [two.outer, two.inner] (s₀.w.ent.contextOf n) (some n) held s₀ ks ts rs s := by
  have shown : two.ep.topic (((two.ep.kind.slots s₀.w.ent).opened i id).custom i) =
      two.ep.topicOf s₀.w.ent i := by
    rw [Slots.opened, Slots.update_custom_self, two.ep.topic_withHandle, Slots.get_custom]
    rfl
  refine Triple.bind two.body_ends fun created => ?_
  refine Triple.exists_pre fun ks => Triple.exists_pre fun u' => Triple.exists_pre fun ts =>
    Triple.exists_pre fun rs => Triple.and_left fun end_ => ?_
  obtain ⟨f, handle, rfl, complete, outcome⟩ := end_.slot two shown
  obtain ⟨-, elements, custom⟩ := ok.opened_update slot id f
  cases created with
  | true =>
    refine Triple.pure fun s h => ⟨_, _, _, _, outcome, ?_⟩
    have own := Slots.update_custom_self ((two.ep.kind.slots s₀.w.ent).opened i id) i f
    obtain ⟨owner, outer, inner⟩ := complete rfl (((two.ep.kind.slots s₀.w.ent).opened i id).custom i)
    refine Spent.made (b := two.bearer) two.aside h elements custom (by rw [own]; exact owner)
      fun k hk => ?_
    simp only [bearer, List.mem_cons, List.not_mem_nil, or_false] at hk ⊢
    rw [own]
    have kinds := two.kinds
    simp only [List.nodup_cons, List.mem_cons, List.not_mem_nil, or_false, not_or] at kinds
    rcases hk with rfl | rfl
    · rw [if_pos rfl, outer]
    · rw [if_neg fun e => kinds.2.1 e.symm, inner]
  | false =>
    have hs' := (hs.opened ok slot id).update i handle
    have mem : i ∈ (((two.ep.kind.slots s₀.w.ent).opened i id).update i f).elements :=
      elements ▸ List.mem_cons_self
    obtain ⟨given, custom'⟩ := ok.opened_fini hs slot id handle id fun _ => rfl
    refine two.fail_rule hs' mem (Triple.pure fun s h => ⟨_, _, _, _, outcome, ?_⟩)
    rw [Slots.update_custom_self] at h
    exact Spent.kept (b := two.bearer) two.aside h given custom'

/-- How a create function of publishers or subscriptions ends. -/
def Ends (cfg : Config) (node : Option Nat)
    (typeSupport : Option (TypeSupport MessageTypeSupportCallbacks)) (topicName : Option CStr)
    (s t : State) : Prop :=
  t = s ∨ ∃ n i ts name, node = some n ∧ n ∈ s.w.ent.node.elements ∧ typeSupport = some ts ∧
    topicName = some name ∧ name ≠ [] ∧ (two.ep.kind.slots s.w.ent).get.1 = some i ∧
    ∃ held ks topics rs, two.Outcome cfg n i name ts s held ks topics rs ∧
      Created [two.outer, two.inner] (s.w.ent.contextOf n) (some n) held s ks topics rs t

/-- The create functions after the check of their arguments, for an assertion that holds when they
refuse. -/
theorem checked_rule {s : State} (wf : Wf cfg s) {node : Nat}
    (ok : (two.ep.kind.slots s.w.ent).Ok size) {Q : Option Nat → State → Prop} (refused : Q none s)
    (held : ∀ i, node ∈ s.w.ent.node.elements → name ≠ [] → (two.ep.kind.slots s.w.ent).get.1 = some i →
      Hoare (Spent two.ep.kind (s.w.ent.contextOf node) s [] ((two.ep.kind.slots s.w.ent).opened i id)
          s.w.ent.topic [])
        (do
          if ← two.body cfg node typeSupport name qosPolicies i then return some i
          else
            two.ep.fail i
            return none) Q) :
    let r := (do
      let handle := (← readElement .node node).rmwNode
      if isUxrceRmwIdentifierValid handle.implementationIdentifier = false ∨ name = [] then
        return none
      else
        match ← acquire two.ep.kind id with
        | none => return none
        | some i =>
          if ← two.body cfg (deref handle.data) typeSupport name qosPolicies i then return some i
          else
            two.ep.fail i
            return none : Prog (Option Nat)) s
    Q r.1 r.2 := by
  dsimp only
  rw [Prog.bind_run, readElement_run]
  dsimp only
  split
  · exact refused
  · rename_i valid
    rw [not_or, Bool.not_eq_false] at valid
    have inUse : node ∈ s.w.ent.node.elements := wf.nodeHandles.valid valid.1
    have own : ((Kind.node.slots s.w.ent).custom node).rmwNode =
      ⟨some .eprosimaMicroxrcedds, some node⟩ := wf.nodeHandles.of_mem inUse
    have data : deref ((Kind.node.slots s.w.ent).custom node).rmwNode.data = node := by
      rw [own]
      rfl
    rw [data]
    rcases acquire_cases two.ep.kind (s.w.ent.contextOf node) id ok (a := none)
      (p := fun i => do
        if ← two.body cfg node typeSupport name qosPolicies i then return some i
        else
          two.ep.fail i
          return none) with same | ⟨i, t, slot, spent, run⟩
    · rw [same]
      exact refused
    · rw [run]
      exact (held i inUse valid.2 slot t spent).2

end Calls

end TwoObjects

theorem createPublisherBody_eq (n : Nat) (typeSupport : TypeSupport MessageTypeSupportCallbacks)
    (name : CStr) (qosPolicies : RmwQosProfile) :
    createPublisherBody cfg n typeSupport name qosPolicies =
      TwoObjects.publisher.body cfg n typeSupport name qosPolicies := by
  funext i
  simp only [createPublisherBody, createPublisherObjects_eq]
  rfl

theorem createSubscriptionBody_eq (n : Nat) (typeSupport : TypeSupport MessageTypeSupportCallbacks)
    (name : CStr) (qosPolicies : RmwQosProfile) :
    createSubscriptionBody cfg n typeSupport name qosPolicies =
      TwoObjects.subscription.body cfg n typeSupport name qosPolicies := by
  funext i
  simp only [createSubscriptionBody, createSubscriptionObjects_eq]
  rfl

section Calls

variable {s : State} (wf : Wf cfg s) (node : Option Nat)
  (typeSupport : Option (TypeSupport MessageTypeSupportCallbacks)) (topicName : Option CStr)
  (qosPolicies : Option RmwQosProfile)

include wf

/-- `rmw_create_publisher` refuses its arguments or goes on with an element. -/
theorem rmwCreatePublisher_rule {Q : Option Nat → State → Prop} (refused : Q none s)
    (held : ∀ n ts name qos i, node = some n → typeSupport = some ts → topicName = some name →
      n ∈ s.w.ent.node.elements → name ≠ [] → s.w.ent.publisher.get.1 = some i →
      Hoare (Spent .publisher (s.w.ent.contextOf n) s [] (s.w.ent.publisher.opened i id) s.w.ent.topic [])
        (do
          if ← TwoObjects.publisher.body cfg n ts name qos i then return some i
          else
            TwoObjects.publisher.ep.fail i
            return none) Q) :
    let r := rmwCreatePublisher cfg node typeSupport topicName qosPolicies s
    Q r.1 r.2 := by
  dsimp only
  unfold rmwCreatePublisher
  split
  · rename_i n t name qos
    simp only [createPublisherFail_eq, createPublisherBody_eq]
    exact TwoObjects.publisher.checked_rule wf wf.publisher refused fun i =>
      held n t name qos i rfl rfl rfl
  · exact refused

/-- `rmw_create_subscription` refuses its arguments or goes on with an element. -/
theorem rmwCreateSubscription_rule {Q : Option Nat → State → Prop} (refused : Q none s)
    (held : ∀ n ts name qos i, node = some n → typeSupport = some ts → topicName = some name →
      n ∈ s.w.ent.node.elements → name ≠ [] → s.w.ent.subscription.get.1 = some i →
      Hoare (Spent .subscription (s.w.ent.contextOf n) s [] (s.w.ent.subscription.opened i id)
          s.w.ent.topic [])
        (do
          if ← TwoObjects.subscription.body cfg n ts name qos i then return some i
          else
            TwoObjects.subscription.ep.fail i
            return none) Q) :
    let r := rmwCreateSubscription cfg node typeSupport topicName qosPolicies s
    Q r.1 r.2 := by
  dsimp only
  unfold rmwCreateSubscription
  split
  · rename_i n t name qos
    simp only [createSubscriptionFail_eq, createSubscriptionBody_eq]
    exact TwoObjects.subscription.checked_rule wf wf.subscription refused fun i =>
      held n t name qos i rfl rfl rfl
  · exact refused

/-- **`rmw_create_publisher`** -/
theorem rmwCreatePublisher_ends : TwoObjects.publisher.Ends cfg node typeSupport topicName s
    (rmwCreatePublisher cfg node typeSupport topicName qosPolicies s).2 := by
  apply rmwCreatePublisher_rule wf node typeSupport topicName qosPolicies
    (Q := fun _ => TwoObjects.publisher.Ends cfg node typeSupport topicName s)
  · exact .inl rfl
  · intro n ts name qos i hn hts hname inUse named slot
    refine Triple.weaken (TwoObjects.publisher.held_outcome wf.publisher wf.publisherHandles slot) ?_
    exact fun _ _ ended => .inr ⟨n, i, ts, name, hn, inUse, hts, hname, named, slot, ended⟩

/-- **`rmw_create_subscription`** -/
theorem rmwCreateSubscription_ends : TwoObjects.subscription.Ends cfg node typeSupport topicName s
    (rmwCreateSubscription cfg node typeSupport topicName qosPolicies s).2 := by
  apply rmwCreateSubscription_rule wf node typeSupport topicName qosPolicies
    (Q := fun _ => TwoObjects.subscription.Ends cfg node typeSupport topicName s)
  · exact .inl rfl
  · intro n ts name qos i hn hts hname inUse named slot
    refine Triple.weaken
      (TwoObjects.subscription.held_outcome wf.subscription wf.subscriptionHandles slot) ?_
    exact fun _ _ ended => .inr ⟨n, i, ts, name, hn, inUse, hts, hname, named, slot, ended⟩

end Calls

end RmwMicroxrcedds
