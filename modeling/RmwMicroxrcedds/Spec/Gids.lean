import RmwMicroxrcedds.Model.Gids
import RmwMicroxrcedds.Proof.CreationCounts

/-!
# Gids

The gid of a publisher or client holds the id of its object and nothing of its context, so two entities
can only have the same data if they are of one kind and of different contexts. A comparison looks at the
data and at as many bytes behind them as `rmw_gid_t` has besides the array, whatever these are.
-/

namespace RmwMicroxrcedds
set_option autoImplicit false

variable {m : GidPlatform} {cfg : Config}

/-! ## The bytes -/

theorem uint8_ofNat_inj {a b : Nat} (ha : a < 256) (hb : b < 256) :
    UInt8.ofNat a = UInt8.ofNat b ↔ a = b := by
  constructor
  · intro same
    have same' := congrArg UInt8.toNat same
    simp only [UInt8.toNat_ofNat'] at same'
    omega
  · rintro rfl
    rfl

/-- The id, the type and the padding can be told from the bytes. -/
theorem UxrObjectId.bytes_inj {o o' : UxrObjectId} {padding padding' : Vector UInt8 m.padding}
    (small : o.id < 65536) (small' : o'.id < 65536) :
    o.bytes m padding = o'.bytes m padding' ↔ o.id = o'.id ∧ o.type = o'.type ∧ padding = padding' := by
  constructor
  · intro same
    unfold bytes at same
    dsimp only at same
    have parts : UInt8.ofNat (o.id % 256) = UInt8.ofNat (o'.id % 256) ∧
        UInt8.ofNat (o.id / 256) = UInt8.ofNat (o'.id / 256) ∧
        m.typeByte o.type = m.typeByte o'.type ∧ padding.toList = padding'.toList := by
      split at same <;> simp only [List.cons_append, List.nil_append, List.cons.injEq] at same
      · exact ⟨same.2.1, same.1, same.2.2⟩
      · exact ⟨same.1, same.2.1, same.2.2⟩
    obtain ⟨low, high, type, rest⟩ := parts
    rw [uint8_ofNat_inj (by omega) (by omega)] at low high
    refine ⟨by omega, m.typeByte_injective type, ?_⟩
    exact Vector.toList_inj.1 rest
  · rintro ⟨id, type, rfl⟩
    unfold bytes
    rw [id, type]

/-- The identifier of the gid lets the comparison go on. -/
def RmwGid.Own (g : RmwGid m) : Prop := g.implementationIdentifier ≠ some .foreign

instance (g : RmwGid m) : Decidable g.Own := inferInstanceAs (Decidable (_ ≠ _))

theorem RmwGid.fill_data {g h : RmwGid m} {o o' : UxrObjectId} {padding padding' : Vector UInt8 m.padding}
    (room room' : m.sizeofObjectId ≤ m.storageSize) :
    (g.fill o padding room).data = (h.fill o' padding' room').data ↔
      o.bytes m padding = o'.bytes m padding' := by
  unfold fill
  dsimp only
  rw [Bytes.memset_all 0 g.data_length, Bytes.memset_all 0 h.data_length]
  exact Bytes.memcpy_inj (o.length_bytes m padding) (o'.length_bytes m padding')

/-- **`rmw_compare_gids_equal`** -/
theorem compare_eq_true_iff (g h : RmwGid m) : rmwCompareGidsEqual (some g) (some h) = (.ok, some true) ↔
    g.Own ∧ h.Own ∧ g.data = h.data ∧ g.behind = h.behind := by
  have data : g.data.length = h.data.length := g.data_length.trans h.data_length.symm
  have length : ∀ x : RmwGid m, (x.data ++ x.behind).length = m.sizeofGid := by
    intro x
    rw [List.length_append, x.data_length, x.behind_length, GidPlatform.sizeofGid]
    omega
  unfold rmwCompareGidsEqual RmwGid.Own
  dsimp only
  split
  · rename_i foreign
    constructor
    · intro same
      cases same
    · rintro ⟨own, own', -⟩
      exact absurd foreign (not_or.2 ⟨own, own'⟩)
  · rename_i own
    rw [not_or] at own
    rw [Prod.mk.injEq, Option.some.injEq, decide_eq_true_eq, Bytes.memcmp_eq_zero (length g) (length h)]
    constructor
    · rintro ⟨-, same⟩
      exact ⟨own.1, own.2, List.append_inj same data⟩
    · rintro ⟨-, -, same, rest⟩
      rw [same, rest]
      exact ⟨rfl, rfl⟩

/-! ## The owners of gids -/

/-- An entity that has a gid. -/
inductive GidOwner where
  | publisher (i : Nat)
  | client (i : Nat)
deriving DecidableEq

namespace GidOwner

def slot : GidOwner → Nat
  | publisher i | client i => i

def object : GidOwner → ObjectKind
  | publisher _ => .publisher
  | client _ => .requester

def Live (e : Entities) : GidOwner → Prop
  | publisher i => i ∈ e.publisher.elements
  | client i => i ∈ e.client.elements

instance (e : Entities) (p : GidOwner) : Decidable (p.Live e) := by
  unfold Live
  split <;> infer_instance

def objectId (e : Entities) : GidOwner → UxrObjectId
  | publisher i => (e.publisher.custom i).publisherId
  | client i => (e.client.custom i).clientId

def ownerNode (e : Entities) : GidOwner → Option Nat
  | publisher i => (e.publisher.custom i).ownerNode
  | client i => (e.client.custom i).ownerNode

def context (e : Entities) (p : GidOwner) : Nat := e.contextOf (deref (p.ownerNode e))

/-- The getter for the entity; `padding` is what the ids have in memory behind their members. -/
def getGid (m : GidPlatform) (e : Entities) (padding : GidOwner → Vector UInt8 m.padding) :
    GidOwner → RmwGid m → Option (RmwRet × Option (RmwGid m))
  | publisher i, gid => rmwGetGidForPublisher m e (fun i => padding (publisher i)) (some i) (some gid)
  | client i, gid => rmwGetGidForClient m e (fun i => padding (client i)) (some i) (some gid)

variable {e : Entities} {p q : GidOwner}

theorem eq_of_slot (object : p.object = q.object) (slot : p.slot = q.slot) : p = q := by
  cases p with
  | publisher i =>
    cases q with
    | publisher j => exact congrArg publisher slot
    | client j => cases object
  | client i =>
    cases q with
    | publisher j => cases object
    | client j => exact congrArg client slot

theorem card_mem (live : p.Live e) :
    (⟨p.slot, p.ownerNode e, p.objectId e⟩ : Card) ∈ e.cards p.object := by
  cases p with
  | publisher i => exact Slots.mem_cards.2 ⟨i, live, rfl⟩
  | client i => exact Slots.mem_cards.2 ⟨i, live, rfl⟩

theorem plain (p : GidOwner) : p.object.Plain = true := by
  cases p with
  | publisher i => rfl
  | client i => rfl

/-- A live entity belongs to an open context, with its id. -/
theorem issued {s : State} (wf : Wf cfg s) (rooted : s.w.ent.Rooted p.object) (live : p.Live s.w.ent) :
    (p.objectId s.w.ent).type = p.object ∧ p.context s.w.ent ∈ s.w.ent.session.elements ∧
      s.w.ent.Issued p.object (p.context s.w.ent) p.slot (p.objectId s.w.ent).id := by
  obtain ⟨type, node, mem, parent⟩ := rooted _ (card_mem live)
  dsimp only at type parent
  obtain ⟨n, hn, rfl⟩ := Slots.mem_cards.1 mem
  obtain ⟨c, hc, own⟩ := wf.context n hn
  have context : p.context s.w.ent = c := by
    rw [context, parent]
    exact Entities.contextOf_card mem own
  rw [context]
  exact ⟨type, hc, _, card_mem live, _, mem, rfl, parent, own, rfl⟩

/-- What the getter has written for a live entity. -/
theorem getGid_live {s : State} (wf : Wf cfg s) (live : p.Live s.w.ent)
    {padding : GidOwner → Vector UInt8 m.padding} {g₀ g : RmwGid m}
    (filled : p.getGid m s.w.ent padding g₀ = some (.ok, some g)) :
    ∃ room, g = g₀.fill (p.objectId s.w.ent) (padding p) room := by
  have run : p.getGid m s.w.ent padding g₀ =
      rmwGetGid m (some ⟨some .eprosimaMicroxrcedds, some p.slot⟩)
        (fun _ => (p.objectId s.w.ent, padding p)) (some g₀) := by
    cases p with
    | publisher i =>
      have handle : (s.w.ent.publisher.custom i).rmwPublisher = ⟨some .eprosimaMicroxrcedds, some i⟩ :=
        wf.publisherHandles.of_mem live
      rw [getGid, rmwGetGidForPublisher, Option.map_some, handle]
      rfl
    | client i =>
      have handle : (s.w.ent.client.custom i).rmwClient = ⟨some .eprosimaMicroxrcedds, some i⟩ :=
        wf.clientHandles.of_mem live
      rw [getGid, rmwGetGidForClient, Option.map_some, handle]
      rfl
  rw [run, rmwGetGid] at filled
  dsimp only at filled
  rw [if_neg (by decide)] at filled
  split at filled
  · rename_i room
    refine ⟨room, ?_⟩
    simpa using filled.symm
  · simp at filled

end GidOwner

/-! ## The statement -/

/-- The two entities have ids of one kind with the same number, in different contexts. -/
def GidOwner.Twins (e : Entities) (p q : GidOwner) : Prop :=
  p.object = q.object ∧ p.context e ≠ q.context e ∧ (p.objectId e).id = (q.objectId e).id

/-- Nothing besides the data tells the gids apart, and both can be compared. -/
def RmwGid.Level (g h : RmwGid m) : Prop := g.Own ∧ h.Own ∧ g.behind = h.behind

/-- What a comparison yields is a matter of the data. -/
def RmwGid.DataDecides (g h : RmwGid m) : Prop :=
  ∀ g' h' : RmwGid m, g'.data = g.data → h'.data = h.data → g'.Own → h'.Own →
    rmwCompareGidsEqual (some g') (some h') = rmwCompareGidsEqual (some g) (some h)

theorem compare_own (g h : RmwGid m) (own : g.Own) (own' : h.Own) :
    ∃ same, rmwCompareGidsEqual (some g) (some h) = (.ok, some same) := by
  unfold rmwCompareGidsEqual
  dsimp only
  rw [if_neg (not_or.2 ⟨own, own'⟩)]
  exact ⟨_, rfl⟩

theorem dataDecides_iff {g h : RmwGid m} (own : g.Own) (own' : h.Own) :
    g.DataDecides h ↔ g.data ≠ h.data := by
  constructor
  · intro decides same
    -- the same data, with equal and with different bytes behind
    have zeros : (List.replicate (m.pointerSize + m.tail) (0 : UInt8)).length = m.pointerSize + m.tail :=
      List.length_replicate
    have ones : (List.replicate (m.pointerSize + m.tail) (1 : UInt8)).length = m.pointerSize + m.tail :=
      List.length_replicate
    let g' : RmwGid m := { g with behind := _, behind_length := zeros }
    let equal : RmwGid m := { h with behind := _, behind_length := zeros }
    let other : RmwGid m := { h with behind := _, behind_length := ones }
    have yes : rmwCompareGidsEqual (some g') (some equal) = (.ok, some true) :=
      (compare_eq_true_iff g' equal).2 ⟨own, own', same, rfl⟩
    have like := (decides g' equal rfl rfl own own').trans (decides g' other rfl rfl own own').symm
    rw [yes] at like
    obtain ⟨-, -, -, behind⟩ := (compare_eq_true_iff g' other).1 like.symm
    have first := congrArg List.head? behind
    have pos := m.pointerSize_pos
    simp only [g', other, List.head?_replicate] at first
    rw [if_neg (by omega), if_neg (by omega)] at first
    cases first
  · intro apart g' h' data data' own₁ own₂
    have no : ∀ x y : RmwGid m, x.data = g.data → y.data = h.data → x.Own → y.Own →
        rmwCompareGidsEqual (some x) (some y) = (.ok, some false) := by
      intro x y hx hy ownX ownY
      obtain ⟨same, compared⟩ := compare_own x y ownX ownY
      cases same with
      | false => exact compared
      | true =>
        obtain ⟨-, -, same, -⟩ := (compare_eq_true_iff x y).1 compared
        exact absurd (hx.symm.trans (same.trans hy)) apart
    rw [no g' h' data data' own₁ own₂, no g h rfl rfl own own']

section Compared

variable {s : State} (count : ObjectKind → Nat → Nat) {p q : GidOwner}

/-- An id in a context where fewer than 65536 have been drawn. -/
theorem GidOwner.id_small (wf : Wf cfg s) (counted : Counted p.object (count p.object) s)
    (few : ∀ k, ∀ c ∈ s.w.ent.session.elements, count k c < 65536) (live : p.Live s.w.ent) :
    (p.objectId s.w.ent).id < 65536 := by
  obtain ⟨-, opened, issued⟩ := issued wf counted.rooted live
  have below := counted.below _ opened (few _ _ opened) _ _ issued
  have counter := counted.counter _ opened (few _ _ opened)
  have bound := few p.object (p.context s.w.ent) opened
  omega

/-- Inside a context the ids of a kind are different. -/
theorem GidOwner.eq_of_id (wf : Wf cfg s) (counted : Counted p.object (count p.object) s)
    (few : ∀ k, ∀ c ∈ s.w.ent.session.elements, count k c < 65536) (hp : p.Live s.w.ent)
    (hq : q.Live s.w.ent) (object : p.object = q.object)
    (context : p.context s.w.ent = q.context s.w.ent)
    (id : (p.objectId s.w.ent).id = (q.objectId s.w.ent).id) : p = q := by
  obtain ⟨-, opened, issuedP⟩ := issued wf counted.rooted hp
  obtain ⟨-, -, issuedQ⟩ := issued (p := q) wf (object ▸ counted.rooted) hq
  rw [← object, ← context, ← id] at issuedQ
  exact eq_of_slot object (counted.unique _ opened (few _ _ opened) _ _ _ issuedP issuedQ)

/-- A comparison of what the getters have written. -/
theorem compare_filled_iff (wf : Wf cfg s) (counted : ∀ r : GidOwner, Counted r.object (count r.object) s)
    (few : ∀ k, ∀ c ∈ s.w.ent.session.elements, count k c < 65536) (hp : p.Live s.w.ent)
    (hq : q.Live s.w.ent)
    {padding : GidOwner → Vector UInt8 m.padding} {g₀ h₀ g h : RmwGid m}
    (filledP : p.getGid m s.w.ent padding g₀ = some (.ok, some g))
    (filledQ : q.getGid m s.w.ent padding h₀ = some (.ok, some h)) :
    rmwCompareGidsEqual (some g) (some h) = (.ok, some true) ↔ g₀.Level h₀ ∧ p.object = q.object ∧
      (p.objectId s.w.ent).id = (q.objectId s.w.ent).id ∧ padding p = padding q := by
  obtain ⟨room, rfl⟩ := GidOwner.getGid_live wf hp filledP
  obtain ⟨room', rfl⟩ := GidOwner.getGid_live wf hq filledQ
  have typeP := (GidOwner.issued wf (counted p).rooted hp).1
  have typeQ := (GidOwner.issued wf (counted q).rooted hq).1
  have smallP := GidOwner.id_small count wf (counted p) few hp
  have smallQ := GidOwner.id_small count wf (counted q) few hq
  rw [compare_eq_true_iff, RmwGid.fill_data, UxrObjectId.bytes_inj smallP smallQ, typeP, typeQ]
  constructor
  · rintro ⟨own, own', ⟨id, object, padded⟩, behind⟩
    exact ⟨⟨own, own', behind⟩, object, id, padded⟩
  · rintro ⟨⟨own, own', behind⟩, object, id, padded⟩
    exact ⟨own, own', ⟨id, object, padded⟩, behind⟩

end Compared

/-- **Gids identify entities** in a comparison that finds nothing but the data to tell them apart, and
unless two contexts have given out the same id. The data decide the comparison when they differ. -/
theorem gids_identify_iff (m : GidPlatform) (cfg : Config) (is : List Step)
    (few : ∀ k, ∀ c ∈ (run cfg is).w.ent.session.elements, creations cfg k is c < 65536)
    (padding : GidOwner → Vector UInt8 m.padding)
    {p q : GidOwner} (hp : p.Live (run cfg is).w.ent) (hq : q.Live (run cfg is).w.ent)
    {g₀ h₀ g h : RmwGid m} (filledP : p.getGid m (run cfg is).w.ent padding g₀ = some (.ok, some g))
    (filledQ : q.getGid m (run cfg is).w.ent padding h₀ = some (.ok, some h)) :
    ((rmwCompareGidsEqual (some g) (some h) = (.ok, some true) ↔ p = q) ↔
      if p = q then g₀.Level h₀
      else ¬ (g₀.Level h₀ ∧ p.Twins (run cfg is).w.ent q ∧ padding p = padding q)) ∧
    ∀ g h : RmwGid m, g.Own → h.Own → (g.DataDecides h ↔ g.data ≠ h.data) := by
  refine ⟨?_, fun g h own own' => dataDecides_iff own own'⟩
  have wf := (run_path cfg is).2.wf
  have counted : ∀ r : GidOwner, Counted r.object (creations cfg r.object is) (run cfg is) :=
    fun r => counted_of_run cfg is r.plain
  rw [compare_filled_iff (fun k => creations cfg k is) wf counted few hp hq filledP filledQ]
  split
  · rename_i same
    subst same
    simp
  · rename_i other
    rw [iff_false_right other]
    constructor
    · rintro no ⟨level, ⟨object, -, id⟩, padded⟩
      exact no ⟨level, object, id, padded⟩
    · rintro no ⟨level, object, id, padded⟩
      refine no ⟨level, ⟨object, fun context => ?_, id⟩, padded⟩
      exact other (GidOwner.eq_of_id (fun k => creations cfg k is) wf (counted p) few hp hq object context id)

namespace Small

/-- `uxrObjectId` with one byte of padding, and 16 bytes in a gid. -/
def gidPlatform : GidPlatform where
  storageSize := 16
  pointerSize := 8
  pointerSize_pos := by decide
  tail := 0
  typeByte
    | .invalid => 0
    | .participant => 1
    | .topic => 2
    | .publisher => 3
    | .subscriber => 4
    | .datawriter => 5
    | .datareader => 6
    | .requester => 7
    | .replier => 8
  typeByte_injective a b same := by
    cases a <;> cases b <;> first | rfl | cases same
  bigEndian := false
  padding := 1

/-- A gid of this implementation with a byte repeated behind its array. -/
def gid (b : UInt8) : RmwGid gidPlatform where
  implementationIdentifier := some .eprosimaMicroxrcedds
  data := List.replicate 16 0
  behind := List.replicate 8 b
  data_length := rfl
  behind_length := rfl

/-- Two contexts with a node and a publisher each. -/
def twoPublishers : List Step :=
  [init 0, init 0, createNode 1, createNode 0, createPublisher typeSupport,
    ⟨.createPublisher (some 0) (some typeSupport) (some ['t']) (some (profile 1 ⟨0, 0⟩)), confirming⟩]

/-- A gid that a getter has filled with the first id of a context. -/
def filled (b : UInt8) : RmwGid gidPlatform :=
  (gid b).fill ⟨0, .publisher⟩ (Vector.replicate 1 0) (by decide)

end Small

/-- A publisher is compared with itself. -/
theorem gids_identify_single :
    rmwCompareGidsEqual (some (Small.filled 0)) (some (Small.filled 0)) = (.ok, some true) := by
  have live : (GidOwner.publisher 1).Live (run Small.config Small.twoPublishers).w.ent := by
    show 1 ∈ (run Small.config Small.twoPublishers).w.ent.publisher.elements
    decide +kernel
  have filled : (GidOwner.publisher 1).getGid Small.gidPlatform (run Small.config Small.twoPublishers).w.ent
      (fun _ => Vector.replicate 1 0) (Small.gid 0) = some (.ok, some (Small.filled 0)) := by
    decide +kernel
  have few : ∀ k, ∀ c ∈ (run Small.config Small.twoPublishers).w.ent.session.elements,
      creations Small.config k Small.twoPublishers c < 65536 := fun k c _ =>
    Nat.lt_of_le_of_lt (creations_le_length _ _ _ _) (by decide)
  have both := (gids_identify_iff Small.gidPlatform Small.config Small.twoPublishers few _ live live filled
    filled).1
  rw [if_pos rfl] at both
  exact (both.2 ⟨by decide, by decide, rfl⟩).2 rfl

/-- The first publishers of two contexts have equal gids, and two gids of one publisher differ by what
lies behind them. -/
theorem gids_confuse :
    let e := (run Small.config Small.twoPublishers).w.ent
    let get := fun p => GidOwner.getGid Small.gidPlatform e (fun _ => Vector.replicate 1 0) p
    (GidOwner.publisher 0).Live e ∧ (GidOwner.publisher 1).Live e ∧
      (∀ k c, creations Small.config k Small.twoPublishers c < 65536) ∧
      get (.publisher 0) (Small.gid 0) = some (.ok, some (Small.filled 0)) ∧
      get (.publisher 1) (Small.gid 0) = some (.ok, some (Small.filled 0)) ∧
      get (.publisher 1) (Small.gid 1) = some (.ok, some (Small.filled 1)) ∧
      rmwCompareGidsEqual (some (Small.filled 0)) (some (Small.filled 0)) = (.ok, some true) ∧
      rmwCompareGidsEqual (some (Small.filled 0)) (some (Small.filled 1)) = (.ok, some false) ∧
      (Small.filled 0).data = (Small.filled 1).data := by
  refine ⟨?_, ?_, fun k c => ?_, ?_⟩
  · decide +kernel
  · decide +kernel
  · exact Nat.lt_of_le_of_lt (creations_le_length _ _ _ _) (by decide)
  · decide +kernel

end RmwMicroxrcedds
