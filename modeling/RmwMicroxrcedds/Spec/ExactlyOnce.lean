import RmwMicroxrcedds.Proof.Numbers

/-!
# Each message once, and unmixed

A take presents the payload and the identity of one callback, and no callback's sample is handed
out twice.
-/

namespace RmwMicroxrcedds
set_option autoImplicit false

variable {cfg : Config}

/-- The identity that the taker of an event's sample is given. -/
def SessionEvent.header : SessionEvent → TakeHeader
  | .request _ sampleId _ _ =>
    ⟨some sampleId.toRequestId.sequenceNumber, some sampleId.toRequestId.writerGuid⟩
  | .reply _ replyId _ _ => ⟨some (BitVec.ofNat 64 (replyId % 65536)), none⟩
  | _ => .untouched

/-- A take presents the sample of the event: the bytes, all of them, and the identity. -/
structure Presents (r : TakeResult) (ev : SessionEvent) : Prop where
  payload : r.payload = some (ev.bytes.take ev.length)
  length : (ev.bytes.take ev.length).length = ev.length
  header : r.header = ev.header

/-! ## What a take presents -/

/-- The header a take writes is the identity of the sample, for an owner that matches it. -/
def Identifies (owner : Option Owner) (header : StaticInputBuffer → TakeHeader) : Prop :=
  ∀ o ev now d, owner = some o → SessionEvent.Addresses ev o → header (ev.stored o now d) = ev.header

/-- A take that finds a buffer presents the sample of one recorded callback and releases the buffer
that holds it. -/
theorem takeOldest_presents {s : State} (wf : Wf cfg s) (h : Numbered s) {owner : Option Owner}
    {header : StaticInputBuffer → TakeHeader} (cdrDeserialize : List UInt8 → Bool)
    (identifies : Identifies owner header)
    (found : (takeOldest owner header cdrDeserialize s).1.payload ≠ none) :
    let t := (rmwUxrceCleanExpiredStaticInputBuffer s).2
    let r := takeOldest owner header cdrDeserialize s
    ∃ c ∈ s.trace, ∃ session ev, c.act = .callback session ev ∧ Presents r.1 ev ∧
      (∃ o, owner = some o ∧ ev.Addresses o) ∧
      ∃ i, rmwUxrceFindStaticInputBufferByOwner t.w.buf owner = some i ∧
        r.2 = (t.record (.take owner i r.1.taken)).mapBuf (·.putMemory i) ∧
        (t.ghost.source i).map Source.rx = some c.ghost.rx := by
  intro t r
  obtain ⟨-, wf', cleaned⟩ := clean_spec wf
  rcases takeOldest_run wf owner header cdrDeserialize with ⟨-, e⟩ | ⟨i, head, queued, same, e⟩
  · exact absurd (by rw [e]) found
  · have queued' : i ∈ s.queue := by
      rw [cleaned.queue] at queued
      exact (List.mem_filter.1 queued).1
    obtain ⟨src, holds⟩ := h.sourced.holds i queued'
    obtain ⟨c, hc, origin⟩ := h.origin i queued' src holds.source
    obtain ⟨o, now, d, addresses, content⟩ := holds.content
    have slot : (rmwUxrceCleanExpiredStaticInputBuffer s).2.slot i = src.event.stored o now d :=
      (congrFun cleaned.slot i).trans content
    have owner_eq : owner = some o := by rw [← same, slot]; rfl
    have payload := SessionEvent.stored_payload src.event o now d holds.read
    refine ⟨c, hc, src.session, src.event, origin.act, ⟨?_, ?_, ?_⟩, ⟨o, owner_eq, addresses⟩, i,
      head, ?_, ?_⟩
    · simp only [r, e, slot, payload]
    · rw [List.length_take, Nat.min_eq_left holds.read]
    · simp only [r, e, slot]
      exact identifies o src.event now d owner_eq addresses
    · simp only [r, e]
      rfl
    · rw [cleaned.ghost, holds.source, origin.number]
      rfl

/-- The number such a take hands out. -/
theorem handedOut_of_take {t : State} {owner : Option Owner} {i : Nat} {taken : Bool} {n : Nat}
    (source : (t.ghost.source i).map Source.rx = some n) :
    ((t.record (.take owner i taken)).mapBuf (·.putMemory i)).trace.head?.bind Moment.handedOut? =
      if taken then some n else none := by
  cases taken with
  | false => rfl
  | true => exact source

theorem takeFrom_presents {β : Type} [Element β] {k : Kind β} {s : State} (wf : Wf cfg s)
    (h : Numbered s) {i : Nat} {header : StaticInputBuffer → TakeHeader}
    (cdrDeserialize : List UInt8 → Bool) (identifies : ∀ j, Identifies (k.owner j) header)
    (found : (takeFrom k i header cdrDeserialize s).1.payload ≠ none) :
    let r := takeFrom k i header cdrDeserialize s
    ∃ c ∈ s.trace, ∃ session ev, c.act = .callback session ev ∧ Presents r.1 ev ∧
      (r.2.trace.head?.bind Moment.handedOut? = if r.1.taken then some c.ghost.rx else none) ∧
      ∃ j o, k.owner j = some o ∧ ev.Addresses o := by
  intro r
  have e : r = if (Element.handle ((k.slots s.w.ent).custom i)).implementationIdentifier =
        some .foreign then (takeRefused, s)
      else takeOldest ((Element.handle ((k.slots s.w.ent).custom i)).data.bind k.owner) header
        cdrDeserialize s := by
    simp only [r, takeFrom]
    rw [Prog.bind_run, readElement_run]
    split <;> rfl
  by_cases foreign : (Element.handle ((k.slots s.w.ent).custom i)).implementationIdentifier =
      some .foreign
  · rw [if_pos foreign] at e
    exact absurd (congrArg (fun r => r.1.payload) e) found
  · rw [if_neg foreign] at e
    rw [e]
    set owner := (Element.handle ((k.slots s.w.ent).custom i)).data.bind k.owner with howner
    have identifies' : Identifies owner header := by
      rw [howner]
      cases (Element.handle ((k.slots s.w.ent).custom i)).data with
      | none => exact fun o ev now d none => by cases none
      | some j => exact identifies j
    obtain ⟨c, hc, session, ev, act, presents, ⟨o, own, addresses⟩, j, -, taken, source⟩ :=
      takeOldest_presents wf h cdrDeserialize identifies' (by rw [← e]; exact found)
    refine ⟨c, hc, session, ev, act, presents, ?_, ?_⟩
    · rw [taken]
      exact handedOut_of_take source
    · obtain ⟨j, -, owner⟩ := Option.bind_eq_some_iff.1 (howner ▸ own)
      exact ⟨j, o, owner, addresses⟩

/-- The take functions write the identity of the sample taken. -/
theorem identifies_subscription (j : Nat) :
    Identifies (Kind.subscription.owner j) fun _ => .untouched := by
  intro o ev now d ho addresses
  obtain rfl := Option.some.inj ho
  cases ev <;> first | rfl | exact addresses.elim

theorem identifies_service (j : Nat) : Identifies (Kind.service.owner j) requestHeader := by
  intro o ev now d ho addresses
  obtain rfl := Option.some.inj ho
  cases ev <;> first | rfl | exact addresses.elim

theorem identifies_client (j : Nat) : Identifies (Kind.client.owner j) responseHeader := by
  intro o ev now d ho addresses
  obtain rfl := Option.some.inj ho
  cases ev <;> first | rfl | exact addresses.elim

/-- The calls that give back the result of a take. -/
theorem took_cases {c : Call} {s : State} {r : TakeResult} (h : (perform cfg c s).1 = .took r) :
    (∃ i f, c = .take i f ∧ r = (rmwTakeWithInfo i f s).1) ∨
    (∃ i f, c = .takeRequest i f ∧ r = (rmwTakeRequest i f s).1) ∨
    ∃ i f, c = .takeResponse i f ∧ r = (rmwTakeResponse i f s).1 := by
  cases c with
  | take i f => exact .inl ⟨i, f, rfl, (Reply.took.inj h).symm⟩
  | takeRequest i f => exact .inr (.inl ⟨i, f, rfl, (Reply.took.inj h).symm⟩)
  | takeResponse i f => exact .inr (.inr ⟨i, f, rfl, (Reply.took.inj h).symm⟩)
  | sendRequest env client =>
    rw [perform, Prog.bind_run] at h
    generalize (rmwSendRequest cfg env client s).1 = sent at h
    cases sent <;> cases h
  | sendResponse env service =>
    rw [perform, Prog.bind_run] at h
    generalize (rmwSendResponse cfg env service s).1 = sent at h
    cases sent <;> cases h
  | _ => cases h

/-- **Exactly once, unmixed.** In every run the callbacks have different numbers, no number is
handed out twice, and whatever a take presents comes from one callback of the run. -/
theorem handed_out_once_unmixed (is : List Step) :
    ((run cfg is).trace.filterMap Moment.number?).Nodup ∧
    ((run cfg is).trace.filterMap Moment.handedOut?).Nodup ∧
    ∀ (i : Step) (r : TakeResult), (call cfg (run cfg is) i).1 = .took r → r.payload ≠ none →
      ∃ c ∈ (run cfg is).trace, ∃ session ev, c.act = .callback session ev ∧ Presents r ev ∧
        (run cfg (is ++ [i])).trace.head?.bind Moment.handedOut? =
          if r.taken then some c.ghost.rx else none := by
  have numbered := run_numbered cfg is
  refine ⟨numbered.numbers, numbered.once, fun i r result found => ?_⟩
  have wf : Wf cfg ((run cfg is).enter i) := { (run_path cfg is).2.wf with }
  have numbered' : Numbered ((run cfg is).enter i) := numbered.atomic
    ⟨(run_path cfg is).2.wf, wf, .enter i.call.kind i.agent (run_path cfg is).2.done⟩
  rw [run_concat]
  rw [call] at result ⊢
  split at result
  · rw [if_pos ‹_›]
    rcases took_cases result with ⟨j, f, e, rfl⟩ | ⟨j, f, e, rfl⟩ | ⟨j, f, e, rfl⟩ <;> rw [e]
    · obtain ⟨c, hc, session, ev, act, presents, number, -⟩ :=
        takeFrom_presents wf numbered' f identifies_subscription found
      exact ⟨c, hc, session, ev, act, presents, number⟩
    · obtain ⟨c, hc, session, ev, act, presents, number, -⟩ :=
        takeFrom_presents wf numbered' f identifies_service found
      exact ⟨c, hc, session, ev, act, presents, number⟩
    · obtain ⟨c, hc, session, ev, act, presents, number, -⟩ :=
        takeFrom_presents wf numbered' f identifies_client found
      exact ⟨c, hc, session, ev, act, presents, number⟩
  · cases result

/-- A subscription of depth 1 receives two samples before it is taken from: the second has replaced
the first in place, and is handed out whole. -/
theorem handed_out_once_unmixed_replaced :
    let is := [Small.init 0, Small.createNode 1, Small.createSubscription 1 (Small.profile 1 ⟨0, 0⟩),
      Small.wait 1 [Small.sample 0 [7, 7], .time 1, Small.sample 0 [8]]]
    (call Small.config (run Small.config is) (Small.take 1)).1 =
        .took { ret := .ok, taken := true, payload := some [8], header := .untouched } ∧
      ∃ c ∈ (run Small.config is).trace, ∃ session ev, c.act = .callback session ev ∧
        Presents { ret := .ok, taken := true, payload := some [8], header := .untouched } ev ∧
        (run Small.config (is ++ [Small.take 1])).trace.head?.bind Moment.handedOut? =
          some c.ghost.rx :=
  have result := by decide
  ⟨result, (handed_out_once_unmixed _).2.2 (Small.take 1) _ result (by simp)⟩

end RmwMicroxrcedds
