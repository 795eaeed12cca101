import RmwMicroxrcedds.Base.Words
import RmwMicroxrcedds.Spec.ExactlyOnce
import RmwMicroxrcedds.Spec.Sends

/-!
# The identity of a request

A service hands a request out under an `rmw_request_id_t` and sends the response to whoever the id
names: it writes the sample identity onto its stream, ahead of the response. The two conversions between
the id and the sample identity, in the files of the take and of the response, are inverse to each other.
-/

namespace RmwMicroxrcedds
set_option autoImplicit false

open Sends (SendEvent Send)

variable {cfg : Config}

theorem SampleIdentity.toRequestId_eq (id : SampleIdentity) :
    id.toRequestId =
      { sequenceNumber := Words.join id.high id.low
        writerGuid := Words.assemble id.entityKind id.entityKey id.guidPrefix } := rfl

theorem RmwRequestId.toSampleIdentity_eq (id : RmwRequestId) (pos : 0 < 16) :
    id.toSampleIdentity =
      { high := Words.high id.sequenceNumber, low := Words.low id.sequenceNumber
        entityKind := id.writerGuid[0], entityKey := id.writerGuid.extract 1 4
        guidPrefix := id.writerGuid.extract 4 16 } := rfl

/-- From the sample identity to the id of the request and back. -/
theorem SampleIdentity.toSampleIdentity_toRequestId (id : SampleIdentity) :
    id.toRequestId.toSampleIdentity = id := by
  rw [RmwRequestId.toSampleIdentity_eq _ (by decide), toRequestId_eq]
  simp only [Words.high_join, Words.low_join, Words.assemble_first, Words.assemble_second,
    Words.assemble_third]

/-- From the id of the request to the sample identity and back. -/
theorem RmwRequestId.toRequestId_toSampleIdentity (id : RmwRequestId) :
    id.toSampleIdentity.toRequestId = id := by
  rw [SampleIdentity.toRequestId_eq, toSampleIdentity_eq _ (by decide)]
  simp only [Words.join_high_low, Words.assemble_extract]

theorem SampleIdentity.toRequestId_injective : Function.Injective SampleIdentity.toRequestId :=
  Function.LeftInverse.injective SampleIdentity.toSampleIdentity_toRequestId

/-- A response is reported as sent if its stream could be prepared. Then the identity is on that stream,
once, with the response behind it. -/
def RespondsWith (sampleId : SampleIdentity) (env : SendEnvironment) (ret : Option RmwRet)
    (events : List SendEvent) : Prop :=
  if env.prepared then
    ret = some .ok ∧ ∃ rest, events = .prepare true :: .identify sampleId :: .serialize env.serialized :: rest ∧
      ∀ other, .identify other ∉ rest
  else ret = some .error ∧ events = [.prepare false]

/-- What `rmw_send_response` writes, on a service with a handle of this implementation. -/
theorem rmwSendResponse_writes (env : SendEnvironment) (service : Nat) (id : RmwRequestId) (t : State)
    {custom : Nat} (ours : (t.w.ent.service.custom service).rmwService.implementationIdentifier ≠ some .foreign)
    (data : (t.w.ent.service.custom service).rmwService.data = some custom) :
    let sent := ((Send.response service id).run cfg env [] t).1
    RespondsWith id.toSampleIdentity env sent.1 sent.2 := by
  intro sent
  have run : sent = _ :=
    Sends.sendOn_run (k := .service) (·.ownerNode) (·.streamId) (some id.toSampleIdentity) service t ours data
  rw [run, RespondsWith]
  cases env.prepared with
  | false => exact ⟨rfl, rfl⟩
  | true =>
    refine ⟨rfl, _, rfl, fun other mem => ?_⟩
    rcases List.mem_cons.1 mem with e | mem
    · cases e
    · split at mem
      · simp at mem
      · simp at mem

/-- A request handed out by a take of a run: the callback that stored it, with the identity that the
header shows. -/
theorem takeRequest_source {is : List Step} {service : Nat} {cdrDeserialize : List UInt8 → Bool}
    {agent : List Answer} {r : TakeResult}
    (took : (call cfg (run cfg is) ⟨.takeRequest service cdrDeserialize, agent⟩).1 = .took r)
    (found : r.payload ≠ none) :
    ∃ c ∈ (run cfg is).trace, ∃ session requestId sampleId ub length,
      c.act = .callback session (.request requestId sampleId ub length) ∧
      r.payload = some (ub.take length) ∧
      r.header = ⟨some sampleId.toRequestId.sequenceNumber, some sampleId.toRequestId.writerGuid⟩ := by
  set i : Step := ⟨.takeRequest service cdrDeserialize, agent⟩
  have ready := (run_path cfg is).2
  have wf : Wf cfg ((run cfg is).enter i) := { ready.wf with }
  have numbered : Numbered ((run cfg is).enter i) := (run_numbered cfg is).atomic
    ⟨ready.wf, wf, .enter i.call.kind i.agent ready.done⟩
  have result : r = (rmwTakeRequest service cdrDeserialize ((run cfg is).enter i)).1 :=
    (Reply.took.inj took).symm
  rw [result] at found ⊢
  obtain ⟨c, hc, session, ev, act, presents, -, j, o, owner, addresses⟩ :=
    takeFrom_presents wf numbered cdrDeserialize identifies_service found
  obtain rfl := Option.some.inj owner
  cases ev with
  | request requestId sampleId ub length =>
    exact ⟨c, hc, session, requestId, sampleId, ub, length, act, presents.payload, presents.header⟩
  | _ => exact addresses.elim

/-- **Request identities round-trip.** In every run, the identity a request was stored with is the one
that any response to the id it was handed out under writes onto its stream; a response to any id writes an
identity that a take hands out under this id; and different identities have different ids. -/
theorem request_identity_round_trips (is : List Step) :
    (∀ service cdrDeserialize agent r,
      (call cfg (run cfg is) ⟨.takeRequest service cdrDeserialize, agent⟩).1 = .took r →
      r.payload ≠ none →
      ∃ c ∈ (run cfg is).trace, ∃ session requestId sampleId ub length,
        c.act = .callback session (.request requestId sampleId ub length) ∧
        r.payload = some (ub.take length) ∧
        ∃ id : RmwRequestId, r.header = ⟨some id.sequenceNumber, some id.writerGuid⟩ ∧
          ∀ env service' (t : State) custom,
            let handle := (t.w.ent.service.custom service').rmwService
            handle.implementationIdentifier ≠ some .foreign → handle.data = some custom →
            let sent := ((Send.response service' id).run cfg env [] t).1
            RespondsWith sampleId env sent.1 sent.2) ∧
      (∀ (id : RmwRequestId) env service' (t : State) custom,
        let handle := (t.w.ent.service.custom service').rmwService
        handle.implementationIdentifier ≠ some .foreign → handle.data = some custom →
        ∃ sampleId : SampleIdentity, sampleId.toRequestId = id ∧
          let sent := ((Send.response service' id).run cfg env [] t).1
          RespondsWith sampleId env sent.1 sent.2) ∧
      (∀ sampleId : SampleIdentity, sampleId.toRequestId.toSampleIdentity = sampleId) ∧
      Function.Injective SampleIdentity.toRequestId := by
  refine ⟨?_, ?_, SampleIdentity.toSampleIdentity_toRequestId, SampleIdentity.toRequestId_injective⟩
  · intro service cdrDeserialize agent r took found
    obtain ⟨c, hc, session, requestId, sampleId, ub, length, act, payload, header⟩ :=
      takeRequest_source took found
    refine ⟨c, hc, session, requestId, sampleId, ub, length, act, payload, sampleId.toRequestId, header, ?_⟩
    intro env service' t custom handle ours data sent
    have identified := @rmwSendResponse_writes cfg env service' sampleId.toRequestId t _ ours data
    rwa [SampleIdentity.toSampleIdentity_toRequestId] at identified
  · intro id env service' t custom handle ours data
    exact ⟨id.toSampleIdentity, id.toRequestId_toSampleIdentity, rmwSendResponse_writes env service' id t ours data⟩

/-- A request with a negative sequence number is taken, and answered with the identity it came with. -/
theorem request_identity_round_trips_answered :
    let sampleId : SampleIdentity :=
      { guidPrefix := Vector.replicate 12 0x80, entityKey := #v[1, 2, 3], entityKind := 0xFF
        high := 0x80000000, low := 0xFFFFFFFE }
    let is : List Step := [Small.init 0, Small.createNode 1,
      ⟨.createService (some 1) (some Small.serviceTypeSupport) (some ['s'])
        (some (Small.profile 1 ⟨0, 0⟩)) 5, Small.confirming⟩,
      ⟨.wait ⟨none, none, some [1], none⟩ none, [⟨[.request 5 sampleId [7] 1], true⟩]⟩]
    let r : TakeResult := ⟨.ok, true, some [7], some sampleId.toRequestId.sequenceNumber,
      some sampleId.toRequestId.writerGuid⟩
    (call Small.config (run Small.config is) ⟨.takeRequest 1 fun _ => true, []⟩).1 = .took r ∧
      ∃ c ∈ (run Small.config is).trace, ∃ session requestId stored ub length,
        c.act = .callback session (.request requestId stored ub length) ∧
        ∃ id : RmwRequestId, r.header = ⟨some id.sequenceNumber, some id.writerGuid⟩ ∧
          ∃ rest, ((Send.response 1 id).run Small.config ⟨true, 0, true⟩ [] (run Small.config is)).1.2 =
            .prepare true :: .identify stored :: .serialize true :: rest := by
  intro sampleId is r
  have took : (call Small.config (run Small.config is) ⟨.takeRequest 1 fun _ => true, []⟩).1 =
      .took r := by decide +kernel
  refine ⟨took, ?_⟩
  obtain ⟨c, hc, session, requestId, stored, ub, length, act, -, id, header, answered⟩ :=
    (request_identity_round_trips is).1 1 _ _ r took (by simp [r])
  obtain ⟨-, rest, events, -⟩ :=
    answered ⟨true, 0, true⟩ 1 (run Small.config is) 1 (by decide) (by decide)
  exact ⟨c, hc, session, requestId, stored, ub, length, act, id, header, rest, events⟩

end RmwMicroxrcedds
