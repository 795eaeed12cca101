import RmwMicroxrcedds.Model.Sends
import RmwMicroxrcedds.Proof.Calm

/-!
# What a send reports

A publication reports success only if it has prepared the stream, serialised the message and, on a
reliable stream, seen the delivery confirmed. A request and a response are reported as sent once their
stream is prepared. All three give the stream back once.
-/

namespace RmwMicroxrcedds.Sends
set_option autoImplicit false

variable {α γ β : Type} {cfg : Config} {env : SendEnvironment}

/-! ## Writing down -/

theorem bind_run (p : Traced α) (f : α → Traced γ) (l : List SendEvent) (s : State) :
    (p >>= f) l s = f (p l s).1.1 (p l s).1.2 (p l s).2 := rfl

theorem read_run {δ : Type} [Element δ] (k : Kind δ) (i : Nat) (l : List SendEvent) (s : State) :
    (liftM (readElement k i) : Traced δ) l s = (((k.slots s.w.ent).custom i, l), s) := rfl

/-- Without its events the one program is the other. -/
def Erases (p : Traced α) (q : Prog α) : Prop := ∀ l s, ((p l s).1.1, (p l s).2) = q s

theorem Erases.lift (q : Prog α) : Erases (liftM q : Traced α) q := fun _ _ => rfl

theorem Erases.pure (a : α) : Erases (pure a) (pure a) := fun _ _ => rfl

theorem Erases.bind {p : Traced α} {q : Prog α} {f : α → Traced γ} {g : α → Prog γ} (h : Erases p q)
    (next : ∀ a, Erases (f a) (g a)) : Erases (p >>= f) (q >>= g) := by
  intro l s
  have first := h l s
  rw [bind_run, Prog.bind_run, ← first]
  exact next _ _ _

theorem Erases.ite {P : Prop} [Decidable P] {p p' : Traced α} {q q' : Prog α} (yes : Erases p q)
    (no : Erases p' q') : Erases (if P then p else p') (if P then q else q') := by
  split
  · exact yes
  · exact no

/-- An event is nothing to the program. -/
theorem Erases.tell_bind (event : SendEvent) {p : Traced α} {q : Prog α} (h : Erases p q) :
    Erases (tell event >>= fun _ => p) q := fun l s => h (l ++ [event]) s

theorem finish_erases (context : Nat) (stream : UxrStreamType) :
    Erases (finish cfg context stream) (deliver cfg context stream) := by
  apply Erases.tell_bind
  apply Erases.ite
  · exact Erases.tell_bind _ (Erases.pure true)
  · exact (Erases.lift _).bind fun confirmed => Erases.tell_bind _ (Erases.pure confirmed)

theorem prepare_erases (context : Nat) : Erases (prepareOutputStream cfg env context)
    (flushSession cfg context env.flushes >>= fun _ => pure env.prepared) :=
  (Erases.lift _).bind fun _ => Erases.tell_bind _ (Erases.pure env.prepared)

theorem rmwPublish_erases (publisher : Option Nat) :
    Erases (rmwPublish cfg env publisher) (RmwMicroxrcedds.rmwPublish cfg env publisher) := by
  unfold rmwPublish RmwMicroxrcedds.rmwPublish
  cases publisher with
  | none => exact Erases.pure _
  | some i =>
    refine (Erases.lift _).bind fun b => Erases.ite ?_ (Erases.pure _)
    cases b.rmwPublisher.data with
    | none => exact Erases.pure _
    | some custom =>
      refine (Erases.lift _).bind fun customPublisher => (Erases.lift _).bind fun context => ?_
      refine (prepare_erases context).bind fun prepared => Erases.ite ?_ (Erases.pure _)
      refine Erases.tell_bind _ ?_
      exact (finish_erases context _).bind fun delivered => Erases.pure _

theorem Erases.identity_bind (sampleId : Option SampleIdentity) {p : Traced α} {q : Prog α}
    (h : Erases p q) : Erases (serializeSampleIdentity sampleId >>= fun _ => p) q := by
  cases sampleId with
  | none => exact h
  | some sampleId => exact h.tell_bind (.identify sampleId)

section

variable {δ : Type} [Element δ] (k : Kind δ) (ownerNode : δ → Option Nat)
  (streamId : δ → UxrStreamType) (sampleId : Option SampleIdentity) (i : Nat)

theorem sendOn_erases :
    Erases (sendOn cfg env k ownerNode streamId sampleId i)
      (RmwMicroxrcedds.sendOn cfg env k ownerNode streamId i) := by
  unfold sendOn RmwMicroxrcedds.sendOn
  refine (Erases.lift _).bind fun b => Erases.ite (Erases.pure _) ?_
  cases (Element.handle b).data with
  | none => exact Erases.pure _
  | some custom =>
    refine (Erases.lift _).bind fun b => (Erases.lift _).bind fun context => ?_
    refine (prepare_erases context).bind fun prepared => Erases.ite ?_ (Erases.pure _)
    refine Erases.identity_bind sampleId (Erases.tell_bind _ ?_)
    exact (finish_erases context _).bind fun _ => Erases.pure _

end

/-- **The steps are those of the sends** as they are modelled without them. -/
theorem Send.run_erases (send : Send) : Erases (send.run cfg env) (send.perform cfg env) := by
  cases send with
  | publish publisher => exact (rmwPublish_erases publisher).bind fun ret => Erases.pure _
  | request client => exact sendOn_erases .client _ _ none client
  | response service requestHeader => exact sendOn_erases .service _ _ _ service

/-! ## Reports -/

/-- The stream of the entity behind a handle. -/
def Send.stream (s : State) : Send → Option UxrStreamType
  | .publish publisher => do
    let custom ← (s.w.ent.publisher.custom (← publisher)).rmwPublisher.data
    return (s.w.ent.publisher.custom custom).streamId
  | .request client => (s.w.ent.client.custom client).rmwClient.data.map fun custom =>
      (s.w.ent.client.custom custom).streamId
  | .response service _ => (s.w.ent.service.custom service).rmwService.data.map fun custom =>
      (s.w.ent.service.custom custom).streamId

/-- A send over a stream reports success only after every step has succeeded, and gives a prepared
stream back once. -/
structure Reports (stream : Option UxrStreamType) (ret : Option RmwRet) (events : List SendEvent) :
    Prop where
  prepared : ret = some .ok → .prepare true ∈ events
  serialized : ret = some .ok → .serialize true ∈ events
  confirmed : ret = some .ok → stream = some .reliable → .confirm true ∈ events
  released : .prepare true ∈ events → events.count .unlock = 1

/-- `finish` on a given state. -/
theorem finish_run (cfg : Config) (context : Nat) (stream : UxrStreamType) (l : List SendEvent) (s : State) :
    (finish cfg context stream l s).1 =
      if stream = .bestEffort then (true, l ++ [.unlock] ++ [.flash])
      else ((uxrRunSession cfg context s).1,
        l ++ [.unlock] ++ [.confirm (uxrRunSession cfg context s).1]) := by
  by_cases best : stream = .bestEffort
  · simp only [finish, best, if_true]
    rfl
  · simp only [finish, best, if_false]
    rfl

/-- Nothing was prepared and nothing reported. -/
theorem reports_of_error {stream : Option UxrStreamType} {ret : Option RmwRet} {events : List SendEvent}
    (failed : ret ≠ some .ok) (untouched : .prepare true ∉ events) : Reports stream ret events where
  prepared ok := absurd ok failed
  serialized ok := absurd ok failed
  confirmed ok := absurd ok failed
  released locked := absurd locked untouched

/-- A stream that was prepared is given back once, and success is reported rightly if the message was
serialised and the delivery, where it has to be, confirmed. -/
theorem reports_finished {stream : UxrStreamType} {ret : Option RmwRet} {serialized confirmed : Bool}
    (sampleId : Option SampleIdentity) :
    Reports (some stream) ret (.prepare true :: sampleId.toList.map .identify ++ [.serialize serialized] ++
        [.unlock] ++ [if stream = .bestEffort then .flash else .confirm confirmed]) ↔
      (ret = some .ok → serialized = true ∧ (stream = .reliable → confirmed = true)) := by
  constructor
  · intro h ok
    constructor
    · have done := h.serialized ok
      by_cases best : stream = .bestEffort
      · simpa [best, eq_comm] using done
      · simpa [best, eq_comm] using done
    · rintro rfl
      simpa [eq_comm] using h.confirmed ok rfl
  · intro h
    refine ⟨fun _ => by simp, fun ok => by simp [(h ok).1], fun ok reliable => ?_, fun _ => ?_⟩
    · obtain rfl := Option.some.inj reliable
      simp [(h ok).2 rfl]
    · have identified : (sampleId.toList.map SendEvent.identify).count .unlock = 0 := by
        refine List.count_eq_zero.2 fun mem => ?_
        obtain ⟨_, -, e⟩ := List.mem_map.1 mem
        cases e
      by_cases best : stream = .bestEffort
      · simp [best, identified]
      · simp [best, identified]

section

variable {δ : Type} [Element δ] (k : Kind δ) (ownerNode : δ → Option Nat)
  (streamId : δ → UxrStreamType) (sampleId : Option SampleIdentity) (i : Nat)

/-- The delivery that the client library reports to a send over the entity. -/
def deliveryConfirmed (cfg : Config) (custom : Nat) (s : State) : Bool :=
  let context := (contextOf (deref (ownerNode ((k.slots s.w.ent).custom custom))) s).1
  (uxrRunSession cfg context s).1

/-- What is written to a stream that was prepared, ahead of its release. -/
theorem written_run (env : SendEnvironment) (l : List SendEvent) (context : Nat) (stream : UxrStreamType)
    (s : State) :
    ((do
        serializeSampleIdentity sampleId
        let _ ← cdrSerialize env
        let _ ← finish cfg context stream
        return some .ok : Traced (Option RmwRet)) l s).1 =
      (some .ok, (finish cfg context stream
        (l ++ sampleId.toList.map .identify ++ [.serialize env.serialized]) s).1.2) := by
  cases sampleId with
  | none =>
    rw [Option.toList_none, List.map_nil, List.append_nil]
    rfl
  | some sampleId => rfl

/-- The sends over an entity, once its handle has been looked at. -/
theorem sendOn_run (s : State) {custom : Nat}
    (ours : (Element.handle ((k.slots s.w.ent).custom i)).implementationIdentifier ≠ some .foreign)
    (data : (Element.handle ((k.slots s.w.ent).custom i)).data = some custom) :
    let stream := streamId ((k.slots s.w.ent).custom custom)
    (sendOn cfg env k ownerNode streamId sampleId i [] s).1 =
      if env.prepared = true then
        (some .ok, .prepare true :: sampleId.toList.map .identify ++ [.serialize env.serialized] ++
          [.unlock] ++
          [if stream = .bestEffort then .flash else .confirm (deliveryConfirmed k ownerNode cfg custom s)])
      else (some .error, [.prepare false]) := by
  intro stream
  set context := (contextOf (deref (ownerNode ((k.slots s.w.ent).custom custom))) s).1 with here
  have run : sendOn cfg env k ownerNode streamId sampleId i [] s =
      (if env.prepared then (do
          serializeSampleIdentity sampleId
          let _ ← cdrSerialize env
          let _ ← finish cfg context stream
          return some .ok : Traced (Option RmwRet))
        else return some .error) [.prepare env.prepared] s := by
    unfold sendOn
    rw [bind_run, read_run]
    dsimp only
    rw [if_neg ours, data]
    rfl
  rw [run]
  cases env.prepared with
  | false => rfl
  | true =>
    simp only [if_true]
    rw [written_run, finish_run, deliveryConfirmed, ← here]
    by_cases best : stream = .bestEffort
    · simp only [if_pos best]
      rfl
    · simp only [if_neg best]
      rfl

/-- A handle of another implementation, and the dereference of NULL. -/
theorem sendOn_refused (cfg : Config) (env : SendEnvironment) (s : State)
    (refused : (Element.handle ((k.slots s.w.ent).custom i)).implementationIdentifier = some .foreign ∨
      (Element.handle ((k.slots s.w.ent).custom i)).data = none) :
    ∃ ret, ret ≠ some .ok ∧ (sendOn cfg env k ownerNode streamId sampleId i [] s).1 = (ret, []) := by
  by_cases ours : (Element.handle ((k.slots s.w.ent).custom i)).implementationIdentifier = some .foreign
  · refine ⟨some .incorrectRmwImplementation, by simp, ?_⟩
    unfold sendOn
    rw [bind_run, read_run]
    dsimp only
    rw [if_pos ours]
    rfl
  · refine ⟨none, by simp, ?_⟩
    unfold sendOn
    rw [bind_run, read_run]
    dsimp only
    rw [if_neg ours, refused.resolve_left ours]
    rfl

theorem sendOn_reports (s : State) :
    Reports ((Element.handle ((k.slots s.w.ent).custom i)).data.map fun custom =>
        streamId ((k.slots s.w.ent).custom custom))
      (sendOn cfg env k ownerNode streamId sampleId i [] s).1.1
      (sendOn cfg env k ownerNode streamId sampleId i [] s).1.2 ↔
    ((Element.handle ((k.slots s.w.ent).custom i)).implementationIdentifier ≠ some .foreign →
      ∀ custom, (Element.handle ((k.slots s.w.ent).custom i)).data = some custom →
        env.prepared = true → env.serialized = true ∧
          (streamId ((k.slots s.w.ent).custom custom) = .reliable →
            deliveryConfirmed k ownerNode cfg custom s = true)) := by
  by_cases refused :
      (Element.handle ((k.slots s.w.ent).custom i)).implementationIdentifier = some .foreign ∨
        (Element.handle ((k.slots s.w.ent).custom i)).data = none
  · obtain ⟨ret, failed, ran⟩ := sendOn_refused k ownerNode streamId sampleId i cfg env s refused
    rw [ran]
    refine iff_of_true (reports_of_error failed (by simp)) ?_
    intro ours custom data
    rcases refused with foreign | null
    · exact absurd foreign ours
    · cases null.symm.trans data
  · obtain ⟨ours, null⟩ := not_or.1 refused
    obtain ⟨custom, data⟩ := Option.ne_none_iff_exists'.1 null
    rw [sendOn_run k ownerNode streamId sampleId i s ours data, data, Option.map_some]
    cases prepared : env.prepared with
    | false =>
      refine iff_of_true (reports_of_error (by simp) (by simp)) ?_
      intro _ _ _ prepared'
      cases prepared'
    | true =>
      simp only [if_true]
      rw [reports_finished]
      constructor
      · rintro h - custom' e -
        obtain rfl := Option.some.inj e
        exact h rfl
      · rintro h -
        exact h ours custom rfl trivial

end

theorem reports_error (stream : Option UxrStreamType) : Reports stream (some .error) [] :=
  reports_of_error (by decide) (by simp)

theorem publishOn_reports (context : Nat) (stream : UxrStreamType) (s : State) :
    Reports (some stream) (some (publishOn cfg env context stream [] s).1.1)
      (publishOn cfg env context stream [] s).1.2 := by
  set t := (flushSession cfg context env.flushes s).2
  have run : (publishOn cfg env context stream [] s).1 = ((if env.prepared then (do
        let written ← cdrSerialize env
        let delivered ← finish cfg context stream
        return if written ∧ delivered then .ok else .error : Traced RmwRet)
      else return .error) [.prepare env.prepared] t).1 := rfl
  rw [run]
  cases env.prepared with
  | false =>
    show Reports (some stream) (some .error) [.prepare false]
    exact reports_of_error (by decide) (by decide)
  | true =>
    have ended := finish_run cfg context stream [.prepare true, .serialize env.serialized] t
    set finished := (finish cfg context stream [.prepare true, .serialize env.serialized] t).1
    have outcome : ((do
          let written ← cdrSerialize env
          let delivered ← finish cfg context stream
          return if written ∧ delivered then .ok else .error : Traced RmwRet) [.prepare true] t).1 =
        (if env.serialized ∧ finished.1 then .ok else .error, finished.2) := rfl
    simp only [if_true]
    rw [outcome]
    set confirmed := (uxrRunSession cfg context t).1
    have events : finished.2 = [.prepare true, .serialize env.serialized] ++ [.unlock] ++
        [if stream = .bestEffort then .flash else .confirm confirmed] := by
      rw [ended]
      by_cases best : stream = .bestEffort
      · simp only [if_pos best]
      · simp only [if_neg best]
    have delivered : finished.1 = true → stream = .reliable → confirmed = true := by
      intro done reliable
      rw [ended, reliable] at done
      exact done
    rw [events]
    refine (reports_finished none).2 fun ok => ?_
    have all : env.serialized = true ∧ finished.1 = true := by
      by_contra failed
      rw [if_neg failed] at ok
      cases ok
    exact ⟨all.1, delivered all.2⟩

/-- A publication reports what its steps have reported. -/
theorem rmwPublish_reports (publisher : Option Nat) (s : State) :
    Reports ((Send.publish publisher).stream s) (some (rmwPublish cfg env publisher [] s).1.1)
      (rmwPublish cfg env publisher [] s).1.2 := by
  cases publisher with
  | none => exact reports_error _
  | some i =>
    unfold rmwPublish
    dsimp only
    rw [bind_run, read_run]
    dsimp only
    have slots : Kind.publisher.slots s.w.ent = s.w.ent.publisher := rfl
    rw [slots]
    set handle := (s.w.ent.publisher.custom i).rmwPublisher with hh
    by_cases valid : isUxrceRmwIdentifierValid handle.implementationIdentifier = true
    · rw [if_pos valid]
      cases data : handle.data with
      | none => exact reports_error _
      | some custom =>
        have stream : (Send.publish (some i)).stream s =
            some (s.w.ent.publisher.custom custom).streamId := by
          simp [Send.stream, ← hh, data]
        rw [stream]
        exact publishOn_reports _ _ s
    · rw [if_neg valid]
      exact reports_error _

/-- The steps of a request or response that is reported as sent have all succeeded. -/
def Send.Honest (cfg : Config) (env : SendEnvironment) (s : State) : Send → Prop
  | .publish _ => True
  | .request client =>
    let handle := (s.w.ent.client.custom client).rmwClient
    handle.implementationIdentifier ≠ some .foreign → ∀ custom, handle.data = some custom →
      env.prepared = true → env.serialized = true ∧
        ((s.w.ent.client.custom custom).streamId = .reliable →
          deliveryConfirmed .client (·.ownerNode) cfg custom s = true)
  | .response service _ =>
    let handle := (s.w.ent.service.custom service).rmwService
    handle.implementationIdentifier ≠ some .foreign → ∀ custom, handle.data = some custom →
      env.prepared = true → env.serialized = true ∧
        ((s.w.ent.service.custom custom).streamId = .reliable →
          deliveryConfirmed .service (·.ownerNode) cfg custom s = true)

/-- **What a send reports** has happened, for every publication, and for exactly those requests and
responses whose message is serialised and, on a reliable stream, confirmed whenever the stream could be
prepared. -/
theorem send_reports_iff (cfg : Config) (env : SendEnvironment) (send : Send) (s : State) :
    Reports (send.stream s) (send.run cfg env [] s).1.1 (send.run cfg env [] s).1.2 ↔
      send.Honest cfg env s := by
  cases send with
  | publish publisher => exact iff_of_true (rmwPublish_reports publisher s) trivial
  | request client => exact sendOn_reports .client (·.ownerNode) (·.streamId) none client s
  | response service requestHeader =>
    exact sendOn_reports .service (·.ownerNode) (·.streamId) _ service s

open RmwMicroxrcedds.Small in
/-- A node with a service and a client, and an agent that has fallen silent. -/
def silentDialogue : State :=
  { run config [init 0, Small.createNode 1, createServiceOf 1,
      ⟨.createClient (some 1) (some serviceTypeSupport) (some ['s']) (some (profile 1 ⟨0, 0⟩)) 1,
        confirming⟩] with
    agent := [] }

/-- A request that was not serialised and one that was not confirmed are reported as sent, and so are
such responses. -/
theorem lost_sends_are_reported :
    let unserialized : SendEnvironment := ⟨true, 0, false⟩
    let unconfirmed : SendEnvironment := ⟨true, 0, true⟩
    ∀ send ∈ [Send.request 1, Send.response 1 ⟨Vector.replicate 16 0, 0⟩], ∀ env ∈ [unserialized, unconfirmed],
      (send.run Small.config env [] silentDialogue).1.1 = some .ok ∧
        ¬ Reports (send.stream silentDialogue)
          (send.run Small.config env [] silentDialogue).1.1
          (send.run Small.config env [] silentDialogue).1.2 := by
  intro unserialized unconfirmed send hsend env henv
  have reliable : ∀ send ∈ [Send.request 1, Send.response 1 ⟨Vector.replicate 16 0, 0⟩],
      send.stream silentDialogue = some .reliable := by decide +kernel
  have outcome : ∀ send ∈ [Send.request 1, Send.response 1 ⟨Vector.replicate 16 0, 0⟩], ∀ env ∈ [unserialized, unconfirmed],
      (send.run Small.config env [] silentDialogue).1.1 = some .ok ∧
        (.serialize true ∉ (send.run Small.config env [] silentDialogue).1.2 ∨
          .confirm true ∉ (send.run Small.config env [] silentDialogue).1.2) := by
    decide +kernel
  obtain ⟨ok, missing⟩ := outcome send hsend env henv
  refine ⟨ok, fun h => ?_⟩
  rcases missing with missing | missing
  · exact missing (h.serialized ok)
  · exact missing (h.confirmed ok (reliable send hsend))

end RmwMicroxrcedds.Sends
