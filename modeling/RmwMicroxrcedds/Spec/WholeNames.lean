import RmwMicroxrcedds.Proof.Announcements

/-!
# Whole names in the binary mode

What a creation announces is the text its arguments spell, with nothing cut off, except for nodes: the
name and the namespace of a node are each checked against the length of a buffer that the two of them
then have to share. As long as they fit together, nodes with different names or namespaces are
different to the agent.
-/

namespace RmwMicroxrcedds
set_option autoImplicit false

open Triples Runs

variable {cfg : Config}

/-- The step creates something. -/
def Creates (cfg : Config) (s : State) (i : Step) : Prop := ∃ h, (call cfg s i).1 = .handle (some h)

/-- The names announced in a step. -/
def announcedIn (cfg : Config) (s : State) (i : Step) : List CStr :=
  (step cfg s i).announced.drop s.announced.length

/-- The creation of a node. -/
def Step.IsNode (i : Step) (name namespace_ : CStr) : Prop :=
  ∃ context, i.call = .createNode context (some name) (some namespace_)

/-- In a run, what is created is announced under its whole names, and no two nodes that differ share
the name of their participant. The names of nodes hold no slash. -/
structure AnnouncesWhole (cfg : Config) (s : State) (is : List Step) : Prop where
  whole : Always (step cfg) (fun s i => Creates cfg s i → announcedIn cfg s i = i.call.names) s is
  distinct : ∀ pre i post pre' i' post', is = pre ++ i :: post → is = pre' ++ i' :: post' →
    Creates cfg (exec (step cfg) s pre) i → Creates cfg (exec (step cfg) s pre') i' →
    ∀ name namespace_ name' namespace', i.IsNode name namespace_ → i'.IsNode name' namespace' →
      '/' ∉ name → '/' ∉ name' → (name, namespace_) ≠ (name', namespace') →
      announcedIn cfg (exec (step cfg) s pre) i ≠ announcedIn cfg (exec (step cfg) s pre') i'

/-- The names of a node fit their common buffer. -/
def Call.NamesFit (cfg : Config) : Call → Prop
  | .createNode _ (some name) (some namespace_) =>
    namespace_ = ['/'] ∨ namespace_.length + 1 + name.length < cfg.nodeNameMaxLength
  | _ => True

/-! ## Names of participants -/

/-- Two texts split at the last separator. -/
theorem append_separator_inj {α : Type} {a : α} {l l' m m' : List α} (hm : a ∉ m) (hm' : a ∉ m')
    (h : l ++ a :: m = l' ++ a :: m') : l = l' ∧ m = m' := by
  have back : m.reverse ++ a :: l.reverse = m'.reverse ++ a :: l'.reverse := by
    simpa using congrArg List.reverse h
  rcases List.append_eq_append_iff.1 back with ⟨c, hc, rest⟩ | ⟨c, hc, rest⟩
  · cases c with
    | nil => simp_all
    | cons b c =>
      obtain rfl := (List.cons.inj rest).1
      exact absurd (List.mem_reverse.1 (hc ▸ by simp)) hm'
  · cases c with
    | nil => simp_all
    | cons b c =>
      obtain rfl := (List.cons.inj rest).1
      exact absurd (List.mem_reverse.1 (hc ▸ by simp)) hm

theorem participantName_inj {name namespace_ name' namespace' : CStr} (plain : '/' ∉ name)
    (plain' : '/' ∉ name') (h : participantName name namespace_ = participantName name' namespace') :
    (name, namespace_) = (name', namespace') := by
  unfold participantName at h
  split at h <;> rename_i root <;> split at h <;> rename_i root'
  · rw [h, root, root']
  · exact absurd (h ▸ by simp) plain
  · exact absurd (h ▸ by simp) plain'
  · obtain ⟨rfl, rfl⟩ := append_separator_inj plain plain' h
    rfl

/-! ## One step -/

theorem announcedIn_eq {s : State} {i : Step} {names : List CStr}
    (h : Announced s names (step cfg s i)) : announcedIn cfg s i = names := by
  rw [announcedIn, h, List.drop_left]

/-- What the node creation of a step leaves of the name of its participant. -/
def announcedName (cfg : Config) (name namespace_ : CStr) : CStr :=
  (snprintf cfg.nodeNameMaxLength (participantName name namespace_)).1

/-- What a call that creates something announces. -/
theorem perform_announces (binary : cfg.useRefs = false) {s₀ s : State} (entered : Announced s₀ [] s)
    (c : Call) (created : Nat) (made : (perform cfg c s).1 = .handle (some created)) :
    let t := (perform cfg c s).2
    (∃ context name namespace_, c = .createNode context (some name) (some namespace_) ∧
      name.length < cfg.nodeNameMaxLength ∧ Announced s₀ [announcedName cfg name namespace_] t) ∨
    ((∀ context name namespace_, c ≠ .createNode context (some name) (some namespace_)) ∧
      Announced s₀ c.names t) := by
  have some : ∀ {r : Option Nat}, Reply.handle r = .handle (some created) → r.isSome = true := by
    intro r h
    rw [Reply.handle.inj h]
    rfl
  cases c with
  | createNode context name namespace_ =>
    cases name with
    | none => cases made
    | some name =>
      cases namespace_ with
      | none => cases made
      | some namespace_ =>
        left
        refine ⟨context, name, namespace_, rfl, ?_⟩
        have ended : Hoare (Announced s₀ []) (rmwCreateNode cfg (Option.some context) (.some name)
            (.some namespace_)) fun created t => created.isSome = true →
              name.length < cfg.nodeNameMaxLength ∧
                Announced s₀ [announcedName cfg name namespace_] t := by
          unfold rmwCreateNode
          refine Triple.ite (fun _ => Triple.pure fun _ _ h => by cases h) fun _ => ?_
          exact createNode_announces binary name namespace_ (Option.some context)
        exact (ended s entered).2 (some made)
  | createPublisher node typeSupport topicName qosPolicies =>
    right
    refine ⟨by simp, ?_⟩
    exact (rmwCreatePublisher_announces binary node typeSupport topicName qosPolicies s entered).2
      (some made)
  | createSubscription node typeSupport topicName qosPolicies =>
    right
    refine ⟨by simp, ?_⟩
    exact (rmwCreateSubscription_announces binary node typeSupport topicName qosPolicies s entered).2
      (some made)
  | createService node typeSupport serviceName qosPolicies requestId =>
    right
    refine ⟨by simp, ?_⟩
    exact (rmwCreateService_announces binary node typeSupport serviceName qosPolicies requestId s
      entered).2 (some made)
  | createClient node typeSupport serviceName qosPolicies requestId =>
    right
    refine ⟨by simp, ?_⟩
    exact (rmwCreateClient_announces binary node typeSupport serviceName qosPolicies requestId s
      entered).2 (some made)
  | createGuardCondition =>
    right
    refine ⟨by simp, ?_⟩
    have silent : Within Silent rmwCreateGuardCondition := by
      refine Within.bind (silent_getMemory _) fun slot => ?_
      cases slot with
      | none => exact .pure
      | some i => exact Within.bind (silent_writeElement _ _ _) fun _ => .pure
    exact entered.stable _ _ (silent s)
  | sendRequest env client =>
    rw [perform, Prog.bind_run] at made
    cases sent : (rmwSendRequest cfg env client s).1 with
    | none => rw [sent] at made; cases made
    | some ret => rw [sent] at made; cases made
  | sendResponse env service =>
    rw [perform, Prog.bind_run] at made
    cases sent : (rmwSendResponse cfg env service s).1 with
    | none => rw [sent] at made; cases made
    | some ret => rw [sent] at made; cases made
  | _ => cases made

section Step

variable {s : State} {i : Step} (binary : cfg.useRefs = false) (made : Creates cfg s i)
include binary made

/-- What a step that creates something announces. -/
theorem step_announces : (∃ name namespace_, i.IsNode name namespace_ ∧
      name.length < cfg.nodeNameMaxLength ∧
      announcedIn cfg s i = [announcedName cfg name namespace_]) ∨
    ((∀ name namespace_, ¬ i.IsNode name namespace_) ∧ announcedIn cfg s i = i.call.names) := by
  obtain ⟨created, returned⟩ := made
  unfold call at returned
  split at returned
  · rename_i defined
    have stepped : step cfg s i = (perform cfg i.call (s.enter i)).2 := by
      rw [step, call, if_pos defined]
      rfl
    have entered : Announced s [] (s.enter i) := Announced.refl s
    rcases perform_announces binary entered i.call created returned with
      ⟨context, name, namespace_, shape, short, announced⟩ | ⟨other, announced⟩
    · exact .inl ⟨name, namespace_, ⟨context, shape⟩, short, announcedIn_eq (stepped ▸ announced)⟩
    · refine .inr ⟨?_, announcedIn_eq (stepped ▸ announced)⟩
      rintro name namespace_ ⟨context, shape⟩
      exact other context name namespace_ shape
  · cases returned

/-- **One creation** announces its whole names exactly when the names of a node fit together. -/
theorem step_whole : announcedIn cfg s i = i.call.names ↔ i.call.NamesFit cfg := by
  rcases step_announces binary made with ⟨name, namespace_, ⟨context, shape⟩, short, announced⟩ |
    ⟨other, announced⟩
  · have names : i.call.names = [participantName name namespace_] := by rw [shape, Call.names]
    have room : 0 < cfg.nodeNameMaxLength := by omega
    rw [announced, names, List.singleton_inj, announcedName, snprintf_eq_iff (.inl room), shape,
      Call.NamesFit, participantName]
    split
    · rename_i root
      simp [root, short]
    · rename_i root
      simp only [root, false_or, List.length_append, List.length_cons]
      omega
  · refine iff_of_true announced ?_
    cases shape : i.call with
    | createNode context name namespace_ =>
      cases name with
      | none => trivial
      | some name =>
        cases namespace_ with
        | none => trivial
        | some namespace_ => exact absurd ⟨context, shape⟩ (other name namespace_)
    | _ => trivial

end Step

/-! ## Runs -/

/-- **Whole names.** A run announces what it creates under its whole names, and tells its nodes apart,
exactly when the name and the namespace of every node it creates fit their common buffer. -/
theorem announces_whole_iff (binary : cfg.useRefs = false) (s : State) (is : List Step) :
    AnnouncesWhole cfg s is ↔
      Always (step cfg) (fun s i => Creates cfg s i → i.call.NamesFit cfg) s is := by
  constructor
  · intro h
    refine always_iff.2 fun pre i post e made => ?_
    exact (step_whole binary made).1 (always_iff.1 h.whole pre i post e made)
  · intro fit
    have whole : ∀ pre i post, is = pre ++ i :: post → Creates cfg (exec (step cfg) s pre) i →
        announcedIn cfg (exec (step cfg) s pre) i = i.call.names := fun pre i post e made =>
      (step_whole binary made).2 (always_iff.1 fit pre i post e made)
    refine ⟨always_iff.2 whole, ?_⟩
    intro pre i post pre' i' post' e e' made made' name namespace_ name' namespace' node node' plain
      plain' differ same
    obtain ⟨context, shape⟩ := node
    obtain ⟨context', shape'⟩ := node'
    rw [whole pre i post e made, whole pre' i' post' e' made', shape, shape', Call.names, Call.names,
      List.singleton_inj] at same
    exact differ (participantName_inj plain plain' same)

/-- A node in the root namespace, and one of the same name in a namespace of its own. -/
theorem announces_whole_iff_root :
    let nodes := [Small.init 0, Small.createNode 1,
      ⟨.createNode 1 (some ['n']) (some ['/', 's']), Small.confirming⟩]
    Small.config.useRefs = false ∧ AnnouncesWhole Small.config State.zero nodes := by
  intro nodes
  refine ⟨rfl, (announces_whole_iff rfl State.zero nodes).2 ?_⟩
  exact ⟨fun _ => trivial, fun _ => .inl rfl, fun _ => .inr (by decide), trivial⟩

namespace Small

/-- A node in a namespace of 41 characters, whose name of 21 characters ends in the given one. -/
def crowdedNode (last : Char) : Step :=
  ⟨.createNode 1 (some (List.replicate 20 'n' ++ [last])) (some ('/' :: List.replicate 40 's')),
    confirming⟩

end Small

/-- Two nodes in one namespace, whose names differ in the last character. -/
theorem crowded_nodes_share_name : ¬ ∀ is, AnnouncesWhole Small.config State.zero is := by
  intro h
  have run := h [Small.init 0, Small.crowdedNode 'a', Small.crowdedNode 'b']
  have differ := run.distinct [Small.init 0] (Small.crowdedNode 'a') [Small.crowdedNode 'b']
    [Small.init 0, Small.crowdedNode 'a'] (Small.crowdedNode 'b') [] rfl rfl
    ⟨1, by decide +kernel⟩ ⟨0, by decide +kernel⟩ _ _ _ _ ⟨1, rfl⟩ ⟨1, rfl⟩ (by decide) (by decide)
    (by decide)
  exact differ (by decide +kernel)

end RmwMicroxrcedds
