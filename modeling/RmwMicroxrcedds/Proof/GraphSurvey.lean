import RmwMicroxrcedds.Model.GraphParser

/-!
# A survey of the sample

The sample read as far as it can be read, with the place where it breaks, the numbers of sequences and
strings met by then, and the sequences whose items the parser cannot do without. It reads and writes the
first node or entity of a sequence in any case, and the second name of a sequence of types; the first name
is not touched when the sequence was refused. As long as these sequences are granted the parser follows the
survey: it breaks where the survey breaks, and a break anywhere but at the name of a type makes it use a
count it has not read.
-/

namespace RmwMicroxrcedds.GraphParser
set_option autoImplicit false

/-- Where a sample breaks. -/
inductive Place where
  | typeName | elsewhere
deriving DecidableEq

/-- What is left of the sample, the numbers of sequences with items and of strings so far, and the requests
for sequences that the parser relies on. -/
structure Walk (β : Type) where
  tempBuffer : β
  sequences : Nat
  strings : Nat
  relied : List Nat

abbrev Survey (β : Type) := ExceptT Place (StateM (Walk β))

variable {α γ δ β : Type}

def surveyRead (place : Place) (reader : Reader β α) : Survey β α := fun w =>
  match reader w.tempBuffer with
  | some (value, rest) => (.ok value, { w with tempBuffer := rest })
  | none => (.error place, w)

def surveyItems (item : Survey β α) : Nat → Survey β (List α)
  | 0 => pure []
  | size + 1 => do
    let first ← item
    let rest ← surveyItems item size
    return first :: rest

section Survey

variable (ucdr : Ucdr β)

def surveyCount : Survey β UInt32 := do
  let count ← surveyRead .elsewhere ucdr.deserializeUint32T
  if count ≠ 0 then modify fun w => { w with sequences := w.sequences + 1 }
  return count

/-- The parser relies on the last sequence it has asked for. -/
def rely : Survey β Unit := modify fun w => { w with relied := (w.sequences - 1) :: w.relied }

def surveyLoop (item : Survey β α) : Nat → Survey β (List α)
  | 0 => pure []
  | size + 1 => do
    rely
    surveyItems item (size + 1)

def surveySequence (item : Survey β α) : Survey β (List α) := do
  let count ← surveyCount ucdr
  surveyLoop item count.toNat

def surveyString (place : Place) : Survey β CStr := do
  let text ← surveyRead place (ucdr.deserializeString tempStringSize)
  modify fun w => { w with strings := w.strings + 1 }
  return text

/-- The names of the types of an entity. -/
def surveyNames : Nat → Survey β (List CStr)
  | 0 => pure []
  | size + 1 => do
    let first ← surveyString ucdr .typeName
    if size ≠ 0 then rely
    let rest ← surveyItems (surveyString ucdr .typeName) size
    return first :: rest

def surveyTypes : Survey β (List CStr) := do
  let count ← surveyCount ucdr
  surveyNames ucdr count.toNat

def surveyEntity : Survey β GraphEntity := do
  let entityType ← surveyRead .elsewhere ucdr.deserializeUint8T
  let name ← surveyString ucdr .elsewhere
  let types ← surveyTypes ucdr
  return { entityType := entityType, name := name, types := types }

def surveyNode : Survey β GraphNode := do
  let nodeNamespace ← surveyString ucdr .elsewhere
  let nodeName ← surveyString ucdr .elsewhere
  let entities ← surveySequence ucdr (surveyEntity ucdr)
  return { nodeNamespace := nodeNamespace, nodeName := nodeName, entities := entities }

def surveyGraph : Survey β Graph := do
  let nodes ← surveySequence ucdr (surveyNode ucdr)
  return { nodes := nodes }

/-- The survey before anything is read. -/
def Walk.start (tempBuffer : β) : Walk β := ⟨tempBuffer, 0, 0, []⟩

/-- The survey of a stored sample. -/
def survey (graphInfo : GraphInfo) : Except Place Graph × Walk β :=
  let tempBuffer := ucdr.initBuffer graphInfo.microBuffer graphInfo.microBufferLength
  surveyGraph ucdr (.start tempBuffer)

end Survey

/-! ## Following the survey -/

theorem Fill.bind_run (p : Fill β α) (f : α → Fill β γ) (s : Filling β) :
    (p >>= f) s = (p s).bind fun r => f r.1 r.2 := rfl

theorem Fill.bind_some {p : Fill β α} {f : α → Fill β γ} {s t : Filling β} {a : α}
    (h : p s = some (a, t)) : (p >>= f) s = f a t := by
  rw [Fill.bind_run, h]
  rfl

theorem Fill.bind_none {p : Fill β α} {f : α → Fill β γ} {s : Filling β} (h : p s = none) :
    (p >>= f) s = none := by
  rw [Fill.bind_run, h]
  rfl

theorem Survey.bind_ok {q : Survey β α} {f : α → Survey β γ} {w v : Walk β} {a : α}
    (h : q w = (.ok a, v)) : (q >>= f) w = f a v := by
  show (ExceptT.bindCont f (q w).1) (q w).2 = _
  rw [h]
  rfl

theorem Survey.bind_error {q : Survey β α} {f : α → Survey β γ} {w v : Walk β} {place : Place}
    (h : q w = (.error place, v)) : (q >>= f) w = (.error place, v) := by
  show (ExceptT.bindCont f (q w).1) (q w).2 = _
  rw [h]
  rfl

/-- The sequences that the parser relies on are granted. -/
def Granted (env : Surroundings) (w : Walk β) : Prop := ∀ k ∈ w.relied, env.sequences k = true

/-- A sequence that the parser relies on is refused. -/
def Refused (env : Surroundings) (w : Walk β) : Prop :=
  ∃ k ∈ w.relied, k < w.sequences ∧ env.sequences k = false

/-- Everything is granted. -/
structure Generous (env : Surroundings) : Prop where
  sequences : ∀ k, env.sequences k = true
  strings : ∀ k, env.strings k = true

/-- The parser is where the survey is. It has asked for the same strings, unless it passed over one because
its sequence was refused. -/
structure Sound (env : Surroundings) (s : Filling β) (w : Walk β) : Prop where
  ret : s.ret = .ok
  tempBuffer : s.tempBuffer = some w.tempBuffer
  sequences : s.sequences = w.sequences
  strings : (∀ k < w.sequences, env.sequences k = true) → s.strings = w.strings
  unread : s.unread = false
  granted : Granted env w

/-- A read of the parser has failed. -/
structure Broken (s : Filling β) (unread : Bool) : Prop where
  ret : s.ret = .error
  tempBuffer : s.tempBuffer = none
  unread : s.unread = unread

/-- How a part of the parser follows a part of the survey. -/
inductive Follows (env : Surroundings) (p : Fill β α) (q : Survey β α) (s : Filling β) (w : Walk β) :
    Prop
  | complete {value filled : α} {t : Filling β} {v : Walk β} (surveyed : q w = (.ok value, v))
      (ran : p s = some (filled, t)) (sound : Sound env t v) (content : Generous env → filled = value)
  | breaks {place : Place} {filled : α} {t : Filling β} {v : Walk β}
      (surveyed : q w = (.error place, v)) (granted : Granted env v) (ran : p s = some (filled, t))
      (broken : Broken t (place = .elsewhere))
  | crashes {v : Walk β} {result : Except Place α} (surveyed : q w = (result, v))
      (refused : Refused env v) (ran : p s = none)

/-- The survey counts up and forgets nothing that the parser relies on. -/
structure Walk.Grown (w v : Walk β) : Prop where
  relied : w.relied ⊆ v.relied
  sequences : w.sequences ≤ v.sequences

def Grows (q : Survey β α) : Prop := ∀ w : Walk β, w.Grown (q w).2

structure Simulates (env : Surroundings) (p : Fill β α) (q : Survey β α) : Prop where
  follows : ∀ s w, Sound env s w → Follows env p q s w
  grows : Grows q

/-- A part that does nothing more in a parser that is broken. -/
def Passes (p : Fill β α) : Prop :=
  ∀ s unread, Broken s unread → ∃ filled t, p s = some (filled, t) ∧ Broken t unread

/-- A part that reads one value. -/
structure ReadsOn (env : Surroundings) (place : Place) (p : Fill β α) (q : Survey β α) : Prop where
  reads : ∀ s w, Sound env s w →
    (∃ value filled t v, q w = (.ok value, v) ∧ v.sequences = w.sequences ∧ p s = some (filled, t) ∧
      Sound env t v ∧ (Generous env → filled = value)) ∨
    (∃ filled t, q w = (.error place, w) ∧ p s = some (filled, t) ∧ Broken t false)
  passes : Passes p
  grows : Grows q

/-- A part that initialises a sequence, whatever has become of the parser. -/
def Initialises (p : Fill β α) : Prop :=
  ∀ s unread, Broken s unread → ∃ filled t, p s = some (filled, t) ∧ Broken t true

section Rules

variable {env : Surroundings}

theorem Walk.Grown.refl (w : Walk β) : w.Grown w := ⟨List.Subset.refl _, Nat.le_refl _⟩

theorem Walk.Grown.trans {w v u : Walk β} (first : w.Grown v) (second : v.Grown u) : w.Grown u :=
  ⟨List.Subset.trans first.relied second.relied, Nat.le_trans first.sequences second.sequences⟩

theorem Refused.grown {w v : Walk β} (refused : Refused env w) (grown : w.Grown v) : Refused env v := by
  obtain ⟨k, mem, lt, answer⟩ := refused
  exact ⟨k, grown.relied mem, Nat.lt_of_lt_of_le lt grown.sequences, answer⟩

theorem Refused.not_granted {w : Walk β} (refused : Refused env w) : ¬ Granted env w := by
  obtain ⟨k, mem, -, answer⟩ := refused
  exact fun granted => absurd ((granted k mem).symm.trans answer) (by decide)

theorem Refused.not_all {w : Walk β} (refused : Refused env w) :
    ¬ ∀ k < w.sequences, env.sequences k = true := by
  obtain ⟨k, -, lt, answer⟩ := refused
  exact fun all => absurd ((all k lt).symm.trans answer) (by decide)

theorem grown_of_run {q : Survey β α} {w v : Walk β} {r : Except Place α} (h : q w = (r, v))
    (grown : w.Grown v) : w.Grown (q w).2 := by
  rw [h]
  exact grown

/-- A survey grows if its parts do. -/
theorem Grows.bind {q : Survey β α} {g : α → Survey β γ} (first : Grows q)
    (second : ∀ value, Grows (g value)) : Grows (q >>= g) := by
  intro w
  have start := first w
  obtain ⟨place | value, v, surveyed⟩ : ∃ r v, q w = (r, v) := ⟨_, _, rfl⟩
  · rw [Survey.bind_error surveyed]
    rw [surveyed] at start
    exact start
  · rw [Survey.bind_ok surveyed]
    rw [surveyed] at start
    exact start.trans (second value v)

theorem grows_pure (value : α) : Grows (pure value : Survey β α) := fun w =>
  Walk.Grown.refl w

theorem passes_pure (value : α) : Passes (pure value : Fill β α) := fun s _ broken =>
  ⟨value, s, rfl, broken⟩

theorem Passes.initialises_bind {p : Fill β α} {f : α → Fill β γ} (passes : Passes p)
    (next : ∀ filled, Initialises (f filled)) : Initialises (p >>= f) := by
  intro s unread broken
  obtain ⟨filled, t, ran, broken⟩ := passes s unread broken
  rw [Fill.bind_some ran]
  exact next filled t unread broken

theorem Initialises.bind {p : Fill β α} {f : α → Fill β γ} (first : Initialises p)
    (next : ∀ filled, Passes (f filled)) : Initialises (p >>= f) := by
  intro s unread broken
  obtain ⟨filled, t, ran, broken⟩ := first s unread broken
  rw [Fill.bind_some ran]
  exact next filled t true broken

theorem Simulates.pure {filled value : α} (content : Generous env → filled = value) :
    Simulates env (pure filled : Fill β α) (pure value) where
  follows _ _ sound := .complete rfl rfl sound content
  grows := grows_pure value

/-- What is done after a part that broke does no more than to run on. -/
theorem Simulates.bind {p : Fill β α} {q : Survey β α} {f : α → Fill β γ} {g : α → Survey β γ}
    (first : Simulates env p q)
    (next : ∀ filled value, (Generous env → filled = value) →
      Simulates env (f filled) (g value))
    (passes : ∀ filled, Passes (f filled)) : Simulates env (p >>= f) (q >>= g) := by
  have grows : ∀ value, Grows (g value) := fun value => (next value value fun _ => rfl).grows
  refine ⟨fun s w sound => ?_, first.grows.bind grows⟩
  cases first.follows s w sound with
  | @complete value filled t v surveyed ran sound content =>
    cases (next filled value content).follows t v sound with
    | complete surveyed' ran' sound' content' =>
      exact .complete ((Survey.bind_ok surveyed).trans surveyed') ((Fill.bind_some ran).trans ran') sound'
        content'
    | breaks surveyed' granted' ran' broken' =>
      exact .breaks ((Survey.bind_ok surveyed).trans surveyed') granted' ((Fill.bind_some ran).trans ran')
        broken'
    | crashes surveyed' refused' ran' =>
      exact .crashes ((Survey.bind_ok surveyed).trans surveyed') refused' ((Fill.bind_some ran).trans ran')
  | @breaks place filled t v surveyed granted ran broken =>
    obtain ⟨filled', t', ran', broken'⟩ := passes filled t _ broken
    exact .breaks (Survey.bind_error surveyed) granted ((Fill.bind_some ran).trans ran') broken'
  | @crashes v result surveyed refused ran =>
    have whole : (q >>= g) w = (((q >>= g) w).1, ((q >>= g) w).2) := rfl
    refine .crashes whole ?_ (Fill.bind_none ran)
    cases result with
    | error place =>
      rw [Survey.bind_error surveyed]
      exact refused
    | ok value =>
      rw [Survey.bind_ok surveyed]
      exact refused.grown (grows value v)

/-- After a value that could not be read the parser goes on to the next sequence. -/
theorem ReadsOn.bind {p : Fill β α} {q : Survey β α} {f : α → Fill β γ} {g : α → Survey β γ}
    (first : ReadsOn env .elsewhere p q)
    (next : ∀ filled value, (Generous env → filled = value) →
      Simulates env (f filled) (g value))
    (initialises : ∀ filled, Initialises (f filled)) : Simulates env (p >>= f) (q >>= g) := by
  constructor
  · intro s w sound
    rcases first.reads s w sound with
      ⟨value, filled, t, v, surveyed, -, ran, sound, content⟩ | ⟨filled, t, surveyed, ran, broken⟩
    · cases (next filled value content).follows t v sound with
      | complete surveyed' ran' sound' content' =>
        exact .complete ((Survey.bind_ok surveyed).trans surveyed') ((Fill.bind_some ran).trans ran') sound'
          content'
      | breaks surveyed' granted' ran' broken' =>
        exact .breaks ((Survey.bind_ok surveyed).trans surveyed') granted' ((Fill.bind_some ran).trans ran')
          broken'
      | crashes surveyed' refused' ran' =>
        exact .crashes ((Survey.bind_ok surveyed).trans surveyed') refused' ((Fill.bind_some ran).trans ran')
    · obtain ⟨filled', t', ran', broken'⟩ := initialises filled t false broken
      exact .breaks (Survey.bind_error surveyed) sound.granted ((Fill.bind_some ran).trans ran') broken'
  · exact first.grows.bind fun value => (next value value fun _ => rfl).grows

theorem ReadsOn.simulates {p : Fill β α} {q : Survey β α} (h : ReadsOn env .typeName p q) :
    Simulates env p q := by
  refine ⟨fun s w sound => ?_, h.grows⟩
  rcases h.reads s w sound with
    ⟨value, filled, t, v, surveyed, -, ran, sound, content⟩ | ⟨filled, t, surveyed, ran, broken⟩
  · exact .complete surveyed ran sound content
  · exact .breaks surveyed sound.granted ran broken

end Rules

/-! ## The parts of the parser -/

section Parts

variable {ucdr : Ucdr β} {env : Surroundings}

theorem read_passes (reader : Reader β α) : Passes (read reader) := by
  intro s unread broken
  have failed : s.tempBuffer.bind reader = none := by rw [broken.tempBuffer]; rfl
  refine ⟨none, { s with tempBuffer := none, ret := .error }, ?_, rfl, rfl, broken.unread⟩
  rw [read, failed]

/-- The parser reads what the survey reads, -/
theorem read_some {reader : Reader β α} {s : Filling β} {w : Walk β} (sound : Sound env s w) {value : α}
    {rest : β} (h : reader w.tempBuffer = some (value, rest)) :
    read reader s = some (some value, { s with tempBuffer := some rest }) := by
  have found : s.tempBuffer.bind reader = some (value, rest) := by rw [sound.tempBuffer]; exact h
  rw [read, found]

/-- and fails where the survey does. -/
theorem read_none {reader : Reader β α} {s : Filling β} {w : Walk β} (sound : Sound env s w)
    (h : reader w.tempBuffer = none) :
    read reader s = some (none, { s with tempBuffer := none, ret := .error }) := by
  have failed : s.tempBuffer.bind reader = none := by rw [sound.tempBuffer]; exact h
  rw [read, failed]

theorem surveyRead_some {place : Place} {reader : Reader β α} {w : Walk β} {value : α} {rest : β}
    (h : reader w.tempBuffer = some (value, rest)) :
    surveyRead place reader w = (.ok value, { w with tempBuffer := rest }) := by rw [surveyRead, h]

theorem surveyRead_none {place : Place} {reader : Reader β α} {w : Walk β}
    (h : reader w.tempBuffer = none) : surveyRead place reader w = (.error place, w) := by
  rw [surveyRead, h]

/-- So is the kind of an entity. -/
theorem fillKind_readsOn (entityType : UInt8) : ReadsOn env .elsewhere (fillKind ucdr (.item entityType))
    (surveyRead .elsewhere ucdr.deserializeUint8T) := by
  refine ⟨fun s w sound => ?_, ?_, ?_⟩
  · cases h : ucdr.deserializeUint8T w.tempBuffer with
    | some found =>
      obtain ⟨value, rest⟩ := found
      refine .inl ⟨value, value, _, _, surveyRead_some h, rfl, Fill.bind_some (read_some sound h), ?_,
        fun _ => rfl⟩
      exact ⟨sound.ret, rfl, sound.sequences, sound.strings, sound.unread, sound.granted⟩
    | none =>
      refine .inr ⟨entityType, _, surveyRead_none h, Fill.bind_some (read_none sound h), ?_⟩
      exact ⟨rfl, rfl, sound.unread⟩
  · intro s unread broken
    obtain ⟨value, t, ran, broken⟩ := read_passes ucdr.deserializeUint8T s unread broken
    cases value with
    | some value => exact ⟨value, t, Fill.bind_some ran, broken⟩
    | none => exact ⟨entityType, t, Fill.bind_some ran, broken⟩
  · intro w
    rw [surveyRead]
    split
    · exact ⟨List.Subset.refl _, Nat.le_refl _⟩
    · exact .refl w

theorem surveyString_grows (place : Place) : Grows (surveyString ucdr place) := by
  intro w
  rw [surveyString]
  cases h : ucdr.deserializeString tempStringSize w.tempBuffer with
  | some found =>
    rw [Survey.bind_ok (surveyRead_some h)]
    exact ⟨List.Subset.refl _, Nat.le_refl _⟩
  | none => exact grown_of_run (Survey.bind_error (surveyRead_none h)) (.refl w)

/-- A string is read by both, and the parser stores it. -/
theorem fillString_readsOn (place : Place) (string : CStr) :
    ReadsOn env place (fillString ucdr env (.item string)) (surveyString ucdr place) := by
  refine ⟨fun s w sound => ?_, ?_, ?_⟩
  · cases h : ucdr.deserializeString tempStringSize w.tempBuffer with
    | some found =>
      obtain ⟨value, rest⟩ := found
      refine .inl ⟨value, _, _, _, Survey.bind_ok (surveyRead_some h), rfl,
        Fill.bind_some (read_some sound h), ?_, ?_⟩
      · refine ⟨sound.ret, rfl, sound.sequences, fun all => ?_, sound.unread, sound.granted⟩
        exact congrArg (· + 1) (sound.strings all)
      · intro all
        exact if_pos (all.strings _)
    | none =>
      refine .inr ⟨_, _, Survey.bind_error (surveyRead_none h), Fill.bind_some (read_none sound h), ?_⟩
      exact ⟨rfl, rfl, sound.unread⟩
  · intro s unread broken
    obtain ⟨value, t, ran, broken⟩ := read_passes (ucdr.deserializeString tempStringSize) s unread broken
    exact ⟨_, _, Fill.bind_some ran, broken.ret, broken.tempBuffer, broken.unread⟩
  · exact surveyString_grows place

theorem fillString_passes (string : CStr) : Passes (fillString ucdr env (.item string)) :=
  (fillString_readsOn .elsewhere string).passes

/-- A string outside a sequence that is not NULL is written to. -/
theorem fillString_wild (s : Filling β) : fillString ucdr env .wild s = none := by
  have run : ∀ string, fillString ucdr env string s =
      (read (ucdr.deserializeString tempStringSize) s).bind fun r => _ := fun _ => rfl
  rw [run]
  cases read (ucdr.deserializeString tempStringSize) s with
  | some r => rfl
  | none => rfl

/-- A NULL string is passed over. -/
theorem fillString_null {s t : Filling β} {text : Option CStr}
    (h : read (ucdr.deserializeString tempStringSize) s = some (text, t)) :
    fillString ucdr env .null s = some ([], t) := Fill.bind_some h

theorem fillKind_null {s t : Filling β} {kind : Option UInt8}
    (h : read ucdr.deserializeUint8T s = some (kind, t)) :
    fillKind ucdr .null s = none ∨ fillKind ucdr .null s = some (0, t) := by
  cases kind with
  | some kind => exact .inl (Fill.bind_some h)
  | none => exact .inr (Fill.bind_some h)

theorem read_total (reader : Reader β α) (s : Filling β) : ∃ value t, read reader s = some (value, t) := by
  rw [read]
  split
  · exact ⟨_, _, rfl⟩
  · exact ⟨_, _, rfl⟩

/-- The name of an entity is written to in any case. -/
theorem fillEntity_null (s : Filling β) : fillEntity ucdr env .null s = none := by
  obtain ⟨kind, t, ran⟩ := read_total ucdr.deserializeUint8T s
  rcases fillKind_null ran with crashed | passed
  · exact Fill.bind_none crashed
  · exact (Fill.bind_some passed).trans (Fill.bind_none (fillString_wild t))

/-- So is the name of a node. -/
theorem fillNode_null (s : Filling β) : fillNode ucdr env .null s = none := by
  obtain ⟨text, t, ran⟩ := read_total (ucdr.deserializeString tempStringSize) s
  exact (Fill.bind_some (fillString_null ran)).trans (Fill.bind_none (fillString_wild t))

/-- A broken parser passes over the items. -/
theorem fillItems_passes (body : Target α → Fill β α) (items : List (Target α)) :
    Passes (fillItems body items) := by
  intro s unread broken
  cases items with
  | nil => exact ⟨[], s, rfl, broken⟩
  | cons item items =>
    refine ⟨(item :: items).flatMap Target.held, s, ?_, broken⟩
    have failed : s.ret ≠ .ok := by simp [broken.ret]
    show (if s.ret = .ok then _ else _ : Fill β (List α)) s = _
    rw [if_neg failed]
    rfl

/-- A round of the loop in a parser that is sound. -/
theorem fillItems_cons {body : Target α → Fill β α} {s : Filling β} (ok : s.ret = .ok) (item : Target α)
    (items : List (Target α)) : fillItems body (item :: items) s =
      (body item >>= fun value => fillItems body items >>= fun values =>
        pure ((item.set value).held ++ values)) s := by
  show (if s.ret = .ok then _ else _ : Fill β (List α)) s = _
  rw [if_pos ok]

/-- An undefined access in an item is one in the loop. -/
theorem fillItems_none {body : Target α → Fill β α} {s : Filling β} (ok : s.ret = .ok) {item : Target α}
    (items : List (Target α)) (h : body item s = none) : fillItems body (item :: items) s = none :=
  (fillItems_cons ok item items).trans (Fill.bind_none h)

theorem Passes.map {p : Fill β α} (passes : Passes p) (f : α → γ) :
    Passes (p >>= fun filled => pure (f filled)) := by
  intro s unread broken
  obtain ⟨filled, t, ran, broken⟩ := passes s unread broken
  exact ⟨f filled, t, Fill.bind_some ran, broken⟩

/-- **The loop** over a sequence that has its items. -/
theorem fillItems_simulates {body : Target α → Fill β α} {item : Survey β α}
    (each : ∀ blank, Simulates env (body (.item blank)) item) (blank : α) (size : Nat) :
    Simulates env (fillItems body (List.replicate size (.item blank))) (surveyItems item size) := by
  induction size with
  | zero => exact Simulates.pure fun _ => rfl
  | succ size ih =>
    have round : Simulates env
        (body (.item blank) >>= fun value => fillItems body (List.replicate size (.item blank)) >>=
          fun values => pure (((Target.item blank).set value).held ++ values))
        (surveyItems item (size + 1)) := by
      refine Simulates.bind (each blank) (fun filled value content => ?_) fun filled => ?_
      · refine Simulates.bind ih (fun filled' value' content' => ?_) fun filled' => passes_pure _
        exact Simulates.pure fun all => by
          rw [content all, content' all]
          rfl
      · exact (fillItems_passes body _).map _
    refine ⟨fun s w sound => ?_, round.grows⟩
    have same : fillItems body (List.replicate (size + 1) (.item blank)) s = _ :=
      fillItems_cons sound.ret (.item blank) (List.replicate size (.item blank))
    cases round.follows s w sound with
    | complete surveyed ran sound content => exact .complete surveyed (same.trans ran) sound content
    | breaks surveyed granted ran broken => exact .breaks surveyed granted (same.trans ran) broken
    | crashes surveyed refused ran => exact .crashes surveyed refused (same.trans ran)

theorem initSequence_run [Inhabited α] (count : UInt32 × Bool) (s : Filling β) :
    initSequence (α := α) env count s = some
      (addresses (env.sequences s.sequences) count.1.toNat,
      { s with
        unread := s.unread || !count.2
        sequences := if count.1 = 0 then s.sequences else s.sequences + 1 }) := by
  by_cases empty : count.1 = 0
  · simp only [initSequence, empty, if_true]
    rfl
  · simp only [initSequence, empty, if_false]
    rfl

theorem readCount_some {s : Filling β} {count : UInt32} {rest : β}
    (h : s.tempBuffer.bind ucdr.deserializeUint32T = some (count, rest)) :
    readCount ucdr env s =
      some ((count, true), { s with counts := s.counts + 1, tempBuffer := some rest }) := by
  show ((read _ _).bind _) = _
  rw [read, h]
  rfl

theorem readCount_none {s : Filling β} (h : s.tempBuffer.bind ucdr.deserializeUint32T = none) :
    readCount ucdr env s = some ((env.unwritten s.counts, false),
      { s with counts := s.counts + 1, tempBuffer := none, ret := .error }) := by
  show ((read _ _).bind _) = _
  rw [read, h]
  rfl

/-- A count, with the sequence it is for. -/
theorem fillSequence_run [Inhabited α] (body : Target α → Fill β α) {s t : Filling β}
    {count : UInt32 × Bool} (h : readCount ucdr env s = some (count, t)) :
    fillSequence ucdr env body s =
      fillItems body (addresses (env.sequences t.sequences) count.1.toNat)
        { t with
          unread := t.unread || !count.2
          sequences := if count.1 = 0 then t.sequences else t.sequences + 1 } := by
  rw [fillSequence, Fill.bind_some h, Fill.bind_some (initSequence_run count t)]

/-- A count that cannot be read is used all the same. -/
theorem fillSequence_unread [Inhabited α] (body : Target α → Fill β α) {s : Filling β}
    (h : s.tempBuffer.bind ucdr.deserializeUint32T = none) :
    ∃ filled t, fillSequence ucdr env body s = some (filled, t) ∧ Broken t true := by
  rw [fillSequence_run body (readCount_none h)]
  refine fillItems_passes body _ _ true ⟨rfl, rfl, ?_⟩
  simp

theorem fillSequence_initialises [Inhabited α] (body : Target α → Fill β α) :
    Initialises (fillSequence ucdr env body) := by
  intro s unread broken
  apply fillSequence_unread
  rw [broken.tempBuffer]
  rfl

/-- The survey behind a count. -/
def Walk.counted (w : Walk β) (count : UInt32) (rest : β) : Walk β :=
  { w with
    tempBuffer := rest
    sequences := if count = 0 then w.sequences else w.sequences + 1 }

theorem Walk.counted_grown (w : Walk β) (count : UInt32) (rest : β) : w.Grown (w.counted count rest) := by
  refine ⟨List.Subset.refl _, ?_⟩
  unfold Walk.counted
  dsimp only
  split <;> omega

theorem surveyCount_none {w : Walk β} (h : ucdr.deserializeUint32T w.tempBuffer = none) :
    surveyCount ucdr w = (.error .elsewhere, w) := Survey.bind_error (surveyRead_none h)

theorem surveyCount_some {w : Walk β} {count : UInt32} {rest : β}
    (h : ucdr.deserializeUint32T w.tempBuffer = some (count, rest)) :
    surveyCount ucdr w = (.ok count, w.counted count rest) := by
  rw [surveyCount, Survey.bind_ok (surveyRead_some h)]
  by_cases empty : count = 0
  · simp only [Walk.counted, empty, ne_eq, not_true, if_false, if_true]
    rfl
  · simp only [Walk.counted, empty, ne_eq, not_false_iff, if_false, if_true]
    rfl

/-- The survey of a sequence only adds to what it has counted. -/
theorem surveyItems_grows {item : Survey β α} (grows : Grows item) (size : Nat) :
    Grows (surveyItems item size) := by
  induction size with
  | zero => exact grows_pure _
  | succ size ih => exact grows.bind fun _ => ih.bind fun _ => grows_pure _

/-- The survey after relying on a sequence. -/
def Walk.relying (w : Walk β) : Walk β := { w with relied := (w.sequences - 1) :: w.relied }

theorem rely_run (w : Walk β) : (rely : Survey β Unit) w = (.ok (), w.relying) := rfl

theorem Walk.relying_mem {w : Walk β} {number : Nat} (last : w.sequences = number + 1) :
    number ∈ w.relying.relied := by
  have : number = w.sequences - 1 := by omega
  rw [this]
  exact List.mem_cons_self

theorem Walk.relying_grown (w : Walk β) : w.Grown w.relying := ⟨List.subset_cons_self _ _, Nat.le_refl _⟩

theorem grows_rely : Grows (rely : Survey β Unit) := fun w => w.relying_grown

theorem Walk.relying_refused {w : Walk β} {number : Nat} (last : w.sequences = number + 1)
    (refused : env.sequences number = false) : Refused env w.relying :=
  ⟨number, Walk.relying_mem last, Nat.lt_of_lt_of_eq (Nat.lt_succ_self number) last.symm, refused⟩

theorem Sound.relying {s : Filling β} {w : Walk β} (sound : Sound env s w) {number : Nat}
    (last : w.sequences = number + 1) (granted : env.sequences number = true) :
    Sound env s w.relying := by
  refine ⟨sound.ret, sound.tempBuffer, sound.sequences, sound.strings, sound.unread, ?_⟩
  intro k mem
  rcases List.mem_cons.1 mem with rfl | mem
  · have : w.sequences - 1 = number := by omega
    rwa [this]
  · exact sound.granted k mem

/-- What the loop behind a count does, with the number of the request for its sequence. -/
def LoopFollows [Inhabited α] (env : Surroundings) (body : Target α → Fill β α)
    (loop : Nat → Survey β (List α)) : Prop :=
  ∀ size number s w, Sound env s w → (0 < size → w.sequences = number + 1) →
    Follows env (fillItems body (addresses (env.sequences number) size)) (loop size) s w

/-- A count, the initialisation and the loop. -/
theorem fillSequence_follows [Inhabited α] {body : Target α → Fill β α} {loop : Nat → Survey β (List α)}
    (grows : ∀ size, Grows (loop size)) (follows : LoopFollows env body loop) :
    Simulates env (fillSequence ucdr env body)
      (surveyCount ucdr >>= fun count => loop count.toNat) := by
  constructor
  · intro s w sound
    have same : s.tempBuffer.bind ucdr.deserializeUint32T = ucdr.deserializeUint32T w.tempBuffer := by
      rw [sound.tempBuffer]
      rfl
    cases h : ucdr.deserializeUint32T w.tempBuffer with
    | none =>
      obtain ⟨filled, t, ran, broken⟩ : ∃ filled t,
          fillSequence ucdr env body s = some (filled, t) ∧ Broken t true :=
        fillSequence_unread body (same.trans h)
      exact .breaks (Survey.bind_error (surveyCount_none h)) sound.granted ran broken
    | some found =>
      obtain ⟨count, rest⟩ := found
      have ran : fillSequence ucdr env body s = _ :=
        fillSequence_run body (readCount_some (same.trans h))
      have surveyed : (surveyCount ucdr >>= fun count => loop count.toNat) w = _ :=
        Survey.bind_ok (surveyCount_some h)
      have started : Sound env
          { s with
            counts := s.counts + 1, tempBuffer := some rest, unread := s.unread || !true
            sequences := if count = 0 then s.sequences else s.sequences + 1 }
          (w.counted count rest) := by
        refine ⟨sound.ret, rfl, by simp [Walk.counted, sound.sequences], fun all => ?_,
          by simp [sound.unread], sound.granted⟩
        refine sound.strings fun k lt => all k ?_
        unfold Walk.counted
        dsimp only
        split <;> omega
      have last : 0 < count.toNat → (w.counted count rest).sequences = s.sequences + 1 := by
        intro pos
        rw [sound.sequences]
        refine if_neg ?_
        rintro rfl
        exact absurd pos (by decide)
      cases follows count.toNat s.sequences _ _ started last with
      | complete surveyed' ran' sound' content =>
        exact .complete (surveyed.trans surveyed') (ran.trans ran') sound' content
      | breaks surveyed' granted ran' broken =>
        exact .breaks (surveyed.trans surveyed') granted (ran.trans ran') broken
      | crashes surveyed' refused ran' =>
        exact .crashes (surveyed.trans surveyed') refused (ran.trans ran')
  · refine Grows.bind ?_ fun count => grows _
    intro w
    cases h : ucdr.deserializeUint32T w.tempBuffer with
    | none => exact grown_of_run (surveyCount_none h) (.refl w)
    | some found => exact grown_of_run (surveyCount_some h) (w.counted_grown _ _)

theorem surveyLoop_grows {item : Survey β α} (grows : Grows item) (size : Nat) :
    Grows (surveyLoop item size) := by
  cases size with
  | zero => exact grows_pure _
  | succ size => exact grows_rely.bind fun _ => surveyItems_grows grows _

/-- **A sequence** of which the first item is written to in any case. -/
theorem fillSequence_simulates [Inhabited α] {body : Target α → Fill β α} {item : Survey β α}
    (each : ∀ blank, Simulates env (body (.item blank)) item) (lost : ∀ s, body .null s = none) :
    Simulates env (fillSequence ucdr env body) (surveySequence ucdr item) := by
  refine fillSequence_follows (surveyLoop_grows (each default).grows) ?_
  intro size number s w sound last
  cases size with
  | zero => exact .complete rfl rfl sound fun _ => rfl
  | succ size =>
    have last := last (Nat.succ_pos size)
    have surveyed : surveyLoop item (size + 1) w = surveyItems item (size + 1) w.relying :=
      Survey.bind_ok (rely_run w)
    cases answer : env.sequences number with
    | true =>
      have loop := (fillItems_simulates each default (size + 1)).follows s w.relying
        (sound.relying last answer)
      cases loop with
      | complete surveyed' ran sound content => exact .complete (surveyed.trans surveyed') ran sound content
      | breaks surveyed' granted ran broken => exact .breaks (surveyed.trans surveyed') granted ran broken
      | crashes surveyed' refused ran => exact .crashes (surveyed.trans surveyed') refused ran
    | false =>
      refine .crashes surveyed ?_ (fillItems_none sound.ret _ (lost s))
      have more := surveyItems_grows (each default).grows (size + 1) w.relying
      exact (Walk.relying_refused last answer).grown more

/-- The survey behind the first name. -/
theorem surveyNames_some {w v : Walk β} (size : Nat) {first : CStr}
    (h : surveyString ucdr .typeName w = (.ok first, v)) :
    surveyNames ucdr (size + 1) w =
      (surveyItems (surveyString ucdr .typeName) size >>= fun rest => pure (first :: rest))
        (if size = 0 then v else v.relying) := by
  rw [surveyNames, Survey.bind_ok h]
  by_cases one : size = 0
  · simp only [one, ne_eq, not_true, if_false, if_true]
  · simp only [one, ne_eq, not_false_iff, if_false, if_true]
    exact Survey.bind_ok (rely_run v)

theorem surveyNames_grows (size : Nat) : Grows (surveyNames ucdr size) := by
  cases size with
  | zero => exact grows_pure _
  | succ size =>
    intro w
    have start := @surveyString_grows _ ucdr .typeName w
    obtain ⟨place | first, v, surveyed⟩ : ∃ r v, surveyString ucdr .typeName w = (r, v) := ⟨_, _, rfl⟩
    · rw [surveyNames, Survey.bind_error surveyed]
      rwa [surveyed] at start
    · have rest : Grows (surveyItems (surveyString ucdr .typeName) size >>= fun rest =>
          pure (first :: rest)) :=
        (surveyItems_grows (surveyString_grows .typeName) size).bind fun _ => grows_pure _
      rw [surveyed] at start
      rw [surveyNames_some size surveyed]
      refine start.trans (Walk.Grown.trans ?_ (rest _))
      split
      · exact .refl v
      · exact v.relying_grown

/-- The names of the types when the sequence has its items. -/
theorem fillNames_granted {s : Filling β} {w : Walk β} (sound : Sound env s w) {number : Nat}
    (last : w.sequences = number + 1) (granted : env.sequences number = true) (size : Nat) :
    Follows env (fillItems (fillString ucdr env) (List.replicate (size + 1) (.item default)))
      (surveyNames ucdr (size + 1)) s w := by
  have same : fillItems (fillString ucdr env) (List.replicate (size + 1) (.item default)) s = _ :=
    fillItems_cons sound.ret (.item default) (List.replicate size (.item default))
  rcases (fillString_readsOn .typeName default).reads s w sound with
    ⟨first, filled, t, v, surveyed, stays, ran, sound', content⟩ | ⟨filled, t, surveyed, ran, broken⟩
  · have rest : Simulates env
        (fillItems (fillString ucdr env) (List.replicate size (.item default)) >>= fun values =>
          pure (((Target.item default).set filled).held ++ values))
        (surveyItems (surveyString ucdr .typeName) size >>= fun rest => pure (first :: rest)) := by
      refine (fillItems_simulates (fun string => (fillString_readsOn .typeName string).simulates)
        default size).bind (fun filled' value' content' => ?_) fun _ => passes_pure _
      exact Simulates.pure fun all => by
        rw [content all, content' all]
        rfl
    have here : Sound env t (if size = 0 then v else v.relying) := by
      split
      · exact sound'
      · exact sound'.relying (stays.trans last) granted
    have loop := rest.follows t _ here
    have start := same.trans (Fill.bind_some ran)
    have names := surveyNames_some size surveyed
    cases loop with
    | complete surveyed ran sound content => exact .complete (names.trans surveyed) (start.trans ran) sound content
    | breaks surveyed granted ran broken => exact .breaks (names.trans surveyed) granted (start.trans ran) broken
    | crashes surveyed refused ran => exact .crashes (names.trans surveyed) refused (start.trans ran)
  · obtain ⟨filled', t', ran', broken'⟩ :=
      (fillItems_passes (fillString ucdr env) (List.replicate size (.item default))).map
        (fun values => ((Target.item default).set filled).held ++ values) t _ broken
    have names : surveyNames ucdr (size + 1) w = (.error .typeName, w) := Survey.bind_error surveyed
    exact .breaks names sound.granted (same.trans ((Fill.bind_some ran).trans ran')) broken'

/-- A refused sequence is noticed at its second name only. -/
theorem fillNames_refused {s : Filling β} {w : Walk β} (sound : Sound env s w) {number : Nat}
    (last : w.sequences = number + 1) (refused : env.sequences number = false) (size : Nat) :
    Follows env (fillItems (fillString ucdr env) (.null :: List.replicate size .wild))
      (surveyNames ucdr (size + 1)) s w := by
  have same : fillItems (fillString ucdr env) (.null :: List.replicate size .wild) s = _ :=
    fillItems_cons sound.ret .null (List.replicate size .wild)
  have stingy : ¬ ∀ k < w.sequences, env.sequences k = true := by
    intro all
    exact absurd ((all number (by omega)).symm.trans refused) (by decide)
  cases h : ucdr.deserializeString tempStringSize w.tempBuffer with
  | some found =>
    obtain ⟨first, rest⟩ := found
    have start := same.trans (Fill.bind_some (fillString_null (read_some sound h)))
    have surveyed : surveyString ucdr .typeName w =
        (.ok first, { w with tempBuffer := rest, strings := w.strings + 1 }) :=
      Survey.bind_ok (surveyRead_some h)
    have names := surveyNames_some size surveyed
    cases size with
    | zero =>
      refine .complete names start ⟨sound.ret, rfl, sound.sequences, fun all => ?_, sound.unread,
        sound.granted⟩ fun all => ?_
      · exact absurd all stingy
      · exact absurd (fun k _ => all.sequences k) stingy
    | succ size =>
      rw [if_neg (Nat.succ_ne_zero size)] at names
      refine .crashes names ?_ (start.trans (Fill.bind_none ?_))
      · have more : Grows (surveyItems (surveyString ucdr .typeName) (size + 1) >>= fun rest =>
            pure (first :: rest)) :=
          (surveyItems_grows (surveyString_grows .typeName) _).bind fun _ => grows_pure _
        exact (Walk.relying_refused (w := { w with tempBuffer := rest, strings := w.strings + 1 }) last
          refused).grown (more _)
      · have ok : ({ s with tempBuffer := some rest } : Filling β).ret = .ok := sound.ret
        exact fillItems_none ok _ (fillString_wild _)
  | none =>
    have names : surveyNames ucdr (size + 1) w = (.error .typeName, w) :=
      Survey.bind_error (Survey.bind_error (surveyRead_none h))
    have broken : Broken ({ s with tempBuffer := none, ret := .error } : Filling β) false :=
      ⟨rfl, rfl, sound.unread⟩
    obtain ⟨filled', t', ran', broken'⟩ :=
      (fillItems_passes (fillString ucdr env) (List.replicate size .wild)).map
        (fun values => ((Target.null : Target CStr).set []).held ++ values) _ _ broken
    exact .breaks names sound.granted
      (same.trans ((Fill.bind_some (fillString_null (read_none sound h))).trans ran')) broken'

/-- **The types** of an entity. -/
theorem fillTypes_simulates :
    Simulates env (fillSequence ucdr env (fillString ucdr env)) (surveyTypes ucdr) := by
  refine fillSequence_follows surveyNames_grows ?_
  intro size number s w sound last
  cases size with
  | zero => exact .complete rfl rfl sound fun _ => rfl
  | succ size =>
    have last := last (Nat.succ_pos size)
    cases answer : env.sequences number with
    | true => exact fillNames_granted sound last answer size
    | false => exact fillNames_refused sound last answer size

/-- **The parser of an entity** does what its survey says. -/
theorem fillEntity_simulates (entity : GraphEntity) :
    Simulates env (fillEntity ucdr env (.item entity)) (surveyEntity ucdr) := by
  refine (fillKind_readsOn _).bind (fun entityType entityType' same => ?_) fun _ => ?_
  · refine (fillString_readsOn .elsewhere _).bind (fun name name' same' => ?_) fun _ => ?_
    · refine fillTypes_simulates.bind (fun types types' same'' => ?_) fun _ => passes_pure _
      exact Simulates.pure fun all => by rw [same all, same' all, same'' all]
    · exact (fillSequence_initialises _).bind fun _ => passes_pure _
  · refine (fillString_passes _).initialises_bind fun _ => ?_
    exact (fillSequence_initialises _).bind fun _ => passes_pure _

/-- **The parser of a node** does as well. -/
theorem fillNode_simulates (node : GraphNode) :
    Simulates env (fillNode ucdr env (.item node)) (surveyNode ucdr) := by
  refine (fillString_readsOn .elsewhere _).bind (fun nodeNamespace nodeNamespace' same => ?_) fun _ => ?_
  · refine (fillString_readsOn .elsewhere _).bind (fun nodeName nodeName' same' => ?_) fun _ => ?_
    · refine (fillSequence_simulates fillEntity_simulates fillEntity_null).bind
        (fun entities entities' same'' => ?_) fun _ => passes_pure _
      exact Simulates.pure fun all => by rw [same all, same' all, same'' all]
    · exact (fillSequence_initialises _).bind fun _ => passes_pure _
  · refine (fillString_passes _).initialises_bind fun _ => ?_
    exact (fillSequence_initialises _).bind fun _ => passes_pure _

/-- **The parser follows the survey** of the sample. -/
theorem fillGraph_simulates : Simulates env (fillGraph ucdr env) (surveyGraph ucdr) := by
  refine (fillSequence_simulates fillNode_simulates fillNode_null).bind (fun nodes nodes' same => ?_)
    fun _ => passes_pure _
  exact Simulates.pure fun all => by rw [same all]

/-- Parser and survey start with the same sample. -/
theorem sound_start (tempBuffer : β) : Sound env (.start tempBuffer) (.start tempBuffer) :=
  ⟨rfl, rfl, rfl, fun _ => rfl, rfl, fun _ mem => absurd mem List.not_mem_nil⟩

end Parts

/-! ## The survey and the decoder -/

/-- The survey reads what the decoder reads. -/
def Agrees (q : Survey β α) (reader : Reader β α) : Prop := ∀ w,
  (∃ value v, q w = (.ok value, v) ∧ reader w.tempBuffer = some (value, v.tempBuffer)) ∨
    ∃ place v, q w = (.error place, v) ∧ reader w.tempBuffer = none

theorem Agrees.pure (value : α) : Agrees (pure value : Survey β α) (pure value : Reader β α) := fun w =>
  .inl ⟨value, w, rfl, rfl⟩

/-- Surveys that agree with readers compose as these do. -/
theorem Agrees.bind {q : Survey β α} {g : α → Survey β γ} {reader : Reader β α} {next : α → Reader β γ}
    (first : Agrees q reader) (rest : ∀ value, Agrees (g value) (next value)) :
    Agrees (q >>= g) (reader >>= next) := by
  intro w
  have run : (reader >>= next) w.tempBuffer = (reader w.tempBuffer).bind fun r => next r.1 r.2 := rfl
  rcases first w with ⟨value, v, surveyed, read⟩ | ⟨place, v, surveyed, read⟩
  · rw [Survey.bind_ok surveyed, run, read]
    exact rest value v
  · rw [Survey.bind_error surveyed, run, read]
    exact .inr ⟨place, v, rfl, rfl⟩

theorem agrees_read (place : Place) (reader : Reader β α) : Agrees (surveyRead place reader) reader := by
  intro w
  cases h : reader w.tempBuffer with
  | some found => exact .inl ⟨found.1, _, surveyRead_some h, rfl⟩
  | none => exact .inr ⟨place, w, surveyRead_none h, rfl⟩

section Decoder

variable (ucdr : Ucdr β)

theorem agrees_count : Agrees (surveyCount ucdr) ucdr.deserializeUint32T := by
  intro w
  cases h : ucdr.deserializeUint32T w.tempBuffer with
  | some found => exact .inl ⟨found.1, _, surveyCount_some h, rfl⟩
  | none => exact .inr ⟨_, w, surveyCount_none h, rfl⟩

theorem agrees_string (place : Place) :
    Agrees (surveyString ucdr place) (ucdr.deserializeString tempStringSize) := by
  intro w
  cases h : ucdr.deserializeString tempStringSize w.tempBuffer with
  | some found => exact .inl ⟨found.1, _, Survey.bind_ok (surveyRead_some h), rfl⟩
  | none => exact .inr ⟨place, w, Survey.bind_error (surveyRead_none h), rfl⟩

theorem agrees_items {item : Survey β α} {reader : Reader β α} (each : Agrees item reader)
    (indices : List Nat) :
    Agrees (surveyItems item indices.length) (indices.mapM fun _ => reader) := by
  induction indices with
  | nil => exact Agrees.pure []
  | cons i indices ih =>
    rw [List.mapM_cons]
    exact each.bind fun _ => ih.bind fun _ => Agrees.pure _

theorem Agrees.relying {q : Survey β α} {reader : Reader β α} (agrees : Agrees q reader) :
    Agrees (rely >>= fun _ => q) reader := by
  intro w
  rw [Survey.bind_ok (rely_run w)]
  exact agrees w.relying

/-- The survey of a sequence and its reader stop at the same place. -/
theorem agrees_sequence {item : Survey β α} {reader : Reader β α} (each : Agrees item reader) :
    Agrees (surveySequence ucdr item) (readSequence ucdr reader) := by
  refine (agrees_count ucdr).bind fun count => ?_
  have items := agrees_items each (List.range count.toNat)
  rw [List.length_range] at items
  cases h : count.toNat with
  | zero => exact Agrees.pure []
  | succ size =>
    rw [h] at items
    exact items.relying

/-- The types of an entity are surveyed by a loop of their own, and read the same. -/
theorem agrees_types :
    Agrees (surveyTypes ucdr) (readSequence ucdr (ucdr.deserializeString tempStringSize)) := by
  refine (agrees_count ucdr).bind fun count => ?_
  have items := agrees_items (agrees_string ucdr .typeName) (List.range' 1 (count.toNat - 1))
  rw [List.length_range'] at items
  rw [List.range_eq_range']
  cases h : count.toNat with
  | zero => exact Agrees.pure []
  | succ size =>
    rw [h, Nat.add_sub_cancel] at items
    rw [List.range'_succ, List.mapM_cons]
    refine (agrees_string ucdr .typeName).bind fun first => ?_
    have rest := items.bind fun values => Agrees.pure (first :: values)
    by_cases one : size = 0
    · simpa only [one, ne_eq, not_true, if_false] using rest
    · simpa only [one, ne_eq, not_false_iff, if_true] using rest.relying

theorem agrees_entity : Agrees (surveyEntity ucdr) (readEntity ucdr) :=
  (agrees_read .elsewhere _).bind fun _ => (agrees_string ucdr .elsewhere).bind fun _ =>
    (agrees_types ucdr).bind fun _ => Agrees.pure _

theorem agrees_node : Agrees (surveyNode ucdr) (readNode ucdr) :=
  (agrees_string ucdr .elsewhere).bind fun _ => (agrees_string ucdr .elsewhere).bind fun _ =>
    (agrees_sequence ucdr (agrees_entity ucdr)).bind fun _ => Agrees.pure _

/-- The decoder reads a sequence of nodes. -/
theorem decoder_eq (graphInfo : GraphInfo) :
    RmwMicroxrcedds.rmwGraphFillDataFromBuffer ucdr graphInfo =
      (readSequence ucdr (readNode ucdr)
        (ucdr.initBuffer graphInfo.microBuffer graphInfo.microBufferLength)).map fun r => ⟨r.1⟩ := by
  unfold RmwMicroxrcedds.rmwGraphFillDataFromBuffer
  dsimp only
  cases readSequence ucdr (readNode ucdr)
      (ucdr.initBuffer graphInfo.microBuffer graphInfo.microBufferLength) with
  | none => rfl
  | some r => rfl

/-- **The parser decodes** what can be decoded, when everything it asks for is granted, and reports an
error otherwise. -/
theorem rmwGraphFillDataFromBuffer_decodes {env : Surroundings} (sequences : ∀ k, env.sequences k = true)
    (strings : ∀ k, env.strings k = true) (graphInfo : GraphInfo) : ∃ graph s,
    rmwGraphFillDataFromBuffer ucdr env graphInfo = some (graph, s) ∧
      match RmwMicroxrcedds.rmwGraphFillDataFromBuffer ucdr graphInfo with
      | some decoded => s.ret = .ok ∧ graph = decoded
      | none => s.ret = .error := by
  have decoder := decoder_eq ucdr graphInfo
  set tempBuffer := ucdr.initBuffer graphInfo.microBuffer graphInfo.microBufferLength
  have simulated : Simulates env (fillGraph ucdr env) (surveyGraph ucdr) := fillGraph_simulates
  have agrees := agrees_sequence ucdr (agrees_node ucdr) (.start tempBuffer)
  cases simulated.follows _ _ (sound_start tempBuffer) with
  | @complete graph filled s v surveyed ran sound content =>
    refine ⟨filled, s, ran, ?_⟩
    rcases agrees with ⟨nodes, u, surveyed', read⟩ | ⟨place, u, surveyed', -⟩
    · have whole : surveyGraph ucdr (.start tempBuffer) = (.ok ⟨nodes⟩, u) := Survey.bind_ok surveyed'
      obtain ⟨rfl, rfl⟩ : graph = ⟨nodes⟩ ∧ v = u := by
        have same := surveyed.symm.trans whole
        exact ⟨Except.ok.inj (Prod.mk.inj same).1, (Prod.mk.inj same).2⟩
      rw [decoder]
      have read' : readSequence ucdr (readNode ucdr) tempBuffer = some (nodes, v.tempBuffer) := read
      rw [read']
      exact ⟨sound.ret, content ⟨sequences, strings⟩⟩
    · have broke : surveyGraph ucdr (.start tempBuffer) = (.error place, u) :=
        Survey.bind_error surveyed'
      cases (Prod.mk.inj (surveyed.symm.trans broke)).1
  | @breaks place filled s v surveyed granted ran broken =>
    refine ⟨filled, s, ran, ?_⟩
    rcases agrees with ⟨nodes, u, surveyed', -⟩ | ⟨place', u, surveyed', read⟩
    · have whole : surveyGraph ucdr (.start tempBuffer) = (.ok ⟨nodes⟩, u) := Survey.bind_ok surveyed'
      cases (Prod.mk.inj (surveyed.symm.trans whole)).1
    · rw [decoder]
      have read' : readSequence ucdr (readNode ucdr) tempBuffer = none := read
      rw [read']
      exact broken.ret
  | crashes surveyed refused ran => exact absurd (fun k _ => sequences k) refused.not_granted

end Decoder

end RmwMicroxrcedds.GraphParser
