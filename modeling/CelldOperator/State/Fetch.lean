/-
  CelldOperator.State.Fetch

  **WHICH `/state` RESPONSES ARE BELIEVED** (`StateClient.Fetch`).

  `Fetch` decodes the body twice: into a map of raw members, for the checks that a
  member is there, and into `PodState`, for its values.  The two decoders treat
  duplicated and differently spelled names differently, so both are modelled as
  `encoding/json` runs them (`fetchBody`).

    • `fetchResponse_eq` — where names are distinct and spelled as celld spells them,
      that is the decoder the rollout's model uses (`readState`),
    • `ValidBody`        — the documents that are believed, member by member,
    • `fetch_ok_iff`     — a state is returned exactly for a 200 with such a document
      of at most 4 MiB, and it says what the document says.
-/
import CelldOperator.Go.Decode
import CelldOperator.Cluster.Server

namespace CelldOperator

/-! ## §1. Decoding in place. -/

/-- Into an `int64` that holds `cur`. -/
def setInt64 (cur : Int) : Json → Option Int
  | .null => some cur
  | .int n => if -2 ^ 63 ≤ n ∧ n < 2 ^ 63 then some n else none
  | _ => none

/-- Into a `*int64`. -/
def setInt64Pointer : Json → Option (Option Int)
  | .null => some none
  | .int n => if -2 ^ 63 ≤ n ∧ n < 2 ^ 63 then some (some n) else none
  | _ => none

/-- Into a `string` that holds `cur`. -/
def setString (cur : String) : Json → Option String
  | .null => some cur
  | .str s => some s
  | _ => none

/-- Into a `*string`. -/
def setStringPointer : Json → Option (Option String)
  | .null => some none
  | .str s => some (some s)
  | _ => none

/-- Into a `[]json.RawMessage`, of which the length is kept. -/
def setRawMessages : Json → Option Nat
  | .null => some 0
  | .arr items => some items.length
  | _ => none

/-- The fields of `DeploymentState`. -/
inductive DeploymentField where
  | version | generation | draining | swapping
  deriving DecidableEq

/-- Their JSON names. -/
def DeploymentField.name : DeploymentField → String
  | .version => "version"
  | .generation => "generation"
  | .draining => "draining"
  | .swapping => "swapping"

/-- Their types. -/
def DeploymentField.Ty : DeploymentField → Type
  | .version => String
  | .generation => Int
  | .draining => Nat
  | .swapping => Int

/-- How each one is decoded. -/
def DeploymentField.set : (f : DeploymentField) → f.Ty → Json → Option f.Ty
  | .version, cur, value => setString cur value
  | .generation, cur, value => setInt64 cur value
  | .draining, _, value => setRawMessages value
  | .swapping, cur, value => setInt64 cur value

/-- In order of declaration. -/
def DeploymentField.all : List DeploymentField := [.version, .generation, .draining, .swapping]

/-- The struct type `DeploymentState`. -/
def deploymentStruct : Struct where
  Field := DeploymentField
  decEq := inferInstance
  fields := DeploymentField.all
  name := DeploymentField.name
  Ty := DeploymentField.Ty
  set := DeploymentField.set

/-- The contents of a `DeploymentState`. -/
def DeploymentState.contents (d : DeploymentState) : deploymentStruct.Value
  | .version => d.version
  | .generation => d.generation
  | .draining => d.draining
  | .swapping => d.swapping

/-- The `DeploymentState` with the given contents. -/
def DeploymentState.ofContents (v : deploymentStruct.Value) : DeploymentState :=
  ⟨v .version, v .generation, v .draining, v .swapping⟩

/-- Into a `*DeploymentState`: a nil pointer is given a zero struct first. -/
def setDeployment (fold : String → String) (cur : Option DeploymentState) :
    Json → Option (Option DeploymentState)
  | .null => some none
  | .obj members =>
    (deploymentStruct.setMembers fold (cur.getD ⟨"", 0, 0, 0⟩).contents members).map
      fun v => some (.ofContents v)
  | _ => none

/-- The fields of `PodState`. -/
inductive StateField where
  | deployment | occupied | evicting | restoring | activating | activationWaiting
  | capacityWaiting | shedding | rssBytes | inUseBytes | cgroupWorkingSetBytes
  | cgroupCurrentBytes
  deriving DecidableEq

/-- Their JSON names. -/
def StateField.name : StateField → String
  | .deployment => "deployment"
  | .occupied => "occupied"
  | .evicting => "evicting"
  | .restoring => "restoring"
  | .activating => "activating"
  | .activationWaiting => "activation_waiting"
  | .capacityWaiting => "capacity_waiting"
  | .shedding => "shedding"
  | .rssBytes => "rss_bytes"
  | .inUseBytes => "in_use_bytes"
  | .cgroupWorkingSetBytes => "cgroup_working_set_bytes"
  | .cgroupCurrentBytes => "cgroup_current_bytes"

/-- Their types. -/
def StateField.Ty : StateField → Type
  | .deployment => Option DeploymentState
  | .shedding => Option String
  | .cgroupWorkingSetBytes | .cgroupCurrentBytes => Option Int
  | .occupied | .evicting | .restoring | .activating | .activationWaiting | .capacityWaiting
  | .rssBytes | .inUseBytes => Int

/-- How each one is decoded. -/
def StateField.set (fold : String → String) : (f : StateField) → f.Ty → Json → Option f.Ty
  | .deployment, cur, value => setDeployment fold cur value
  | .shedding, _, value => setStringPointer value
  | .cgroupWorkingSetBytes, _, value | .cgroupCurrentBytes, _, value => setInt64Pointer value
  | .occupied, cur, value | .evicting, cur, value | .restoring, cur, value
  | .activating, cur, value | .activationWaiting, cur, value | .capacityWaiting, cur, value
  | .rssBytes, cur, value | .inUseBytes, cur, value => setInt64 cur value

/-- In order of declaration. -/
def StateField.all : List StateField :=
  [.deployment, .occupied, .evicting, .restoring, .activating, .activationWaiting,
    .capacityWaiting, .shedding, .rssBytes, .inUseBytes, .cgroupWorkingSetBytes,
    .cgroupCurrentBytes]

/-- The struct type `PodState`. -/
def stateStruct (fold : String → String) : Struct where
  Field := StateField
  decEq := inferInstance
  fields := StateField.all
  name := StateField.name
  Ty := StateField.Ty
  set := StateField.set fold

/-- The contents of a `PodState`. -/
def PodState.contents (fold : String → String) (s : PodState) : (stateStruct fold).Value
  | .deployment => s.deployment
  | .occupied => s.occupied
  | .evicting => s.evicting
  | .restoring => s.restoring
  | .activating => s.activating
  | .activationWaiting => s.activationWaiting
  | .capacityWaiting => s.capacityWaiting
  | .shedding => s.shedding
  | .rssBytes => s.rssBytes
  | .inUseBytes => s.inUseBytes
  | .cgroupWorkingSetBytes => s.cgroupWorkingSetBytes
  | .cgroupCurrentBytes => s.cgroupCurrentBytes

/-- The `PodState` with the given contents. -/
def PodState.ofContents {fold : String → String} (v : (stateStruct fold).Value) : PodState where
  deployment := v .deployment
  occupied := v .occupied
  evicting := v .evicting
  restoring := v .restoring
  activating := v .activating
  activationWaiting := v .activationWaiting
  capacityWaiting := v .capacityWaiting
  shedding := v .shedding
  rssBytes := v .rssBytes
  inUseBytes := v .inUseBytes
  cgroupWorkingSetBytes := v .cgroupWorkingSetBytes
  cgroupCurrentBytes := v .cgroupCurrentBytes

/-! ## §2. `Fetch`. -/

/-- `json.Unmarshal` into a `map[string]json.RawMessage`. -/
def unmarshalRaw : Json → Option (List (String × Json))
  | .null => some []
  | .obj members => some members
  | _ => none

/-- `json.Unmarshal` into a zero `PodState`. -/
def unmarshalInto (fold : String → String) : Json → Option PodState
  | .null => some {}
  | .obj members =>
    ((stateStruct fold).setMembers fold (PodState.contents fold {}) members).map .ofContents
  | _ => none

/-- The checks on the values. -/
def checkState (state : PodState) : Except Err PodState :=
  if state.occupied < 0 ∨ state.restoring < 0 ∨ state.evicting < 0 then
    .error (.other "/state has negative counters")
  else
    match state.deployment with
    | some d =>
      if d.version = "" ∨ d.generation < 1 ∨ d.swapping < 0 then
        .error (.other "invalid deployment state")
      else .ok state
    | none => .ok state

/-- What `Fetch` makes of a decoded document. -/
def fetchBody (fold : String → String) (body : Json) : Except Err PodState :=
  match unmarshalRaw body with
  | none => .error decodingError
  | some fields =>
    if (rawMember? fields "error").isSome then .error (.other "/state reports a runtime error")
    else
      match ["occupied", "restoring", "shedding"].find? (fun key =>
          match rawMember? fields key with
          | none => true
          | some value => key != "shedding" && value == .null) with
      | some key => .error (.other ("/state missing " ++ key))
      | none =>
        match unmarshalInto fold body with
        | none => .error decodingError
        | some state => checkState state

/-- What `Fetch` makes of a response. -/
def fetchResponse (fold : String → String) (response : HttpResponse) : Except Err PodState :=
  if response.status ≠ 200 then
    .error (.other ("/state returned " ++ decimal response.status))
  else if 4 * 2 ^ 20 < response.size then .error (.other "/state exceeds 4 MiB")
  else
    match response.body with
    | none => .error decodingError
    | some body => fetchBody fold body

/-- `IsShedding`. -/
def PodState.isShedding (s : PodState) : Bool := s.shedding.isSome

/-! ## §3. Names that are distinct and spelled exactly. -/

theorem bind_ok_iff {α β : Type} {x : Except Err α} {f : α → Except Err β} {b : β} :
    (x >>= f) = .ok b ↔ ∃ a, x = .ok a ∧ f a = .ok b := by
  cases x with
  | error e =>
    constructor
    · intro h
      cases h
    · rintro ⟨a, h, -⟩
      cases h
  | ok a =>
    constructor
    · intro h
      exact ⟨a, rfl, h⟩
    · rintro ⟨a', h, hf⟩
      cases h
      exact hf

theorem DeploymentField.mem_all (f : DeploymentField) : f ∈ DeploymentField.all := by
  cases f <;> decide

theorem DeploymentField.name_injective : Function.Injective DeploymentField.name := by
  intro f g h
  cases f <;> cases g <;> first | rfl | exact absurd h (by decide)

theorem deploymentStruct_lawful : deploymentStruct.Lawful :=
  ⟨DeploymentField.mem_all, DeploymentField.name_injective⟩

theorem StateField.mem_all (f : StateField) : f ∈ StateField.all := by
  cases f <;> decide

theorem StateField.name_injective : Function.Injective StateField.name := by
  intro f g h
  cases f <;> cases g <;> first | rfl | exact absurd h (by decide)

theorem stateStruct_lawful (fold : String → String) : (stateStruct fold).Lawful :=
  ⟨StateField.mem_all, StateField.name_injective⟩

section Fields

variable {body : Json} {key : String}

/-- The field decoders of the rollout's model, as decoding into a zero variable. -/
theorem int64Field_ok_iff {n : Int} :
    int64Field body key = .ok n ↔ decodeOr 0 (setInt64 0) (body.member? key) = some n := by
  unfold int64Field
  cases body.member? key with
  | none => simp [decodeOr]
  | some value =>
    cases value with
    | int n =>
      show (if _ then _ else _) = _ ↔ (if _ then _ else _) = _
      split <;> simp
    | _ => simp [decodeOr, setInt64]

theorem int64Pointer_ok_iff {n : Option Int} :
    int64Pointer body key = .ok n ↔ decodeOr none setInt64Pointer (body.member? key) = some n := by
  unfold int64Pointer int64Field
  cases body.member? key with
  | none => simp [decodeOr]
  | some value =>
    cases value with
    | int n =>
      show Except.map _ (if _ then _ else _) = _ ↔ (if _ then _ else _) = _
      split <;> simp [Except.map]
    | _ => simp [decodeOr, setInt64Pointer, Except.map]

theorem stringField_ok_iff {text : String} :
    stringField body key = .ok text ↔
      decodeOr "" (setString "") (body.member? key) = some text := by
  unfold stringField
  cases body.member? key with
  | none => simp [decodeOr]
  | some value => cases value <;> simp [decodeOr, setString]

theorem stringPointer_ok_iff {text : Option String} :
    stringPointer body key = .ok text ↔
      decodeOr none setStringPointer (body.member? key) = some text := by
  unfold stringPointer
  cases body.member? key with
  | none => simp [decodeOr]
  | some value => cases value <;> simp [decodeOr, setStringPointer]

theorem arrayLength_ok_iff {n : Nat} :
    arrayLength body key = .ok n ↔ decodeOr 0 setRawMessages (body.member? key) = some n := by
  unfold arrayLength
  cases body.member? key with
  | none => simp [decodeOr]
  | some value => cases value <;> simp [decodeOr, setRawMessages]

end Fields

/-- The names of a `/state` document: distinct, and a name that matches a field up to case is
spelled like it; so too inside `deployment`. -/
structure WellNamed (fold : String → String) (members : List (String × Json)) : Prop where
  distinct : DistinctNames members
  spelled : (stateStruct fold).SpelledExactly fold members
  inner : ∀ inner, (Json.obj members).member? "deployment" = some (.obj inner) →
    DistinctNames inner ∧ deploymentStruct.SpelledExactly fold inner

section Decoders

variable {fold : String → String} {members : List (String × Json)}

/-- The two decoders of a deployment object agree. -/
theorem setMembers_deployment_iff (hdistinct : DistinctNames members)
    (hspelled : deploymentStruct.SpelledExactly fold members) {d : DeploymentState} :
    deploymentStruct.setMembers fold (DeploymentState.contents ⟨"", 0, 0, 0⟩) members =
        some d.contents ↔
      stringField (.obj members) "version" = .ok d.version ∧
        int64Field (.obj members) "generation" = .ok d.generation ∧
        arrayLength (.obj members) "draining" = .ok d.draining ∧
        int64Field (.obj members) "swapping" = .ok d.swapping := by
  rw [Struct.setMembers_eq_some_iff deploymentStruct_lawful hdistinct hspelled,
    stringField_ok_iff, int64Field_ok_iff, arrayLength_ok_iff, int64Field_ok_iff]
  constructor
  · intro h
    exact ⟨h .version, h .generation, h .draining, h .swapping⟩
  · rintro ⟨hversion, hgeneration, hdraining, hswapping⟩ f
    cases f with
    | version => exact hversion
    | generation => exact hgeneration
    | draining => exact hdraining
    | swapping => exact hswapping

theorem deploymentField_ok_iff (h : WellNamed fold members) {d : Option DeploymentState} :
    deploymentField (.obj members) = .ok d ↔
      decodeOr none (setDeployment fold none) ((Json.obj members).member? "deployment") =
        some d := by
  unfold deploymentField
  cases hmember : (Json.obj members).member? "deployment" with
  | none => simp [decodeOr]
  | some value =>
    cases value with
    | obj inner =>
      obtain ⟨hdistinct, hspelled⟩ := h.inner inner hmember
      simp only [decodeOr, setDeployment, bind_ok_iff, Option.map_eq_some_iff,
        Option.getD_none]
      constructor
      · rintro ⟨version, hversion, generation, hgeneration, draining, hdraining, swapping,
          hswapping, hd⟩
        cases hd
        refine ⟨DeploymentState.contents ⟨version, generation, draining, swapping⟩, ?_, rfl⟩
        exact (setMembers_deployment_iff hdistinct hspelled).mpr
          ⟨hversion, hgeneration, hdraining, hswapping⟩
      · rintro ⟨v, hv, hd⟩
        have hv' : deploymentStruct.setMembers fold
            (DeploymentState.contents ⟨"", 0, 0, 0⟩) inner =
              some (DeploymentState.ofContents v).contents := by
          rw [hv]
          refine congrArg some (funext fun f => ?_)
          cases f <;> rfl
        obtain ⟨hversion, hgeneration, hdraining, hswapping⟩ :=
          (setMembers_deployment_iff hdistinct hspelled).mp hv'
        exact ⟨_, hversion, _, hgeneration, _, hdraining, _, hswapping, congrArg _ hd⟩
    | _ => simp [decodeOr, setDeployment]

/-- What `json.Unmarshal(raw, &state)` of the rollout's model stores, field by field. -/
theorem unmarshalState_ok_iff {body : Json} {s : PodState} :
    unmarshalState body = .ok s ↔
      deploymentField body = .ok s.deployment ∧ int64Field body "occupied" = .ok s.occupied ∧
      int64Field body "evicting" = .ok s.evicting ∧
      int64Field body "restoring" = .ok s.restoring ∧
      int64Field body "activating" = .ok s.activating ∧
      int64Field body "activation_waiting" = .ok s.activationWaiting ∧
      int64Field body "capacity_waiting" = .ok s.capacityWaiting ∧
      stringPointer body "shedding" = .ok s.shedding ∧
      int64Field body "rss_bytes" = .ok s.rssBytes ∧
      int64Field body "in_use_bytes" = .ok s.inUseBytes ∧
      int64Pointer body "cgroup_working_set_bytes" = .ok s.cgroupWorkingSetBytes ∧
      int64Pointer body "cgroup_current_bytes" = .ok s.cgroupCurrentBytes := by
  unfold unmarshalState
  simp only [bind_ok_iff]
  constructor
  · rintro ⟨_, h₁, _, h₂, _, h₃, _, h₄, _, h₅, _, h₆, _, h₇, _, h₈, _, h₉, _, h₁₀, _, h₁₁, _, h₁₂,
      hs⟩
    cases hs
    exact ⟨h₁, h₂, h₃, h₄, h₅, h₆, h₇, h₈, h₉, h₁₀, h₁₁, h₁₂⟩
  · rintro ⟨h₁, h₂, h₃, h₄, h₅, h₆, h₇, h₈, h₉, h₁₀, h₁₁, h₁₂⟩
    exact ⟨_, h₁, _, h₂, _, h₃, _, h₄, _, h₅, _, h₆, _, h₇, _, h₈, _, h₉, _, h₁₀, _, h₁₁, _, h₁₂,
      rfl⟩

/-- **The typed decode**: in place and in document order, or field by field. -/
theorem unmarshalInto_eq_some_iff (h : WellNamed fold members) {s : PodState} :
    unmarshalInto fold (.obj members) = some s ↔ unmarshalState (.obj members) = .ok s := by
  have hcontents : unmarshalInto fold (.obj members) = some s ↔
      (stateStruct fold).setMembers fold (PodState.contents fold {}) members =
        some (s.contents fold) := by
    simp only [unmarshalInto, Option.map_eq_some_iff]
    constructor
    · rintro ⟨v, hv, hs⟩
      rw [hv, ← hs]
      refine congrArg some (funext fun f => ?_)
      cases f <;> rfl
    · intro hv
      exact ⟨_, hv, rfl⟩
  rw [hcontents, Struct.setMembers_eq_some_iff (stateStruct_lawful fold) h.distinct h.spelled,
    unmarshalState_ok_iff, deploymentField_ok_iff h]
  simp only [int64Field_ok_iff, int64Pointer_ok_iff, stringPointer_ok_iff]
  constructor
  · intro hf
    exact ⟨hf .deployment, hf .occupied, hf .evicting, hf .restoring, hf .activating,
      hf .activationWaiting, hf .capacityWaiting, hf .shedding, hf .rssBytes, hf .inUseBytes,
      hf .cgroupWorkingSetBytes, hf .cgroupCurrentBytes⟩
  · rintro ⟨h₁, h₂, h₃, h₄, h₅, h₆, h₇, h₈, h₉, h₁₀, h₁₁, h₁₂⟩ f
    cases f with
    | deployment => exact h₁
    | occupied => exact h₂
    | evicting => exact h₃
    | restoring => exact h₄
    | activating => exact h₅
    | activationWaiting => exact h₆
    | capacityWaiting => exact h₇
    | shedding => exact h₈
    | rssBytes => exact h₉
    | inUseBytes => exact h₁₀
    | cgroupWorkingSetBytes => exact h₁₁
    | cgroupCurrentBytes => exact h₁₂

end Decoders

/-! ## §4. `Fetch` is the decoder of the rollout's model. -/

/-- The only error of a decoder. -/
def FailsDecoding {α : Type} (x : Except Err α) : Prop := ∀ e, x = .error e → e = decodingError

theorem failsDecoding_ok {α : Type} (a : α) : FailsDecoding (.ok a) := by
  intro e h
  cases h

theorem FailsDecoding.bind {α β : Type} {x : Except Err α} {f : α → Except Err β}
    (hx : FailsDecoding x) (hf : ∀ a, FailsDecoding (f a)) : FailsDecoding (x >>= f) := by
  intro e h
  cases x with
  | error e' =>
    cases h
    exact hx e rfl
  | ok a => exact hf a e h

section Failures

variable (body : Json) (key : String)

theorem int64Field_fails : FailsDecoding (int64Field body key) := by
  unfold int64Field FailsDecoding
  intro e h
  split at h <;> try split at h
  all_goals cases h
  all_goals rfl

theorem int64Pointer_fails : FailsDecoding (int64Pointer body key) := by
  unfold int64Pointer
  split
  · exact failsDecoding_ok _
  · exact failsDecoding_ok _
  · exact (int64Field_fails body key).bind fun n => failsDecoding_ok (some n)

theorem stringField_fails : FailsDecoding (stringField body key) := by
  unfold stringField FailsDecoding
  intro e h
  split at h
  all_goals cases h
  rfl

theorem stringPointer_fails : FailsDecoding (stringPointer body key) := by
  unfold stringPointer FailsDecoding
  intro e h
  split at h
  all_goals cases h
  rfl

theorem arrayLength_fails : FailsDecoding (arrayLength body key) := by
  unfold arrayLength FailsDecoding
  intro e h
  split at h
  all_goals cases h
  rfl

theorem deploymentField_fails : FailsDecoding (deploymentField body) := by
  unfold deploymentField
  split
  · exact failsDecoding_ok _
  · exact failsDecoding_ok _
  · refine (stringField_fails _ _).bind fun _ => ?_
    refine (int64Field_fails _ _).bind fun _ => ?_
    refine (arrayLength_fails _ _).bind fun _ => ?_
    exact (int64Field_fails _ _).bind fun _ => failsDecoding_ok _
  · intro e h
    cases h
    rfl

theorem unmarshalState_fails : FailsDecoding (unmarshalState body) := by
  unfold unmarshalState
  refine (deploymentField_fails body).bind fun _ => ?_
  refine (int64Field_fails body _).bind fun _ => ?_
  refine (int64Field_fails body _).bind fun _ => ?_
  refine (int64Field_fails body _).bind fun _ => ?_
  refine (int64Field_fails body _).bind fun _ => ?_
  refine (int64Field_fails body _).bind fun _ => ?_
  refine (int64Field_fails body _).bind fun _ => ?_
  refine (stringPointer_fails body _).bind fun _ => ?_
  refine (int64Field_fails body _).bind fun _ => ?_
  refine (int64Field_fails body _).bind fun _ => ?_
  refine (int64Pointer_fails body _).bind fun _ => ?_
  exact (int64Pointer_fails body _).bind fun _ => failsDecoding_ok _

end Failures

/-- **One document, two models of `Fetch`.** -/
theorem fetchBody_eq {fold : String → String} {members : List (String × Json)}
    (h : WellNamed fold members) : fetchBody fold (.obj members) = decodeState (.obj members) := by
  have hinto : unmarshalInto fold (.obj members) = (unmarshalState (.obj members)).toOption := by
    cases hstate : unmarshalState (.obj members) with
    | ok s => exact (unmarshalInto_eq_some_iff h).mpr hstate
    | error e =>
      refine Option.eq_none_iff_forall_ne_some.mpr fun s hs => ?_
      rw [(unmarshalInto_eq_some_iff h).mp hs] at hstate
      cases hstate
  unfold fetchBody decodeState missingKey unmarshalRaw
  simp only [rawMember?_eq h.distinct, hinto]
  cases hstate : unmarshalState (.obj members) with
  | ok s => rfl
  | error e =>
    rw [unmarshalState_fails _ e hstate]
    rfl

theorem fetchResponse_eq {fold : String → String} {response : HttpResponse}
    (h : ∀ members, response.body = some (.obj members) → WellNamed fold members) :
    fetchResponse fold response = readState response := by
  unfold fetchResponse readState
  cases hbody : response.body with
  | none => rfl
  | some body =>
    have hfetch : fetchBody fold body = decodeState body := by
      cases body with
      | obj members => exact fetchBody_eq (h members hbody)
      | _ => rfl
    dsimp only
    rw [hfetch]

/-! ## §5. The documents that are believed. -/

/-- A member that is absent or null. -/
def Unset (value : Option Json) : Prop := value = none ∨ value = some .null

/-- A member that is an integer at least `least`, in the range of `int64`. -/
def IntAtLeast (least : Int) (value : Option Json) : Prop :=
  ∃ n, value = some (.int n) ∧ least ≤ n ∧ n < 2 ^ 63

/-- The `deployment` objects that are believed. -/
structure ValidDeployment (d : Json) : Prop where
  version : ∃ text, d.member? "version" = some (.str text) ∧ text ≠ ""
  generation : IntAtLeast 1 (d.member? "generation")
  draining : Unset (d.member? "draining") ∨ ∃ items, d.member? "draining" = some (.arr items)
  swapping : Unset (d.member? "swapping") ∨ IntAtLeast 0 (d.member? "swapping")

/-- The counters no check looks at. -/
def plainCounters : List String :=
  ["activating", "activation_waiting", "capacity_waiting", "rss_bytes", "in_use_bytes",
    "cgroup_working_set_bytes", "cgroup_current_bytes"]

/-- **The `/state` documents that are believed.** -/
structure ValidBody (body : Json) : Prop where
  noError : body.member? "error" = none
  occupied : IntAtLeast 0 (body.member? "occupied")
  restoring : IntAtLeast 0 (body.member? "restoring")
  shedding : body.member? "shedding" = some .null ∨
    ∃ reason, body.member? "shedding" = some (.str reason)
  evicting : Unset (body.member? "evicting") ∨ IntAtLeast 0 (body.member? "evicting")
  counters : ∀ key ∈ plainCounters,
    Unset (body.member? key) ∨ IntAtLeast (-2 ^ 63) (body.member? key)
  deployment : Unset (body.member? "deployment") ∨
    ∃ inner, body.member? "deployment" = some (.obj inner) ∧ ValidDeployment (.obj inner)

section Specs

variable {body : Json} {key : String}

/-- An `int64` field decodes when it is unset or an integer in range. -/
theorem int64Field_spec {n : Int} :
    int64Field body key = .ok n ↔ (Unset (body.member? key) ∧ n = 0) ∨
      (body.member? key = some (.int n) ∧ -2 ^ 63 ≤ n ∧ n < 2 ^ 63) := by
  unfold int64Field Unset
  cases body.member? key with
  | none => simp [eq_comm]
  | some value =>
    cases value with
    | null => simp [eq_comm]
    | int m =>
      by_cases hrange : -2 ^ 63 ≤ m ∧ m < 2 ^ 63
      · simp only [if_pos hrange, Except.ok.injEq, Option.some.injEq, Json.int.injEq, reduceCtorEq,
          or_self, false_and, false_or]
        constructor
        · intro h
          exact ⟨h, h ▸ hrange⟩
        · intro h
          exact h.1
      · simp only [if_neg hrange, reduceCtorEq, Option.some.injEq, Json.int.injEq, or_self,
          false_and, false_or, false_iff]
        rintro ⟨rfl, h⟩
        exact hrange h
    | _ => simp

theorem exists_int64Field_iff :
    (∃ n, int64Field body key = .ok n) ↔
      Unset (body.member? key) ∨ IntAtLeast (-2 ^ 63) (body.member? key) := by
  simp only [int64Field_spec, IntAtLeast]
  constructor
  · rintro ⟨n, ⟨hunset, -⟩ | hint⟩
    · exact .inl hunset
    · exact .inr ⟨n, hint⟩
  · rintro (hunset | ⟨n, hint⟩)
    · exact ⟨0, .inl ⟨hunset, rfl⟩⟩
    · exact ⟨n, .inr hint⟩

/-- A counter that is checked against a bound of at most zero. -/
theorem exists_counter_iff :
    (∃ n, int64Field body key = .ok n ∧ 0 ≤ n) ↔
      Unset (body.member? key) ∨ IntAtLeast 0 (body.member? key) := by
  simp only [int64Field_spec, IntAtLeast]
  constructor
  · rintro ⟨n, ⟨hunset, -⟩ | ⟨hint, -, hlt⟩, hn⟩
    · exact .inl hunset
    · exact .inr ⟨n, hint, hn, hlt⟩
  · rintro (hunset | ⟨n, hint, hn, hlt⟩)
    · exact ⟨0, .inl ⟨hunset, rfl⟩, by omega⟩
    · exact ⟨n, .inr ⟨hint, by omega, hlt⟩, hn⟩

theorem exists_int64Pointer_iff :
    (∃ n, int64Pointer body key = .ok n) ↔
      Unset (body.member? key) ∨ IntAtLeast (-2 ^ 63) (body.member? key) := by
  rw [← exists_int64Field_iff]
  unfold int64Pointer int64Field
  cases body.member? key with
  | none => simp
  | some value =>
    cases value with
    | null => simp
    | int n =>
      dsimp only
      split <;> simp [Except.map]
    | _ => simp [Except.map]

/-- A deployment decodes when it is unset or an object whose fields decode. -/
theorem exists_deploymentField_iff :
    (∃ d, deploymentField body = .ok d ∧
      ∀ d', d = some d' → d'.version ≠ "" ∧ 1 ≤ d'.generation ∧ 0 ≤ d'.swapping) ↔
      Unset (body.member? "deployment") ∨
        ∃ inner, body.member? "deployment" = some (.obj inner) ∧ ValidDeployment (.obj inner) := by
  unfold deploymentField Unset
  cases body.member? "deployment" with
  | none => simp
  | some value =>
    cases value with
    | null => simp
    | obj inner =>
      simp only [reduceCtorEq, Option.some.injEq, or_self, false_or, Json.obj.injEq,
        exists_eq_left', bind_ok_iff]
      constructor
      · rintro ⟨_, ⟨version, hversion, generation, hgeneration, draining, hdraining, swapping,
          hswapping, hd⟩, hchecks⟩
        cases hd
        obtain ⟨hv, hg, hs⟩ := hchecks _ rfl
        dsimp only at hv hg hs
        refine ⟨?_, ?_, ?_, exists_counter_iff.mp ⟨swapping, hswapping, hs⟩⟩
        · unfold stringField at hversion
          split at hversion
          · cases hversion
            exact absurd rfl hv
          · cases hversion
            exact absurd rfl hv
          · next text htext =>
            cases hversion
            exact ⟨_, htext, hv⟩
          · cases hversion
        · rcases int64Field_spec.mp hgeneration with ⟨-, hzero⟩ | ⟨hint, -, hlt⟩
          · omega
          · exact ⟨generation, hint, hg, hlt⟩
        · unfold arrayLength at hdraining
          split at hdraining
          · next hnone => exact .inl (.inl hnone)
          · next hnull => exact .inl (.inr hnull)
          · next items hitems => exact .inr ⟨items, hitems⟩
          · cases hdraining
      · rintro ⟨⟨text, htext, hne⟩, ⟨generation, hgeneration, hone, hlt⟩, hdraining, hswapping⟩
        obtain ⟨swapping, hswap, hnonneg⟩ := exists_counter_iff.mpr hswapping
        have hdrain : ∃ n, arrayLength (.obj inner) "draining" = .ok n := by
          unfold arrayLength
          rcases hdraining with (hnone | hnull) | ⟨items, hitems⟩
          · exact ⟨0, by rw [hnone]⟩
          · exact ⟨0, by rw [hnull]⟩
          · exact ⟨items.length, by rw [hitems]⟩
        obtain ⟨draining, hdraining⟩ := hdrain
        refine ⟨_, ⟨text, ?_, generation, ?_, draining, hdraining, swapping, hswap, rfl⟩, ?_⟩
        · unfold stringField
          rw [htext]
        · exact int64Field_spec.mpr (.inr ⟨hgeneration, by omega, hlt⟩)
        · intro d' hd'
          cases hd'
          exact ⟨hne, hone, hnonneg⟩
    | _ => simp

end Specs

section Believed

variable {members : List (String × Json)} {s : PodState}

/-- The required members are there; only `shedding` may be null. -/
theorem missingKey_eq_none_iff {body : Json} :
    missingKey body = none ↔ ¬ Unset (body.member? "occupied") ∧
      ¬ Unset (body.member? "restoring") ∧ body.member? "shedding" ≠ none := by
  unfold missingKey Unset
  rw [List.find?_eq_none]
  simp only [List.forall_mem_cons, List.not_mem_nil, false_imp_iff, implies_true, and_true]
  cases body.member? "occupied" <;> cases body.member? "restoring" <;>
    cases body.member? "shedding" <;> simp

/-- What a document passes through. -/
theorem decodeState_ok_iff :
    decodeState (.obj members) = .ok s ↔
      (Json.obj members).member? "error" = none ∧ missingKey (.obj members) = none ∧
      unmarshalState (.obj members) = .ok s ∧
      (0 ≤ s.occupied ∧ 0 ≤ s.restoring ∧ 0 ≤ s.evicting) ∧
      ∀ d, s.deployment = some d → d.version ≠ "" ∧ 1 ≤ d.generation ∧ 0 ≤ d.swapping := by
  unfold decodeState
  dsimp only
  cases (Json.obj members).member? "error" with
  | some _ => simp
  | none =>
    cases missingKey (.obj members) with
    | some key => simp
    | none =>
      cases unmarshalState (.obj members) with
      | error e => simp
      | ok state =>
        simp only [Option.isSome_none, Bool.false_eq_true, if_false, true_and,
          Except.ok.injEq]
        by_cases hneg : state.occupied < 0 ∨ state.restoring < 0 ∨ state.evicting < 0
        · rw [if_pos hneg]
          refine iff_of_false (by simp) ?_
          rintro ⟨rfl, hnonneg, -⟩
          omega
        · rw [if_neg hneg]
          cases hd : state.deployment with
          | none =>
            dsimp only
            rw [Except.ok.injEq]
            constructor
            · rintro rfl
              exact ⟨rfl, by omega, fun d h => by rw [hd] at h; cases h⟩
            · intro h
              exact h.1
          | some d =>
            dsimp only
            by_cases hbad : d.version = "" ∨ d.generation < 1 ∨ d.swapping < 0
            · rw [if_pos hbad]
              refine iff_of_false (by simp) ?_
              rintro ⟨rfl, -, hdeployment⟩
              obtain ⟨hversion, hgeneration, hswapping⟩ := hdeployment d hd
              rcases hbad with hbad | hbad | hbad
              · exact hversion hbad
              · omega
              · omega
            · rw [if_neg hbad, Except.ok.injEq]
              obtain ⟨hversion, hrest⟩ := not_or.mp hbad
              constructor
              · rintro rfl
                refine ⟨rfl, by omega, fun d' h => ?_⟩
                rw [hd] at h
                cases h
                exact ⟨hversion, by omega⟩
              · intro h
                exact h.1

/-- **Believed documents are the valid ones.** -/
theorem exists_decodeState_iff :
    (∃ s, decodeState (.obj members) = .ok s) ↔ ValidBody (.obj members) := by
  simp only [decodeState_ok_iff, missingKey_eq_none_iff, unmarshalState_ok_iff]
  constructor
  · rintro ⟨s, herror, ⟨hocc, hres, hshed⟩, ⟨h₁, h₂, h₃, h₄, h₅, h₆, h₇, h₈, h₉, h₁₀, h₁₁, h₁₂⟩,
      ⟨hn₁, hn₂, hn₃⟩, hchecks⟩
    refine ⟨herror, ?_, ?_, ?_, exists_counter_iff.mp ⟨_, h₃, hn₃⟩, ?_,
      exists_deploymentField_iff.mp ⟨_, h₁, hchecks⟩⟩
    · exact (exists_counter_iff.mp ⟨_, h₂, hn₁⟩).resolve_left hocc
    · exact (exists_counter_iff.mp ⟨_, h₄, hn₂⟩).resolve_left hres
    · unfold stringPointer at h₈
      split at h₈
      · next hnone => exact absurd hnone hshed
      · next hnull => exact .inl hnull
      · next reason hreason => exact .inr ⟨reason, hreason⟩
      · cases h₈
    · simp only [plainCounters, List.forall_mem_cons, List.not_mem_nil, false_imp_iff,
        implies_true, and_true]
      exact ⟨exists_int64Field_iff.mp ⟨_, h₅⟩, exists_int64Field_iff.mp ⟨_, h₆⟩,
        exists_int64Field_iff.mp ⟨_, h₇⟩, exists_int64Field_iff.mp ⟨_, h₉⟩,
        exists_int64Field_iff.mp ⟨_, h₁₀⟩, exists_int64Pointer_iff.mp ⟨_, h₁₁⟩,
        exists_int64Pointer_iff.mp ⟨_, h₁₂⟩⟩
  · rintro ⟨herror, hocc, hres, hshed, hevict, hcounters, hdeployment⟩
    simp only [plainCounters, List.forall_mem_cons, List.not_mem_nil, false_imp_iff,
      implies_true, and_true] at hcounters
    obtain ⟨hc₅, hc₆, hc₇, hc₉, hc₁₀, hc₁₁, hc₁₂⟩ := hcounters
    obtain ⟨d, h₁, hchecks⟩ := exists_deploymentField_iff.mpr hdeployment
    obtain ⟨_, h₂, hn₁⟩ := exists_counter_iff.mpr (.inr hocc)
    obtain ⟨_, h₃, hn₃⟩ := exists_counter_iff.mpr hevict
    obtain ⟨_, h₄, hn₂⟩ := exists_counter_iff.mpr (.inr hres)
    obtain ⟨_, h₅⟩ := exists_int64Field_iff.mpr hc₅
    obtain ⟨_, h₆⟩ := exists_int64Field_iff.mpr hc₆
    obtain ⟨_, h₇⟩ := exists_int64Field_iff.mpr hc₇
    obtain ⟨_, h₉⟩ := exists_int64Field_iff.mpr hc₉
    obtain ⟨_, h₁₀⟩ := exists_int64Field_iff.mpr hc₁₀
    obtain ⟨_, h₁₁⟩ := exists_int64Pointer_iff.mpr hc₁₁
    obtain ⟨_, h₁₂⟩ := exists_int64Pointer_iff.mpr hc₁₂
    have hpresent : ∀ key, IntAtLeast 0 ((Json.obj members).member? key) →
        ¬ Unset ((Json.obj members).member? key) := by
      rintro key ⟨n, hn, -⟩ (hnone | hnull)
      · rw [hn] at hnone
        cases hnone
      · rw [hn] at hnull
        cases hnull
    obtain ⟨shedding, h₈⟩ : ∃ t, stringPointer (.obj members) "shedding" = .ok t := by
      unfold stringPointer
      rcases hshed with hnull | ⟨reason, hreason⟩
      · exact ⟨none, by rw [hnull]⟩
      · exact ⟨some reason, by rw [hreason]⟩
    have hshed' : (Json.obj members).member? "shedding" ≠ none := by
      rcases hshed with hnull | ⟨reason, hreason⟩
      · rw [hnull]
        exact Option.some_ne_none _
      · rw [hreason]
        exact Option.some_ne_none _
    exact ⟨⟨d, _, _, _, _, _, _, shedding, _, _, _, _⟩, herror,
      ⟨hpresent _ hocc, hpresent _ hres, hshed'⟩,
      ⟨h₁, h₂, h₃, h₄, h₅, h₆, h₇, h₈, h₉, h₁₀, h₁₁, h₁₂⟩, ⟨hn₁, hn₂, hn₃⟩, hchecks⟩

/-- **A believed state says what the document says.** -/
theorem values_of_decodeState (h : decodeState (.obj members) = .ok s) :
    (Json.obj members).member? "occupied" = some (.int s.occupied) ∧
      (Json.obj members).member? "restoring" = some (.int s.restoring) ∧
      (s.isShedding = true ↔ (Json.obj members).member? "shedding" ≠ some .null) ∧
      (s.deployment = none ↔ Unset ((Json.obj members).member? "deployment")) := by
  obtain ⟨-, hmissing, hstate, -, -⟩ := decodeState_ok_iff.mp h
  obtain ⟨hocc, hres, hshed⟩ := missingKey_eq_none_iff.mp hmissing
  obtain ⟨h₁, h₂, -, h₄, -, -, -, h₈, -⟩ := unmarshalState_ok_iff.mp hstate
  refine ⟨?_, ?_, ?_, ?_⟩
  · rcases int64Field_spec.mp h₂ with ⟨hunset, -⟩ | ⟨hint, -⟩
    · exact absurd hunset hocc
    · exact hint
  · rcases int64Field_spec.mp h₄ with ⟨hunset, -⟩ | ⟨hint, -⟩
    · exact absurd hunset hres
    · exact hint
  · unfold PodState.isShedding
    unfold stringPointer at h₈
    split at h₈
    · next hnone => exact absurd hnone hshed
    · next hnull =>
      rw [← Except.ok.inj h₈, hnull]
      simp
    · next reason hreason =>
      rw [← Except.ok.inj h₈, hreason]
      simp
    · cases h₈
  · unfold Unset
    unfold deploymentField at h₁
    split at h₁
    · next hnone =>
      rw [← Except.ok.inj h₁, hnone]
      simp
    · next hnull =>
      rw [← Except.ok.inj h₁, hnull]
      simp
    · next inner hinner =>
      simp only [bind_ok_iff] at h₁
      obtain ⟨_, -, _, -, _, -, _, -, hd⟩ := h₁
      rw [← Except.ok.inj hd, hinner]
      simp
    · cases h₁

end Believed

/-! ## §6. Which responses are believed. -/

/-- **State decoding fails closed.**  For a response whose names are well formed, whatever the
case folding of the decoder. -/
theorem fetch_ok_iff (fold : String → String) (response : HttpResponse)
    (hnames : ∀ members, response.body = some (.obj members) → WellNamed fold members) :
    ((∃ s, fetchResponse fold response = .ok s) ↔
      response.status = 200 ∧ response.size ≤ 4 * 2 ^ 20 ∧
        ∃ members, response.body = some (.obj members) ∧ ValidBody (.obj members)) ∧
    ∀ s members, fetchResponse fold response = .ok s → response.body = some (.obj members) →
      (Json.obj members).member? "occupied" = some (.int s.occupied) ∧
      (Json.obj members).member? "restoring" = some (.int s.restoring) ∧
      (s.isShedding = true ↔ (Json.obj members).member? "shedding" ≠ some .null) ∧
      (s.deployment = none ↔ Unset ((Json.obj members).member? "deployment")) := by
  rw [fetchResponse_eq hnames]
  unfold readState
  by_cases hstatus : response.status = 200
  · by_cases hsize : 4 * 2 ^ 20 < response.size
    · rw [if_neg (not_not.mpr hstatus), if_pos hsize]
      constructor
      · refine iff_of_false ?_ ?_
        · rintro ⟨s, h⟩
          cases h
        · rintro ⟨-, h, -⟩
          omega
      · intro s members h
        cases h
    · rw [if_neg (not_not.mpr hstatus), if_neg hsize]
      constructor
      · cases hbody : response.body with
        | none => simp
        | some body =>
          cases body with
          | obj members =>
            dsimp only
            rw [exists_decodeState_iff]
            constructor
            · intro h
              exact ⟨hstatus, by omega, members, rfl, h⟩
            · rintro ⟨-, -, _, heq, h⟩
              cases heq
              exact h
          -- `null` lacks every member, any other value is no object
          | null => simp [decodeState, missingKey, Json.member?]
          | _ => simp [decodeState]
      · intro s members h hbody
        rw [hbody] at h
        exact values_of_decodeState h
  · rw [if_pos hstatus]
    constructor
    · refine iff_of_false ?_ fun h => hstatus h.1
      rintro ⟨s, h⟩
      cases h
    · intro s members h
      cases h

/-- A small state, as celld prints it. -/
def smallState : List (String × Json) :=
  [("occupied", .int 3), ("restoring", .int 0), ("shedding", .null)]

/-- Its names are no field's in another case; upper case is what the decoder folds ASCII to. -/
theorem smallState_spelled : ∀ m ∈ smallState, ∀ f ∈ StateField.all,
    f.name.toUpper = m.1.toUpper → f.name = m.1 := by decide +kernel

theorem smallState_wellNamed : WellNamed String.toUpper smallState where
  distinct := by
    show (smallState.map Prod.fst).Nodup
    decide
  spelled := fun m hm f => smallState_spelled m hm f (StateField.mem_all f)
  inner := by
    intro inner h
    cases h

theorem fetch_small_state :
    ∃ s, fetchResponse String.toUpper ⟨200, 45, some (.obj smallState)⟩ = .ok s := by
  refine (fetch_ok_iff String.toUpper ⟨200, 45, some (.obj smallState)⟩ ?_).1.mpr
    ⟨rfl, by decide, smallState, rfl, ?_⟩
  · intro members h
    cases h
    exact smallState_wellNamed
  · exact ⟨rfl, ⟨3, rfl, by decide, by decide⟩, ⟨0, rfl, by decide, by decide⟩, .inl rfl,
      .inl (.inl rfl), by simp [plainCounters, Unset, smallState, Json.member?], .inl (.inl rfl)⟩

/-- `shedding` present, but neither null nor a string: the document is refused although every
other member is in order. -/
theorem fetch_shedding_true :
    fetchResponse String.toUpper ⟨200, 45, some (.obj
      [("occupied", .int 3), ("restoring", .int 0), ("shedding", .bool true)])⟩ =
        .error decodingError := by
  decide +kernel

end CelldOperator
