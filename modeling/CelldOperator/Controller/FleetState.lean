/-
  CelldOperator.Controller.FleetState

  **LOOKING AT A LIVE FLEET** (`fleetstate.go`, and `observeFleet` of `rollout.go`).

    • `decodeState` / `fetch` — one `/state` response, checked field by field,
    • `fleetSweep`   — every pod polled concurrently; the first error, in order
      of completion, and the 64-bit sum of the activation backlogs,
    • `census`       — are these pods exactly the fleet, all owned and Ready,
    • `observeFleet` — the census of a fresh list, then the sweep.
-/
import CelldOperator.Api.Client
import CelldOperator.Build.PodTemplate

namespace CelldOperator

open Effect Prog

/-! ## §1. Decoding `/state`. -/

/-- What `json.Unmarshal` reports on a value of the wrong type. -/
def decodingError : Err := .other "decoding /state: cannot unmarshal value"

/-- An `int64` field: absent or null leaves zero. -/
def int64Field (body : Json) (key : String) : Except Err Int :=
  match body.member? key with
  | none | some .null => .ok 0
  | some (.int n) => if -2 ^ 63 ≤ n ∧ n < 2 ^ 63 then .ok n else .error decodingError
  | some _ => .error decodingError

/-- A `*int64` field: absent or null leaves nil. -/
def int64Pointer (body : Json) (key : String) : Except Err (Option Int) :=
  match body.member? key with
  | none | some .null => .ok none
  | some _ => (int64Field body key).map some

/-- A `string` field. -/
def stringField (body : Json) (key : String) : Except Err String :=
  match body.member? key with
  | none | some .null => .ok ""
  | some (.str s) => .ok s
  | some _ => .error decodingError

/-- A `*string` field. -/
def stringPointer (body : Json) (key : String) : Except Err (Option String) :=
  match body.member? key with
  | none | some .null => .ok none
  | some (.str s) => .ok (some s)
  | some _ => .error decodingError

/-- The length of a `[]json.RawMessage` field. -/
def arrayLength (body : Json) (key : String) : Except Err Nat :=
  match body.member? key with
  | none | some .null => .ok 0
  | some (.arr items) => .ok items.length
  | some _ => .error decodingError

/-- The `deployment` object. -/
def deploymentField (body : Json) : Except Err (Option DeploymentState) :=
  match body.member? "deployment" with
  | none | some .null => .ok none
  | some (.obj members) => do
    let d := Json.obj members
    let version ← stringField d "version"
    let generation ← int64Field d "generation"
    let draining ← arrayLength d "draining"
    let swapping ← int64Field d "swapping"
    .ok (some ⟨version, generation, draining, swapping⟩)
  | some _ => .error decodingError

/-- `json.Unmarshal(raw, &state)`. -/
def unmarshalState (body : Json) : Except Err PodState := do
  let deployment ← deploymentField body
  let occupied ← int64Field body "occupied"
  let evicting ← int64Field body "evicting"
  let restoring ← int64Field body "restoring"
  let activating ← int64Field body "activating"
  let activationWaiting ← int64Field body "activation_waiting"
  let capacityWaiting ← int64Field body "capacity_waiting"
  let shedding ← stringPointer body "shedding"
  let rssBytes ← int64Field body "rss_bytes"
  let inUseBytes ← int64Field body "in_use_bytes"
  let cgroupWorkingSetBytes ← int64Pointer body "cgroup_working_set_bytes"
  let cgroupCurrentBytes ← int64Pointer body "cgroup_current_bytes"
  .ok { deployment, occupied, evicting, restoring, activating, activationWaiting, capacityWaiting,
        shedding, rssBytes, inUseBytes, cgroupWorkingSetBytes, cgroupCurrentBytes }

/-- The first required member that is missing; only `shedding` may be null. -/
def missingKey (body : Json) : Option String :=
  ["occupied", "restoring", "shedding"].find? fun key =>
    match body.member? key with
    | none => true
    | some value => key != "shedding" && value == .null

/-- The checks `Fetch` makes on a decoded body. -/
def decodeState (body : Json) : Except Err PodState :=
  match body with
  | .obj _ | .null =>
    if (body.member? "error").isSome then .error (.other "/state reports a runtime error")
    else
      match missingKey body with
      | some key => .error (.other ("/state missing " ++ key))
      | none =>
        match unmarshalState body with
        | .error e => .error e
        | .ok state =>
          if state.occupied < 0 ∨ state.restoring < 0 ∨ state.evicting < 0 then
            .error (.other "/state has negative counters")
          else
            match state.deployment with
            | some d =>
              if d.version = "" ∨ d.generation < 1 ∨ d.swapping < 0 then
                .error (.other "invalid deployment state")
              else .ok state
            | none => .ok state
  | _ => .error decodingError

/-- What `Fetch` makes of a response. -/
def readState (response : HttpResponse) : Except Err PodState :=
  if response.status ≠ 200 then
    .error (.other ("/state returned " ++ decimal response.status))
  else if 4 * 2 ^ 20 < response.size then .error (.other "/state exceeds 4 MiB")
  else
    match response.body with
    | none => .error decodingError
    | some body => decodeState body

/-- `StateClient.Fetch`. -/
def fetch (podIP : String) : P (Except Err PodState) := do
  match ← ask (.getState podIP) with
  | .error e => pure (.error e)
  | .ok response => pure (readState response)

/-! ## §2. The sweep. -/

/-- What `FleetSweep` returns: samples by pod name, the backlog sum, the first error. -/
structure Sweep where
  states : List (String × PodState) := []
  restoring : Int := 0
  err : Option Err := none

/-- `states[name] = state`. -/
def putState (states : List (String × PodState)) (name : String) (state : PodState) :
    List (String × PodState) :=
  states.filter (·.1 != name) ++ [(name, state)]

/-- One poll of the group completes. -/
def Sweep.record (s : Sweep) (name : String) : Except Err PodState → Sweep
  | .ok state =>
    { s with states := putState s.states name state
             restoring := wrap64 (s.restoring + state.restoring) }
  | .error e => { s with err := s.err.or (some e) }

/-- The poll of one pod. -/
def pollPod (pod : Pod) : P (Except Err PodState) :=
  if pod.podIP = "" ∨ pod.phase ≠ .running ∨ pod.deleting then
    pure (.error (.other ("pod " ++ pod.name ++ " is unavailable")))
  else do
    match ← fetch pod.podIP with
    | .error e => pure (.error (e.wrap ("pod " ++ pod.name ++ ": ")))
    | .ok state => pure (.ok state)

/-- The polls, in the order they complete.  A failed poll does not stop the others. -/
def pollAll : List Pod → Sweep → P Sweep
  | [], s => pure s
  | pod :: pods, s => do
    let result ← pollPod pod
    pollAll pods (s.record pod.name result)

/-- `StateClient.FleetSweep`. -/
def fleetSweep (pods : List Pod) : P Sweep := do
  let order ← ask (.completionOrder pods)
  pollAll order.val {}

/-! ## §3. The census. -/

/-- The pod name of an ordinal. -/
def ordinalName (name : String) (ordinal : Nat) : String := name ++ "-" ++ decimal ordinal

/-- `names[fmt.Sprintf("%s-%d", sts.Name, i)]`. -/
def hasOrdinal (name : String) (pods : List Pod) (ordinal : Nat) : Bool :=
  pods.any (·.name == ordinalName name ordinal)

/-- The checks `observeFleet` makes on the listed pods: the expected number, each owned and
Ready, every ordinal present. -/
def census (sts : StatefulSet) (pods : List Pod) : Option Err :=
  let expected := sts.sspec.replicas.getD 0
  if expected < 1 ∨ int32 pods.length ≠ expected then
    some (.other ("expected " ++ decimal expected ++ " pods, found " ++ decimal pods.length))
  else
    match pods.find? (fun pod =>
        !isControlledBy pod.ownerReferences sts.metadata.uid || !podReady pod) with
    | some pod => some (.other ("pod " ++ pod.name ++ " is not ready or not owned by the fleet"))
    | none =>
      match (List.range expected).find? (fun i => !hasOrdinal sts.metadata.name pods i) with
      | some i => some (.other ("missing ordinal " ++ decimal i))
      | none => none

/-- `observeFleet`. -/
def observeFleet (app : WorkerApp) (sts : StatefulSet) : P Sweep := do
  match ← ask (.listPods (selectorLabels app)) with
  | .error e => pure { err := some e }
  | .ok pods =>
    match census sts pods.val with
    | some e => pure { err := some e }
    | none => fleetSweep pods.val

end CelldOperator
