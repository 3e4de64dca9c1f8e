/-
  CelldOperator.Pass.Scaler

  **WHAT A PASS TELLS OTHERS ABOUT THE FLEET.**

  Two writes leave the operator's own objects: the `paused` annotation of the
  ScaledObject, which KEDA obeys, and the `Available` condition of the status,
  which deployment tooling waits for.

    • `reconcileFleet_pauses` — the fleet step only ever asks for the pause,
    • `finishPass_pauses`     — behind it the scaler is released exactly in the
      phase Ready,
    • `finishPass_available`  — and the status says Available exactly then.
-/
import CelldOperator.Pass.Frame

namespace CelldOperator

open Effect Prog

/-! ## §1. The paused annotation. -/

/-- The value of the paused annotation a write of the ScaledObject carries. -/
def Op.pausedValue : Op → Option String
  | .create .scaledObject o => some (o.metadata.annotations.get kedaPausedAnnotation)
  | .update .scaledObject o => some (o.metadata.annotations.get kedaPausedAnnotation)
  | _ => none

/-- The operation writes no other value of the annotation. -/
def Pauses (value : String) (o : Op) : Prop := ∀ x, o.pausedValue = some x → x = value

theorem pausedValue_of_writes {o : Op} (h : o.writes ≠ some .scaledObject) :
    o.pausedValue = none := by
  unfold Op.pausedValue
  split
  · exact absurd rfl h
  · exact absurd rfl h
  · rfl

variable {α β : Type}

/-- A function that leaves the ScaledObject alone. -/
theorem Confined.pauses {K : Kind → Prop} {p : P α} (h : Confined K p) (hK : ¬ K .scaledObject)
    (value : String) : Only (Pauses value) p := by
  refine Only.mono (fun o ho x hx => ?_) h
  rw [pausedValue_of_writes fun hw => hK (ho.1 _ hw)] at hx
  cases hx

/-- Our keys win when the annotations are merged. -/
theorem get_mergeStringMaps {live desired : StrMap} {key : String} (h : key ∈ desired) :
    (mergeStringMaps live desired).get key = desired.get key := by
  obtain ⟨v, hv⟩ := Finmap.mem_iff.mp h
  unfold StrMap.get
  rw [lookup_mergeStringMaps, hv]
  rfl

theorem ensureUnstructured_pauses (app : WorkerApp) {desired : Obj .scaledObject}
    (hkey : kedaPausedAnnotation ∈ desired.metadata.annotations) :
    Only (Pauses (desired.metadata.annotations.get kedaPausedAnnotation))
      (ensureUnstructured app desired) := by
  unfold ensureUnstructured
  refine only_bind (only_ask fun x hx => ?_) fun res => ?_
  · cases hx
  · split
    · split
      · refine only_check (only_ask fun x hx => ?_) fun _ => only_pure _ _
        exact (Option.some.inj hx).symm
      · exact only_pure _ _
    · split
      · exact only_pure _ _
      · split
        · exact only_pure _ _
        · refine only_check (only_ask fun x hx => ?_) fun _ => only_pure _ _
          rw [← Option.some.inj hx]
          exact get_mergeStringMaps hkey

theorem kedaPaused_mem (lib : Lib) (app : WorkerApp) (url : String) (paused : Bool) :
    kedaPausedAnnotation ∈ (buildScaledObject lib app url paused).metadata.annotations := by
  show kedaPausedAnnotation ∈ Finmap.insert kedaPausedAnnotation _ ∅
  exact Finmap.mem_insert.mpr (.inl rfl)

/-- The value `ensureScaledObject` writes in a phase. -/
def pausedIn (phase : Phase) : String := if phase = .ready then "false" else "true"

theorem ensureScaledObject_pauses (r : Reconciler) (app : WorkerApp) (phase : Phase) :
    Only (Pauses (pausedIn phase)) (ensureScaledObject r app phase) := by
  unfold ensureScaledObject
  split
  · unfold removeScaledObject
    refine only_bind (only_ask fun x hx => by cases hx) fun res => ?_
    split
    · split <;> exact only_pure _ _
    · split
      · exact only_pure _ _
      · refine only_bind (only_ask fun x hx => by cases hx) fun res => ?_
        split
        · exact only_pure _ _
        · split <;> exact only_pure _ _
  · dsimp only
    have hp := ensureUnstructured_pauses app
      (kedaPaused_mem r.lib app r.prometheusURL (decide (phase ≠ .ready)))
    rw [buildScaledObject_paused] at hp
    have hvalue : (if decide (phase ≠ .ready) = true then "true" else "false") = pausedIn phase := by
      unfold pausedIn
      by_cases h : phase = .ready <;> simp [h]
    rw [hvalue] at hp
    refine only_bind hp fun res => ?_
    split <;> exact only_pure _ _

theorem requestPause_pauses (r : Reconciler) (app : WorkerApp) :
    Only (Pauses "true") (requestPause r app) := by
  have hp := ensureUnstructured_pauses app (kedaPaused_mem r.lib app r.prometheusURL true)
  rw [buildScaledObject_paused] at hp
  exact only_check hp fun _ => only_pure _ _

theorem pauseScaling_pauses (r : Reconciler) (app : WorkerApp) :
    Only (Pauses "true") (pauseScaling r app) := by
  have hhpa : Only (Pauses "true") (noFleetHPA app) := (noFleetHPA_reads app).pauses (fun hf => hf) _
  unfold pauseScaling
  refine only_bind (only_ask fun x hx => by cases hx) fun read => ?_
  split
  · split
    · refine only_bind (ensureScaledObject_pauses r app .unset) fun res => ?_
      dsimp only
      split <;> exact only_pure _ _
    · split
      · exact hhpa
      · exact only_pure _ _
  · split
    · split
      · exact hhpa
      · split
        · exact requestPause_pauses r app
        · exact only_pure _ _
    · split
      · exact requestPause_pauses r app
      · split
        · exact only_pure _ _
        · split
          · exact hhpa
          · exact only_pure _ _

/-- **The fleet step only ever asks for the pause.** -/
theorem reconcileFleet_pauses (r : Reconciler) (app : WorkerApp) (appVersion : String) :
    Only (Pauses "true") (reconcileFleet r app appVersion) := by
  have hdrive : ∀ existing desired,
      Only (Pauses "true") (driveFleet r app existing desired appVersion) :=
    fun existing desired => (driveFleet_confined r app existing desired appVersion).pauses
      (by simp) _
  unfold reconcileFleet
  refine only_check ((configHash_reads r app).pauses (fun hf => hf) _) fun hash => ?_
  refine only_bind (only_ask fun x hx => by cases hx) fun read => ?_
  split
  · split
    · exact only_check (only_ask fun x hx => by cases hx) fun _ => only_pure _ _
    · exact only_pure _ _
  · unfold reconcileExisting
    split
    · exact only_pure _ _
    · split
      · refine only_check (pauseScaling_pauses r app) fun paused => ?_
        split
        · exact hdrive _ _
        · exact only_pure _ _
      · exact hdrive _ _

/-! ## §2. The Available condition. -/

/-- `meta.FindStatusCondition`. -/
def findStatusCondition (conditions : List Condition) (type : String) : Option Condition :=
  conditions.find? (·.type == type)

theorem findStatusCondition_set_self (l : List Condition) (c : Condition) :
    findStatusCondition (setStatusCondition l c) c.type = some c := by
  unfold findStatusCondition
  induction l with
  | nil => simp [setStatusCondition]
  | cons old rest ih =>
    unfold setStatusCondition
    split
    · simp
    · next hne =>
      rw [List.find?_cons_of_neg (by simpa using hne)]
      exact ih

theorem findStatusCondition_set_of_ne (l : List Condition) {c : Condition} {type : String}
    (hc : c.type ≠ type) :
    findStatusCondition (setStatusCondition l c) type = findStatusCondition l type := by
  unfold findStatusCondition
  induction l with
  | nil => simp [setStatusCondition, hc]
  | cons old rest ih =>
    unfold setStatusCondition
    split
    · next heq =>
      rw [List.find?_cons_of_neg (by simpa using hc),
        List.find?_cons_of_neg (by simpa [heq] using hc)]
    · by_cases hold : old.type = type
      · rw [List.find?_cons_of_pos (by simpa using hold),
          List.find?_cons_of_pos (by simpa using hold)]
      · rw [List.find?_cons_of_neg (by simpa using hold),
          List.find?_cons_of_neg (by simpa using hold)]
        exact ih

/-- `meta.FindStatusCondition` of `Available`. -/
def findAvailable (conditions : List Condition) : Option Condition :=
  conditions.find? (·.type == "Available")

/-- The condition an outcome is reported with. -/
def availableCondition (app : WorkerApp) (outcome : FleetOutcome) : Condition where
  type := "Available"
  status := boolToCondition (outcome.phase == .ready)
  reason := outcome.phase.text
  observedGeneration := app.generation

theorem findAvailable_set_self (l : List Condition) {c : Condition} (hc : c.type = "Available") :
    findAvailable (setStatusCondition l c) = some c := by
  have hfind := findStatusCondition_set_self l c
  rw [hc] at hfind
  exact hfind

theorem findAvailable_set_of_ne (l : List Condition) {c : Condition} (hc : c.type ≠ "Available") :
    findAvailable (setStatusCondition l c) = findAvailable l :=
  findStatusCondition_set_of_ne l hc

/-- The summary decides: whatever was stored or reported before it. -/
theorem findAvailable_merge (app : WorkerApp) (outcome : FleetOutcome)
    (stored reported : List Condition) :
    findAvailable (mergeConditions app.generation stored (reported ++ summaryConditions outcome)) =
      some (availableCondition app outcome) := by
  unfold mergeConditions summaryConditions
  dsimp only
  rw [List.map_append, List.foldl_append]
  simp only [List.map_cons, List.map_nil, List.foldl_cons, List.foldl_nil]
  have hdegraded : "Degraded" ≠ "Available" := by decide
  have hprogressing : "Progressing" ≠ "Available" := by decide
  rw [findAvailable_set_of_ne _ hdegraded, findAvailable_set_of_ne _ hprogressing,
    findAvailable_set_self _ rfl]
  rfl

/-- Every status write reports this outcome's availability. -/
def Reports (app : WorkerApp) (outcome : FleetOutcome) (o : Op) : Prop :=
  ∀ a, o = .updateStatus a → findAvailable a.status.conditions =
    some (availableCondition app outcome)

theorem Confined.quiet {K : Kind → Prop} {p : P α} (h : Confined K p) {app : WorkerApp}
    {outcome : FleetOutcome} : Only (Reports app outcome) p := by
  refine Only.mono (fun o ho a ha => ?_) h
  rw [ha] at ho
  cases ho.2

theorem updateStatus_reports (app : WorkerApp) (outcome : FleetOutcome) (appVersion : String)
    (conditions : List Condition) :
    Only (Reports app outcome) (updateStatus app outcome appVersion conditions) := by
  unfold updateStatus
  refine only_bind (observedStatus_reads _ _).quiet fun res => ?_
  obtain ⟨status, fleetState⟩ := res
  dsimp only
  split
  · exact only_pure _ _
  · refine only_ask fun a ha => ?_
    cases ha
    exact findAvailable_merge app outcome _ _

/-! ## §3. Behind the fleet step. -/

section

variable (r : Reconciler) (app : WorkerApp) (resolved : ResolvedVersion)
  (conditions : List Condition) (outcome : FleetOutcome)

/-- The functions of `finishPass`, one after the other. -/
theorem finishPass_only {Q : Op → Prop} (hingress : Only Q (ensureIngress r app))
    (hpolicy : Only Q (ensureAuthorizationPolicy r app))
    (hscaler : Only Q (ensureScaledObject r app outcome.phase))
    (hstatus : ∀ conditions, Only Q (updateStatus app outcome resolved.version conditions)) :
    Only Q (finishPass r app resolved conditions outcome) := by
  unfold finishPass
  refine only_bind hingress fun ingress => ?_
  refine only_bind hpolicy fun policy => ?_
  refine only_bind hscaler fun scaler => ?_
  refine only_bind (hstatus _) fun res => ?_
  split
  · exact only_pure _ _
  · split <;> exact only_pure _ _

/-- The status update writes no child. -/
theorem updateStatus_writes (appVersion : String) :
    Only (fun o : Op => o.writes = none) (updateStatus app outcome appVersion conditions) :=
  (updateStatus_topics app outcome appVersion conditions).writesNone (by decide)

/-- Behind the fleet step the StatefulSet is left alone. -/
theorem finishPass_sparesFleet :
    Only (fun o : Op => o.writes ≠ some .statefulSet)
      (finishPass r app resolved conditions outcome) := by
  have hc : ∀ {α : Type} {K : Kind → Prop} {p : P α}, Confined K p → ¬ K .statefulSet →
      Only (fun o : Op => o.writes ≠ some .statefulSet) p :=
    fun hc hK => Only.mono (fun o ho hw => hK (ho.1 _ hw)) hc
  refine finishPass_only r app resolved conditions outcome
    (hc (ensureIngress_confined r app) fun hf => hf)
    (hc (ensureAuthorizationPolicy_confined r app) (by simp))
    (hc (ensureScaledObject_confined r app outcome.phase) (by simp)) fun conditions => ?_
  refine Only.mono (fun o ho => ?_) (updateStatus_writes app conditions outcome _)
  rw [ho]
  simp

theorem updateStatus_pauses (appVersion value : String) :
    Only (Pauses value) (updateStatus app outcome appVersion conditions) := by
  refine Only.mono (fun o ho x hx => ?_) (updateStatus_writes app conditions outcome appVersion)
  rw [pausedValue_of_writes (by rw [ho]; nofun)] at hx
  cases hx

/-- **The scaler runs exactly in the phase Ready.** -/
theorem finishPass_pauses :
    Only (Pauses (pausedIn outcome.phase)) (finishPass r app resolved conditions outcome) :=
  finishPass_only r app resolved conditions outcome
    ((ensureIngress_confined r app).pauses (fun hf => hf) _)
    ((ensureAuthorizationPolicy_confined r app).pauses (by simp) _)
    (ensureScaledObject_pauses r app outcome.phase)
    (fun conditions => updateStatus_pauses app conditions outcome _ _)

/-- **The status says Available exactly in the phase Ready.** -/
theorem finishPass_available :
    Only (Reports app outcome) (finishPass r app resolved conditions outcome) :=
  finishPass_only r app resolved conditions outcome
    (ensureIngress_confined r app).quiet
    (ensureAuthorizationPolicy_confined r app).quiet
    (ensureScaledObject_confined r app outcome.phase).quiet
    (fun conditions => updateStatus_reports app outcome _ conditions)

end

end CelldOperator
