/-
  CelldOperator.Rollout.Restoring

  **THE RESTORING GATE.**  A rolling step and the steady state wait until the pods
  report no activation backlog.  They look at the 64-bit sum of the backlogs, and
  the status shows the low 32 bits of that sum.

    • `restoring_nonneg` — an accepted sample has no negative backlog,
    • `wrap64_eq_zero_iff`, `int32_wrap64_eq_zero_iff` — when the two narrowed sums
      are zero,
    • `GateHolds`, `restoring_gate_iff` — zero means that no pod is restoring exactly
      if the sum is no multiple of `2 ^ 64`, nor of `2 ^ 32` where it is shown,
    • `restoring_gate_fooled` — three pods whose backlogs add up to `2 ^ 64`.
-/
import CelldOperator.Pass.Sweep
import CelldOperator.Rollout.Gate
import Mathlib.Algebra.Order.BigOperators.Group.List

namespace CelldOperator

open Effect Prog

/-! ## §1. Accepted samples. -/

/-- `Fetch` rejects a negative backlog. -/
theorem restoring_nonneg {response : HttpResponse} {state : PodState}
    (h : readState response = .ok state) : 0 ≤ state.restoring := by
  have hdecoded : ∀ {body : Json}, decodeState body = .ok state → 0 ≤ state.restoring := by
    intro body hbody
    unfold decodeState at hbody
    split at hbody
    all_goals try cases hbody
    all_goals
      split at hbody
      · cases hbody
      · split at hbody
        · cases hbody
        · split at hbody
          · cases hbody
          · split at hbody
            · cases hbody
            · next hcounters =>
              push Not at hcounters
              split at hbody
              · split at hbody
                · cases hbody
                · cases hbody
                  exact hcounters.2.1
              · cases hbody
                exact hcounters.2.1
  unfold readState at h
  split at h
  · cases h
  · split at h
    · cases h
    · split at h
      · cases h
      · exact hdecoded h

/-- **An assignment of accepted samples** to the pods, by the address each is polled at. -/
def Samples (state : String → PodState) (pods : List Pod) : Prop :=
  ∀ pod ∈ pods, Pollable pod ∧ ∃ response, readState response = .ok (state pod.podIP)

/-- No pod is restoring. -/
def Warm (state : String → PodState) (pods : List Pod) : Prop :=
  ∀ pod ∈ pods, (state pod.podIP).restoring = 0

/-- The sum of the backlogs. -/
def totalRestoring (state : String → PodState) (pods : List Pod) : Int :=
  (pods.map fun pod => (state pod.podIP).restoring).sum

theorem totalRestoring_nonneg {state : String → PodState} {pods : List Pod}
    (h : ∀ pod ∈ pods, 0 ≤ (state pod.podIP).restoring) : 0 ≤ totalRestoring state pods :=
  List.sum_nonneg (by simpa using h)

/-- Backlogs that are not negative add up to zero only if all are zero. -/
theorem warm_iff {state : String → PodState} {pods : List Pod} (hs : Samples state pods) :
    Warm state pods ↔ totalRestoring state pods = 0 := by
  have hnonneg : ∀ pod ∈ pods, 0 ≤ (state pod.podIP).restoring := by
    intro pod hpod
    obtain ⟨-, response, hread⟩ := hs pod hpod
    exact restoring_nonneg hread
  clear hs
  unfold Warm
  induction pods with
  | nil => simp [totalRestoring]
  | cons pod pods ih =>
    have hhead := hnonneg pod (.head _)
    have htail := fun p hp => hnonneg p (.tail _ hp)
    have hrest := totalRestoring_nonneg htail
    have hsum : totalRestoring state (pod :: pods) =
        (state pod.podIP).restoring + totalRestoring state pods := rfl
    rw [List.forall_mem_cons, hsum]
    constructor
    · rintro ⟨hzero, hzeros⟩
      have := (ih htail).mp hzeros
      omega
    · intro hzero
      exact ⟨by omega, (ih htail).mpr (by omega)⟩

/-! ## §2. The two narrowed sums. -/

theorem wrap64_eq_zero_iff (x : Int) : wrap64 x = 0 ↔ (2 ^ 64 : Int) ∣ x := by
  unfold wrap64
  omega

/-- The low half of a 64-bit value is the low half of what it was narrowed from. -/
theorem int32_wrap64_eq_zero_iff (x : Int) : int32 (wrap64 x) = 0 ↔ (2 ^ 32 : Int) ∣ x := by
  unfold int32 wrap64
  omega

/-! ## §3. The gate. -/

/-- The update lets an ordinal go: its partition is below the one found, and below the replica
count, to which a partition that is too high is lowered first. -/
def Releases (existing o : StatefulSet) : Prop :=
  stsPartition o < stsPartition existing ∧ stsPartition o < stsReplicas existing

/-- **The gate holds** for these pods with these samples: the value `FleetSweep` returns is zero,
an ordinal is released, the samples of a complete fleet are gone through, and zero is shown, only
if no pod is restoring. -/
structure GateHolds (pods : List Pod) (state : String → PodState) : Prop where
  sweep : ∀ t sweep, Runs (fleetSweep pods) t sweep → Report state pods t →
    sweep.restoring = 0 → Warm state pods
  rollout : ∀ r app existing t o k,
    Steps (rolloutStep r app existing) t (.call (.update .statefulSet o) k) →
    Releases existing o → Report state pods t → Lists app pods t → Warm state pods
  steady : ∀ app existing version t states k,
    Steps (steadyFleet app existing version) t (.call (.rangeStates states) k) →
    Report state pods t → Lists app pods t → Warm state pods
  status : ∀ app before t after fleetState,
    Runs (observedStatus app before) t (after, fleetState) → fleetState.status = .true_ →
    Report state pods t → Lists app pods t → after.fleet.restoring = 0 → Warm state pods

/-- Inside the history the fleet was observed complete, with this sum. -/
def FoundSum (app : WorkerApp) (sum : Int) (t : Trace) : Prop :=
  ∃ sts sweep, Ran (observeFleet app sts) sweep t ∧ sweep.err = none ∧ sweep.restoring = sum

theorem FoundSum.eq_backlog {app : WorkerApp} {sum : Int} {t : Trace} {state : String → PodState}
    {pods : List Pod} (hf : FoundSum app sum t) (ha : ∀ pod ∈ pods, Pollable pod)
    (hr : Report state pods t) (hl : Lists app pods t) : sum = backlog state pods := by
  obtain ⟨sts, sweep, ⟨pre, u, post, rfl, hu⟩, herr, rfl⟩ := hf
  have hsub : ∀ e ∈ u, e ∈ pre ++ u ++ post :=
    fun e he => List.mem_append_left _ (List.mem_append_right _ he)
  exact observeFleet_backlog ha (hr.sub (fun _ hp => hp) hsub) (hl.sub hsub) hu herr

/-- Pods that were observed complete are a fleet. -/
theorem FoundSum.whole {app : WorkerApp} {sum : Int} {t : Trace} {pods : List Pod}
    (hf : FoundSum app sum t) (ha : ∀ pod ∈ pods, Pollable pod) (hl : Lists app pods t) :
    pods.length < 2 ^ 31 ∧ ∃ sts, Whole sts pods := by
  obtain ⟨sts, sweep, ⟨pre, u, post, rfl, hu⟩, herr, -⟩ := hf
  have hsub : ∀ e ∈ u, e ∈ pre ++ u ++ post :=
    fun e he => List.mem_append_left _ (List.mem_append_right _ he)
  obtain ⟨l, hperm, ⟨e, -, rfl⟩ | ⟨hcensus, -⟩⟩ := observeFleet_cases (hl.sub hsub) hu
  · cases herr
  obtain ⟨hpos, -, howned, -⟩ := census_none hcensus
  refine ⟨hperm.length_eq ▸ l.property, sts, ?_⟩
  exact
    { pos := hpos
      names := (hperm.map _).symm.trans (census_names l.property hcensus)
      owned := fun pod hpod => (howned pod (hperm.mem_iff.mpr hpod)).1
      ready := fun pod hpod => (howned pod (hperm.mem_iff.mpr hpod)).2
      pollable := ha }

/-- A release comes behind an observation without backlog. -/
theorem rolloutStep_found {r : Reconciler} {app : WorkerApp} {existing o : StatefulSet} {t : Trace}
    {k : Resp (.update .statefulSet o) → P (Except Err FleetOutcome)}
    (hs : Steps (rolloutStep r app existing) t (.call (.update .statefulSet o) k))
    (hrel : Releases existing o) : FoundSum app 0 t := by
  obtain ⟨hw, -⟩ := valid_issued (rolloutStep_events r app existing) hs (.error (.other "")) o rfl
  rw [List.nil_append] at hw
  cases hw with
  | clamp hover =>
    -- the clamp only lowers the partition to the replica count
    have hclamped : stsPartition (clampPartition existing) = stsReplicas existing := rfl
    exact absurd hrel.2 (by omega)
  | release base partition now start gates clock =>
    obtain ⟨sweep, hran, herr, hwarm⟩ := gates.warm
    exact ⟨base, sweep, hran, herr, hwarm⟩

/-- An observation does not go through the samples itself. -/
theorem observeFleet_asks (app : WorkerApp) (sts : StatefulSet) :
    Only (fun o : Op => ∀ states, o ≠ .rangeStates states) (observeFleet app sts) :=
  observeFleet_only (by simp) (by simp) (by simp)

/-- The samples are gone through behind an observation without backlog. -/
theorem steadyFleet_found {app : WorkerApp} {existing : StatefulSet} {version : String} {t : Trace}
    {states : List (String × PodState)}
    {k : Resp (.rangeStates states) → P (Except Err FleetOutcome)}
    (hs : Steps (steadyFleet app existing version) t (.call (.rangeStates states) k)) :
    FoundSum app 0 t := by
  have hv : Valid (fun h (e : Event Api) => ∀ states, e.op = .rangeStates states →
      FoundSum app 0 h) [] (steadyFleet app existing version) (fun _ _ => True) := by
    unfold steadyFleet
    split
    · exact writeFleet_valid (fun _ _ h => by cases h) (fun _ _ => trivial) (fun _ _ => trivial)
        fun _ => valid_exit trivial
    · split
      · exact valid_exit trivial
      · rw [valid_bind]
        refine ((observeFleet_asks app existing).valid
          fun _ e he states heq => absurd heq (he states)).post ?_
        rintro h sweep ⟨u, rfl, hu, -⟩
        split
        · exact valid_exit trivial
        · next hopen =>
          push Not at hopen
          rw [valid_bind]
          refine valid_ask fun order =>
            ⟨fun _ _ => ⟨existing, sweep, ⟨[], _, [], by simp, hu⟩, hopen⟩, ?_⟩
          split <;> exact valid_exit trivial
  have hfound := valid_issued hv hs ⟨states, .refl _⟩ states rfl
  rwa [List.nil_append] at hfound

/-- What is shown of an observation. -/
theorem observedStatus_found {app : WorkerApp} {before after : WorkerAppStatus}
    {fleetState : Condition} {t : Trace}
    (hr : Runs (observedStatus app before) t (after, fleetState))
    (hobserved : fleetState.status = .true_) :
    ∃ sum, FoundSum app sum t ∧ after.fleet.restoring = int32 sum := by
  unfold observedStatus at hr
  obtain ⟨read, t₁, t₂, rfl, -, ht₂⟩ := runs_bind.mp hr
  -- the StatefulSet that was read, or none
  cases read
  all_goals
    obtain ⟨sweep, u₁, u₂, rfl, hu₁, hu₂⟩ := runs_bind.mp ht₂
    split at hu₂
    · next herr =>
      obtain ⟨order, w₁, w₂, rfl, -, hw₂⟩ := runs_bind.mp hu₂
      obtain ⟨-, hpair⟩ := runs_ret.mp hw₂
      cases hpair
      exact ⟨sweep.restoring,
        ⟨_, sweep, ⟨t₁, u₁, w₁ ++ w₂, by simp, hu₁⟩, herr, rfl⟩, rfl⟩
    · obtain ⟨-, hpair⟩ := runs_ret.mp hu₂
      cases hpair
      cases hobserved

/-- What is shown of a whole fleet. -/
theorem observedStatus_ok {app : WorkerApp} {before after : WorkerAppStatus}
    {fleetState : Condition} {sts : StatefulSet} {pods : List Pod} {state : String → PodState}
    {t : Trace} (hw : Whole sts pods) (hr : Report state pods t) (hl : Lists app pods t)
    (hread : ∀ res, Saw t (.get .statefulSet (fleetName app)) res → res = .ok sts)
    (ht : Runs (observedStatus app before) t (after, fleetState)) :
    fleetState.status = .true_ ∧ after.fleet.restoring = int32 (backlog state pods) := by
  unfold observedStatus at ht
  obtain ⟨read, t₁, t₂, rfl, ht₁, ht₂⟩ := runs_bind.mp ht
  have hasked := runs_req.mp ht₁
  subst hasked
  obtain rfl := hread read (List.mem_append_left _ (List.mem_singleton_self _))
  obtain ⟨sweep, u₁, u₂, rfl, hu₁, hu₂⟩ := runs_bind.mp ht₂
  have hsub : ∀ e ∈ u₁, e ∈ [⟨.get .statefulSet (fleetName app), .ok sts⟩] ++ (u₁ ++ u₂) :=
    fun e he => List.mem_append_right _ (List.mem_append_left _ he)
  obtain ⟨herr, hsum, -⟩ := observeFleet_ok hw (hr.sub (fun _ hp => hp) hsub) (hl.sub hsub) hu₁
  rw [herr, hsum] at hu₂
  obtain ⟨order, w₁, w₂, rfl, -, hw₂⟩ := runs_bind.mp hu₂
  obtain ⟨-, hpair⟩ := runs_ret.mp hw₂
  cases hpair
  exact ⟨rfl, rfl⟩

/-- **The condition**: the sum is no positive multiple of `2 ^ 64`; nor of `2 ^ 32` if the pods
are a fleet, so that it is shown. -/
structure SumFits (pods : List Pod) (state : String → PodState) : Prop where
  sweep : (2 ^ 64 : Int) ∣ totalRestoring state pods → totalRestoring state pods = 0
  status : pods.length < 2 ^ 31 → (∃ sts, Whole sts pods) →
    (2 ^ 32 : Int) ∣ totalRestoring state pods → totalRestoring state pods = 0

/-- A sum that fits is read correctly everywhere. -/
theorem gateHolds_of_fits {pods : List Pod} {state : String → PodState}
    (hs : Samples state pods) (hf : SumFits pods state) : GateHolds pods state := by
  have ha : ∀ pod ∈ pods, Pollable pod := fun pod hpod => (hs pod hpod).1
  -- the 64-bit sum is zero only if the sum is
  have hwarm : 0 = backlog state pods → Warm state pods :=
    fun h => (warm_iff hs).mpr (hf.sweep ((wrap64_eq_zero_iff _).mp h.symm))
  refine ⟨?_, ?_, ?_, ?_⟩
  · intro t sweep ht hr hzero
    have hsum := (fleetSweep_ok (.refl _) ha hr ht).2.1
    exact hwarm (hzero.symm.trans hsum)
  · intro r app existing t o k ht hrel hr hl
    exact hwarm ((rolloutStep_found ht hrel).eq_backlog ha hr hl)
  · intro app existing version t states k ht hr hl
    exact hwarm ((steadyFleet_found ht).eq_backlog ha hr hl)
  · intro app before t after fleetState ht hobserved hr hl hzero
    obtain ⟨sum, hfound, hshow⟩ := observedStatus_found ht hobserved
    rw [hfound.eq_backlog ha hr hl] at hshow
    obtain ⟨hlen, hwhole⟩ := hfound.whole ha hl
    exact (warm_iff hs).mpr (hf.status hlen hwhole
      ((int32_wrap64_eq_zero_iff _).mp (hshow.symm.trans hzero)))

/-! ## §4. Runs for every assignment. -/

section answerFleet

variable {α : Type} {sts : StatefulSet} {listed : Except Err PodList}
  {reply : String → HttpResponse} {p : P α} {state : String → PodState} {pods : List Pod}

theorem report_answerFleet (hreply : ∀ pod ∈ pods,
    readState (reply pod.podIP) = .ok (state pod.podIP)) :
    Report state pods (runWith (answerFleet sts listed reply) p ()).1 := by
  intro pod hpod res hsaw
  obtain ⟨_, hres⟩ := answer_of_mem_runWith hsaw
  exact ⟨reply pod.podIP, hres, hreply pod hpod⟩

theorem lists_answerFleet {app : WorkerApp} (hlen : pods.length < 2 ^ 31) :
    Lists app pods (runWith (answerFleet sts (.ok ⟨pods, hlen⟩) reply) p ()).1 := by
  intro res hsaw
  obtain ⟨_, hres⟩ := answer_of_mem_runWith hsaw
  exact ⟨⟨pods, hlen⟩, hres, .refl _⟩

end answerFleet

/-- A gate that holds means a sum that fits. -/
theorem GateHolds.fits {pods : List Pod} {state : String → PodState} (hs : Samples state pods)
    (hg : GateHolds pods state) : SumFits pods state := by
  have ha : ∀ pod ∈ pods, Pollable pod := fun pod hpod => (hs pod hpod).1
  -- a response for every address
  have hreplies : ∀ ip, ∃ response, ∀ pod ∈ pods, pod.podIP = ip →
      readState response = .ok (state ip) := by
    intro ip
    by_cases hpolled : ∃ pod ∈ pods, pod.podIP = ip
    · obtain ⟨pod, hpod, rfl⟩ := hpolled
      obtain ⟨-, response, hread⟩ := hs pod hpod
      exact ⟨response, fun _ _ _ => hread⟩
    · exact ⟨⟨200, 0, none⟩, fun pod hpod hip => absurd ⟨pod, hpod, hip⟩ hpolled⟩
  choose reply hreply using hreplies
  have hreply' : ∀ pod ∈ pods, readState (reply pod.podIP) = .ok (state pod.podIP) :=
    fun pod hpod => hreply pod.podIP pod hpod rfl
  refine ⟨fun hdvd => ?_, fun hlen ⟨sts, hw⟩ hdvd => ?_⟩
  · let run := runWith (answerFleet zeroStatefulSet (.error (.other "")) reply) (fleetSweep pods) ()
    have hr : Report state pods run.1 := report_answerFleet hreply'
    have hrun : Runs (fleetSweep pods) run.1 run.2.2 := runs_runWith run rfl
    have hzero : run.2.2.restoring = 0 :=
      (fleetSweep_ok (.refl _) ha hr hrun).2.1.trans ((wrap64_eq_zero_iff _).mpr hdvd)
    exact (warm_iff hs).mp (hg.sweep _ _ hrun hr hzero)
  · let run := runWith (answerFleet sts (.ok ⟨pods, hlen⟩) reply)
      (observedStatus servingApp servingApp.status) ()
    have hr : Report state pods run.1 := report_answerFleet hreply'
    have hl : Lists servingApp pods run.1 := lists_answerFleet hlen
    have hrun : Runs (observedStatus servingApp servingApp.status) run.1 run.2.2 :=
      runs_runWith run rfl
    have hread : ∀ res, Saw run.1 (.get .statefulSet (fleetName servingApp)) res →
        res = .ok sts := by
      intro res hsaw
      obtain ⟨_, hres⟩ := answer_of_mem_runWith hsaw
      exact hres
    obtain ⟨hobserved, hshown⟩ := observedStatus_ok hw hr hl hread hrun
    exact (warm_iff hs).mp (hg.status _ _ _ _ _ hrun hobserved hr hl
      (hshown.trans ((int32_wrap64_eq_zero_iff _).mpr hdvd)))

/-- **The restoring gate** cannot be fooled, for any list of pods and any accepted samples,
exactly if the sum of the backlogs fits. -/
theorem restoring_gate_iff (pods : List Pod) (state : String → PodState)
    (hs : Samples state pods) : GateHolds pods state ↔ SumFits pods state :=
  ⟨fun hg => hg.fits hs, gateHolds_of_fits hs⟩

/-! ## §5. Backlogs that add up to nothing. -/

/-- What a pod with this backlog reports. -/
def restoringState (backlogs : String → Int) (ip : String) : PodState :=
  { deployment := some ⟨"1", 1, 0, 0⟩, restoring := backlogs ip }

/-- Such pods accept every poll. -/
theorem samples_restoringState {backlogs : String → Int}
    (h : ∀ pod ∈ threePods, readState (sampleState "1" (backlogs pod.podIP)) =
      .ok (restoringState backlogs pod.podIP)) :
    Samples (restoringState backlogs) threePods := by
  have hpollable : ∀ pod ∈ threePods, Pollable pod := by decide
  exact fun pod hpod => ⟨hpollable pod hpod, _, h pod hpod⟩

/-- Three backlogs that add up to `2 ^ 64`. -/
def hugeBacklogs (ip : String) : Int := if ip = "shop-celld-0" then 2 else 2 ^ 63 - 1

/-- A run of a part of a pass over these pods. -/
def restoringRun {α : Type} (backlogs : String → Int) (p : P α) : Trace × Unit × α :=
  runWith (answerFleet (settledFleet servingApp) (.ok ⟨threePods, threePods_length⟩)
    fun ip => sampleState "1" (backlogs ip)) p ()

theorem restoringRun_runs {α : Type} {backlogs : String → Int}
    (h : ∀ pod ∈ threePods, readState (sampleState "1" (backlogs pod.podIP)) =
      .ok (restoringState backlogs pod.podIP)) (p : P α) :
    Runs p (restoringRun backlogs p).1 (restoringRun backlogs p).2.2 ∧
      Report (restoringState backlogs) threePods (restoringRun backlogs p).1 ∧
      Lists servingApp threePods (restoringRun backlogs p).1 :=
  ⟨runs_runWith (restoringRun backlogs p) rfl, report_answerFleet h, lists_answerFleet _⟩

/-- Backlogs of five each are seen. -/
theorem restoring_gate_iff_small :
    SumFits threePods (restoringState fun _ => 5) ∧
      GateHolds threePods (restoringState fun _ => 5) := by
  have hfits : SumFits threePods (restoringState fun _ => 5) :=
    ⟨fun h => absurd h (by decide), fun _ _ h => absurd h (by decide)⟩
  exact ⟨hfits, (restoring_gate_iff threePods _ (samples_restoringState (by decide))).mpr hfits⟩

/-- **The gate is fooled**: three pods with backlogs of `2`, `2 ^ 63 - 1` and `2 ^ 63 - 1`, and the
fleet is reported Ready with nothing restoring. -/
theorem restoring_gate_fooled :
    Samples (restoringState hugeBacklogs) threePods ∧
    (∀ pod ∈ threePods, 0 < (restoringState hugeBacklogs pod.podIP).restoring) ∧
    (∃ t, Runs (steadyFleet servingApp (settledFleet servingApp) "1") t (.ok readyOutcome) ∧
      Report (restoringState hugeBacklogs) threePods t ∧ Lists servingApp threePods t) ∧
    (∃ t after fleetState,
      Runs (observedStatus servingApp servingApp.status) t (after, fleetState) ∧
      Report (restoringState hugeBacklogs) threePods t ∧ Lists servingApp threePods t ∧
      fleetState.status = .true_ ∧ after.fleet.restoring = 0) ∧
    ¬ GateHolds threePods (restoringState hugeBacklogs) := by
  have hreply : ∀ pod ∈ threePods, readState (sampleState "1" (hugeBacklogs pod.podIP)) =
      .ok (restoringState hugeBacklogs pod.podIP) := by decide
  have hsamples := samples_restoringState hreply
  refine ⟨hsamples, by decide, ?_, ?_, ?_⟩
  · have hready : (restoringRun hugeBacklogs
        (steadyFleet servingApp (settledFleet servingApp) "1")).2.2 = .ok readyOutcome := by
      decide +kernel
    have hrun := restoringRun_runs hreply (steadyFleet servingApp (settledFleet servingApp) "1")
    rw [hready] at hrun
    exact ⟨_, hrun⟩
  · obtain ⟨hrun, hr, hl⟩ := restoringRun_runs hreply
      (observedStatus servingApp servingApp.status)
    exact ⟨_, _, _, hrun, hr, hl, by decide +kernel, by decide +kernel⟩
  · intro hg
    have hzero := (hg.fits hsamples).sweep (by decide)
    exact absurd hzero (by decide)

end CelldOperator
