/-
  CelldOperator.Status.Poller

  **TWO CENSUSES OF ONE FLEET.**

  The poller exports `celld_fleet_complete` from its own census (`listComplete`), the
  rollout gate has another one (`census`).  On one snapshot of the StatefulSet, its
  pods and their answers:

    • `census_of_listComplete` — a list the poller calls complete fails the gate's
      census only for a missing ordinal,
    • `census_agree_iff`       — while `celld_fleet_complete` is 1, the gate's
      observation succeeds exactly when every ordinal is among the listed pods,
    • `scale_down_disagrees`   — three Ready pods 0, 1 and 3 of a fleet that is being
      scaled to three: complete for the poller, a missing ordinal for the gate.
-/
import CelldOperator.Cluster.Server
import CelldOperator.Controller.StatePoller
import CelldOperator.Pass.FixedCluster

namespace CelldOperator

open Effect Prog

/-! ## §1. The exported flag. -/

/-- The sample that enables the scaling queries. -/
def completeSample (app : WorkerApp) (b : Bool) : Sample :=
  ⟨"celld_fleet_complete", boolToGauge b, [app.namespace_, app.name]⟩

theorem boolToGauge_injective : ∀ b c : Bool, boolToGauge b = boolToGauge c → b = c := by decide

/-- The samples of a pod carry its name. -/
theorem labels_podSamples {app : WorkerApp} {states : List (String × PodState)} {pod : Pod}
    {s : Sample} (h : s ∈ podSamples app states pod) :
    s.labels = [app.namespace_, app.name, pod.name] := by
  unfold podSamples at h
  dsimp only at h
  rcases List.mem_append.mp h with h | h
  · simp only [List.mem_cons, List.not_mem_nil, or_false] at h
    rcases h with rfl | rfl | rfl <;> rfl
  · split at h
    · unfold stateSamples at h
      rcases List.mem_append.mp h with h | h
      · rcases List.mem_append.mp h with h | h
        · simp only [List.mem_cons, List.not_mem_nil, or_false] at h
          rcases h with rfl | rfl | rfl | rfl | rfl | rfl | rfl <;> rfl
        · split at h
          · rw [List.mem_singleton.mp h]
          · cases h
      · split at h
        · rw [List.mem_singleton.mp h]
        · cases h
    · cases h

section Snapshot

variable {env : Answers} {app : WorkerApp}

/-- What the poller reads. -/
theorem allowed_readFleet {fleet : Option (StatefulSet × List Pod)}
    (h : Allowed (Fixed env) (readFleet app) fleet) {sts : StatefulSet} {pods : List Pod}
    (hfleet : fleet = some (sts, pods)) :
    env (.get .statefulSet (fleetName app)) = .ok sts ∧
      ∃ list : PodList, env (.listPods (selectorLabels app)) = .ok list ∧ list.val = pods := by
  unfold readFleet at h
  obtain ⟨got, hgot, h⟩ := allowed_bind.mp h
  rw [allowed_ask rfl] at hgot
  rw [← hgot]
  cases got with
  | error e =>
    rw [← allowed_pure.mp h] at hfleet
    cases hfleet
  | ok found =>
    obtain ⟨list, hlist, h⟩ := allowed_bind.mp h
    rw [allowed_ask rfl] at hlist
    rw [← hlist]
    cases list with
    | error e =>
      rw [← allowed_pure.mp h] at hfleet
      cases hfleet
    | ok list =>
      rw [← allowed_pure.mp h] at hfleet
      cases hfleet
      exact ⟨rfl, list, rfl, rfl⟩

/-- **When the flag is 1**: both reads succeeded, the poller's census passed and every poll was
answered. -/
theorem of_completeSample {samples : List Sample}
    (h : Allowed (Fixed env) (sampleFleet app) samples)
    (hone : completeSample app true ∈ samples) :
    ∃ (sts : StatefulSet) (list : PodList) (order : List Pod),
      env (.get .statefulSet (fleetName app)) = .ok sts ∧
      env (.listPods (selectorLabels app)) = .ok list ∧
      listComplete sts list.val = true ∧ order.Perm list.val ∧
      (recordAll env {} order).err = none := by
  unfold sampleFleet at h
  obtain ⟨now, -, h⟩ := allowed_bind.mp h
  obtain ⟨fleet, hfleet, h⟩ := allowed_bind.mp h
  obtain ⟨sweep, hsweep, h⟩ := allowed_bind.mp h
  rw [← allowed_pure.mp h] at hone
  -- the flag is the first sample: the second has another name, the pods' have three labels
  have hflag : ((fleet.any fun f => listComplete f.1 f.2) && sweep.err.isNone &&
      sweep.states.length == ((fleet.map Prod.snd).getD []).length) = true := by
    rcases List.mem_append.mp hone with hone | hone
    · simp only [List.mem_cons, List.not_mem_nil, or_false] at hone
      rcases hone with hone | hone
      · exact (boolToGauge_injective _ _ (congrArg Sample.value hone)).symm
      · have hname : "celld_fleet_complete" = "celld_fleet_sample_timestamp_seconds" :=
          congrArg Sample.name hone
        exact absurd hname (by decide)
    · obtain ⟨pod, -, hpod⟩ := List.mem_flatMap.mp hone
      have hlabels := labels_podSamples hpod
      cases hlabels
  simp only [Bool.and_eq_true] at hflag
  obtain ⟨⟨hlist, herr⟩, -⟩ := hflag
  cases hcase : fleet with
  | none =>
    rw [hcase] at hlist
    cases hlist
  | some found =>
    obtain ⟨sts, pods⟩ := found
    rw [hcase] at hlist hsweep
    obtain ⟨hsts, list, hpods, rfl⟩ := allowed_readFleet hfleet hcase
    obtain ⟨order, hperm, rfl⟩ := allowed_fleetSweep.mp hsweep
    exact ⟨sts, list, order, hsts, hpods, hlist, hperm, by simpa using herr⟩

/-! ## §2. The two censuses. -/

/-- Every ordinal of the fleet is among the pods. -/
def OrdinalsPresent (sts : StatefulSet) (pods : List Pod) : Prop :=
  ∀ i < sts.sspec.replicas.getD 0, hasOrdinal sts.metadata.name pods i = true

/-- A complete list fails the gate's census only for a missing ordinal. -/
theorem census_of_listComplete {sts : StatefulSet} {pods : List Pod}
    (h : listComplete sts pods = true) : census sts pods = none ↔ OrdinalsPresent sts pods := by
  unfold listComplete at h
  simp only [Bool.and_eq_true, decide_eq_true_eq, List.all_eq_true] at h
  obtain ⟨⟨⟨hpositive, hcount⟩, -⟩, hpods⟩ := h
  have howned : pods.find? (fun pod =>
      !isControlledBy pod.ownerReferences sts.metadata.uid || !podReady pod) = none := by
    refine List.find?_eq_none.mpr fun pod hpod => ?_
    obtain ⟨hcontrolled, hready⟩ := hpods pod hpod
    rw [hcontrolled, hready]
    decide
  unfold census OrdinalsPresent
  dsimp only
  rw [if_neg (by omega), howned]
  dsimp only
  constructor
  · intro h
    split at h
    · cases h
    · next hnone =>
      intro i hi
      simpa using List.find?_eq_none.mp hnone i (List.mem_range.mpr hi)
  · intro h
    have hnone : (List.range (sts.sspec.replicas.getD 0)).find?
        (fun i => !hasOrdinal sts.metadata.name pods i) = none := by
      refine List.find?_eq_none.mpr fun i hi => ?_
      simp [h i (List.mem_range.mp hi)]
    rw [hnone]

/-- Whether a sweep fails does not depend on the order of completion. -/
theorem recordAll_err_perm {order order' : List Pod} (hperm : order.Perm order')
    (h : (recordAll env {} order).err = none) : (recordAll env {} order').err = none := by
  rw [recordAll_eq] at h ⊢
  have hnil : failures env order = [] := by simpa using h
  have hnil' : failures env order' = [] := by
    have hfailures : (failures env order').Perm (failures env order) := hperm.symm.filterMap _
    rw [hnil] at hfailures
    exact List.perm_nil.mp hfailures
  simp [hnil']

/-- **The poller against the gate**, on one snapshot. -/
theorem census_agree_iff {samples : List Sample}
    (h : Allowed (Fixed env) (sampleFleet app) samples)
    (hone : completeSample app true ∈ samples) :
    ∃ (sts : StatefulSet) (list : PodList),
      env (.get .statefulSet (fleetName app)) = .ok sts ∧
      env (.listPods (selectorLabels app)) = .ok list ∧
      ((∀ sweep, Allowed (Fixed env) (observeFleet app sts) sweep → sweep.err = none) ↔
        OrdinalsPresent sts list.val) := by
  obtain ⟨sts, list, order, hsts, hlist, hcomplete, hperm, herr⟩ := of_completeSample h hone
  refine ⟨sts, list, hsts, hlist, ?_⟩
  rw [← census_of_listComplete hcomplete]
  simp only [observeFleet_fixed, Observation, unswept, listed, hlist]
  cases census sts list.val with
  | none =>
    refine iff_of_true ?_ rfl
    rintro sweep ⟨order', hperm', rfl⟩
    exact recordAll_err_perm (hperm.trans hperm'.symm) herr
  | some e =>
    refine iff_of_false ?_ (Option.some_ne_none e)
    intro hall
    cases hall _ rfl

end Snapshot

/-! ## §3. Two snapshots. -/

/-- The converged fleet of three with the listed pods, each of which answers. -/
def snapshotOf (pods : PodList) : Answers :=
  fun o => (answerFleet (settledFleet servingApp) (.ok pods) (fun _ => sampleState "1" 0) () o).1

/-- With all three ordinals. -/
def fullList : PodList := ⟨threePods, threePods_length⟩

theorem fullList_complete :
    completeSample servingApp true ∈
      (runAnswers (snapshotOf fullList) (sampleFleet servingApp)).2.2 := by
  decide +kernel

theorem census_agree_full :
    OrdinalsPresent (settledFleet servingApp) fullList.val ∧
      ∀ sweep, Allowed (Fixed (snapshotOf fullList))
        (observeFleet servingApp (settledFleet servingApp)) sweep → sweep.err = none := by
  have hallowed : Allowed (Fixed (snapshotOf fullList)) (sampleFleet servingApp)
      (runAnswers (snapshotOf fullList) (sampleFleet servingApp)).2.2 :=
    ⟨_, runAnswers_runs _ _, runAnswers_fixed fun _ _ => rfl⟩
  obtain ⟨sts, list, hsts, hlist, hiff⟩ := census_agree_iff hallowed fullList_complete
  cases hsts
  cases hlist
  have hpresent : OrdinalsPresent (settledFleet servingApp) fullList.val := by
    show ∀ i < 3, hasOrdinal "shop-celld" threePods i = true
    decide +kernel
  exact ⟨hpresent, hiff.mpr hpresent⟩

/-- The pods while the fleet is scaled from four to three and pod 2 is being replaced. -/
def gapPods : List Pod :=
  ["shop-celld-0", "shop-celld-1", "shop-celld-3"].map fun name =>
    samplePod name "s1" "r1" (fleetPodSpec servingApp)

theorem gapPods_length : gapPods.length < 2 ^ 31 := by decide

/-- The poller exports 1, and the gate's observation of the same snapshot fails. -/
theorem scale_down_disagrees :
    completeSample servingApp true ∈
        (runAnswers (snapshotOf ⟨gapPods, gapPods_length⟩) (sampleFleet servingApp)).2.2 ∧
      (runAnswers (snapshotOf ⟨gapPods, gapPods_length⟩)
        (observeFleet servingApp (settledFleet servingApp))).2.2.err =
          some (.other "missing ordinal 2") := by
  decide +kernel

end CelldOperator
