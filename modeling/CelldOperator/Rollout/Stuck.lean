/-
  CelldOperator.Rollout.Stuck

  **CAN A STUCK ROLLING UPDATE BE ABANDONED?**

  A rolling update whose gates never open again is to be recovered by setting
  `updateStrategy: Recreate`.  The strategy is not part of the template, so the
  hash does not change with it, and the branch of `reconcileFleet` that reads the
  strategy is the one for a changed template.

    • `reconcileFleet_paused_iff` — a pass behind its confirmed pause is the rest
      `driveFleet` of it,
    • `rolloutStep_first` — the first write of a rolling step is the clamp or a
      release, never the stop,
    • `recreate_recovers_iff` — an unfinished rolling update is stopped exactly
      if it was already being recreated.
-/
import CelldOperator.Pass.Scaler
import CelldOperator.Rollout.FleetSystem
import CelldOperator.Rollout.Recreate

namespace CelldOperator

open Effect Prog

variable {r : Reconciler} {app : WorkerApp} {appVersion hash : String} {existing : StatefulSet}
  {t t₁ t₂ u : Trace} {res : Except Err FleetOutcome}

/-! ## §1. The pass behind its pause. -/

/-- The pause is never confirmed without a question. -/
theorem pauseScaling_asks {a : Except Err Bool} (h : Runs (pauseScaling r app) t a) : t ≠ [] := by
  rintro rfl
  unfold pauseScaling at h
  obtain ⟨read, u₁, u₂, heq, hread, -⟩ := runs_bind.mp h
  rw [runs_req.mp hread] at heq
  cases heq

/-- **Behind the confirmed pause** the pass is `driveFleet`. -/
theorem reconcileFleet_paused_iff (hhash : Runs (configHash r app) t₁ (.ok hash))
    (hneeds : needsPause app existing (desiredFleet r app hash appVersion) = true)
    (hpause : Runs (pauseScaling r app) t₂ (.ok true)) :
    Runs (reconcileFleet r app appVersion)
        (t₁ ++ ⟨.getLive .statefulSet (fleetName app), .ok existing⟩ :: (t₂ ++ u)) res ↔
      requireOwnership app existing = .ok () ∧
        Runs (driveFleet r app existing (desiredFleet r app hash appVersion) appVersion) u res := by
  rw [reconcileFleet_read_iff hhash]
  unfold reconcileExisting
  cases howned : requireOwnership app existing with
  | error e =>
    dsimp only
    constructor
    · intro h
      -- nothing is asked for a foreign object
      obtain ⟨hnil, -⟩ := runs_ret.mp h
      exact absurd (List.append_eq_nil_iff.mp hnil).1 (pauseScaling_asks hpause)
    · rintro ⟨hok, -⟩
      cases hok
  | ok _ =>
    dsimp only
    rw [if_pos hneeds, runs_check_ok hpause]
    simp

/-! ## §2. The first write. -/

/-- The first write of the StatefulSet among the events. -/
def FirstUpdate (u : Trace) (o : StatefulSet) : Prop :=
  ∃ pre answer post, u = pre ++ ⟨.update .statefulSet o, answer⟩ :: post ∧
    ∀ o' answer', ¬ Saw pre (.update .statefulSet o') answer'

/-- The first event, when it is such a write. -/
theorem FirstUpdate.of_head {o o' : StatefulSet} {answer : Except Err StatefulSet}
    (h : FirstUpdate (⟨.update .statefulSet o, answer⟩ :: u) o') : o' = o := by
  obtain ⟨pre, answer', post, heq, hnone⟩ := h
  cases pre with
  | nil =>
    cases heq
    rfl
  | cons e pre =>
    cases heq
    exact absurd (List.mem_cons_self ..) (hnone o answer)

theorem firstUpdate_head (o : StatefulSet) (answer : Except Err StatefulSet) (u : Trace) :
    FirstUpdate (⟨.update .statefulSet o, answer⟩ :: u) o :=
  ⟨[], answer, u, rfl, fun _ _ h => absurd h List.not_mem_nil⟩

/-- A write site starts with the write. -/
theorem writeFleet_runs {o : StatefulSet} {next : StatefulSet → P (Except Err FleetOutcome)}
    (h : Runs (writeFleet app o next) u res) :
    ∃ answer rest, u = ⟨.update .statefulSet o, answer⟩ :: rest := by
  unfold writeFleet check updateFleet at h
  obtain ⟨_, u₁, u₂, rfl, h₁, -⟩ := runs_bind.mp h
  obtain ⟨answer, v₁, v₂, rfl, hv, -⟩ := runs_bind.mp h₁
  rw [runs_req.mp hv]
  exact ⟨answer, v₂ ++ u₂, rfl⟩

/-- The operation writes the StatefulSet only to release one of its ordinals. -/
def ReleasesOnly (sts : StatefulSet) (o : Op) : Prop :=
  ∀ o', o = .update .statefulSet o' → ∃ partition settle, o' = releaseOrdinal sts partition settle

theorem ReadsOnly.releasesOnly {α : Type} {p : P α} (h : ReadsOnly p) (sts : StatefulSet) :
    Only (ReleasesOnly sts) p := by
  refine Only.mono (fun o ho o' heq => ?_) h
  subst heq
  exact absurd rfl fun hw => (ho.1 .statefulSet hw)

theorem releaseNext_releasesOnly (r : Reconciler) (app : WorkerApp) (sts : StatefulSet)
    (partition replicas : Nat) :
    Only (ReleasesOnly sts) (releaseNext r app sts partition replicas) := by
  unfold releaseNext
  dsimp only
  split
  · exact only_pure _ _
  · refine only_bind ((settleWait_reads _ _).releasesOnly sts) fun left => ?_
    cases left with
    | some left => exact only_pure _ _
    | none =>
      dsimp only
      split
      · exact only_pure _ _
      · refine only_bind ((checkReleased_reads _ _ _).releasesOnly sts) fun blocked => ?_
        rcases blocked with _ | ⟨waitingOn, _ | e⟩
        · refine only_bind ((observeFleet_reads _ _).releasesOnly sts) fun sweep => ?_
          split
          · exact only_pure _ _
          · refine only_bind (only_ask fun o' heq => by cases heq) fun now => ?_
            unfold writeFleet
            refine only_check ?_ fun stored => ?_
            · unfold updateFleet
              refine only_bind (only_ask fun o' heq => ?_) fun answer => ?_
              · cases heq
                exact ⟨_, _, rfl⟩
              · split
                · exact only_pure _ _
                · split <;> exact only_pure _ _
            · cases stored <;> exact only_pure _ _
        · exact only_pure _ _
        · exact only_pure _ _

/-- **The first write of a rolling step** is the clamp or a release. -/
theorem rolloutStep_first {sts o : StatefulSet} (h : Runs (rolloutStep r app sts) u res)
    (hfirst : FirstUpdate u o) :
    o = clampPartition sts ∨ ∃ partition settle, o = releaseOrdinal sts partition settle := by
  unfold rolloutStep at h
  split at h
  · obtain ⟨answer, rest, rfl⟩ := writeFleet_runs h
    exact .inl hfirst.of_head
  · obtain ⟨pre, answer, post, rfl, -⟩ := hfirst
    have honly := (Only.steps (releaseNext_releasesOnly r app sts _ _) h).1
    exact .inr (honly ⟨.update .statefulSet o, answer⟩ (by simp) o rfl)

theorem recreating_clampPartition (sts : StatefulSet) :
    recreating (clampPartition sts) = recreating sts := rfl

theorem recreating_releaseOrdinal (sts : StatefulSet) (partition : Nat) (settle : String) :
    recreating (releaseOrdinal sts partition settle) = recreating sts := by
  have hget : annotationOf (releaseOrdinal sts partition settle) recreateAnnotation =
      annotationOf sts recreateAnnotation :=
    StrMap.get_insert_of_ne _ _ (by decide)
  unfold recreating
  rw [hget]

/-! ## §3. Leaving a rolling update. -/

/-- **The pass enters the stop-all path**: its first write scales the StatefulSet to zero and sets
the recreate annotation, or both were done before. -/
def StopsAll (existing : StatefulSet) (u : Trace) : Prop :=
  FirstUpdate u (scaleToZero existing) ∨ stsReplicas existing = 0 ∧ recreating existing = true

/-- **A pass over an unfinished rolling update** with the strategy Recreate: before the events that
follow it has read the StatefulSet, at the desired template hash and a partition above zero, has
had the pause confirmed, and the runtime change is not refused. -/
structure StuckPass (r : Reconciler) (app : WorkerApp) (appVersion : String)
    (existing : StatefulSet) (before : Trace) : Prop where
  validated : validateApp r app = .ok ()
  strategy : app.spec.celld.updateStrategy = .recreate
  unfinished : 0 < stsPartition existing
  permitted : runtimeChangeRefusal app (stsContainerImage existing.sspec.template.spec) = ""
  paused : ∃ hash t₁ t₂,
    before = t₁ ++ ⟨.getLive .statefulSet (fleetName app), .ok existing⟩ :: t₂ ∧
    Runs (configHash r app) t₁ (.ok hash) ∧ Runs (pauseScaling r app) t₂ (.ok true) ∧
    templateChanged existing (desiredFleet r app hash appVersion) = false

theorem StuckPass.drives {before : Trace} (hs : StuckPass r app appVersion existing before)
    (hpass : Runs (reconcileFleet r app appVersion) (before ++ u) res) :
    ∃ desired, templateChanged existing desired = false ∧
      Runs (driveFleet r app existing desired appVersion) u res := by
  obtain ⟨hash, t₁, t₂, rfl, hhash, hpause, hsame⟩ := hs.paused
  have hneeds : needsPause app existing (desiredFleet r app hash appVersion) = true := by
    simp [needsPause, hs.unfinished]
  rw [List.append_assoc, List.cons_append, reconcileFleet_paused_iff hhash hneeds hpause] at hpass
  exact ⟨_, hsame, hpass.2⟩

theorem recreateStep_stopsAll {desired : StatefulSet} {hazard : String}
    (hmark : recreating existing = true) (h : Runs (recreateStep app existing desired hazard) u res) :
    StopsAll existing u := by
  unfold recreateStep at h
  dsimp only at h
  split at h
  · obtain ⟨answer, rest, rfl⟩ := writeFleet_runs h
    exact .inl (firstUpdate_head _ _ _)
  · next hzero => exact .inr ⟨not_not.mp hzero, hmark⟩

/-- A rolling step does not stop the fleet. -/
theorem rolloutStep_not_stopsAll (hidle : recreating existing = false)
    (h : Runs (rolloutStep r app existing) u res) : ¬ StopsAll existing u := by
  rintro (hfirst | ⟨-, hmark⟩)
  · have hmark := recreating_scaleToZero existing
    rcases rolloutStep_first h hfirst with heq | ⟨partition, settle, heq⟩
    · rw [heq, recreating_clampPartition, hidle] at hmark
      cases hmark
    · rw [heq, recreating_releaseOrdinal, hidle] at hmark
      cases hmark
  · rw [hidle] at hmark
    cases hmark

section

variable {before : Trace} (hs : StuckPass r app appVersion existing before)
  (hpass : Runs (reconcileFleet r app appVersion) (before ++ u) res)
include hs hpass

theorem StuckPass.stopsAll_of_marked (hmark : recreating existing = true) :
    StopsAll existing u := by
  obtain ⟨desired, -, hdrive⟩ := hs.drives hpass
  unfold driveFleet at hdrive
  dsimp only at hdrive
  rw [if_neg (not_not.mpr hs.permitted), if_pos hmark] at hdrive
  exact recreateStep_stopsAll hmark hdrive

theorem StuckPass.not_stopsAll_of_idle (hidle : recreating existing = false) :
    ¬ StopsAll existing u := by
  obtain ⟨desired, hsame, hdrive⟩ := hs.drives hpass
  unfold driveFleet at hdrive
  dsimp only at hdrive
  rw [if_neg (not_not.mpr hs.permitted), hidle, if_neg Bool.false_ne_true, hsame,
    if_neg Bool.false_ne_true, if_pos hs.unfinished] at hdrive
  exact rolloutStep_not_stopsAll hidle hdrive

/-- **Recreate recovers an unfinished rolling update** exactly if the StatefulSet already carries
the recreate annotation: the strategy alone is never looked at. -/
theorem recreate_recovers_iff : StopsAll existing u ↔ recreating existing = true := by
  constructor
  · intro hstops
    by_contra hidle
    exact hs.not_stopsAll_of_idle hpass (by simpa using hidle) hstops
  · exact hs.stopsAll_of_marked hpass

end

/-! ## §4. A fleet that cannot go on. -/

/-- The status in which the controller has named the revision it updates to. -/
def revisedNow (c : Cluster) (sts : StatefulSet) (revision : String) : StatefulSet :=
  { observedNow c sts with
    status := ({ (observedNow c sts).sstatus with updateRevision := revision } :
      StatefulSetStatus) }

theorem storable_revisedNow (c : Cluster) (sts : StatefulSet) (revision : String) :
    c.Storable (revisedNow c sts revision) :=
  ⟨(storable_observedNow c sts).fresh, le_refl sts.metadata.generation⟩

/-- The controller reports it. -/
def revise (n revision : String) (w : World) : World :=
  match w.cluster.live .statefulSet n with
  | none => w
  | some sts =>
    { w with cluster :=
        w.cluster.put (revisedNow w.cluster sts revision) (storable_revisedNow _ _ _) }

theorem kubeMove_revise (n revision : String) (w : World) :
    revise n revision w = w ∨ KubeMove n w (revise n revision w) := by
  unfold revise
  split
  · exact .inl rfl
  · next sts hlive => exact .inr (.report sts (revisedNow w.cluster sts revision) hlive ⟨rfl, rfl⟩ _)

/-- A fleet at v0.5.1 of which one pod is up, and not Ready. -/
def unreadyWorld : World :=
  createPod ("shop" ++ "-celld") 0
    (runPass (sampleApp "ghcr.io/denoland/celld:v0.5.1" .rolling) emptyWorld)

/-- The rolling update to v0.5.2 has started on it, and the controller has seen it. -/
def stuckWorld : World :=
  revise ("shop" ++ "-celld") "r2"
    (runPass (sampleApp "ghcr.io/denoland/celld:v0.5.2" .rolling) unreadyWorld)

theorem reachable_stuckWorld :
    (fleetSystem "shop" fun _ _ => True).Reachable (· = emptyWorld) stuckWorld := by
  have h₀ : (fleetSystem "shop" fun _ _ => True).Reachable (· = emptyWorld) emptyWorld :=
    ⟨emptyWorld, rfl, .refl⟩
  have h₁ : (fleetSystem "shop" fun _ _ => True).Reachable (· = emptyWorld) unreadyWorld :=
    reachable_createPod (reachable_runPass h₀ _ rfl (by decide) trivial) 0
  have h₂ := reachable_runPass h₁ (sampleApp "ghcr.io/denoland/celld:v0.5.2" .rolling) rfl
    (by decide) trivial
  rcases kubeMove_revise ("shop" ++ "-celld") "r2" (runPass (sampleApp
    "ghcr.io/denoland/celld:v0.5.2" .rolling) unreadyWorld) with heq | hmove
  · unfold stuckWorld
    rw [heq]
    exact h₂
  · exact h₂.step (.others hmove)

/-- The StatefulSet there. -/
def stuckFleet : StatefulSet :=
  (stuckWorld.cluster.live .statefulSet "shop-celld").getD zeroStatefulSet

/-- Now the strategy is edited to Recreate, and nothing else. -/
def recoveryApp : WorkerApp := sampleApp "ghcr.io/denoland/celld:v0.5.2" .recreate

/-- What the pass exchanges up to the confirmed pause. -/
def pausedTrace (sts : StatefulSet) : Trace :=
  [⟨.getLive .statefulSet "shop-celld", .ok sts⟩,
    ⟨.getLive .scaledObject "shop-celld", .error (.notFound "")⟩, ⟨.listHPAs, .ok []⟩]

theorem runs_configHash_recovery :
    Runs (configHash sampleReconciler recoveryApp) [] (.ok "") := .nil _

theorem runs_pauseScaling_recovery : Runs (pauseScaling sampleReconciler recoveryApp)
    [⟨.getLive .scaledObject "shop-celld", .error (.notFound "")⟩, ⟨.listHPAs, .ok []⟩]
    (.ok true) :=
  .cons _ (.cons _ (.nil _))

/-- The fleet after somebody has scaled a fleet that is being recreated back up. -/
def markedFleet : StatefulSet := scaleTo (scaleToZero stuckFleet) 3

/-- Three replicas of this template, in the middle of a rolling update. -/
def Recoverable (sts : StatefulSet) : Prop :=
  stsPartition sts = 3 ∧ stsReplicas sts = 3 ∧ requireOwnership recoveryApp sts = .ok () ∧
    runtimeChangeRefusal recoveryApp (stsContainerImage sts.sspec.template.spec) = "" ∧
    templateChanged sts (desiredFleet sampleReconciler recoveryApp "" "1") = false

instance (sts : StatefulSet) : Decidable (Recoverable sts) :=
  inferInstanceAs (Decidable (_ ∧ _))

-- one evaluation of the run serves both fleets
theorem recoverable_stuckFleet : Recoverable stuckFleet ∧ recreating stuckFleet = false ∧
    Recoverable markedFleet := by
  decide +kernel

theorem Recoverable.stuckPass {sts : StatefulSet} (h : Recoverable sts) :
    StuckPass sampleReconciler recoveryApp "1" sts (pausedTrace sts) where
  validated := by decide
  strategy := rfl
  unfinished := by rw [h.1]; decide
  permitted := h.2.2.2.1
  paused := ⟨"", [], _, rfl, runs_configHash_recovery, runs_pauseScaling_recovery, h.2.2.2.2⟩

/-- What the rest of a pass over it exchanges, when its write fails. -/
def markedRest : Trace × World × Except Err FleetOutcome :=
  runWith (answerWorld {}) (driveFleet sampleReconciler recoveryApp markedFleet
    (desiredFleet sampleReconciler recoveryApp "" "1") "1") emptyWorld

/-- A fleet that is being recreated is stopped. -/
theorem recreate_recovers_iff_marked :
    StuckPass sampleReconciler recoveryApp "1" markedFleet (pausedTrace markedFleet) ∧
      FirstUpdate markedRest.1 (scaleToZero markedFleet) := by
  have hm : Recoverable markedFleet := recoverable_stuckFleet.2.2
  have hmark : recreating markedFleet = true := recreating_scaleToZero stuckFleet
  have hneeds : needsPause recoveryApp markedFleet
      (desiredFleet sampleReconciler recoveryApp "" "1") = true := by
    simp [needsPause, hmark]
  have hrest : Runs (driveFleet sampleReconciler recoveryApp markedFleet
      (desiredFleet sampleReconciler recoveryApp "" "1") "1") markedRest.1 markedRest.2.2 :=
    runs_runWith markedRest rfl
  have hpass : Runs (reconcileFleet sampleReconciler recoveryApp "1")
      (pausedTrace markedFleet ++ markedRest.1) markedRest.2.2 :=
    (reconcileFleet_paused_iff runs_configHash_recovery hneeds
      runs_pauseScaling_recovery).mpr ⟨hm.2.2.1, hrest⟩
  refine ⟨hm.stuckPass, ?_⟩
  rcases (recreate_recovers_iff hm.stuckPass hpass).mpr hmark with hfirst | ⟨hzero, -⟩
  · exact hfirst
  · rw [hm.2.1] at hzero
    cases hzero

/-- The next pass over the stuck fleet. -/
def recoveryRun : Trace × World × Except Err FleetOutcome :=
  runWith (answerWorld {}) (reconcileFleet sampleReconciler recoveryApp "1") stuckWorld

/-- **The strategy is ignored**: in a reachable world with a rolling update at partition 3 and one
unready pod, the pass for the strategy Recreate waits for the gate that cannot open, and leaves the
StatefulSet at three replicas and unmarked. -/
theorem recreate_ignored :
    (fleetSystem "shop" fun _ _ => True).Reachable (· = emptyWorld) stuckWorld ∧
    stuckWorld.cluster.live .statefulSet "shop-celld" = some stuckFleet ∧
    (∃ u, recoveryRun.1 = pausedTrace stuckFleet ++ u ∧
      StuckPass sampleReconciler recoveryApp "1" stuckFleet (pausedTrace stuckFleet) ∧
      Exec ServeWorld (KubeMove ("shop" ++ "-celld")) stuckWorld
        (reconcileFleet sampleReconciler recoveryApp "1") (pausedTrace stuckFleet ++ u)
        recoveryRun.2.1 (.ret recoveryRun.2.2) ∧
      ¬ StopsAll stuckFleet u) ∧
    recoveryRun.2.2 = .ok { phase := .rollingOut, partition := 3
                            waitingOn := "fleet state: restoring=0, error=expected 3 pods, found 1"
                            requeue := 10 * second } ∧
    recoveryRun.2.1.cluster.live .statefulSet "shop-celld" = some stuckFleet ∧
    stsReplicas stuckFleet = 3 ∧ recreating stuckFleet = false := by
  obtain ⟨hstuck, hidle, -⟩ := recoverable_stuckFleet
  have hexec : Exec ServeWorld (KubeMove ("shop" ++ "-celld")) stuckWorld
      (reconcileFleet sampleReconciler recoveryApp "1") recoveryRun.1 recoveryRun.2.1
      (.ret recoveryRun.2.2) := exec_runWith (serve_answerWorld {}) _ stuckWorld
  have htrace : recoveryRun.1 = pausedTrace stuckFleet ++ recoveryRun.1.drop 3 := by
    rw [← show recoveryRun.1.take 3 = pausedTrace stuckFleet from rfl, List.take_append_drop]
  have hpass := hexec.steps
  rw [htrace] at hexec hpass
  exact ⟨reachable_stuckWorld, by rfl, ⟨recoveryRun.1.drop 3, htrace, hstuck.stuckPass, hexec,
    hstuck.stuckPass.not_stopsAll_of_idle hpass hidle⟩, by decide +kernel, by rfl, hstuck.2.1, hidle⟩

end CelldOperator
