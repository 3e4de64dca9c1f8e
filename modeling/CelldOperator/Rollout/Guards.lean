/-
  CelldOperator.Rollout.Guards

  **EVERY WRITE OF THE STATEFULSET IS GUARDED.**

  The guards are evaluated once, at the top of a pass; the six writes sit in
  three functions behind different conditions.

    • `update_guarded` — each is sent behind the ownership test, the pause
      handshake and the runtime check,
    • `FleetWrite.joins` — one that changes the template of a fleet with pods
      was checked against the old template and every pod,
    • `exec_untouched` — a pass that ends in an error, in Degraded or waiting for
      the pause has not touched the StatefulSet.
-/
import CelldOperator.Pass.Known

namespace CelldOperator

open Effect Prog

/-! ## §1. The checks of a template change. -/

/-- The template of `o` can join a fleet that runs `existing` and the listed pods. -/
def Joins (existing o : StatefulSet) (pods : List Pod) : Prop :=
  fleetBreakingReason existing.sspec.template.spec o.sspec.template.spec = "" ∧
    ∀ pod ∈ pods, isControlledBy pod.ownerReferences existing.metadata.uid = true →
      fleetBreakingReason pod.spec o.sspec.template.spec = ""

/-- **A template change over listed pods was checked.** -/
theorem FleetWrite.joins {r : Reconciler} {app : WorkerApp} {h : Trace} {c : Cluster} {n : String}
    {existing desired o : StatefulSet} {pods : PodList} (hk : Knows h c)
    (hmem : existing ∈ c.past .statefulSet n) (hw : FleetWrite r app existing desired h o)
    (hchange : o.sspec.template ≠ existing.sspec.template) (hlast : LastPods app h pods)
    (hsome : ∃ pod ∈ pods.val, isControlledBy pod.ownerReferences existing.metadata.uid = true) :
    Joins existing o pods.val := by
  cases hw with
  | rollingStart now idle changed rolling template checked =>
    obtain ⟨pods', hlast', hpods⟩ := checked
    cases hlast.unique hlast'
    exact ⟨template, fun pod hpod howned => podsBreakingReason_empty hpods hpod howned⟩
  | rollout idle same write =>
    cases write with
    | clamp high => exact absurd rfl hchange
    | release base partition now start gates clock =>
      obtain ⟨rfl, -, -⟩ := start.exact hk hmem gates.observed
      exact absurd rfl hchange
  | scaleDown cause running => exact absurd rfl hchange
  | scale idle same still drifted => exact absurd rfl hchange
  | recreateStart cause stopped observed drained empty =>
    -- the fleet is started over an empty list
    obtain ⟨pods', hlast', hnone⟩ := empty
    cases hlast.unique hlast'
    obtain ⟨pod, hpod, -⟩ := hsome
    rw [hnone] at hpod
    cases hpod

/-! ## §2. Guards at every write site. -/

/-- What the pass has done before it sends an update of the StatefulSet it read. -/
structure Guarded (r : Reconciler) (app : WorkerApp) (h : Trace) (existing : StatefulSet) :
    Prop where
  read : Saw h (.getLive .statefulSet (fleetName app)) (.ok existing)
  owned : requireOwnership app existing = .ok ()
  paused : Ran (pauseScaling r app) (.ok true) h
  permitted : runtimeChangeRefusal app (stsContainerImage existing.sspec.template.spec) = ""

/-- **Every update is guarded**, whatever the calls before it returned. -/
theorem update_guarded {r : Reconciler} {app : WorkerApp} {v : String} {h : Trace}
    {o : StatefulSet} {k : Except Err StatefulSet → P (Except Err FleetOutcome)}
    (hs : Steps (reconcileFleet r app v) h (.call (.update .statefulSet o) k)) :
    ∃ hash existing, Guarded r app h existing ∧
      FleetWrite r app existing (desiredFleet r app hash v) h o := by
  have he := valid_issued (reconcileFleet_valid r app v) hs (.ok o)
  rw [List.nil_append] at he
  obtain ⟨hash, existing, hg, hw, -⟩ := he
  exact ⟨hash, existing, ⟨hg.read, hg.owned, hg.paused, hg.permitted⟩, hw⟩

/-! ## §3. The exits that leave the StatefulSet alone. -/

/-- The pass ended in an error, in Degraded or waiting for the scaler. -/
def Declined : Except Err FleetOutcome → Prop
  | .error _ => True
  | .ok out => out.phase = .degraded ∨ out = pauseWaitOutcome

instance (res : Except Err FleetOutcome) : Decidable (Declined res) := by
  unfold Declined
  split <;> infer_instance

/-- Such a pass has had no write accepted. -/
theorem FleetExit.untouched {r : Reconciler} {app : WorkerApp} {v : String} {h : Trace}
    {c : Cluster} {res : Except Err FleetOutcome} (hk : Knows h c)
    (hx : FleetExit r app v h res) (hd : Declined res) : Untouched h := by
  cases hx with
  | failed e spared calm => exact spared.untouched hk
  | degraded waitingOn requeue spares => exact spares.untouched
  | pauseWait spares => exact spares.untouched
  | conflicted o e saw conflict spared => exact spared.untouched hk
  | ready hash existing sweep steady spares => exact spares.untouched
  | moving out phase other calm =>
    rcases hd with hdegraded | heq
    · rw [hdegraded] at phase
      exact phase.elim
    · exact absurd heq other

/-! ## §4. Every write is guarded. -/

/-- **Every write of the StatefulSet is guarded.**  An update is sent only behind the guards; one
that changes the template of a fleet with listed pods was checked against the template and every
such pod; and a pass that ends in an error, in Degraded or waiting for the pause leaves the
StatefulSet as it was. -/
theorem fleet_writes_guarded (r : Reconciler) (app : WorkerApp) (v : String) :
    (∀ h o k, Steps (reconcileFleet r app v) h (.call (.update .statefulSet o) k) →
      ∃ existing, Guarded r app h existing) ∧
    (∀ c₀ h c o k, Exec Serve Cluster.Later c₀ (reconcileFleet r app v) h c
        (.call (.update .statefulSet o) k) →
      ∃ existing, Guarded r app h existing ∧
        (o.sspec.template ≠ existing.sspec.template → ∀ pods, LastPods app h pods →
          (∃ pod ∈ pods.val, isControlledBy pod.ownerReferences existing.metadata.uid = true) →
          Joins existing o pods.val)) ∧
    (∀ c t c' res, Exec Serve (SparesObject (fleetName app)) c (reconcileFleet r app v) t c'
        (.ret res) → Declined res →
      c'.live .statefulSet (fleetName app) = c.live .statefulSet (fleetName app)) := by
  refine ⟨?_, ?_, ?_⟩
  · intro h o k hs
    obtain ⟨-, existing, hg, -⟩ := update_guarded hs
    exact ⟨existing, hg⟩
  · intro c₀ h c o k hx
    obtain ⟨_, existing, hg, hw⟩ := update_guarded hx.steps
    have hk : Knows h c := knows_exec (fun _ _ hl => hl) hx
    exact ⟨existing, hg, fun hchange pods hlast hsome =>
      hw.joins hk (hk.read _ _ _ hg.read) hchange hlast hsome⟩
  · intro c t c' res hx hd
    have hk : Knows t c' := knows_exec (fun _ _ hs => hs.1) hx
    have hexit := valid_runs (reconcileFleet_valid r app v) hx.steps
    rw [List.nil_append] at hexit
    exact exec_untouched hx (hexit.untouched hk hd)

/-- A pass over a converged fleet for another image starts a rolling update. -/
def upgradePass (image : String) : List (Event Api) × Cluster × Except Err FleetOutcome :=
  runWith (answer {}) (reconcileFleet sampleReconciler (scaledApp image) "1")
    (settledCluster servingApp true "True")

theorem fleet_writes_guarded_upgradePass :
    (∃ h o existing, Guarded sampleReconciler (scaledApp "ghcr.io/denoland/celld:v0.5.2") h existing ∧
      o.sspec.template ≠ existing.sspec.template ∧
      ∀ pods, LastPods (scaledApp "ghcr.io/denoland/celld:v0.5.2") h pods →
        (∃ pod ∈ pods.val, isControlledBy pod.ownerReferences existing.metadata.uid = true) →
        Joins existing o pods.val) ∧
    (upgradePass "ghcr.io/denoland/celld:v0.2.1").2.1.live .statefulSet "shop-celld" =
      (settledCluster servingApp true "True").live .statefulSet "shop-celld" := by
  constructor
  · obtain ⟨-, hguard, -⟩ :=
      fleet_writes_guarded sampleReconciler (scaledApp "ghcr.io/denoland/celld:v0.5.2") "1"
    obtain ⟨h, o, stored, rest, c, k, c', heq, hx, hs⟩ := exists_served (E := Cluster.Later) {}
      (reconcileFleet sampleReconciler (scaledApp "ghcr.io/denoland/celld:v0.5.2") "1")
      (settledCluster servingApp true "True") (by decide +kernel)
    obtain ⟨existing, hg, hjoins⟩ := hguard _ _ _ _ _ hx
    have hread : (upgradePass "ghcr.io/denoland/celld:v0.5.2").1.all (fleetRead fun sts =>
        stsContainerImage sts.sspec.template.spec == "ghcr.io/denoland/celld:v0.5.1") = true := by
      decide +kernel
    have hstored : (upgradePass "ghcr.io/denoland/celld:v0.5.2").1.all (fleetStored fun sts =>
        stsContainerImage sts.sspec.template.spec == "ghcr.io/denoland/celld:v0.5.2") = true := by
      decide +kernel
    unfold upgradePass at hread hstored
    rw [heq] at hread hstored
    have hold := List.all_eq_true.mp hread _ (List.mem_append_left _ hg.read)
    have hnew := List.all_eq_true.mp hstored _ (List.mem_append_right _ (List.mem_cons_self ..))
    obtain ⟨cur, -, -, hacc, -⟩ := hs
    have hchange : o.sspec.template ≠ existing.sspec.template := by
      intro hsame
      have hspec : stored.sspec = o.sspec := hacc.spec
      simp only [fleetStored, hspec, hsame, beq_iff_eq] at hnew
      simp only [fleetRead, beq_iff_eq] at hold
      rw [hold] at hnew
      exact absurd hnew (by decide)
    exact ⟨h, o, existing, hg, hchange, hjoins hchange⟩
  · obtain ⟨-, -, hleaves⟩ :=
      fleet_writes_guarded sampleReconciler (scaledApp "ghcr.io/denoland/celld:v0.2.1") "1"
    have hdegraded : Declined (upgradePass "ghcr.io/denoland/celld:v0.2.1").2.2 := by
      decide +kernel
    exact hleaves _ (upgradePass "ghcr.io/denoland/celld:v0.2.1").1 _ _
      (exec_runWith (serve_answer {}) _ _) hdegraded

end CelldOperator
