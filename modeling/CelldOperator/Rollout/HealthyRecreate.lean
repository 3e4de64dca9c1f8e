/-
  CelldOperator.Rollout.HealthyRecreate

  **A RECREATE IS TWO WRITES.**

  With the Recreate strategy a change of the template goes through three stages: due,
  stopped, started.  A pass behind a confirmed pause stops a fleet that is due, and
  starts one that is stopped once it is drained; no other pass writes.  What the pods
  report, and how long they take to go, does not matter.

    • `RecreateStage.next`  — the stages, as pauses and drained scenes drive them,
    • `RecreatePass.step`   — one pass, from one stage to the next,
    • `healthy_recreate`    — any number of passes, by induction over the run.
-/
import CelldOperator.Rollout.Healthy

namespace CelldOperator

open Effect Prog

/-! ## §1. The stages. -/

/-- How far a recreate is. -/
inductive RecreateStage where
  | due
  | stopped
  | started
  deriving DecidableEq

/-- What a pass makes of the stage: whether its pause was confirmed, and the fleet drained. -/
def RecreateStage.next : RecreateStage → Bool × Bool → RecreateStage
  | .due, (true, _) => .stopped
  | .stopped, (true, true) => .started
  | stage, _ => stage

/-- Partition, size and template of what has been written up to a stage. -/
def RecreateStage.writes (stop start : Nat × Nat × PodTemplate) :
    RecreateStage → List (Option (Nat × Nat × PodTemplate))
  | .due => []
  | .stopped => [some stop]
  | .started => [some stop, some start]

/-- **The stored StatefulSet at each stage.**  Up to the start the template and the partition
are the old ones. -/
inductive AtStage (app : WorkerApp) (desired : StatefulSet) (old : PodTemplate) (partition : Nat)
    (sts : StatefulSet) : RecreateStage → Prop where
  | due (running : stsReplicas sts ≠ 0) (template : sts.sspec.template = old)
      (kept : stsPartition sts = partition) (idle : recreating sts = false)
      (changed : templateChanged sts desired = true) :
      AtStage app desired old partition sts .due
  | stopped (down : stsReplicas sts = 0) (template : sts.sspec.template = old)
      (marked : recreating sts = true) : AtStage app desired old partition sts .stopped
  | started (size : stsReplicas sts = (desiredReplicas app).toNat)
      (template : sts.sspec.template = desired.sspec.template) (released : stsPartition sts = 0)
      (hash : annotationOf sts templateHashAnnotation = annotationOf desired templateHashAnnotation)
      (cleared : recreating sts = false) : AtStage app desired old partition sts .started

section

variable {app : WorkerApp} {desired sts sts' : StatefulSet} {old : PodTemplate} {partition : Nat}
  {stage : RecreateStage}

/-- The stage is read off the spec and the annotations. -/
theorem SameStage.atStage (h : SameStage sts sts')
    (hs : AtStage app desired old partition sts stage) :
    AtStage app desired old partition sts' stage := by
  have hspec : sts'.sspec = sts.sspec := h.spec
  have hreplicas : stsReplicas sts' = stsReplicas sts := by
    unfold stsReplicas
    rw [hspec]
  have hpartition : stsPartition sts' = stsPartition sts := by
    unfold stsPartition
    rw [hspec]
  have hnotes : ∀ key, annotationOf sts' key = annotationOf sts key := by
    intro key
    unfold annotationOf
    rw [h.annotations]
  have hrecreating : recreating sts' = recreating sts := by
    unfold recreating
    rw [hnotes]
  cases hs with
  | due running template kept idle changed =>
    refine .due (hreplicas ▸ running) (hspec ▸ template) (hpartition ▸ kept) (hrecreating ▸ idle) ?_
    unfold templateChanged at changed ⊢
    rw [hnotes]
    exact changed
  | stopped down template marked =>
    exact .stopped (hreplicas ▸ down) (hspec ▸ template) (hrecreating ▸ marked)
  | started size template released hash cleared =>
    exact .started (hreplicas ▸ size) (hspec ▸ template) (hpartition ▸ released)
      ((hnotes _).trans hash) (hrecreating ▸ cleared)

/-- Scaling to zero stops the fleet. -/
theorem AtStage.scaleToZero (hs : AtStage app desired old partition sts .due) :
    AtStage app desired old partition (scaleToZero sts) .stopped := by
  cases hs with
  | due running template kept idle changed =>
    exact .stopped rfl template (recreating_scaleToZero sts)

/-- The start leaves nothing of the recreate behind. -/
theorem atStage_startRecreated (sts : StatefulSet) :
    AtStage app desired old partition (startRecreated app sts desired) .started :=
  .started rfl rfl rfl (startRecreated_hash ..) (recreating_startRecreated ..)

end

/-! ## §2. The environment of a pass. -/

/-- Drained: no pods, and the controller has observed the scale. -/
structure FleetScene.Drained (s : FleetScene) : Prop where
  empty : s.pods = []
  observed : s.sts.sstatus.observedGeneration = s.sts.metadata.generation
  gone : s.sts.sstatus.replicas = 0

/-- A pass of `reconcileFleet` over the scene: the pods are listed, writes are accepted, the
Secrets come to the config hash, and the scaler says whether the pause is confirmed. -/
structure RecreatePass (r : Reconciler) (app : WorkerApp) (version hash : String) (s : FleetScene)
    (paused drained : Bool) (t : Trace) : Prop where
  lists : Lists app s.pods t
  accepts : AcceptsWrites s.sts t
  drains : drained = true ↔ s.Drained
  returns : ∃ res, Runs (reconcileFleet r app version) t res
  awaits : ∃ t₁ t₂ t₃,
    t = t₁ ++ ⟨.getLive .statefulSet (fleetName app), .ok s.sts⟩ :: (t₂ ++ t₃) ∧
    Runs (configHash r app) t₁ (.ok hash) ∧
    Runs (awaitPause r app s.sts (desiredFleet r app hash version)) t₂ (.ok paused)

/-! ## §3. The two writes. -/

section

variable {r : Reconciler} {app : WorkerApp} {version hash : String} {s : FleetScene}
  {paused drained : Bool} {t u : Trace} {old : PodTemplate} {partition : Nat}
  {existing desired : StatefulSet}

theorem AcceptsWrites.sub (h : AcceptsWrites existing t) (hsub : ∀ e ∈ u, e ∈ t) :
    AcceptsWrites existing u :=
  fun o res hsaw => h o res (hsub _ hsaw)

/-- The check of the live fleet comes to a verdict, whichever it is. -/
theorem liveFleetBreakingReason_returns {pods : List Pod} {res : Except Err String}
    (hl : Lists app pods t) (ht : Runs (liveFleetBreakingReason app existing desired) t res) :
    ∃ reason, res = .ok reason := by
  unfold liveFleetBreakingReason check at ht
  dsimp only at ht
  split at ht
  · exact ⟨_, (runs_ret.mp ht).2.symm⟩
  · obtain ⟨listed, t₁, t₂, rfl, ht₁, ht₂⟩ := runs_bind.mp ht
    rw [runs_req.mp ht₁] at hl
    obtain ⟨l, rfl, -⟩ := hl listed (List.mem_append_left _ (List.mem_singleton_self _))
    exact ⟨_, (runs_ret.mp ht₂).2.symm⟩

/-- **A running fleet is scaled to zero.** -/
theorem recreateStep_stops {hazard : String} {res : Except Err FleetOutcome}
    (hrunning : stsReplicas existing ≠ 0) (ha : AcceptsWrites existing t)
    (ht : Runs (recreateStep app existing desired hazard) t res) :
    ∃ stored, WritesOnce existing t (scaleToZero existing) stored := by
  unfold recreateStep at ht
  dsimp only at ht
  rw [if_pos hrunning] at ht
  exact writeFleet_once (fun _ => confined_pure _) ha ht

/-- **A stopped fleet is started once it is drained**, and only looked at before. -/
theorem recreateStep_starts {hazard : String} {res : Except Err FleetOutcome}
    (hdown : stsReplicas s.sts = 0) (hl : Lists app s.pods t) (ha : AcceptsWrites s.sts t)
    (ht : Runs (recreateStep app s.sts desired hazard) t res) :
    (s.Drained → ∃ stored, WritesOnce s.sts t (startRecreated app s.sts desired) stored) ∧
      (¬ s.Drained → SparesFleet t) := by
  unfold recreateStep check at ht
  dsimp only at ht
  rw [if_neg (not_not.mpr hdown)] at ht
  obtain ⟨listed, t₁, t₂, rfl, ht₁, ht₂⟩ := runs_bind.mp ht
  have hsp : SparesFleet t₁ := ReadsOnly.spares (confined_read rfl rfl) ht₁
  have hsaw : Saw t₁ (.listPods (selectorLabels app)) listed := by
    rw [runs_req.mp ht₁]
    exact List.mem_singleton_self _
  obtain ⟨l, rfl, hperm⟩ := hl listed (List.mem_append_left _ hsaw)
  dsimp only at ht₂
  by_cases hd : s.Drained
  · -- all three conditions of the wait fail
    have hempty : l.val = [] := by
      rw [hd.empty] at hperm
      exact hperm.eq_nil
    have hgo : ¬ (s.sts.sstatus.observedGeneration ≠ s.sts.metadata.generation ∨ l.val ≠ [] ∨
        0 < s.sts.sstatus.replicas) := by
      rw [hempty, hd.observed, hd.gone]
      simp
    rw [if_neg hgo] at ht₂
    obtain ⟨stored, hw⟩ := writeFleet_once (fun _ => confined_pure _)
      (ha.sub fun e he => List.mem_append_right _ he) ht₂
    exact ⟨fun _ => ⟨stored, hw.prepend hsp⟩, fun hno => absurd hd hno⟩
  · -- one of them holds, or the fleet would be drained
    have hwait : s.sts.sstatus.observedGeneration ≠ s.sts.metadata.generation ∨ l.val ≠ [] ∨
        0 < s.sts.sstatus.replicas := by
      by_contra hgo
      obtain ⟨hobserved, hempty, hgone⟩ : s.sts.sstatus.observedGeneration =
          s.sts.metadata.generation ∧ l.val = [] ∧ s.sts.sstatus.replicas = 0 := by
        simpa using hgo
      rw [hempty] at hperm
      exact hd ⟨hperm.symm.eq_nil, hobserved, hgone⟩
    rw [if_pos hwait] at ht₂
    obtain ⟨rfl, -⟩ := runs_ret.mp ht₂
    rw [List.append_nil]
    exact ⟨fun hyes => absurd hyes hd, fun _ => hsp⟩

/-! ## §4. One pass. -/

/-- A pass whose pause is not confirmed writes nothing. -/
theorem RecreatePass.waits (hp : RecreatePass r app version hash s false drained t)
    (howned : requireOwnership app s.sts = .ok ()) : SparesFleet t := by
  obtain ⟨before, u, res, rfl, hbefore, hu⟩ := reconcileFleet_parts howned hp.returns hp.awaits
  rw [if_neg (by decide)] at hu
  obtain ⟨rfl, -⟩ := runs_ret.mp hu
  rw [List.append_nil]
  exact hbefore

/-- The first pass behind the pause stops the fleet, whatever the pods are. -/
theorem RecreatePass.stops (hp : RecreatePass r app version hash s true drained t)
    (howned : requireOwnership app s.sts = .ok ())
    (hrecreate : app.spec.celld.updateStrategy = .recreate)
    (hpermitted : runtimeChangeRefusal app (stsContainerImage s.sts.sspec.template.spec) = "")
    (hrunning : stsReplicas s.sts ≠ 0) (hidle : recreating s.sts = false)
    (hchanged : templateChanged s.sts (desiredFleet r app hash version) = true) :
    ∃ stored, WritesOnce s.sts t (scaleToZero s.sts) stored := by
  obtain ⟨before, u, res, rfl, hbefore, hu⟩ := reconcileFleet_parts howned hp.returns hp.awaits
  rw [if_pos rfl] at hu
  unfold driveFleet at hu
  dsimp only at hu
  rw [if_neg (not_not.mpr hpermitted), hidle, if_neg (by decide), if_pos hchanged] at hu
  unfold changeTemplate check at hu
  obtain ⟨breaking, t₁, t₂, rfl, ht₁, ht₂⟩ := runs_bind.mp hu
  have hsp := (liveFleetBreakingReason_reads app s.sts _).spares ht₁
  obtain ⟨reason, rfl⟩ := liveFleetBreakingReason_returns
    (hp.lists.sub fun e he => List.mem_append_right _ (List.mem_append_left _ he)) ht₁
  -- under Recreate the verdict only goes into the message
  dsimp only at ht₂
  rw [if_neg fun h => h.2 hrecreate, if_pos hrecreate] at ht₂
  obtain ⟨stored, hw⟩ := recreateStep_stops hrunning
    (hp.accepts.sub fun e he => List.mem_append_right _ (List.mem_append_right _ he)) ht₂
  exact ⟨stored, (hw.prepend hsp).prepend hbefore⟩

/-- A pass over the stopped fleet starts it if it is drained. -/
theorem RecreatePass.starts (hp : RecreatePass r app version hash s true drained t)
    (howned : requireOwnership app s.sts = .ok ())
    (hpermitted : runtimeChangeRefusal app (stsContainerImage s.sts.sspec.template.spec) = "")
    (hdown : stsReplicas s.sts = 0) (hmarked : recreating s.sts = true) :
    (s.Drained → ∃ stored, WritesOnce s.sts t
        (startRecreated app s.sts (desiredFleet r app hash version)) stored) ∧
      (¬ s.Drained → SparesFleet t) := by
  obtain ⟨before, u, res, rfl, hbefore, hu⟩ := reconcileFleet_parts howned hp.returns hp.awaits
  rw [if_pos rfl] at hu
  unfold driveFleet at hu
  dsimp only at hu
  rw [if_neg (not_not.mpr hpermitted), hmarked, if_pos rfl] at hu
  obtain ⟨hstart, hwait⟩ := recreateStep_starts hdown
    (hp.lists.sub fun e he => List.mem_append_right _ he)
    (hp.accepts.sub fun e he => List.mem_append_right _ he) hu
  refine ⟨fun hd => ?_, fun hd => hbefore.append (hwait hd)⟩
  obtain ⟨stored, hw⟩ := hstart hd
  exact ⟨stored, hw.prepend hbefore⟩

/-- A pass over the started fleet writes nothing, whatever its pods are. -/
theorem RecreatePass.rests (hp : RecreatePass r app version hash s true drained t)
    (howned : requireOwnership app s.sts = .ok ()) (hreplicas : 1 ≤ desiredReplicas app)
    (hs : AtStage app (desiredFleet r app hash version) old partition s.sts .started) :
    SparesFleet t := by
  obtain ⟨before, u, res, rfl, hbefore, hu⟩ := reconcileFleet_parts howned hp.returns hp.awaits
  cases hs with
  | started size template released hashed cleared =>
    have hpermitted :
        runtimeChangeRefusal app (stsContainerImage s.sts.sspec.template.spec) = "" := by
      rw [template]
      exact runtimeChangeRefusal_same app
    have hsame : templateChanged s.sts (desiredFleet r app hash version) = false := by
      unfold templateChanged
      rw [hashed]
      simp
    have hsize : replicasDrifted app s.sts = false := by
      have hint : (stsReplicas s.sts : Int) = desiredReplicas app := by
        rw [size]
        omega
      simp [replicasDrifted, hint]
    rw [if_pos rfl] at hu
    unfold driveFleet at hu
    dsimp only at hu
    rw [if_neg (not_not.mpr hpermitted), cleared, if_neg (by decide), hsame,
      if_neg (by decide), released, if_neg (by decide)] at hu
    exact hbefore.append ((steadyFleet_reads hsize version).spares hu)

end

/-! ## §5. The run. -/

/-- What is recorded of a pass: its pause, whether the fleet was drained, and what it exchanged. -/
structure PassRecord where
  paused : Bool
  drained : Bool
  trace : Trace

/-- **Passes over a fleet that is being recreated.**  Between two passes only the status of the
StatefulSet changes; the pods come and go. -/
inductive RecreateRun (r : Reconciler) (app : WorkerApp) (version hash : String) :
    StatefulSet → List PassRecord → StatefulSet → Prop where
  | idle (sts : StatefulSet) : RecreateRun r app version hash sts [] sts
  | pass {sts final : StatefulSet} {s : FleetScene} {p : PassRecord} {passes : List PassRecord}
      (reported : Reported sts s.sts)
      (pass : RecreatePass r app version hash s p.paused p.drained p.trace)
      (rest : RecreateRun r app version hash (storedAfter s.sts p.trace) passes final) :
      RecreateRun r app version hash sts (p :: passes) final

/-- The stage the passes lead to. -/
def stageAfter (stage : RecreateStage) (passes : List PassRecord) : RecreateStage :=
  (passes.map fun p => (p.paused, p.drained)).foldl RecreateStage.next stage

/-- What the passes write of the StatefulSet, in order. -/
def recreateWrites (passes : List PassRecord) : List (Option (Nat × Nat × PodTemplate)) :=
  rolloutWrites (passes.map fun p => (p.paused, p.trace))

/-- What a fleet that runs `old` at this partition, and is to be `desired`, is written as. -/
def recreateScript (app : WorkerApp) (desired : StatefulSet) (old : PodTemplate)
    (partition : Nat) : RecreateStage → List (Option (Nat × Nat × PodTemplate)) :=
  RecreateStage.writes (partition, 0, old)
    (0, (desiredReplicas app).toNat, desired.sspec.template)

section

variable {r : Reconciler} {app : WorkerApp} {version hash : String} {s : FleetScene}
  {sts : StatefulSet} {p : PassRecord} {passes : List PassRecord} {old : PodTemplate}
  {partition : Nat} {stage : RecreateStage}

theorem recreateWrites_cons (p : PassRecord) (passes : List PassRecord) :
    recreateWrites (p :: passes) = rolloutWrites [(p.paused, p.trace)] ++ recreateWrites passes := by
  simp [recreateWrites, rolloutWrites]

/-- **One pass takes the fleet to the next stage**, and writes what lies between. -/
theorem RecreatePass.step (hrecreate : app.spec.celld.updateStrategy = .recreate)
    (hreplicas : 1 ≤ desiredReplicas app)
    (hpermitted : runtimeChangeRefusal app (stsContainerImage old.spec) = "")
    (hp : RecreatePass r app version hash s p.paused p.drained p.trace)
    (howned : requireOwnership app s.sts = .ok ())
    (hs : AtStage app (desiredFleet r app hash version) old partition s.sts stage) :
    let script := recreateScript app (desiredFleet r app hash version) old partition
    let next := stage.next (p.paused, p.drained)
    script stage ++ rolloutWrites [(p.paused, p.trace)] = script next ∧
      requireOwnership app (storedAfter s.sts p.trace) = .ok () ∧
      AtStage app (desiredFleet r app hash version) old partition (storedAfter s.sts p.trace)
        next := by
  intro script next
  obtain ⟨paused, drained, t⟩ := p
  -- a pass that writes nothing leaves the stage as it is
  have hstays : SparesFleet t → next = stage → script stage ++ rolloutWrites [(paused, t)] =
      script next ∧ requireOwnership app (storedAfter s.sts t) = .ok () ∧
      AtStage app (desiredFleet r app hash version) old partition (storedAfter s.sts t) next := by
    intro hsp hnext
    rw [hnext, rolloutWrites_spared hsp, hsp.storedAfter]
    exact ⟨List.append_nil _, howned, hs⟩
  cases paused with
  | false =>
    refine hstays (hp.waits howned) ?_
    cases stage <;> rfl
  | true =>
    have hat := hs
    cases hs with
    | due running template kept idle changed =>
      obtain ⟨stored, hw⟩ := hp.stops howned hrecreate (template ▸ hpermitted) running idle changed
      have hsame := hw.accepted.sameStage
      refine ⟨?_, ?_, ?_⟩
      · rw [rolloutWrites_once hw]
        show [some (stsPartition s.sts, 0, s.sts.sspec.template)] = [some (partition, 0, old)]
        rw [kept, template]
      · rw [hw.leaves]
        exact hsame.owned howned
      · rw [hw.leaves]
        exact hsame.atStage hat.scaleToZero
    | stopped down template marked =>
      obtain ⟨hstart, hwait⟩ := hp.starts howned (template ▸ hpermitted) down marked
      cases drained with
      | false => exact hstays (hwait fun hd => Bool.false_ne_true (hp.drains.mpr hd)) rfl
      | true =>
        obtain ⟨stored, hw⟩ := hstart (hp.drains.mp rfl)
        have hsame := hw.accepted.sameStage
        refine ⟨?_, ?_, ?_⟩
        · rw [rolloutWrites_once hw]
          rfl
        · rw [hw.leaves]
          exact hsame.owned howned
        · rw [hw.leaves]
          exact hsame.atStage (atStage_startRecreated s.sts)
    | started size template released hashed cleared =>
      exact hstays (hp.rests howned hreplicas hat) rfl

end

/-- **A recreate is two writes.**  A fleet of the Recreate strategy whose template is to change
goes from stage to stage as its passes find the pause confirmed and the fleet drained.  At every
point the passes have written what the stage stands for, in order and once: the old template at
size zero, then the new one at the desired size and partition 0.  The fleet they leave is the one
of that stage; in particular nothing is started before it is drained, and a started fleet is not
written again. -/
theorem healthy_recreate (r : Reconciler) (app : WorkerApp) (version hash : String)
    (existing final : StatefulSet) (passes : List PassRecord)
    (hrecreate : app.spec.celld.updateStrategy = .recreate)
    (hreplicas : 1 ≤ desiredReplicas app) (howned : requireOwnership app existing = .ok ())
    (hpermitted :
      runtimeChangeRefusal app (stsContainerImage existing.sspec.template.spec) = "")
    (hrunning : stsReplicas existing ≠ 0) (hidle : recreating existing = false)
    (hchanged : templateChanged existing (desiredFleet r app hash version) = true)
    (hrun : RecreateRun r app version hash existing passes final) :
    let desired := desiredFleet r app hash version
    let stage := stageAfter .due passes
    recreateWrites passes = recreateScript app desired existing.sspec.template
        (stsPartition existing) stage ∧
      AtStage app desired existing.sspec.template (stsPartition existing) final stage := by
  -- the induction is over the run, from any stage; the old template and partition stay fixed
  have hmain : ∀ {old : PodTemplate} {partition : Nat} {stage : RecreateStage} {sts : StatefulSet},
      runtimeChangeRefusal app (stsContainerImage old.spec) = "" →
      RecreateRun r app version hash sts passes final → requireOwnership app sts = .ok () →
      AtStage app (desiredFleet r app hash version) old partition sts stage →
      recreateScript app (desiredFleet r app hash version) old partition stage ++
          recreateWrites passes =
        recreateScript app (desiredFleet r app hash version) old partition
          (stageAfter stage passes) ∧
      AtStage app (desiredFleet r app hash version) old partition final
        (stageAfter stage passes) := by
    clear hrun howned hpermitted hrunning hidle hchanged
    intro old partition stage sts hpermitted hrun
    induction hrun generalizing stage with
    | idle sts => exact fun _ hs => ⟨List.append_nil _, hs⟩
    | @pass sts final s p passes hreported hpass hrest ih =>
      intro howned hs
      have hsame := hreported.sameStage
      obtain ⟨hwrites, howned', hs'⟩ := hpass.step hrecreate hreplicas hpermitted
        (hsame.owned howned) (hsame.atStage hs)
      obtain ⟨hrestWrites, hfinal⟩ := ih howned' hs'
      refine ⟨?_, hfinal⟩
      rw [recreateWrites_cons, ← List.append_assoc, hwrites]
      exact hrestWrites
  intro desired stage
  exact hmain hpermitted hrun howned (.due hrunning rfl rfl hidle hchanged)

/-! ## §6. A fleet of one. -/

/-- An app with one node, under the Recreate strategy. -/
def soloApp (image : String) : WorkerApp :=
  let app := sampleApp image .recreate
  { app with spec := { app.spec with replicas := some 1, durability := .bucket } }

def recreatedApp : WorkerApp := soloApp "ghcr.io/denoland/celld:v0.5.2"

/-- The pass of the sample operator over the scene. -/
def recreateScene (s : FleetScene) : Trace := scenePass sampleReconciler recreatedApp 0 s

/-- The passes over these scenes are answered from them. -/
theorem recreatePass_scene {s : FleetScene} {drained : Bool}
    (hpods : s.pods.length < 2 ^ 31) (hdrained : drained = true ↔ s.Drained)
    (howned : requireOwnership recreatedApp s.sts = .ok ())
    (hhash : (runAnswers (sceneAnswers 0 s) (configHash sampleReconciler recreatedApp)).2.2 =
      .ok "")
    (hpause : (runAnswers (sceneAnswers 0 s) (awaitPause sampleReconciler recreatedApp s.sts
      (desiredFleet sampleReconciler recreatedApp "" "1"))).2.2 = .ok true) :
    RecreatePass sampleReconciler recreatedApp "1" "" s true drained (recreateScene s) := by
  obtain ⟨hreturns, hawaits⟩ := runs_scenePass howned hhash hpause
  refine ⟨fun res hsaw => ?_, fun o res hsaw => ?_, hdrained, hreturns, hawaits⟩
  · refine ⟨⟨s.pods, hpods⟩, ?_, .refl _⟩
    rw [saw_scenePass hsaw, sceneAnswers]
    exact dif_pos hpods
  · exact ⟨_, saw_scenePass hsaw, rfl, rfl, rfl⟩

/-- The fleet at v0.5.1, with its pod. -/
def soloStart : FleetScene :=
  idleScene (settledFleet (soloApp "ghcr.io/denoland/celld:v0.5.1"))
    [samplePod "shop-celld-0" "s1" "r1" (fleetPodSpec (soloApp "ghcr.io/denoland/celld:v0.5.1"))]

/-- The scenes of four passes: stop, wait for the pod to go, start, rest. -/
def haltedFleet : StatefulSet :=
  acceptUpdate Cluster.empty soloStart.sts (scaleToZero soloStart.sts)

def soloDraining : FleetScene := { soloStart with sts := haltedFleet }

def soloDrained : FleetScene :=
  { sts := { haltedFleet with status := ({ haltedFleet.sstatus with
      observedGeneration := haltedFleet.metadata.generation, replicas := 0 } :
        StatefulSetStatus) }
    pods := []
    state := fun _ => idleState }

def restartedFleet : StatefulSet :=
  acceptUpdate Cluster.empty soloDrained.sts
    (startRecreated recreatedApp soloDrained.sts
      (desiredFleet sampleReconciler recreatedApp "" "1"))

def soloStarted : FleetScene := { soloDrained with sts := restartedFleet }

def recreatePasses : List PassRecord :=
  [⟨true, false, recreateScene soloStart⟩,
    ⟨true, false, recreateScene soloDraining⟩,
    ⟨true, true, recreateScene soloDrained⟩,
    ⟨true, false, recreateScene soloStarted⟩]

theorem stored_recreateStart :
    storedAfter soloStart.sts (recreateScene soloStart) = haltedFleet := by
  decide +kernel

theorem stored_draining :
    storedAfter soloDraining.sts (recreateScene soloDraining) = haltedFleet := by
  decide +kernel

theorem stored_drained :
    storedAfter soloDrained.sts (recreateScene soloDrained) = restartedFleet := by
  decide +kernel

/-- The fleet of one is written twice, and ends with the new template. -/
theorem healthy_recreate_solo :
    let desired := desiredFleet sampleReconciler recreatedApp "" "1"
    recreateWrites recreatePasses =
        [some (0, 0, soloStart.sts.sspec.template), some (0, 1, desired.sspec.template)] ∧
      AtStage recreatedApp desired soloStart.sts.sspec.template 0
        (storedAfter soloStarted.sts (recreateScene soloStarted)) .started := by
  intro desired
  have hpod : ∀ {s : FleetScene}, s.pods ≠ [] → (false = true ↔ s.Drained) :=
    fun hne => ⟨fun h => absurd h Bool.false_ne_true, fun hd => absurd hd.empty hne⟩
  have hrun : RecreateRun sampleReconciler recreatedApp "1" "" soloStart.sts recreatePasses
      (storedAfter soloStarted.sts (recreateScene soloStarted)) := by
    refine .pass ⟨rfl, rfl⟩ (recreatePass_scene (by decide +kernel) (hpod (by decide))
      (by decide +kernel) (by decide +kernel) (by decide +kernel)) ?_
    rw [stored_recreateStart]
    refine .pass ⟨rfl, rfl⟩ (recreatePass_scene (by decide +kernel) (hpod (by decide))
      (by decide +kernel) (by decide +kernel) (by decide +kernel)) ?_
    rw [stored_draining]
    refine .pass ⟨rfl, rfl⟩ (recreatePass_scene (by decide +kernel)
      ⟨fun _ => ⟨rfl, rfl, rfl⟩, fun _ => rfl⟩
      (by decide +kernel) (by decide +kernel) (by decide +kernel)) ?_
    rw [stored_drained]
    -- the new generation has not been observed
    refine .pass ⟨rfl, rfl⟩ (recreatePass_scene (by decide +kernel)
      ⟨fun h => absurd h Bool.false_ne_true, fun hd => absurd hd.observed (by decide +kernel)⟩
      (by decide +kernel) (by decide +kernel) (by decide +kernel)) (.idle _)
  exact healthy_recreate sampleReconciler recreatedApp "1" "" soloStart.sts _ recreatePasses rfl
    (by decide +kernel) (by decide +kernel) (by decide +kernel) (by decide +kernel)
    (by decide +kernel) (by decide +kernel) hrun

end CelldOperator
