/-
  CelldOperator.Rollout.Recreate

  **STOP ALL, THEN START.**  A change that must not mix nodes goes through an
  empty fleet: one pass scales to zero and sets the recreate annotation, later
  passes wait, and one write installs the template, restores the replicas and
  clears the annotation.

    • `StopMarked` — a fleet scaled to zero carries the annotation; kept by
      every write (`FleetWrite.stopMarked`), so it holds along every run,
    • `FleetWrite.startsAll` — on this path the template changes in one way
      only, over a fleet seen stopped (`StartsAll`).
-/
import CelldOperator.Cluster.Kube
import CelldOperator.Pass.Known

namespace CelldOperator

open Effect Prog

/-! ## §1. What a write leaves. -/

section

variable {existing o stored : StatefulSet}

theorem Accepted.replicas (ha : Accepted existing o stored) : stsReplicas stored = stsReplicas o :=
  congrArg (fun spec : StatefulSetSpec => spec.replicas.getD 0) ha.spec

theorem Accepted.partition (ha : Accepted existing o stored) :
    stsPartition stored = stsPartition o :=
  congrArg (fun spec : StatefulSetSpec => spec.partition.getD 0) ha.spec

theorem Accepted.template (ha : Accepted existing o stored) :
    stored.sspec.template = o.sspec.template :=
  congrArg StatefulSetSpec.template ha.spec

theorem Accepted.annotation (ha : Accepted existing o stored) (key : String) :
    annotationOf stored key = annotationOf o key := by
  unfold annotationOf
  rw [ha.metadata]

theorem Accepted.recreating (ha : Accepted existing o stored) : recreating stored = recreating o := by
  unfold CelldOperator.recreating
  rw [ha.annotation]

theorem recreating_scaleToZero (sts : StatefulSet) : recreating (scaleToZero sts) = true := by
  have hget : annotationOf (scaleToZero sts) recreateAnnotation = annotationTrue :=
    StrMap.get_insert_self _ _ _
  simp [recreating, hget]

theorem recreating_startRecreated (app : WorkerApp) (sts desired : StatefulSet) :
    recreating (startRecreated app sts desired) = false := by
  have hget : annotationOf (startRecreated app sts desired) recreateAnnotation = "" :=
    StrMap.get_erase_self _ _
  rw [recreating, hget]
  decide

end

/-! ## §2. A stopped fleet is marked. -/

/-- A StatefulSet scaled to zero carries the recreate annotation. -/
def StopMarked (sts : StatefulSet) : Prop := stsReplicas sts = 0 → recreating sts = true

section

variable {r : Reconciler} {app : WorkerApp} {h : Trace} {c : Cluster} {n : String}
  {existing desired o stored : StatefulSet}

theorem toNat_desiredReplicas_ne (hreplicas : 1 ≤ desiredReplicas app) :
    (desiredReplicas app).toNat ≠ 0 := by
  omega

/-- **Every write keeps the mark.**  The two that leave zero replicas alone are made on a fleet
that is not being recreated, hence not at zero. -/
theorem FleetWrite.stopMarked (hk : Knows h c) (hmem : existing ∈ c.past .statefulSet n)
    (hreplicas : 1 ≤ desiredReplicas app) (hm : StopMarked existing)
    (hw : FleetWrite r app existing desired h o) : StopMarked o := by
  have hidle : recreating existing = false → stsReplicas existing ≠ 0 := by
    intro hidle hzero
    rw [hm hzero] at hidle
    cases hidle
  cases hw with
  | rollingStart now idle changed rolling template pods =>
    exact fun hzero => absurd hzero (hidle idle)
  | rollout idle same write =>
    cases write with
    | clamp high => exact fun hzero => absurd hzero (hidle idle)
    | release base partition now start gates clock =>
      obtain ⟨rfl, -, -⟩ := start.exact hk hmem gates.observed
      exact fun hzero => absurd hzero (hidle idle)
  | scaleDown cause running => exact fun _ => recreating_scaleToZero existing
  | recreateStart cause stopped observed drained pods =>
    exact fun hzero => absurd hzero (toNat_desiredReplicas_ne hreplicas)
  | scale idle same still drifted =>
    exact fun hzero => absurd hzero (toNat_desiredReplicas_ne hreplicas)

/-! ## §3. The one way to a new template. -/

/-- **The start of a stopped fleet.**  The object written was scaled to zero, observed so, and
without pods in status or in the uncached list; the same write brings the template, at least
one replica, partition 0, and clears the annotation. -/
structure StartsAll (r : Reconciler) (app : WorkerApp) (appVersion : String) (h : Trace)
    (existing stored : StatefulSet) : Prop where
  stopped : stsReplicas existing = 0
  observed : existing.sstatus.observedGeneration = existing.metadata.generation
  drained : existing.sstatus.replicas = 0
  empty : ∃ pods : PodList, Saw h (.listPods (selectorLabels app)) (.ok pods) ∧ pods.val = []
  template : ∃ hash, Ran (configHash r app) (.ok hash) h ∧
    stored.sspec.template = buildPodTemplate app hash appVersion
  replicas : (stsReplicas stored : Int) = desiredReplicas app
  positive : 1 ≤ desiredReplicas app
  partition : stsPartition stored = 0
  cleared : recreating stored = false

theorem LastPods.saw {pods : PodList} (hl : LastPods app h pods) :
    Saw h (.listPods (selectorLabels app)) (.ok pods) := by
  obtain ⟨pre, post, rfl, -⟩ := hl
  exact List.mem_append_right _ (List.mem_cons_self ..)

/-- **On the stop-all path** a write that changes the template, or clears the annotation, starts
a stopped fleet. -/
theorem FleetWrite.startsAll {hash v : String} (hk : Knows h c)
    (hmem : existing ∈ c.past .statefulSet n) (hreplicas : 1 ≤ desiredReplicas app)
    (hhash : Ran (configHash r app) (.ok hash) h)
    (hw : FleetWrite r app existing (desiredFleet r app hash v) h o)
    (ha : Accepted existing o stored)
    (hpath : recreating existing = true ∨ app.spec.celld.updateStrategy = .recreate)
    (hchange : stored.sspec.template ≠ existing.sspec.template ∨
      recreating existing = true ∧ recreating stored = false) :
    StartsAll r app v h existing stored := by
  rw [ha.template, ha.recreating] at hchange
  -- every write but the start keeps the template, and the annotation where it was set
  have hkeep : ∀ {P : Prop}, o.sspec.template = existing.sspec.template →
      (recreating existing = true → recreating o = true) → P := by
    intro P htemplate hmark
    rcases hchange with hne | ⟨hset, hclear⟩
    · exact absurd htemplate hne
    · rw [hmark hset] at hclear
      cases hclear
  have hoff : ∀ {P : Prop}, recreating existing = false → recreating existing = true → P := by
    intro P hidle hset
    rw [hidle] at hset
    cases hset
  cases hw with
  | rollingStart now idle changed rolling template pods =>
    rcases hpath with hset | hrecreate
    · exact hoff idle hset
    · exact absurd hrecreate rolling
  | rollout idle same write =>
    cases write with
    | clamp high => exact hkeep rfl (hoff idle)
    | release base partition now start gates clock =>
      obtain ⟨rfl, -, -⟩ := start.exact hk hmem gates.observed
      exact hkeep rfl (hoff idle)
  | scaleDown cause running => exact hkeep rfl fun _ => recreating_scaleToZero existing
  | scale idle same still drifted => exact hkeep rfl (hoff idle)
  | recreateStart cause stopped observed drained pods =>
    obtain ⟨pods, hlast, hnone⟩ := pods
    have hcount : (stsReplicas stored : Int) = desiredReplicas app := by
      rw [ha.replicas]
      exact Int.toNat_of_nonneg (by omega)
    exact
      { stopped, observed, drained
        empty := ⟨pods, hlast.saw, hnone⟩
        template := ⟨hash, hhash, ha.template⟩
        replicas := hcount
        positive := hreplicas
        partition := ha.partition
        cleared := ha.recreating.trans (recreating_startRecreated app existing _) }

end

/-! ## §4. Whole runs. -/

/-- **What others may do**: anything to pods, status and other objects.  They never set the
replicas of the StatefulSet to zero, and at zero they leave the recreate annotation alone. -/
structure LeavesMark (n : String) (c c' : Cluster) : Prop where
  later : c.Later c'
  fleet : ∀ s', c'.live .statefulSet n = some s' → stsReplicas s' = 0 →
    ∃ s, c.live .statefulSet n = some s ∧ stsReplicas s = 0 ∧
      annotationOf s' recreateAnnotation = annotationOf s recreateAnnotation

/-- Passes for the WorkerApp `name` with any accepted spec, cut off anywhere, amid others. -/
def recreateSystem (name : String) : System Api Cluster FleetPass (Except Err FleetOutcome) where
  serve := Serve
  during := LeavesMark (name ++ "-celld")
  between := LeavesMark (name ++ "-celld")
  job := fun j => reconcileFleet j.r j.app j.appVersion
  admits := fun _ j => j.app.name = name ∧ validateApp j.r j.app = .ok ()

/-- The live StatefulSet is marked if stopped. -/
def Marked (n : String) (c : Cluster) : Prop :=
  ∀ s, c.live .statefulSet n = some s → StopMarked s

theorem Marked.others {n : String} {c c' : Cluster} (hm : Marked n c) (ho : LeavesMark n c c') :
    Marked n c' := by
  intro s' hlive hzero
  obtain ⟨s, hs, hreplicas, hannotation⟩ := ho.fleet s' hlive hzero
  have hset := hm s hs hreplicas
  rw [recreating, hannotation]
  exact hset

/-- One answered call of a pass keeps the mark. -/
theorem Marked.call {r : Reconciler} {app : WorkerApp} {v : String} {h : Trace} {c c' : Cluster}
    {o : Op} {res : Resp o} (hm : Marked (fleetName app) c) (hk : Knows h c)
    (hreplicas : 1 ≤ desiredReplicas app) (he : FleetEvent r app v h ⟨o, res⟩)
    (hs : Serve c o res c') : Marked (fleetName app) c' := by
  have hmove := fleetMove_of_serve hk he hs
  generalize heq : (⟨o, res⟩ : Event Api) = e at hmove
  cases hmove with
  | idle same pods quiet =>
    intro s hlive
    refine hm s ?_
    unfold Cluster.live at hlive ⊢
    rw [← same]
    exact hlive
  | created hash stored absent made moved =>
    intro s hlive hzero
    have hname : stored.metadata.name = fleetName app := by
      rw [made.metadata]
      rfl
    rw [live_of_put moved hname] at hlive
    cases hlive
    have hcount : stsReplicas stored = (desiredReplicas app).toNat :=
      congrArg (fun spec : StatefulSetSpec => spec.replicas.getD 0) made.spec
    omega
  | wrote hash existing sent stored guards write first live accepted named moved =>
    intro s hlive
    rw [live_of_put moved named] at hlive
    cases hlive
    have hstop := write.stopMarked hk (Cluster.mem_past_of_live live) hreplicas (hm _ live)
    unfold StopMarked at hstop ⊢
    rw [accepted.replicas, accepted.recreating]
    exact hstop

/-- Before the fleet is created. -/
def Uncreated (name : String) (c : Cluster) : Prop :=
  c.live .statefulSet (name ++ "-celld") = none

instance (name : String) (c : Cluster) : Decidable (Uncreated name c) :=
  inferInstanceAs (Decidable (_ = _))

/-- Along every run. -/
theorem marked_reachable {name : String} {c : Cluster}
    (h : (recreateSystem name).Reachable (Uncreated name) c) : Marked (name ++ "-celld") c := by
  refine System.reachable_invariant ?_ ?_ h
  · intro c habsent s hlive
    cases habsent.symm.trans hlive
  · intro c c' hm hstep
    refine System.step_invariant
      (H := fun j h c => (j.app.name = name ∧ validateApp j.r j.app = .ok ()) ∧
        Knows h c ∧ Marked (name ++ "-celld") c)
      (fun _ j _ => reconcileFleet_valid j.r j.app j.appVersion) ?_ ?_ ?_ ?_ ?_ hm hstep
    · exact fun c c' hm ho => hm.others ho
    · exact fun c j hm ha => ⟨ha, knows_nil c, hm⟩
    · rintro j h c c' ⟨ha, hk, hm⟩ ho
      exact ⟨ha, hk.later ho.later, hm.others ho⟩
    · rintro j h c o res c' ⟨⟨rfl, hvalid⟩, hk, hm⟩ he hs
      exact ⟨⟨rfl, hvalid⟩, hk.serve hs, hm.call hk (one_le_desiredReplicas hvalid) he hs⟩
    · rintro j h c ⟨-, -, hm⟩
      exact hm

/-- **Stop all, then start.**  Along every run a fleet at zero replicas carries the annotation;
and whatever pass writes, on a fleet that carries it or under the Recreate strategy: a write
that changes the template or clears the annotation starts a stopped fleet. -/
theorem recreate_stops_then_starts (name : String) :
    (∀ c, (recreateSystem name).Reachable (Uncreated name) c →
      ∀ s, c.live .statefulSet (name ++ "-celld") = some s → stsReplicas s = 0 →
        recreating s = true) ∧
    (∀ j h c existing stored, validateApp j.r j.app = .ok () → WritesFleet j h c existing stored →
      (recreating existing = true ∨ j.app.spec.celld.updateStrategy = .recreate) →
      (stored.sspec.template ≠ existing.sspec.template ∨
        recreating existing = true ∧ recreating stored = false) →
      StartsAll j.r j.app j.appVersion h existing stored) := by
  refine ⟨fun c hr s hlive => marked_reachable hr s hlive, ?_⟩
  intro j h c existing stored hvalid hw hpath hchange
  obtain ⟨hash, o, hg, hwrite, hacc, hk⟩ := hw.inv
  exact hwrite.startsAll hk (hk.read _ _ _ hg.read) (one_le_desiredReplicas hvalid) hg.hashed hacc
    hpath hchange

/-! ## §5. A fleet stopped for v0.6.2 and started again. -/

/-- A pass in which every call succeeds. -/
def succeed (app : WorkerApp) (c : Cluster) : Cluster :=
  (runWith (answer {}) (reconcileFleet sampleReconciler app "1") c).2.1

theorem reachable_succeed {name : String} {c : Cluster}
    (hr : (recreateSystem name).Reachable (Uncreated name) c) (app : WorkerApp)
    (hname : app.name = name) (hvalid : validateApp sampleReconciler app = .ok ()) :
    (recreateSystem name).Reachable (Uncreated name) (succeed app c) :=
  hr.step (.job (j := ⟨sampleReconciler, app, "1"⟩) ⟨hname, hvalid⟩
    (exec_runWith (serve_answer {}) _ c))

/-- Created at v0.5.1, then scaled to zero. -/
def stoppedFleet : Cluster :=
  succeed (sampleApp "ghcr.io/denoland/celld:v0.6.2" .recreate)
    (succeed (sampleApp "ghcr.io/denoland/celld:v0.5.1" .rolling) Cluster.empty)

/-- The same after the spec was edited to Rolling and the controller has seen the stop. -/
def drainedFleet : Cluster :=
  (observe "shop-celld" ⟨stoppedFleet, { spec := { containers := [] } }⟩).cluster

theorem recreate_stops_then_starts_shop :
    (∃ s, stoppedFleet.live .statefulSet ("shop" ++ "-celld") = some s ∧ stsReplicas s = 0 ∧
      recreating s = true) ∧
    ∃ h c existing stored,
      WritesFleet ⟨sampleReconciler, sampleApp "ghcr.io/denoland/celld:v0.6.2" .rolling, "1"⟩ h c
        existing stored ∧
      StartsAll sampleReconciler (sampleApp "ghcr.io/denoland/celld:v0.6.2" .rolling) "1" h
        existing stored := by
  obtain ⟨hruns, hstarts⟩ := recreate_stops_then_starts "shop"
  constructor
  · have hempty : (recreateSystem "shop").Reachable (Uncreated "shop") Cluster.empty :=
      ⟨Cluster.empty, by decide, .refl⟩
    have hcreated := reachable_succeed hempty
      (sampleApp "ghcr.io/denoland/celld:v0.5.1" .rolling) rfl (by decide)
    have hr : (recreateSystem "shop").Reachable (Uncreated "shop") stoppedFleet :=
      reachable_succeed hcreated _ rfl (by decide)
    have hzero : (stoppedFleet.live .statefulSet ("shop" ++ "-celld")).map stsReplicas = some 0 := by
      decide +kernel
    obtain ⟨s, hs, hs0⟩ := Option.map_eq_some_iff.mp hzero
    exact ⟨s, hs, hs0, hruns _ hr s hs hs0⟩
  · obtain ⟨h, c, existing, stored, hw, hbefore, hafter⟩ := exists_writesFleet {}
      ⟨sampleReconciler, sampleApp "ghcr.io/denoland/celld:v0.6.2" .rolling, "1"⟩ drainedFleet
      (p := recreating) (q := fun s => !recreating s)
      (by decide +kernel) (by decide +kernel) (by decide +kernel)
    refine ⟨h, c, existing, stored, hw, hstarts _ _ _ _ _ (by decide) hw (.inl hbefore) ?_⟩
    exact .inr ⟨hbefore, by simpa using hafter⟩

end CelldOperator
