/-
  CelldOperator.Rollout.Healthy

  **A HEALTHY ROLLOUT IS COMPLETE AND ORDERED.**

  The environment does its part between any two passes: the StatefulSet
  controller observes the generation and brings every ordinal at or above the
  partition to the update revision, the pods are Ready and answer without a
  backlog, the clock passes the settle deadline, and no write conflicts.  Then a
  rolling-safe change of the template takes `N + 1` writes of a fleet of `N`: one
  at partition `N`, which moves no pod, and one for each partition `N - 1, …, 0`.

    • `changeTemplate_once`  — the first pass stores the template at partition `N`,
    • `releaseNext_once`     — a pass at partition `p + 1` stores partition `p`,
    • `HealthyPass.step`     — one pass, from one stage of the rollout to the next,
    • `HealthyRun.underway`  — the rest of the passes, by induction over the run,
    • `healthy_rollout`      — the writes of any number of passes.
-/
import CelldOperator.Pass.FixedCluster
import CelldOperator.Pass.FleetValid
import CelldOperator.Rollout.DurableReplicas
import Mathlib.Algebra.BigOperators.Group.List.Basic

namespace CelldOperator

open Effect Prog

/-! ## §1. What a trace does to the StatefulSet. -/

/-- The creations, updates and deletions of the StatefulSet, in order. -/
def fleetWrites (t : Trace) : List Op :=
  (t.map (·.op)).filter fun o => decide (o.writes = some .statefulSet)

/-- The stored copy after one event. -/
def storedBy (sts : StatefulSet) : Event Api → StatefulSet
  | ⟨.update .statefulSet _, .ok stored⟩ => stored
  | _ => sts

/-- The stored copy after the events. -/
def storedAfter (sts : StatefulSet) (t : Trace) : StatefulSet := t.foldl storedBy sts

/-- Along these events the StatefulSet is written once, and the write is accepted. -/
structure WritesOnce (sts : StatefulSet) (t : Trace) (o stored : StatefulSet) : Prop where
  writes : fleetWrites t = [.update .statefulSet o]
  leaves : storedAfter sts t = stored
  accepted : Accepted sts o stored

section

variable {sts o stored : StatefulSet} {t u : Trace}

theorem fleetWrites_append (t u : Trace) :
    fleetWrites (t ++ u) = fleetWrites t ++ fleetWrites u := by
  simp [fleetWrites]

theorem storedAfter_append (sts : StatefulSet) (t u : Trace) :
    storedAfter sts (t ++ u) = storedAfter (storedAfter sts t) u :=
  List.foldl_append

theorem SparesFleet.fleetWrites (h : SparesFleet t) : fleetWrites t = [] := by
  unfold CelldOperator.fleetWrites
  rw [List.filter_eq_nil_iff]
  intro o ho
  obtain ⟨e, he, rfl⟩ := List.mem_map.mp ho
  simpa using h e he

theorem SparesFleet.storedAfter (h : SparesFleet t) : storedAfter sts t = sts := by
  induction t with
  | nil => rfl
  | cons e t ih =>
    have he : storedBy sts e = sts := by
      have hno := h e (List.mem_cons_self ..)
      unfold storedBy
      split
      · exact absurd rfl hno
      · rfl
    show CelldOperator.storedAfter (storedBy sts e) t = sts
    rw [he]
    exact ih fun e' he' => h e' (List.mem_cons_of_mem _ he')

/-- What comes before the write does not matter, as long as it is none. -/
theorem WritesOnce.prepend (h : WritesOnce sts u o stored) (ht : SparesFleet t) :
    WritesOnce sts (t ++ u) o stored where
  writes := by rw [fleetWrites_append, ht.fleetWrites, h.writes, List.nil_append]
  leaves := by rw [storedAfter_append, ht.storedAfter, h.leaves]
  accepted := h.accepted

/-- Every write of the StatefulSet is accepted. -/
def AcceptsWrites (sts : StatefulSet) (t : Trace) : Prop :=
  ∀ o res, Saw t (.update .statefulSet o) res → ∃ stored, res = .ok stored ∧ Accepted sts o stored

/-- A write site whose write is accepted. -/
theorem writeFleet_once {app : WorkerApp} {next : StatefulSet → P (Except Err FleetOutcome)}
    {res : Except Err FleetOutcome} (hnext : ∀ stored, ReadsOnly (next stored))
    (haccepts : AcceptsWrites sts t) (ht : Runs (writeFleet app o next) t res) :
    ∃ stored, WritesOnce sts t o stored := by
  unfold writeFleet check updateFleet at ht
  obtain ⟨result, t₁, t₂, rfl, ht₁, ht₂⟩ := runs_bind.mp ht
  obtain ⟨answer, u₁, u₂, rfl, hu₁, hu₂⟩ := runs_bind.mp ht₁
  rw [runs_req.mp hu₁] at haccepts ⊢
  obtain ⟨stored, rfl, hstored⟩ := haccepts o answer
    (List.mem_append_left _ (List.mem_append_left _ (List.mem_singleton_self _)))
  obtain ⟨rfl, rfl⟩ := runs_ret.mp hu₂
  have hrest : SparesFleet t₂ := (hnext stored).spares ht₂
  refine ⟨stored, ?_, ?_, hstored⟩
  · rw [List.append_nil, fleetWrites_append, hrest.fleetWrites]
    rfl
  · rw [List.append_nil, storedAfter_append]
    exact hrest.storedAfter

end

/-! ## §2. The environment of a pass. -/

/-- What a pass finds: the live StatefulSet, the pods, and what each of them reports. -/
structure FleetScene where
  sts : StatefulSet
  pods : List Pod
  state : String → PodState

/-- The pod has been brought to the update revision; for the runtime checks it is the template. -/
structure RunsUpdate (sts : StatefulSet) (pod : Pod) : Prop where
  revision : pod.labels.get "controller-revision-hash" = sts.sstatus.updateRevision
  runtime : ∀ other,
    fleetBreakingReason pod.spec other = fleetBreakingReason sts.sspec.template.spec other

/-- **The environment has done its part** since the last pass. -/
structure FleetScene.Healthy (app : WorkerApp) (s : FleetScene) : Prop where
  named : s.sts.metadata.name = fleetName app
  observed : s.sts.sstatus.observedGeneration = s.sts.metadata.generation
  revised : s.sts.sstatus.updateRevision ≠ ""
  whole : Whole s.sts s.pods
  updated : ∀ pod ∈ s.pods, ∀ i, pod.name = ordinalName (fleetName app) i →
    stsPartition s.sts ≤ i → RunsUpdate s.sts pod
  warm : ∀ pod ∈ s.pods, (s.state pod.podIP).restoring = 0

/-- The pass is answered from the scene: reads as it stands, the clock past the settle deadline,
writes accepted. -/
structure SceneAnswers (lib : Lib) (app : WorkerApp) (s : FleetScene) (t : Trace) : Prop where
  lists : Lists app s.pods t
  gets : ∀ pod ∈ s.pods, ∀ res, Saw t (.getPod pod.name) res → res = .ok pod
  reports : Report s.state s.pods t
  settled : ∀ deadline now, lib.parseTime (annotationOf s.sts settleAnnotation) = some deadline →
    Saw t .now now → deadline ≤ now
  accepts : AcceptsWrites s.sts t

theorem SceneAnswers.sub {lib : Lib} {app : WorkerApp} {s : FleetScene} {t u : Trace}
    (h : SceneAnswers lib app s t) (hsub : ∀ e ∈ u, e ∈ t) : SceneAnswers lib app s u where
  lists := h.lists.sub hsub
  gets pod hpod res hsaw := h.gets pod hpod res (hsub _ hsaw)
  reports := h.reports.sub (fun _ hp => hp) hsub
  settled deadline now hd hsaw := h.settled deadline now hd (hsub _ hsaw)
  accepts o res hsaw := h.accepts o res (hsub _ hsaw)

/-! ## §3. The gates open. -/

section

variable {r : Reconciler} {app : WorkerApp} {s : FleetScene} {t : Trace}

/-- The settle gate, with the clock past the deadline. -/
theorem settleWait_passes {left : Option Time} (ha : SceneAnswers r.lib app s t)
    (ht : Runs (settleWait r.lib s.sts) t left) : left = none := by
  unfold settleWait at ht
  split at ht
  · exact (runs_ret.mp ht).2.symm
  · next deadline hdeadline =>
    obtain ⟨now, t₁, t₂, rfl, ht₁, ht₂⟩ := runs_bind.mp ht
    have hle : deadline ≤ now := by
      rw [runs_req.mp ht₁] at ha
      exact ha.settled deadline now hdeadline
        (List.mem_append_left _ (List.mem_singleton_self _))
    rw [if_neg (not_lt.mpr hle)] at ht₂
    exact (runs_ret.mp ht₂).2.symm

/-- The ordinals of the fleet are its pods. -/
theorem FleetScene.Healthy.pod_of_ordinal (hh : s.Healthy app) {i : Nat}
    (hi : i < stsReplicas s.sts) : ∃ pod ∈ s.pods, pod.name = ordinalName (fleetName app) i := by
  have hmem : ordinalName s.sts.metadata.name i ∈ s.pods.map (·.name) := by
    rw [hh.whole.names.mem_iff]
    exact List.mem_map_of_mem (List.mem_range.mpr hi)
  obtain ⟨pod, hpod, hname⟩ := List.mem_map.mp hmem
  rw [hh.named] at hname
  exact ⟨pod, hpod, hname⟩

/-- Gate 1, with every released ordinal at the update revision and Ready. -/
theorem checkReleased_passes {ords : List Nat} (hh : s.Healthy app)
    (hords : ∀ i ∈ ords, stsPartition s.sts ≤ i ∧ i < stsReplicas s.sts) :
    ∀ {t : Trace} {blocked : Option (String × Option Err)}, SceneAnswers r.lib app s t →
      Runs (checkReleased app s.sts.sstatus.updateRevision ords) t blocked → blocked = none := by
  induction ords with
  | nil =>
    intro t blocked _ ht
    exact (runs_ret.mp ht).2.symm
  | cons i ords ih =>
    intro t blocked ha ht
    obtain ⟨hle, hlt⟩ := hords i (List.mem_cons_self ..)
    obtain ⟨pod, hpod, hname⟩ := hh.pod_of_ordinal hlt
    unfold checkReleased at ht
    rw [← hname] at ht
    obtain ⟨read, t₁, t₂, rfl, ht₁, ht₂⟩ := runs_bind.mp ht
    have hread : read = .ok pod := by
      rw [runs_req.mp ht₁] at ha
      exact ha.gets pod hpod read (List.mem_append_left _ (List.mem_singleton_self _))
    subst hread
    have hrevision := (hh.updated pod hpod i hname hle).revision
    have hready := hh.whole.ready pod hpod
    dsimp only at ht₂
    rw [if_neg (not_not.mpr hrevision), hready, if_neg (by decide)] at ht₂
    exact ih (fun j hj => hords j (List.mem_cons_of_mem _ hj))
      (ha.sub fun e he => List.mem_append_right _ he) ht₂

/-- Gate 2, with every pod reporting no backlog. -/
theorem observeFleet_warm {sweep : Sweep} (hh : s.Healthy app) (ha : SceneAnswers r.lib app s t)
    (ht : Runs (observeFleet app s.sts) t sweep) : sweep.err = none ∧ sweep.restoring = 0 := by
  obtain ⟨herr, hsum, -⟩ := observeFleet_ok hh.whole ha.reports ha.lists ht
  refine ⟨herr, ?_⟩
  -- a sum of zeros, so nothing wraps
  have hzero : (s.pods.map fun pod => (s.state pod.podIP).restoring).sum = 0 := by
    refine List.sum_eq_zero fun x hx => ?_
    obtain ⟨pod, hpod, rfl⟩ := List.mem_map.mp hx
    exact hh.warm pod hpod
  rw [hsum]
  unfold backlog
  rw [hzero]
  rfl

/-- **One more ordinal is released.** -/
theorem releaseNext_once {res : Except Err FleetOutcome} (hh : s.Healthy app)
    (ha : SceneAnswers r.lib app s t) (hpos : stsPartition s.sts ≠ 0)
    (ht : Runs (releaseNext r app s.sts (stsPartition s.sts) (stsReplicas s.sts)) t res) :
    ∃ settle stored,
      WritesOnce s.sts t (releaseOrdinal s.sts (stsPartition s.sts - 1) settle) stored := by
  unfold releaseNext at ht
  dsimp only at ht
  rw [if_neg (not_or.mpr ⟨hpos, not_not.mpr hh.observed⟩)] at ht
  -- the settle interval is over
  obtain ⟨left, t₁, v₁, rfl, ht₁, hv₁⟩ := runs_bind.mp ht
  have hleft := settleWait_passes (ha.sub fun e he => List.mem_append_left _ he) ht₁
  subst hleft
  have ha₁ : SceneAnswers r.lib app s v₁ := ha.sub fun e he => List.mem_append_right _ he
  have hsp₁ := (settleWait_reads r.lib s.sts).spares ht₁
  dsimp only at hv₁
  rw [if_neg hh.revised] at hv₁
  -- gate 1: the ordinals released so far
  obtain ⟨blocked, t₂, v₂, rfl, ht₂, hv₂⟩ := runs_bind.mp hv₁
  have hords : ∀ i ∈ releasedOrdinals (stsPartition s.sts) (stsReplicas s.sts),
      stsPartition s.sts ≤ i ∧ i < stsReplicas s.sts := by
    intro i hi
    have hrange := List.mem_range'_1.mp hi
    omega
  have hblocked := checkReleased_passes hh hords (ha₁.sub fun e he => List.mem_append_left _ he) ht₂
  subst hblocked
  have ha₂ : SceneAnswers r.lib app s v₂ := ha₁.sub fun e he => List.mem_append_right _ he
  have hsp₂ := (checkReleased_reads app _ _).spares ht₂
  dsimp only at hv₂
  -- gate 2: the whole fleet
  obtain ⟨sweep, t₃, v₃, rfl, ht₃, hv₃⟩ := runs_bind.mp hv₂
  obtain ⟨herr, hwarm⟩ := observeFleet_warm hh (ha₂.sub fun e he => List.mem_append_left _ he) ht₃
  have ha₃ : SceneAnswers r.lib app s v₃ := ha₂.sub fun e he => List.mem_append_right _ he
  have hsp₃ := (observeFleet_reads app s.sts).spares ht₃
  rw [if_neg (not_or.mpr ⟨not_not.mpr herr, not_not.mpr hwarm⟩)] at hv₃
  -- the next deadline is read off the clock, and the release is the only write
  obtain ⟨now, t₄, v₄, rfl, ht₄, hv₄⟩ := runs_bind.mp hv₃
  have hsp₄ : SparesFleet t₄ := ReadsOnly.spares (confined_read rfl rfl) ht₄
  obtain ⟨stored, hstored⟩ := writeFleet_once (fun _ => confined_pure _)
    (ha₃.sub fun e he => List.mem_append_right _ he).accepts hv₄
  exact ⟨_, stored, (((hstored.prepend hsp₄).prepend hsp₃).prepend hsp₂).prepend hsp₁⟩

/-- Nothing against any pod is nothing against the fleet. -/
theorem podsBreakingReason_none {existing desired : StatefulSet} {pods : List Pod}
    (h : ∀ pod ∈ pods, fleetBreakingReason pod.spec desired.sspec.template.spec = "") :
    podsBreakingReason existing desired pods = "" := by
  induction pods with
  | nil => rfl
  | cons pod pods ih =>
    have hrest := ih fun p hp => h p (List.mem_cons_of_mem _ hp)
    unfold podsBreakingReason
    split
    · exact hrest
    · dsimp only
      rw [if_neg (not_not.mpr (h pod (List.mem_cons_self ..)))]
      exact hrest

/-- At partition 0 every pod runs the template that is being replaced, so the check of the live
fleet finds what the check of that template finds. -/
theorem liveFleetBreakingReason_safe {desired : StatefulSet} {res : Except Err String}
    (hh : s.Healthy app) (ha : SceneAnswers r.lib app s t) (hzero : stsPartition s.sts = 0)
    (hsafe : fleetBreakingReason s.sts.sspec.template.spec desired.sspec.template.spec = "")
    (ht : Runs (liveFleetBreakingReason app s.sts desired) t res) : res = .ok "" := by
  have hpods : ∀ pod ∈ s.pods, fleetBreakingReason pod.spec desired.sspec.template.spec = "" := by
    intro pod hpod
    have hname : pod.name ∈ ordinalNames s.sts.metadata.name (stsReplicas s.sts) :=
      hh.whole.names.mem_iff.mp (List.mem_map_of_mem hpod)
    obtain ⟨i, -, hi⟩ := List.mem_map.mp hname
    rw [hh.named] at hi
    rw [(hh.updated pod hpod i hi.symm (by omega)).runtime]
    exact hsafe
  -- the template passes, so the pods are listed
  unfold liveFleetBreakingReason check at ht
  dsimp only at ht
  rw [if_neg (not_not.mpr hsafe)] at ht
  obtain ⟨listed, t₁, t₂, rfl, ht₁, ht₂⟩ := runs_bind.mp ht
  rw [runs_req.mp ht₁] at ha
  obtain ⟨l, rfl, hperm⟩ := ha.lists listed (List.mem_append_left _ (List.mem_singleton_self _))
  have hres := (runs_ret.mp ht₂).2
  rw [podsBreakingReason_none fun pod hpod => hpods pod (hperm.mem_iff.mp hpod)] at hres
  exact hres.symm

/-- **The new template is stored, frozen at the replica count.** -/
theorem changeTemplate_once {desired : StatefulSet} {res : Except Err FleetOutcome}
    (hh : s.Healthy app) (ha : SceneAnswers r.lib app s t) (hzero : stsPartition s.sts = 0)
    (hrolling : app.spec.celld.updateStrategy ≠ .recreate)
    (hsafe : fleetBreakingReason s.sts.sspec.template.spec desired.sspec.template.spec = "")
    (ht : Runs (changeTemplate r app s.sts desired) t res) :
    ∃ settle stored, WritesOnce s.sts t (startRolling s.sts desired settle) stored := by
  unfold changeTemplate check at ht
  obtain ⟨breaking, t₁, v₁, rfl, ht₁, hv₁⟩ := runs_bind.mp ht
  have hbreaking := liveFleetBreakingReason_safe hh
    (ha.sub fun e he => List.mem_append_left _ he) hzero hsafe ht₁
  subst hbreaking
  have hsp₁ := (liveFleetBreakingReason_reads app s.sts desired).spares ht₁
  dsimp only at hv₁
  rw [if_neg fun h => h.1 rfl, if_neg hrolling] at hv₁
  obtain ⟨now, t₂, v₂, rfl, ht₂, hv₂⟩ := runs_bind.mp hv₁
  have hsp₂ : SparesFleet t₂ := ReadsOnly.spares (confined_read rfl rfl) ht₂
  obtain ⟨stored, hstored⟩ := writeFleet_once (fun _ => confined_pure _)
    (ha.sub fun e he => List.mem_append_right _ (List.mem_append_right _ he)).accepts hv₂
  exact ⟨_, stored, (hstored.prepend hsp₂).prepend hsp₁⟩

/-- A fleet of the right size is only looked at. -/
theorem steadyFleet_reads {existing : StatefulSet} (hsize : replicasDrifted app existing = false)
    (version : String) : ReadsOnly (steadyFleet app existing version) := by
  unfold steadyFleet
  rw [hsize, if_neg (by decide)]
  split
  · exact confined_pure _
  · refine confined_bind (observeFleet_reads _ _) fun sweep => ?_
    split
    · exact confined_pure _
    · refine confined_bind (confined_read rfl rfl) fun states => ?_
      split <;> exact confined_pure _

end

/-! ## §4. The stages of a rollout. -/

section

variable {r : Reconciler} {app : WorkerApp} {existing desired sts sts' : StatefulSet} {N : Nat}

/-- What no write of a rollout changes: the fleet is ours, is not being recreated, and has the
size it should have. -/
structure Sized (app : WorkerApp) (N : Nat) (sts : StatefulSet) : Prop where
  owned : requireOwnership app sts = .ok ()
  replicas : stsReplicas sts = N
  size : replicasDrifted app sts = false
  idle : recreating sts = false

/-- **Before the rollout**: a converged fleet, and a rolling-safe change of its template. -/
structure Converged (app : WorkerApp) (desired : StatefulSet) (N : Nat) (sts : StatefulSet) : Prop
    extends Sized app N sts where
  released : stsPartition sts = 0
  changed : templateChanged sts desired = true
  permitted : runtimeChangeRefusal app (stsContainerImage sts.sspec.template.spec) = ""
  safe : fleetBreakingReason sts.sspec.template.spec desired.sspec.template.spec = ""

/-- **Under way**: the new template is stored, at partition `p`. -/
structure Underway (app : WorkerApp) (desired : StatefulSet) (N p : Nat) (sts : StatefulSet) : Prop
    extends Sized app N sts where
  bound : p ≤ N
  partition : stsPartition sts = p
  template : sts.sspec.template = desired.sspec.template
  hash : annotationOf sts templateHashAnnotation = annotationOf desired templateHashAnnotation

/-- Two copies with the same spec, owners and annotations are at the same stage. -/
structure SameStage (sts sts' : StatefulSet) : Prop where
  spec : sts'.spec = sts.spec
  owners : sts'.metadata.ownerReferences = sts.metadata.ownerReferences
  annotations : sts'.metadata.annotations = sts.metadata.annotations

theorem Reported.sameStage (h : Reported sts sts') : SameStage sts sts' where
  spec := h.spec
  owners := by rw [h.metadata]
  annotations := by rw [h.metadata]

/-- The server stores what was sent. -/
theorem Accepted.sameStage {cur sent stored : StatefulSet} (h : Accepted cur sent stored) :
    SameStage sent stored where
  spec := h.spec
  owners := by rw [h.metadata]
  annotations := by rw [h.metadata]

theorem SameStage.owned (h : SameStage sts sts') (howned : requireOwnership app sts = .ok ()) :
    requireOwnership app sts' = .ok () := by
  unfold requireOwnership at howned ⊢
  rw [h.owners]
  split at howned
  · next hc => rw [if_pos hc]
  · cases howned

theorem SameStage.sized (h : SameStage sts sts') (hs : Sized app N sts) : Sized app N sts' := by
  have hspec : sts'.sspec = sts.sspec := h.spec
  have hreplicas : stsReplicas sts' = stsReplicas sts := by
    unfold stsReplicas
    rw [hspec]
  refine ⟨h.owned hs.owned, hreplicas.trans hs.replicas, ?_, ?_⟩
  · have hsize := hs.size
    unfold replicasDrifted at hsize ⊢
    rw [hreplicas]
    exact hsize
  · have hidle := hs.idle
    unfold recreating annotationOf at hidle ⊢
    rw [h.annotations]
    exact hidle

theorem SameStage.converged (h : SameStage sts sts') (hc : Converged app desired N sts) :
    Converged app desired N sts' := by
  have hspec : sts'.sspec = sts.sspec := h.spec
  refine ⟨h.sized hc.toSized, ?_, ?_, ?_, ?_⟩
  · have hreleased := hc.released
    unfold stsPartition at hreleased ⊢
    rw [hspec]
    exact hreleased
  · have hchanged := hc.changed
    unfold templateChanged annotationOf at hchanged ⊢
    rw [h.annotations]
    exact hchanged
  · rw [hspec]
    exact hc.permitted
  · rw [hspec]
    exact hc.safe

theorem SameStage.underway {p : Nat} (h : SameStage sts sts') (hu : Underway app desired N p sts) :
    Underway app desired N p sts' := by
  have hspec : sts'.sspec = sts.sspec := h.spec
  refine ⟨h.sized hu.toSized, hu.bound, ?_, ?_, ?_⟩
  · have hpartition := hu.partition
    unfold stsPartition at hpartition ⊢
    rw [hspec]
    exact hpartition
  · rw [hspec]
    exact hu.template
  · have hhash := hu.hash
    unfold annotationOf at hhash ⊢
    rw [h.annotations]
    exact hhash

/-- The start puts the rollout at partition `N`. -/
theorem Converged.startRolling (hc : Converged app desired N sts) (settle : String) :
    Underway app desired N N (startRolling sts desired settle) := by
  refine ⟨⟨hc.owned, hc.replicas, hc.size, ?_⟩, le_refl N, hc.replicas, rfl, startRolling_hash ..⟩
  have hkeep : annotationOf (CelldOperator.startRolling sts desired settle) recreateAnnotation =
      annotationOf sts recreateAnnotation :=
    (StrMap.get_insert_of_ne _ settle (by decide)).trans
      (StrMap.get_insert_of_ne _ _ (by decide))
  unfold recreating
  rw [hkeep]
  exact hc.idle

/-- A release puts it one ordinal further. -/
theorem Underway.releaseOrdinal {p : Nat} (hu : Underway app desired N (p + 1) sts)
    (settle : String) : Underway app desired N p (releaseOrdinal sts p settle) := by
  have hkeep : ∀ key, key ≠ settleAnnotation →
      annotationOf (CelldOperator.releaseOrdinal sts p settle) key = annotationOf sts key :=
    fun key hkey => annotationOf_releaseOrdinal sts p settle hkey
  refine ⟨⟨hu.owned, hu.replicas, hu.size, ?_⟩, Nat.le_of_succ_le hu.bound, rfl, hu.template, ?_⟩
  · unfold recreating
    rw [hkeep recreateAnnotation (by decide)]
    exact hu.idle
  · rw [hkeep templateHashAnnotation (by decide)]
    exact hu.hash

end

/-! ## §5. One pass. -/

/-- A pass that `reconcileFleet` makes over the scene: it is answered from it, the Secrets come to
the config hash, and the scaler says whether the pause is confirmed. -/
structure HealthyPass (r : Reconciler) (app : WorkerApp) (version hash : String) (s : FleetScene)
    (paused : Bool) (t : Trace) : Prop where
  healthy : s.Healthy app
  answers : SceneAnswers r.lib app s t
  returns : ∃ res, Runs (reconcileFleet r app version) t res
  awaits : ∃ t₁ t₂ t₃,
    t = t₁ ++ ⟨.getLive .statefulSet (fleetName app), .ok s.sts⟩ :: (t₂ ++ t₃) ∧
    Runs (configHash r app) t₁ (.ok hash) ∧
    Runs (awaitPause r app s.sts (desiredFleet r app hash version)) t₂ (.ok paused)

/-- The runtime does not object to the image it is to run. -/
theorem runtimeChangeRefusal_same (app : WorkerApp) :
    runtimeChangeRefusal app app.spec.celld.image = "" := by
  unfold runtimeChangeRefusal
  cases minorOf app.spec.celld.image with
  | none => simp
  | some v =>
    have hfloor : ¬ (0 ≤ v.cmp ⟨0, 3⟩ ∧ v.cmp ⟨0, 3⟩ < 0) := by omega
    simp [hfloor]

section

variable {r : Reconciler} {app : WorkerApp} {version hash : String} {s : FleetScene}
  {paused : Bool} {t : Trace} {N : Nat}

/-- Up to the confirmed pause nothing is written; behind it the pass drives the fleet. -/
theorem reconcileFleet_parts {sts : StatefulSet} (howned : requireOwnership app sts = .ok ())
    (hreturns : ∃ res, Runs (reconcileFleet r app version) t res)
    (hawaits : ∃ t₁ t₂ t₃, t = t₁ ++ ⟨.getLive .statefulSet (fleetName app), .ok sts⟩ :: (t₂ ++ t₃) ∧
      Runs (configHash r app) t₁ (.ok hash) ∧
      Runs (awaitPause r app sts (desiredFleet r app hash version)) t₂ (.ok paused)) :
    ∃ before u res, t = before ++ u ∧ SparesFleet before ∧
      Runs (if paused then driveFleet r app sts (desiredFleet r app hash version) version
        else pure (.ok pauseWaitOutcome)) u res := by
  obtain ⟨res, hres⟩ := hreturns
  obtain ⟨t₁, t₂, t₃, rfl, hhash, hpause⟩ := hawaits
  rw [reconcileFleet_read_iff hhash, reconcileExisting_eq howned, runs_check_ok hpause] at hres
  have hsp₁ := (configHash_reads r app).spares hhash
  have hsp₂ : SparesFleet t₂ := awaitPause_confined.spares (by decide) hpause
  have hread : SparesFleet [⟨.getLive .statefulSet (fleetName app), .ok sts⟩] := by
    simp [SparesFleet, Op.writes]
  exact ⟨t₁ ++ [⟨.getLive .statefulSet (fleetName app), .ok sts⟩] ++ t₂, t₃, res, by simp,
    (hsp₁.append hread).append hsp₂, hres⟩

/-- A pass whose pause is not confirmed writes nothing. -/
theorem HealthyPass.waits (hp : HealthyPass r app version hash s false t)
    (hs : Sized app N s.sts) : SparesFleet t := by
  obtain ⟨before, u, res, rfl, hbefore, hu⟩ := reconcileFleet_parts hs.owned hp.returns hp.awaits
  rw [if_neg (by decide)] at hu
  obtain ⟨rfl, -⟩ := runs_ret.mp hu
  rw [List.append_nil]
  exact hbefore

/-- The first pass behind the pause starts the rollout. -/
theorem HealthyPass.starts (hp : HealthyPass r app version hash s true t)
    (hc : Converged app (desiredFleet r app hash version) N s.sts)
    (hrolling : app.spec.celld.updateStrategy ≠ .recreate) : ∃ settle stored,
      WritesOnce s.sts t (startRolling s.sts (desiredFleet r app hash version) settle) stored := by
  obtain ⟨before, u, res, rfl, hbefore, hu⟩ := reconcileFleet_parts hc.owned hp.returns hp.awaits
  have ha := hp.answers.sub (u := u) fun e he => List.mem_append_right _ he
  rw [if_pos rfl] at hu
  unfold driveFleet at hu
  dsimp only at hu
  rw [if_neg (not_not.mpr hc.permitted), hc.idle, if_neg (by decide), if_pos hc.changed] at hu
  obtain ⟨settle, stored, hw⟩ :=
    changeTemplate_once hp.healthy ha hc.released hrolling hc.safe hu
  exact ⟨settle, stored, hw.prepend hbefore⟩

/-- Once the template is stored, the pass is a rolling step, or a look at the finished fleet. -/
theorem HealthyPass.continues {p : Nat} (hp : HealthyPass r app version hash s true t)
    (hu : Underway app (desiredFleet r app hash version) N p s.sts) : ∃ before u res,
      t = before ++ u ∧ SparesFleet before ∧ SceneAnswers r.lib app s u ∧
      Runs (if 0 < stsPartition s.sts then rolloutStep r app s.sts
        else steadyFleet app s.sts version) u res := by
  obtain ⟨before, u, res, rfl, hbefore, hrun⟩ := reconcileFleet_parts hu.owned hp.returns hp.awaits
  have ha := hp.answers.sub (u := u) fun e he => List.mem_append_right _ he
  have hpermitted : runtimeChangeRefusal app (stsContainerImage s.sts.sspec.template.spec) = "" := by
    rw [hu.template]
    exact runtimeChangeRefusal_same app
  have hsame : templateChanged s.sts (desiredFleet r app hash version) = false := by
    unfold templateChanged
    rw [hu.hash]
    simp
  -- the hash is the desired one, so the branch for a changed template is not entered again
  rw [if_pos rfl] at hrun
  unfold driveFleet at hrun
  dsimp only at hrun
  rw [if_neg (not_not.mpr hpermitted), hu.idle, if_neg (by decide), hsame,
    if_neg (by decide)] at hrun
  exact ⟨before, u, res, rfl, hbefore, ha, hrun⟩

/-- A pass under way releases the next ordinal. -/
theorem HealthyPass.releases {p : Nat} (hp : HealthyPass r app version hash s true t)
    (hu : Underway app (desiredFleet r app hash version) N (p + 1) s.sts) :
    ∃ settle stored, WritesOnce s.sts t (releaseOrdinal s.sts p settle) stored := by
  obtain ⟨before, u, res, rfl, hbefore, ha, hrun⟩ := hp.continues hu
  have hpos : 0 < stsPartition s.sts := by
    rw [hu.partition]
    omega
  have hclamp : ¬ stsReplicas s.sts < stsPartition s.sts := by
    rw [hu.partition, hu.replicas]
    exact not_lt.mpr hu.bound
  rw [if_pos hpos] at hrun
  unfold rolloutStep at hrun
  rw [if_neg hclamp] at hrun
  obtain ⟨settle, stored, hw⟩ := releaseNext_once hp.healthy ha hpos.ne' hrun
  rw [hu.partition] at hw
  exact ⟨settle, stored, hw.prepend hbefore⟩

/-- A pass over the finished rollout writes nothing. -/
theorem HealthyPass.rests (hp : HealthyPass r app version hash s true t)
    (hu : Underway app (desiredFleet r app hash version) N 0 s.sts) : SparesFleet t := by
  obtain ⟨before, u, res, rfl, hbefore, -, hrun⟩ := hp.continues hu
  rw [hu.partition, if_neg (by decide)] at hrun
  exact hbefore.append ((steadyFleet_reads hu.size version).spares hrun)

end

/-! ## §6. The run. -/

/-- **Passes in a healthy environment**, each with whether its pause was confirmed and what it
exchanged.  Between two passes only the status of the StatefulSet changes. -/
inductive HealthyRun (r : Reconciler) (app : WorkerApp) (version hash : String) :
    StatefulSet → List (Bool × Trace) → StatefulSet → Prop where
  | idle (sts : StatefulSet) : HealthyRun r app version hash sts [] sts
  | pass {sts final : StatefulSet} {s : FleetScene} {paused : Bool} {t : Trace}
      {passes : List (Bool × Trace)} (reported : Reported sts s.sts)
      (pass : HealthyPass r app version hash s paused t)
      (rest : HealthyRun r app version hash (storedAfter s.sts t) passes final) :
      HealthyRun r app version hash sts ((paused, t) :: passes) final

/-- Partition, size and template of a written StatefulSet. -/
def writtenFleet : Op → Option (Nat × Nat × PodTemplate)
  | .update .statefulSet o => some (stsPartition o, stsReplicas o, o.sspec.template)
  | _ => none

/-- What the passes write of the StatefulSet, in order. -/
def rolloutWrites (passes : List (Bool × Trace)) : List (Option (Nat × Nat × PodTemplate)) :=
  (passes.flatMap fun pass => fleetWrites pass.2).map writtenFleet

/-- How many of the passes had their pause confirmed. -/
def confirmedPasses (passes : List (Bool × Trace)) : Nat := passes.countP (·.1)

/-- The writes that bring the template to a fleet of `N` from below partition `p`: one at each
partition `p - 1, …, 0`. -/
def downFrom (template : PodTemplate) (N p : Nat) : List (Option (Nat × Nat × PodTemplate)) :=
  (List.range p).reverse.map fun i => some (i, N, template)

theorem downFrom_succ (template : PodTemplate) (N p : Nat) :
    downFrom template N (p + 1) = some (p, N, template) :: downFrom template N p := by
  simp [downFrom, List.range_succ]

section

variable {r : Reconciler} {app : WorkerApp} {version hash : String} {sts final : StatefulSet}
  {N : Nat} {paused : Bool} {t : Trace} {passes : List (Bool × Trace)}

theorem rolloutWrites_spared (ht : SparesFleet t) :
    rolloutWrites ((paused, t) :: passes) = rolloutWrites passes := by
  simp [rolloutWrites, ht.fleetWrites]

theorem rolloutWrites_once {o stored : StatefulSet} (ht : WritesOnce sts t o stored) :
    rolloutWrites ((paused, t) :: passes) =
      some (stsPartition o, stsReplicas o, o.sspec.template) :: rolloutWrites passes := by
  simp [rolloutWrites, ht.writes, writtenFleet]

theorem confirmedPasses_true :
    confirmedPasses ((true, t) :: passes) = confirmedPasses passes + 1 := by
  simp [confirmedPasses]

theorem confirmedPasses_false :
    confirmedPasses ((false, t) :: passes) = confirmedPasses passes := by
  simp [confirmedPasses]

/-- **From partition `p` on.**  The induction is over the run; the partition goes down with every
confirmed pass, and stays at 0. -/
theorem HealthyRun.underway (hrun : HealthyRun r app version hash sts passes final) : ∀ {p : Nat},
    Underway app (desiredFleet r app hash version) N p sts →
    rolloutWrites passes =
        (downFrom (desiredFleet r app hash version).sspec.template N p).take
          (confirmedPasses passes) ∧
      Underway app (desiredFleet r app hash version) N (p - confirmedPasses passes) final := by
  induction hrun with
  | idle sts =>
    intro p hu
    exact ⟨by simp [rolloutWrites, confirmedPasses], by simpa [confirmedPasses] using hu⟩
  | @pass sts final s paused t passes hreported hpass hrest ih =>
    intro p hu
    have hs := hreported.sameStage.underway hu
    cases paused with
    | false =>
      have hspares := hpass.waits hs.toSized
      rw [hspares.storedAfter] at ih
      rw [rolloutWrites_spared hspares, confirmedPasses_false]
      exact ih hs
    | true =>
      rw [confirmedPasses_true]
      cases p with
      | zero =>
        -- finished: the pass is a look at the fleet
        have hspares := hpass.rests hs
        rw [hspares.storedAfter] at ih
        obtain ⟨hwrites, hfinal⟩ := ih hs
        rw [rolloutWrites_spared hspares, hwrites]
        refine ⟨by simp [downFrom], ?_⟩
        rw [Nat.zero_sub] at hfinal ⊢
        exact hfinal
      | succ p =>
        -- one ordinal further; what the server stored is what was sent
        obtain ⟨settle, stored, hwrite⟩ := hpass.releases hs
        have hnext := hwrite.accepted.sameStage.underway (hs.releaseOrdinal settle)
        rw [hwrite.leaves] at ih
        obtain ⟨hwrites, hfinal⟩ := ih hnext
        refine ⟨?_, by rwa [Nat.add_sub_add_right]⟩
        rw [rolloutWrites_once hwrite, hwrites, downFrom_succ, List.take_succ_cons]
        show some (p, stsReplicas s.sts, s.sts.sspec.template) :: _ = _
        rw [hs.replicas, hs.template]

end

/-- **A healthy rollout is complete and ordered.**  `N` is the size of the fleet.  Passes that
wait for the pause write nothing; the confirmed ones write the new template at partition `N`, then
at `N - 1, …, 0`, once each.  From then on the stored template and hash are the desired ones, and
whatever passes follow, there is no other write. -/
theorem healthy_rollout (r : Reconciler) (app : WorkerApp) (version hash : String) (N : Nat)
    (existing final : StatefulSet) (passes : List (Bool × Trace))
    (hrolling : app.spec.celld.updateStrategy ≠ .recreate)
    (hconverged : Converged app (desiredFleet r app hash version) N existing)
    (hrun : HealthyRun r app version hash existing passes final) :
    let desired := desiredFleet r app hash version
    rolloutWrites passes =
        (downFrom desired.sspec.template N (N + 1)).take (confirmedPasses passes) ∧
      (N < confirmedPasses passes →
        rolloutWrites passes = downFrom desired.sspec.template N (N + 1) ∧
        final.sspec.template = desired.sspec.template ∧
        annotationOf final templateHashAnnotation = annotationOf desired templateHashAnnotation ∧
        stsPartition final = 0) := by
  intro desired
  -- up to the first confirmed pass the fleet stays converged
  have hmain : rolloutWrites passes =
        (downFrom desired.sspec.template N (N + 1)).take (confirmedPasses passes) ∧
      (0 < confirmedPasses passes →
        Underway app desired N (N + 1 - confirmedPasses passes) final) := by
    induction hrun with
    | idle sts => exact ⟨by simp [rolloutWrites, confirmedPasses], by simp [confirmedPasses]⟩
    | @pass sts final s paused t passes hreported hpass hrest ih =>
      have hc := hreported.sameStage.converged hconverged
      cases paused with
      | false =>
        have hspares := hpass.waits hc.toSized
        rw [hspares.storedAfter] at ih
        rw [rolloutWrites_spared hspares, confirmedPasses_false]
        exact ih hc
      | true =>
        -- from here on the template is the desired one, and the rollout is under way
        obtain ⟨settle, stored, hwrite⟩ := hpass.starts hc hrolling
        have hnext := hwrite.accepted.sameStage.underway (hc.startRolling settle)
        rw [hwrite.leaves] at hrest
        obtain ⟨hwrites, hfinal⟩ := hrest.underway hnext
        rw [confirmedPasses_true, Nat.add_sub_add_right]
        refine ⟨?_, fun _ => hfinal⟩
        rw [rolloutWrites_once hwrite, hwrites, downFrom_succ, List.take_succ_cons]
        show some (stsReplicas s.sts, stsReplicas s.sts, desired.sspec.template) :: _ = _
        rw [hc.replicas]
  obtain ⟨hwrites, hfinal⟩ := hmain
  refine ⟨hwrites, fun hdone => ?_⟩
  have hlen : (downFrom desired.sspec.template N (N + 1)).length ≤ confirmedPasses passes := by
    unfold downFrom
    rw [List.length_map, List.length_reverse, List.length_range]
    exact hdone
  rw [List.take_of_length_le hlen] at hwrites
  have hu := hfinal (by omega)
  rw [Nat.sub_eq_zero_of_le hdone] at hu
  exact ⟨hwrites, hu.template, hu.hash, hu.partition⟩

/-! ## §7. Scenes. -/

/-- What a pod without a backlog reports. -/
def idleState : PodState := { deployment := some ⟨"1", 1, 0, 0⟩ }

/-- Answers from the scene, at this time. -/
def sceneAnswers (now : Time) (s : FleetScene) : Answers
  | .now => now
  | .getLive .statefulSet _ => .ok s.sts
  | .update .statefulSet sent => .ok (acceptUpdate Cluster.empty s.sts sent)
  | .listPods _ => if h : s.pods.length < 2 ^ 31 then .ok ⟨s.pods, h⟩ else .error (.other "")
  | .getPod n => ((s.pods.find? (·.name == n)).map Except.ok).getD (.error (.notFound ""))
  | .getState _ => .ok (sampleState "1" 0)
  | o => (answer {} Cluster.empty o).1

/-- The pass over the scene, part by part. -/
def scenePass (r : Reconciler) (app : WorkerApp) (now : Time) (s : FleetScene) : Trace :=
  (runAnswers (sceneAnswers now s) (configHash r app)).1 ++
    ⟨.getLive .statefulSet (fleetName app), .ok s.sts⟩ ::
      ((runAnswers (sceneAnswers now s) (awaitPause r app s.sts (desiredFleet r app "" "1"))).1 ++
        (runAnswers (sceneAnswers now s) (driveFleet r app s.sts (desiredFleet r app "" "1") "1")).1)

/-- A scene of idle pods. -/
def idleScene (sts : StatefulSet) (pods : List Pod) : FleetScene := ⟨sts, pods, fun _ => idleState⟩

/-- The pod has its place in the fleet, and behind the partition it has been updated. -/
def Seated (app : WorkerApp) (sts : StatefulSet) (pod : Pod) (i : Nat) : Prop :=
  pod.name = ordinalName (fleetName app) i ∧
    isControlledBy pod.ownerReferences sts.metadata.uid = true ∧ podReady pod = true ∧
    Pollable pod ∧ (stsPartition sts ≤ i →
      pod.labels.get "controller-revision-hash" = sts.sstatus.updateRevision ∧
        pod.spec = sts.sspec.template.spec)

instance (app : WorkerApp) (sts : StatefulSet) (pod : Pod) (i : Nat) :
    Decidable (Seated app sts pod i) := inferInstanceAs (Decidable (_ ∧ _))

/-- **The scene is ready for the next pass**: the controller has observed the object, every pod has
its place, the settle deadline has passed, and nothing holds the pass. -/
def ReadyScene (r : Reconciler) (app : WorkerApp) (now : Time) (sts : StatefulSet)
    (pods : List Pod) : Prop :=
  (sts.metadata.name = fleetName app ∧
    sts.sstatus.observedGeneration = sts.metadata.generation ∧
    sts.sstatus.updateRevision ≠ "" ∧ 1 ≤ stsReplicas sts ∧ pods.length = stsReplicas sts ∧
    ∀ x ∈ pods.zipIdx, Seated app sts x.1 x.2) ∧
  pods.length < 2 ^ 31 ∧ (∀ pod ∈ pods, pods.find? (·.name == pod.name) = some pod) ∧
  (∀ deadline ∈ r.lib.parseTime (annotationOf sts settleAnnotation), deadline ≤ now) ∧
  requireOwnership app sts = .ok () ∧
  (runAnswers (sceneAnswers now (idleScene sts pods)) (configHash r app)).2.2 = .ok "" ∧
  (runAnswers (sceneAnswers now (idleScene sts pods))
    (awaitPause r app sts (desiredFleet r app "" "1"))).2.2 = .ok true

instance (r : Reconciler) (app : WorkerApp) (now : Time) (sts : StatefulSet) (pods : List Pod) :
    Decidable (ReadyScene r app now sts pods) := inferInstanceAs (Decidable (_ ∧ _))

section

variable {r : Reconciler} {app : WorkerApp} {now : Time} {s : FleetScene} {sts : StatefulSet}
  {pods : List Pod}

theorem saw_runAnswers {α : Type} {env : Answers} {p : P α} {o : Op} {res : Resp o}
    (h : Saw (runAnswers env p).1 o res) : res = env o := by
  obtain ⟨_, hres⟩ := answer_of_mem_runWith h
  exact hres

/-- The pass is answered from the scene. -/
theorem saw_scenePass {o : Op} {res : Resp o} (hsaw : Saw (scenePass r app now s) o res) :
    res = sceneAnswers now s o := by
  rcases List.mem_append.mp hsaw with hsaw | hsaw
  · exact saw_runAnswers hsaw
  · rcases List.mem_cons.mp hsaw with hsaw | hsaw
    · cases hsaw
      rfl
    · rcases List.mem_append.mp hsaw with hsaw | hsaw
      · exact saw_runAnswers hsaw
      · exact saw_runAnswers hsaw

/-- It is one of `reconcileFleet`, once the pause is confirmed. -/
theorem runs_scenePass (howned : requireOwnership app s.sts = .ok ())
    (hhash : (runAnswers (sceneAnswers now s) (configHash r app)).2.2 = .ok "")
    (hpause : (runAnswers (sceneAnswers now s)
      (awaitPause r app s.sts (desiredFleet r app "" "1"))).2.2 = .ok true) :
    (∃ res, Runs (reconcileFleet r app "1") (scenePass r app now s) res) ∧
      ∃ t₁ t₂ t₃, scenePass r app now s =
          t₁ ++ ⟨.getLive .statefulSet (fleetName app), .ok s.sts⟩ :: (t₂ ++ t₃) ∧
        Runs (configHash r app) t₁ (.ok "") ∧
        Runs (awaitPause r app s.sts (desiredFleet r app "" "1")) t₂ (.ok true) := by
  have hhashes := runAnswers_runs (sceneAnswers now s) (configHash r app)
  have hpauses := runAnswers_runs (sceneAnswers now s)
    (awaitPause r app s.sts (desiredFleet r app "" "1"))
  rw [hhash] at hhashes
  rw [hpause] at hpauses
  refine ⟨?_, _, _, _, rfl, hhashes, hpauses⟩
  obtain ⟨res, hdrives⟩ : ∃ res, Runs (driveFleet r app s.sts (desiredFleet r app "" "1") "1")
      (runAnswers (sceneAnswers now s)
        (driveFleet r app s.sts (desiredFleet r app "" "1") "1")).1 res := ⟨_, runAnswers_runs _ _⟩
  refine ⟨res, (reconcileFleet_read_iff hhashes).mpr ?_⟩
  show Runs (reconcileExisting r app s.sts _ "1") _ res
  rw [reconcileExisting_eq howned]
  exact (runs_check_ok hpauses).mpr hdrives

theorem readState_idle : readState (sampleState "1" 0) = .ok idleState := by decide

/-- The answers are what a healthy pass needs, once the settle deadline has passed. -/
theorem idleScene_answers (hlen : pods.length < 2 ^ 31)
    (hfound : ∀ pod ∈ pods, pods.find? (·.name == pod.name) = some pod)
    (hsettled : ∀ deadline ∈ r.lib.parseTime (annotationOf sts settleAnnotation), deadline ≤ now) :
    SceneAnswers r.lib app (idleScene sts pods) (scenePass r app now (idleScene sts pods)) where
  lists res hsaw := by
    refine ⟨⟨pods, hlen⟩, ?_, .refl _⟩
    rw [saw_scenePass hsaw, sceneAnswers]
    exact dif_pos hlen
  gets pod hpod res hsaw := by
    rw [saw_scenePass hsaw]
    show ((pods.find? (·.name == pod.name)).map Except.ok).getD _ = _
    rw [hfound pod hpod]
    rfl
  reports pod _ res hsaw := ⟨sampleState "1" 0, saw_scenePass hsaw, readState_idle⟩
  settled deadline now' hdeadline hsaw := by
    rw [show now' = now from saw_scenePass hsaw]
    exact hsettled deadline hdeadline
  accepts o res hsaw := ⟨_, saw_scenePass hsaw, rfl, rfl, rfl⟩

/-- The environment has done its part once every pod has its place. -/
theorem healthy_idleScene (hnamed : sts.metadata.name = fleetName app)
    (hobserved : sts.sstatus.observedGeneration = sts.metadata.generation)
    (hrevised : sts.sstatus.updateRevision ≠ "") (hsome : 1 ≤ stsReplicas sts)
    (hcount : pods.length = stsReplicas sts)
    (hplaced : ∀ x ∈ pods.zipIdx, Seated app sts x.1 x.2) : (idleScene sts pods).Healthy app := by
  have hat : ∀ i (hi : i < pods.length), Seated app sts pods[i] i := fun i hi =>
    hplaced _ (List.mk_mem_zipIdx_iff_getElem?.mpr (List.getElem?_eq_getElem hi))
  have hplace : ∀ pod ∈ pods, ∃ i, Seated app sts pod i := by
    intro pod hpod
    obtain ⟨i, hi, rfl⟩ := List.mem_iff_getElem.mp hpod
    exact ⟨i, hat i hi⟩
  have hnames : pods.map (·.name) = ordinalNames sts.metadata.name (stsReplicas sts) := by
    rw [hnamed]
    refine List.ext_getElem (by simp [ordinalNames, hcount]) fun i hi _ => ?_
    rw [List.length_map] at hi
    simpa [ordinalNames] using (hat i hi).1
  refine ⟨hnamed, hobserved, hrevised, ⟨hsome, hnames ▸ .refl _, ?_, ?_, ?_⟩, ?_, fun _ _ => rfl⟩
  · intro pod hpod
    obtain ⟨_, -, howned, -⟩ := hplace pod hpod
    exact howned
  · intro pod hpod
    obtain ⟨_, -, -, hready, -⟩ := hplace pod hpod
    exact hready
  · intro pod hpod
    obtain ⟨_, -, -, -, hpollable, -⟩ := hplace pod hpod
    exact hpollable
  · intro pod hpod i hi hle
    obtain ⟨k, hname, -, -, -, hupdated⟩ := hplace pod hpod
    have hki : k = i := ordinalName_injective _ (hname.symm.trans hi)
    obtain ⟨hrevision, hspec⟩ := hupdated (hki ▸ hle)
    exact ⟨hrevision, fun other => by rw [hspec]; rfl⟩

/-- **A pass over idle pods** in their places is a healthy one. -/
theorem healthyPass_scenePass (hready : ReadyScene r app now sts pods) :
    HealthyPass r app "1" "" (idleScene sts pods) true
      (scenePass r app now (idleScene sts pods)) := by
  obtain ⟨⟨hnamed, hobserved, hrevised, hsome, hcount, hplaced⟩, hlen, hfound, hsettled, howned,
    hhash, hpause⟩ := hready
  obtain ⟨hreturns, hawaits⟩ := runs_scenePass (s := idleScene sts pods) howned hhash hpause
  exact ⟨healthy_idleScene hnamed hobserved hrevised hsome hcount hplaced,
    idleScene_answers hlen hfound hsettled, hreturns, hawaits⟩

end

/-! ## §8. A fleet of two. -/

/-- Deadlines as texts: one character for every second. -/
def secondsLib : Lib :=
  { sampleLib with
    formatTime := fun t => String.ofList (List.replicate (t / second).toNat '1')
    parseTime := fun text => if text = "" then none else some (text.length * second) }

/-- An operator that reads its settle deadlines. -/
def timedReconciler : Reconciler := { sampleReconciler with lib := secondsLib }

/-- An app with two nodes. -/
def duoApp (image : String) : WorkerApp :=
  let app := sampleApp image .rolling
  { app with spec := { app.spec with replicas := some 2, durability := .bucket } }

/-- Its pods, with these images and revisions. -/
def duoPods (first second : String × String) : List Pod :=
  [samplePod "shop-celld-0" "s1" first.2 (fleetPodSpec (duoApp first.1)),
    samplePod "shop-celld-1" "s1" second.2 (fleetPodSpec (duoApp second.1))]

/-- The controller has observed the object, and brings pods to this revision. -/
def observedAt (sts : StatefulSet) (revision : String) : StatefulSet :=
  { sts with status := ({ sts.sstatus with
      observedGeneration := sts.metadata.generation, updateRevision := revision } :
        StatefulSetStatus) }

def oldNode : String × String := ("ghcr.io/denoland/celld:v0.5.1", "r1")

def newNode : String × String := ("ghcr.io/denoland/celld:v0.5.2", "r2")

/-- The app is upgraded from v0.5.1. -/
def duoUpgrade : WorkerApp := duoApp newNode.1

/-- The scenes of the four passes to v0.5.2, a minute apart: start, release of the last ordinal,
release of the first, rest. -/
def duoStart : FleetScene := idleScene (settledFleet (duoApp oldNode.1)) (duoPods oldNode oldNode)

def duoFrozen : FleetScene :=
  idleScene (observedAt (acceptUpdate Cluster.empty duoStart.sts (startRolling duoStart.sts
    (desiredFleet timedReconciler duoUpgrade "" "1") (secondsLib.formatTime (10 * second)))) "r2")
    (duoPods oldNode oldNode)

def duoHalf : FleetScene :=
  idleScene (observedAt (acceptUpdate Cluster.empty duoFrozen.sts (releaseOrdinal duoFrozen.sts 1
    (secondsLib.formatTime (minute + 10 * second)))) "r2") (duoPods oldNode newNode)

def duoReleased : FleetScene :=
  idleScene (observedAt (acceptUpdate Cluster.empty duoHalf.sts (releaseOrdinal duoHalf.sts 0
    (secondsLib.formatTime (2 * minute + 10 * second)))) "r2") (duoPods newNode newNode)

def duoPasses : List (Bool × Trace) :=
  [(true, scenePass timedReconciler duoUpgrade 0 duoStart),
    (true, scenePass timedReconciler duoUpgrade minute duoFrozen),
    (true, scenePass timedReconciler duoUpgrade (2 * minute) duoHalf),
    (true, scenePass timedReconciler duoUpgrade (3 * minute) duoReleased)]

theorem reported_start : Reported (storedAfter duoStart.sts
    (scenePass timedReconciler duoUpgrade 0 duoStart)) duoFrozen.sts := by
  refine ⟨?_, ?_⟩ <;> decide +kernel

theorem reported_frozen : Reported (storedAfter duoFrozen.sts
    (scenePass timedReconciler duoUpgrade minute duoFrozen)) duoHalf.sts := by
  refine ⟨?_, ?_⟩ <;> decide +kernel

theorem reported_half : Reported (storedAfter duoHalf.sts
    (scenePass timedReconciler duoUpgrade (2 * minute) duoHalf)) duoReleased.sts := by
  refine ⟨?_, ?_⟩ <;> decide +kernel

/-- The fleet of two is written three times, at partitions 2, 1 and 0. -/
theorem healthy_rollout_two :
    let template := (desiredFleet timedReconciler duoUpgrade "" "1").sspec.template
    confirmedPasses duoPasses = 4 ∧
      rolloutWrites duoPasses = [some (2, 2, template), some (1, 2, template),
        some (0, 2, template)] ∧
      (storedAfter duoReleased.sts
        (scenePass timedReconciler duoUpgrade (3 * minute) duoReleased)).sspec.template =
        template := by
  intro template
  have hstart : ReadyScene timedReconciler duoUpgrade 0 duoStart.sts duoStart.pods := by
    decide +kernel
  have hfrozen : ReadyScene timedReconciler duoUpgrade minute duoFrozen.sts duoFrozen.pods := by
    decide +kernel
  have hhalf : ReadyScene timedReconciler duoUpgrade (2 * minute) duoHalf.sts duoHalf.pods := by
    decide +kernel
  have hreleased : ReadyScene timedReconciler duoUpgrade (3 * minute) duoReleased.sts
      duoReleased.pods := by
    decide +kernel
  have hrun : HealthyRun timedReconciler duoUpgrade "1" "" duoStart.sts duoPasses
      (storedAfter duoReleased.sts
        (scenePass timedReconciler duoUpgrade (3 * minute) duoReleased)) :=
    .pass ⟨rfl, rfl⟩ (healthyPass_scenePass hstart) (.pass reported_start
      (healthyPass_scenePass hfrozen) (.pass reported_frozen (healthyPass_scenePass hhalf)
        (.pass reported_half (healthyPass_scenePass hreleased) (.idle _))))
  have hconverged : Converged duoUpgrade (desiredFleet timedReconciler duoUpgrade "" "1") 2
      duoStart.sts :=
    ⟨⟨by decide +kernel, by decide +kernel, by decide +kernel, by decide +kernel⟩,
      by decide +kernel, by decide +kernel, by decide +kernel, by decide +kernel⟩
  obtain ⟨-, hdone⟩ := healthy_rollout timedReconciler duoUpgrade "1" "" 2 duoStart.sts _
    duoPasses (by decide) hconverged hrun
  obtain ⟨hwrites, htemplate, -, -⟩ := hdone (by decide)
  exact ⟨rfl, hwrites, htemplate⟩

end CelldOperator
