/-
  CelldOperator.Rollout.DurableReplicas

  **FLEET DURABILITY AND THE REPLICA COUNT.**  With fleet durability a write is
  acknowledged once other nodes have it, so `validateApp` asks for three replicas.
  It sees the spec only.  The template and the count reach the StatefulSet by
  different writes, and the count also by the autoscaler:

    • `FleetWrite.replicated` — what each write of a pass leaves, if a rolling
      start brings fleet durability to three replicas only (`startsWide`),
    • `ScaleMove.replicated` — what the autoscaler leaves, if its bounds start at
      three while the template has fleet durability (`BoundedWide`),
    • `fleetDurability_replicated` — so no reachable state has fleet durability on
      fewer than three replicas, a stop for Recreate apart,
    • `fleetDurability_underReplicated`, `autoscaler_underReplicated` — runs
      without the one and without the other condition.
-/
import CelldOperator.Rollout.FleetSystem
import CelldOperator.Rollout.Recreate

namespace CelldOperator

open Effect Prog

/-! ## §1. The property. -/

/-- The template has `CELLD_DURABILITY=fleet`. -/
def runsFleetDurable (template : PodTemplate) : Bool :=
  (durabilityEnv template.spec).any (·.value == Durability.fleet.text)

/-- The StatefulSet's template has fleet durability. -/
def stsFleetDurable (sts : StatefulSet) : Bool := runsFleetDurable sts.sspec.template

/-- **Replicated**: with fleet durability there are three replicas, or the fleet is stopped for
Recreate. -/
def Replicated (sts : StatefulSet) : Prop :=
  stsFleetDurable sts = true → 3 ≤ stsReplicas sts ∨ recreating sts = true ∧ stsReplicas sts = 0

instance (sts : StatefulSet) : Decidable (Replicated sts) :=
  inferInstanceAs (Decidable (_ → _))

/-- The hash tells templates with fleet durability from the others. -/
def TellsDurability (lib : Lib) : Prop :=
  ∀ t t', lib.templateHash t = lib.templateHash t' → runsFleetDurable t = runsFleetDurable t'

theorem runsFleetDurable_buildPodTemplate (app : WorkerApp) (hash v : String) :
    runsFleetDurable (buildPodTemplate app hash v) = true ↔ app.spec.durability = .fleet := by
  unfold runsFleetDurable
  rw [show (buildPodTemplate app hash v).spec = fleetPodSpec app from rfl,
    durabilityEnv_fleetPodSpec]
  cases hd : app.spec.durability <;> simp [resolvedDurability, hd, Durability.text]

/-- What the steps hand on about the live StatefulSet. -/
structure ReplicaInv (lib : Lib) (sts : StatefulSet) : Prop where
  replicated : Replicated sts
  marked : StopMarked sts
  hashed : annotationOf sts templateHashAnnotation = lib.templateHash sts.sspec.template

/-- The template, the count and two annotations are all it reads. -/
theorem ReplicaInv.congr {lib : Lib} {sts sts' : StatefulSet} (hi : ReplicaInv lib sts)
    (htemplate : sts'.sspec.template = sts.sspec.template)
    (hreplicas : stsReplicas sts' = stsReplicas sts)
    (hmeta : ∀ {key}, key ≠ settleAnnotation → annotationOf sts' key = annotationOf sts key) :
    ReplicaInv lib sts' := by
  have hrecreating : recreating sts' = recreating sts := by
    unfold recreating
    rw [hmeta (by decide)]
  constructor
  · unfold Replicated stsFleetDurable
    rw [htemplate, hreplicas, hrecreating]
    exact hi.replicated
  · unfold StopMarked
    rw [hreplicas, hrecreating]
    exact hi.marked
  · rw [hmeta (by decide), htemplate]
    exact hi.hashed

/-! ## §2. The writes of a pass. -/

/-- **The condition on a write**: it brings fleet durability to a running fleet only if that has
three replicas. -/
def startsWide (n : String) (w : World) : Op → Bool
  | .update .statefulSet sent =>
    match w.cluster.live .statefulSet n with
    | some cur => !stsFleetDurable sent || stsFleetDurable cur || stsReplicas cur == 0 ||
        decide (3 ≤ stsReplicas cur)
    | none => true
  | _ => true

section writes

variable {r : Reconciler} {app : WorkerApp} {h : Trace} {c : Cluster} {n hash v : String}
  {existing o : StatefulSet}

theorem startRolling_hash (existing desired : StatefulSet) (settle : String) :
    annotationOf (startRolling existing desired settle) templateHashAnnotation =
      annotationOf desired templateHashAnnotation :=
  (StrMap.get_insert_of_ne (k := settleAnnotation) _ settle (by decide)).trans
    (StrMap.get_insert_self _ _ _)

theorem startRecreated_hash (app : WorkerApp) (existing desired : StatefulSet) :
    annotationOf (startRecreated app existing desired) templateHashAnnotation =
      annotationOf desired templateHashAnnotation :=
  (StrMap.get_erase_of_ne (k := recreateAnnotation) _ (by decide)).trans
    (StrMap.get_insert_self _ _ _)

theorem scaleToZero_hash (existing : StatefulSet) :
    annotationOf (scaleToZero existing) templateHashAnnotation =
      annotationOf existing templateHashAnnotation :=
  StrMap.get_insert_of_ne (k := recreateAnnotation) _ _ (by decide)

theorem annotationOf_releaseOrdinal (existing : StatefulSet) (partition : Nat) (settle : String)
    {key : String} (hkey : key ≠ settleAnnotation) :
    annotationOf (releaseOrdinal existing partition settle) key = annotationOf existing key :=
  StrMap.get_insert_of_ne _ _ hkey

/-- What the spec asks for is replicated, if it is accepted. -/
theorem three_le_of_desired (hvalid : validateApp r app = .ok ())
    (hdurable : runsFleetDurable (buildPodTemplate app hash v) = true) :
    3 ≤ (desiredReplicas app).toNat := by
  have hfleet := (runsFleetDurable_buildPodTemplate app hash v).mp hdurable
  have hthree := (passedChecks_of_valid hvalid).durable hfleet
  omega

theorem ReplicaInv.created (hvalid : validateApp r app = .ok ()) (hash v : String) :
    ReplicaInv r.lib (desiredFleet r app hash v) where
  replicated hdurable := .inl (three_le_of_desired hvalid hdurable)
  marked hzero := absurd hzero (toNat_desiredReplicas_ne (one_le_desiredReplicas hvalid))
  hashed := desiredFleet_hashed

/-- **Every write of a pass leaves the fleet replicated.** -/
theorem FleetWrite.replicated (hk : Knows h c) (hmem : existing ∈ c.past .statefulSet n)
    (hvalid : validateApp r app = .ok ()) (htells : TellsDurability r.lib)
    (hi : ReplicaInv r.lib existing)
    (hw : FleetWrite r app existing (desiredFleet r app hash v) h o)
    (hwide : stsFleetDurable o = true → stsFleetDurable existing = false →
      stsReplicas existing ≠ 0 → 3 ≤ stsReplicas existing) : ReplicaInv r.lib o := by
  have hmarked := hw.stopMarked hk hmem (one_le_desiredReplicas hvalid) hi.marked
  have hrunning : recreating existing = false → stsReplicas existing ≠ 0 := by
    intro hidle hzero
    rw [hi.marked hzero] at hidle
    cases hidle
  cases hw with
  | rollingStart now idle changed rolling template pods =>
    -- the count stays: three, from before or by the condition
    refine ⟨fun hdurable => .inl ?_, hmarked, ?_⟩
    · show 3 ≤ stsReplicas existing
      cases hbefore : stsFleetDurable existing with
      | false => exact hwide hdurable hbefore (hrunning idle)
      | true =>
        rcases hi.replicated hbefore with hthree | ⟨-, hzero⟩
        · exact hthree
        · exact absurd hzero (hrunning idle)
    · exact (startRolling_hash ..).trans desiredFleet_hashed
  | rollout idle same write =>
    cases write with
    | clamp high => exact hi.congr rfl rfl fun _ => rfl
    | release base partition now start gates clock =>
      obtain ⟨rfl, -, -⟩ := start.exact hk hmem gates.observed
      exact hi.congr rfl rfl (annotationOf_releaseOrdinal _ _ _)
  | scaleDown cause running =>
    exact ⟨fun _ => .inr ⟨recreating_scaleToZero existing, rfl⟩, hmarked,
      (scaleToZero_hash existing).trans hi.hashed⟩
  | recreateStart cause stopped observed drained pods =>
    exact ⟨fun hdurable => .inl (three_le_of_desired hvalid hdurable), hmarked,
      (startRecreated_hash ..).trans desiredFleet_hashed⟩
  | scale idle same still drifted =>
    -- the hashes agree, so the count is the one the template needs
    refine ⟨fun hdurable => .inl ?_, hmarked, hi.hashed⟩
    have hsame : annotationOf existing templateHashAnnotation =
        annotationOf (desiredFleet r app hash v) templateHashAnnotation := by
      simpa [templateChanged] using same
    rw [hi.hashed, desiredFleet_hashed] at hsame
    exact three_le_of_desired hvalid ((htells _ _ hsame).symm.trans hdurable)

end writes

/-! ## §3. The autoscaler. -/

/-- `minReplicas` and `maxReplicas` of the spec, with their defaults. -/
def scalerBounds (app : WorkerApp) : Option (Int × Int) :=
  match app.spec.autoscaling with
  | some as => if as.enabled then
      some (defaultPositive as.minReplicas 2, defaultPositive as.maxReplicas 10) else none
  | none => none

/-- **The moves beside the operator**: those of Kubernetes, and the autoscaler, which sets the
count within the bounds of a spec.  It is not tied to the pause, which reaches it late; `may` says
for which specs it moves. -/
inductive ScaleMove (n : String) (may : World → WorkerApp → Prop) (w : World) : World → Prop where
  | kube {w' : World} (move : KubeMove n w w') : ScaleMove n may w w'
  | autoscale (app : WorkerApp) (allowed : may w app) (lo hi : Int)
      (bounds : scalerBounds app = some (lo, hi)) (count : Nat) (above : lo ≤ count)
      (below : count ≤ hi) (sts stored : StatefulSet)
      (live : w.cluster.live .statefulSet n = some sts)
      (accepted : Accepted sts (scaleTo sts count) stored) (hp : w.cluster.Storable stored) :
      ScaleMove n may w { w with cluster := w.cluster.put stored hp }

/-- **The condition on the autoscaler**: over a template with fleet durability its bounds start at
three. -/
def BoundedWide (n : String) (w : World) (app : WorkerApp) : Prop :=
  ∀ sts, w.cluster.live .statefulSet n = some sts → stsFleetDurable sts = true →
    ∀ lo hi, scalerBounds app = some (lo, hi) → 3 ≤ lo

/-- The live StatefulSet, if there is one, satisfies the invariant. -/
def LiveReplicated (lib : Lib) (n : String) (c : Cluster) : Prop :=
  ∀ sts, c.live .statefulSet n = some sts → ReplicaInv lib sts

section moves

variable {lib : Lib} {n : String} {c c' : Cluster} {w w' : World}

theorem LiveReplicated.congr (hl : LiveReplicated lib n c)
    (hsame : c'.store .statefulSet n = c.store .statefulSet n) : LiveReplicated lib n c' := by
  intro sts hlive
  unfold Cluster.live at hlive
  rw [hsame] at hlive
  exact hl sts hlive

theorem LiveReplicated.put {stored : StatefulSet} (hi : ReplicaInv lib stored)
    (hmoved : ∃ hp, c' = c.put stored hp) (hname : stored.metadata.name = n) :
    LiveReplicated lib n c' := by
  intro sts hlive
  rw [live_of_put hmoved hname] at hlive
  cases hlive
  exact hi

theorem ReplicaInv.accepted {existing sent stored : StatefulSet} (hi : ReplicaInv lib sent)
    (ha : Accepted existing sent stored) : ReplicaInv lib stored :=
  hi.congr ha.template ha.replicas fun _ => ha.annotation _

/-- Kubernetes keeps the spec and the annotations. -/
theorem KubeMove.replicated (hl : LiveReplicated lib n w.cluster) (hm : KubeMove n w w') :
    LiveReplicated lib n w'.cluster := by
  cases hm with
  | pods | create | promote => exact hl
  | others c' later same pods => exact hl.congr same
  | report sts sts' live same hp =>
    refine .put ?_ ⟨hp, rfl⟩ (same.name live)
    have hmeta : sts'.metadata.annotations = sts.metadata.annotations := by
      rw [same.metadata]
    refine (hl sts live).congr (congrArg StatefulSetSpec.template same.spec)
      (congrArg (fun spec : StatefulSetSpec => spec.replicas.getD 0) same.spec) fun _ => ?_
    unfold annotationOf
    rw [hmeta]

theorem one_le_of_scalerBounds {app : WorkerApp} {lo hi : Int}
    (h : scalerBounds app = some (lo, hi)) : 1 ≤ lo := by
  unfold scalerBounds at h
  split at h
  · split at h
    · cases h
      unfold defaultPositive
      split <;> omega
    · cases h
  · cases h

/-- **The autoscaler leaves the fleet replicated**, within wide bounds. -/
theorem ScaleMove.replicated (hl : LiveReplicated lib n w.cluster)
    (hm : ScaleMove n (BoundedWide n) w w') : LiveReplicated lib n w'.cluster := by
  cases hm with
  | kube move => exact move.replicated hl
  | autoscale app allowed lo hi bounds count above below sts stored live accepted hp =>
    have hbefore := hl sts live
    have hone := one_le_of_scalerBounds bounds
    have hname : stored.metadata.name = n := by
      rw [accepted.metadata]
      exact (Cluster.name_of_live live :)
    have hafter : ReplicaInv lib (scaleTo sts count) := by
      refine ⟨fun hdurable => .inl ?_, fun hzero => ?_, hbefore.hashed⟩
      · have hthree := allowed sts live hdurable lo hi bounds
        show 3 ≤ count
        omega
      · have hzero : count = 0 := hzero
        omega
    exact .put (hafter.accepted accepted) ⟨hp, rfl⟩ hname

theorem ScaleMove.later {may : World → WorkerApp → Prop} (hm : ScaleMove n may w w') :
    w.cluster.Later w'.cluster := by
  cases hm with
  | kube move => exact move.later
  | autoscale _ _ _ _ _ _ _ _ _ _ _ _ hp => exact Cluster.later_put _ _ hp

end moves

/-! ## §4. Whole runs. -/

/-- **The system**: passes of an operator with this hash, for any accepted spec of the WorkerApp
`name`, interleaved at every call with Kubernetes and the autoscaler. -/
def scaledSystem (name : String) (lib : Lib) (may : World → WorkerApp → Prop) :
    System Api World FleetPass (Except Err FleetOutcome) where
  serve := ServeWorld
  during := ScaleMove (name ++ "-celld") may
  between := ScaleMove (name ++ "-celld") may
  job := fun j => reconcileFleet j.r j.app j.appVersion
  admits := fun _ j => j.r.lib = lib ∧ j.app.name = name ∧ validateApp j.r j.app = .ok ()

/-- The fleet has not been created. -/
def NoFleet (name : String) (w : World) : Prop :=
  w.cluster.live .statefulSet (name ++ "-celld") = none

/-- **The wide runs**: every step meets its condition. -/
def wideSystem (name : String) (lib : Lib) : System Api World FleetPass (Except Err FleetOutcome) :=
  (scaledSystem name lib (BoundedWide (name ++ "-celld"))).restrict
    (fun w o => startsWide (name ++ "-celld") w o = true)

/-- Inside a pass. -/
structure ReplicatedPass (j : FleetPass) (h : Trace) (c : Cluster) : Prop where
  valid : validateApp j.r j.app = .ok ()
  knows : Knows h c
  live : LiveReplicated j.r.lib (fleetName j.app) c

/-- **One answered call of a pass.** -/
theorem ReplicatedPass.call {j : FleetPass} {h : Trace} {w w' : World} {o : Op} {res : Resp o}
    (htells : TellsDurability j.r.lib) (hp : ReplicatedPass j h w.cluster)
    (he : FleetEvent j.r j.app j.appVersion h ⟨o, res⟩)
    (hs : Serve w.cluster o res w'.cluster)
    (hwide : startsWide (fleetName j.app) w o = true) :
    ReplicatedPass j (h ++ [⟨o, res⟩]) w'.cluster := by
  refine ⟨hp.valid, hp.knows.serve hs, ?_⟩
  have hmove := fleetMove_of_serve hp.knows he hs
  generalize heq : (⟨o, res⟩ : Event Api) = e at hmove
  cases hmove with
  | idle same pods quiet => exact hp.live.congr (same _)
  | created hash stored absent made moved =>
    have hname : stored.metadata.name = fleetName j.app := by
      rw [made.metadata]
      rfl
    have hmeta : stored.metadata.annotations =
        (desiredFleet j.r j.app hash j.appVersion).metadata.annotations := by
      rw [made.metadata]
    refine .put ?_ moved hname
    refine (ReplicaInv.created hp.valid hash j.appVersion).congr
      (congrArg StatefulSetSpec.template made.spec)
      (congrArg (fun spec : StatefulSetSpec => spec.replicas.getD 0) made.spec) fun _ => ?_
    unfold annotationOf
    rw [hmeta]
  | wrote hash existing sent stored guards write first live accepted named moved =>
    cases heq
    refine .put (ReplicaInv.accepted ?_ accepted) moved named
    refine write.replicated hp.knows (Cluster.mem_past_of_live live) hp.valid htells
      (hp.live existing live) ?_
    intro hdurable hbefore hrunning
    simpa [startsWide, live, hdurable, hbefore, hrunning] using hwide

theorem liveReplicated_reachable {name : String} {lib : Lib} (htells : TellsDurability lib)
    {w : World} (h : (wideSystem name lib).Reachable (NoFleet name) w) :
    LiveReplicated lib (name ++ "-celld") w.cluster := by
  refine System.reachable_invariant
    (A := fun w : World => LiveReplicated lib (name ++ "-celld") w.cluster) ?_ ?_ h
  · intro w hnone sts hlive
    cases hnone.symm.trans hlive
  intro w w' hi hstep
  refine System.step_invariant
    (A := fun w : World => LiveReplicated lib (name ++ "-celld") w.cluster)
    (H := fun j h w => (j.r.lib = lib ∧ j.app.name = name) ∧ ReplicatedPass j h w.cluster)
    (fun _ j _ => reconcileFleet_valid j.r j.app j.appVersion) ?_ ?_ ?_ ?_ ?_ hi hstep
  · exact fun w w' hi hmove => hmove.replicated hi
  · rintro w j hi ⟨rfl, rfl, hvalid⟩
    exact ⟨⟨rfl, rfl⟩, hvalid, knows_nil _, hi⟩
  · rintro j h w w' ⟨⟨rfl, rfl⟩, hp⟩ hmove
    exact ⟨⟨rfl, rfl⟩, hp.valid, hp.knows.later hmove.later, hmove.replicated hp.live⟩
  · rintro j h w o res w' ⟨⟨rfl, rfl⟩, hp⟩ he ⟨hs, hwide⟩
    exact ⟨⟨rfl, rfl⟩, hp.call htells he hs.1 hwide⟩
  · rintro j h w ⟨⟨rfl, rfl⟩, hp⟩
    exact hp.live

/-- **Fleet durability never runs below three replicas**, in every wide run: no pass brings it to
a running fleet of fewer, and the autoscaler's bounds start at three while it is in force. -/
theorem fleetDurability_replicated (name : String) (lib : Lib) (htells : TellsDurability lib)
    (w : World) (h : (wideSystem name lib).Reachable (NoFleet name) w) (sts : StatefulSet)
    (hlive : w.cluster.live .statefulSet (name ++ "-celld") = some sts) : Replicated sts :=
  (liveReplicated_reachable htells h sts hlive).replicated

/-! ## §5. From bucket to fleet durability. -/

/-- A library whose hash tells the durability, and no more. -/
def durabilityLib : Lib :=
  { sampleLib with templateHash := fun t => if runsFleetDurable t then "fleet" else "bucket" }

theorem tellsDurability_durabilityLib : TellsDurability durabilityLib := by
  intro t t' h
  show runsFleetDurable t = runsFleetDurable t'
  have h : (if runsFleetDurable t then "fleet" else "bucket") =
      if runsFleetDurable t' then "fleet" else "bucket" := h
  cases ht : runsFleetDurable t <;> cases ht' : runsFleetDurable t' <;> simp_all

def durabilityReconciler : Reconciler := { sampleReconciler with lib := durabilityLib }

/-- A WorkerApp with this durability and count, on the same storage. -/
def durableApp (durability : Durability) (count : Int) : WorkerApp :=
  let app := sampleApp "ghcr.io/denoland/celld:v0.5.1" .rolling
  { app with spec := { app.spec with durability := durability, replicas := some count } }

/-- A pass for it in which every call succeeds. -/
def durablePass (app : WorkerApp) (w : World) : World :=
  (runWith (answerWorld {}) (reconcileFleet durabilityReconciler app "1") w).2.1

theorem wide_durablePass {w : World} (app : WorkerApp) (hname : app.name = "shop")
    (hvalid : validateApp durabilityReconciler app = .ok ())
    (hwide : runMeets (answerWorld {}) (startsWide ("shop" ++ "-celld"))
      (reconcileFleet durabilityReconciler app "1") w = true)
    (hr : (wideSystem "shop" durabilityLib).Reachable (NoFleet "shop") w) :
    (wideSystem "shop" durabilityLib).Reachable (NoFleet "shop") (durablePass app w) :=
  hr.step (.job (j := ⟨durabilityReconciler, app, "1"⟩) ⟨rfl, hname, hvalid⟩
    (exec_runWith_of_meets (fun w o ho => ⟨serve_answerWorld {} w o, ho⟩) _ w hwide))

theorem scaled_durablePass (may : World → WorkerApp → Prop) {w : World} (app : WorkerApp)
    (hname : app.name = "shop") (hvalid : validateApp durabilityReconciler app = .ok ())
    (hr : (scaledSystem "shop" durabilityLib may).Reachable (NoFleet "shop") w) :
    (scaledSystem "shop" durabilityLib may).Reachable (NoFleet "shop") (durablePass app w) :=
  hr.step (.job (j := ⟨durabilityReconciler, app, "1"⟩) ⟨rfl, hname, hvalid⟩
    (exec_runWith (serve_answerWorld {}) _ w))

/-- The fleet is created, and a second pass brings the edited spec. -/
def editedWorld (app app' : WorkerApp) : World := durablePass app' (durablePass app emptyWorld)

/-- Three replicas go from bucket to fleet durability. -/
theorem fleetDurability_replicated_edited :
    ∃ sts, (editedWorld (durableApp .bucket 3) (durableApp .fleet 3)).cluster.live .statefulSet
        ("shop" ++ "-celld") = some sts ∧ stsFleetDurable sts = true ∧ Replicated sts := by
  have hsome : ((editedWorld (durableApp .bucket 3) (durableApp .fleet 3)).cluster.live
      .statefulSet ("shop" ++ "-celld")).any stsFleetDurable = true := by decide +kernel
  obtain ⟨sts, hlive, hdurable⟩ := (Option.any_eq_true _ _).mp hsome
  refine ⟨sts, hlive, hdurable, ?_⟩
  refine fleetDurability_replicated "shop" durabilityLib tellsDurability_durabilityLib _ ?_ sts
    hlive
  refine wide_durablePass _ rfl (by decide) (by decide +kernel) ?_
  exact wide_durablePass _ rfl (by decide) (by decide +kernel) ⟨emptyWorld, rfl, .refl⟩

/-- **Without the condition on the write**: one replica goes from bucket to fleet durability by a
rolling start, which keeps the count; the edit asked for three. -/
theorem fleetDurability_underReplicated :
    TellsDurability durabilityLib ∧
    (scaledSystem "shop" durabilityLib (BoundedWide ("shop" ++ "-celld"))).Reachable
      (NoFleet "shop") (editedWorld (durableApp .bucket 1) (durableApp .fleet 3)) ∧
    ∃ sts, (editedWorld (durableApp .bucket 1) (durableApp .fleet 3)).cluster.live .statefulSet
        ("shop" ++ "-celld") = some sts ∧
      stsFleetDurable sts = true ∧ stsReplicas sts = 1 ∧ ¬ Replicated sts := by
  refine ⟨tellsDurability_durabilityLib, ?_, ?_⟩
  · refine scaled_durablePass _ _ rfl (by decide) ?_
    exact scaled_durablePass _ _ rfl (by decide) ⟨emptyWorld, rfl, .refl⟩
  · have hsome : ((editedWorld (durableApp .bucket 1) (durableApp .fleet 3)).cluster.live
        .statefulSet ("shop" ++ "-celld")).any (fun sts => stsFleetDurable sts &&
          decide (stsReplicas sts = 1) && decide (¬ Replicated sts)) = true := by decide +kernel
    obtain ⟨sts, hlive, htest⟩ := (Option.any_eq_true _ _).mp hsome
    simp only [Bool.and_eq_true, decide_eq_true_eq] at htest
    exact ⟨sts, hlive, htest.1.1, htest.1.2, htest.2⟩

/-- The same with autoscaling from one replica on. -/
def narrowApp : WorkerApp :=
  let app := durableApp .bucket 3
  { app with spec := { app.spec with
      autoscaling := some { enabled := true, minReplicas := 1, maxReplicas := 5 } } }

/-- **Without the condition on the autoscaler**: the spec goes to bucket durability and one
replica at least, and the autoscaler is there before the pass that brings the template. -/
theorem autoscaler_underReplicated :
    validateApp durabilityReconciler narrowApp = .ok () ∧
    ∃ w, (scaledSystem "shop" durabilityLib (fun _ app => app = narrowApp)).Reachable
        (NoFleet "shop") w ∧
      ∃ sts, w.cluster.live .statefulSet ("shop" ++ "-celld") = some sts ∧ ¬ Replicated sts := by
  refine ⟨by decide, ?_⟩
  have hsome : ((durablePass (durableApp .fleet 3) emptyWorld).cluster.live .statefulSet
      ("shop" ++ "-celld")).any (fun sts => decide (¬ Replicated (scaleTo sts 1))) = true := by
    decide +kernel
  obtain ⟨sts, hlive, htest⟩ := (Option.any_eq_true _ _).mp hsome
  have hname : sts.metadata.name = "shop" ++ "-celld" := Cluster.name_of_live hlive
  have hlive' : (durablePass (durableApp .fleet 3) emptyWorld).cluster.live .statefulSet
      (scaleTo sts 1).metadata.name = some sts := by
    rw [show (scaleTo sts 1).metadata.name = sts.metadata.name from rfl, hname]
    exact hlive
  have hcreated := scaled_durablePass (fun _ app => app = narrowApp)
    (durableApp .fleet 3) rfl (by decide) ⟨emptyWorld, rfl, .refl⟩
  have hstorable := storable_acceptUpdate hlive'
  refine ⟨_, hcreated.step (.others (.autoscale narrowApp rfl 1 5 (by decide) 1 (by decide)
    (by decide) sts (acceptUpdate _ sts (scaleTo sts 1)) hlive ⟨rfl, rfl, rfl⟩ hstorable)), ?_⟩
  exact ⟨_, live_of_put ⟨hstorable, rfl⟩ hname, of_decide_eq_true htest⟩

end CelldOperator
