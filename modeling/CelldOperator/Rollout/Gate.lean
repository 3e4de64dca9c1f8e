/-
  CelldOperator.Rollout.Gate

  **GATED RELEASE.**  A rolling step moves the partition by one ordinal at a
  time, and only over a fleet it has just seen whole.

  The setting is a pass against an API server with optimistic concurrency while
  others do what they like (`Cluster.Later`: pods come and go, controllers report
  status, other writers replace objects).  The results are about writes that TAKE
  EFFECT, at the object they take effect on:

    • `rolloutStep_effective` — it is the clamp, or it lowers the partition by
      one and every gate was passed in that very pass (`Gated`),
    • `reconcileFleet_first`  — no pass has two effective writes,
    • `effective_writes_differ` — no two passes have one on the same version.
-/
import CelldOperator.Pass.Known
import CelldOperator.Pass.Census

namespace CelldOperator

open Effect Prog

/-! ## §1. The gates. -/

/-- The uncached pod list was exactly the ordinals, every pod of it owned, Ready and answering
`/state`, with nothing restoring in sum. -/
structure WholeFleet (app : WorkerApp) (sts : StatefulSet) (h : Trace) (pods : PodList)
    (states : List (String × PodState)) : Prop where
  listed : Saw h (.listPods (selectorLabels app)) (.ok pods)
  names : (pods.val.map (·.name)).Perm (ordinalNames (fleetName app) (stsReplicas sts))
  owned : ∀ pod ∈ pods.val, isControlledBy pod.ownerReferences sts.metadata.uid = true
  ready : ∀ pod ∈ pods.val, podReady pod = true
  answered : ∀ pod ∈ pods.val, ∃ response state, Saw h (.getState pod.podIP) (.ok response) ∧
    readState response = .ok state ∧ (pod.name, state) ∈ states
  samples : (states.map Prod.fst).Perm (ordinalNames (fleetName app) (stsReplicas sts))
  warm : wrapSum 0 (states.map (·.2.restoring)) = 0

/-- **Every gate of a release**, passed on the object `sts` within the history `h`. -/
structure Gated (r : Reconciler) (app : WorkerApp) (sts : StatefulSet) (h : Trace) : Prop where
  observed : sts.sstatus.observedGeneration = sts.metadata.generation
  settled : ∀ deadline, r.lib.parseTime (annotationOf sts settleAnnotation) = some deadline →
    ∃ now, Saw h .now now ∧ deadline ≤ now
  revision : sts.sstatus.updateRevision ≠ ""
  released : ∀ i, stsPartition sts ≤ i → i < stsReplicas sts → ∃ pod,
    Saw h (.getPod (ordinalName (fleetName app) i)) (.ok pod) ∧
    pod.labels.get "controller-revision-hash" = sts.sstatus.updateRevision ∧
    podReady pod = true ∧ pod.deleting = false
  whole : ∃ pods states, WholeFleet app sts h pods states

theorem not_deleting_of_podReady {pod : Pod} (h : podReady pod = true) : pod.deleting = false := by
  unfold podReady at h
  split at h
  · cases h
  · next hd => simpa using hd

theorem mem_releasedOrdinals {partition replicas i : Nat} :
    i ∈ releasedOrdinals partition replicas ↔ partition ≤ i ∧ i < replicas := by
  unfold releasedOrdinals
  rw [List.mem_range'_1]
  omega

theorem Observed.whole {app : WorkerApp} {sts : StatefulSet} {h : Trace} {sweep : Sweep}
    {pods : PodList} (ho : Observed app sts h sweep pods)
    (hname : sts.metadata.name = fleetName app) (hwarm : sweep.restoring = 0) :
    WholeFleet app sts h pods sweep.states where
  listed := ho.listed
  names := hname ▸ ho.names
  owned := ho.owned
  ready := ho.ready
  answered := by
    intro pod hpod
    obtain ⟨⟨name, state⟩, hmem, hname, response, hsaw, hread⟩ := ho.answered pod hpod
    exact ⟨response, state, hsaw, hread, hname ▸ hmem⟩
  samples := hname ▸ ho.samples
  warm := ho.sum ▸ hwarm

theorem ReleaseGates.gated {r : Reconciler} {app : WorkerApp} {sts : StatefulSet} {h : Trace}
    (hname : sts.metadata.name = fleetName app)
    (hg : ReleaseGates r app sts (stsPartition sts) (stsReplicas sts) h) :
    Gated r app sts h where
  observed := hg.observed
  settled := hg.settled
  revision := hg.revision
  released := by
    intro i hp hi
    obtain ⟨pod, hsaw, hrev, hready⟩ := hg.released i (mem_releasedOrdinals.mpr ⟨hp, hi⟩)
    exact ⟨pod, hsaw, hrev, hready, not_deleting_of_podReady hready⟩
  whole := by
    obtain ⟨sweep, ⟨pre, t, post, rfl, ht⟩, herr, hwarm⟩ := hg.warm
    obtain ⟨pods, hobs⟩ := observeFleet_observed ht herr
    exact ⟨pods, sweep.states, (hobs.append_left pre post).whole hname hwarm⟩

/-! ## §2. Effective writes of a rolling step. -/

/-- `rolloutStep` on the version `sts` of the fleet, amid others, has sent a write that was
accepted in the state `c` and stored as `stored`. -/
def RolloutTakesEffect (r : Reconciler) (app : WorkerApp) (sts : StatefulSet) (h : Trace)
    (c : Cluster) (stored : StatefulSet) (c' : Cluster) : Prop :=
  ∃ c₀ o k, sts ∈ c₀.past .statefulSet (fleetName app) ∧
    Exec Serve Cluster.Later c₀ (rolloutStep r app sts) h c (.call (.update .statefulSet o) k) ∧
    Serve c (.update .statefulSet o) (.ok stored) c'

/-- What `rolloutStep` may send. -/
def RolloutEvent (r : Reconciler) (app : WorkerApp) (sts : StatefulSet) (h : Trace)
    (e : Event Api) : Prop :=
  ∀ o, e.op = .update .statefulSet o → RolloutWrite r app sts h o ∧ Spared sts h

theorem rolloutStep_events (r : Reconciler) (app : WorkerApp) (sts : StatefulSet) :
    Valid (RolloutEvent r app sts) [] (rolloutStep r app sts) (RolloutExit app sts) := by
  refine rolloutStep_valid ?_ ?_ (by simp [SparesFleet])
  · intro h e he o ho
    exact absurd (by rw [ho]; rfl) he
  · intro t o res hw hs o' ho
    cases ho
    exact ⟨hw, hs⟩

/-- The settle deadline a release persists. -/
def Settles (r : Reconciler) (h : Trace) (stored : StatefulSet) : Prop :=
  ∃ now, Saw h .now now ∧
    annotationOf stored settleAnnotation = r.lib.formatTime (now + 10 * second)

section

variable {r : Reconciler} {app : WorkerApp} {sts stored : StatefulSet} {h : Trace}
  {c c' : Cluster}

/-- The write that took effect, and the object it acted on. -/
theorem RolloutTakesEffect.exact (he : RolloutTakesEffect r app sts h c stored c') :
    ∃ o hp, RolloutWrite r app sts h o ∧ Knows h c ∧
      o.metadata.name = fleetName app ∧ c.live .statefulSet (fleetName app) = some sts ∧
      Accepted sts o stored ∧ c' = c.put stored hp := by
  obtain ⟨c₀, o, k, hmem₀, hx, hs⟩ := he
  have hk : Knows h c := knows_exec (fun _ _ hl => hl) hx
  have hmem := (later_exec (fun _ _ hl => hl) hx).mem_past hmem₀
  obtain ⟨hw, -⟩ := valid_issued (rolloutStep_events r app sts) hx.steps (.ok stored) o rfl
  rw [List.nil_append] at hw
  have hid := hw.identity hk hmem
  obtain ⟨hlive, hacc, hp, hput⟩ := serve_update_exact hmem hid hs
  exact ⟨o, hp, hw, hk, hid.1.trans (Cluster.name_of_mem_past hmem), hlive, hacc, hput⟩

/-- **One step of a rolling update.** -/
theorem rolloutStep_effective (he : RolloutTakesEffect r app sts h c stored c') :
    c.live .statefulSet (fleetName app) = some sts ∧
      ((stsReplicas sts < stsPartition sts ∧ stsPartition stored = stsReplicas sts) ∨
        (stsPartition stored + 1 = stsPartition sts ∧ stsPartition sts ≤ stsReplicas sts ∧
          Gated r app sts h ∧ Settles r h stored)) := by
  obtain ⟨o, -, hw, hk, -, hlive, hacc, -⟩ := he.exact
  have hmem := Cluster.mem_past_of_live hlive
  have hspec : stored.sspec = o.sspec := hacc.spec
  refine ⟨hlive, ?_⟩
  cases hw with
  | clamp hover =>
    refine .inl ⟨hover, ?_⟩
    unfold stsPartition
    rw [hspec]
    rfl
  | release base partition now start gates clock =>
    obtain ⟨rfl, rfl, hle⟩ := start.exact hk hmem gates.observed
    refine .inr ⟨?_, hle, gates.gated (Cluster.name_of_mem_past hmem), now, clock, ?_⟩
    · have hpart : stsPartition stored = stsPartition base - 1 := by
        unfold stsPartition
        rw [hspec]
        rfl
      have := gates.pos
      omega
    · unfold annotationOf
      rw [hacc.metadata]
      exact StrMap.get_insert_self _ _ _

/-- Afterwards the version it acted on is a thing of the past. -/
theorem RolloutTakesEffect.superseded (he : RolloutTakesEffect r app sts h c stored c') :
    sts ∈ c'.past .statefulSet (fleetName app) ∧
      c'.live .statefulSet (fleetName app) ≠ some sts := by
  obtain ⟨o, hp, -, -, hname, hlive, hacc, rfl⟩ := he.exact
  refine ⟨(c.later_put stored hp).mem_past (Cluster.mem_past_of_live hlive), ?_⟩
  exact superseded_of_update hlive hname hacc

end

/-- **A pass writes once.**  Whatever write a pass sends, none before it was accepted. -/
theorem reconcileFleet_first {r : Reconciler} {app : WorkerApp} {v : String} {c₀ c : Cluster}
    {h : Trace} {o : StatefulSet} {k : Except Err StatefulSet → P (Except Err FleetOutcome)}
    (hx : Exec Serve Cluster.Later c₀ (reconcileFleet r app v) h c
      (.call (.update .statefulSet o) k)) : Untouched h := by
  have hk : Knows h c := knows_exec (fun _ _ hl => hl) hx
  obtain ⟨hash, existing, hg, -, hsp⟩ :=
    valid_issued (reconcileFleet_valid r app v) hx.steps (.ok o)
  rw [List.nil_append] at hg hsp
  exact hsp.untouched hk (hk.read _ _ _ hg.read)

/-- **Two passes never both write on one version**, however they interleave. -/
theorem effective_writes_differ {r₁ r₂ : Reconciler} {app₁ app₂ : WorkerApp}
    {sts₁ sts₂ stored₁ stored₂ : StatefulSet} {h₁ h₂ : Trace} {c₁ c₁' c₂ c₂' : Cluster}
    (hname : fleetName app₁ = fleetName app₂)
    (he₁ : RolloutTakesEffect r₁ app₁ sts₁ h₁ c₁ stored₁ c₁')
    (hl : c₁'.Later c₂) (he₂ : RolloutTakesEffect r₂ app₂ sts₂ h₂ c₂ stored₂ c₂') :
    sts₁ ≠ sts₂ := by
  rintro rfl
  obtain ⟨hmem, hdead⟩ := he₁.superseded
  obtain ⟨hlive, -⟩ := rolloutStep_effective he₂
  rw [← hname] at hlive
  exact (hl _ _).not_live hmem hdead hlive

/-- **Releases are spaced.**  Where the library reads back the times it wrote, a release from an
object that carries the deadline of an earlier release came ten seconds after it. -/
theorem releases_spaced {r : Reconciler} {app : WorkerApp}
    {sts₁ sts₂ stored₁ stored₂ : StatefulSet} {h₁ h₂ : Trace} {c₁ c₁' c₂ c₂' : Cluster}
    (hlib : ∀ t, r.lib.parseTime (r.lib.formatTime t) = some t)
    (he₁ : RolloutTakesEffect r app sts₁ h₁ c₁ stored₁ c₁')
    (hle₁ : stsPartition sts₁ ≤ stsReplicas sts₁)
    (he₂ : RolloutTakesEffect r app sts₂ h₂ c₂ stored₂ c₂')
    (hle₂ : stsPartition sts₂ ≤ stsReplicas sts₂)
    (hnext : annotationOf sts₂ settleAnnotation = annotationOf stored₁ settleAnnotation) :
    ∃ now₁ now₂, Saw h₁ .now now₁ ∧ Saw h₂ .now now₂ ∧ now₁ + 10 * second ≤ now₂ := by
  obtain ⟨-, ⟨hover, -⟩ | ⟨-, -, -, now₁, hnow₁, hset⟩⟩ := rolloutStep_effective he₁
  · omega
  obtain ⟨-, ⟨hover, -⟩ | ⟨-, -, hgated, -⟩⟩ := rolloutStep_effective he₂
  · omega
  have hdeadline : r.lib.parseTime (annotationOf sts₂ settleAnnotation) =
      some (now₁ + 10 * second) := by
    rw [hnext, hset, hlib]
  obtain ⟨now₂, hnow₂, hle⟩ := hgated.settled _ hdeadline
  exact ⟨now₁, now₂, hnow₁, hnow₂, hle⟩

/-! ## §3. Gated release. -/

/-- **Gated release.**  Against any server state and any interleaving: a write of `rolloutStep`
that takes effect is the clamp to the replica count, or it lowers the partition by one with
every gate passed in that pass; a pass writes at most once; two passes never write on the same
version; and two consecutive releases are ten seconds apart. -/
theorem rolloutStep_gated_release (r : Reconciler) (app : WorkerApp) :
    (∀ sts h c stored c', RolloutTakesEffect r app sts h c stored c' →
      c.live .statefulSet (fleetName app) = some sts ∧
        ((stsReplicas sts < stsPartition sts ∧ stsPartition stored = stsReplicas sts) ∨
          (stsPartition stored + 1 = stsPartition sts ∧ Gated r app sts h))) ∧
    (∀ v c₀ h c o k, Exec Serve Cluster.Later c₀ (reconcileFleet r app v) h c
      (.call (.update .statefulSet o) k) → Untouched h) ∧
    (∀ r' sts h c stored c' sts' h' d stored' d', RolloutTakesEffect r app sts h c stored c' →
      c'.Later d → RolloutTakesEffect r' app sts' h' d stored' d' → sts ≠ sts') ∧
    (∀ sts h c stored c' sts' h' d stored' d',
      (∀ t, r.lib.parseTime (r.lib.formatTime t) = some t) →
      RolloutTakesEffect r app sts h c stored c' → stsPartition sts ≤ stsReplicas sts →
      RolloutTakesEffect r app sts' h' d stored' d' → stsPartition sts' ≤ stsReplicas sts' →
      annotationOf sts' settleAnnotation = annotationOf stored settleAnnotation →
      ∃ now now', Saw h .now now ∧ Saw h' .now now' ∧ now + 10 * second ≤ now') := by
  refine ⟨?_, ?_, ?_, ?_⟩
  · intro sts h c stored c' he
    obtain ⟨hlive, hclamp | ⟨hpart, -, hgated, -⟩⟩ := rolloutStep_effective he
    · exact ⟨hlive, .inl hclamp⟩
    · exact ⟨hlive, .inr ⟨hpart, hgated⟩⟩
  · intro v c₀ h c o k hx
    exact reconcileFleet_first hx
  · intro r' sts h c stored c' sts' h' d stored' d' he hl he'
    exact effective_writes_differ rfl he hl he'
  · intro sts h c stored c' sts' h' d stored' d' hlib he hle he' hle' hnext
    exact releases_spaced hlib he hle he' hle' hnext

/-- A rollout of two nodes in which the second has moved. -/
def halfRolledOut : StatefulSet where
  metadata := { name := "shop-celld", uid := "s1", resourceVersion := 1, generation := 2 }
  spec := ({ replicas := some 2
             template := { spec := fleetPodSpec (sampleApp "celld:v0.6.2" .rolling) }
             partition := some 1 } : StatefulSetSpec)
  status := ({ observedGeneration := 2, updateRevision := "new" } : StatefulSetStatus)

/-- The cluster it lives in. -/
def halfRolledOutCluster : Cluster :=
  { Cluster.empty.put halfRolledOut ⟨by simp [Cluster.empty, Versioned.empty], by decide⟩ with
    pods := [samplePod "shop-celld-0" "s1" "old" halfRolledOut.sspec.template.spec,
      samplePod "shop-celld-1" "s1" "new" halfRolledOut.sspec.template.spec] }

theorem rolloutStep_gated_release_halfRolledOut :
    ∃ h c stored c', RolloutTakesEffect sampleReconciler (sampleApp "celld:v0.6.2" .rolling)
        halfRolledOut h c stored c' ∧ stsPartition stored = 0 ∧
      Gated sampleReconciler (sampleApp "celld:v0.6.2" .rolling) halfRolledOut h := by
  obtain ⟨h, o, stored, -, c, k, c', -, hx, hs⟩ := exists_served (E := Cluster.Later)
    { state := fun _ => .ok (sampleState "1" 0) }
    (rolloutStep sampleReconciler (sampleApp "celld:v0.6.2" .rolling) halfRolledOut)
    halfRolledOutCluster (by decide)
  have he : RolloutTakesEffect sampleReconciler (sampleApp "celld:v0.6.2" .rolling)
      halfRolledOut h c stored c' := by
    refine ⟨halfRolledOutCluster, o, k, ?_, hx, hs⟩
    exact Cluster.mem_past_of_live (by decide)
  obtain ⟨-, ⟨hover, -⟩ | ⟨hpart, hgated⟩⟩ :=
    (rolloutStep_gated_release sampleReconciler (sampleApp "celld:v0.6.2" .rolling)).1 _ _ _ _ _ he
  · exact absurd hover (by decide)
  · exact ⟨h, c, stored, c', he, Nat.succ.inj hpart, hgated⟩

end CelldOperator
