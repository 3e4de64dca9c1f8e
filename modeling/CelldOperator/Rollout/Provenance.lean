/-
  CelldOperator.Rollout.Provenance

  **WHERE A FLEET COMES FROM.**

  Passes of any operators, Kubernetes and the autoscaler take turns over one fleet.
  What all of its states have in common is derived once, from what the operator puts
  into a new StatefulSet and what each of its writes keeps (`SpecRule`):

    • `WorldHas`            — the stored spec satisfies `S`; its template, that of the
      current revision and those of the pods satisfy `T`,
    • `HasPass.call`        — one answered call of a pass keeps it,
    • `worldHas_reachable`  — so does every run,
    • `templateRule`        — the instance for templates alone: each is one that an
      admitted pass has built.
-/
import CelldOperator.Rollout.DurableReplicas
import CelldOperator.Rollout.MixedFleet

namespace CelldOperator

open Effect Prog

/-! ## §1. The runs. -/

/-- **The system**: the admitted passes over the WorkerApp `name`, interleaved at every call with
Kubernetes and the autoscaler. -/
def fleetRuns (name : String) (admits : FleetPass → Prop) :
    System Api World FleetPass (Except Err FleetOutcome) where
  serve := ServeWorld
  during := ScaleMove (name ++ "-celld") fun _ _ => True
  between := ScaleMove (name ++ "-celld") fun _ _ => True
  job := fun j => reconcileFleet j.r j.app j.appVersion
  admits := fun _ j => j.app.name = name ∧ admits j

/-- **What admitted passes keep** of a stored spec, and of the templates it brings. -/
structure SpecRule (admits : FleetPass → Prop) (S : StatefulSetSpec → Prop)
    (T : PodTemplate → Prop) : Prop where
  created : ∀ (j : FleetPass) (hash : String), admits j →
    S (desiredFleet j.r j.app hash j.appVersion).sspec
  scaled : ∀ (sts : StatefulSet) (count : Nat), S sts.sspec → S (scaleTo sts count).sspec
  written : ∀ {j : FleetPass} {h : Trace} {c : Cluster} {n hash : String}
    {existing sent : StatefulSet}, admits j → Knows h c → existing ∈ c.past .statefulSet n →
    FleetWrite j.r j.app existing (desiredFleet j.r j.app hash j.appVersion) h sent →
    S existing.sspec → S sent.sspec
  template : ∀ spec, S spec → T spec.template

theorem SpecRule.mono {admits admits' : FleetPass → Prop} {S : StatefulSetSpec → Prop}
    {T : PodTemplate → Prop} (hr : SpecRule admits S T) (h : ∀ j, admits' j → admits j) :
    SpecRule admits' S T where
  created := fun j hash hj => hr.created j hash (h j hj)
  scaled := hr.scaled
  written := fun hj hk hmem hw hs => hr.written (h _ hj) hk hmem hw hs
  template := hr.template

/-- A pod made from a template that satisfies `T`. -/
def MadeFrom (T : PodTemplate → Prop) (pod : Pod) : Prop :=
  ∃ template, T template ∧ pod.spec = template.spec

/-- **The invariant**: the stored spec, the current revision and the pods. -/
structure WorldHas (S : StatefulSetSpec → Prop) (T : PodTemplate → Prop) (n : String)
    (w : World) : Prop where
  stored : ∀ sts, w.cluster.live .statefulSet n = some sts → S sts.sspec
  current : ∀ sts, w.cluster.live .statefulSet n = some sts → T w.current
  pods : ∀ pod ∈ w.cluster.pods, MadeFrom T pod

/-- Inside a pass. -/
structure HasPass (S : StatefulSetSpec → Prop) (T : PodTemplate → Prop) (j : FleetPass) (h : Trace)
    (w : World) : Prop where
  knows : Knows h w.cluster
  has : WorldHas S T (fleetName j.app) w

/-! ## §2. What the others do. -/

section

variable {admits : FleetPass → Prop} {S : StatefulSetSpec → Prop} {T : PodTemplate → Prop}
  {n name : String} {w w' : World} {j : FleetPass} {h : Trace}

/-- A StatefulSet is stored in the place of another with the current revision. -/
theorem WorldHas.put {sts stored : StatefulSet} {hp : w.cluster.Storable stored}
    (hw : WorldHas S T n w) (hlive : w.cluster.live .statefulSet n = some sts)
    (hname : stored.metadata.name = n) (hs : S stored.sspec) :
    WorldHas S T n { w with cluster := w.cluster.put stored hp } where
  stored := by
    intro sts' hlive'
    rw [live_of_put ⟨hp, rfl⟩ hname] at hlive'
    cases hlive'
    exact hs
  current := fun _ _ => hw.current sts hlive
  pods := hw.pods

theorem templateFor_has (hr : SpecRule admits S T) (hw : WorldHas S T n w) {sts : StatefulSet}
    (hlive : w.cluster.live .statefulSet n = some sts) (i : Nat) : T (templateFor w sts i) := by
  unfold templateFor
  split
  · exact hr.template _ (hw.stored sts hlive)
  · exact hw.current sts hlive

/-- **Kubernetes** makes pods from the templates there are. -/
theorem WorldHas.kube (hr : SpecRule admits S T) (hw : WorldHas S T n w)
    (hm : KubeMove n w w') : WorldHas S T n w' := by
  cases hm with
  | pods pods kept =>
    refine ⟨hw.stored, hw.current, fun pod' hpod' => ?_⟩
    obtain ⟨pod, hpod, hsame⟩ := kept pod' hpod'
    obtain ⟨template, htemplate, hspec⟩ := hw.pods pod hpod
    exact ⟨template, htemplate, hsame.spec.trans hspec⟩
  | create sts i pod live below missing made =>
    refine ⟨hw.stored, hw.current, fun pod' hpod' => ?_⟩
    rcases List.mem_cons.mp hpod' with rfl | hpod'
    · exact ⟨_, templateFor_has hr hw live i, made.spec⟩
    · exact hw.pods pod' hpod'
  | promote sts live complete =>
    exact ⟨hw.stored, fun _ _ => hr.template _ (hw.stored sts live), hw.pods⟩
  | report sts sts' live same hp =>
    have hspec : sts'.sspec = sts.sspec := same.spec
    exact hw.put live (same.name live) (hspec ▸ hw.stored sts live)
  | others c' later same pods =>
    have hlive : c'.live .statefulSet n = w.cluster.live .statefulSet n := by
      unfold Cluster.live
      rw [same]
    refine ⟨fun sts h => hw.stored sts (hlive ▸ h), fun sts h => hw.current sts (hlive ▸ h), ?_⟩
    show ∀ pod ∈ c'.pods, MadeFrom T pod
    rw [pods]
    exact hw.pods

/-- The autoscaler sets the count. -/
theorem WorldHas.scale (hr : SpecRule admits S T) {may : World → WorkerApp → Prop}
    (hw : WorldHas S T n w) (hm : ScaleMove n may w w') : WorldHas S T n w' := by
  cases hm with
  | kube move => exact hw.kube hr move
  | autoscale app allowed lo hi bounds count above below sts stored live accepted hp =>
    have hname : stored.metadata.name = n := by
      rw [accepted.metadata]
      exact (Cluster.name_of_live live :)
    have hspec : stored.sspec = (scaleTo sts count).sspec := accepted.spec
    exact hw.put live hname (hspec ▸ hr.scaled sts count (hw.stored sts live))

/-! ## §3. What a pass does. -/

theorem HasPass.move (hr : SpecRule admits S T) {may : World → WorkerApp → Prop}
    (hp : HasPass S T j h w) (hm : ScaleMove (fleetName j.app) may w w') : HasPass S T j h w' :=
  ⟨hp.knows.later hm.later, hp.has.scale hr hm⟩

/-- **One answered call of a pass.** -/
theorem HasPass.call (hr : SpecRule admits S T) (hj : admits j) {o : Op} {res : Resp o}
    (hp : HasPass S T j h w) (he : FleetEvent j.r j.app j.appVersion h ⟨o, res⟩)
    (hs : ServeWorld w o res w') : HasPass S T j (h ++ [⟨o, res⟩]) w' := by
  refine ⟨hp.knows.serve hs.1, ?_⟩
  obtain ⟨hserve, hcurrent⟩ := hs
  have hmove := fleetMove_of_serve hp.knows he hserve
  generalize heq : (⟨o, res⟩ : Event Api) = e at hmove
  cases hmove with
  | idle same pods quiet =>
    subst heq
    have hlive : w'.cluster.live .statefulSet (fleetName j.app) =
        w.cluster.live .statefulSet (fleetName j.app) := by
      unfold Cluster.live
      rw [same]
    rw [currentAfter_of_not_acknowledged quiet] at hcurrent
    refine ⟨fun sts h => hp.has.stored sts (hlive ▸ h), fun sts h => ?_, ?_⟩
    · rw [hcurrent]
      exact hp.has.current sts (hlive ▸ h)
    · rw [pods]
      exact hp.has.pods
  | created hash stored absent made moved =>
    cases heq
    have hname : stored.metadata.name = fleetName j.app := by
      rw [made.metadata]
      rfl
    have hspec : S stored.sspec := by
      have heq : stored.sspec = (desiredFleet j.r j.app hash j.appVersion).sspec := made.spec
      rw [heq]
      exact hr.created j hash hj
    have hlive := live_of_put moved hname
    refine ⟨fun sts h => ?_, fun sts h => ?_, ?_⟩
    · rw [hlive] at h
      cases h
      exact hspec
    · -- a new StatefulSet starts with its own template
      rw [hcurrent]
      exact hr.template _ hspec
    · obtain ⟨_, hput⟩ := moved
      rw [hput]
      exact hp.has.pods
  | wrote hash existing sent stored guards write first live accepted named moved =>
    cases heq
    have hspec : S stored.sspec := by
      have heq : stored.sspec = sent.sspec := accepted.spec
      rw [heq]
      exact hr.written hj hp.knows (Cluster.mem_past_of_live live) write
        (hp.has.stored existing live)
    have hlive := live_of_put moved named
    have hkept : w'.current = w.current := hcurrent
    refine ⟨fun sts h => ?_, fun sts h => ?_, ?_⟩
    · rw [hlive] at h
      cases h
      exact hspec
    · rw [hkept]
      exact hp.has.current existing live
    · obtain ⟨_, hput⟩ := moved
      rw [hput]
      exact hp.has.pods

/-! ## §4. Whole runs. -/

/-- Before the fleet is created: no StatefulSet, and no pods but such as satisfy `T`. -/
def NoFleetYet (T : PodTemplate → Prop) (name : String) (w : World) : Prop :=
  NoFleet name w ∧ ∀ pod ∈ w.cluster.pods, MadeFrom T pod

/-- **Every run keeps it.** -/
theorem worldHas_reachable (hr : SpecRule admits S T)
    (hreach : (fleetRuns name admits).Reachable (NoFleetYet T name) w) :
    WorldHas S T (name ++ "-celld") w := by
  refine System.reachable_invariant (A := WorldHas S T (name ++ "-celld")) ?_ ?_ hreach
  · rintro w ⟨hnone, hpods⟩
    have hnever : ∀ sts, w.cluster.live .statefulSet (name ++ "-celld") ≠ some sts := by
      intro sts h
      cases hnone.symm.trans h
    exact ⟨fun sts h => absurd h (hnever sts), fun sts h => absurd h (hnever sts), hpods⟩
  intro w w' hi hstep
  refine System.step_invariant (A := WorldHas S T (name ++ "-celld"))
    (H := fun j h w => (j.app.name = name ∧ admits j) ∧ HasPass S T j h w)
    (fun _ j _ => reconcileFleet_valid j.r j.app j.appVersion) ?_ ?_ ?_ ?_ ?_ hi hstep
  · exact fun w w' hi hmove => hi.scale hr hmove
  · rintro w j hi ⟨rfl, hj⟩
    exact ⟨⟨rfl, hj⟩, knows_nil _, hi⟩
  · rintro j h w w' ⟨⟨rfl, hj⟩, hp⟩ hmove
    exact ⟨⟨rfl, hj⟩, hp.move hr hmove⟩
  · rintro j h w o res w' ⟨⟨rfl, hj⟩, hp⟩ he hs
    exact ⟨⟨rfl, hj⟩, hp.call hr hj he hs⟩
  · rintro j h w ⟨⟨rfl, hj⟩, hp⟩
    exact hp.has

end

/-! ## §5. Templates alone. -/

/-- The template an admitted pass has built. -/
def BuiltBy (admits : FleetPass → Prop) (template : PodTemplate) : Prop :=
  ∃ (j : FleetPass) (hash : String), admits j ∧
    template = buildPodTemplate j.app hash j.appVersion

/-- **A template is kept, or it is the one of the pass.** -/
theorem templateRule (admits : FleetPass → Prop) :
    SpecRule admits (fun spec => BuiltBy admits spec.template) (BuiltBy admits) where
  created := fun j hash hj => ⟨j, hash, hj, rfl⟩
  scaled := fun _ _ h => h
  written := by
    intro j h c n hash existing sent hj hk hmem hw hs
    rcases hw.template_cases hk hmem with hold | hnew
    · rw [hold]
      exact hs
    · exact ⟨j, hash, hj, hnew⟩
  template := fun _ h => h

end CelldOperator
