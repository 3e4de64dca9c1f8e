/-
  CelldOperator.Rollout.DurabilityFloor

  **THE V0.3 DURABILITY FLOOR.**  From v0.3 on acknowledged writes may sit in the
  nodes' replicated log, which older nodes cannot read; `runtimeChangeRefusal`
  refuses to go back below it.  It compares the live image with the next one only,
  and an image whose tag does not fit 64 bits has no version to compare.

    • `reachesFloor_of_permitted` — one permitted change keeps the floor, if a
      Recreate spec names an image that parses,
    • `FloorInv` — whoever reached it is still there; kept by every step,
    • `durabilityFloor_kept` — so no version of the StatefulSet crosses it downwards,
    • `durabilityFloor_crossed` — v0.4.0, a tag too large to parse, v0.2.1.

  The server keeps every version of an object, so the history of the StatefulSet
  needs no ghost state.
-/
import CelldOperator.Rollout.FleetSystem

namespace CelldOperator

open Effect Prog

/-! ## §1. The floor. -/

/-- The first minor whose writes older nodes cannot read. -/
def durabilityFloor : MinorVersion := ⟨0, 3⟩

/-- The image parses, to a version at or above the floor. -/
def ReachesFloor (image : String) : Prop := ∃ v, minorOf image = some v ∧ durabilityFloor ≤ v

/-- The image parses, to a version below the floor. -/
def BelowFloor (image : String) : Prop := ∃ v, minorOf image = some v ∧ ¬ durabilityFloor ≤ v

instance (image : String) : Decidable (ReachesFloor image) :=
  decidable_of_iff ((minorOf image).any (fun v => decide (durabilityFloor ≤ v)) = true)
    (by simp [ReachesFloor, Option.any_eq_true])

instance (image : String) : Decidable (BelowFloor image) :=
  decidable_of_iff ((minorOf image).any (fun v => decide (¬ durabilityFloor ≤ v)) = true)
    (by simp [BelowFloor, Option.any_eq_true])

theorem ReachesFloor.not_below {image : String} (h : ReachesFloor image) : ¬ BelowFloor image := by
  rintro ⟨w, hw, hnot⟩
  obtain ⟨v, hv, hle⟩ := h
  cases hv.symm.trans hw
  exact hnot hle

/-- **The condition on a spec**, over a live image at the floor: under Recreate, the image it
names parses. -/
def Parses (app : WorkerApp) (live : String) : Prop :=
  ReachesFloor live → app.spec.celld.updateStrategy = .recreate →
    (minorOf app.spec.celld.image).isSome = true

/-- **One permitted change.** -/
theorem reachesFloor_of_permitted {r : Reconciler} {app : WorkerApp} {live : String}
    (hvalid : validateApp r app = .ok ()) (hpermitted : runtimeChangeRefusal app live = "")
    (hparses : Parses app live) (hfloor : ReachesFloor live) :
    ReachesFloor app.spec.celld.image := by
  obtain ⟨v, hv, hle⟩ := id hfloor
  unfold runtimeChangeRefusal at hpermitted
  dsimp only at hpermitted
  rw [hv] at hpermitted
  cases hw : minorOf app.spec.celld.image with
  | some w =>
    refine ⟨w, hw, ?_⟩
    by_contra hnot
    -- the two comparisons of the source come out as they should
    have hrange := minorOf_range hv
    have hfrom : 0 ≤ v.cmp ⟨0, 3⟩ :=
      MinorVersion.cmp_nonneg ⟨hrange.1.2, hrange.2.2⟩ (by decide) hle
    have hto : w.cmp ⟨0, 3⟩ < 0 :=
      MinorVersion.cmp_neg (minor_nonneg_of_valid hvalid hw) (by decide) hnot
    rw [hw] at hpermitted
    simp [hfrom, hto] at hpermitted
  | none =>
    -- refused unless the image stays, which parses, or under Recreate
    have hne : live ≠ app.spec.celld.image := by
      rintro rfl
      rw [hw] at hv
      cases hv
    have hrecreate : app.spec.celld.updateStrategy = .recreate := by
      by_contra hroll
      rw [hw] at hpermitted
      simp [hne, hroll] at hpermitted
    have hsome := hparses hfloor hrecreate
    rw [hw] at hsome
    cases hsome

/-! ## §2. The history of the StatefulSet. -/

/-- The celld image of the template. -/
def stsImage (sts : StatefulSet) : String := stsContainerImage sts.sspec.template.spec

/-- **The floor is kept**: of the versions of the StatefulSet so far, newest first, none below
the floor came after one that had reached it. -/
def FloorKept (n : String) (c : Cluster) : Prop :=
  (c.past .statefulSet n).Pairwise fun newer older =>
    ReachesFloor (stsImage older) → ¬ BelowFloor (stsImage newer)

instance (n : String) (c : Cluster) : Decidable (FloorKept n c) :=
  inferInstanceAs (Decidable (List.Pairwise _ _))

/-- The floor is kept, and if it was ever reached the live object is there. -/
structure FloorInv (n : String) (c : Cluster) : Prop where
  kept : FloorKept n c
  there : ∀ v ∈ c.past .statefulSet n, ReachesFloor (stsImage v) →
    ∃ s, c.live .statefulSet n = some s ∧ ReachesFloor (stsImage s)

section

variable {n : String} {c c' : Cluster}

theorem FloorInv.congr (hi : FloorInv n c)
    (hsame : c'.store .statefulSet n = c.store .statefulSet n) : FloorInv n c' := by
  have hpast : c'.past .statefulSet n = c.past .statefulSet n := congrArg Versioned.past hsame
  have hlive : c'.live .statefulSet n = c.live .statefulSet n := congrArg Versioned.live hsame
  constructor
  · unfold FloorKept
    rw [hpast]
    exact hi.kept
  · rw [hpast, hlive]
    exact hi.there

/-- A new version that is at the floor if the live one is. -/
theorem FloorInv.put {stored : StatefulSet} (hi : FloorInv n c)
    (hmoved : ∃ hp, c' = c.put stored hp) (hname : stored.metadata.name = n)
    (hfloor : ∀ s, c.live .statefulSet n = some s → ReachesFloor (stsImage s) →
      ReachesFloor (stsImage stored)) : FloorInv n c' := by
  have hlive := live_of_put hmoved hname
  have hpast : c'.past .statefulSet n = stored :: c.past .statefulSet n := by
    obtain ⟨hp, rfl⟩ := hmoved
    subst hname
    exact c.put_past stored hp
  have hnew : ∀ v ∈ c.past .statefulSet n, ReachesFloor (stsImage v) →
      ReachesFloor (stsImage stored) := by
    intro v hv hreached
    obtain ⟨s, hs, hthere⟩ := hi.there v hv hreached
    exact hfloor s hs hthere
  constructor
  · unfold FloorKept
    rw [hpast, List.pairwise_cons]
    exact ⟨fun v hv hreached => (hnew v hv hreached).not_below, hi.kept⟩
  · intro v hv hreached
    rw [hpast] at hv
    refine ⟨stored, hlive, ?_⟩
    rcases List.mem_cons.mp hv with rfl | hv
    · exact hreached
    · exact hnew v hv hreached

end

/-! ## §3. What a pass and Kubernetes do to it. -/

/-- Inside a pass. -/
structure FloorPass (r : Reconciler) (app : WorkerApp) (h : Trace) (c : Cluster) : Prop where
  valid : validateApp r app = .ok ()
  knows : Knows h c
  inv : FloorInv (fleetName app) c
  parses : ∀ s, c.live .statefulSet (fleetName app) = some s → Parses app (stsImage s)

/-- Kubernetes keeps the image. -/
theorem KubeMove.floor {n : String} {w w' : World} (hm : KubeMove n w w') :
    (FloorInv n w.cluster → FloorInv n w'.cluster) ∧
      ∀ s', w'.cluster.live .statefulSet n = some s' →
        ∃ s, w.cluster.live .statefulSet n = some s ∧ stsImage s' = stsImage s := by
  cases hm with
  | pods | create | promote => exact ⟨fun hi => hi.congr rfl, fun s' hs => ⟨s', hs, rfl⟩⟩
  | others c' later same pods =>
    refine ⟨fun hi => hi.congr same, fun s' hs => ⟨s', ?_, rfl⟩⟩
    unfold Cluster.live at hs ⊢
    rw [← same]
    exact hs
  | report sts sts' live same hp =>
    have hname := same.name live
    have himage : stsImage sts' = stsImage sts :=
      congrArg (fun spec : StatefulSetSpec => stsContainerImage spec.template.spec) same.spec
    constructor
    · refine fun hi => hi.put ⟨hp, rfl⟩ hname ?_
      intro s hs hreached
      cases live.symm.trans hs
      rw [himage]
      exact hreached
    · intro s' hs
      rw [live_of_put ⟨hp, rfl⟩ hname] at hs
      cases hs
      exact ⟨sts, live, himage⟩

theorem FloorPass.kube {r : Reconciler} {app : WorkerApp} {h : Trace} {w w' : World}
    (hf : FloorPass r app h w.cluster) (hm : KubeMove (fleetName app) w w') :
    FloorPass r app h w'.cluster := by
  obtain ⟨hkeeps, himage⟩ := hm.floor
  refine ⟨hf.valid, hf.knows.later hm.later, hkeeps hf.inv, ?_⟩
  intro s' hs
  obtain ⟨s, hlive, heq⟩ := himage s' hs
  rw [heq]
  exact hf.parses s hlive

/-- **One answered call of a pass.** -/
theorem FloorPass.call {r : Reconciler} {app : WorkerApp} {v : String} {h : Trace} {c c' : Cluster}
    {o : Op} {res : Resp o} (hf : FloorPass r app h c) (he : FleetEvent r app v h ⟨o, res⟩)
    (hs : Serve c o res c') : FloorPass r app (h ++ [⟨o, res⟩]) c' := by
  have hknows := hf.knows.serve hs
  have hmove := fleetMove_of_serve hf.knows he hs
  generalize heq : (⟨o, res⟩ : Event Api) = e at hmove hknows ⊢
  cases hmove with
  | idle same pods quiet =>
    have hlive : c'.live .statefulSet (fleetName app) = c.live .statefulSet (fleetName app) :=
      congrArg Versioned.live (same _)
    refine ⟨hf.valid, hknows, hf.inv.congr (same _), ?_⟩
    rw [hlive]
    exact hf.parses
  | created hash stored absent made moved =>
    have hname : stored.metadata.name = fleetName app := by
      rw [made.metadata]
      rfl
    have himage : stsImage stored = app.spec.celld.image :=
      congrArg (fun spec : StatefulSetSpec => stsContainerImage spec.template.spec) made.spec
    refine ⟨hf.valid, hknows, hf.inv.put moved hname ?_, ?_⟩
    · intro s hlive
      cases absent.symm.trans hlive
    · intro s hlive hreached _
      rw [live_of_put moved hname] at hlive
      cases hlive
      obtain ⟨w, hw, -⟩ := hreached
      rw [← himage, hw]
      rfl
  | wrote hash existing sent stored guards write first live accepted named moved =>
    have hstored : stsImage stored = stsImage existing ∨
        stsImage stored = app.spec.celld.image := by
      have htemplate : stored.sspec.template = sent.sspec.template :=
        congrArg StatefulSetSpec.template accepted.spec
      unfold stsImage
      rw [htemplate]
      rcases write.template_cases hf.knows (Cluster.mem_past_of_live live) with heq | heq
      · exact .inl (by rw [heq])
      · exact .inr (by rw [heq]; rfl)
    refine ⟨hf.valid, hknows, hf.inv.put moved named ?_, ?_⟩
    · intro s hlive hreached
      cases live.symm.trans hlive
      rcases hstored with heq | heq
      · rw [heq]
        exact hreached
      · rw [heq]
        exact reachesFloor_of_permitted hf.valid guards.permitted (hf.parses _ live) hreached
    · intro s hlive hreached hrecreate
      rw [live_of_put moved named] at hlive
      cases hlive
      rcases hstored with heq | heq
      · rw [heq] at hreached
        exact hf.parses _ live hreached hrecreate
      · obtain ⟨w, hw, -⟩ := hreached
        rw [← heq, hw]
        rfl

/-! ## §4. Whole runs. -/

/-- The run starts with the StatefulSet as it is, or none: nothing came before. -/
def Begins (name : String) (w : World) : Prop :=
  ∀ v ∈ w.cluster.past .statefulSet (name ++ "-celld"),
    w.cluster.live .statefulSet (name ++ "-celld") = some v

/-- **The condition at the start of a pass**: over a live image at the floor, a Recreate spec
names an image that parses. -/
def ParsesLive (w : World) (j : FleetPass) : Prop :=
  ∀ s, w.cluster.live .statefulSet (fleetName j.app) = some s → Parses j.app (stsImage s)

theorem floorInv_begins {name : String} {w : World} (hb : Begins name w) :
    FloorInv (name ++ "-celld") w.cluster := by
  refine ⟨?_, fun v hv hreached => ⟨v, hb v hv, hreached⟩⟩
  -- all versions are the live one
  refine List.pairwise_iff_forall_sublist.mpr ?_
  intro newer older hsub hreached
  have hnewer := hb newer (hsub.subset (List.mem_cons_self ..))
  have holder := hb older (hsub.subset (List.mem_cons_of_mem _ (List.mem_singleton_self _)))
  cases hnewer.symm.trans holder
  exact hreached.not_below

theorem floorInv_reachable {name : String} {w : World}
    (h : (fleetSystem name ParsesLive).Reachable (Begins name) w) :
    FloorInv (name ++ "-celld") w.cluster := by
  refine System.reachable_invariant (A := fun w => FloorInv (name ++ "-celld") w.cluster)
    (fun w hb => floorInv_begins hb) ?_ h
  intro w w' hi hstep
  refine System.step_invariant (A := fun w => FloorInv (name ++ "-celld") w.cluster)
    (H := fun j h w => j.app.name = name ∧ FloorPass j.r j.app h w.cluster)
    (fun _ j _ => reconcileFleet_valid j.r j.app j.appVersion) ?_ ?_ ?_ ?_ ?_ hi hstep
  · exact fun w w' hi hmove => hmove.floor.1 hi
  · rintro w j hi ⟨rfl, hvalid, hparses⟩
    exact ⟨rfl, hvalid, knows_nil _, hi, hparses⟩
  · rintro j h w w' ⟨rfl, hf⟩ hmove
    exact ⟨rfl, hf.kube hmove⟩
  · rintro j h w o res w' ⟨rfl, hf⟩ he hs
    exact ⟨rfl, hf.call he hs.1⟩
  · rintro j h w ⟨rfl, hf⟩
    exact hf.inv

/-- **The floor is never crossed downwards**, in every run in which no pass brings a Recreate
spec with an image that does not parse over a live image at the floor. -/
theorem durabilityFloor_kept (name : String) (w : World)
    (h : (fleetSystem name ParsesLive).Reachable (Begins name) w) :
    FloorKept (name ++ "-celld") w.cluster :=
  (floorInv_reachable h).kept

/-! ## §5. From v0.4.0 to v0.2.1. -/

/-- Two passes with a Recreate spec of this image: stop, as the controller then reports, and
start. -/
def recreateWith (image : String) (w : World) : World :=
  runPass (sampleApp image .recreate)
    (observe ("shop" ++ "-celld") (runPass (sampleApp image .recreate) w))

theorem reachable_recreateWith {may : World → FleetPass → Prop} {init : World → Prop} {w : World}
    (hr : (fleetSystem "shop" may).Reachable init w) (image : String)
    (hvalid : validateApp sampleReconciler (sampleApp image .recreate) = .ok ())
    (hmay : ∀ w, may w (samplePass (sampleApp image .recreate))) :
    (fleetSystem "shop" may).Reachable init (recreateWith image w) :=
  reachable_runPass (reachable_observe (reachable_runPass hr _ rfl hvalid (hmay _))) _ rfl hvalid
    (hmay _)

/-- A fleet created at v0.4.0. -/
def created040 : World :=
  runPass (sampleApp "ghcr.io/denoland/celld:v0.4.0" .recreate) emptyWorld

theorem reachable_created040 {may : World → FleetPass → Prop}
    (hmay : may emptyWorld (samplePass (sampleApp "ghcr.io/denoland/celld:v0.4.0" .recreate))) :
    (fleetSystem "shop" may).Reachable (Begins "shop") created040 :=
  reachable_runPass ⟨emptyWorld, fun _ hv => (List.not_mem_nil hv).elim, .refl⟩ _ rfl (by decide)
    hmay

/-- v0.4.0, then v0.2.1: the second change is refused. -/
theorem durabilityFloor_kept_refused :
    (recreateWith "ghcr.io/denoland/celld:v0.2.1" created040).cluster.past .statefulSet
      ("shop" ++ "-celld") ≠ [] ∧
    FloorKept ("shop" ++ "-celld")
      (recreateWith "ghcr.io/denoland/celld:v0.2.1" created040).cluster :=
  ⟨by decide +kernel,
    durabilityFloor_kept "shop" _ (reachable_recreateWith
      (reachable_created040 fun _ _ _ _ => by decide) _ (by decide)
      fun _ _ _ _ _ => by decide)⟩

/-- v0.4.0, a tag that passes the regular expression and does not fit 64 bits, v0.2.1. -/
def crossed021 : World :=
  recreateWith "ghcr.io/denoland/celld:v0.2.1"
    (recreateWith "ghcr.io/denoland/celld:v99999999999999999999.0.0" created040)

/-- **Without the condition** the floor is crossed. -/
theorem durabilityFloor_crossed :
    (fleetSystem "shop" fun _ _ => True).Reachable (Begins "shop") crossed021 ∧
      ¬ FloorKept ("shop" ++ "-celld") crossed021.cluster :=
  ⟨reachable_recreateWith (reachable_recreateWith (reachable_created040 trivial) _ (by decide)
      fun _ => trivial) _ (by decide) fun _ => trivial, by decide +kernel⟩

end CelldOperator
