/-
  CelldOperator.Pass.FleetValid

  **THE INVERSION LEMMA OF A PASS**, function by function.

  Each lemma walks one function of the rollout state machine and says that its
  StatefulSet writes are `FleetWrite`s under the guards and that its results are
  `FleetExit`s.  `reconcileFleet_valid` assembles them; nothing after this module
  unfolds the state machine again.
-/
import CelldOperator.Pass.FleetSpec

namespace CelldOperator

open Effect Prog

/-! ## §1. What the gates' functions establish. -/

/-- The settle gate is passed only at a clock reading past the deadline. -/
theorem settleWait_none {lib : Lib} {sts : StatefulSet} {t : Trace}
    (ht : Runs (settleWait lib sts) t none) {deadline : Time}
    (hd : lib.parseTime (annotationOf sts settleAnnotation) = some deadline) :
    ∃ now, Saw t .now now ∧ deadline ≤ now := by
  have hv : Valid (fun _ _ => True) [] (settleWait lib sts)
      (fun h a => a = none → ∃ now, Saw h .now now ∧ deadline ≤ now) := by
    unfold settleWait
    rw [hd]
    rw [valid_bind]
    refine valid_ask fun now => ⟨trivial, ?_⟩
    split
    · rw [valid_bind]
      refine valid_ask fun later => ⟨trivial, valid_exit ?_⟩
      intro hnone
      cases hnone
    · next hle => exact valid_exit fun _ => ⟨now, saw_last _ _ _, not_lt.mp hle⟩
  exact valid_runs hv ht rfl

/-- Gate 1 passes only when every listed ordinal was read at the revision and Ready. -/
theorem checkReleased_none {app : WorkerApp} {revision : String} {ords : List Nat} {t : Trace}
    (ht : Runs (checkReleased app revision ords) t none) {i : Nat} (hi : i ∈ ords) :
    ∃ pod, Saw t (.getPod (ordinalName (fleetName app) i)) (.ok pod) ∧
      pod.labels.get "controller-revision-hash" = revision ∧ podReady pod = true := by
  -- The induction is on the ordinals; the history is general because each read extends it.
  have hv : ∀ (ords : List Nat) (h : Trace), Valid (fun _ _ => True) h
      (checkReleased app revision ords) (fun h' a => (∃ t, h' = h ++ t) ∧ (a = none →
        ∀ i ∈ ords, ∃ pod, Saw h' (.getPod (ordinalName (fleetName app) i)) (.ok pod) ∧
          pod.labels.get "controller-revision-hash" = revision ∧ podReady pod = true)) := by
    intro ords
    induction ords with
    | nil =>
      intro h
      exact valid_exit ⟨⟨[], by simp⟩, by simp⟩
    | cons ord ords ih =>
      intro h
      unfold checkReleased
      rw [valid_bind]
      refine valid_ask fun res => ⟨trivial, ?_⟩
      cases res with
      | error e => exact valid_exit ⟨⟨_, rfl⟩, by simp⟩
      | ok pod =>
        dsimp only
        split
        · exact valid_exit ⟨⟨_, rfl⟩, by simp⟩
        · next hrev =>
          split
          · exact valid_exit ⟨⟨_, rfl⟩, by simp⟩
          · next hready =>
            refine (ih _).post ?_
            rintro h' a ⟨⟨u, rfl⟩, hrest⟩
            refine ⟨⟨_, List.append_assoc _ _ _⟩, ?_⟩
            intro ha j hj
            rcases List.mem_cons.mp hj with rfl | hj
            · exact ⟨pod, (saw_last _ _ _).append u, by simpa using hrev,
                by simpa using hready⟩
            · exact hrest ha j hj
  obtain ⟨-, hall⟩ := valid_runs (hv ords []) ht
  simpa using hall rfl i hi

/-- The mixed-fleet check says nothing only after looking at the template and at the latest
pod list. -/
theorem liveFleetBreakingReason_ok {app : WorkerApp} {existing desired : StatefulSet} {t : Trace}
    {breaking : String}
    (ht : Runs (liveFleetBreakingReason app existing desired) t (.ok breaking))
    (hb : breaking = "") :
    fleetBreakingReason existing.sspec.template.spec desired.sspec.template.spec = "" ∧
      ∃ pods, t = [⟨.listPods (selectorLabels app), .ok pods⟩] ∧
        podsBreakingReason existing desired pods.val = "" := by
  have hv : Valid (fun _ _ => True) [] (liveFleetBreakingReason app existing desired)
      (fun h a => a = .ok "" →
        fleetBreakingReason existing.sspec.template.spec desired.sspec.template.spec = "" ∧
          ∃ pods, h = [⟨.listPods (selectorLabels app), .ok pods⟩] ∧
            podsBreakingReason existing desired pods.val = "") := by
    unfold liveFleetBreakingReason
    dsimp only
    split
    · next hne => exact valid_exit fun heq => absurd (Except.ok.inj heq) hne
    · next heq =>
      refine valid_check (valid_ask fun res => ⟨trivial, ?_⟩)
      cases res with
      | error e => intro he; cases he
      | ok pods =>
        exact valid_exit fun hok => ⟨not_not.mp heq, pods, rfl, Except.ok.inj hok⟩
  exact valid_runs hv ht (by rw [hb])

/-- No objection over the listed pods is no objection to any pod of the fleet among them. -/
theorem podsBreakingReason_empty {existing desired : StatefulSet} {pods : List Pod}
    (h : podsBreakingReason existing desired pods = "") {pod : Pod} (hpod : pod ∈ pods)
    (howned : isControlledBy pod.ownerReferences existing.metadata.uid = true) :
    fleetBreakingReason pod.spec desired.sspec.template.spec = "" := by
  induction pods with
  | nil => cases hpod
  | cons p pods ih =>
    unfold podsBreakingReason at h
    rcases List.mem_cons.mp hpod with rfl | hmem
    · rw [howned] at h
      dsimp only [Bool.not_true] at h
      split at h
      · contradiction
      · split at h
        · next hne =>
          -- a reported reason carries the pod's name, so it is not the empty text
          have := congrArg String.length h
          simp at this
        · next heq => exact not_not.mp heq
    · split at h
      · exact ih h hmem
      · dsimp only at h
        split at h
        · next hne =>
          have := congrArg String.length h
          simp at this
        · exact ih h hmem

/-! ## §2. Function by function. -/

section

variable {r : Reconciler} {app : WorkerApp} {appVersion hash : String} {h : Trace}
  {existing desired : StatefulSet}

/-- An outcome with another requeue than the pause wait. -/
theorem ne_pauseWait_of_requeue {out : FleetOutcome} {n : Time} (hr : out.requeue = n * second)
    (hn : n ≠ 5) : out ≠ pauseWaitOutcome := by
  rintro rfl
  exact hn (Int.eq_of_mul_eq_mul_right (by decide) hr).symm

/-- An outcome with another text than the pause wait. -/
theorem ne_pauseWait_of_waitingOn {out : FleetOutcome}
    (hw : out.waitingOn ≠ pauseWaitOutcome.waitingOn) : out ≠ pauseWaitOutcome := by
  rintro rfl
  exact hw rfl

section rollout

variable {I : Trace → Event Api → Prop} (hI : ∀ h e, e.op.writes ≠ some .statefulSet → I h e)
include hI

theorem releaseNext_valid {base : StatefulSet} {partition : Nat}
    (hstart : ∀ t, ReleaseBase existing (h ++ t) base partition)
    (hw : ∀ t o res, RolloutWrite r app existing (h ++ t) o → Spared existing (h ++ t) →
      I (h ++ t) ⟨.update .statefulSet o, res⟩)
    (hs : base.sstatus.observedGeneration = base.metadata.generation → Spared existing h)
    (hcalm : Calm h) :
    Valid I h (releaseNext r app base partition (stsReplicas existing))
      (RolloutExit app existing) := by
  unfold releaseNext
  dsimp only
  split
  · exact valid_exit (.moving _ trivial (ne_pauseWait_of_requeue rfl (by decide)) hcalm)
  · next hgate =>
    push Not at hgate
    obtain ⟨hpos, hobs⟩ := hgate
    have hs := hs hobs
    rw [valid_bind]
    refine stepOver hI (settleWait_reads _ _) (fun hf => hf) fun t₁ wait ht₁ hsp₁ => ?_
    have hcalm₁ := hcalm.append hsp₁.calm
    cases wait with
    | some left =>
      have htext : "waiting for rollout settle interval" ≠ pauseWaitOutcome.waitingOn := by
        decide
      exact valid_exit (.moving _ trivial (ne_pauseWait_of_waitingOn htext) hcalm₁)
    | none =>
      dsimp only
      split
      · exact valid_exit (.moving _ trivial (ne_pauseWait_of_requeue rfl (by decide)) hcalm₁)
      · next hrev =>
        rw [valid_bind]
        refine stepOver hI (checkReleased_reads _ _ _) (fun hf => hf)
          fun t₂ wait ht₂ hsp₂ => ?_
        have hcalm₂ := hcalm₁.append hsp₂.calm
        rcases wait with _ | ⟨waitingOn, _ | e⟩
        · dsimp only
          rw [valid_bind]
          refine stepOver hI (observeFleet_reads _ _) (fun hf => hf)
            fun t₃ sweep ht₃ hsp₃ => ?_
          have hcalm₃ := hcalm₂.append hsp₃.calm
          split
          · exact valid_exit (.moving _ trivial (ne_pauseWait_of_requeue rfl (by decide)) hcalm₃)
          · next hsweep =>
            push Not at hsweep
            rw [valid_bind]
            refine stepRead hI rfl fun now => ?_
            -- Both gates pass: the evidence collected on the way is the write's.
            have hgates : ReleaseGates r app base partition (stsReplicas existing)
                (h ++ t₁ ++ t₂ ++ t₃ ++ [⟨.now, now⟩]) := by
              refine ⟨hpos, hobs, ?_, hrev, ?_, ?_⟩
              · intro deadline hd
                obtain ⟨now', hsaw, hle⟩ := settleWait_none ht₁ hd
                refine ⟨now', ?_, hle⟩
                exact (((hsaw.append_left h).append t₂).append t₃).append _
              · intro i hi
                obtain ⟨pod, hsaw, hpod⟩ := checkReleased_none ht₂ hi
                refine ⟨pod, ?_, hpod⟩
                exact ((hsaw.append_left (h ++ t₁)).append t₃).append _
              · exact ⟨sweep, (ht₃.ran (h ++ t₁ ++ t₂) _), hsweep.1, hsweep.2⟩
            have hsp : Spared existing (h ++ t₁ ++ t₂ ++ t₃ ++ [⟨.now, now⟩]) :=
              (((hs.append hsp₁.untouched).append hsp₂.untouched).append
                hsp₃.untouched).snoc fun hf => hf
            have hcalm₄ : Calm (h ++ t₁ ++ t₂ ++ t₃ ++ [⟨.now, now⟩]) :=
              hcalm₃.append (SparesFleet.calm (by simp [SparesFleet, Op.writes]))
            refine writeFleet_valid (fun res => ?_) (fun e hc => .failed e
                (hsp.snoc fun hf => hf)
                (hcalm₄.append (calm_answer fun _ heq => by cases heq; exact hc)))
              (fun e hc => .conflicted _ e (saw_last _ _ _) hc (hsp.snoc fun hf => hf))
              fun stored => ?_
            · simp only [List.append_assoc] at hgates hsp ⊢
              refine hw _ _ res (.release base partition now (hstart _) hgates ?_) hsp
              simpa only [List.append_assoc] using
                saw_last (h ++ t₁ ++ t₂ ++ t₃) .now now
            · exact valid_exit (.moving _ trivial (ne_pauseWait_of_requeue rfl (by decide))
                (hcalm₄.append (calm_answer fun _ heq => by cases heq)))
        · exact valid_exit (.moving _ trivial (ne_pauseWait_of_requeue rfl (by decide)) hcalm₂)
        · exact valid_exit (.failed e ((hs.append hsp₁.untouched).append hsp₂.untouched)
            hcalm₂)

theorem rolloutStep_valid
    (hw : ∀ t o res, RolloutWrite r app existing (h ++ t) o → Spared existing (h ++ t) →
      I (h ++ t) ⟨.update .statefulSet o, res⟩) (hsp : SparesFleet h) :
    Valid I h (rolloutStep r app existing) (RolloutExit app existing) := by
  unfold rolloutStep
  split
  · next hover =>
    refine writeFleet_valid (fun res => ?_)
      (fun e hc => .failed e (.inl (hsp.untouched.snoc fun hf => hf))
        (hsp.calm.append (calm_answer fun _ heq => by cases heq; exact hc)))
      (fun e hc => .conflicted _ e (saw_last _ _ _) hc (.inl (hsp.untouched.snoc fun hf => hf)))
      fun stored => ?_
    · simpa using hw [] _ res (.clamp hover) (.inl (by simpa using hsp.untouched))
    -- The clamp falls through; from here on the base is the server's copy.
    refine releaseNext_valid hI ?_ ?_ ?_ hsp.accepted
    · intro t
      exact .clamped stored hover ((saw_last _ _ _).append t)
    · intro t o res hwrite hs
      rw [List.append_assoc] at hwrite hs ⊢
      exact hw _ o res hwrite hs
    · intro hobs
      exact .inr ⟨stored, hover, saw_last _ _ _, hobs⟩
  · next hle =>
    exact releaseNext_valid hI (fun t => .read (by omega)) hw (fun _ => .inl hsp.untouched)
      hsp.calm

end rollout

theorem recreateStep_valid (hg : Guards r app h hash existing)
    (hcause : RecreateCause app existing (desiredFleet r app hash appVersion))
    (hsp : SparesFleet h) (hazard : String) :
    Valid (FleetEvent r app appVersion) h
      (recreateStep app existing (desiredFleet r app hash appVersion) hazard)
      (FleetExit r app appVersion) := by
  unfold recreateStep
  dsimp only
  split
  · next hrun =>
    refine writeFleet_first hg (.scaleDown hcause hrun) hsp fun stored => ?_
    exact valid_exit (.moving _ trivial (ne_pauseWait_of_requeue rfl (by decide)) hsp.accepted)
  · next hstop =>
    refine valid_check (stepRead fleetEvent_of_spares rfl fun res => ?_)
    cases res with
    | error e => exact .failed e (.inl (hsp.read rfl).untouched) (hsp.read rfl).calm
    | ok pods =>
      have hsp' := hsp.read (o := .listPods (selectorLabels app)) (a := .ok pods) rfl
      dsimp only
      split
      · exact valid_exit (.moving _ trivial (ne_pauseWait_of_requeue rfl (by decide)) hsp'.calm)
      · next hdrained =>
        push Not at hdrained
        obtain ⟨hobs, hpods, hrep⟩ := hdrained
        refine writeFleet_first (hg.append _) (.recreateStart hcause (not_not.mp hstop) hobs
          (by omega) ⟨pods, lastPods_last _ _ _, hpods⟩) hsp' fun stored => ?_
        exact valid_exit (.moving _ trivial (ne_pauseWait_of_requeue rfl (by decide))
          hsp'.accepted)

theorem steadyFleet_valid (hb : Basis r app h hash existing)
    (hguard : replicasDrifted app existing = true → Guards r app h hash existing)
    (hidle : recreating existing = false)
    (hsame : templateChanged existing (desiredFleet r app hash appVersion) = false)
    (hstill : stsPartition existing = 0) (hsp : SparesFleet h) :
    Valid (FleetEvent r app appVersion) h (steadyFleet app existing appVersion)
      (FleetExit r app appVersion) := by
  unfold steadyFleet
  split
  · next hdrift =>
    refine writeFleet_first (hguard hdrift) (.scale hidle hsame hstill hdrift) hsp
      fun stored => ?_
    exact valid_exit (.moving _ trivial (ne_pauseWait_of_requeue rfl (by decide)) hsp.accepted)
  · split
    · exact valid_exit (.moving _ trivial (ne_pauseWait_of_requeue rfl (by decide)) hsp.calm)
    · next hconv =>
      rw [valid_bind]
      refine stepOver fleetEvent_of_spares (observeFleet_reads _ _) (fun hf => hf)
        fun t sweep ht ht' => ?_
      have hsp' := hsp.append ht'
      split
      · exact valid_exit (.moving _ trivial (ne_pauseWait_of_requeue rfl (by decide)) hsp'.calm)
      · next hsweep =>
        push Not at hsweep
        rw [valid_bind]
        refine stepRead fleetEvent_of_spares rfl fun order => ?_
        split
        · exact valid_exit (.moving _ trivial (ne_pauseWait_of_requeue rfl (by decide))
            (hsp'.read rfl).calm)
        · next hall =>
          -- The iteration order is a permutation of the samples, so all were checked.
          refine valid_exit (.ready hash existing sweep
            { (hb.append t).append _ with
              same := hsame
              still := hstill
              idle := hidle
              converged := by simpa using hconv
              observed := ht.ran h _
              complete := hsweep.1
              warm := hsweep.2
              serving := ?_ } (hsp'.read rfl))
          intro s hs
          have := List.find?_eq_none.mp hall s (order.property.mem_iff.mpr hs)
          simpa using this

theorem changeTemplate_valid (hg : Guards r app h hash existing)
    (hidle : recreating existing = false)
    (hchanged : templateChanged existing (desiredFleet r app hash appVersion) = true)
    (hsp : SparesFleet h) :
    Valid (FleetEvent r app appVersion) h
      (changeTemplate r app existing (desiredFleet r app hash appVersion))
      (FleetExit r app appVersion) := by
  unfold changeTemplate
  refine valid_check (stepOver fleetEvent_of_spares (liveFleetBreakingReason_reads _ _ _)
    (fun hf => hf) fun t res ht ht' => ?_)
  have hsp' := hsp.append ht'
  cases res with
  | error e => exact .failed e (.inl hsp'.untouched) hsp'.calm
  | ok breaking =>
    dsimp only
    split
    · exact valid_exit (.degraded _ _ hsp')
    · next hsafe =>
      split
      · next hrec =>
        exact recreateStep_valid (hg.append t) (.inr ⟨hchanged, hrec⟩) hsp' breaking
      · next hroll =>
        have hb : breaking = "" := by
          by_contra hne
          exact hsafe ⟨hne, hroll⟩
        obtain ⟨htemplate, pods, rfl, hpods⟩ := liveFleetBreakingReason_ok ht hb
        rw [valid_bind]
        refine stepRead fleetEvent_of_spares rfl fun now => ?_
        have hsp'' := hsp'.read (o := .now) (a := now) rfl
        refine writeFleet_first ((hg.append _).append _)
          (.rollingStart now hidle hchanged hroll htemplate
            ⟨pods, (lastPods_last _ _ _).snoc (by simp), hpods⟩) hsp'' fun stored => ?_
        exact valid_exit (.moving _ trivial (ne_pauseWait_of_requeue rfl (by decide))
          hsp''.accepted)

theorem driveFleet_valid (hb : Basis r app h hash existing)
    (hpaused : needsPause app existing (desiredFleet r app hash appVersion) = true →
      Ran (pauseScaling r app) (.ok true) h) (hsp : SparesFleet h) :
    Valid (FleetEvent r app appVersion) h
      (driveFleet r app existing (desiredFleet r app hash appVersion) appVersion)
      (FleetExit r app appVersion) := by
  unfold driveFleet
  dsimp only
  split
  · exact valid_exit (.degraded _ _ hsp)
  · next hrefusal =>
    -- Every branch that writes is one the pause condition names.
    have hg : needsPause app existing (desiredFleet r app hash appVersion) = true →
        Guards r app h hash existing :=
      fun hn => ⟨hb, hpaused hn, not_not.mp hrefusal⟩
    split
    · next hrec =>
      exact recreateStep_valid (hg (by simp [needsPause, hrec])) (.inl hrec) hsp ""
    · next hidle =>
      have hidle : recreating existing = false := by simpa using hidle
      split
      · next hchanged =>
        exact changeTemplate_valid (hg (by simp [needsPause, hchanged])) hidle hchanged hsp
      · next hsame =>
        have hsame : templateChanged existing (desiredFleet r app hash appVersion) = false :=
          by simpa using hsame
        split
        · next hpart =>
          have hg := hg (by simp [needsPause, hpart])
          refine (rolloutStep_valid fleetEvent_of_spares ?_ hsp).runs.post ?_
          · intro t o res hwrite hs
            exact ⟨hash, existing, hg.append t, .rollout hidle hsame hwrite, hs⟩
          · rintro h' res ⟨hexit, t, rfl, -⟩
            exact hexit.fleetExit (hg.read.append t)
        · next hpart =>
          exact steadyFleet_valid hb (fun hdrift => hg (by simp [needsPause, hdrift])) hidle
            hsame (by omega) hsp

theorem reconcileExisting_valid
    (hhash : Ran (configHash r app) (.ok hash) h)
    (hread : Saw h (.getLive .statefulSet (fleetName app)) (.ok existing)) (hsp : SparesFleet h) :
    Valid (FleetEvent r app appVersion) h
      (reconcileExisting r app existing (desiredFleet r app hash appVersion) appVersion)
      (FleetExit r app appVersion) := by
  unfold reconcileExisting
  split
  · next e howned => exact valid_exit (.failed e (.inl hsp.untouched) hsp.calm)
  · next howned =>
    have hb : Basis r app h hash existing := ⟨hhash, hread, howned⟩
    split
    · refine valid_check (stepOver fleetEvent_of_spares (pauseScaling_confined _ _) (by simp)
        fun t res ht ht' => ?_)
      have hsp' := hsp.append ht'
      cases res with
      | error e => exact .failed e (.inl hsp'.untouched) hsp'.calm
      | ok paused =>
        cases paused with
        | false => exact valid_exit (.pauseWait hsp')
        | true =>
          refine driveFleet_valid (hb.append t) (fun _ => ?_) hsp'
          exact ⟨h, t, [], by simp, ht⟩
    · next hno => exact driveFleet_valid hb (fun hn => absurd hn hno) hsp

/-- **What one pass over the fleet can do.** -/
theorem reconcileFleet_valid (r : Reconciler) (app : WorkerApp) (appVersion : String) :
    Valid (FleetEvent r app appVersion) [] (reconcileFleet r app appVersion)
      (FleetExit r app appVersion) := by
  unfold reconcileFleet
  refine valid_check (stepOver fleetEvent_of_spares (configHash_reads r app) (fun hf => hf)
    fun t res ht hsp => ?_)
  have hsp : SparesFleet ([] ++ t) := hsp
  cases res with
  | error e => exact .failed e (.inl hsp.untouched) hsp.calm
  | ok hash =>
    have hhash : Ran (configHash r app) (.ok hash) ([] ++ t) := ⟨[], t, [], by simp, ht⟩
    dsimp only
    rw [valid_bind]
    refine stepRead fleetEvent_of_spares rfl fun read => ?_
    have hsp' := hsp.read (o := .getLive .statefulSet (fleetName app)) (a := read) rfl
    cases read with
    | ok existing =>
      exact reconcileExisting_valid (hhash.append _) (saw_last _ _ _) hsp'
    | error e =>
      dsimp only
      split
      · next hnf =>
        refine valid_check (valid_ask fun res => ⟨?_, ?_⟩)
        · exact ⟨hash, e, hhash.append _, rfl, saw_last _ _ _, hnf⟩
        · cases res with
          | error e' =>
            exact .failed e' (.inl (hsp'.untouched.snoc fun hf => hf))
              (hsp'.calm.append calm_create)
          | ok stored =>
            exact valid_exit (.moving _ trivial (ne_pauseWait_of_requeue rfl (by decide))
              (hsp'.calm.append calm_create))
      · exact valid_exit (.failed e (.inl hsp'.untouched) hsp'.calm)

end

end CelldOperator
