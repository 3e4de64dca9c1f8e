/-
  CelldOperator.Pass.PolledPods

  **WHOM A PASS POLLS.**

  The `/state` of a pod is asked for inside the cluster and its answer is trusted by the
  rollout gates, so a pass must not ask whom it does not own.  Every poll of a pass goes
  to a Running pod of the list it has read last; that list is the whole fleet of a
  StatefulSet the pass has in hand, each pod owned by it and Ready.

    • `PolledOwn`           — the fact, about what the pass has seen so far,
    • `observeFleet_polled` — the only place that polls,
    • `polls_own_pods`      — every poll of every pass.
-/
import CelldOperator.Children.Ownership
import CelldOperator.Pass.Census
import CelldOperator.Pass.Footprint

namespace CelldOperator

open Effect Prog

/-! ## §1. What a poll rests on. -/

/-- The StatefulSet came from the server: read, or stored by a write of this pass. -/
def InHand (app : WorkerApp) (h : Trace) (sts : StatefulSet) : Prop :=
  Saw h (.getLive .statefulSet (fleetName app)) (.ok sts) ∨
    Saw h (.get .statefulSet (fleetName app)) (.ok sts) ∨
    ∃ o, Saw h (.update .statefulSet o) (.ok sts)

/-- **A fleet that may be polled**: the latest list of pods, complete for a StatefulSet the pass
holds. -/
structure Listed (key : NamespacedName) (app : WorkerApp) (h : Trace) (sts : StatefulSet)
    (pods : PodList) : Prop where
  pass : Saw h (.getApp key) (.ok app)
  held : InHand app h sts
  latest : LastPods app h pods
  whole : census sts pods.val = none

/-- **A poll with good reason.** -/
def PolledOwn (key : NamespacedName) (h : Trace) (ip : String) : Prop :=
  ∃ app sts pods pod, Listed key app h sts pods ∧ pod ∈ pods.val ∧ pod.podIP = ip ∧ ip ≠ "" ∧
    pod.phase = .running ∧ podReady pod = true ∧
    isControlledBy pod.ownerReferences sts.metadata.uid = true

/-- What every event of a pass keeps to. -/
def PollEvent (key : NamespacedName) (h : Trace) (e : Event Api) : Prop :=
  ∀ ip, e.op = .getState ip → PolledOwn key h ip

section

variable {α : Type} {r : Reconciler} {key : NamespacedName} {app : WorkerApp} {h : Trace}
  {sts existing desired : StatefulSet} {pods : PodList} {T : List Topic}

theorem InHand.append (hs : InHand app h sts) (t : Trace) : InHand app (h ++ t) sts := by
  rcases hs with hs | hs | ⟨o, hs⟩
  · exact .inl (hs.append t)
  · exact .inr (.inl (hs.append t))
  · exact .inr (.inr ⟨o, hs.append t⟩)

/-- Anything but another list leaves the list the latest. -/
theorem Listed.snoc (hl : Listed key app h sts pods) {e : Event Api}
    (he : ∀ labels, e.op ≠ .listPods labels) : Listed key app (h ++ [e]) sts pods :=
  ⟨hl.pass.append _, hl.held.append _, hl.latest.snoc he, hl.whole⟩

theorem pollEvent_of_topic {e : Event Api} (he : e.op.topic ≠ .state) : PollEvent key h e := by
  intro ip hip
  rw [hip] at he
  exact absurd rfl he

/-- The pass is over this WorkerApp. -/
abbrev Over (key : NamespacedName) (app : WorkerApp) (h : Trace) : Prop :=
  Saw h (.getApp key) (.ok app)

/-- Step over a function that polls nobody; what was seen stays seen. -/
theorem Asks.unpolled {p : P α} (hp : Asks T p) (hT : T.contains .state = false) :
    Valid (PollEvent key) h p (fun h' _ => ∃ t, h' = h ++ t) := by
  have hno : Only (fun o : Op => o.topic ≠ .state) p := by
    refine Only.mono (fun o ho htopic => ?_) hp
    rw [htopic, hT] at ho
    cases ho
  refine (Only.valid hno fun h e he => pollEvent_of_topic he).post ?_
  rintro h' a ⟨t, rfl, -, -⟩
  exact ⟨t, rfl⟩

/-! ## §2. The one place that polls. -/

theorem pollPod_polled {pod : Pod} (hl : Listed key app h sts pods) (hpod : pod ∈ pods.val) :
    Valid (PollEvent key) h (pollPod pod) (fun h' _ => Listed key app h' sts pods) := by
  obtain ⟨-, -, howned, -⟩ := census_none hl.whole
  obtain ⟨hcontrolled, hready⟩ := howned pod hpod
  unfold pollPod
  split
  · exact valid_exit hl
  · next havailable =>
    push Not at havailable
    obtain ⟨hip, hphase, -⟩ := havailable
    unfold fetch
    rw [valid_bind, valid_bind, valid_req]
    refine fun res => ⟨?_, ?_⟩
    · intro ip heq
      cases heq
      exact ⟨app, sts, pods, pod, hl, hpod, rfl, hip, hphase, hready, hcontrolled⟩
    · have hl' := hl.snoc (e := ⟨.getState pod.podIP, res⟩) (by simp)
      cases res with
      | error e => exact valid_exit (valid_exit hl')
      | ok response =>
        refine valid_exit ?_
        cases readState response with
        | error e => exact valid_exit hl'
        | ok state => exact valid_exit hl'

theorem pollAll_polled {l : List Pod} (hsub : ∀ pod ∈ l, pod ∈ pods.val) :
    ∀ {h : Trace} {s : Sweep}, Listed key app h sts pods →
      Valid (PollEvent key) h (pollAll l s) (fun h' _ => Over key app h') := by
  induction l with
  | nil => exact fun hl => valid_exit hl.pass
  | cons pod l ih =>
    intro h s hl
    obtain ⟨hpod, hrest⟩ := List.forall_mem_cons.mp hsub
    unfold pollAll
    rw [valid_bind]
    exact (pollPod_polled hl hpod).post fun h' _ hl' => ih hrest hl'

/-- **An observation polls the fleet it has listed.**  Without a StatefulSet in hand it polls
nobody: the census of the zero value fails. -/
theorem observeFleet_polled (happ : Over key app h)
    (hhand : census sts = census zeroStatefulSet ∨ InHand app h sts) :
    Valid (PollEvent key) h (observeFleet app sts) (fun h' _ => Over key app h') := by
  unfold observeFleet
  rw [valid_bind, valid_req]
  refine fun res => ⟨pollEvent_of_topic (by simp [Op.topic]), ?_⟩
  have happ' := happ.append [⟨.listPods (selectorLabels app), res⟩]
  cases res with
  | error e => exact valid_exit happ'
  | ok listed =>
    dsimp only
    split
    · exact valid_exit happ'
    · next hwhole =>
      have hhand' : InHand app (h ++ [⟨.listPods (selectorLabels app), .ok listed⟩]) sts := by
        rcases hhand with hzero | hhand
        · obtain ⟨hpos, -⟩ := census_none (hzero ▸ hwhole)
          exact absurd hpos (by decide)
        · exact hhand.append _
      have hl : Listed key app (h ++ [⟨.listPods (selectorLabels app), .ok listed⟩]) sts listed :=
        ⟨happ', hhand', lastPods_last .., hwhole⟩
      unfold fleetSweep
      rw [valid_bind, valid_req]
      refine fun order => ⟨pollEvent_of_topic (by simp [Op.topic]), ?_⟩
      exact pollAll_polled (fun pod hpod => order.property.mem_iff.mp hpod) (hl.snoc (by simp))

/-! ## §3. The fleet step. -/

/-- A write, and what is done with the copy the server stored. -/
theorem writeFleet_polled {o : StatefulSet} {next : StatefulSet → P (Except Err FleetOutcome)}
    (happ : Over key app h)
    (hnext : ∀ {h' : Trace} {stored : StatefulSet}, Over key app h' → InHand app h' stored →
      Valid (PollEvent key) h' (next stored) (fun h' _ => Over key app h')) :
    Valid (PollEvent key) h (writeFleet app o next) (fun h' _ => Over key app h') := by
  unfold writeFleet updateFleet
  refine valid_check ?_
  rw [valid_bind, valid_req]
  refine fun res => ⟨pollEvent_of_topic (by simp [Op.topic]), ?_⟩
  have happ' := happ.append [⟨.update .statefulSet o, res⟩]
  cases res with
  | ok stored => exact valid_exit (hnext happ' (.inr (.inr ⟨o, saw_last ..⟩)))
  | error e =>
    dsimp only
    split
    · exact valid_exit (valid_exit happ')
    · exact valid_exit happ'

theorem releaseNext_polled {partition replicas : Nat} (happ : Over key app h)
    (hhand : InHand app h sts) :
    Valid (PollEvent key) h (releaseNext r app sts partition replicas)
      (fun h' _ => Over key app h') := by
  unfold releaseNext
  dsimp only
  split
  · exact valid_exit happ
  · rw [valid_bind]
    refine ((settleWait_topics _ _).unpolled rfl).post ?_
    rintro _ wait ⟨t₁, rfl⟩
    have happ₁ := happ.append t₁
    split
    · exact valid_exit happ₁
    · split
      · exact valid_exit happ₁
      · rw [valid_bind]
        refine ((checkReleased_topics _ _ _).unpolled rfl).post ?_
        rintro _ blocked ⟨t₂, rfl⟩
        have happ₂ := happ₁.append t₂
        split
        · exact valid_exit happ₂
        · exact valid_exit happ₂
        · rw [valid_bind]
          refine (observeFleet_polled happ₂ (.inr ((hhand.append t₁).append t₂))).post ?_
          intro h' sweep happ'
          split
          · exact valid_exit happ'
          · rw [valid_bind, valid_req]
            refine fun now => ⟨pollEvent_of_topic (by simp [Op.topic]), ?_⟩
            exact writeFleet_polled (happ'.append _) fun happ _ => valid_exit happ

theorem steadyFleet_polled {appVersion : String} (happ : Over key app h)
    (hhand : InHand app h existing) :
    Valid (PollEvent key) h (steadyFleet app existing appVersion)
      (fun h' _ => Over key app h') := by
  unfold steadyFleet
  split
  · exact writeFleet_polled happ fun happ _ => valid_exit happ
  · split
    · exact valid_exit happ
    · rw [valid_bind]
      refine (observeFleet_polled happ (.inr hhand)).post fun h' sweep happ' => ?_
      split
      · exact valid_exit happ'
      · rw [valid_bind, valid_req]
        refine fun states => ⟨pollEvent_of_topic (by simp [Op.topic]), ?_⟩
        split <;> exact valid_exit (happ'.append _)

/-- Step over, and keep the WorkerApp in sight. -/
theorem Asks.keepsOver {p : P α} (hp : Asks T p) (hT : T.contains .state = false)
    (happ : Over key app h) :
    Valid (PollEvent key) h p (fun h' _ => Over key app h') := by
  refine (hp.unpolled hT).post ?_
  rintro _ _ ⟨t, rfl⟩
  exact happ.append t

theorem driveFleet_polled {appVersion : String} (happ : Over key app h)
    (hhand : InHand app h existing) :
    Valid (PollEvent key) h (driveFleet r app existing desired appVersion)
      (fun h' _ => Over key app h') := by
  unfold driveFleet
  dsimp only
  split
  · exact valid_exit happ
  · split
    · exact (recreateStep_topics ..).keepsOver rfl happ
    · split
      · exact (changeTemplate_topics ..).keepsOver rfl happ
      · split
        · unfold rolloutStep
          split
          · exact writeFleet_polled happ fun happ hhand => releaseNext_polled happ hhand
          · exact releaseNext_polled happ hhand
        · exact steadyFleet_polled happ hhand

theorem placeFleet_polled {appVersion : String} (happ : Over key app h) :
    Valid (PollEvent key) h (placeFleet r app desired appVersion)
      (fun h' _ => Over key app h') := by
  unfold placeFleet
  rw [valid_bind, valid_req]
  refine fun read => ⟨pollEvent_of_topic (by simp [Op.topic]), ?_⟩
  have happ' := happ.append [⟨.getLive .statefulSet (fleetName app), read⟩]
  cases read with
  | error e =>
    dsimp only
    split
    · exact Asks.keepsOver (T := [.create .statefulSet])
        (asks_check (asks_ask rfl) fun _ => asks_pure _) rfl happ'
    · exact valid_exit happ'
  | ok existing =>
    have hhand : InHand app (h ++ [⟨.getLive .statefulSet (fleetName app), .ok existing⟩]) existing :=
      .inl (saw_last ..)
    dsimp only
    unfold reconcileExisting
    split
    · exact valid_exit happ'
    · split
      · refine valid_check (((pauseScaling_topics r app).unpolled rfl).post ?_)
        rintro _ res ⟨t, rfl⟩
        cases res with
        | error e => exact happ'.append t
        | ok paused =>
          dsimp only
          split
          · exact driveFleet_polled (happ'.append t) (hhand.append t)
          · exact valid_exit (happ'.append t)
      · exact driveFleet_polled happ' hhand

/-! ## §4. The status. -/

theorem updateStatus_polled {outcome : FleetOutcome} {appVersion : String}
    {conditions : List Condition} (happ : Over key app h) :
    Valid (PollEvent key) h (updateStatus app outcome appVersion conditions)
      (fun _ _ => True) := by
  unfold updateStatus observedStatus
  rw [valid_bind, valid_bind, valid_req]
  refine fun read => ⟨pollEvent_of_topic (by simp [Op.topic]), ?_⟩
  have happ' := happ.append [⟨.get .statefulSet (fleetName app), read⟩]
  have hwrite : ∀ {h : Trace} {status : WorkerAppStatus},
      Valid (PollEvent key) h (if status = app.status then pure (.ok ())
        else ask (.updateStatus { app with status := status })) (fun _ _ => True) := by
    intro h status
    split
    · exact valid_exit trivial
    · rw [valid_req]
      exact fun _ => ⟨pollEvent_of_topic (by simp [Op.topic]), trivial⟩
  dsimp only
  rw [valid_bind]
  refine (observeFleet_polled happ' ?_).post fun h' sweep _ => ?_
  · cases read with
    | error e => exact .inl rfl
    | ok sts => exact .inr (.inr (.inl (saw_last ..)))
  · split
    · rw [valid_bind, valid_req]
      refine fun order => ⟨pollEvent_of_topic (by simp [Op.topic]), ?_⟩
      exact valid_exit hwrite
    · exact valid_exit hwrite

/-! ## §5. A whole pass. -/

theorem reconcileApp_polled (happ : Over key app h) :
    Valid (PollEvent key) h (reconcileApp r key app) (fun _ _ => True) := by
  unfold reconcileApp
  split
  · exact (Asks.keepsOver (T := [.tracker]) (asks_bind (asks_ask rfl) fun _ => asks_pure _) rfl
      happ).post fun _ _ _ => trivial
  · split
    · exact ((rejectSpec_topics ..).keepsOver rfl happ).post fun _ _ _ => trivial
    · unfold reconcileValid
      refine valid_check (((ensureFoundation_topics r app).keepsOver rfl happ).post
        fun h res happ => ?_)
      cases res with
      | error e => trivial
      | ok foundation =>
        dsimp only
        rw [valid_bind]
        refine ((resolveAppVersion_topics r app).keepsOver rfl happ).post fun h resolved happ => ?_
        rw [reconcileFleet_eq]
        refine valid_check (valid_check
          (((configHash_topics r app).keepsOver rfl happ).post fun h res happ => ?_))
        cases res with
        | error e => trivial
        | ok hash =>
          refine (placeFleet_polled happ).post fun h res happ => ?_
          cases res with
          | error e => trivial
          | ok outcome =>
            unfold finishPass
            dsimp only
            rw [valid_bind]
            refine ((ensureIngress_topics r app).keepsOver rfl happ).post fun h _ happ => ?_
            rw [valid_bind]
            refine ((ensureAuthorizationPolicy_topics r app).keepsOver rfl happ).post
              fun h _ happ => ?_
            rw [valid_bind]
            refine ((ensureScaledObject_topics ..).keepsOver rfl happ).post fun h _ happ => ?_
            rw [valid_bind]
            refine (updateStatus_polled happ).post fun h res _ => ?_
            split
            · exact valid_exit trivial
            · split <;> exact valid_exit trivial

end

/-- **A pass polls its own pods.**  Whenever a pass asks a pod for its state, the address is that
of a Running, Ready pod in the latest list the pass has read; the list is complete for a
StatefulSet the pass holds, and that StatefulSet owns the pod. -/
theorem polls_own_pods (r : Reconciler) (key : NamespacedName) (h : Trace) (ip : String)
    (next : Resp (.getState ip) → P (Except Err Result))
    (hsteps : Steps (reconcile r key) h (.call (.getState ip) next)) : PolledOwn key h ip := by
  have hvalid : Valid (PollEvent key) [] (reconcile r key) (fun _ _ => True) := by
    rw [reconcile_eq, valid_bind, valid_req]
    refine fun read => ⟨pollEvent_of_topic (by simp [Op.topic]), ?_⟩
    cases read with
    | error e =>
      unfold reconcileRead
      dsimp only
      split
      · exact (Asks.unpolled (T := [.tracker]) (asks_bind (asks_ask rfl) fun _ => asks_pure _)
          rfl).post fun _ _ _ => trivial
      · exact valid_exit trivial
    | ok app => exact reconcileApp_polled (List.mem_singleton_self _)
  exact valid_issued hvalid hsteps (.error (.other "")) ip rfl

/-- The addresses polled along a trace. -/
def polledIPs (t : Trace) : List String :=
  t.filterMap fun e => match e.op with
    | .getState ip => some ip
    | _ => none

/-- The pods of the settled fleet are polled, each under its own name. -/
theorem polls_own_pods_settled :
    ∃ h, PolledOwn ⟨"prod", "shop"⟩ h "shop-celld-2" := by
  have hpolled : "shop-celld-2" ∈ polledIPs (runWith (S := Api) (answerFor servingApp)
      (reconcile sampleReconciler ⟨"prod", "shop"⟩) (settledCluster servingApp true "True")).1 := by
    decide +kernel
  obtain ⟨⟨o, res⟩, hmem, hip⟩ := List.mem_filterMap.mp hpolled
  obtain ⟨h, next, hsteps⟩ := steps_of_mem_runWith hmem
  cases o with
  | getState ip =>
    cases hip
    exact ⟨h, polls_own_pods sampleReconciler ⟨"prod", "shop"⟩ h _ next hsteps⟩
  | _ => cases hip

end CelldOperator
