/-
  CelldOperator.Pass.FleetSpec

  **WHAT ONE PASS OVER THE FLEET CAN DO.**

  `reconcileFleet_valid` is the inversion lemma every result about the fleet
  uses: each StatefulSet write of a pass is one of six (`FleetWrite`), made under
  the guards `Guards`, and each way the pass can end is one of six (`FleetExit`).
  Evidence is stated over the history of the pass, so it says what had been read
  or computed BEFORE the write went out:

    • `Saw h o r`   — the operation `o` was answered with `r`,
    • `Ran p a h`   — the function `p` was run and returned `a`,
    • `LastPods`    — the latest pod list.
-/
import CelldOperator.Pass.Frame

namespace CelldOperator

open Effect Prog

/-! ## §1. Evidence in the history of a pass. -/

/-- The operation `o` was answered with `r`. -/
def Saw (h : Trace) (o : Op) (r : Resp o) : Prop := (⟨o, r⟩ : Event Api) ∈ h

theorem Saw.append {h : Trace} {o : Op} {r : Resp o} (hs : Saw h o r) (t : Trace) :
    Saw (h ++ t) o r :=
  List.mem_append_left t hs

theorem Saw.append_left {t : Trace} {o : Op} {r : Resp o} (hs : Saw t o r) (h : Trace) :
    Saw (h ++ t) o r :=
  List.mem_append_right h hs

theorem saw_last (h : Trace) (o : Op) (r : Resp o) : Saw (h ++ [⟨o, r⟩]) o r :=
  List.mem_append_right h (List.mem_singleton_self _)

/-- The latest answer to a pod list was `pods`. -/
def LastPods (app : WorkerApp) (h : Trace) (pods : PodList) : Prop :=
  ∃ pre post, h = pre ++ ⟨.listPods (selectorLabels app), .ok pods⟩ :: post ∧
    ∀ e ∈ post, ∀ labels, e.op ≠ .listPods labels

theorem lastPods_last (app : WorkerApp) (h : Trace) (pods : PodList) :
    LastPods app (h ++ [⟨.listPods (selectorLabels app), .ok pods⟩]) pods :=
  ⟨h, [], rfl, by simp⟩

theorem LastPods.snoc {app : WorkerApp} {h : Trace} {pods : PodList} (hl : LastPods app h pods)
    {e : Event Api} (he : ∀ labels, e.op ≠ .listPods labels) : LastPods app (h ++ [e]) pods := by
  obtain ⟨pre, post, rfl, hpost⟩ := hl
  refine ⟨pre, post ++ [e], by simp, ?_⟩
  intro e' he'
  rcases List.mem_append.mp he' with h' | h'
  · exact hpost e' h'
  · rw [List.mem_singleton.mp h']
    exact he

/-- The latest list is the last event, or the last event is no list. -/
theorem LastPods.snoc_cases {app : WorkerApp} {h : Trace} {e : Event Api} {pods : PodList}
    (hl : LastPods app (h ++ [e]) pods) :
    e = ⟨.listPods (selectorLabels app), .ok pods⟩ ∨ LastPods app h pods := by
  obtain ⟨pre, post, heq, hpost⟩ := hl
  rcases List.eq_nil_or_concat post with rfl | ⟨post', e', rfl⟩
  · exact .inl (List.singleton_inj.mp (List.append_inj' heq rfl).2)
  · refine .inr ⟨pre, post', ?_, fun e he => hpost e (by simp [he])⟩
    rw [List.concat_eq_append, ← List.cons_append, ← List.append_assoc] at heq
    exact (List.append_inj' heq rfl).1

/-- There is one latest pod list. -/
theorem LastPods.unique {app : WorkerApp} {h : Trace} {pods pods' : PodList}
    (hl : LastPods app h pods) (hl' : LastPods app h pods') : pods = pods' := by
  obtain ⟨pre, post, rfl, hpost⟩ := hl
  obtain ⟨pre', post', heq, hpost'⟩ := hl'
  -- of two positions of a list in one history, the earlier has the later one behind it
  rcases List.append_eq_append_iff.mp heq with ⟨mid, -, hmid⟩ | ⟨mid, -, hmid⟩
  · cases mid with
    | nil =>
      cases List.head_eq_of_cons_eq hmid
      rfl
    | cons e mid =>
      obtain ⟨-, rfl⟩ := List.cons.inj hmid
      exact absurd rfl (hpost _ (List.mem_append_right _ (List.mem_cons_self ..)) _)
  · cases mid with
    | nil =>
      cases List.head_eq_of_cons_eq hmid
      rfl
    | cons e mid =>
      obtain ⟨-, rfl⟩ := List.cons.inj hmid
      exact absurd rfl (hpost' _ (List.mem_append_right _ (List.mem_cons_self ..)) _)

/-- The event is an accepted write of the StatefulSet. -/
def acknowledged : (o : Op) → Resp o → Prop
  | .create .statefulSet _, .ok _ => True
  | .update .statefulSet _, .ok _ => True
  | .delete .statefulSet _ _ _, .ok _ => True
  | _, _ => False

/-- No write of the StatefulSet has been accepted. -/
def Untouched (h : Trace) : Prop := ∀ e ∈ h, ¬ acknowledged e.op e.resp

/-- The events write no StatefulSet. -/
def SparesFleet (t : Trace) : Prop := ∀ e ∈ t, e.op.writes ≠ some .statefulSet

theorem not_acknowledged_of_writes {o : Op} {r : Resp o} (h : o.writes ≠ some .statefulSet) :
    ¬ acknowledged o r := by
  intro ha
  unfold acknowledged at ha
  split at ha
  · exact h rfl
  · exact h rfl
  · exact h rfl
  · exact ha

theorem SparesFleet.untouched {t : Trace} (h : SparesFleet t) : Untouched t :=
  fun e he => not_acknowledged_of_writes (h e he)

/-- No update of the StatefulSet was answered with a conflict. -/
def Calm (h : Trace) : Prop :=
  ∀ o e, Saw h (.update .statefulSet o) (.error e) → e.isConflict = false

theorem SparesFleet.calm {t : Trace} (h : SparesFleet t) : Calm t :=
  fun _ _ hs => absurd rfl (h _ hs)

theorem SparesFleet.append {h t : Trace} (hh : SparesFleet h) (ht : SparesFleet t) :
    SparesFleet (h ++ t) := by
  intro e he
  rcases List.mem_append.mp he with he | he
  · exact hh e he
  · exact ht e he

theorem SparesFleet.snoc {h : Trace} (hh : SparesFleet h) {e : Event Api}
    (he : e.op.writes ≠ some .statefulSet) : SparesFleet (h ++ [e]) :=
  hh.append (by simpa [SparesFleet] using he)

theorem Confined.spares {α : Type} {K : Kind → Prop} {p : P α} (h : Confined K p)
    (hK : ¬ K .statefulSet) {t : Trace} {a : α} (ht : Runs p t a) : SparesFleet t :=
  fun e he hw => hK (((Only.steps h ht).1 e he).1 _ hw)

theorem ReadsOnly.spares {α : Type} {p : P α} (h : ReadsOnly p) {t : Trace} {a : α}
    (ht : Runs p t a) : SparesFleet t :=
  Confined.spares h (fun hf => hf) ht

theorem Calm.append {h t : Trace} (hh : Calm h) (ht : Calm t) : Calm (h ++ t) := by
  intro o e hs
  rcases List.mem_append.mp hs with hs | hs
  · exact hh o e hs
  · exact ht o e hs

theorem calm_answer {o : StatefulSet} {res : Except Err StatefulSet}
    (hres : ∀ e, res = .error e → e.isConflict = false) :
    Calm [⟨.update .statefulSet o, res⟩] := by
  intro o' e hs
  cases List.mem_singleton.mp hs
  exact hres e rfl

theorem calm_create {k : Kind} {o : Obj k} {res : Except Err (Obj k)} :
    Calm [⟨.create k o, res⟩] := by
  intro o' e hs
  cases List.mem_singleton.mp hs

theorem Untouched.append {h t : Trace} (hh : Untouched h) (ht : Untouched t) :
    Untouched (h ++ t) := by
  intro e he
  rcases List.mem_append.mp he with he | he
  · exact hh e he
  · exact ht e he

theorem Untouched.snoc {h : Trace} (hh : Untouched h) {e : Event Api}
    (he : ¬ acknowledged e.op e.resp) : Untouched (h ++ [e]) :=
  hh.append (by simpa [Untouched] using he)

theorem not_untouched_snoc {h : Trace} {e : Event Api} (he : acknowledged e.op e.resp) :
    ¬ Untouched (h ++ [e]) :=
  fun hu => hu e (List.mem_append_right h (List.mem_singleton_self e)) he

/-! ## §2. The guards of a write. -/

/-- What a decision about the StatefulSet is based on: the config hash, the uncached read and
the ownership test. -/
structure Basis (r : Reconciler) (app : WorkerApp) (h : Trace) (hash : String)
    (existing : StatefulSet) : Prop where
  hashed : Ran (configHash r app) (.ok hash) h
  read : Saw h (.getLive .statefulSet (fleetName app)) (.ok existing)
  owned : requireOwnership app existing = .ok ()

theorem Basis.append {r : Reconciler} {app : WorkerApp} {h : Trace} {hash : String}
    {existing : StatefulSet} (b : Basis r app h hash existing) (t : Trace) :
    Basis r app (h ++ t) hash existing :=
  ⟨b.hashed.append t, b.read.append t, b.owned⟩

/-- The guards of every update: in addition the scaler is paused and the change of runtime is
not refused. -/
structure Guards (r : Reconciler) (app : WorkerApp) (h : Trace) (hash : String)
    (existing : StatefulSet) : Prop extends Basis r app h hash existing where
  paused : Ran (pauseScaling r app) (.ok true) h
  permitted : runtimeChangeRefusal app (stsContainerImage existing.sspec.template.spec) = ""

theorem Guards.append {r : Reconciler} {app : WorkerApp} {h : Trace} {hash : String}
    {existing : StatefulSet} (g : Guards r app h hash existing) (t : Trace) :
    Guards r app (h ++ t) hash existing :=
  ⟨g.toBasis.append t, g.paused.append t, g.permitted⟩

/-- The gates of a release, at the object and the partition the release works with. -/
structure ReleaseGates (r : Reconciler) (app : WorkerApp) (base : StatefulSet)
    (partition replicas : Nat) (h : Trace) : Prop where
  pos : partition ≠ 0
  observed : base.sstatus.observedGeneration = base.metadata.generation
  settled : ∀ deadline, r.lib.parseTime (annotationOf base settleAnnotation) = some deadline →
    ∃ now, Saw h .now now ∧ deadline ≤ now
  revision : base.sstatus.updateRevision ≠ ""
  released : ∀ i ∈ releasedOrdinals partition replicas, ∃ pod,
    Saw h (.getPod (ordinalName (fleetName app) i)) (.ok pod) ∧
    pod.labels.get "controller-revision-hash" = base.sstatus.updateRevision ∧
    podReady pod = true
  warm : ∃ sweep, Ran (observeFleet app base) sweep h ∧ sweep.err = none ∧ sweep.restoring = 0

/-- Where a release starts from: the object read, or the server's copy after the clamp. -/
inductive ReleaseBase (existing : StatefulSet) (h : Trace) : StatefulSet → Nat → Prop where
  | read (le : stsPartition existing ≤ stsReplicas existing) :
      ReleaseBase existing h existing (stsPartition existing)
  | clamped (stored : StatefulSet) (high : stsReplicas existing < stsPartition existing)
      (ack : Saw h (.update .statefulSet (clampPartition existing)) (.ok stored)) :
      ReleaseBase existing h stored (stsReplicas existing)

/-- Why a pass is on the stop-all path. -/
def RecreateCause (app : WorkerApp) (existing desired : StatefulSet) : Prop :=
  recreating existing = true ∨
    (templateChanged existing desired = true ∧ app.spec.celld.updateStrategy = .recreate)

/-- **The two writes of a rolling step.**  `RolloutWrite … h o`: after the history `h`,
`rolloutStep` on `existing` may send `o`. -/
inductive RolloutWrite (r : Reconciler) (app : WorkerApp) (existing : StatefulSet)
    (h : Trace) : StatefulSet → Prop where
  | clamp (high : stsReplicas existing < stsPartition existing) :
      RolloutWrite r app existing h (clampPartition existing)
  | release (base : StatefulSet) (partition : Nat) (now : Time)
      (start : ReleaseBase existing h base partition)
      (gates : ReleaseGates r app base partition (stsReplicas existing) h)
      (clock : Saw h .now now) :
      RolloutWrite r app existing h
        (releaseOrdinal base (partition - 1) (r.lib.formatTime (now + 10 * second)))

/-- **The six writes of a pass.**  `FleetWrite … h o`: after the history `h` the pass may
send `o`. -/
inductive FleetWrite (r : Reconciler) (app : WorkerApp) (existing desired : StatefulSet)
    (h : Trace) : StatefulSet → Prop where
  | rollingStart (now : Time) (idle : recreating existing = false)
      (changed : templateChanged existing desired = true)
      (rolling : app.spec.celld.updateStrategy ≠ .recreate)
      (template : fleetBreakingReason existing.sspec.template.spec
        desired.sspec.template.spec = "")
      (pods : ∃ pods, LastPods app h pods ∧ podsBreakingReason existing desired pods.val = "") :
      FleetWrite r app existing desired h
        (startRolling existing desired (r.lib.formatTime (now + 10 * second)))
  | rollout {o : StatefulSet} (idle : recreating existing = false)
      (same : templateChanged existing desired = false)
      (write : RolloutWrite r app existing h o) : FleetWrite r app existing desired h o
  | scaleDown (cause : RecreateCause app existing desired)
      (running : stsReplicas existing ≠ 0) :
      FleetWrite r app existing desired h (scaleToZero existing)
  | recreateStart (cause : RecreateCause app existing desired)
      (stopped : stsReplicas existing = 0)
      (observed : existing.sstatus.observedGeneration = existing.metadata.generation)
      (drained : existing.sstatus.replicas = 0)
      (pods : ∃ pods, LastPods app h pods ∧ pods.val = []) :
      FleetWrite r app existing desired h (startRecreated app existing desired)
  | scale (idle : recreating existing = false) (same : templateChanged existing desired = false)
      (still : stsPartition existing = 0) (drifted : replicasDrifted app existing = true) :
      FleetWrite r app existing desired h (scaleTo existing (desiredReplicas app).toNat)

/-- The clamp of `existing` was accepted, and answered with an object whose controller had
already observed it. -/
def Clamped (existing : StatefulSet) (h : Trace) : Prop :=
  ∃ stored, stsReplicas existing < stsPartition existing ∧
    Saw h (.update .statefulSet (clampPartition existing)) (.ok stored) ∧
    stored.sstatus.observedGeneration = stored.metadata.generation

/-- No write was accepted, save for a clamp so answered. -/
def Spared (existing : StatefulSet) (h : Trace) : Prop := Untouched h ∨ Clamped existing h

/-- What a pass may send at each point: a creation only after "not found", an update only as
one of the six writes under the guards and only if it is the first, never a deletion. -/
def FleetEvent (r : Reconciler) (app : WorkerApp) (appVersion : String) (h : Trace)
    (e : Event Api) : Prop :=
  match e.op with
  | .create .statefulSet o =>
    ∃ hash e', Ran (configHash r app) (.ok hash) h ∧ o = desiredFleet r app hash appVersion ∧
      Saw h (.getLive .statefulSet (fleetName app)) (.error e') ∧ e'.isNotFound
  | .update .statefulSet o =>
    ∃ hash existing, Guards r app h hash existing ∧
      FleetWrite r app existing (desiredFleet r app hash appVersion) h o ∧
      Spared existing h
  | .delete .statefulSet _ _ _ => False
  | _ => True

theorem fleetEvent_of_spares {r : Reconciler} {app : WorkerApp} {appVersion : String} (h : Trace)
    (e : Event Api) (he : e.op.writes ≠ some .statefulSet) : FleetEvent r app appVersion h e := by
  unfold FleetEvent
  split
  · next heq => exact absurd (by rw [heq]; rfl) he
  · next heq => exact absurd (by rw [heq]; rfl) he
  · next heq => exact absurd (by rw [heq]; rfl) he
  · trivial

/-! ## §3. How a pass can end. -/

/-- The pass has observed a fleet that serves the version, with nothing left to do. -/
structure Steady (r : Reconciler) (app : WorkerApp) (appVersion : String) (h : Trace)
    (hash : String) (existing : StatefulSet) (sweep : Sweep) : Prop
    extends Basis r app h hash existing where
  same : templateChanged existing (desiredFleet r app hash appVersion) = false
  still : stsPartition existing = 0
  idle : recreating existing = false
  converged : statusConverged existing = true
  observed : Ran (observeFleet app existing) sweep h
  complete : sweep.err = none
  warm : sweep.restoring = 0
  serving : ∀ s ∈ sweep.states, deploymentConverged appVersion s.2 = true

/-- The outcome of a pass that waits for the scaler. -/
def pauseWaitOutcome : FleetOutcome where
  phase := .rollingOut
  waitingOn := "waiting for KEDA pause and HPA removal"
  requeue := 5 * second

/-- The outcome of a pass that found the fleet serving. -/
def readyOutcome : FleetOutcome where
  phase := .ready
  rolledOut := true
  requeue := 30 * second

/-- The phases of a fleet on its way. -/
def Moving : Phase → Prop
  | .pending | .rollingOut | .recreating => True
  | _ => False

/-- **The exits of a rolling step.** -/
inductive RolloutExit (app : WorkerApp) (existing : StatefulSet) (h : Trace) :
    Except Err FleetOutcome → Prop where
  | failed (e : Err) (spared : Spared existing h) (calm : Calm h) :
      RolloutExit app existing h (.error e)
  | conflicted (o : StatefulSet) (e : Err) (saw : Saw h (.update .statefulSet o) (.error e))
      (conflict : e.isConflict = true) (spared : Spared existing h) :
      RolloutExit app existing h (.ok (conflictOutcome app))
  | moving (out : FleetOutcome) (phase : Moving out.phase) (other : out ≠ pauseWaitOutcome)
      (calm : Calm h) : RolloutExit app existing h (.ok out)

/-- The StatefulSet a pass read was left alone. -/
def LeftAlone (app : WorkerApp) (h : Trace) : Prop :=
  Untouched h ∨ ∃ existing,
    Saw h (.getLive .statefulSet (fleetName app)) (.ok existing) ∧ Clamped existing h

/-- **The six exits of a pass.** -/
inductive FleetExit (r : Reconciler) (app : WorkerApp) (appVersion : String) (h : Trace) :
    Except Err FleetOutcome → Prop where
  | failed (e : Err) (spared : LeftAlone app h) (calm : Calm h) :
      FleetExit r app appVersion h (.error e)
  | degraded (waitingOn : String) (requeue : Time) (spares : SparesFleet h) :
      FleetExit r app appVersion h (.ok { phase := .degraded, waitingOn, requeue })
  | pauseWait (spares : SparesFleet h) : FleetExit r app appVersion h (.ok pauseWaitOutcome)
  | conflicted (o : StatefulSet) (e : Err) (saw : Saw h (.update .statefulSet o) (.error e))
      (conflict : e.isConflict = true) (spared : LeftAlone app h) :
      FleetExit r app appVersion h (.ok (conflictOutcome app))
  | ready (hash : String) (existing : StatefulSet) (sweep : Sweep)
      (steady : Steady r app appVersion h hash existing sweep) (spares : SparesFleet h) :
      FleetExit r app appVersion h (.ok readyOutcome)
  | moving (out : FleetOutcome) (phase : Moving out.phase) (other : out ≠ pauseWaitOutcome)
      (calm : Calm h) : FleetExit r app appVersion h (.ok out)

/-- A conflict ends the pass. -/
theorem FleetExit.eq_of_conflict {r : Reconciler} {app : WorkerApp} {appVersion : String}
    {h : Trace} {res : Except Err FleetOutcome} (hx : FleetExit r app appVersion h res)
    {o : StatefulSet} {e : Err} (hsaw : Saw h (.update .statefulSet o) (.error e))
    (hc : e.isConflict = true) : res = .ok (conflictOutcome app) := by
  have hno : Calm h → False := by
    intro hcalm
    rw [hcalm o e hsaw] at hc
    cases hc
  cases hx with
  | failed e spared calm => exact (hno calm).elim
  | degraded waitingOn requeue spares => exact (hno spares.calm).elim
  | pauseWait spares => exact (hno spares.calm).elim
  | conflicted => rfl
  | ready hash existing sweep steady spares => exact (hno spares.calm).elim
  | moving out phase other calm => exact (hno calm).elim

theorem RolloutExit.fleetExit {r : Reconciler} {app : WorkerApp} {appVersion : String} {h : Trace}
    {existing : StatefulSet} {res : Except Err FleetOutcome} (hx : RolloutExit app existing h res)
    (hread : Saw h (.getLive .statefulSet (fleetName app)) (.ok existing)) :
    FleetExit r app appVersion h res := by
  have halone : Spared existing h → LeftAlone app h := by
    rintro (hu | hc)
    · exact .inl hu
    · exact .inr ⟨existing, hread, hc⟩
  cases hx with
  | failed e hs hcalm => exact .failed e (halone hs) hcalm
  | conflicted o e hsaw hc hs => exact .conflicted o e hsaw hc (halone hs)
  | moving out hp hne hcalm => exact .moving out hp hne hcalm

theorem Spared.append {existing : StatefulSet} {h t : Trace} (hs : Spared existing h)
    (ht : Untouched t) : Spared existing (h ++ t) := by
  rcases hs with hu | ⟨stored, hover, hack, hobs⟩
  · exact .inl (hu.append ht)
  · exact .inr ⟨stored, hover, hack.append _, hobs⟩

theorem Spared.snoc {existing : StatefulSet} {h : Trace} (hs : Spared existing h) {e : Event Api}
    (he : ¬ acknowledged e.op e.resp) : Spared existing (h ++ [e]) :=
  hs.append (by simpa [Untouched] using he)

/-! ## §4. Rules for walking a pass. -/

section Rules

variable {α β : Type} {h : Trace} {I : Trace → Event Api → Prop}

theorem valid_check {p : P (Except Err α)} {f : α → P (Except Err β)}
    {Q : Trace → Except Err β → Prop}
    (hv : Valid I h p fun h' res => match res with
      | .error e => Q h' (.error e)
      | .ok a => Valid I h' (f a) Q) :
    Valid I h (check p f) Q := by
  unfold check
  rw [valid_bind]
  refine hv.post ?_
  intro h' res hres
  cases res with
  | error e => exact valid_pure.mpr hres
  | ok a => exact hres

theorem runs_check {p : P (Except Err α)} {f : α → P (Except Err β)} {t : Trace}
    {res : Except Err β} (hr : Runs (check p f) t res) :
    (∃ e, res = .error e ∧ Runs p t (.error e)) ∨
      ∃ a t₁ t₂, t = t₁ ++ t₂ ∧ Runs p t₁ (.ok a) ∧ Runs (f a) t₂ res := by
  unfold check at hr
  obtain ⟨a, t₁, t₂, rfl, h₁, h₂⟩ := runs_bind.mp hr
  cases a with
  | error e =>
    obtain ⟨rfl, rfl⟩ := runs_ret.mp h₂
    exact .inl ⟨e, rfl, by simpa using h₁⟩
  | ok a => exact .inr ⟨a, t₁, t₂, rfl, h₁, h₂⟩

theorem valid_exit {a : α} {Q : Trace → α → Prop} (hq : Q h a) : Valid I h (pure a : P α) Q :=
  valid_pure.mpr hq

theorem valid_ask {o : Op} {Q : Trace → Resp o → Prop}
    (hQ : ∀ res, I h ⟨o, res⟩ ∧ Q (h ++ [⟨o, res⟩]) res) : Valid I h (ask o) Q :=
  valid_req.mpr hQ

/-- Step over a function that writes no StatefulSet. -/
theorem stepOver {K : Kind → Prop} {p : P α} {Q : Trace → α → Prop}
    (hI : ∀ h e, e.op.writes ≠ some .statefulSet → I h e) (hp : Confined K p)
    (hK : ¬ K .statefulSet)
    (hQ : ∀ t a, Runs p t a → SparesFleet t → Q (h ++ t) a) : Valid I h p Q := by
  refine (Only.valid hp fun h' e he => hI h' e fun hw => hK (he.1 _ hw)).post ?_
  rintro h' a ⟨t, rfl, hr, ht⟩
  exact hQ t a hr fun e he hw => hK ((ht e he).1 _ hw)

/-- Step over a single read. -/
theorem stepRead {o : Op} {Q : Trace → Resp o → Prop}
    (hI : ∀ h e, e.op.writes ≠ some .statefulSet → I h e) (ho : o.writes = none)
    (hQ : ∀ res, Q (h ++ [⟨o, res⟩]) res) : Valid I h (ask o) Q :=
  valid_ask fun res => ⟨hI _ _ (by simp [ho]), hQ res⟩

theorem SparesFleet.read {o : Op} {a : Resp o} (hsp : SparesFleet h) (ho : o.writes = none) :
    SparesFleet (h ++ [⟨o, a⟩]) :=
  hsp.snoc (by simp [ho])

/-- The write sites: a write the event predicate admits, the conflict and the error exit, and
what follows an accepted write. -/
theorem writeFleet_valid {app : WorkerApp} {o : StatefulSet}
    {next : StatefulSet → P (Except Err FleetOutcome)} {Q : Trace → Except Err FleetOutcome → Prop}
    (hI : ∀ res, I h ⟨.update .statefulSet o, res⟩)
    (hfail : ∀ e, e.isConflict = false →
      Q (h ++ [⟨.update .statefulSet o, .error e⟩]) (.error e))
    (hconflict : ∀ e, e.isConflict = true →
      Q (h ++ [⟨.update .statefulSet o, .error e⟩]) (.ok (conflictOutcome app)))
    (hok : ∀ stored, Valid I (h ++ [⟨.update .statefulSet o, .ok stored⟩]) (next stored) Q) :
    Valid I h (writeFleet app o next) Q := by
  unfold writeFleet updateFleet
  refine valid_check ?_
  rw [valid_bind]
  refine valid_ask fun res => ⟨hI res, ?_⟩
  cases res with
  | ok stored => exact valid_exit (hok stored)
  | error e =>
    by_cases hc : e.isConflict = true
    · simp only [hc, if_true]
      exact valid_exit (valid_exit (hconflict e hc))
    · simp only [hc]
      exact valid_exit (hfail e (by simpa using hc))

/-- The write sites of a pass that has not written yet. -/
theorem writeFleet_first {r : Reconciler} {app : WorkerApp} {appVersion hash : String}
    {existing o : StatefulSet} {next : StatefulSet → P (Except Err FleetOutcome)}
    (hg : Guards r app h hash existing)
    (hw : FleetWrite r app existing (desiredFleet r app hash appVersion) h o) (hsp : SparesFleet h)
    (hok : ∀ stored, Valid (FleetEvent r app appVersion)
      (h ++ [⟨.update .statefulSet o, .ok stored⟩]) (next stored) (FleetExit r app appVersion)) :
    Valid (FleetEvent r app appVersion) h (writeFleet app o next) (FleetExit r app appVersion) :=
  writeFleet_valid (fun _ => ⟨hash, existing, hg, hw, .inl hsp.untouched⟩)
    (fun e hc => .failed e (.inl (hsp.untouched.snoc fun hf => hf))
      (hsp.calm.append (calm_answer fun _ heq => by cases heq; exact hc)))
    (fun e hc => .conflicted o e (saw_last _ _ _) hc (.inl (hsp.untouched.snoc fun hf => hf))) hok

/-- After an accepted write the history is still calm. -/
theorem SparesFleet.accepted {o stored : StatefulSet} (hsp : SparesFleet h) :
    Calm (h ++ [⟨.update .statefulSet o, .ok stored⟩]) :=
  hsp.calm.append (calm_answer fun _ heq => by cases heq)

end Rules

/-! ## §5. The parts of a pass. -/

section Parts

variable {r : Reconciler} {app : WorkerApp} {appVersion hash : String}
  {existing desired : StatefulSet} {t t₁ u : Trace} {res : Except Err FleetOutcome}

theorem runs_check_ok {α β : Type} {p : P (Except Err α)} {f : α → P (Except Err β)} {a : α}
    {b : Except Err β} (hp : Runs p t (.ok a)) :
    Runs (check p f) (t ++ u) b ↔ Runs (f a) u b := by
  unfold check
  rw [runs_bind_of_runs hp]

/-- A pass that read the StatefulSet goes on with it. -/
theorem reconcileFleet_read_iff (hhash : Runs (configHash r app) t₁ (.ok hash)) :
    Runs (reconcileFleet r app appVersion)
        (t₁ ++ ⟨.getLive .statefulSet (fleetName app), .ok existing⟩ :: u) res ↔
      Runs (reconcileExisting r app existing (desiredFleet r app hash appVersion) appVersion)
        u res := by
  unfold reconcileFleet
  rw [runs_check_ok hhash]
  have hread : Runs (ask (.getLive .statefulSet (fleetName app)))
      [⟨.getLive .statefulSet (fleetName app), .ok existing⟩] (.ok existing) := runs_req.mpr rfl
  exact runs_bind_of_runs hread

/-- The wait for the scaler, when the step may write. -/
def awaitPause (r : Reconciler) (app : WorkerApp) (existing desired : StatefulSet) :
    P (Except Err Bool) :=
  if needsPause app existing desired then pauseScaling r app else pure (.ok true)

theorem awaitPause_confined :
    Confined (fun k => k = .scaledObject) (awaitPause r app existing desired) := by
  unfold awaitPause
  split
  · exact pauseScaling_confined r app
  · exact confined_pure _

/-- A pass over a StatefulSet of ours waits for the scaler, and goes on behind it. -/
theorem reconcileExisting_eq (howned : requireOwnership app existing = .ok ()) (version : String) :
    reconcileExisting r app existing desired version =
      check (awaitPause r app existing desired) fun paused =>
        if paused then driveFleet r app existing desired version
        else pure (.ok pauseWaitOutcome) := by
  unfold reconcileExisting awaitPause
  rw [howned]
  dsimp only
  split
  · rfl
  · rfl

/-- The answers leave one way to split the trace of a pass at its read of the StatefulSet. -/
theorem read_unique {t₁' u' : Trace} {hash' : String} {read : Except Err StatefulSet}
    {existing' : StatefulSet} (hhash : Runs (configHash r app) t₁ (.ok hash))
    (hhash' : Runs (configHash r app) t₁' (.ok hash'))
    (heq : t₁ ++ ⟨.getLive .statefulSet (fleetName app), read⟩ :: u =
      t₁' ++ ⟨.getLive .statefulSet (fleetName app), .ok existing'⟩ :: u') :
    hash' = hash ∧ read = .ok existing' ∧ u' = u := by
  obtain ⟨-, hsame, hrest⟩ := Runs.eq_of_append hhash hhash' heq
  cases hsame
  simp only [List.cons.injEq, Event.mk.injEq, heq_eq_eq, true_and] at hrest
  exact ⟨rfl, hrest.1, hrest.2.symm⟩

/-- And then at the end of the wait for the scaler. -/
theorem parts_unique {t₁' t₂ t₂' t₃ t₃' : Trace} {hash' : String} {existing' : StatefulSet}
    {paused paused' : Bool} (hhash : Runs (configHash r app) t₁ (.ok hash))
    (hpause : Runs (awaitPause r app existing (desiredFleet r app hash appVersion)) t₂ (.ok paused))
    (hhash' : Runs (configHash r app) t₁' (.ok hash'))
    (hpause' : Runs (awaitPause r app existing' (desiredFleet r app hash' appVersion)) t₂'
      (.ok paused'))
    (heq : t₁ ++ ⟨.getLive .statefulSet (fleetName app), .ok existing⟩ :: (t₂ ++ t₃) =
      t₁' ++ ⟨.getLive .statefulSet (fleetName app), .ok existing'⟩ :: (t₂' ++ t₃')) :
    hash' = hash ∧ existing' = existing ∧ paused' = paused ∧ t₃' = t₃ := by
  obtain ⟨rfl, hread, htail⟩ := read_unique hhash hhash' heq
  cases hread
  obtain ⟨-, hres, hrest⟩ := Runs.eq_of_append hpause' hpause htail
  cases hres
  exact ⟨rfl, rfl, rfl, hrest⟩

end Parts

end CelldOperator
