/-
  CelldOperator.Status.Ready

  **WHEN A PASS SAYS READY.**

  The phase of a pass comes from a dozen exits; two readers act on it, the status
  (`Available`) and the ScaledObject (`paused`).  It should be Ready only when the
  pass has just seen the whole fleet serve the version (`Serving`).

    • `reconcileApp_cases` — a pass announces only behind a fleet step that
      returned an outcome,
    • `ready_observed_iff_no_conflict` — what it announces was seen, except when
      a write of the StatefulSet conflicted and the STORED phase was Ready: that
      phase is then reported again, unseen.
-/
import CelldOperator.Pass.Census
import CelldOperator.Pass.FleetValid
import CelldOperator.Pass.Scaler
import CelldOperator.Cluster.Server

namespace CelldOperator

open Effect Prog

/-! ## §1. What is announced, and what was seen. -/

/-- The Available condition a status write carries. -/
def Op.available : Op → Option Condition
  | .updateStatus app => findAvailable app.status.conditions
  | _ => none

theorem exists_of_available {o : Op} {c : Condition} (h : c ∈ o.available) :
    ∃ a, o = .updateStatus a ∧ findAvailable a.status.conditions = some c := by
  unfold Op.available at h
  split at h
  · next a => exact ⟨a, rfl, h⟩
  · cases h

/-- The event tells others that the fleet is ready: a status with Available=True at the present
generation, or a ScaledObject that is not paused. -/
def Announces (app : WorkerApp) (e : Event Api) : Prop :=
  (∃ c ∈ e.op.available, c.status = .true_ ∧ c.observedGeneration = app.generation) ∨
  e.op.pausedValue = some "false"

instance (app : WorkerApp) (e : Event Api) : Decidable (Announces app e) :=
  inferInstanceAs (Decidable (_ ∨ _))

/-- **The fleet was seen serving** within the history `h`: the template hash is current, nothing
is in progress, the status has converged, and `observeFleet` returned a sample for every
ordinal, none restoring in sum, each at the version with nothing draining or swapping. -/
structure Serving (r : Reconciler) (app : WorkerApp) (appVersion : String) (h : Trace)
    (hash : String) (existing : StatefulSet) (sweep : Sweep) : Prop where
  hashed : Ran (configHash r app) (.ok hash) h
  read : Saw h (.getLive .statefulSet (fleetName app)) (.ok existing)
  current : annotationOf existing templateHashAnnotation =
    annotationOf (desiredFleet r app hash appVersion) templateHashAnnotation
  partition : stsPartition existing = 0
  idle : recreating existing = false
  ready : existing.sstatus.readyReplicas = stsReplicas existing
  updated : existing.sstatus.updatedReplicas = stsReplicas existing
  observedGeneration : existing.sstatus.observedGeneration = existing.metadata.generation
  observed : Ran (observeFleet app existing) sweep h
  complete : sweep.err = none
  ordinals : (sweep.states.map Prod.fst).Perm
    (ordinalNames existing.metadata.name (stsReplicas existing))
  warm : sweep.restoring = 0
  serving : ∀ s ∈ sweep.states, ∃ d, s.2.deployment = some d ∧ d.version = appVersion ∧
    d.draining = 0 ∧ d.swapping = 0

/-- The fleet was seen serving. -/
def SeenServing (r : Reconciler) (app : WorkerApp) (appVersion : String) (h : Trace) : Prop :=
  ∃ hash existing sweep, Serving r app appVersion h hash existing sweep

theorem deploymentConverged_iff {appVersion : String} {state : PodState} :
    deploymentConverged appVersion state = true ↔ ∃ d, state.deployment = some d ∧
      d.version = appVersion ∧ d.draining = 0 ∧ d.swapping = 0 := by
  unfold deploymentConverged
  split
  · next heq => simp [heq]
  · next d heq => simp [heq, and_assoc]

/-- The evidence of the Ready exit is a sighting. -/
theorem Steady.seenServing {r : Reconciler} {app : WorkerApp} {appVersion : String} {h : Trace}
    {hash : String} {existing : StatefulSet} {sweep : Sweep}
    (hs : Steady r app appVersion h hash existing sweep) : SeenServing r app appVersion h := by
  have hconv : (existing.sstatus.readyReplicas = stsReplicas existing ∧
      existing.sstatus.updatedReplicas = stsReplicas existing) ∧
      existing.sstatus.observedGeneration = existing.metadata.generation := by
    simpa [statusConverged] using hs.converged
  obtain ⟨pre, t, post, rfl, ht⟩ := hs.observed
  obtain ⟨pods, hobs⟩ := observeFleet_observed ht hs.complete
  exact ⟨hash, existing, sweep,
    { hashed := hs.hashed
      read := hs.read
      current := by simpa [templateChanged] using hs.same
      partition := hs.still
      idle := hs.idle
      ready := hconv.1.1
      updated := hconv.1.2
      observedGeneration := hconv.2
      observed := hs.observed
      complete := hs.complete
      ordinals := hobs.samples
      warm := hs.warm
      serving := fun s hmem => deploymentConverged_iff.mp (hs.serving s hmem) }⟩

/-! ## §2. The parts of a pass. -/

/-- The conditions a pass has collected before the fleet step returns. -/
def passConditions (foundation : List Condition) (resolved : ResolvedVersion) : List Condition :=
  [{ type := "SpecValid", status := .true_, reason := "Validated" }] ++ foundation ++
    resolved.conditions

/-- In the pass with the events `t` the version was resolved, the fleet step exchanged `t₂` and
returned `out`, and the rest followed. -/
def FleetReturned (r : Reconciler) (app : WorkerApp) (t : Trace) (resolved : ResolvedVersion)
    (t₂ : Trace) (out : FleetOutcome) : Prop :=
  ∃ t₀ t₁ t₃ foundation res, t = t₀ ++ t₁ ++ t₂ ++ t₃ ∧
    Runs (ensureFoundation r app) t₀ (.ok foundation) ∧
    Runs (resolveAppVersion r app) t₁ resolved ∧
    Runs (reconcileFleet r app resolved.version) t₂ (.ok out) ∧
    Runs (finishPass r app resolved (passConditions foundation resolved) out) t₃ res

/-- A pass over a WorkerApp that is there to stay and has an accepted spec. -/
theorem reconcileApp_eq {r : Reconciler} {key : NamespacedName} {app : WorkerApp}
    (hlive : app.deleting = false) (hvalid : validateApp r app = .ok ()) :
    reconcileApp r key app = reconcileValid r app := by
  unfold reconcileApp
  rw [hlive, hvalid]
  rfl

section runs

variable (handle : Cluster → (o : Op) → Resp o × Cluster) (r : Reconciler) (app : WorkerApp)
  (c : Cluster)

/-- The parts of a concrete pass, each from where the one before it ended. -/
def foundationRun : List (Event Api) × Cluster × Except Err (List Condition) :=
  runWith handle (ensureFoundation r app) c

def versionRun : List (Event Api) × Cluster × ResolvedVersion :=
  runWith handle (resolveAppVersion r app) (foundationRun handle r app c).2.1

def fleetRun : List (Event Api) × Cluster × Except Err FleetOutcome :=
  runWith handle (reconcileFleet r app (versionRun handle r app c).2.2.version)
    (versionRun handle r app c).2.1

def finishRun (foundation : List Condition) (out : FleetOutcome) :
    List (Event Api) × Cluster × Except Err Result :=
  runWith handle (finishPass r app (versionRun handle r app c).2.2
    (passConditions foundation (versionRun handle r app c).2.2) out) (fleetRun handle r app c).2.1

variable {handle r app c} {foundation : List Condition} {out : FleetOutcome}

/-- A concrete pass that gets through the fleet step is the sequence of its parts. -/
theorem runWith_reconcileApp (key : NamespacedName) (hlive : app.deleting = false)
    (hvalid : validateApp r app = .ok ())
    (hfoundation : (foundationRun handle r app c).2.2 = .ok foundation)
    (hfleet : (fleetRun handle r app c).2.2 = .ok out) :
    runWith handle (reconcileApp r key app) c =
      ((foundationRun handle r app c).1 ++ (versionRun handle r app c).1 ++
          (fleetRun handle r app c).1 ++ (finishRun handle r app c foundation out).1,
        (finishRun handle r app c foundation out).2) := by
  rw [reconcileApp_eq hlive hvalid]
  unfold reconcileValid check
  rw [runWith_bind]
  unfold foundationRun at hfoundation
  rw [hfoundation]
  dsimp only
  rw [runWith_bind, runWith_bind]
  unfold fleetRun versionRun foundationRun at hfleet
  rw [hfleet]
  simp only [List.append_assoc]
  rfl

theorem fleetReturned_run (key : NamespacedName) (hlive : app.deleting = false)
    (hvalid : validateApp r app = .ok ())
    (hfoundation : (foundationRun handle r app c).2.2 = .ok foundation)
    (hfleet : (fleetRun handle r app c).2.2 = .ok out) :
    FleetReturned r app (runWith handle (reconcileApp r key app) c).1
      (versionRun handle r app c).2.2 (fleetRun handle r app c).1 out := by
  refine ⟨_, _, _, foundation, (finishRun handle r app c foundation out).2.2,
    congrArg Prod.fst (runWith_reconcileApp key hlive hvalid hfoundation hfleet), ?_, ?_, ?_, ?_⟩
  · rw [← hfoundation]
    exact runs_runWith (foundationRun handle r app c) rfl
  · exact runs_runWith (versionRun handle r app c) rfl
  · rw [← hfleet]
    exact runs_runWith (fleetRun handle r app c) rfl
  · exact runs_runWith (finishRun handle r app c foundation out) rfl

end runs

/-- Nothing is announced along these events. -/
def Silent (app : WorkerApp) (t : Trace) : Prop := ∀ e ∈ t, ¬ Announces app e

theorem Silent.append {app : WorkerApp} {t u : Trace} (ht : Silent app t) (hu : Silent app u) :
    Silent app (t ++ u) := by
  intro e he
  rcases List.mem_append.mp he with he | he
  · exact ht e he
  · exact hu e he

/-- A function that leaves scaler and status alone announces nothing. -/
theorem Confined.silent {α : Type} {K : Kind → Prop} {p : P α} (h : Confined K p)
    (hK : ¬ K .scaledObject) {app : WorkerApp} {t : Trace} {a : α} (ht : Runs p t a) :
    Silent app t := by
  intro e he hann
  obtain ⟨hw, hr⟩ := (Only.steps h ht).1 e he
  rcases hann with ⟨c, hc, -⟩ | hv
  · obtain ⟨a, hop, -⟩ := exists_of_available hc
    rw [hop] at hr
    cases hr
  · rw [pausedValue_of_writes fun hk => hK (hw _ hk)] at hv
    cases hv

theorem reconcileFleet_silent {r : Reconciler} {app : WorkerApp} {v : String} {t : Trace}
    {res : Except Err FleetOutcome} (ht : Runs (reconcileFleet r app v) t res) :
    Silent app t := by
  intro e he hann
  rcases hann with ⟨c, hc, -⟩ | hv
  · obtain ⟨a, hop, -⟩ := exists_of_available hc
    have hr := ((Only.steps (reconcileFleet_confined r app v) ht).1 e he).2
    rw [hop] at hr
    cases hr
  · have := (Only.steps (reconcileFleet_pauses r app v) ht).1 e he _ hv
    exact absurd this (by decide)

/-- Behind the fleet step an announcement means the phase Ready. -/
theorem finishPass_announces {r : Reconciler} {app : WorkerApp} {resolved : ResolvedVersion}
    {conditions : List Condition} {out : FleetOutcome} {t : Trace} {res : Except Err Result}
    (ht : Runs (finishPass r app resolved conditions out) t res) {e : Event Api} (he : e ∈ t)
    (hann : Announces app e) : out.phase = .ready := by
  by_contra hne
  rcases hann with ⟨c, hc, htrue, -⟩ | hv
  · obtain ⟨a, hop, hfind⟩ := exists_of_available hc
    have hrep := (Only.steps (finishPass_available r app resolved conditions out) ht).1 e he a hop
    rw [hfind] at hrep
    rw [Option.some.inj hrep] at htrue
    simp [availableCondition, boolToCondition, hne] at htrue
  · have := (Only.steps (finishPass_pauses r app resolved conditions out) ht).1 e he _ hv
    simp [pausedIn, hne] at this

/-! ## §3. A pass announces behind the fleet step only. -/

/-- A refused spec writes no child. -/
theorem rejectSpec_writes {app : WorkerApp} {text : String} {t : Trace} {res : Except Err Result}
    (ht : Runs (rejectSpec app text) t res) : ∀ e ∈ t, e.op.writes = none :=
  (Only.steps ((rejectSpec_topics app text).writesNone (by decide)) ht).1

theorem rejectSpec_silent {app : WorkerApp} {text : String} {t : Trace} {res : Except Err Result}
    (ht : Runs (rejectSpec app text) t res) : Silent app t := by
  have honly : Only (fun o : Op => ∀ a, o = .updateStatus a →
      ∃ c, findAvailable a.status.conditions = some c ∧ c.status = .false_) (rejectSpec app text) := by
    unfold rejectSpec
    dsimp only
    split
    · exact only_pure _ _
    · refine only_check (only_ask fun a ha => ?_) fun _ => only_pure _ _
      cases ha
      exact ⟨_, findAvailable_set_self _ rfl, rfl⟩
  have hkind : ∀ e ∈ t, e.op.pausedValue = none := fun e he =>
    pausedValue_of_writes (by rw [rejectSpec_writes ht e he]; nofun)
  intro e he hann
  rcases hann with ⟨c, hc, htrue, -⟩ | hv
  · obtain ⟨a, hop, hfind⟩ := exists_of_available hc
    obtain ⟨c', hfind', hfalse⟩ := (Only.steps honly ht).1 e he a hop
    rw [hfind] at hfind'
    rw [Option.some.inj hfind', hfalse] at htrue
    cases htrue
  · rw [hkind e he] at hv
    cases hv

theorem rejectSpec_spares {app : WorkerApp} {text : String} {t : Trace} {res : Except Err Result}
    (ht : Runs (rejectSpec app text) t res) : SparesFleet t := by
  intro e he
  rw [rejectSpec_writes ht e he]
  nofun

/-- **The parts of a pass** over a valid spec: it fails in its foundation or in its fleet step, or
it comes to its end. -/
theorem reconcileValid_parts {r : Reconciler} {app : WorkerApp} {t : Trace}
    {res : Except Err Result} (ht : Runs (reconcileValid r app) t res) :
    (∃ e, res = .error e ∧ Runs (ensureFoundation r app) t (.error e)) ∨
      ∃ t₀ t₁ u foundation resolved, t = t₀ ++ t₁ ++ u ∧
        Runs (ensureFoundation r app) t₀ (.ok foundation) ∧
        Runs (resolveAppVersion r app) t₁ resolved ∧
        ((∃ e, res = .error e ∧ Runs (reconcileFleet r app resolved.version) u (.error e)) ∨
          ∃ t₂ t₃ out, u = t₂ ++ t₃ ∧ Runs (reconcileFleet r app resolved.version) t₂ (.ok out) ∧
            Runs (finishPass r app resolved (passConditions foundation resolved) out) t₃ res) := by
  unfold reconcileValid at ht
  rcases runs_check ht with ⟨e, rfl, ht₀⟩ | ⟨foundation, t₀, v, rfl, ht₀, hv⟩
  · exact .inl ⟨e, rfl, ht₀⟩
  · obtain ⟨resolved, t₁, u, rfl, ht₁, hu⟩ := runs_bind.mp hv
    refine .inr ⟨t₀, t₁, u, foundation, resolved, by simp only [List.append_assoc], ht₀, ht₁, ?_⟩
    rcases runs_check hu with ⟨e, rfl, ht₂⟩ | ⟨out, t₂, t₃, rfl, ht₂, ht₃⟩
    · exact .inl ⟨e, rfl, ht₂⟩
    · exact .inr ⟨t₂, t₃, out, rfl, ht₂, ht₃⟩

/-- A pass over a valid spec reaches the end of the fleet step, or it says nothing. -/
theorem reconcileValid_cases {r : Reconciler} {app : WorkerApp} {t : Trace}
    {res : Except Err Result} (ht : Runs (reconcileValid r app) t res) :
    (∃ resolved t₂ out, FleetReturned r app t resolved t₂ out) ∨ (Silent app t ∧ Calm t) := by
  have hc := ensureFoundation_confined r app
  have hr := resolveAppVersion_reads r app
  rcases reconcileValid_parts ht with ⟨_, -, ht₀⟩ | ⟨t₀, t₁, u, foundation, resolved, rfl, ht₀, ht₁,
    ⟨e, -, ht₂⟩ | ⟨t₂, t₃, out, rfl, ht₂, ht₃⟩⟩
  · exact .inr ⟨hc.silent (fun hf => hf) ht₀, (hc.spares (fun hf => hf) ht₀).calm⟩
  · have hcalm : Calm u := by
      have hexit := valid_runs (reconcileFleet_valid r app resolved.version) ht₂
      rw [List.nil_append] at hexit
      cases hexit with
      | failed e spared calm => exact calm
    refine .inr ⟨?_, ?_⟩
    · exact ((hc.silent (fun hf => hf) ht₀).append (hr.silent (fun hf => hf) ht₁)).append
        (reconcileFleet_silent ht₂)
    · exact ((hc.spares (fun hf => hf) ht₀).calm.append (hr.spares ht₁).calm).append hcalm
  · exact .inl ⟨resolved, t₂, out, t₀, t₁, t₃, foundation, res, by simp only [List.append_assoc],
      ht₀, ht₁, ht₂, ht₃⟩

/-- **A pass announces only behind a fleet step that returned an outcome.** -/
theorem reconcileApp_cases {r : Reconciler} {key : NamespacedName} {app : WorkerApp} {t : Trace}
    {res : Except Err Result} (ht : Runs (reconcileApp r key app) t res) :
    (∃ resolved t₂ out, FleetReturned r app t resolved t₂ out) ∨ (Silent app t ∧ Calm t) := by
  unfold reconcileApp at ht
  split at ht
  · have hc := forget_reads key
    exact .inr ⟨hc.silent (fun hf => hf) ht, (hc.spares ht).calm⟩
  · split at ht
    · exact .inr ⟨rejectSpec_silent ht, (rejectSpec_spares ht).calm⟩
    · exact reconcileValid_cases ht

/-! ## §4. Ready is only reported when observed, unless a write conflicts. -/

/-- A write of the StatefulSet was answered with a conflict. -/
def Conflicted (t : Trace) : Prop :=
  ∃ o e, Saw t (.update .statefulSet o) (.error e) ∧ e.isConflict = true

section

variable {r : Reconciler} {app : WorkerApp} {t t₂ : Trace} {resolved : ResolvedVersion}
  {out : FleetOutcome}

/-- The fleet step's conflicts are the pass's. -/
theorem FleetReturned.conflicted (hf : FleetReturned r app t resolved t₂ out) :
    Conflicted t ↔ Conflicted t₂ := by
  obtain ⟨t₀, t₁, t₃, foundation, res, rfl, ht₀, ht₁, -, ht₃⟩ := hf
  constructor
  · rintro ⟨o, e, hsaw, hc⟩
    have hno : ∀ {u : Trace}, SparesFleet u →
        ¬ Saw u (.update .statefulSet o) (.error e) := fun hsp hs => hsp _ hs rfl
    rcases List.mem_append.mp hsaw with hsaw | hsaw
    · rcases List.mem_append.mp hsaw with hsaw | hsaw
      · rcases List.mem_append.mp hsaw with hsaw | hsaw
        · exact absurd hsaw (hno ((ensureFoundation_confined r app).spares (fun hf => hf) ht₀))
        · exact absurd hsaw (hno ((resolveAppVersion_reads r app).spares ht₁))
      · exact ⟨o, e, hsaw, hc⟩
    · exact absurd hsaw (hno (Only.steps (finishPass_sparesFleet ..) ht₃).1)
  · rintro ⟨o, e, hsaw, hc⟩
    exact ⟨o, e, (hsaw.append_left _).append _, hc⟩

/-- Without a conflict over a stored Ready, the phase Ready was seen. -/
theorem FleetReturned.ready_seen (hf : FleetReturned r app t resolved t₂ out)
    (hno : ¬ (app.status.phase = .ready ∧ Conflicted t)) (hready : out.phase = .ready) :
    SeenServing r app resolved.version t₂ ∧ out.rolledOut = true := by
  rw [hf.conflicted] at hno
  obtain ⟨-, -, -, -, -, -, -, -, ht₂, -⟩ := hf
  have hexit := valid_runs (reconcileFleet_valid r app resolved.version) ht₂
  rw [List.nil_append] at hexit
  cases hexit with
  | degraded | pauseWait => cases hready
  | moving out hmoving other calm =>
    rw [hready] at hmoving
    exact hmoving.elim
  | ready hash existing sweep steady spares => exact ⟨steady.seenServing, rfl⟩
  | conflicted o e hsaw hc spared =>
    refine absurd ⟨?_, o, e, hsaw, hc⟩ hno
    unfold conflictOutcome at hready
    dsimp only at hready
    split at hready
    · cases hready
    · exact hready

/-- An announcement comes from the end of the pass, in the phase Ready. -/
theorem FleetReturned.announces (hf : FleetReturned r app t resolved t₂ out) {e : Event Api}
    (he : e ∈ t) (hann : Announces app e) : out.phase = .ready := by
  obtain ⟨t₀, t₁, t₃, foundation, res, rfl, ht₀, ht₁, ht₂, ht₃⟩ := hf
  have hfoundation : Silent app t₀ := (ensureFoundation_confined r app).silent (fun hf => hf) ht₀
  have hsilent := (hfoundation.append
    ((resolveAppVersion_reads r app).silent (fun hf => hf) ht₁)).append (reconcileFleet_silent ht₂)
  rcases List.mem_append.mp he with he | he
  · exact absurd hann (hsilent e he)
  · exact finishPass_announces ht₃ he hann

end

/-- **Ready is only reported when observed**, in exactly the passes in which no write of the
StatefulSet conflicts over a stored phase Ready. -/
theorem ready_observed_iff_no_conflict (r : Reconciler) (key : NamespacedName) (app : WorkerApp)
    (t : Trace) (res : Except Err Result) (ht : Runs (reconcileApp r key app) t res) :
    ((∀ resolved t₂ out, FleetReturned r app t resolved t₂ out → out.phase = .ready →
        SeenServing r app resolved.version t₂ ∧ out.rolledOut = true) ∧
      (∀ e ∈ t, Announces app e → ∃ resolved t₂ out, FleetReturned r app t resolved t₂ out ∧
        SeenServing r app resolved.version t₂)) ↔
    ¬ (app.status.phase = .ready ∧ Conflicted t) := by
  constructor
  · rintro ⟨hseen, -⟩ ⟨hready, hconf⟩
    rcases reconcileApp_cases ht with ⟨resolved, t₂, out, hf⟩ | ⟨-, hcalm⟩
    · obtain ⟨o, e, hsaw, hc⟩ := hf.conflicted.mp hconf
      have hout : out = conflictOutcome app := by
        obtain ⟨-, -, -, -, -, -, -, -, ht₂, -⟩ := hf
        have hexit := valid_runs (reconcileFleet_valid r app resolved.version) ht₂
        rw [List.nil_append] at hexit
        exact Except.ok.inj (hexit.eq_of_conflict hsaw hc)
      subst hout
      -- the conflict exit repeats the stored phase and has not rolled anything out
      have hphase : (conflictOutcome app).phase = .ready := by simp [conflictOutcome, hready]
      obtain ⟨-, hrolled⟩ := hseen resolved t₂ _ hf hphase
      cases hrolled
    · obtain ⟨o, e, hsaw, hc⟩ := hconf
      rw [hcalm o e hsaw] at hc
      cases hc
  · intro hno
    refine ⟨fun resolved t₂ out hf hready => hf.ready_seen hno hready, ?_⟩
    intro e he hann
    rcases reconcileApp_cases ht with ⟨resolved, t₂, out, hf⟩ | ⟨hsilent, -⟩
    · exact ⟨resolved, t₂, out, hf, (hf.ready_seen hno (hf.announces he hann)).1⟩
    · exact absurd hann (hsilent e he)

/-- A pass over a converged fleet of three. -/
def steadyPass : List (Event Api) × Cluster × Except Err Result :=
  runWith (answer { state := fun _ => .ok (sampleState "1" 0) })
    (reconcileApp sampleReconciler ⟨"prod", "shop"⟩ servingApp)
    (settledCluster servingApp true "True")

theorem ready_observed_iff_no_conflict_steadyPass :
    (∃ e ∈ steadyPass.1, Announces servingApp e) ∧
      ∃ resolved t₂ out, FleetReturned sampleReconciler servingApp steadyPass.1 resolved t₂ out ∧
        SeenServing sampleReconciler servingApp resolved.version t₂ := by
  have hann : ∃ e ∈ steadyPass.1, Announces servingApp e := by decide +kernel
  have hruns : Runs (reconcileApp sampleReconciler ⟨"prod", "shop"⟩ servingApp)
      steadyPass.1 steadyPass.2.2 := runs_runWith steadyPass rfl
  refine ⟨hann, ?_⟩
  obtain ⟨e, he, hsays⟩ := hann
  refine ((ready_observed_iff_no_conflict _ _ _ _ _ hruns).mpr ?_).2 e he hsays
  rintro ⟨hready, -⟩
  cases hready

/-- A server whose StatefulSet writes all lose to another writer. -/
def conflicting (c : Cluster) (o : Op) : Resp o × Cluster :=
  match o with
  | .update .statefulSet _ => (.error (.conflict ""), c)
  | o => answer { state := fun _ => .ok (sampleState "1" 0) } c o

/-- The stored phase is Ready, and the image has just been edited. -/
def editedApp : WorkerApp :=
  { scaledApp "ghcr.io/denoland/celld:v0.5.2" with
    generation := 2
    status := { phase := .ready } }

/-- The cluster it is edited in: the fleet still runs the old image, the scaler is paused. -/
def editedCluster : Cluster := settledCluster servingApp true "True"

/-- **A conflict repeats a stored Ready.**  The StatefulSet still has the old template and its
write conflicts; the pass reports Available at the new generation and releases the scaler. -/
theorem ready_unobserved_editedApp :
    let t := (runWith conflicting (reconcileApp sampleReconciler ⟨"prod", "shop"⟩ editedApp)
      editedCluster).1
    let t₂ := (fleetRun conflicting sampleReconciler editedApp editedCluster).1
    let resolved := (versionRun conflicting sampleReconciler editedApp editedCluster).2.2
    FleetReturned sampleReconciler editedApp t resolved t₂ (conflictOutcome editedApp) ∧
      (conflictOutcome editedApp).phase = .ready ∧ (conflictOutcome editedApp).rolledOut = false ∧
      ¬ SeenServing sampleReconciler editedApp resolved.version t₂ ∧
      (∃ e ∈ t, ∃ c ∈ e.op.available, c.status = .true_ ∧ c.observedGeneration = 2) ∧
      (∃ e ∈ t, e.op.pausedValue = some "false") := by
  refine ⟨?_, rfl, rfl, ?_, by decide +kernel⟩
  · have hfoundation : (foundationRun conflicting sampleReconciler editedApp editedCluster).2.2 =
        .ok [credentialsCondition editedApp] := by decide +kernel
    exact fleetReturned_run _ rfl (by decide) hfoundation (by decide +kernel)
  · rintro ⟨hash, existing, sweep, hs⟩
    have hstale : (fleetRun conflicting sampleReconciler editedApp editedCluster).1.all
        (fleetRead fun sts =>
          annotationOf sts templateHashAnnotation != editedApp.spec.celld.image) = true := by
      decide +kernel
    have hne := List.all_eq_true.mp hstale _ hs.read
    exact (bne_iff_ne.mp hne) hs.current

end CelldOperator
