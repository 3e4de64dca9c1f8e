/-
  CelldOperator.Status.Summary

  **THE PHASE AND ITS THREE SUMMARY CONDITIONS.**  Two functions write the status:
  `updateStatus` at the end of a pass sets Available, Progressing and Degraded from
  the phase; the exit for a refused spec (`rejectSpec`) sets the phase and Available
  and leaves the other two as they are stored.

    • `summaryAgrees_merge` — what `updateStatus` writes agrees,
    • `summaryAgrees_invalid_iff` — what `rejectSpec` writes agrees exactly if the
      stored two already do (`SummaryCarried`),
    • `summary_agrees_iff` — so for every status write of every pass,
    • `StatusRun.agrees` — and for all the passes over a WorkerApp, if no refused
      spec follows an accepted one,
    • `summary_disagrees` — a pass over an accepted spec, then one over a refused
      one.
-/
import CelldOperator.Pass.FleetSpec
import CelldOperator.Pass.Scaler
import CelldOperator.Cluster.Server

namespace CelldOperator

open Effect Prog

/-! ## §1. Agreement. -/

/-- The phases in which the fleet is on its way. -/
def Phase.progressing (phase : Phase) : Bool :=
  phase == .pending || phase == .rollingOut || phase == .recreating

/-- The condition, when present, is True exactly if `holds`, as of the generation. -/
def ConditionAgrees (conditions : List Condition) (type : String) (holds : Bool)
    (generation : Nat) : Prop :=
  ∀ c, findStatusCondition conditions type = some c →
    (c.status = .true_ ↔ holds = true) ∧ c.observedGeneration = generation

/-- **Agreement** of the summary conditions with the phase. -/
structure SummaryAgrees (generation : Nat) (status : WorkerAppStatus) : Prop where
  present : (findStatusCondition status.conditions "Available").isSome = true
  available : ConditionAgrees status.conditions "Available" (status.phase == .ready) generation
  degraded : ConditionAgrees status.conditions "Degraded" (status.phase == .degraded) generation
  progressing : ConditionAgrees status.conditions "Progressing" status.phase.progressing generation

instance (conditions : List Condition) (type : String) (holds : Bool) (generation : Nat) :
    Decidable (ConditionAgrees conditions type holds generation) :=
  decidable_of_iff ((findStatusCondition conditions type).all (fun c =>
      decide ((c.status = .true_ ↔ holds = true) ∧ c.observedGeneration = generation)) = true)
    (by simp only [ConditionAgrees, Option.all_eq_true, decide_eq_true_eq])

instance (generation : Nat) (status : WorkerAppStatus) :
    Decidable (SummaryAgrees generation status) :=
  decidable_of_iff
    ((findStatusCondition status.conditions "Available").isSome = true ∧
      ConditionAgrees status.conditions "Available" (status.phase == .ready) generation ∧
      ConditionAgrees status.conditions "Degraded" (status.phase == .degraded) generation ∧
      ConditionAgrees status.conditions "Progressing" status.phase.progressing generation)
    ⟨fun ⟨h₁, h₂, h₃, h₄⟩ => ⟨h₁, h₂, h₃, h₄⟩, fun h => ⟨h.1, h.2, h.3, h.4⟩⟩

theorem boolToCondition_eq_true (b : Bool) : boolToCondition b = .true_ ↔ b = true := by
  cases b <;> simp [boolToCondition]

section

variable {l : List Condition} {c : Condition} {type : String} {holds : Bool} {generation : Nat}

/-- A condition that was just set. -/
theorem conditionAgrees_set_self (htype : c.type = type) (hstatus : c.status = boolToCondition holds)
    (hgeneration : c.observedGeneration = generation) :
    ConditionAgrees (setStatusCondition l c) type holds generation := by
  subst htype
  intro c' hc'
  cases (findStatusCondition_set_self l c).symm.trans hc'
  rw [hstatus]
  exact ⟨boolToCondition_eq_true holds, hgeneration⟩

/-- Another one was set behind it. -/
theorem conditionAgrees_set_of_ne (hne : c.type ≠ type)
    (h : ConditionAgrees l type holds generation) :
    ConditionAgrees (setStatusCondition l c) type holds generation := by
  unfold ConditionAgrees
  rw [findStatusCondition_set_of_ne l hne]
  exact h

end

/-! ## §2. The status of an outcome. -/

/-- **What `updateStatus` writes agrees**, whatever was stored and reported besides. -/
theorem summaryAgrees_merge {generation : Nat} {status : WorkerAppStatus} (outcome : FleetOutcome)
    {stored reported : List Condition} (hphase : status.phase = outcome.phase)
    (hconditions : status.conditions =
      mergeConditions generation stored (reported ++ summaryConditions outcome)) :
    SummaryAgrees generation status := by
  -- the three summary conditions are set last, one after the other
  obtain ⟨l, hl⟩ : ∃ l, status.conditions = setStatusCondition (setStatusCondition
      (setStatusCondition l
        { type := "Available", status := boolToCondition (outcome.phase == .ready)
          reason := outcome.phase.text, observedGeneration := generation })
        { type := "Progressing", status := boolToCondition outcome.phase.progressing
          reason := outcome.phase.text, message := outcome.waitingOn
          observedGeneration := generation })
        { type := "Degraded", status := boolToCondition (outcome.phase == .degraded)
          reason := outcome.phase.text, message := outcome.waitingOn
          observedGeneration := generation } := by
    rw [hconditions]
    unfold mergeConditions summaryConditions
    dsimp only
    rw [List.map_append, List.foldl_append]
    exact ⟨_, rfl⟩
  have hdp : "Degraded" ≠ "Progressing" := by decide
  have hda : "Degraded" ≠ "Available" := by decide
  have hpa : "Progressing" ≠ "Available" := by decide
  refine ⟨?_, ?_, ?_, ?_⟩
  · rw [hl, findStatusCondition_set_of_ne _ hda, findStatusCondition_set_of_ne _ hpa]
    exact congrArg Option.isSome (findStatusCondition_set_self _ _)
  · rw [hl, hphase]
    exact conditionAgrees_set_of_ne hda (conditionAgrees_set_of_ne hpa
      (conditionAgrees_set_self rfl rfl rfl))
  · rw [hl, hphase]
    exact conditionAgrees_set_self rfl rfl rfl
  · rw [hl, hphase]
    exact conditionAgrees_set_of_ne hdp (conditionAgrees_set_self rfl rfl rfl)

/-! ## §3. The status of a refused spec. -/

/-- **The condition**: the stored Degraded and Progressing, when present, already say what a
refused spec means, as of this generation. -/
structure SummaryCarried (app : WorkerApp) : Prop where
  degraded : ConditionAgrees app.status.conditions "Degraded" true app.generation
  progressing : ConditionAgrees app.status.conditions "Progressing" false app.generation

/-- Removal leaves the conditions of other types. -/
theorem findStatusCondition_remove_of_ne (l : List Condition) {removed type : String}
    (h : removed ≠ type) :
    findStatusCondition (removeStatusCondition l removed) type = findStatusCondition l type := by
  unfold findStatusCondition removeStatusCondition
  rw [List.find?_filter]
  congr 1
  funext c
  by_cases hc : c.type = type
  · simp [hc, h.symm]
  · simp [hc]

/-- `rejectSpec` leaves the conditions it does not set and does not retire. -/
theorem findStatusCondition_invalid (app : WorkerApp) (text : String) {type : String}
    (hvalid : type ≠ "SpecValid") (havailable : type ≠ "Available")
    (hoptional : type ∉ optionalConditions) :
    findStatusCondition (invalidStatus app text).conditions type =
      findStatusCondition app.status.conditions type := by
  simp only [optionalConditions, List.mem_cons, List.not_mem_nil, or_false, not_or] at hoptional
  unfold invalidStatus optionalConditions
  dsimp only
  rw [findStatusCondition_set_of_ne _ havailable.symm, findStatusCondition_set_of_ne _ hvalid.symm]
  simp only [List.foldl_cons, List.foldl_nil]
  rw [findStatusCondition_remove_of_ne _ (Ne.symm hoptional.2.2),
    findStatusCondition_remove_of_ne _ (Ne.symm hoptional.2.1),
    findStatusCondition_remove_of_ne _ (Ne.symm hoptional.1)]

theorem summaryAgrees_invalid_iff (app : WorkerApp) (text : String) :
    SummaryAgrees app.generation (invalidStatus app text) ↔ SummaryCarried app := by
  have hdegraded := findStatusCondition_invalid app text (show "Degraded" ≠ "SpecValid" by decide)
    (by decide) (by decide)
  have hprogressing := findStatusCondition_invalid app text
    (show "Progressing" ≠ "SpecValid" by decide) (by decide) (by decide)
  constructor
  · intro h
    have hd := h.degraded
    have hp := h.progressing
    unfold ConditionAgrees at hd hp
    rw [hdegraded] at hd
    rw [hprogressing] at hp
    exact ⟨hd, hp⟩
  · intro h
    refine ⟨?_, conditionAgrees_set_self rfl rfl rfl, ?_, ?_⟩
    · exact congrArg Option.isSome (findStatusCondition_set_self _ _)
    · unfold ConditionAgrees
      rw [hdegraded]
      exact h.degraded
    · unfold ConditionAgrees
      rw [hprogressing]
      exact h.progressing

/-! ## §4. Every status write of a pass. -/

/-- The operation, if it writes the status, sends one that agrees. -/
def SendsAgreeing (app : WorkerApp) (o : Op) : Prop :=
  ∀ a, o = .updateStatus a → SummaryAgrees app.generation a.status

theorem Confined.sendsAgreeing {α : Type} {K : Kind → Prop} {p : P α} (h : Confined K p)
    (app : WorkerApp) : Only (SendsAgreeing app) p := by
  refine Only.mono (fun o ho a ha => ?_) h
  rw [ha] at ho
  cases ho.2

/-- The observed part of the status leaves the phase. -/
theorem observedStatus_phase (app : WorkerApp) (status : WorkerAppStatus) :
    Valid (fun _ _ => True) [] (observedStatus app status) fun _ res =>
      res.1.phase = status.phase := by
  unfold observedStatus
  rw [valid_bind]
  refine valid_ask fun read => ⟨trivial, ?_⟩
  dsimp only
  rw [valid_bind]
  refine (valid_trivial _ _).post fun h sweep _ => ?_
  cases sweep.err with
  | none =>
    rw [valid_bind]
    refine valid_ask fun order => ⟨trivial, valid_exit ?_⟩
    cases read <;> rfl
  | some e =>
    refine valid_exit ?_
    cases read <;> rfl

theorem updateStatus_sendsAgreeing (app : WorkerApp) (outcome : FleetOutcome) (appVersion : String)
    (conditions : List Condition) :
    Only (SendsAgreeing app) (updateStatus app outcome appVersion conditions) := by
  unfold updateStatus
  refine Only.bind_of ((observedStatus_reads _ _).sendsAgreeing app) (observedStatus_phase _ _) ?_
  rintro ⟨status, fleetState⟩ hphase
  dsimp only
  split
  · exact only_pure _ _
  · refine only_ask fun a ha => ?_
    cases ha
    exact summaryAgrees_merge outcome hphase rfl

/-- A pass over an accepted spec. -/
theorem reconcileValid_sendsAgreeing (r : Reconciler) (app : WorkerApp) :
    Only (SendsAgreeing app) (reconcileValid r app) := by
  unfold reconcileValid
  refine only_check ((ensureFoundation_confined r app).sendsAgreeing app) fun foundation => ?_
  refine only_bind ((resolveAppVersion_reads r app).sendsAgreeing app) fun resolved => ?_
  refine only_check ((reconcileFleet_confined r app _).sendsAgreeing app) fun outcome => ?_
  exact finishPass_only r app resolved _ outcome
    ((ensureIngress_confined r app).sendsAgreeing app)
    ((ensureAuthorizationPolicy_confined r app).sendsAgreeing app)
    ((ensureScaledObject_confined r app outcome.phase).sendsAgreeing app)
    (fun conditions => updateStatus_sendsAgreeing app outcome _ conditions)

/-- A pass over a refused spec. -/
theorem rejectSpec_sends (app : WorkerApp) (text : String) :
    Only (fun o : Op => ∀ a, o = .updateStatus a → a.status = invalidStatus app text)
      (rejectSpec app text) := by
  unfold rejectSpec
  dsimp only
  split
  · exact only_pure _ _
  · refine only_check (only_ask fun a ha => ?_) fun _ => only_pure _ _
    cases ha
    rfl

/-- A status sent by a pass agrees, or reports the refused spec. -/
theorem sent_status {r : Reconciler} {key : NamespacedName} {app a : WorkerApp} {t : Trace}
    {q : P (Except Err Result)} {res : Except Err Unit} (hsteps : Steps (reconcileApp r key app) t q)
    (hsent : Saw t (.updateStatus a) res) :
    (validateApp r app = .ok () ∧ SummaryAgrees app.generation a.status) ∨
      ∃ text, validateApp r app = .error text ∧ a.status = invalidStatus app text := by
  unfold reconcileApp at hsteps
  split at hsteps
  · -- a deleted WorkerApp gets no status
    have hc := forget_reads key
    have hquiet := ((Only.steps hc hsteps).1 _ hsent).2
    cases hquiet
  · cases hvalid : validateApp r app with
    | ok _ =>
      rw [hvalid] at hsteps
      exact .inl ⟨rfl, (Only.steps (reconcileValid_sendsAgreeing r app) hsteps).1 _ hsent a rfl⟩
    | error text =>
      rw [hvalid] at hsteps
      exact .inr ⟨text, rfl, (Only.steps (rejectSpec_sends app text) hsteps).1 _ hsent a rfl⟩

/-- **Phase and summary conditions agree** in every status a pass writes, for every spec and
whatever is stored, exactly if the spec is accepted or the stored Degraded and Progressing carry
over. -/
theorem summary_agrees_iff (r : Reconciler) (key : NamespacedName) (app : WorkerApp) (t : Trace)
    (q : P (Except Err Result)) (hsteps : Steps (reconcileApp r key app) t q) (a : WorkerApp)
    (res : Except Err Unit) (hsent : Saw t (.updateStatus a) res) :
    SummaryAgrees app.generation a.status ↔
      ∀ text, validateApp r app = .error text → SummaryCarried app := by
  rcases sent_status hsteps hsent with ⟨hvalid, hagrees⟩ | ⟨text, hvalid, hstatus⟩
  · rw [hvalid]
    exact ⟨fun _ _ h => (by cases h), fun _ => hagrees⟩
  · rw [hvalid, hstatus, summaryAgrees_invalid_iff]
    exact ⟨fun h _ _ => h, fun h => h text rfl⟩

/-! ## §5. A WorkerApp over its passes.

A pass reads the WorkerApp with a status that was stored at some time: the one it began with, or
one that a pass sent (whether or not the answer arrived).  The spec is anyone's in between. -/

/-- A pass over the WorkerApp as it read it, up to wherever it got. -/
structure StatusPass where
  r : Reconciler
  app : WorkerApp
  trace : Trace

/-- The pass sent the status. -/
def StatusPass.Sent (p : StatusPass) (status : WorkerAppStatus) : Prop :=
  ∃ a res, Saw p.trace (.updateStatus a) res ∧ a.status = status

def StatusPass.Refused (p : StatusPass) : Prop :=
  ∃ text, validateApp p.r p.app = .error text

/-- The passes over a WorkerApp that began with the status `first`, the latest in front. -/
inductive StatusRun (key : NamespacedName) (first : WorkerAppStatus) : List StatusPass → Prop where
  | start : StatusRun key first []
  | pass {passes : List StatusPass} {p : StatusPass} {q : P (Except Err Result)}
      (run : StatusRun key first passes) (steps : Steps (reconcileApp p.r key p.app) p.trace q)
      (stored : p.app.status = first ∨ ∃ p' ∈ passes, p'.Sent p.app.status) :
      StatusRun key first (p :: passes)

/-- Every pass of the run is one of the code's. -/
theorem StatusRun.steps_of_mem {key : NamespacedName} {first : WorkerAppStatus}
    {passes : List StatusPass} (run : StatusRun key first passes) :
    ∀ p ∈ passes, ∃ q, Steps (reconcileApp p.r key p.app) p.trace q := by
  induction run with
  | start => exact fun p hp => absurd hp List.not_mem_nil
  | pass run steps _ ih =>
    intro p hp
    rcases List.mem_cons.mp hp with rfl | hp
    · exact ⟨_, steps⟩
    · exact ih p hp

/-- Neither Degraded nor Progressing is stored. -/
structure Unsummarised (status : WorkerAppStatus) : Prop where
  degraded : findStatusCondition status.conditions "Degraded" = none
  progressing : findStatusCondition status.conditions "Progressing" = none

theorem Unsummarised.carried {app : WorkerApp} (h : Unsummarised app.status) :
    SummaryCarried app where
  degraded c hc := by
    rw [h.degraded] at hc
    cases hc
  progressing c hc := by
    rw [h.progressing] at hc
    cases hc

/-- A refused spec adds neither. -/
theorem Unsummarised.invalid {app : WorkerApp} (h : Unsummarised app.status) (text : String) :
    Unsummarised (invalidStatus app text) where
  degraded := (findStatusCondition_invalid app text (by decide) (by decide) (by decide)).trans
    h.degraded
  progressing := (findStatusCondition_invalid app text (by decide) (by decide) (by decide)).trans
    h.progressing

section

variable {key : NamespacedName} {first : WorkerAppStatus} {passes : List StatusPass}

/-- A WorkerApp refused so far. -/
theorem StatusRun.unsummarised (run : StatusRun key first passes) (hfirst : Unsummarised first)
    (hrefused : ∀ p ∈ passes, p.Refused) : ∀ p ∈ passes, Unsummarised p.app.status := by
  induction run with
  | start => exact fun p hp => absurd hp List.not_mem_nil
  | @pass passes p q run steps stored ih =>
    have hearlier := ih fun p' hp' => hrefused p' (.tail _ hp')
    have hsent : ∀ p' ∈ passes, ∀ status, p'.Sent status → Unsummarised status := by
      -- what a refused pass sent is its stored status with the refusal on top
      rintro p' hp' _ ⟨a, res, hsaw, rfl⟩
      obtain ⟨text, htext⟩ := hrefused p' (.tail _ hp')
      obtain ⟨q', hsteps⟩ := run.steps_of_mem p' hp'
      rcases sent_status hsteps hsaw with ⟨hvalid, -⟩ | ⟨text', -, hstatus⟩
      · rw [htext] at hvalid
        cases hvalid
      · rw [hstatus]
        exact (hearlier p' hp').invalid text'
    intro p' hp'
    rcases List.mem_cons.mp hp' with rfl | hp'
    · rcases stored with hstored | ⟨p₀, hp₀, hstored⟩
      · rw [hstored]
        exact hfirst
      · exact hsent p₀ hp₀ _ hstored
    · exact hearlier p' hp'

/-- **Over a whole run**: where no refused spec follows an accepted one, every status any of the
passes sends agrees. -/
theorem StatusRun.agrees (run : StatusRun key first passes) (hfirst : Unsummarised first)
    (horder : passes.Pairwise fun later earlier => later.Refused → earlier.Refused) :
    ∀ p ∈ passes, ∀ status, p.Sent status → SummaryAgrees p.app.generation status := by
  induction run with
  | start => exact fun p hp => absurd hp List.not_mem_nil
  | @pass passes p q run steps stored ih =>
    obtain ⟨hlatest, horder⟩ := List.pairwise_cons.mp horder
    intro p' hp'
    rcases List.mem_cons.mp hp' with rfl | hp'
    · rintro _ ⟨a, res, hsaw, rfl⟩
      rcases sent_status steps hsaw with ⟨-, hagrees⟩ | ⟨text, hvalid, hstatus⟩
      · exact hagrees
      · -- refused now, so refused ever since
        have hrefused : ∀ p₀ ∈ p' :: passes, p₀.Refused := by
          intro p₀ hp₀
          rcases List.mem_cons.mp hp₀ with rfl | hp₀
          · exact ⟨text, hvalid⟩
          · exact hlatest p₀ hp₀ ⟨text, hvalid⟩
        have hstored := (StatusRun.pass run steps stored).unsummarised hfirst hrefused p' (.head _)
        rw [hstatus, summaryAgrees_invalid_iff]
        exact hstored.carried
    · exact ih horder p' hp'

end

/-! ## §6. An accepted spec, then a refused one. -/

/-- A pass in which every call succeeds, on a cluster with nothing in it. -/
def statusPass (app : WorkerApp) : Trace × Cluster × Except Err Result :=
  runWith (answer {}) (reconcileApp sampleReconciler ⟨"prod", "shop"⟩ app) Cluster.empty

/-- The status a pass writes. -/
def writtenStatus (t : Trace) : Option WorkerApp :=
  t.findSome? fun e => match e with
    | ⟨.updateStatus a, .ok ()⟩ => some a
    | _ => none

theorem saw_writtenStatus {t : Trace} {a : WorkerApp} (h : writtenStatus t = some a) :
    Saw t (.updateStatus a) (.ok ()) := by
  obtain ⟨e, hmem, he⟩ := List.exists_of_findSome?_eq_some h
  split at he
  · cases he
    exact hmem
  · cases he

/-- A new WorkerApp. -/
def firstApp : WorkerApp :=
  { sampleApp "ghcr.io/denoland/celld:v0.5.1" .rolling with generation := 1 }

/-- The same, edited to an image that is not allowed, with the status stored by then. -/
def refusedApp (stored : WorkerAppStatus) : WorkerApp :=
  { sampleApp "untrusted:v0.5.1" .rolling with generation := 2, status := stored }

/-- The first pass over a WorkerApp that is refused from the start. -/
theorem summary_agrees_iff_refused :
    ∃ a, Saw (statusPass (refusedApp {})).1 (.updateStatus a) (.ok ()) ∧ a.status.phase = .degraded ∧
      SummaryAgrees 2 a.status := by
  have hwritten : (writtenStatus (statusPass (refusedApp {})).1).any
      (fun a => decide (a.status.phase = .degraded)) = true := by decide +kernel
  obtain ⟨a, ha, hphase⟩ := (Option.any_eq_true _ _).mp hwritten
  have hruns := runs_runWith (statusPass (refusedApp {})) rfl
  refine ⟨a, saw_writtenStatus ha, of_decide_eq_true hphase, ?_⟩
  exact (summary_agrees_iff sampleReconciler ⟨"prod", "shop"⟩ (refusedApp {}) _ _ hruns a (.ok ())
    (saw_writtenStatus ha)).mpr fun _ _ => ⟨nofun, nofun⟩

/-- **Phase and conditions disagree**: a pass over an accepted spec, then one over a refused spec,
which says Degraded in the phase and leaves the condition False, as of the old generation. -/
theorem summary_disagrees :
    ∃ first second,
      Saw (statusPass firstApp).1 (.updateStatus first) (.ok ()) ∧
      Saw (statusPass (refusedApp first.status)).1 (.updateStatus second) (.ok ()) ∧
      SummaryAgrees 1 first.status ∧ second.status.phase = .degraded ∧
      (∃ c, findStatusCondition second.status.conditions "Degraded" = some c ∧
        c.status = .false_ ∧ c.observedGeneration = 1) ∧
      ¬ SummaryAgrees 2 second.status := by
  have hwritten : (writtenStatus (statusPass firstApp).1).any (fun first =>
      decide (SummaryAgrees 1 first.status) &&
        (writtenStatus (statusPass (refusedApp first.status)).1).any (fun second =>
          decide (second.status.phase = .degraded) &&
          (findStatusCondition second.status.conditions "Degraded").any (fun c =>
            decide (c.status = .false_ ∧ c.observedGeneration = 1)) &&
          decide (¬ SummaryAgrees 2 second.status))) = true := by decide +kernel
  obtain ⟨first, hfirst, htest⟩ := (Option.any_eq_true _ _).mp hwritten
  obtain ⟨hagrees, hsecond⟩ := Bool.and_eq_true_iff.mp htest
  obtain ⟨second, hwrites, htest⟩ := (Option.any_eq_true _ _).mp hsecond
  simp only [Bool.and_eq_true, decide_eq_true_eq] at hagrees htest
  obtain ⟨⟨hphase, hstale⟩, hdisagrees⟩ := htest
  obtain ⟨c, hc, hvalues⟩ := (Option.any_eq_true _ _).mp hstale
  exact ⟨first, second, saw_writtenStatus hfirst, saw_writtenStatus hwrites, hagrees, hphase,
    ⟨c, hc, of_decide_eq_true hvalues⟩, hdisagrees⟩

end CelldOperator
