/-
  CelldOperator.Status.WakeUp

  **THE NEXT PASS.**

  The operator does not watch pods: a rollout goes on because every pass asks for
  the next one.  controller-runtime takes `RequeueAfter` for a request only when it
  is positive.  Each exit of the fleet step brings a positive constant, save two:
  a refused template, which is Degraded, and the settle gate, which reads the clock
  a second time and reports what is left of the interval, if anything.

    • `passRequeue_wakes`, `wakes_of_passRequeue` — what the two caps of
      `Reconcile` make of a delay,
    • `driveFleet_timed`   — every exit of the fleet step, by its delay,
    • `finishPass_quiet`   — a pass can always end without a transient error,
    • `wakes_up_iff`       — a pass that is not Degraded surely asks for the next
      one exactly if the settle gate was not overtaken by its deadline between
      its two readings of the clock.
-/
import CelldOperator.Effect.Relational
import CelldOperator.Status.Partition

namespace CelldOperator

open Effect Prog

/-! ## §1. The two caps. -/

section

variable {r : Reconciler} {resolved : ResolvedVersion} {out : FleetOutcome}

/-- The outcome's delay, or the poll interval instead of none. -/
def OutcomeWakes (resolved : ResolvedVersion) (out : FleetOutcome) : Prop :=
  0 < out.requeue ∨ (out.requeue = 0 ∧ resolved.tracking = true)

theorem capRequeue_pos {requeue bound : Time} (hbound : 0 < bound) (h : 0 ≤ requeue) :
    0 < capRequeue requeue bound ∧ capRequeue requeue bound ≤ bound := by
  unfold capRequeue
  dsimp only [Time] at *
  split <;> omega

theorem capRequeue_le {requeue bound : Time} (h : 0 < requeue) :
    capRequeue requeue bound ≤ requeue := by
  unfold capRequeue
  dsimp only [Time] at *
  split <;> omega

/-- Neither cap turns a lost delay into a positive one. -/
theorem passRequeue_wakes (h : OutcomeWakes resolved out) (transient : Bool) :
    0 < passRequeue r resolved out transient ∧
      (resolved.tracking = true → passRequeue r resolved out transient ≤ r.interval) := by
  -- the delay after the first cap
  obtain ⟨requeue, hrequeue, hpos, hle⟩ : ∃ requeue, requeue =
      (if resolved.tracking then capRequeue out.requeue r.interval else out.requeue) ∧
      0 < requeue ∧ (resolved.tracking = true → requeue ≤ r.interval) := by
    refine ⟨_, rfl, ?_⟩
    by_cases htracking : resolved.tracking = true
    · rw [if_pos htracking]
      have hcap := capRequeue_pos r.interval_pos (h.elim le_of_lt (fun h => h.1.ge))
      exact ⟨hcap.1, fun _ => hcap.2⟩
    · rw [if_neg htracking]
      exact ⟨h.elim id (fun h => absurd h.2 htracking), fun ht => absurd ht htracking⟩
  unfold passRequeue
  dsimp only
  rw [← hrequeue]
  cases transient with
  | false => exact ⟨hpos, hle⟩
  | true =>
    -- the second cap only shortens a positive delay
    have hsecond : (0 : Time) < 15 * second := by decide
    exact ⟨(capRequeue_pos hsecond hpos.le).1,
      fun ht => (capRequeue_le hpos).trans (hle ht)⟩

theorem wakes_of_passRequeue (h : 0 < passRequeue r resolved out false) :
    OutcomeWakes resolved out := by
  unfold passRequeue at h
  dsimp only at h
  rw [if_neg (by decide)] at h
  by_cases htracking : resolved.tracking = true
  · rw [if_pos htracking] at h
    unfold capRequeue at h
    split at h
    · next hcap =>
      rcases hcap with hzero | hlong
      · exact .inr ⟨hzero, htracking⟩
      · exact .inl (r.interval_pos.trans hlong)
    · exact .inl h
  · rw [if_neg htracking] at h
    exact .inl h

end

/-! ## §2. Readings of the clock. -/

/-- The operation does not read the clock. -/
def Op.clockless : Op → Prop
  | .now => False
  | _ => True

/-- The clock was read at the last two exchanges. -/
def EndsTwice (t : Trace) : Prop :=
  ∃ pre now later, t = pre ++ [⟨.now, now⟩, ⟨.now, later⟩]

theorem not_endsTwice_short {t : Trace} (h : t.length < 2) : ¬ EndsTwice t := by
  rintro ⟨pre, now, later, rfl⟩
  simp only [List.length_append, List.length_cons, List.length_nil] at h
  omega

theorem not_endsTwice_snoc (t : Trace) {e : Event Api} (he : e.op.clockless) :
    ¬ EndsTwice (t ++ [e]) := by
  rintro ⟨pre, now, later, heq⟩
  -- compare the last events of the two sides
  have hsplit : pre ++ [⟨.now, now⟩, ⟨.now, later⟩] =
      (pre ++ [⟨.now, now⟩]) ++ [(⟨.now, later⟩ : Event Api)] := by simp
  rw [hsplit] at heq
  have hlast := (List.append_inj' heq rfl).2
  cases hlast
  exact he

theorem not_endsTwice_append {t v : Trace} (ht : ¬ EndsTwice t) (hv : ∀ e ∈ v, e.op.clockless) :
    ¬ EndsTwice (t ++ v) := by
  rcases List.eq_nil_or_concat v with rfl | ⟨v', e, rfl⟩
  · rwa [List.append_nil]
  · rw [List.concat_eq_append] at hv ⊢
    rw [← List.append_assoc]
    exact not_endsTwice_snoc _ (hv e (by simp))

/-- The object whose deadline the settle gate reads: the one the step was given, or the server's
copy after the clamp. -/
def GateBase (existing : StatefulSet) (h : Trace) (base : StatefulSet) : Prop :=
  (h = [] ∧ base = existing) ∨ ∃ o, h = [⟨.update .statefulSet o, .ok base⟩]

/-- **The settle gate held this step**: it read the clock before the deadline, and once more at
`later`. -/
def SettleGate (lib : Lib) (existing : StatefulSet) (t : Trace) (deadline later : Time) : Prop :=
  ∃ h base now, GateBase existing h base ∧ t = h ++ [⟨.now, now⟩, ⟨.now, later⟩] ∧
    lib.parseTime (annotationOf base settleAnnotation) = some deadline

theorem GateBase.short {existing base : StatefulSet} {h : Trace} (hb : GateBase existing h base) :
    h.length < 2 := by
  rcases hb with ⟨rfl, -⟩ | ⟨o, rfl⟩
  · decide
  · simp

theorem GateBase.snoc {existing base : StatefulSet} {h : Trace} (hb : GateBase existing h base)
    (now : Time) : ¬ EndsTwice (h ++ [⟨.now, now⟩]) := by
  rcases hb with ⟨rfl, -⟩ | ⟨o, rfl⟩
  · exact not_endsTwice_short (by simp)
  · rintro ⟨pre, now', later, heq⟩
    have hpre : pre = [] := List.eq_nil_of_length_eq_zero (by
      have hlen := congrArg List.length heq
      simp only [List.length_append, List.length_cons, List.length_nil] at hlen
      omega)
    rw [hpre] at heq
    cases heq

theorem SettleGate.endsTwice {lib : Lib} {existing : StatefulSet} {t : Trace}
    {deadline later : Time} (hg : SettleGate lib existing t deadline later) : EndsTwice t := by
  obtain ⟨h, base, now, -, rfl, -⟩ := hg
  exact ⟨h, now, later, rfl⟩

/-- One trace, one deadline and one reading. -/
theorem SettleGate.unique {lib : Lib} {existing : StatefulSet} {t : Trace}
    {deadline later deadline' later' : Time} (hg : SettleGate lib existing t deadline later)
    (hg' : SettleGate lib existing t deadline' later') : deadline = deadline' ∧ later = later' := by
  obtain ⟨h, base, now, hb, rfl, hd⟩ := hg
  obtain ⟨h', base', now', hb', heq, hd'⟩ := hg'
  obtain ⟨rfl, htail⟩ := List.append_inj' heq rfl
  cases htail
  -- what stands before the readings tells whose deadline was read
  have hbase : base = base' := by
    rcases hb with ⟨rfl, rfl⟩ | ⟨o, rfl⟩
    · rcases hb' with ⟨-, rfl⟩ | ⟨o', hne⟩
      · rfl
      · cases hne
    · rcases hb' with ⟨hne, -⟩ | ⟨o', hsame⟩
      · cases hne
      · cases hsame
        rfl
  rw [hbase, hd'] at hd
  cases hd
  exact ⟨rfl, rfl⟩

/-! ## §3. The exits of the fleet step, by their delay. -/

/-- **The delay an exit brings**: what the settle gate has left, or a positive constant, unless
the template is refused. -/
inductive Timed (lib : Lib) (existing : StatefulSet) (t : Trace) (out : FleetOutcome) : Prop where
  | settling (deadline later : Time) (gate : SettleGate lib existing t deadline later)
      (left : out.requeue = deadline - later)
  | constant (delay : out.phase ≠ .degraded → 0 < out.requeue) (last : ¬ EndsTwice t)

/-- The exits of a step, the failed ones apart. -/
def TimedExit (lib : Lib) (existing : StatefulSet) (t : Trace) (res : Except Err FleetOutcome) :
    Prop :=
  ∀ out, res = .ok out → Timed lib existing t out

section

variable {r : Reconciler} {app : WorkerApp} {existing desired : StatefulSet} {h : Trace}

theorem timed_error (e : Err) : TimedExit r.lib existing h (.error e) := fun out heq => by cases heq

theorem timed_ok {out : FleetOutcome} (hdelay : 0 < out.requeue) (hlast : ¬ EndsTwice h) :
    TimedExit r.lib existing h (.ok out) := by
  intro out' heq
  cases heq
  exact .constant (fun _ => hdelay) hlast

theorem seconds_pos {n : Time} (hn : 0 < n) : 0 < n * second :=
  Int.mul_pos hn (by decide)

/-- Every write site: the pass retries a conflict in three seconds. -/
theorem writeFleet_timed {o : StatefulSet} {next : StatefulSet → P (Except Err FleetOutcome)}
    (hnext : ∀ stored, Valid (fun _ _ => True) (h ++ [⟨.update .statefulSet o, .ok stored⟩])
      (next stored) (TimedExit r.lib existing)) :
    Valid (fun _ _ => True) h (writeFleet app o next) (TimedExit r.lib existing) := by
  exact writeFleet_valid (fun _ => trivial) (fun e _ => timed_error e)
    (fun e _ => timed_ok (seconds_pos (by decide)) (not_endsTwice_snoc h trivial)) hnext

/-- Step over a function that does not read the clock. -/
theorem stepClockless {α : Type} {p : P α} {Q : Trace → α → Prop} (hp : Only Op.clockless p)
    (hh : ¬ EndsTwice h) (hQ : ∀ h' a, ¬ EndsTwice h' → Q h' a) :
    Valid (fun _ _ => True) h p Q := by
  refine (Only.valid hp fun _ _ _ => trivial).post ?_
  rintro h' a ⟨t, rfl, -, hclockless⟩
  exact hQ _ a (not_endsTwice_append hh hclockless)

theorem Asks.clockless {α : Type} {T : List Topic} {p : P α} (h : Asks T p)
    (hT : Topic.clock ∉ T) : Only Op.clockless p := by
  refine h.only fun o ho => ?_
  cases o <;> trivial

theorem checkReleased_clockless (revision : String) (ords : List Nat) :
    Only Op.clockless (checkReleased app revision ords) :=
  (checkReleased_topics app revision ords).clockless (by decide)

theorem observeFleet_clockless (sts : StatefulSet) : Only Op.clockless (observeFleet app sts) :=
  (observeFleet_topics app sts).clockless (by decide)

/-- The settle gate passes with at most one reading, or holds with two. -/
theorem settleWait_timed {base : StatefulSet} (hb : GateBase existing h base) :
    Valid (fun _ _ => True) h (settleWait r.lib base) fun h' left =>
      (left = none ∧ ¬ EndsTwice h') ∨ ∃ deadline later, left = some (deadline - later) ∧
        SettleGate r.lib existing h' deadline later := by
  unfold settleWait
  split
  · exact valid_exit (.inl ⟨rfl, not_endsTwice_short hb.short⟩)
  · next deadline hdeadline =>
    rw [valid_bind]
    refine valid_ask fun now => ⟨trivial, ?_⟩
    split
    · rw [valid_bind]
      refine valid_ask fun later => ⟨trivial, valid_exit (.inr ⟨deadline, later, rfl, ?_⟩)⟩
      exact ⟨h, base, now, hb, by simp, hdeadline⟩
    · exact valid_exit (.inl ⟨rfl, hb.snoc now⟩)

theorem releaseNext_timed {base : StatefulSet} {partition live : Nat}
    (hb : GateBase existing h base) :
    Valid (fun _ _ => True) h (releaseNext r app base partition live)
      (TimedExit r.lib existing) := by
  unfold releaseNext
  dsimp only
  split
  · exact valid_exit (timed_ok (seconds_pos (by decide)) (not_endsTwice_short hb.short))
  · rw [valid_bind]
    refine (settleWait_timed hb).post ?_
    rintro h₁ left (⟨rfl, hlast₁⟩ | ⟨deadline, later, rfl, hgate⟩)
    · dsimp only
      split
      · exact valid_exit (timed_ok (seconds_pos (by decide)) hlast₁)
      · rw [valid_bind]
        refine stepClockless (checkReleased_clockless _ _) hlast₁ fun h₂ waits hlast₂ => ?_
        rcases waits with _ | ⟨waitingOn, _ | e⟩
        · dsimp only
          rw [valid_bind]
          refine stepClockless (observeFleet_clockless _) hlast₂ fun h₃ sweep hlast₃ => ?_
          split
          · exact valid_exit (timed_ok (seconds_pos (by decide)) hlast₃)
          · -- the release reads the clock for the new deadline, and writes
            rw [valid_bind]
            refine valid_ask fun now => ⟨trivial, writeFleet_timed fun stored => ?_⟩
            exact valid_exit (timed_ok (seconds_pos (by decide)) (not_endsTwice_snoc _ trivial))
        · exact valid_exit (timed_ok (seconds_pos (by decide)) hlast₂)
        · exact valid_exit (timed_error e)
    · -- the one exit whose delay is computed
      refine valid_exit ?_
      intro out heq
      cases heq
      exact .settling deadline later hgate rfl

theorem rolloutStep_timed :
    Valid (fun _ _ => True) [] (rolloutStep r app existing) (TimedExit r.lib existing) := by
  unfold rolloutStep
  split
  · exact writeFleet_timed fun stored => releaseNext_timed (.inr ⟨_, rfl⟩)
  · exact releaseNext_timed (.inl ⟨rfl, rfl⟩)

theorem recreateStep_timed (hazard : String) :
    Valid (fun _ _ => True) h (recreateStep app existing desired hazard)
      (TimedExit r.lib existing) := by
  unfold recreateStep
  dsimp only
  split
  · exact writeFleet_timed fun stored =>
      valid_exit (timed_ok (seconds_pos (by decide)) (not_endsTwice_snoc _ trivial))
  · refine valid_check (valid_ask fun pods => ⟨trivial, ?_⟩)
    cases pods with
    | error e => exact timed_error e
    | ok pods =>
      dsimp only
      split
      · exact valid_exit (timed_ok (seconds_pos (by decide)) (not_endsTwice_snoc _ trivial))
      · exact writeFleet_timed fun stored =>
          valid_exit (timed_ok (seconds_pos (by decide)) (not_endsTwice_snoc _ trivial))

theorem changeTemplate_timed :
    Valid (fun _ _ => True) [] (changeTemplate r app existing desired)
      (TimedExit r.lib existing) := by
  have hclockless : Only Op.clockless (liveFleetBreakingReason app existing desired) := by
    unfold liveFleetBreakingReason
    dsimp only
    split
    · exact only_pure _ _
    · exact only_check (only_ask trivial) fun _ => only_pure _ _
  unfold changeTemplate
  refine valid_check (stepClockless hclockless (not_endsTwice_short (by decide)) ?_)
  intro h₁ breaking hlast₁
  cases breaking with
  | error e => exact timed_error e
  | ok breaking =>
    dsimp only
    split
    · -- a change that is not rolling-safe asks for no pass
      refine valid_exit ?_
      intro out heq
      cases heq
      exact .constant (fun hphase => absurd rfl hphase) hlast₁
    · split
      · exact recreateStep_timed _
      · rw [valid_bind]
        refine valid_ask fun now => ⟨trivial, writeFleet_timed fun stored => ?_⟩
        exact valid_exit (timed_ok (seconds_pos (by decide)) (not_endsTwice_snoc _ trivial))

theorem steadyFleet_timed (version : String) :
    Valid (fun _ _ => True) [] (steadyFleet app existing version) (TimedExit r.lib existing) := by
  have hnil : ¬ EndsTwice [] := not_endsTwice_short (by decide)
  unfold steadyFleet
  split
  · exact writeFleet_timed fun stored =>
      valid_exit (timed_ok (seconds_pos (by decide)) (not_endsTwice_snoc _ trivial))
  · split
    · exact valid_exit (timed_ok (seconds_pos (by decide)) hnil)
    · rw [valid_bind]
      refine stepClockless (observeFleet_clockless _) hnil fun h₁ sweep hlast₁ => ?_
      split
      · exact valid_exit (timed_ok (seconds_pos (by decide)) hlast₁)
      · rw [valid_bind]
        refine stepClockless (only_ask trivial) hlast₁ fun h₂ states hlast₂ => ?_
        split
        · exact valid_exit (timed_ok (seconds_pos (by decide)) hlast₂)
        · exact valid_exit (timed_ok (by decide) hlast₂)

/-- **Every exit of the fleet step brings a positive delay, save for a refused template and the
settle gate.** -/
theorem driveFleet_timed {version : String} {t : Trace} {out : FleetOutcome}
    (ht : Runs (driveFleet r app existing desired version) t (.ok out)) :
    Timed r.lib existing t out := by
  have hnil : ¬ EndsTwice [] := not_endsTwice_short (by decide)
  have hvalid : Valid (fun _ _ => True) [] (driveFleet r app existing desired version)
      (TimedExit r.lib existing) := by
    unfold driveFleet
    dsimp only
    split
    · have hminute : (0 : Time) < minute := by decide
      exact valid_exit (timed_ok hminute hnil)
    · split
      · exact recreateStep_timed _
      · split
        · exact changeTemplate_timed
        · split
          · exact rolloutStep_timed
          · exact steadyFleet_timed version
  exact valid_runs hvalid ht out rfl

end

/-- **The condition**, of the answers to the fleet step: if the settle gate held it, the second
reading of the clock was still before the deadline.  In auto mode a reading at the deadline does
no harm, because the poll interval takes the place of a delay of zero. -/
def SettlesInTime (r : Reconciler) (app : WorkerApp) (version : String) (t : Trace) : Prop :=
  ∀ hash existing t₁ t₂ t₃ deadline later,
    t = t₁ ++ ⟨.getLive .statefulSet (fleetName app), .ok existing⟩ :: (t₂ ++ t₃) →
    Runs (configHash r app) t₁ (.ok hash) →
    Runs (awaitPause r app existing (desiredFleet r app hash version)) t₂ (.ok true) →
    SettleGate r.lib existing t₃ deadline later →
    later < deadline ∨ (later = deadline ∧ app.spec.appVersion = appVersionAuto)

section

variable {r : Reconciler} {app : WorkerApp} {version : String} {t : Trace} {out : FleetOutcome}

/-- **The delay of the fleet step.** -/
theorem reconcileFleet_timed (ht : Runs (reconcileFleet r app version) t (.ok out))
    (hphase : out.phase ≠ .degraded) :
    (0 < out.requeue ∨ (out.requeue = 0 ∧ app.spec.appVersion = appVersionAuto)) ↔
      SettlesInTime r app version t := by
  unfold reconcileFleet at ht
  rcases runs_check ht with ⟨_, hne, -⟩ | ⟨hash, t₁, u, rfl, hhash, hu⟩
  · cases hne
  obtain ⟨read, u₁, v, rfl, hread, hv⟩ := runs_bind.mp hu
  rw [runs_req.mp hread]
  cases read with
  | error e =>
    have hnever : SettlesInTime r app version
        (t₁ ++ ([⟨.getLive .statefulSet (fleetName app), .error e⟩] ++ v)) := by
      intro hash' existing t₁' t₂ t₃ deadline later heq hhash' _ _
      obtain ⟨-, hne, -⟩ := read_unique hhash hhash' heq
      cases hne
    -- there was no StatefulSet to wait on; it is created
    refine iff_of_true (.inl ?_) hnever
    dsimp only at hv
    split at hv
    · rcases runs_check hv with ⟨_, hne, -⟩ | ⟨stored, w₁, w₂, rfl, -, hw₂⟩
      · cases hne
      · cases (runs_ret.mp hw₂).2
        exact seconds_pos (by decide)
    · cases (runs_ret.mp hv).2
  | ok existing =>
    dsimp only at hv
    cases howned : requireOwnership app existing with
    | error e =>
      unfold reconcileExisting at hv
      rw [howned] at hv
      cases (runs_ret.mp hv).2
    | ok _ =>
      rw [reconcileExisting_eq howned] at hv
      rcases runs_check hv with ⟨_, hne, -⟩ | ⟨paused, t₂, t₃, rfl, hpause, ht₃⟩
      · cases hne
      cases paused with
      | false =>
        rw [if_neg (by decide)] at ht₃
        cases (runs_ret.mp ht₃).2
        have hfive : (0 : Time) < 5 * second := by decide
        refine iff_of_true (.inl hfive) ?_
        intro hash' existing' t₁' t₂' t₃' deadline later heq hhash' hpause' _
        cases (parts_unique hhash hpause hhash' hpause' heq).2.2.1
      | true =>
        rw [if_pos rfl] at ht₃
        cases driveFleet_timed ht₃ with
        | constant hdelay hlast =>
          refine iff_of_true (.inl (hdelay hphase)) ?_
          intro hash' existing' t₁' t₂' t₃' deadline later heq hhash' hpause' hgate
          obtain ⟨-, -, -, rfl⟩ := parts_unique hhash hpause hhash' hpause' heq
          exact absurd hgate.endsTwice hlast
        | settling deadline later hgate hleft =>
          have harith : (0 < out.requeue ∨
                (out.requeue = 0 ∧ app.spec.appVersion = appVersionAuto)) ↔
              (later < deadline ∨
                (later = deadline ∧ app.spec.appVersion = appVersionAuto)) := by
            rw [hleft, Int.sub_pos, Int.sub_eq_zero]
            exact or_congr_right (and_congr_left fun _ => eq_comm)
          rw [harith]
          constructor
          · intro htime hash' existing' t₁' t₂' t₃' deadline' later' heq hhash' hpause'
              hgate'
            obtain ⟨-, rfl, -, rfl⟩ := parts_unique hhash hpause hhash' hpause' heq
            obtain ⟨rfl, rfl⟩ := hgate.unique hgate'
            exact htime
          · intro htime
            exact htime hash existing t₁ t₂ t₃ deadline later rfl hhash hpause hgate

/-- On a valid WorkerApp the operator tracks the bucket exactly in auto mode. -/
theorem tracking_iff {resolved : ResolvedVersion} (hvalid : validateApp r app = .ok ())
    (ht : Runs (resolveAppVersion r app) t resolved) :
    resolved.tracking = true ↔ app.spec.appVersion = appVersionAuto := by
  have htrackable := (passedChecks_of_valid hvalid).tracked
  by_cases hauto : app.spec.appVersion = appVersionAuto
  · -- the validator admits auto mode only with a bucket the operator can read
    have hresolve : Valid (fun _ _ => True) [] (resolveAppVersion r app)
        fun _ resolved => resolved.tracking = true := by
      unfold resolveAppVersion resolveTracked
      rw [htrackable hauto, if_neg (by decide), if_neg (not_not.mpr hauto), valid_bind]
      refine (valid_trivial _ _).post fun h read _ => ?_
      split
      · exact valid_exit rfl
      · split
        · exact valid_exit rfl
        · rw [valid_bind]
          exact (valid_trivial _ _).post fun _ _ _ => valid_exit rfl
    exact iff_of_true (valid_runs hresolve ht) hauto
  · have hresolve : Valid (fun _ _ => True) [] (resolveAppVersion r app)
        fun _ resolved => resolved.tracking = false := by
      unfold resolveAppVersion resolvePinned
      rw [if_pos hauto, if_pos hauto]
      split
      · exact valid_exit rfl
      · dsimp only
        split
        · exact valid_exit rfl
        · rw [valid_bind]
          refine (valid_trivial _ _).post fun h read _ => ?_
          split <;> exact valid_exit rfl
    have hpinned : resolved.tracking = false := valid_runs hresolve ht
    rw [hpinned]
    exact iff_of_false (by decide) hauto

end

/-! ## §4. A pass can always end quietly. -/

/-- The program returns `a` in some run that does not read the clock. -/
abbrev Quietly {α : Type} (p : P α) (a : α) : Prop :=
  Allowed (fun e : Event Api => e.op.clockless) p a

section

variable {r : Reconciler} {app : WorkerApp}

theorem quietly_ask {o : Op} (ho : o.clockless) (res : Resp o) : Quietly (ask o) res :=
  allowed_req.mpr ho

theorem quietly_read {α : Type} {o : Op} {f : Resp o → P α} {a : α} (res : Resp o)
    (ho : o.clockless) (hf : Quietly (f res) a) : Quietly (ask o >>= f) a :=
  allowed_bind.mpr ⟨res, quietly_ask ho res, hf⟩

theorem quietly_check {α β : Type} {p : P (Except Err α)} {f : α → P (Except Err β)} {a : α}
    {res : Except Err β} (hp : Quietly p (.ok a)) (hf : Quietly (f a) res) :
    Quietly (check p f) res :=
  allowed_bind.mpr ⟨.ok a, hp, hf⟩

/-- No route is there. -/
theorem removeRoutes_quiet (mode : Option Kind) (kinds : List Kind) :
    Quietly (removeRoutes app mode kinds) (.ok ()) := by
  induction kinds with
  | nil => exact allowed_pure.mpr rfl
  | cons kind kinds ih =>
    unfold removeRoutes
    split
    · exact ih
    · exact quietly_read (.error (.notFound "")) (by trivial) ih

/-- The object is missing, and created. -/
theorem ensureObject_quiet {k : Kind} (desired : Obj k) (mutate : Obj k → Obj k → Obj k) :
    Quietly (ensureObject r app desired mutate)
      (.ok (receive (prepare r app desired) (prepare r app desired))) := by
  unfold ensureObject
  have hcreate : Quietly (ask (.create k (prepare r app desired))) (.ok (prepare r app desired)) :=
    quietly_ask (by trivial) _
  exact quietly_read (.error (.notFound "")) (by trivial)
    (quietly_check hcreate (allowed_pure.mpr rfl))

theorem ensureUnstructured_quiet {k : Kind} (desired : Obj k) :
    Quietly (ensureUnstructured app desired) (.ok ()) := by
  unfold ensureUnstructured
  have hcreate : Quietly (ask (.create k (setControllerReference app desired))) (.ok desired) :=
    quietly_ask (by trivial) _
  exact quietly_read (.error (.notFound "")) (by trivial)
    (quietly_check hcreate (allowed_pure.mpr rfl))

theorem ensureHTTPRoute_quiet : Quietly (ensureHTTPRoute r app)
    (false, [{ type := "IngressReady", status := .unknown, reason := "RouteObserved" }]) := by
  have hretries : ∀ route, ∃ route', Quietly (configureHTTPRouteRetries r route) (route', false) := by
    intro route
    unfold configureHTTPRouteRetries
    split
    · exact ⟨_, allowed_pure.mpr rfl⟩
    · exact ⟨_, quietly_read (.error (.notFound "")) (by trivial) (allowed_pure.mpr rfl)⟩
  have hdropped : ∀ route, Quietly (httpRouteRetryDropped route) false := by
    intro route
    unfold httpRouteRetryDropped
    split
    · exact allowed_pure.mpr rfl
    · split
      · exact allowed_pure.mpr rfl
      · exact quietly_read (.error (.notFound "")) (by trivial) (allowed_pure.mpr rfl)
  obtain ⟨route, hroute⟩ := hretries (buildHTTPRoute app r.gatewayName r.gatewayNamespace)
  unfold ensureHTTPRoute
  refine allowed_bind.mpr ⟨(route, false), hroute, ?_⟩
  refine allowed_bind.mpr ⟨_, ensureObject_quiet route replaceSpec, ?_⟩
  refine allowed_bind.mpr ⟨false, hdropped _, ?_⟩
  refine allowed_bind.mpr ⟨.unknown, ?_, allowed_pure.mpr rfl⟩
  unfold httpRouteReady
  exact quietly_read (.error (.notFound "")) (by trivial) (allowed_pure.mpr rfl)

theorem ensureIngress_quiet (r : Reconciler) (app : WorkerApp) :
    ∃ conditions, Quietly (ensureIngress r app) (false, conditions) := by
  have hroutes : Quietly (removeObsoleteRoutes r app) (.ok ()) := by
    unfold removeObsoleteRoutes
    exact allowed_bind.mpr ⟨⟨_, .refl _⟩, quietly_ask (by trivial) _, removeRoutes_quiet _ _⟩
  unfold ensureIngress
  refine Exists.imp (fun conditions h => allowed_bind.mpr ⟨.ok (), hroutes, h⟩) ?_
  dsimp only
  split
  · exact ⟨[], allowed_pure.mpr rfl⟩
  · split
    · exact ⟨[], allowed_pure.mpr rfl⟩
    · exact ⟨_, allowed_bind.mpr ⟨_, ensureUnstructured_quiet _, allowed_pure.mpr rfl⟩⟩
    · exact ⟨_, allowed_bind.mpr ⟨_, ensureObject_quiet _ _, allowed_pure.mpr rfl⟩⟩
    · exact ⟨_, ensureHTTPRoute_quiet⟩
    · exact ⟨_, ensureHTTPRoute_quiet⟩

theorem ensureScaledObject_quiet (r : Reconciler) (app : WorkerApp) (phase : Phase) :
    ∃ conditions, Quietly (ensureScaledObject r app phase) (false, conditions) := by
  unfold ensureScaledObject
  split
  · unfold removeScaledObject
    exact ⟨[], quietly_read (.error (.notFound "")) (by trivial) (allowed_pure.mpr rfl)⟩
  · exact ⟨_, allowed_bind.mpr ⟨_, ensureUnstructured_quiet _, allowed_pure.mpr rfl⟩⟩

theorem updateStatus_quiet (out : FleetOutcome) (version : String) (conditions : List Condition) :
    Quietly (updateStatus app out version conditions) (.ok ()) := by
  have hseen : ∃ seen, Quietly (observedStatus app (outcomeStatus app.status out version)) seen := by
    have hsweep : ∀ sts, Quietly (observeFleet app sts) { err := some (.other "") } := by
      intro sts
      unfold observeFleet
      exact quietly_read (.error (.other "")) (by trivial) (allowed_pure.mpr rfl)
    unfold observedStatus
    exact ⟨_, quietly_read (.error (.notFound "")) (by trivial)
      (allowed_bind.mpr ⟨_, hsweep _, allowed_pure.mpr rfl⟩)⟩
  obtain ⟨seen, hseen⟩ := hseen
  unfold updateStatus
  refine allowed_bind.mpr ⟨seen, hseen, ?_⟩
  dsimp only
  split
  · exact allowed_pure.mpr rfl
  · exact quietly_ask (by trivial) _

/-- **Whatever the fleet step came to, the rest of the pass may succeed at once.** -/
theorem finishPass_quiet (resolved : ResolvedVersion) (conditions : List Condition)
    (out : FleetOutcome) : Quietly (finishPass r app resolved conditions out)
      (.ok { requeueAfter := passRequeue r resolved out false }) := by
  obtain ⟨ingress, hingress⟩ := ensureIngress_quiet r app
  obtain ⟨scaler, hscaler⟩ := ensureScaledObject_quiet r app out.phase
  unfold finishPass
  refine allowed_bind.mpr ⟨(false, ingress), hingress, ?_⟩
  refine allowed_bind.mpr ⟨_, allowed_bind.mpr
    ⟨_, ensureUnstructured_quiet _, allowed_pure.mpr rfl⟩, ?_⟩
  refine allowed_bind.mpr ⟨(false, scaler), hscaler, ?_⟩
  exact allowed_bind.mpr ⟨.ok (), updateStatus_quiet _ _ _, allowed_pure.mpr rfl⟩

end

/-! ## §5. The pass. -/

/-- The readings of the clock, in the order they were taken. -/
def clockReadings (t : Trace) : List Time :=
  t.filterMap fun
    | ⟨.now, now⟩ => some now
    | _ => none

/-- The clock does not go backwards along these events. -/
def ClockForward (t : Trace) : Prop := (clockReadings t).Pairwise (· ≤ ·)

instance (t : Trace) : Decidable (ClockForward t) :=
  inferInstanceAs (Decidable ((clockReadings t).Pairwise (· ≤ ·)))

theorem ClockForward.append_clockless {t u : Trace} (ht : ClockForward t)
    (hu : ∀ e ∈ u, e.op.clockless) : ClockForward (t ++ u) := by
  have hnone : clockReadings u = [] := by
    refine List.filterMap_eq_nil_iff.mpr fun e he => ?_
    obtain ⟨op, resp⟩ := e
    have hop := hu _ he
    cases op <;> first | rfl | exact hop.elim
  unfold ClockForward clockReadings at ht ⊢
  rw [List.filterMap_append]
  unfold clockReadings at hnone
  rw [hnone, List.append_nil]
  exact ht

/-- **The next pass will come**: at once or after a positive delay, and in auto mode within the
poll interval. -/
def WakesUp (r : Reconciler) (app : WorkerApp) (result : Result) : Prop :=
  (result.requeue = true ∨ 0 < result.requeueAfter) ∧
    (app.spec.appVersion = appVersionAuto → result.requeueAfter ≤ r.interval)

instance (r : Reconciler) (app : WorkerApp) (result : Result) : Decidable (WakesUp r app result) :=
  inferInstanceAs (Decidable (_ ∧ _))

/-- A pass has exchanged `t` and is through its fleet step, which exchanged `t₂` and returned
`out`. -/
def FleetStepped (r : Reconciler) (app : WorkerApp) (t : Trace) (resolved : ResolvedVersion)
    (t₂ : Trace) (out : FleetOutcome) : Prop :=
  ∃ t₀ t₁ foundation, t = t₀ ++ t₁ ++ t₂ ∧ Runs (ensureFoundation r app) t₀ (.ok foundation) ∧
    Runs (resolveAppVersion r app) t₁ resolved ∧
    Runs (reconcileFleet r app resolved.version) t₂ (.ok out)

section

variable {r : Reconciler} {key : NamespacedName} {app : WorkerApp}

/-- A pass that returns without error has come through its fleet step. -/
theorem reconcileValid_stepped {t : Trace} {result : Result}
    (ht : Runs (reconcileValid r app) t (.ok result)) :
    ∃ h u resolved t₂ out, t = h ++ u ∧ FleetStepped r app h resolved t₂ out := by
  rcases reconcileValid_parts ht with ⟨_, hne, -⟩ | ⟨t₀, t₁, u, foundation, resolved, rfl, ht₀, ht₁,
    ⟨_, hne, -⟩ | ⟨t₂, t₃, out, rfl, ht₂, -⟩⟩
  · cases hne
  · cases hne
  · exact ⟨t₀ ++ t₁ ++ t₂, t₃, resolved, t₂, out, by simp only [List.append_assoc],
      t₀, t₁, foundation, rfl, ht₀, ht₁, ht₂⟩

/-- What is left of a pass behind its fleet step. -/
theorem FleetStepped.rest {t t₂ : Trace} {resolved : ResolvedVersion} {out : FleetOutcome}
    (hf : FleetStepped r app t resolved t₂ out) : ∃ conditions, ∀ u res,
      Runs (reconcileValid r app) (t ++ u) res ↔
        Runs (finishPass r app resolved conditions out) u res := by
  obtain ⟨t₀, t₁, foundation, rfl, ht₀, ht₁, ht₂⟩ := hf
  refine ⟨passConditions foundation resolved, fun u res => ?_⟩
  unfold reconcileValid check
  rw [List.append_assoc, List.append_assoc, runs_bind_of_runs ht₀]
  dsimp only
  rw [runs_bind_of_runs ht₁, runs_bind_of_runs ht₂]
  rfl

end

/-- **A pass that is not Degraded surely asks for the next one exactly if its settle gate was not
overtaken by the deadline.**  Every pass without error comes through its fleet step; from there
on every way to end it, with the clock going forward, wakes the operator up again if and only if
the second reading of the settle gate was in time. -/
theorem wakes_up_iff (r : Reconciler) (key : NamespacedName) (app : WorkerApp)
    (hlive : app.deleting = false) (hvalid : validateApp r app = .ok ()) :
    (∀ t result, Runs (reconcileApp r key app) t (.ok result) →
      ∃ h u resolved t₂ out, t = h ++ u ∧ FleetStepped r app h resolved t₂ out) ∧
    ∀ h resolved t₂ out, FleetStepped r app h resolved t₂ out → out.phase ≠ .degraded →
      ClockForward h →
      ((∀ u result, Runs (reconcileApp r key app) (h ++ u) (.ok result) → ClockForward (h ++ u) →
          WakesUp r app result) ↔
        SettlesInTime r app resolved.version t₂) := by
  rw [reconcileApp_eq hlive hvalid]
  refine ⟨fun t result => reconcileValid_stepped, ?_⟩
  intro h resolved t₂ out hf hphase hclock
  obtain ⟨conditions, hrest⟩ := hf.rest
  obtain ⟨t₀, t₁, foundation, -, -, ht₁, ht₂⟩ := hf
  have htracking := tracking_iff hvalid ht₁
  have hwakes : OutcomeWakes resolved out ↔ SettlesInTime r app resolved.version t₂ := by
    unfold OutcomeWakes
    rw [htracking]
    exact reconcileFleet_timed ht₂ hphase
  rw [← hwakes]
  constructor
  · -- the pass may end quietly, and then nothing but the fleet step's delay is left
    intro hall
    obtain ⟨u, hu, hquiet⟩ := finishPass_quiet (r := r) resolved conditions out
    obtain ⟨hpos, -⟩ := hall u _ ((hrest u _).mpr hu) (hclock.append_clockless hquiet)
    exact wakes_of_passRequeue (hpos.resolve_left Bool.false_ne_true)
  · intro hout u result hu _
    obtain ⟨-, -, transient, -, written, -, -, -, hresult⟩ := finishPass_runs ((hrest u _).mp hu)
    obtain ⟨hpos, hle⟩ := passRequeue_wakes hout transient
    cases written with
    | ok _ =>
      cases hresult
      exact ⟨.inr hpos, fun hauto => hle (htracking.mpr hauto)⟩
    | error e =>
      -- a conflicting status write is retried at once
      unfold endResult at hresult
      dsimp only at hresult
      split at hresult
      · cases hresult
        exact ⟨.inl rfl, fun _ => r.interval_pos.le⟩
      · cases hresult

/-- A library that reads one deadline. -/
def settlingLib : Lib :=
  { sampleLib with parseTime := fun text => if text = "deadline" then some (10 * second) else none }

def settlingReconciler : Reconciler := { sampleReconciler with lib := settlingLib }

/-- The fleet of three in the middle of a rollout, within its settle interval. -/
def settlingFleet : StatefulSet := annotate rollingFleet (·.insert settleAnnotation "deadline")

def settlingCluster : Cluster :=
  { Cluster.empty.put settlingFleet ⟨by simp [Cluster.empty, Versioned.empty], le_refl 1⟩ with
    pods := rollingCluster.pods }

/-- A second before the deadline. -/
def beforeDeadline : Oracle :=
  { now := 9 * second, state := fun _ => .ok (sampleState "1" 0) }

/-- The pass over it a second before the deadline waits for that second, however it ends. -/
theorem wakes_up_iff_settling : ∃ h resolved t₂ out,
    FleetStepped settlingReconciler rollingApp h resolved t₂ out ∧ out.phase = .rollingOut ∧
      out.requeue = second ∧
      ∀ u result, Runs (reconcileApp settlingReconciler ⟨"prod", "shop"⟩ rollingApp) (h ++ u)
        (.ok result) → ClockForward (h ++ u) → WakesUp settlingReconciler rollingApp result := by
  let handle := answer beforeDeadline
  have hfoundation : (foundationRun handle settlingReconciler rollingApp settlingCluster).2.2 =
      .ok [credentialsCondition rollingApp] := by decide +kernel
  have hfleet : ∃ out, (fleetRun handle settlingReconciler rollingApp settlingCluster).2.2 = .ok out ∧
      out.phase = .rollingOut ∧ out.requeue = second := by
    refine ⟨{ phase := .rollingOut, partition := 2, requeue := second
              waitingOn := "waiting for rollout settle interval" }, ?_, rfl, rfl⟩
    decide +kernel
  obtain ⟨out, hout, hphase, hrequeue⟩ := hfleet
  have ht₀ : Runs (ensureFoundation settlingReconciler rollingApp)
      (foundationRun handle settlingReconciler rollingApp settlingCluster).1
      (.ok [credentialsCondition rollingApp]) := by
    rw [← hfoundation]
    exact runs_runWith (foundationRun handle settlingReconciler rollingApp settlingCluster) rfl
  have ht₁ := runs_runWith (versionRun handle settlingReconciler rollingApp settlingCluster) rfl
  have ht₂ := runs_runWith (fleetRun handle settlingReconciler rollingApp settlingCluster) rfl
  rw [hout] at ht₂
  have hstepped : FleetStepped settlingReconciler rollingApp _ _ _ out :=
    ⟨_, _, _, rfl, ht₀, ht₁, ht₂⟩
  have hmoving : out.phase ≠ .degraded := by
    rw [hphase]
    decide
  have hclock : ClockForward (
      (foundationRun handle settlingReconciler rollingApp settlingCluster).1 ++
      (versionRun handle settlingReconciler rollingApp settlingCluster).1 ++
      (fleetRun handle settlingReconciler rollingApp settlingCluster).1) := by decide +kernel
  refine ⟨_, _, _, out, hstepped, hphase, hrequeue, ?_⟩
  have hiff := (wakes_up_iff settlingReconciler ⟨"prod", "shop"⟩ rollingApp rfl (by decide)).2
    _ _ _ _ hstepped hmoving hclock
  refine hiff.mpr ?_
  exact (reconcileFleet_timed ht₂ hmoving).mp (.inl (by rw [hrequeue]; decide))

/-- The server of `answer`, with a clock that moves from reading to reading. -/
def ticking (clock : Nat → Time) (s : Cluster × Nat) : (o : Op) → Resp o × Cluster × Nat
  | .now => (clock s.2, s.1, s.2 + 1)
  | o => ((answer beforeDeadline s.1 o).1, (answer beforeDeadline s.1 o).2, s.2)

/-- The pass over the same cluster, with the deadline between its two readings of the clock. -/
def straddlingPass : List (Event Api) × (Cluster × Nat) × Except Err Result :=
  runWith (ticking fun n => if n = 0 then 9 * second else 11 * second)
    (reconcileApp settlingReconciler ⟨"prod", "shop"⟩ rollingApp) (settlingCluster, 0)

/-- **A lost wake-up**: the settle gate holds the pass, and by its second look at the clock the
deadline is over.  The pass reports RollingOut and asks for nothing. -/
theorem wakeup_lost :
    validateApp settlingReconciler rollingApp = .ok () ∧
      Runs (reconcileApp settlingReconciler ⟨"prod", "shop"⟩ rollingApp) straddlingPass.1
        (.ok { requeueAfter := -second }) ∧
      ClockForward straddlingPass.1 ∧
      (∃ a, Saw straddlingPass.1 (.updateStatus a) (.ok ()) ∧ a.status.phase = .rollingOut) ∧
      ¬ WakesUp settlingReconciler rollingApp { requeueAfter := -second } := by
  have hruns := runs_runWith straddlingPass rfl
  have hres : straddlingPass.2.2 = .ok { requeueAfter := -second } := by decide +kernel
  have hwritten : (writtenStatus straddlingPass.1).any
      (fun a => decide (a.status.phase = .rollingOut)) = true := by decide +kernel
  obtain ⟨a, ha, hphase⟩ := (Option.any_eq_true _ _).mp hwritten
  rw [hres] at hruns
  exact ⟨by decide, hruns, by decide +kernel, ⟨a, saw_writtenStatus ha, of_decide_eq_true hphase⟩,
    by decide⟩

end CelldOperator
