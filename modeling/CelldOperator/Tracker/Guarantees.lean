/-
  CelldOperator.Tracker.Guarantees

  **WHAT THE TRACKER GUARANTEES.**

    • `tracker_sound` — over all interleavings the cache is bounded and the reads of a
      key are spaced; if calls are steady, what a call returns was read under its own
      identity, within the interval or just now, and a stale version is the newest one,
    • `entryTells_of_reachable` — and every entry a call loads tells the truth,
    • `rotated_read_unfaithful` — a Secret rotated between the two reads of a call.
-/
import CelldOperator.Tracker.Interleaving
import CelldOperator.Tracker.Hold
import CelldOperator.Cluster.Server

namespace CelldOperator

open Effect Prog

/-! ## §1. The guarantees. -/

/-- The version was read under exactly the identity of the call: in the call, or less than an
interval before. -/
def FreshlyRead (r : Reconciler) (app : WorkerApp) (t : Trace) (log : TrackerLog)
    (version : String) : Prop :=
  (∃ request res, ⟨.getObject request, res⟩ ∈ t ∧ answered app res = .ok version ∧
    usedIn app t = callerIn app t) ∨
  ∃ key time now, TrackerEvent.read key (callerIn app t) (callerIn app t) (.ok version) time ∈ log ∧
    ⟨.now, now⟩ ∈ t ∧ now - time < r.interval

/-- The version of the most recent successful read made under the identity of the call. -/
def NewestRead (app : WorkerApp) (t : Trace) (log : TrackerLog) (version : String) : Prop :=
  log.findSome? (TrackerEvent.successUsing (callerIn app t)) = some version

section

variable {r : Reconciler} {strict : Prop} {owner : String → NamespacedName} {app : WorkerApp}
  {t : Trace} {s : Tracker} {read : PointerRead}

/-- Where every read is made under the identity of its call, it does not matter which of the two
is asked for. -/
theorem newest_eq_using {log : TrackerLog}
    (h : ∀ key caller used result time, TrackerEvent.read key caller used result time ∈ log →
      used = caller) (identity : TrackerIdentity) :
    log.findSome? (TrackerEvent.successUsing identity) = newest log identity := by
  induction log with
  | nil => rfl
  | cons e log ih =>
    have htail := ih fun key caller used result time hmem =>
      h key caller used result time (List.mem_cons_of_mem _ hmem)
    rw [newest, List.findSome?_cons, List.findSome?_cons, htail]
    have hhead : e.successUsing identity = e.success identity := by
      cases e with
      | read key caller used result time =>
        cases h key caller used result time (List.mem_cons_self ..)
        cases result <;> rfl
      | stored | evicted | forgot => rfl
    rw [hhead]

/-- **What a call returns without an error.** -/
theorem Polling.freshlyRead (hp : Polling True owner app t s) (hs : Sound r.interval True s)
    (hcall : PointerCall r app t read) (herr : read.err = none) :
    FreshlyRead r app t s.log read.version := by
  cases hcall with
  | unreadable e ref => cases herr
  | @served t identity caller entry now same young =>
    -- the entry is dated by the read it is of
    have hid : entry.identity = callerIn app
        (t ++ [⟨.trackerLoad (trackerKey app), some entry⟩, ⟨.now, now⟩]) := by
      rw [callerIn_identified caller, same]
    have hload : (t ++ [⟨.trackerLoad (trackerKey app), some entry⟩, ⟨.now, now⟩] :
        Trace).filterMap loadOf = [some entry] := by
      rw [List.filterMap_append, loads_identified caller]
      rfl
    obtain ⟨-, key, used, time, hmem, -, htime⟩ := hp.told entry hload hid herr
    have hused : used = entry.identity := hs.exact trivial _ _ _ _ _ hmem
    refine .inr ⟨key, time, now, ?_, by simp, ?_⟩
    · rw [← hid]
      rw [hused] at hmem
      exact hmem
    · rw [htime trivial]
      exact young
  | @refreshed t u v identity loaded result caller aged bucket now =>
    cases result with
    | error e => cases herr
    | ok version =>
      obtain ⟨request, object, hsaw, hparsed⟩ := bucket.ok_saw
      have hans : (t ++ ⟨.trackerLoad (trackerKey app), loaded⟩ :: (u ++ (v ++ [⟨.now, now⟩,
          ⟨.trackerStore r.interval (trackerKey app)
            ⟨version, now, identity, none⟩, ()⟩])) : Trace).filterMap (answerOf app) =
          [.ok version] := by
        rw [answers_loaded caller aged, List.filterMap_append]
        rcases answers_bucketRead bucket with h | ⟨-, e, he⟩
        · rw [h]
          rfl
        · cases he
      obtain ⟨-, -, hused, -⟩ := hp.got version hans
      refine .inl ⟨request, .ok object, ?_, hparsed, hused trivial⟩
      exact List.mem_append_right _ (List.mem_cons_of_mem _ (List.mem_append_right _
        (List.mem_append_left _ hsaw)))

/-- **What it returns as stale.** -/
theorem Polling.newestRead (hp : Polling strict owner app t s)
    (hcall : PointerCall r app t read) (hstale : read.stale = true) :
    newest s.log (callerIn app t) = some read.version := by
  cases hcall with
  | unreadable e ref => cases hstale
  | @served t identity caller entry now same young =>
    have hid : entry.identity = callerIn app
        (t ++ [⟨.trackerLoad (trackerKey app), some entry⟩, ⟨.now, now⟩]) := by
      rw [callerIn_identified caller, same]
    have hload : (t ++ [⟨.trackerLoad (trackerKey app), some entry⟩, ⟨.now, now⟩] :
        Trace).filterMap loadOf = [some entry] := by
      rw [List.filterMap_append, loads_identified caller]
      rfl
    have hans : (t ++ [⟨.trackerLoad (trackerKey app), some entry⟩, ⟨.now, now⟩] :
        Trace).filterMap (answerOf app) = [] := by
      rw [List.filterMap_append, answers_identified caller]
      rfl
    have hne : entry.version ≠ "" := by simpa using (Bool.and_eq_true_iff.mp hstale).2
    rw [← hid]
    exact hp.upToDate entry hload hid (by simp [hans]) hne
  | @refreshed t u v identity loaded result caller aged bucket now =>
    cases result with
    | ok version => cases hstale
    | error e =>
      have hne : refreshedVersion identity loaded (.error e) ≠ "" := by
        simpa [failureOf] using hstale
      obtain ⟨entry, rfl, hid, hversion⟩ := refreshedVersion_error hne
      rw [callerIn_identified caller, ← hversion, ← hid]
      refine hp.upToDate entry ?_ ?_ ?_ (hversion ▸ hne)
      · rw [loads_loaded caller aged, List.filterMap_append, loads_bucketRead bucket]
        rfl
      · rw [callerIn_identified caller, hid]
      · intro version hans
        rw [answers_loaded caller aged, List.filterMap_append] at hans
        rcases answers_bucketRead bucket with h | ⟨h, -⟩
        · rw [h] at hans
          cases hans
        · rw [h] at hans
          cases hans

/-- Nothing has happened yet. -/
theorem fresh_sound (h : s.Fresh) : Sound r.interval strict s := by
  obtain ⟨hcache, hlog⟩ := h
  constructor
  · simp [hcache]
  · simp [hcache, TrackerCache.Keyed]
  · rw [hlog]
    trivial
  · simp [hlog]
  · simp [hlog]

theorem fresh_idle (h : s.Fresh) (k : NamespacedName) : Idle strict owner k s := by
  obtain ⟨hcache, hlog⟩ := h
  have hnone : s.cache.lookup k = none := by rw [hcache]; rfl
  refine ⟨fun _ _ hlast => ?_, fun _ he => ?_, fun _ he => ?_, fun _ he => ?_⟩
  · rw [hlog] at hlast
    cases hlast
  all_goals
    rw [hnone] at he
    cases he

theorem tracker_holds (strict : Prop) {C : CallCondition}
    (hC : strict → ∀ k j t s o, C k j t s o → SteadyCall k j t s o)
    {x : PoolState Api Tracker NamespacedName TrackerCall (Option PointerRead)}
    (h : (trackerPool r owner C).Reachable Tracker.Fresh x) :
    (trackerPool r owner C).Holds (Sound r.interval strict) (TrackerAt strict owner) x :=
  (tracker_outline hC).reachable (fun _ hf => fresh_sound hf) (fun _ k hf => fresh_idle hf k) h

end

/-- **The tracker's guarantees.**  Whatever the calls, the bucket and the clock do, the cache has
at most 1024 entries, and two reads of a key that is neither forgotten, evicted nor re-identified
are an interval apart.  If calls are steady, a call that returns no error returns a version read
under its identity, in the call or less than an interval before, and one that returns a stale
version returns the newest one read under its identity. -/
theorem tracker_sound (r : Reconciler) (owner : String → NamespacedName) :
    (∀ x, (trackerPool r owner AnyCall).Reachable Tracker.Fresh x →
      x.shared.cache.length ≤ 1024 ∧ Spaced r.interval x.shared.log) ∧
    ∀ x, (trackerPool r owner SteadyCall).Reachable Tracker.Fresh x →
      ∀ k app t read, x.threads k = some ⟨.poll app, t, .ret (some read)⟩ →
        (read.err = none → FreshlyRead r app t x.shared.log read.version) ∧
        (read.stale = true → NewestRead app t x.shared.log read.version) := by
  refine ⟨fun x hx => ?_, fun x hx k app t read hrun => ?_⟩
  · have hholds := tracker_holds False (fun hf => hf.elim) hx
    exact ⟨hholds.shared.size, hholds.shared.spaced⟩
  · have hholds := tracker_holds True (fun _ _ _ _ _ _ hsteady => hsteady) hx
    have hat := hholds.key k
    rw [hrun] at hat
    obtain ⟨rfl, hown, hp⟩ := hat
    obtain ⟨-, hsteps⟩ := hholds.thread _ _ hrun
    obtain ⟨read', heq, hcall⟩ := valid_runs (poll_valid r app) hsteps
    cases heq
    rw [List.nil_append] at hcall
    refine ⟨hp.freshlyRead hholds.shared hcall, fun hstale => ?_⟩
    rw [NewestRead, newest_eq_using (hholds.shared.exact trivial)]
    exact hp.newestRead hcall hstale

/-- **Every entry a call loads tells the truth** about the reads before, under any interleaving. -/
theorem entryTells_of_reachable {r : Reconciler} {owner : String → NamespacedName}
    {x : PoolState Api Tracker NamespacedName TrackerCall (Option PointerRead)}
    (h : (trackerPool r owner AnyCall).Reachable Tracker.Fresh x) {k key : NamespacedName}
    {app : WorkerApp} {t : Trace} {f : Option TrackedVersion → P (Option PointerRead)}
    (hrun : x.threads k = some ⟨.poll app, t, .call (.trackerLoad key) f⟩) {entry : TrackedVersion}
    (hentry : x.shared.cache.lookup key = some entry) (resolved : Option String) :
    EntryTells ⟨fun _ identity => newest x.shared.log identity, resolved⟩ key entry := by
  have hholds := tracker_holds False (fun hf => hf.elim) h
  have hat := hholds.key k
  rw [hrun] at hat
  obtain ⟨rfl, hown, hp⟩ := hat
  obtain ⟨-, hsteps⟩ := hholds.thread _ _ hrun
  have hpoint := pointerPoint_of_steps (r := r) (none : Option TrackedVersion) hsteps
  cases hpoint with
  | load caller =>
    have hidle := hp.idle (.inl (answers_identified caller))
    exact ⟨hidle.upToDate entry hentry, fun hok => (hidle.told entry hentry hok).1⟩

/-! ## §2. Calls one after the other. -/

/-- Answer the operations of a call: the Secret by how far the call is, the bucket always the
same, the clock standing still. -/
def serveCall (app : WorkerApp) (secret : Nat → Secret) (object : Except Err StoredObject)
    (x : Trace × Tracker) (o : Op) : Resp o × (Trace × Tracker) :=
  let answered : Resp o × Tracker := match o with
    | .now => (x.2.clock, x.2)
    | .getSecret _ => (.ok (secret x.1.length), x.2)
    | .trackerLoad key => (x.2.cache.lookup key, x.2)
    | .getObject _ => (object, x.2.record (.read (trackerKey app) (callerIn app x.1)
        (usedIn app x.1) (answered app object) x.2.clock))
    | .trackerStore interval key entry =>
      let victim := ((x.2.cache.young interval fun _ => x.2.clock).head?.map Prod.fst).getD key
      ((), x.2.store interval (fun _ => x.2.clock) victim key entry)
    | .trackerForget key => ((), x.2.forget key)
    | o => ((answer {} Cluster.empty o).1, x.2)
  (answered.1, x.1 ++ [⟨o, answered.1⟩], answered.2)

/-- The tracker, with what its calls are doing. -/
abbrev TrackerPoolState := PoolState Api Tracker NamespacedName TrackerCall (Option PointerRead)

section

variable {r : Reconciler} {app : WorkerApp} {secret : Nat → Secret}
  {object : Except Err StoredObject} {x : Trace × Tracker} {o : Op}

theorem serveCall_serves (hpoint : PointerPoint r app x.1 o) :
    TrackerServe (trackerKey app) (.poll app) x.1 x.2 o (serveCall app secret object x o).1
      (serveCall app secret object x o).2.2 := by
  obtain ⟨t, s⟩ := x
  cases o with
  | now => exact .now s
  | getSecret ref => exact .secret s ref _
  | trackerLoad key => exact .load s key
  | getObject request => exact .object s request _ app rfl
  | trackerStore interval key entry =>
    refine .store s interval key entry _ _ ?_
    intro hlong
    cases hyoung : s.cache.young interval fun _ => s.clock with
    | nil =>
      rw [hyoung] at hlong
      cases hlong
    | cons e rest => exact ⟨e, List.mem_cons_self .., rfl⟩
  | trackerForget key => exact .forget s key
  | _ => cases hpoint

/-- The run of one call, while no other is on its way. -/
def callRun (r : Reconciler) (app : WorkerApp) (secret : Nat → Secret)
    (object : Except Err StoredObject) (s : Tracker) :
    List (Event Api) × (Trace × Tracker) × Option PointerRead :=
  runWith (serveCall app secret object) (TrackerCall.program r (.poll app)) ([], s)

/-- The state it leads to, before it is done. -/
def callState (r : Reconciler) (app : WorkerApp) (secret : Nat → Secret)
    (object : Except Err StoredObject) (x : TrackerPoolState) : TrackerPoolState :=
  x.set (trackerKey app) (some ⟨.poll app, (callRun r app secret object x.shared).2.1.1,
    .ret (callRun r app secret object x.shared).2.2⟩) (callRun r app secret object x.shared).2.1.2

theorem callState_reachable {C : CallCondition} {A : Trace × Tracker → Prop} {x : TrackerPoolState}
    (hx : (trackerPool r (fun _ => trackerKey app) C).Reachable Tracker.Fresh x)
    (hidle : x.threads (trackerKey app) = none)
    (hA : A ([], x.shared)) (hinv : ∀ x o, A x → A (serveCall app secret object x o).2)
    (hC : ∀ x o, A x → C (trackerKey app) (.poll app) x.1 x.2 o) :
    (trackerPool r (fun _ => trackerKey app) C).Reachable Tracker.Fresh
      (callState r app secret object x) := by
  have hexec : Exec ((trackerPool r (fun _ => trackerKey app) C).serveThread (trackerKey app)
      (.poll app)) (fun _ _ => False) ([], x.shared) (TrackerCall.program r (.poll app))
      (callRun r app secret object x.shared).1 (callRun r app secret object x.shared).2.1
      (.ret (callRun r app secret object x.shared).2.2) := by
    refine exec_runWith_of_valid Prod.fst (A := A) (fun _ _ => rfl) hinv ?_ _ _ hA
      (poll_valid r app)
    exact fun x o hx hpoint => ⟨⟨hC x o hx, serveCall_serves hpoint⟩, rfl⟩
  refine Pool.Reachable.exec hexec (s := x) ?_
  exact hx.step (.start hidle ⟨rfl, fun _ _ => rfl⟩)

/-- The call is done, and it is later. -/
def doneState (app : WorkerApp) (time : Time) (x : TrackerPoolState) : TrackerPoolState :=
  ⟨{ x.shared with clock := time }, (x.set (trackerKey app) none x.shared).threads⟩

theorem doneState_reachable {C : CallCondition} (time : Time) {x : TrackerPoolState}
    (hx : (trackerPool r (fun _ => trackerKey app) C).Reachable Tracker.Fresh
      (callState r app secret object x))
    (htime : (callState r app secret object x).shared.clock ≤ time) :
    (trackerPool r (fun _ => trackerKey app) C).Reachable Tracker.Fresh
      (doneState app time (callState r app secret object x)) := by
  have hdone := hx.step (.finish (PoolState.set_threads_self ..))
  exact hdone.step (.others ⟨time, htime, rfl⟩)

theorem doneState_idle (app : WorkerApp) (time : Time) (x : TrackerPoolState) :
    (doneState app time x).threads (trackerKey app) = none := PoolState.set_threads_self ..

end

/-- **What stays true of a call whose Secret is not rotated**: all Secrets it has read are the same,
and a bucket read is dated when it was made. -/
structure Unrotated (app : WorkerApp) (secret : Secret) (x : Trace × Tracker) : Prop where
  secrets : ∀ s ∈ x.1.filterMap secretOf, s = secret
  dated : ∀ request res time, x.1.getLast? = some ⟨.getObject request, res⟩ →
    x.2.log.findSome? (TrackerEvent.readTime (trackerKey app)) = some time → time = x.2.clock

section

variable {app : WorkerApp} {secret : Secret} {object : Except Err StoredObject}
  {x : Trace × Tracker}

theorem unrotated_start (s : Tracker) : Unrotated app secret ([], s) :=
  ⟨fun _ h => (List.not_mem_nil h).elim, fun _ _ _ h => nomatch h⟩

theorem Unrotated.serveCall (h : Unrotated app secret x) (o : Op) :
    Unrotated app secret (serveCall app (fun _ => secret) object x o).2 := by
  obtain ⟨t, s⟩ := x
  -- no other operation reads a Secret or the bucket
  have hquiet : ∀ {e : Event Api} (s' : Tracker), secretOf e = none →
      (∀ request res, e ≠ ⟨.getObject request, res⟩) → Unrotated app secret (t ++ [e], s') := by
    intro e s' he hobject
    refine ⟨fun z hz => ?_, fun request res time hlast => ?_⟩
    · rw [List.filterMap_append, List.filterMap_cons_none he] at hz
      exact h.secrets z (by simpa using hz)
    · rw [List.getLast?_concat] at hlast
      exact absurd (Option.some.inj hlast) (hobject request res)
  cases o with
  | getSecret ref =>
    refine ⟨fun z hz => ?_, fun request res time hlast => ?_⟩
    · rcases List.mem_append.mp (List.filterMap_append ▸ hz) with hz | hz
      · exact h.secrets z hz
      · exact List.mem_singleton.mp hz
    · have hlast := Option.some.inj ((List.getLast?_concat ..).symm.trans hlast)
      cases hlast
  | getObject request =>
    refine ⟨fun z hz => ?_, fun _ _ time _ htime => ?_⟩
    · rcases List.mem_append.mp (List.filterMap_append ▸ hz) with hz | hz
      · exact h.secrets z hz
      · cases hz
    · have hread : some s.clock = some time := by
        rw [← htime]
        show _ = (TrackerEvent.read (trackerKey app) _ _ _ s.clock :: s.log).findSome? _
        rw [List.findSome?_cons]
        simp [TrackerEvent.readTime]
      exact (Option.some.inj hread).symm
  | _ => exact hquiet _ rfl (by rintro _ _ ⟨⟩)

/-- Such a call is steady. -/
theorem Unrotated.steady (h : Unrotated app secret x)
    (href : app.spec.deployTrackingSecretRef ≠ "") (o : Op) :
    SteadyCall (trackerKey app) (.poll app) x.1 x.2 o := by
  constructor
  · rintro request _ - ⟨⟩
    unfold usedIn callerIn
    rw [if_neg href]
    cases hsecrets : x.1.filterMap secretOf with
    | nil => rfl
    | cons first rest =>
      have hlast := h.secrets ((first :: rest).getLast (by simp))
        (by rw [hsecrets]; exact List.getLast_mem _)
      have hfirst := h.secrets first (by rw [hsecrets]; exact List.mem_cons_self ..)
      rw [List.getLast?_eq_some_getLast (by simp), hlast, List.head?_cons, hfirst]
  · exact fun request res time _ hlast htime => h.dated request res time hlast htime

end

/-- The tracking Secret before and after a rotation. -/
def trackingSecret (resourceVersion : Nat) : Secret :=
  ⟨"s1", resourceVersion, [("AWS_ACCESS_KEY_ID", [1]), ("AWS_SECRET_ACCESS_KEY", [2])]⟩

/-- `{"version": "7"}`. -/
def deployPointer : StoredObject := ⟨15, some (.obj [("version", .str "7")])⟩

/-- The tracker of a process that has just started. -/
def freshPool : TrackerPoolState := ⟨⟨[], 0, []⟩, fun _ => none⟩

/-- What a call returned. -/
def returned : Option PointerRead → Option (String × Bool × Bool)
  | some read => some (read.version, read.stale, read.err.isNone)
  | none => none

theorem callState_returned {r : Reconciler} {app : WorkerApp} {secret : Nat → Secret}
    {object : Except Err StoredObject} {x : TrackerPoolState} {version : String} {stale ok : Bool}
    (h : returned (callRun r app secret object x.shared).2.2 = some (version, stale, ok)) :
    ∃ read, (callState r app secret object x).threads (trackerKey app) =
        some ⟨.poll app, (callRun r app secret object x.shared).2.1.1, .ret (some read)⟩ ∧
      read.version = version ∧ read.stale = stale ∧ read.err.isNone = ok := by
  cases hx : (callRun r app secret object x.shared).2.2 with
  | none =>
    rw [hx] at h
    cases h
  | some read =>
    rw [hx] at h
    cases h
    refine ⟨read, ?_, rfl, rfl, rfl⟩
    rw [← hx]
    exact PoolState.set_threads_self ..

/-- A call of the tracked WorkerApp, whose Secret stays as it is. -/
def steadyState (object : Except Err StoredObject) (x : TrackerPoolState) : TrackerPoolState :=
  callState versionedReconciler autoApp (fun _ => trackingSecret 1) object x

/-- The first call reads version 7. -/
def polledPool : TrackerPoolState := steadyState (.ok deployPointer) freshPool

/-- The second one comes before the interval is over. -/
def cached : TrackerPoolState :=
  steadyState (.ok deployPointer) (doneState autoApp second polledPool)

/-- When the third comes the bucket is down. -/
def outage : TrackerPoolState :=
  steadyState (.error (.other "bucket")) (doneState autoApp (10 * minute) cached)

theorem steadyState_reachable (object : Except Err StoredObject) {x : TrackerPoolState}
    (hx : (trackerPool versionedReconciler (fun _ => trackerKey autoApp) SteadyCall).Reachable
      Tracker.Fresh x) (hidle : x.threads (trackerKey autoApp) = none) :
    (trackerPool versionedReconciler (fun _ => trackerKey autoApp) SteadyCall).Reachable
      Tracker.Fresh (steadyState object x) :=
  callState_reachable hx hidle (A := Unrotated autoApp (trackingSecret 1)) (unrotated_start _)
    (fun _ o hx => hx.serveCall o) (fun _ o hx => hx.steady (by decide) o)

/-- **Three calls**: the second one returns what the first has read; the third one cannot read, and
returns it as stale. -/
theorem tracker_sound_calls :
    (∃ t read, cached.threads (trackerKey autoApp) = some ⟨.poll autoApp, t, .ret (some read)⟩ ∧
      read.version = "7" ∧ t.filterMap (answerOf autoApp) = [] ∧
      FreshlyRead versionedReconciler autoApp t cached.shared.log "7") ∧
    ∃ t read, outage.threads (trackerKey autoApp) = some ⟨.poll autoApp, t, .ret (some read)⟩ ∧
      read.stale = true ∧ NewestRead autoApp t outage.shared.log "7" := by
  have hpolled := steadyState_reachable (.ok deployPointer) (x := freshPool)
    ⟨⟨[], 0, []⟩, ⟨rfl, rfl⟩, .refl⟩ rfl
  have hcached := steadyState_reachable (.ok deployPointer)
    (doneState_reachable second hpolled (by decide +kernel)) (doneState_idle ..)
  have houtage := steadyState_reachable (.error (.other "bucket"))
    (doneState_reachable (10 * minute) hcached (by decide +kernel)) (doneState_idle ..)
  constructor
  · have hresult : returned (callRun versionedReconciler autoApp (fun _ => trackingSecret 1)
        (.ok deployPointer) (doneState autoApp second polledPool).shared).2.2 =
        some ("7", false, true) := by
      decide +kernel
    have hunread : ((callRun versionedReconciler autoApp (fun _ => trackingSecret 1)
        (.ok deployPointer) (doneState autoApp second polledPool).shared).2.1.1.filterMap
          (answerOf autoApp)).length = 0 := by
      decide +kernel
    obtain ⟨read, hrun, hversion, -, hok⟩ := callState_returned hresult
    refine ⟨_, read, hrun, hversion, List.length_eq_zero_iff.mp hunread, ?_⟩
    rw [← hversion]
    exact ((tracker_sound _ _).2 _ hcached _ _ _ _ hrun).1 (Option.isNone_iff_eq_none.mp hok)
  · have hresult : returned (callRun versionedReconciler autoApp (fun _ => trackingSecret 1)
        (.error (.other "bucket")) (doneState autoApp (10 * minute) cached).shared).2.2 =
        some ("7", true, false) := by
      decide +kernel
    obtain ⟨read, hrun, hversion, hstale, -⟩ := callState_returned hresult
    refine ⟨_, read, hrun, hstale, ?_⟩
    rw [← hversion]
    exact ((tracker_sound _ _).2 _ houtage _ _ _ _ hrun).2 hstale

/-- No read in the log was made under the identity of its call. -/
def foreign : TrackerEvent → Bool
  | .read _ caller used _ _ => caller != used
  | _ => true

/-- The Secret is rotated whenever the call has gone on. -/
def rotatedRun : List (Event Api) × (Trace × Tracker) × Option PointerRead :=
  callRun versionedReconciler autoApp (fun n => trackingSecret (n + 1)) (.ok deployPointer)
    ⟨[], 0, []⟩

/-- **A read under another identity.**  The tracking Secret is rotated between the two reads of a
call: it goes by the old Secret, reads the bucket with the new one, and returns the version
without an error. -/
theorem rotated_read_unfaithful :
    ∃ x t read, (trackerPool versionedReconciler (fun _ => trackerKey autoApp) AnyCall).Reachable
        Tracker.Fresh x ∧
      x.threads (trackerKey autoApp) = some ⟨.poll autoApp, t, .ret (some read)⟩ ∧
      read.err = none ∧ read.version = "7" ∧
      ¬ FreshlyRead versionedReconciler autoApp t x.shared.log read.version := by
  have hreach : (trackerPool versionedReconciler (fun _ => trackerKey autoApp)
      AnyCall).Reachable Tracker.Fresh (callState versionedReconciler autoApp
        (fun n => trackingSecret (n + 1)) (.ok deployPointer) freshPool) :=
    callState_reachable ⟨⟨[], 0, []⟩, ⟨rfl, rfl⟩, .refl⟩ rfl (A := fun _ => True) trivial
      (fun _ _ _ => trivial) (fun _ _ _ => trivial)
  have hresult : returned rotatedRun.2.2 = some ("7", false, true) := by decide +kernel
  have hused : usedIn autoApp rotatedRun.2.1.1 ≠ callerIn autoApp rotatedRun.2.1.1 := by
    decide +kernel
  have hforeign : rotatedRun.2.1.2.log.all foreign = true := by decide +kernel
  obtain ⟨read, hrun, hversion, -, hok⟩ := callState_returned (x := freshPool) hresult
  refine ⟨_, _, read, hreach, hrun, Option.isNone_iff_eq_none.mp hok, hversion, ?_⟩
  rintro (⟨request, res, -, -, hsame⟩ | ⟨key, time, now, hmem, -, -⟩)
  · exact hused hsame
  · have hne := List.all_eq_true.mp hforeign _ hmem
    simp [foreign] at hne

end CelldOperator
