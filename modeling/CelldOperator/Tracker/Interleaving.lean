/-
  CelldOperator.Tracker.Interleaving

  **THE TRACKER UNDER ANY INTERLEAVING.**

  Calls for different WorkerApps run side by side (`trackerPool`): the lock is held
  while the entry is looked up and while it is stored, not while the bucket is read.

    • `Sound`   — of the shared state: the bound on the cache, the spacing of reads,
    • `Idle`    — of a key at rest: its entry tells the truth about the log,
    • `Polling` — of a key in the middle of a call,
    • `Spares`  — what the calls of other keys leave alone,
    • `tracker_sound` — the guarantees, over all interleavings.

  A call takes the identity from one read of the Secret and the credentials from a
  second, and dates its entry after the bucket has answered.  Two of the guarantees
  need that neither makes a difference (`SteadyCall`).
-/
import CelldOperator.Tracker.Cache
import CelldOperator.Tracker.Pointer
import CelldOperator.Effect.Pool

namespace CelldOperator

open Effect Prog

/-! ## §1. The calls side by side. -/

/-- What is asked of the tracker. -/
inductive TrackerCall where
  | poll (app : WorkerApp)
  | forget (key : NamespacedName)

/-- The key of a call: calls of one key are serial. -/
def TrackerCall.key : TrackerCall → NamespacedName
  | .poll app => trackerKey app
  | .forget key => key

def TrackerCall.program (r : Reconciler) : TrackerCall → P (Option PointerRead)
  | .poll app => do
    let read ← pointerVersion r app
    pure (some read)
  | .forget key => do
    let _ ← ask (.trackerForget key)
    pure none

/-- The tracker, the clock, and the log of what was done. -/
structure Tracker where
  cache : TrackerCache
  clock : Time
  log : TrackerLog

/-- Evict and store, under the lock. -/
def Tracker.store (s : Tracker) (interval : Time) (now : NamespacedName → Time)
    (victim key : NamespacedName) (entry : TrackedVersion) : Tracker :=
  let cache := (s.cache.evict interval now victim).put key entry
  { s with
    cache := cache
    log := .stored key entry.identity :: ((s.cache.dropped cache).map .evicted ++ s.log) }

def Tracker.forget (s : Tracker) (key : NamespacedName) : Tracker :=
  { s with cache := s.cache.forget key, log := .forgot key :: s.log }

def Tracker.record (s : Tracker) (e : TrackerEvent) : Tracker := { s with log := e :: s.log }

/-- The Secret an event read. -/
def secretOf : Event Api → Option Secret
  | ⟨.getSecret _, .ok secret⟩ => some secret
  | _ => none

/-- The identity a Secret makes up. -/
def identityWith (app : WorkerApp) : Option Secret → TrackerIdentity
  | none => trackerIdentity app "" 0
  | some secret => trackerIdentity app secret.uid secret.resourceVersion

/-- The identity a call goes by: of the Secret it read first. -/
def callerIn (app : WorkerApp) (t : Trace) : TrackerIdentity :=
  if app.spec.deployTrackingSecretRef = "" then identityWith app none
  else identityWith app (t.filterMap secretOf).head?

/-- The identity whose credentials it uses: of the Secret it read last. -/
def usedIn (app : WorkerApp) (t : Trace) : TrackerIdentity :=
  identityWith app (t.filterMap secretOf).getLast?

/-- How an operation of the key's call is answered.  The Secrets and the bucket answer anything;
the clock and the cache answer what they hold. -/
inductive TrackerServe (k : NamespacedName) (j : TrackerCall) (t : Trace) :
    Tracker → (o : Op) → Api.Resp o → Tracker → Prop where
  | secret (s : Tracker) (ref : String) (res : Except Err Secret) :
      TrackerServe k j t s (.getSecret ref) res s
  | now (s : Tracker) : TrackerServe k j t s .now s.clock s
  | load (s : Tracker) (key : NamespacedName) :
      TrackerServe k j t s (.trackerLoad key) (s.cache.lookup key) s
  | object (s : Tracker) (request : ObjectRequest) (res : Except Err StoredObject)
      (app : WorkerApp) (poll : j = .poll app) :
      TrackerServe k j t s (.getObject request) res
        (s.record (.read k (callerIn app t) (usedIn app t) (answered app res) s.clock))
  | store (s : Tracker) (interval : Time) (key : NamespacedName) (entry : TrackedVersion)
      (now : NamespacedName → Time) (victim : NamespacedName)
      (iterated : s.cache.Victim interval now victim) :
      TrackerServe k j t s (.trackerStore interval key entry) ()
        (s.store interval now victim key entry)
  | forget (s : Tracker) (key : NamespacedName) :
      TrackerServe k j t s (.trackerForget key) () (s.forget key)

/-- A condition on the operations of the calls. -/
abbrev CallCondition := NamespacedName → TrackerCall → Trace → Tracker → Op → Prop

/-- **The tracker in use.**  A UID belongs to one key; the clock does not go back. -/
def trackerPool (r : Reconciler) (owner : String → NamespacedName) (C : CallCondition) :
    Pool Api Tracker NamespacedName TrackerCall (Option PointerRead) where
  program := TrackerCall.program r
  serve k j t s o res s' := C k j t s o ∧ TrackerServe k j t s o res s'
  others s s' := ∃ time, s.clock ≤ time ∧ s' = { s with clock := time }
  admits k j := j.key = k ∧ ∀ app, j = .poll app → owner app.uid = k

/-- The tracker of a process that has just started. -/
def Tracker.Fresh (s : Tracker) : Prop := s.cache = [] ∧ s.log = []

/-- Any operation. -/
def AnyCall : CallCondition := fun _ _ _ _ _ => True

/-- **The bucket is read under the identity of the call, and the entry dated when it answers.** -/
def SteadyCall : CallCondition := fun k j t s o =>
  (∀ request app, o = .getObject request → j = .poll app → usedIn app t = callerIn app t) ∧
  (∀ request res time, o = .now → t.getLast? = some ⟨.getObject request, res⟩ →
    s.log.findSome? (TrackerEvent.readTime k) = some time → time = s.clock)

/-! ## §2. What is true of a key. -/

/-- The log has a successful read of the version under the identity, no later than the date;
exactly then, if calls are steady. -/
def Recorded (strict : Prop) (log : TrackerLog) (identity : TrackerIdentity) (version : String)
    (date : Time) : Prop :=
  ∃ key used time, TrackerEvent.read key identity used (.ok version) time ∈ log ∧ time ≤ date ∧
    (strict → time = date)

/-- The version last read under the identity. -/
abbrev newest (log : TrackerLog) (identity : TrackerIdentity) : Option String :=
  log.findSome? (TrackerEvent.success identity)

/-- The entry is of a read that took place. -/
def Told (strict : Prop) (log : TrackerLog) (entry : TrackedVersion) : Prop :=
  entry.failure = none →
    entry.version ≠ "" ∧ Recorded strict log entry.identity entry.version entry.fetchedAt

/-- A version in the entry is the one last read under its identity. -/
def UpToDate (log : TrackerLog) (entry : TrackedVersion) : Prop :=
  entry.version ≠ "" → newest log entry.identity = some entry.version

/-- **A key at rest.** -/
structure Idle (strict : Prop) (owner : String → NamespacedName) (k : NamespacedName)
    (s : Tracker) : Prop where
  settled : ∀ identity before, lastRead k s.log = some (identity, before) →
    ∃ entry, s.cache.lookup k = some entry ∧ entry.identity = identity ∧ before ≤ entry.fetchedAt
  owned : ∀ entry, s.cache.lookup k = some entry → owner entry.identity.appUID = k
  told : ∀ entry, s.cache.lookup k = some entry → Told strict s.log entry
  upToDate : ∀ entry, s.cache.lookup k = some entry → UpToDate s.log entry

/-- The bucket's answer an event holds. -/
def answerOf (app : WorkerApp) : Event Api → Option (Except Err String)
  | ⟨.getObject _, res⟩ => some (answered app res)
  | _ => none

def isStore : Event Api → Bool
  | ⟨.trackerStore _ _ _, _⟩ => true
  | _ => false

/-- **A key in the middle of a call**, after the events `t`. -/
structure Polling (strict : Prop) (owner : String → NamespacedName) (app : WorkerApp) (t : Trace)
    (s : Tracker) : Prop where
  /-- Until the bucket is read and after the entry is stored, the key is as at rest. -/
  idle : t.filterMap (answerOf app) = [] ∨ t.any isStore = true →
    Idle strict owner (trackerKey app) s
  told : ∀ entry, t.filterMap loadOf = [some entry] → entry.identity = callerIn app t →
    Told strict s.log entry
  upToDate : ∀ entry, t.filterMap loadOf = [some entry] → entry.identity = callerIn app t →
    (∀ version, t.filterMap (answerOf app) ≠ [.ok version]) → UpToDate s.log entry
  /-- The last read of the key, under this identity, is not after the loaded entry. -/
  covered : ∀ loaded before, t.filterMap loadOf = [loaded] → t.filterMap (answerOf app) = [] →
    lastRead (trackerKey app) s.log = some (callerIn app t, before) →
    ∃ entry, loaded = some entry ∧ entry.identity = callerIn app t ∧ before ≤ entry.fetchedAt
  past : ∀ now, ⟨.now, now⟩ ∈ t → now ≤ s.clock
  /-- What the bucket answered is the newest read. -/
  got : ∀ version, t.filterMap (answerOf app) = [.ok version] →
    version ≠ "" ∧ newest s.log (callerIn app t) = some version ∧
      (strict → usedIn app t = callerIn app t) ∧
      ∃ used time, TrackerEvent.read (trackerKey app) (callerIn app t) used (.ok version) time ∈
          s.log ∧ s.log.findSome? (TrackerEvent.readTime (trackerKey app)) = some time
  /-- The date of the entry to be stored. -/
  dated : ∀ now, t.getLast? = some ⟨.now, now⟩ →
    (∀ identity before, lastRead (trackerKey app) s.log = some (identity, before) →
      before ≤ now) ∧
    ∀ version, t.filterMap (answerOf app) = [.ok version] →
      Recorded strict s.log (callerIn app t) version now

/-- **The shared state.** -/
structure Sound (interval : Time) (strict : Prop) (s : Tracker) : Prop where
  size : s.cache.length ≤ 1024
  keyed : s.cache.Keyed
  spaced : Spaced interval s.log
  past : ∀ key caller used result time, TrackerEvent.read key caller used result time ∈ s.log →
    time ≤ s.clock
  exact : strict → ∀ key caller used result time,
    TrackerEvent.read key caller used result time ∈ s.log → used = caller

/-! ## §3. What the calls of other keys leave alone. -/

/-- Nothing of the key is changed, except that its entry may be evicted. -/
structure Spares (owner : String → NamespacedName) (k : NamespacedName) (s s' : Tracker) :
    Prop where
  entry : (s'.cache.lookup k = s.cache.lookup k ∧ lastRead k s'.log = lastRead k s.log) ∨
    (s'.cache.lookup k = none ∧ lastRead k s'.log = none)
  newest : ∀ identity, owner identity.appUID = k → newest s'.log identity = newest s.log identity
  readTime : s'.log.findSome? (TrackerEvent.readTime k) = s.log.findSome? (TrackerEvent.readTime k)
  log : ∀ x ∈ s.log, x ∈ s'.log
  clock : s.clock ≤ s'.clock

section spares

variable {strict : Prop} {owner : String → NamespacedName} {k : NamespacedName} {s s' : Tracker}

theorem Spares.lastRead_some (h : Spares owner k s s') {x : TrackerIdentity × Time}
    (hx : lastRead k s'.log = some x) :
    s'.cache.lookup k = s.cache.lookup k ∧ lastRead k s.log = some x := by
  rcases h.entry with ⟨hentry, hrecord⟩ | ⟨_, hnone⟩
  · exact ⟨hentry, hrecord ▸ hx⟩
  · rw [hnone] at hx
    cases hx

theorem Spares.lookup_some (h : Spares owner k s s') {entry : TrackedVersion}
    (hx : s'.cache.lookup k = some entry) : s.cache.lookup k = some entry := by
  rcases h.entry with ⟨hentry, _⟩ | ⟨hnone, _⟩
  · rwa [hentry] at hx
  · rw [hnone] at hx
    cases hx

theorem Spares.recorded (h : Spares owner k s s') {identity : TrackerIdentity} {version : String}
    {date : Time} (hr : Recorded strict s.log identity version date) :
    Recorded strict s'.log identity version date := by
  obtain ⟨key, used, time, hmem, hdate⟩ := hr
  exact ⟨key, used, time, h.log _ hmem, hdate⟩

theorem Spares.told (h : Spares owner k s s') {entry : TrackedVersion}
    (ht : Told strict s.log entry) : Told strict s'.log entry :=
  fun hok => ⟨(ht hok).1, h.recorded (ht hok).2⟩

theorem Spares.upToDate (h : Spares owner k s s') {entry : TrackedVersion}
    (hown : owner entry.identity.appUID = k) (hu : UpToDate s.log entry) :
    UpToDate s'.log entry := by
  intro hne
  rw [h.newest _ hown]
  exact hu hne

theorem Idle.spared (hi : Idle strict owner k s) (h : Spares owner k s s') :
    Idle strict owner k s' where
  settled identity before hlast := by
    obtain ⟨hentry, hlast⟩ := h.lastRead_some hlast
    rw [hentry]
    exact hi.settled identity before hlast
  owned entry hentry := hi.owned entry (h.lookup_some hentry)
  told entry hentry := h.told (hi.told entry (h.lookup_some hentry))
  upToDate entry hentry :=
    h.upToDate (hi.owned entry (h.lookup_some hentry)) (hi.upToDate entry (h.lookup_some hentry))

/-- The identity of a call is of the WorkerApp's UID. -/
theorem callerIn_appUID (app : WorkerApp) (t : Trace) : (callerIn app t).appUID = app.uid := by
  unfold callerIn
  split
  · rfl
  · cases (t.filterMap secretOf).head? <;> rfl

theorem Polling.spared {app : WorkerApp} {t : Trace} (hp : Polling strict owner app t s)
    (hown : owner app.uid = trackerKey app) (h : Spares owner (trackerKey app) s s') :
    Polling strict owner app t s' := by
  have hcaller : owner (callerIn app t).appUID = trackerKey app := by rwa [callerIn_appUID]
  constructor
  · exact fun hq => (hp.idle hq).spared h
  · exact fun entry hload hid => h.told (hp.told entry hload hid)
  · exact fun entry hload hid hne =>
      h.upToDate (hid ▸ hcaller) (hp.upToDate entry hload hid hne)
  · exact fun loaded before hload hquiet hlast =>
      hp.covered loaded before hload hquiet (h.lastRead_some hlast).2
  · exact fun now hnow => (hp.past now hnow).trans h.clock
  · intro version hans
    obtain ⟨hne, hnewest, hused, used, time, hmem, htime⟩ := hp.got version hans
    exact ⟨hne, by rw [h.newest _ hcaller, hnewest], hused, used, time, h.log _ hmem,
      by rw [h.readTime, htime]⟩
  · intro now hnow
    obtain ⟨hbefore, hrec⟩ := hp.dated now hnow
    exact ⟨fun identity before hlast => hbefore identity before (h.lastRead_some hlast).2,
      fun version hans => h.recorded (hrec version hans)⟩

/-- The key of an operation on the cache is the one of the call. -/
def OfKey (k : NamespacedName) : Op → Prop
  | .trackerLoad key | .trackerStore _ key _ | .trackerForget key => key = k
  | _ => True

/-- **Non-interference.**  An operation of one key spares every other. -/
theorem TrackerServe.spares {k' : NamespacedName} {j : TrackerCall} {t : Trace} {o : Op}
    {res : Api.Resp o} (h : TrackerServe k j t s o res s') (hkeyed : s.cache.Keyed) (hkey : OfKey k o)
    (hown : ∀ app, j = .poll app → owner app.uid = k) (hne : k' ≠ k) : Spares owner k' s s' := by
  have hsame : Spares owner k' s s :=
    ⟨.inl ⟨rfl, rfl⟩, fun _ _ => rfl, rfl, fun _ hx => hx, le_refl _⟩
  cases h with
  | secret => exact hsame
  | now => exact hsame
  | load => exact hsame
  | object request res app poll =>
    refine ⟨.inl ⟨rfl, ?_⟩, ?_, ?_, fun x hx => List.mem_cons_of_mem _ hx, le_refl _⟩
    · simp [Tracker.record, lastRead, hne.symm]
    · intro identity hid
      have hother : callerIn app t ≠ identity := by
        rintro rfl
        rw [callerIn_appUID, hown app poll] at hid
        exact hne hid.symm
      cases hans : answered app res with
      | error e => simp [newest, Tracker.record, List.findSome?_cons, TrackerEvent.success]
      | ok version => simp [newest, Tracker.record, TrackerEvent.success, hother]
    · simp [Tracker.record, TrackerEvent.readTime, hne.symm]
  | store interval key entry now victim iterated =>
    have hkey : key = k := hkey
    subst hkey
    refine ⟨?_, ?_, ?_, ?_, le_refl _⟩
    · -- the entry was dropped, and the log says so, or it is still there
      have hlookup : (s.store interval now victim key entry).cache.lookup k' =
          (s.cache.evict interval now victim).lookup k' :=
        TrackerCache.lookup_put_of_ne hne
      have hrecord : lastRead k' (s.store interval now victim key entry).log =
          if k' ∈ s.cache.dropped (s.store interval now victim key entry).cache then none
          else lastRead k' s.log := by
        rw [← lastRead_evicted]
        simp [Tracker.store, lastRead, hne.symm]
      rcases TrackerCache.lookup_sublist hkeyed
          (TrackerCache.evict_sublist interval now victim s.cache) k' with hkept | hgone
      · by_cases hdropped :
            k' ∈ s.cache.dropped (s.store interval now victim key entry).cache
        · exact .inr ⟨(TrackerCache.mem_dropped.mp hdropped).2, by rw [hrecord, if_pos hdropped]⟩
        · exact .inl ⟨by rw [hlookup, hkept], by rw [hrecord, if_neg hdropped]⟩
      · by_cases hin : k' ∈ s.cache.map Prod.fst
        · exact .inr ⟨by rw [hlookup, hgone], by
            rw [hrecord, if_pos (TrackerCache.mem_dropped.mpr ⟨hin, by rw [hlookup, hgone]⟩)]⟩
        · refine .inl ⟨?_, ?_⟩
          · rw [hlookup, hgone]
            cases hcase : s.cache.lookup k' with
            | none => rfl
            | some e => exact absurd (List.mem_map_of_mem (TrackerCache.mem_of_lookup hcase)) hin
          · rw [hrecord, if_neg fun hd => hin (TrackerCache.mem_dropped.mp hd).1]
    · intro identity _
      exact (List.findSome?_cons ..).trans (findSome_evicted _ fun _ => rfl)
    · exact (List.findSome?_cons ..).trans (findSome_evicted _ fun _ => rfl)
    · exact fun x hx => List.mem_cons_of_mem _ (List.mem_append_right _ hx)
  | forget key =>
    have hkey : key = k := hkey
    subst hkey
    refine ⟨.inl ⟨TrackerCache.lookup_forget_of_ne hne, ?_⟩, fun _ _ => rfl, rfl,
      fun x hx => List.mem_cons_of_mem _ hx, le_refl _⟩
    simp [Tracker.forget, lastRead, hne.symm]

end spares

/-! ## §4. What the operations of a call do. -/

section views

variable {r : Reconciler} {app : WorkerApp} {t u v : Trace} {identity : TrackerIdentity}
  {loaded : Option TrackedVersion} {result : Except Err String}

theorem callerIn_identified (h : Identified app t identity) (post : Trace) :
    callerIn app (t ++ post) = identity := by
  cases h with
  | anonymous ref => simp [callerIn, ref, identityWith]
  | named secret ref => simp [callerIn, ref, secretOf, identityWith]

theorem callerIn_snoc {e : Event Api} (h : secretOf e = none) (t : Trace) :
    callerIn app (t ++ [e]) = callerIn app t := by
  simp [callerIn, List.filterMap_append, h]

theorem usedIn_snoc {e : Event Api} (h : secretOf e = none) (t : Trace) :
    usedIn app (t ++ [e]) = usedIn app t := by
  simp [usedIn, List.filterMap_append, h]

theorem answers_identified (h : Identified app t identity) : t.filterMap (answerOf app) = [] := by
  cases h <;> rfl

theorem answers_aged (h : Aged r identity loaded t) : t.filterMap (answerOf app) = [] := by
  cases h <;> rfl

theorem stores_identified (h : Identified app t identity) : t.any isStore = false := by
  cases h <;> rfl

theorem stores_aged (h : Aged r identity loaded t) : t.any isStore = false := by
  cases h <;> rfl

/-- The bucket was asked, or the read failed without it. -/
theorem answers_bucketRead (h : BucketRead app t result) :
    t.filterMap (answerOf app) = [result] ∨
      t.filterMap (answerOf app) = [] ∧ ∃ e, result = .error e := by
  cases h with
  | refused e => exact .inr ⟨rfl, e, rfl⟩
  | withoutSecret res e => exact .inr ⟨rfl, e, rfl⟩
  | asked secret res => exact .inl rfl

/-- The bucket's answer is the last thing such a read exchanges. -/
theorem getLast_bucketRead (h : BucketRead app v result) {version : String}
    (hans : v.filterMap (answerOf app) = [.ok version]) :
    ∃ request res, (t ++ v).getLast? = some ⟨.getObject request, res⟩ := by
  cases h with
  | refused e => cases hans
  | withoutSecret res e => cases hans
  | asked secret res => exact ⟨pointerRequest app secret, res, by simp⟩

/-- The events behind the loaded entry, as far as the bucket is concerned. -/
theorem answers_loaded (caller : Identified app t identity) (aged : Aged r identity loaded u)
    (post : Trace) :
    (t ++ ⟨.trackerLoad (trackerKey app), loaded⟩ :: (u ++ post)).filterMap (answerOf app) =
      post.filterMap (answerOf app) := by
  rw [List.filterMap_append, answers_identified caller, List.nil_append,
    List.filterMap_cons_none rfl, List.filterMap_append, answers_aged aged, List.nil_append]

theorem loads_loaded (caller : Identified app t identity) (aged : Aged r identity loaded u)
    (post : Trace) :
    (t ++ ⟨.trackerLoad (trackerKey app), loaded⟩ :: (u ++ post)).filterMap loadOf =
      loaded :: post.filterMap loadOf := by
  rw [List.filterMap_append, loads_identified caller, List.nil_append]
  show loaded :: (u ++ post).filterMap loadOf = _
  rw [List.filterMap_append, loads_aged aged, List.nil_append]

/-- A version read is not empty. -/
theorem answered_ne_empty {res : Except Err StoredObject} {version : String}
    (h : answered app res = .ok version) : version ≠ "" := by
  unfold answered at h
  split at h
  · cases h
  · unfold pointerOf at h
    split at h
    · cases h
    · split at h
      · split at h
        · split at h
          · cases h
          · next hne =>
            cases h
            exact hne
        · cases h
        · cases h
        · cases h
      · cases h
      · cases h

end views

section calls

variable {r : Reconciler} {strict : Prop} {owner : String → NamespacedName} {app : WorkerApp}
  {t : Trace} {s s' : Tracker}

/-- A call begins. -/
theorem Polling.begin (h : Idle strict owner (trackerKey app) s) :
    Polling strict owner app [] s := by
  constructor
  · exact fun _ => h
  · exact fun _ hload => nomatch hload
  · exact fun _ hload => nomatch hload
  · exact fun _ _ hload => nomatch hload
  · exact fun _ hnow => nomatch hnow
  · exact fun _ hans => nomatch hans
  · exact fun _ hnow => nomatch hnow

/-- A Secret is read, for the identity or for the credentials. -/
theorem Polling.secret (hp : Polling strict owner app t s) (ref : String)
    (res : Except Err Secret) (hans : t.filterMap (answerOf app) = [])
    (hcaller : ∀ post, t.filterMap loadOf ≠ [] → callerIn app (t ++ post) = callerIn app t) :
    Polling strict owner app (t ++ [⟨.getSecret ref, res⟩]) s := by
  have hload : (t ++ [⟨.getSecret ref, res⟩] : Trace).filterMap loadOf = t.filterMap loadOf := by
    simp [List.filterMap_append, loadOf]
  have hans' : (t ++ [⟨.getSecret ref, res⟩] : Trace).filterMap (answerOf app) = [] := by
    simp [List.filterMap_append, answerOf, hans]
  have hne : ∀ {x}, t.filterMap loadOf = [x] → t.filterMap loadOf ≠ [] := by
    intro x hx
    simp [hx]
  constructor
  · exact fun _ => hp.idle (.inl hans)
  · intro entry hl hid
    rw [hload] at hl
    rw [hcaller _ (hne hl)] at hid
    exact hp.told entry hl hid
  · intro entry hl hid _
    rw [hload] at hl
    rw [hcaller _ (hne hl)] at hid
    exact hp.upToDate entry hl hid (by simp [hans])
  · intro loaded before hl _ hlast
    rw [hload] at hl
    rw [hcaller _ (hne hl)] at hlast ⊢
    exact hp.covered loaded before hl hans hlast
  · intro now hnow
    refine hp.past now ?_
    simpa using hnow
  · intro version hv
    rw [hans'] at hv
    cases hv
  · intro now hnow
    simp at hnow

/-- The entry is loaded. -/
theorem Polling.load (hp : Polling strict owner app t s) {identity : TrackerIdentity}
    (caller : Identified app t identity) :
    Polling strict owner app
      (t ++ [⟨.trackerLoad (trackerKey app), s.cache.lookup (trackerKey app)⟩]) s := by
  have hidle := hp.idle (.inl (answers_identified caller))
  have hload : (t ++ [⟨.trackerLoad (trackerKey app), s.cache.lookup (trackerKey app)⟩] :
      Trace).filterMap loadOf = [s.cache.lookup (trackerKey app)] := by
    simp [List.filterMap_append, loads_identified caller, loadOf]
  have hans : (t ++ [⟨.trackerLoad (trackerKey app), s.cache.lookup (trackerKey app)⟩] :
      Trace).filterMap (answerOf app) = [] := by
    simp [List.filterMap_append, answers_identified caller, answerOf]
  constructor
  · exact fun _ => hidle
  · intro entry hl _
    rw [hload] at hl
    exact hidle.told entry (List.singleton_inj.mp hl)
  · intro entry hl _ _
    rw [hload] at hl
    exact hidle.upToDate entry (List.singleton_inj.mp hl)
  · intro loaded before hl _ hlast
    rw [hload] at hl
    obtain ⟨entry, hentry, hid, hbefore⟩ := hidle.settled _ before hlast
    exact ⟨entry, by rw [← List.singleton_inj.mp hl, hentry], hid, hbefore⟩
  · intro now hnow
    refine hp.past now ?_
    simpa using hnow
  · intro version hv
    rw [hans] at hv
    cases hv
  · intro now hnow
    simp at hnow

/-- The clock is read, to check the entry or to date the next one. -/
theorem Polling.now {interval : Time} (hp : Polling strict owner app t s)
    (hs : Sound interval strict s)
    (hdate : strict → ∀ version time, t.filterMap (answerOf app) = [.ok version] →
      s.log.findSome? (TrackerEvent.readTime (trackerKey app)) = some time → time = s.clock) :
    Polling strict owner app (t ++ [⟨.now, s.clock⟩]) s := by
  have hload : (t ++ [⟨.now, s.clock⟩] : Trace).filterMap loadOf = t.filterMap loadOf := by
    simp [List.filterMap_append, loadOf]
  have hans : (t ++ [⟨.now, s.clock⟩] : Trace).filterMap (answerOf app) =
      t.filterMap (answerOf app) := by
    simp [List.filterMap_append, answerOf]
  have hstore : (t ++ [⟨.now, s.clock⟩] : Trace).any isStore = t.any isStore := by
    simp [isStore]
  have hcaller : callerIn app (t ++ [⟨.now, s.clock⟩]) = callerIn app t := callerIn_snoc rfl t
  have hused : usedIn app (t ++ [⟨.now, s.clock⟩]) = usedIn app t := usedIn_snoc rfl t
  constructor
  · rw [hans, hstore]
    exact hp.idle
  · rw [hload, hcaller]
    exact hp.told
  · rw [hload, hcaller, hans]
    exact hp.upToDate
  · rw [hload, hcaller, hans]
    exact hp.covered
  · intro now hnow
    rcases List.mem_append.mp hnow with hnow | hnow
    · exact hp.past now hnow
    · cases List.mem_singleton.mp hnow
      exact le_refl _
  · rw [hcaller, hans, hused]
    exact hp.got
  · intro now hnow
    have hnow : now = s.clock := by simpa using hnow.symm
    subst hnow
    refine ⟨fun identity before hlast => ?_, fun version hv => ?_⟩
    · obtain ⟨used, result, hmem⟩ := lastRead_mem hlast
      exact hs.past _ _ _ _ _ hmem
    · rw [hans] at hv
      obtain ⟨-, -, -, used, time, hmem, htime⟩ := hp.got version hv
      rw [hcaller]
      exact ⟨_, used, time, hmem, hs.past _ _ _ _ _ hmem, fun hst => hdate hst version time hv htime⟩

/-- The bucket is read. -/
theorem Polling.object (hp : Polling strict owner app t s) (request : ObjectRequest)
    (res : Except Err StoredObject) (hans : t.filterMap (answerOf app) = [])
    (hstore : t.any isStore = false) (hused : strict → usedIn app t = callerIn app t) :
    Polling strict owner app (t ++ [⟨.getObject request, res⟩])
      (s.record (.read (trackerKey app) (callerIn app t) (usedIn app t) (answered app res)
        s.clock)) := by
  have hload : (t ++ [⟨.getObject request, res⟩] : Trace).filterMap loadOf =
      t.filterMap loadOf := by
    simp [List.filterMap_append, loadOf]
  have hans' : (t ++ [⟨.getObject request, res⟩] : Trace).filterMap (answerOf app) =
      [answered app res] := by
    simp [List.filterMap_append, answerOf, hans]
  have hcaller : callerIn app (t ++ [⟨.getObject request, res⟩]) = callerIn app t :=
    callerIn_snoc rfl t
  constructor
  · intro hq
    simp [hans', hstore, isStore] at hq
  · intro entry hl hid hok
    rw [hload] at hl
    rw [hcaller] at hid
    obtain ⟨hne, key, used, time, hmem, hdate⟩ := hp.told entry hl hid hok
    exact ⟨hne, key, used, time, List.mem_cons_of_mem _ hmem, hdate⟩
  · intro entry hl hid hnot hne
    rw [hload] at hl
    rw [hcaller] at hid
    rw [hans'] at hnot
    have hold := hp.upToDate entry hl hid (by simp [hans]) hne
    cases hres : answered app res with
    | ok version => exact absurd (by rw [hres]) (hnot version)
    | error e => simpa [newest, Tracker.record, List.findSome?_cons, TrackerEvent.success] using hold
  · intro loaded before _ hquiet
    rw [hans'] at hquiet
    cases hquiet
  · intro now hnow
    refine hp.past now ?_
    simpa using hnow
  · intro version hv
    rw [hans'] at hv
    have hv : answered app res = .ok version := List.singleton_inj.mp hv
    rw [hcaller, hv]
    refine ⟨answered_ne_empty hv, ?_, ?_, usedIn app t, s.clock, List.mem_cons_self .., ?_⟩
    · simp [newest, Tracker.record, TrackerEvent.success]
    · rw [usedIn_snoc rfl t]
      exact hused
    · simp [Tracker.record, TrackerEvent.readTime]
  · intro now hnow
    simp at hnow

/-- What storing does to the log. -/
theorem lastRead_store (s : Tracker) (interval : Time) (now : NamespacedName → Time)
    (victim key : NamespacedName) (entry : TrackedVersion) :
    lastRead key (s.store interval now victim key entry).log =
      (lastRead key s.log).filter (fun x => decide (x.1 = entry.identity)) := by
  have hin : key ∉ s.cache.dropped (s.store interval now victim key entry).cache := by
    intro hd
    have hnone := (TrackerCache.mem_dropped.mp hd).2
    rw [show (s.store interval now victim key entry).cache.lookup key = some entry from
      TrackerCache.lookup_put_self ..] at hnone
    cases hnone
  have hlog := lastRead_evicted key s.log
    (s.cache.dropped (s.store interval now victim key entry).cache)
  rw [if_neg hin] at hlog
  rw [← hlog]
  simp [Tracker.store, lastRead]

theorem newest_store (s : Tracker) (interval : Time) (now : NamespacedName → Time)
    (victim key : NamespacedName) (entry : TrackedVersion) (identity : TrackerIdentity) :
    newest (s.store interval now victim key entry).log identity = newest s.log identity :=
  (List.findSome?_cons ..).trans (findSome_evicted _ fun _ => rfl)

theorem mem_store (s : Tracker) (interval : Time) (now : NamespacedName → Time)
    (victim key : NamespacedName) (entry : TrackedVersion) {x : TrackerEvent} (h : x ∈ s.log) :
    x ∈ (s.store interval now victim key entry).log :=
  List.mem_cons_of_mem _ (List.mem_append_right _ h)

/-- The entry stored tells the truth, whatever came of the read. -/
theorem Polling.entry {identity : TrackerIdentity} {loaded : Option TrackedVersion}
    {result : Except Err String} {now : Time} (hp : Polling strict owner app t s)
    (hcaller : callerIn app t = identity) (hload : t.filterMap loadOf = [loaded])
    (hans : t.filterMap (answerOf app) = [result] ∨
      t.filterMap (answerOf app) = [] ∧ ∃ e, result = .error e)
    (hnow : t.getLast? = some ⟨.now, now⟩) :
    Told strict s.log ⟨refreshedVersion identity loaded result, now, identity, failureOf result⟩ ∧
    UpToDate s.log ⟨refreshedVersion identity loaded result, now, identity, failureOf result⟩ := by
  cases result with
  | ok version =>
    have hans : t.filterMap (answerOf app) = [.ok version] := by
      rcases hans with h | ⟨_, e, he⟩
      · exact h
      · cases he
    obtain ⟨hne, hnewest, -, -⟩ := hp.got version hans
    have hrec := (hp.dated now hnow).2 version hans
    rw [hcaller] at hnewest hrec
    exact ⟨fun _ => ⟨hne, hrec⟩, fun _ => hnewest⟩
  | error e =>
    have hnot : ∀ version, t.filterMap (answerOf app) ≠ [.ok version] := by
      intro version h
      rcases hans with h' | ⟨h', _⟩
      · rw [h'] at h
        cases h
      · rw [h'] at h
        cases h
    refine ⟨nofun, fun hne => ?_⟩
    -- a failed read inherits the version of the loaded entry
    obtain ⟨entry, rfl, hid, hversion⟩ := refreshedVersion_error hne
    have hold := hp.upToDate entry hload (hid.trans hcaller.symm) hnot
    show newest s.log identity = some (refreshedVersion identity (some entry) (.error e))
    rw [← hversion, ← hid]
    exact hold (hversion ▸ hne)

/-- The entry is stored. -/
theorem Polling.store {interval : Time} {identity : TrackerIdentity}
    {loaded : Option TrackedVersion} {now : Time}
    {times : NamespacedName → Time} {victim : NamespacedName}
    (hp : Polling strict owner app t s) (result : Except Err String)
    (hown : owner app.uid = trackerKey app)
    (hcaller : callerIn app t = identity) (hload : t.filterMap loadOf = [loaded])
    (hans : t.filterMap (answerOf app) = [result] ∨
      t.filterMap (answerOf app) = [] ∧ ∃ e, result = .error e)
    (hnow : t.getLast? = some ⟨.now, now⟩) (entry : TrackedVersion)
    (hentry : entry =
      ⟨refreshedVersion identity loaded result, now, identity, failureOf result⟩) :
    Polling strict owner app (t ++ [⟨.trackerStore interval (trackerKey app) entry, ()⟩])
      (s.store interval times victim (trackerKey app) entry) := by
  have hload' : (t ++ [⟨.trackerStore interval (trackerKey app) entry, ()⟩] :
      Trace).filterMap loadOf = t.filterMap loadOf := by
    simp [List.filterMap_append, loadOf]
  have hans' : (t ++ [⟨.trackerStore interval (trackerKey app) entry, ()⟩] :
      Trace).filterMap (answerOf app) = t.filterMap (answerOf app) := by
    simp [List.filterMap_append, answerOf]
  have hcaller' : callerIn app (t ++ [⟨.trackerStore interval (trackerKey app) entry, ()⟩]) =
      callerIn app t := callerIn_snoc rfl t
  have hid : entry.identity = identity := by rw [hentry]
  have htell := hp.entry hcaller hload hans hnow
  rw [← hentry] at htell
  have htold : ∀ {e : TrackedVersion}, Told strict s.log e →
      Told strict (s.store interval times victim (trackerKey app) entry).log e := by
    intro e h hok
    obtain ⟨hne, key, used, time, hmem, hdate⟩ := h hok
    exact ⟨hne, key, used, time, mem_store _ _ _ _ _ _ hmem, hdate⟩
  have hupToDate : ∀ {e : TrackedVersion}, UpToDate s.log e →
      UpToDate (s.store interval times victim (trackerKey app) entry).log e := by
    intro e h hne
    rw [newest_store]
    exact h hne
  constructor
  · -- the new entry is of this identity, and no read of it is later
    intro _
    have hlookup : (s.store interval times victim (trackerKey app) entry).cache.lookup
        (trackerKey app) = some entry := TrackerCache.lookup_put_self ..
    refine ⟨fun other before hlast => ?_, fun e he => ?_, fun e he => ?_, fun e he => ?_⟩
    · rw [lastRead_store] at hlast
      obtain ⟨hlast, hsame⟩ := Option.filter_eq_some_iff.mp hlast
      have hsame : other = entry.identity := of_decide_eq_true hsame
      refine ⟨entry, hlookup, hsame.symm, ?_⟩
      have hdate : entry.fetchedAt = now := by rw [hentry]
      rw [hdate]
      exact (hp.dated now hnow).1 other before hlast
    · cases hlookup.symm.trans he
      rw [hid, ← hcaller, callerIn_appUID, hown]
    · cases hlookup.symm.trans he
      exact htold htell.1
    · cases hlookup.symm.trans he
      exact hupToDate htell.2
  · rw [hload', hcaller']
    exact fun e hl he => htold (hp.told e hl he)
  · rw [hload', hcaller', hans']
    exact fun e hl he hne => hupToDate (hp.upToDate e hl he hne)
  · rw [hload', hcaller', hans']
    intro other before hl hquiet hlast
    rw [lastRead_store] at hlast
    exact hp.covered other before hl hquiet (Option.filter_eq_some_iff.mp hlast).1
  · intro time htime
    refine hp.past time ?_
    simpa using htime
  · rw [hans', hcaller', usedIn_snoc rfl t]
    intro version hv
    obtain ⟨hne, hnewest, hused, used, time, hmem, htime⟩ := hp.got version hv
    refine ⟨hne, by rw [newest_store, hnewest], hused, used, time, mem_store _ _ _ _ _ _ hmem, ?_⟩
    rw [← htime]
    exact (List.findSome?_cons ..).trans (findSome_evicted _ fun _ => rfl)
  · intro time htime
    simp at htime

/-- **When the bucket is read, it is time to.**  The loaded entry is past the interval or of
another identity, and no read of the key is later than its entry. -/
theorem Polling.due {identity : TrackerIdentity} {loaded : Option TrackedVersion} {u : Trace}
    (hp : Polling strict owner app t s) (hcaller : callerIn app t = identity)
    (hload : t.filterMap loadOf = [loaded]) (hans : t.filterMap (answerOf app) = [])
    (aged : Aged r identity loaded u) (hu : ∀ e ∈ u, e ∈ t) {before : Time}
    (hlast : lastRead (trackerKey app) s.log = some (callerIn app t, before)) :
    before + r.interval ≤ s.clock := by
  obtain ⟨entry, rfl, hid, hbefore⟩ := hp.covered loaded before hload hans hlast
  cases aged with
  | absent other => exact absurd (hid.trans hcaller) (other entry rfl)
  | expired _ now same old =>
    have hold : r.interval ≤ now - entry.fetchedAt := Int.not_lt.mp old
    calc before + r.interval ≤ entry.fetchedAt + (now - entry.fetchedAt) :=
          Int.add_le_add hbefore hold
      _ = now := by rw [add_sub_cancel]
      _ ≤ s.clock := hp.past now (hu _ (List.mem_singleton_self _))

/-- **One operation keeps the shared state sound.** -/
theorem Sound.serve {interval : Time} {k : NamespacedName} {j : TrackerCall} {o : Op}
    {res : Api.Resp o} (hs : Sound interval strict s) (h : TrackerServe k j t s o res s')
    (hdue : ∀ app request before, j = .poll app → o = .getObject request →
      lastRead k s.log = some (callerIn app t, before) → before + interval ≤ s.clock)
    (hexact : strict → ∀ app request, j = .poll app → o = .getObject request →
      usedIn app t = callerIn app t) : Sound interval strict s' := by
  cases h with
  | secret => exact hs
  | now => exact hs
  | load => exact hs
  | object request res app poll =>
    refine ⟨hs.size, hs.keyed, ⟨fun before hlast => ?_, hs.spaced⟩, ?_, ?_⟩
    · exact hdue app request before poll rfl hlast
    · intro key caller used result time hmem
      rcases List.mem_cons.mp hmem with heq | hmem
      · cases heq
        exact le_refl _
      · exact hs.past _ _ _ _ _ hmem
    · intro hst key caller used result time hmem
      rcases List.mem_cons.mp hmem with heq | hmem
      · cases heq
        exact hexact hst app request poll rfl
      · exact hs.exact hst _ _ _ _ _ hmem
  | store i key entry now victim iterated =>
    -- evictions and stores are no reads
    have hmem : ∀ {x : NamespacedName} {caller used result time},
        TrackerEvent.read x caller used result time ∈ (s.store i now victim key entry).log →
        TrackerEvent.read x caller used result time ∈ s.log := by
      intro x caller used result time hx
      simpa [Tracker.store] using hx
    refine ⟨?_, (hs.keyed.sublist (TrackerCache.evict_sublist ..)).put, ?_, ?_, ?_⟩
    · have hroom := TrackerCache.length_evict_lt hs.size iterated
      have hput := TrackerCache.length_put_le (s.cache.evict i now victim) key entry
      show ((s.cache.evict i now victim).put key entry).length ≤ 1024
      omega
    · exact spaced_evicted _ hs.spaced
    · exact fun _ _ _ _ _ hx => hs.past _ _ _ _ _ (hmem hx)
    · exact fun hst _ _ _ _ _ hx => hs.exact hst _ _ _ _ _ (hmem hx)
  | forget key =>
    refine ⟨?_, hs.keyed.sublist List.filter_sublist, hs.spaced, ?_, ?_⟩
    · exact (List.length_filter_le _ _).trans hs.size
    · intro _ _ _ _ _ hx
      exact hs.past _ _ _ _ _ (by simpa [Tracker.forget] using hx)
    · intro hst _ _ _ _ _ hx
      exact hs.exact hst _ _ _ _ _ (by simpa [Tracker.forget] using hx)

end calls

/-! ## §5. The outline. -/

/-- The assertion of a key, at rest or after the events of a call. -/
def TrackerAt (strict : Prop) (owner : String → NamespacedName) (k : NamespacedName) :
    Option (TrackerCall × Trace) → Tracker → Prop
  | none, s => Idle strict owner k s
  | some (.forget _, _), s => Idle strict owner k s
  | some (.poll app, t), s =>
    trackerKey app = k ∧ owner app.uid = k ∧ Polling strict owner app t s

section outline

variable {r : Reconciler} {strict : Prop} {owner : String → NamespacedName}
  {k : NamespacedName} {s s' : Tracker}

theorem TrackerAt.spared {p : Option (TrackerCall × Trace)} (h : TrackerAt strict owner k p s)
    (hs : Spares owner k s s') : TrackerAt strict owner k p s' := by
  match p, h with
  | none, h => exact Idle.spared h hs
  | some (.forget _, _), h => exact Idle.spared h hs
  | some (.poll app, t), ⟨hkey, hown, hp⟩ =>
    subst hkey
    exact ⟨rfl, hown, hp.spared hown hs⟩

theorem poll_valid (r : Reconciler) (app : WorkerApp) :
    Valid (AtPoint r app) [] (TrackerCall.program r (.poll app))
      (fun t x => ∃ read, x = some read ∧ PointerCall r app t read) := by
  show Valid _ _ (pointerVersion r app >>= fun read => pure (some read)) _
  rw [valid_bind]
  refine (pointerVersion_valid r app).post fun t read hcall => ?_
  exact valid_pure.mpr ⟨read, rfl, hcall⟩

theorem pointerPoint_of_steps {app : WorkerApp} {t : Trace} {o : Op}
    {f : Api.Resp o → P (Option PointerRead)} (res : Api.Resp o)
    (h : Steps (TrackerCall.program r (.poll app)) t (.call o f)) : PointerPoint r app t o := by
  have hpoint := valid_issued (poll_valid r app) h res
  rwa [List.nil_append] at hpoint

/-- The one operation of `Forget`. -/
theorem forget_of_steps {key : NamespacedName} {t : Trace} {o : Op}
    {f : Api.Resp o → P (Option PointerRead)}
    (h : Steps (TrackerCall.program r (.forget key)) t (.call o f)) :
    t = [] ∧ o = .trackerForget key := by
  cases h with
  | nil => exact ⟨rfl, rfl⟩
  | cons res h => cases h

/-- An operation is of the key of its call. -/
theorem ofKey_of_steps {j : TrackerCall} {t : Trace} {o : Op}
    {f : Api.Resp o → P (Option PointerRead)} (res : Api.Resp o) (hkey : j.key = k)
    (h : Steps (TrackerCall.program r j) t (.call o f)) : OfKey k o := by
  cases j with
  | poll app =>
    have hkey : trackerKey app = k := hkey
    cases pointerPoint_of_steps res h <;> first | exact hkey | trivial
  | forget key =>
    obtain ⟨-, rfl⟩ := forget_of_steps h
    exact hkey

/-- **One operation of a poll** leads to the assertion at the next point. -/
theorem Polling.step {app : WorkerApp} {t : Trace} {o : Op} {res : Api.Resp o}
    (hp : Polling strict owner app t s) (hs : Sound r.interval strict s)
    (hown : owner app.uid = trackerKey app) (hpoint : PointerPoint r app t o)
    (hsteady : strict → SteadyCall (trackerKey app) (.poll app) t s o)
    (h : TrackerServe (trackerKey app) (.poll app) t s o res s') :
    Sound r.interval strict s' ∧ Polling strict owner app (t ++ [⟨o, res⟩]) s' := by
  refine ⟨hs.serve h ?_ ?_, ?_⟩
  · rintro _ request before ⟨⟩ rfl hlast
    cases hpoint with
    | @request t u identity loaded caller aged secret ref =>
      refine hp.due (callerIn_identified caller _) ?_ ?_ aged ?_ hlast
      · exact loads_loaded caller aged _
      · exact answers_loaded caller aged _
      · exact fun e he => List.mem_append_right _ (List.mem_cons_of_mem _
          (List.mem_append_left _ he))
  · rintro hst _ request ⟨⟩ rfl
    exact (hsteady hst).1 request app rfl rfl
  · cases hpoint with
    | secret ref =>
      cases h
      exact hp.secret _ _ rfl (fun _ hne => absurd rfl hne)
    | load caller =>
      cases h
      exact hp.load caller
    | check caller entry same =>
      cases h
      refine hp.now hs fun _ version time hans => ?_
      rw [List.filterMap_append, answers_identified caller] at hans
      cases hans
    | @credentials t u identity loaded caller aged ref =>
      cases h
      refine hp.secret _ _ ?_ fun post _ => ?_
      · have hans := answers_loaded caller aged []
        rwa [List.append_nil] at hans
      · rw [List.append_assoc, callerIn_identified caller, callerIn_identified caller]
    | @request t u identity loaded caller aged secret ref =>
      cases h with
      | object request res app' poll =>
        cases poll
        refine hp.object _ _ ?_ ?_ fun hst => (hsteady hst).1 _ app rfl rfl
        · exact answers_loaded caller aged _
        · simp [stores_identified caller, stores_aged aged, isStore]
    | @stamp t u v identity loaded result caller aged read =>
      cases h
      refine hp.now hs fun hst version time hans htime => ?_
      rw [answers_loaded caller aged] at hans
      obtain ⟨request, res, hlast⟩ := getLast_bucketRead
        (t := t ++ ⟨.trackerLoad (trackerKey app), loaded⟩ :: u) read hans
      refine (hsteady hst).2 request res time rfl ?_ htime
      simpa using hlast
    | @store t u v identity loaded result caller aged read now =>
      cases h with
      | store _ _ _ times victim iterated =>
        refine hp.store result hown (callerIn_identified caller _) ?_ ?_ ?_ _ rfl
        · rw [loads_loaded caller aged, List.filterMap_append, loads_bucketRead read]
          rfl
        · rw [answers_loaded caller aged, List.filterMap_append]
          simpa [List.filterMap_cons, answerOf] using answers_bucketRead read
        · rw [← List.append_assoc u, ← List.cons_append, ← List.append_assoc,
            List.getLast?_concat]

/-- `Forget` leaves nothing to tell. -/
theorem idle_forget (s : Tracker) (k : NamespacedName) : Idle strict owner k (s.forget k) := by
  have hnone : (s.forget k).cache.lookup k = none := TrackerCache.lookup_forget_self ..
  refine ⟨fun _ _ hlast => ?_, fun _ he => ?_, fun _ he => ?_, fun _ he => ?_⟩
  · simp [Tracker.forget, lastRead] at hlast
  all_goals
    rw [hnone] at he
    cases he

/-- **The outline of the tracker.** -/
theorem tracker_outline {C : CallCondition}
    (hC : strict → ∀ k j t s o, C k j t s o → SteadyCall k j t s o) :
    (trackerPool r owner C).Outline (Sound r.interval strict) (TrackerAt strict owner) where
  others := by
    rintro s _ hs ⟨time, htime, rfl⟩
    have hspares : ∀ k, Spares owner k s { s with clock := time } := fun k =>
      ⟨.inl ⟨rfl, rfl⟩, fun _ _ => rfl, rfl, fun _ hx => hx, htime⟩
    refine ⟨⟨hs.size, hs.keyed, hs.spaced, ?_, hs.exact⟩, fun k p h => h.spared (hspares k)⟩
    exact fun _ _ _ _ _ hmem => (hs.past _ _ _ _ _ hmem).trans htime
  start := by
    intro s k j hs ha hidle
    cases j with
    | poll app =>
      have hkey : trackerKey app = k := ha.1
      subst hkey
      exact ⟨rfl, ha.2 app rfl, .begin hidle⟩
    | forget key => exact hidle
  call := by
    intro s s' k j t o f res hs ha hsteps hat h
    cases j with
    | poll app =>
      obtain ⟨rfl, hown, hp⟩ := hat
      obtain ⟨hsound, hnext⟩ := hp.step hs hown (pointerPoint_of_steps res hsteps)
        (fun hst => hC hst _ _ _ _ _ h.1) h.2
      exact ⟨hsound, rfl, hown, hnext⟩
    | forget key =>
      obtain ⟨rfl, rfl⟩ := forget_of_steps (r := r) hsteps
      have hkey : key = k := ha.1
      subst hkey
      refine ⟨hs.serve h.2 (fun app _ _ hj => by cases hj) (fun _ app _ hj => by cases hj), ?_⟩
      cases h.2
      exact idle_forget s key
  spares := by
    intro s s' k j t o f res hs ha hsteps h k' p hne hat
    have hkey : OfKey k o := ofKey_of_steps res ha.1 hsteps
    exact hat.spared (h.2.spares hs.keyed hkey ha.2 hne)
  finish := by
    intro s k j t a hs ha hruns hat
    cases j with
    | forget key => exact hat
    | poll app =>
      obtain ⟨rfl, hown, hp⟩ := hat
      obtain ⟨read, -, hcall⟩ := valid_runs (poll_valid r app) hruns
      rw [List.nil_append] at hcall
      refine hp.idle ?_
      cases hcall with
      | unreadable e ref => exact .inl rfl
      | served caller entry now same young =>
        refine .inl ?_
        simp [List.filterMap_append, answers_identified caller, answerOf]
      | refreshed caller aged bucket now =>
        refine .inr ?_
        simp [isStore]

end outline

end CelldOperator
