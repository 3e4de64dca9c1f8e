/-
  CelldOperator.Children.Ownership

  **WHOSE CHILDREN A PASS TOUCHES.**

  Five helpers write the child objects of a WorkerApp, each from a read of its own.
  `DecidedOn` lists what they send for the object they read; every update and every
  deletion of a pass is one of these, behind the helper's test of ownership (`ChildEvent`).
  `ensureObject` reads into a copy that carries the WorkerApp as its owner, and an
  HTTPRoute is decoded over that copy: the test also passes on a route that does not say
  whose it is (`Unclaimed`).

    • `reconcileApp_child` — the writes of a whole pass,
    • `DecidedOn.live` — what is sent names the resource version of the object read, and
      takes effect only while that very version is live,
    • `children_owned` — unless the pass finds an unclaimed HTTPRoute, whatever it changes,
      amid any other writers, was missing before or is the version of an owned object
      that the pass had read,
    • `foreign_route_overwritten` — an unclaimed HTTPRoute of somebody else.
-/
import CelldOperator.Pass.Known
import CelldOperator.Pass.Scaler

namespace CelldOperator

open Effect Prog

/-! ## §1. What is sent for a copy. -/

/-- The pass was handed the object, from the cache or from the API server. -/
def ReadIn (h : Trace) {k : Kind} (n : String) (v : Obj k) : Prop :=
  Saw h (.get k n) (.ok v) ∨ Saw h (.getLive k n) (.ok v)

/-- A mutation of a copy leaves its identity alone. -/
def KeepsIdentity {k : Kind} (mutate : Obj k → Obj k → Obj k) : Prop :=
  ∀ live desired, (mutate live desired).metadata.name = live.metadata.name ∧
    (mutate live desired).rv = live.rv

/-- **The writes of the helpers**, by the object they were decided on. -/
inductive DecidedOn (r : Reconciler) (app : WorkerApp) (h : Trace) (n : String) :
    (k : Kind) → Obj k → Op → Prop where
  | mutation {k : Kind} (found desired : Obj k) (mutate : Obj k → Obj k → Obj k)
      (keeps : KeepsIdentity mutate) :
      DecidedOn r app h n k found (.update k
        (mutated mutate (receive (prepare r app desired) found) (prepare r app desired)))
  | overlay {k : Kind} (live desired : Obj k) :
      DecidedOn r app h n k live (.update k (overlaid live (setControllerReference app desired)))
  | deletion {k : Kind} (live : Obj k) :
      DecidedOn r app h n k live
        (.delete k n live.metadata.uid live.metadata.resourceVersion)
  | fleet (existing desired o : StatefulSet) (pre t : Trace) (past : h = pre ++ t)
      (write : FleetWrite r app existing desired t o) :
      DecidedOn r app h n .statefulSet existing (.update .statefulSet o)

/-- The kind of the object an operation updates or deletes. -/
def Op.modifies : Op → Option Kind
  | .update k _ | .delete k _ _ _ => some k
  | _ => none

/-- The references name no owner, or name this one first without saying whether it is the
controller. -/
def Unclaimed (uid : String) (refs : List OwnerReference) : Prop :=
  refs = [] ∨ ∃ rest, refs = ⟨uid, none⟩ :: rest

/-- What the test of ownership lets pass: an object the WorkerApp controls, or an unclaimed
HTTPRoute under the name of the fleet, which was read by `ensureObject`. -/
def Passes (app : WorkerApp) (h : Trace) (n : String) {k : Kind} (v : Obj k) : Prop :=
  isControlledBy v.metadata.ownerReferences app.uid = true ∨
    (k = .httpRoute ∧ n = fleetName app ∧ Unclaimed app.uid v.metadata.ownerReferences ∧
      Saw h (.get k n) (.ok v))

/-- The operation was decided on an object the pass had read, and whose owner it had tested. -/
def OwnedWrite (r : Reconciler) (app : WorkerApp) (h : Trace) (o : Op) : Prop :=
  ∃ k n, ∃ v : Obj k, ReadIn h n v ∧ Passes app h n v ∧ DecidedOn r app h n k v o

/-- The updates and deletions of a pass. -/
def ChildEvent (r : Reconciler) (app : WorkerApp) (h : Trace) (e : Event Api) : Prop :=
  e.op.modifies ≠ none → OwnedWrite r app h e.op

/-- The same but for the StatefulSet, whose writes have an inversion of their own. -/
def SideEvent (r : Reconciler) (app : WorkerApp) (h : Trace) (e : Event Api) : Prop :=
  e.op.modifies ≠ some .statefulSet → ChildEvent r app h e

theorem ownership_ok {k : Kind} {app : WorkerApp} {v : Obj k} (h : requireOwnership app v = .ok ()) :
    isControlledBy v.metadata.ownerReferences app.uid = true := by
  unfold requireOwnership at h
  split at h
  · next howned => exact howned
  · cases h

/-- The test behind a read into a copy of what is desired. -/
theorem ownership_receive {k : Kind} {r : Reconciler} {app : WorkerApp} {desired v : Obj k}
    (h : requireOwnership app (receive (prepare r app desired) v) = .ok ()) :
    isControlledBy v.metadata.ownerReferences app.uid = true ∨
      (k = .httpRoute ∧ Unclaimed app.uid v.metadata.ownerReferences) := by
  have hcontrolled := ownership_ok h
  by_cases hk : k = .httpRoute
  · subst hk
    rcases (controlled_receive_iff app.uid v.metadata.ownerReferences).mp hcontrolled with
      hnone | huntold | ⟨-, howned⟩
    · exact .inr ⟨rfl, .inl hnone⟩
    · exact .inr ⟨rfl, .inr huntold⟩
    · exact .inl howned
  · rw [receive_of_ne hk] at hcontrolled
    exact .inl hcontrolled

/-! ## §2. The helpers. -/

section helpers

variable {α : Type} {r : Reconciler} {app : WorkerApp} {h : Trace} {k : Kind}

theorem childEvent_of_reads {e : Event Api} (he : e.op.modifies = none) : ChildEvent r app h e :=
  fun hne => absurd he hne

/-- Step over a function that writes nothing, and keep how it ran. -/
theorem ReadsOnly.childRuns {p : P α} (hp : ReadsOnly p) :
    Valid (ChildEvent r app) h p (fun h' a => ∃ t, h' = h ++ t ∧ Runs p t a) := by
  refine (Only.valid hp fun h e he => childEvent_of_reads ?_).post fun _ _ ⟨t, heq, hr, _⟩ =>
    ⟨t, heq, hr⟩
  cases hop : e.op with
  | update k o => exact (he.1 k (by rw [hop]; rfl)).elim
  | delete k n uid rv => exact (he.1 k (by rw [hop]; rfl)).elim
  | _ => rfl

theorem ReadsOnly.child {p : P α} (hp : ReadsOnly p) :
    Valid (ChildEvent r app) h p (fun _ _ => True) :=
  hp.childRuns.post fun _ _ _ => trivial

/-- Ask for something that is not changed by it. -/
theorem ask_child {o : Op} (ho : o.modifies = none) :
    Valid (ChildEvent r app) h (ask o) (fun h' res => h' = h ++ [⟨o, res⟩]) :=
  valid_ask fun _ => ⟨childEvent_of_reads ho, rfl⟩

theorem bind_child {β : Type} {I : Trace → Event Api → Prop} {p : P α} {f : α → P β}
    (hp : Valid I h p (fun _ _ => True)) (hf : ∀ h a, Valid I h (f a) (fun _ _ => True)) :
    Valid I h (p >>= f) (fun _ _ => True) := by
  rw [valid_bind]
  exact hp.post fun h a _ => hf h a

theorem check_child {β : Type} {I : Trace → Event Api → Prop} {p : P (Except Err α)}
    {f : α → P (Except Err β)} (hp : Valid I h p (fun _ _ => True))
    (hf : ∀ h a, Valid I h (f a) (fun _ _ => True)) :
    Valid I h (check p f) (fun _ _ => True) := by
  refine valid_check (hp.post fun h res _ => ?_)
  cases res with
  | error e => trivial
  | ok a => exact hf h a

theorem ensureObject_child (desired : Obj k) {mutate : Obj k → Obj k → Obj k}
    (hname : k = .httpRoute → desired.metadata.name = fleetName app)
    (hkeeps : KeepsIdentity mutate) :
    Valid (ChildEvent r app) h (ensureObject r app desired mutate) (fun _ _ => True) := by
  unfold ensureObject
  dsimp only
  rw [valid_bind]
  refine (ask_child rfl).post ?_
  rintro _ res rfl
  cases res with
  | error e =>
    dsimp only
    split
    · exact check_child ((ask_child rfl).post fun _ _ _ => trivial) fun _ _ => valid_exit trivial
    · exact valid_exit trivial
  | ok found =>
    dsimp only
    split
    · exact valid_exit trivial
    · next howned =>
      split
      · exact valid_exit trivial
      · -- the object was read by the call before
        refine check_child (valid_ask fun _ => ⟨fun _ => ?_, trivial⟩) fun _ _ =>
          valid_exit trivial
        have hread : Saw (h ++ [⟨.get k (prepare r app desired).metadata.name, .ok found⟩])
            (.get k (prepare r app desired).metadata.name) (.ok found) :=
          List.mem_append_right _ (List.mem_singleton_self _)
        refine ⟨k, _, found, .inl hread, ?_, .mutation found desired mutate hkeeps⟩
        refine (ownership_receive howned).imp_right fun ⟨hk, hunclaimed⟩ => ?_
        exact ⟨hk, (prepare_name r app desired).trans (hname hk), hunclaimed, hread⟩

theorem ensureUnstructured_child (desired : Obj k) :
    Valid (ChildEvent r app) h (ensureUnstructured app desired) (fun _ _ => True) := by
  unfold ensureUnstructured
  dsimp only
  rw [valid_bind]
  refine (ask_child rfl).post ?_
  rintro _ res rfl
  cases res with
  | error e =>
    dsimp only
    split
    · exact check_child ((ask_child rfl).post fun _ _ _ => trivial) fun _ _ => valid_exit trivial
    · exact valid_exit trivial
  | ok live =>
    dsimp only
    split
    · exact valid_exit trivial
    · next howned =>
      split
      · exact valid_exit trivial
      · refine check_child (valid_ask fun _ => ⟨fun _ => ?_, trivial⟩) fun _ _ =>
          valid_exit trivial
        exact ⟨k, _, live, .inl (List.mem_append_right _ (List.mem_singleton_self _)),
          .inl (ownership_ok howned), .overlay live desired⟩

theorem removeRoutes_child (mode : Option Kind) (kinds : List Kind) :
    Valid (ChildEvent r app) h (removeRoutes app mode kinds) (fun _ _ => True) := by
  induction kinds generalizing h with
  | nil => exact valid_exit trivial
  | cons kind kinds ih =>
    unfold removeRoutes
    split
    · exact ih
    · rw [valid_bind]
      refine (ask_child rfl).post ?_
      rintro _ res rfl
      cases res with
      | error e =>
        dsimp only
        split
        · exact ih
        · exact valid_exit trivial
      | ok o =>
        dsimp only
        split
        · exact ih
        · next howned =>
          rw [valid_bind]
          refine valid_ask fun res => ⟨fun _ => ?_, ?_⟩
          · exact ⟨kind, _, o, .inr (List.mem_append_right _ (List.mem_singleton_self _)),
              .inl (by simpa using howned), .deletion o⟩
          · cases res with
            | ok _ => exact ih
            | error e =>
              dsimp only
              split
              · exact ih
              · exact valid_exit trivial

theorem removeObsoleteRoutes_child :
    Valid (ChildEvent r app) h (removeObsoleteRoutes r app) (fun _ _ => True) := by
  unfold removeObsoleteRoutes
  rw [valid_bind]
  exact (ask_child rfl).post fun _ _ _ => removeRoutes_child _ _

theorem removeScaledObject_child :
    Valid (ChildEvent r app) h (removeScaledObject app) (fun _ _ => True) := by
  unfold removeScaledObject
  rw [valid_bind]
  refine (ask_child rfl).post ?_
  rintro _ res rfl
  cases res with
  | error e =>
    dsimp only
    split <;> exact valid_exit trivial
  | ok o =>
    dsimp only
    split
    · exact valid_exit trivial
    · next howned =>
      rw [valid_bind]
      refine valid_ask fun res => ⟨fun _ => ?_, ?_⟩
      · exact ⟨.scaledObject, _, o,
          .inl (List.mem_append_right _ (List.mem_singleton_self _)),
          .inl (ownership_ok howned), .deletion o⟩
      · cases res with
        | ok _ => exact valid_exit trivial
        | error e =>
          dsimp only
          split <;> exact valid_exit trivial

theorem ensureScaledObject_child (phase : Phase) :
    Valid (ChildEvent r app) h (ensureScaledObject r app phase) (fun _ _ => True) := by
  unfold ensureScaledObject
  split
  · exact removeScaledObject_child
  · dsimp only
    refine bind_child (ensureUnstructured_child _) fun _ res => ?_
    cases res <;> exact valid_exit trivial

/-! ## §3. A whole pass. -/

theorem headed_child {I : Trace → Event Api → Prop} {heading : String} {p : P (Except Err α)}
    (hp : Valid I h p (fun _ _ => True)) : Valid I h (headed heading p) (fun _ _ => True) := by
  unfold headed
  refine bind_child hp fun _ res => ?_
  cases res <;> exact valid_exit trivial

theorem ensureFoundation_child :
    Valid (ChildEvent r app) h (ensureFoundation r app) (fun _ _ => True) := by
  unfold ensureFoundation
  refine check_child (headed_child (ensureObject_child _ nofun fun _ _ => ⟨rfl, rfl⟩)) fun _ _ => ?_
  refine check_child (headed_child (ensureObject_child _ nofun fun _ _ => ⟨rfl, rfl⟩)) fun _ _ => ?_
  refine check_child (headed_child (ensureObject_child _ nofun fun _ _ => ⟨rfl, rfl⟩)) fun _ _ => ?_
  refine check_child (headed_child (ensureObject_child _ nofun fun _ _ => ⟨rfl, rfl⟩)) fun _ _ => ?_
  refine check_child (headed_child (ensureObject_child _ nofun fun _ _ => ⟨rfl, rfl⟩)) fun _ _ => ?_
  exact valid_exit trivial

theorem ensureIngress_child :
    Valid (ChildEvent r app) h (ensureIngress r app) (fun _ _ => True) := by
  have hroute : ∀ h, Valid (ChildEvent r app) h (ensureHTTPRoute r app) (fun _ _ => True) := by
    intro h
    unfold ensureHTTPRoute
    rw [valid_bind]
    refine (configureHTTPRouteRetries_reads _ _).childRuns.post ?_
    rintro _ configured ⟨t, -, hconfigured⟩
    refine bind_child (ensureObject_child _ (fun _ => (configureHTTPRouteRetries_runs hconfigured).1)
      fun _ _ => ⟨rfl, rfl⟩) fun _ res => ?_
    cases res with
    | error e => exact valid_exit trivial
    | ok route =>
      refine bind_child (httpRouteRetryDropped_reads route).child fun _ dropped => ?_
      split
      · exact valid_exit trivial
      · exact bind_child (httpRouteReady_reads _ _ _).child fun _ _ => valid_exit trivial
  unfold ensureIngress
  refine bind_child removeObsoleteRoutes_child fun h res => ?_
  cases res with
  | error e => exact valid_exit trivial
  | ok _ =>
    dsimp only
    split
    · exact valid_exit trivial
    · split
      · exact valid_exit trivial
      · unfold ensureVirtualService
        refine bind_child (ensureUnstructured_child _) fun _ res => ?_
        cases res <;> exact valid_exit trivial
      · unfold ensureV1Ingress
        refine bind_child (ensureObject_child _ nofun fun _ _ => ⟨rfl, rfl⟩) fun _ res => ?_
        cases res <;> exact valid_exit trivial
      · exact hroute h
      · exact hroute h

theorem ensureAuthorizationPolicy_child :
    Valid (ChildEvent r app) h (ensureAuthorizationPolicy r app) (fun _ _ => True) := by
  unfold ensureAuthorizationPolicy
  refine bind_child (ensureUnstructured_child _) fun _ res => ?_
  cases res <;> exact valid_exit trivial

theorem updateStatus_child (outcome : FleetOutcome) (appVersion : String)
    (conditions : List Condition) :
    Valid (ChildEvent r app) h (updateStatus app outcome appVersion conditions)
      (fun _ _ => True) := by
  refine (Only.valid (updateStatus_writes app conditions outcome appVersion) fun h e he =>
    childEvent_of_reads ?_).post fun _ _ _ => trivial
  cases hop : e.op with
  | update k o => simp [hop, Op.writes] at he
  | delete k n uid rv => simp [hop, Op.writes] at he
  | _ => rfl

theorem finishPass_child (resolved : ResolvedVersion) (conditions : List Condition)
    (outcome : FleetOutcome) :
    Valid (ChildEvent r app) h (finishPass r app resolved conditions outcome)
      (fun _ _ => True) := by
  unfold finishPass
  dsimp only
  refine bind_child ensureIngress_child fun _ _ => ?_
  refine bind_child ensureAuthorizationPolicy_child fun _ _ => ?_
  refine bind_child (ensureScaledObject_child _) fun _ _ => ?_
  refine bind_child (updateStatus_child _ _ _) fun _ res => ?_
  cases res with
  | ok _ => exact valid_exit trivial
  | error e =>
    dsimp only
    split <;> exact valid_exit trivial

theorem pauseScaling_child :
    Valid (ChildEvent r app) h (pauseScaling r app) (fun _ _ => True) := by
  have hrequest : ∀ h, Valid (ChildEvent r app) h (requestPause r app) (fun _ _ => True) :=
    fun h => check_child (ensureUnstructured_child _) fun _ _ => valid_exit trivial
  unfold pauseScaling
  refine bind_child ((ask_child rfl).post fun _ _ _ => trivial) fun h read => ?_
  split
  · cases read with
    | ok o =>
      refine bind_child (ensureScaledObject_child _) fun _ res => ?_
      dsimp only
      split <;> exact valid_exit trivial
    | error e =>
      dsimp only
      split
      · exact (noFleetHPA_reads app).child
      · exact valid_exit trivial
  · cases read with
    | error e =>
      dsimp only
      split
      · exact (noFleetHPA_reads app).child
      · split
        · exact hrequest h
        · exact valid_exit trivial
    | ok o =>
      dsimp only
      split
      · exact hrequest h
      · split
        · exact valid_exit trivial
        · split
          · exact (noFleetHPA_reads app).child
          · exact valid_exit trivial

/-- Step over a function that modifies no other kind than the StatefulSet. -/
theorem Confined.side {p : P α} (hp : Confined (· = .statefulSet) p) :
    Valid (SideEvent r app) h p (fun _ _ => True) := by
  refine (Only.valid hp fun h e he hne => childEvent_of_reads ?_).post fun _ _ _ => trivial
  cases hop : e.op with
  | update k o =>
    have hk : k = .statefulSet := he.1 k (by rw [hop]; rfl)
    subst hk
    exact absurd (by rw [hop]; rfl) hne
  | delete k n uid rv =>
    have hk : k = .statefulSet := he.1 k (by rw [hop]; rfl)
    subst hk
    exact absurd (by rw [hop]; rfl) hne
  | _ => rfl

theorem reconcileFleet_side (appVersion : String) :
    Valid (SideEvent r app) h (reconcileFleet r app appVersion) (fun _ _ => True) := by
  have hside : ∀ {β : Type} {h : Trace} {p : P β}, Valid (ChildEvent r app) h p (fun _ _ => True) →
      Valid (SideEvent r app) h p (fun _ _ => True) :=
    fun hv => hv.mono (fun _ _ he _ => he) fun _ _ hq => hq
  unfold reconcileFleet
  refine check_child (hside (configHash_reads r app).child) fun _ hash => ?_
  dsimp only
  refine bind_child (hside ((ask_child rfl).post fun _ _ _ => trivial)) fun _ read => ?_
  cases read with
  | error e =>
    dsimp only
    split
    · exact check_child (hside ((ask_child rfl).post fun _ _ _ => trivial)) fun _ _ =>
        valid_exit trivial
    · exact valid_exit trivial
  | ok existing =>
    have hdrive := driveFleet_confined r app existing (desiredFleet r app hash appVersion)
      appVersion
    dsimp only
    unfold reconcileExisting
    split
    · exact valid_exit trivial
    · split
      · refine check_child (hside pauseScaling_child) fun _ paused => ?_
        split
        · exact hdrive.side
        · exact valid_exit trivial
      · exact hdrive.side

/-- The fleet step: its StatefulSet writes are those of the state machine. -/
theorem reconcileFleet_child (appVersion : String) :
    Valid (ChildEvent r app) h (reconcileFleet r app appVersion) (fun _ _ => True) := by
  have hfleet := (reconcileFleet_valid r app appVersion).shift h
  rw [List.append_nil] at hfleet
  refine (hfleet.and (reconcileFleet_side appVersion)).mono ?_ fun _ _ _ => trivial
  rintro h' ⟨op, res⟩ ⟨⟨t, rfl, hevent⟩, hside⟩
  by_cases hop : op.modifies = some .statefulSet
  · intro _
    cases op with
    | update k o =>
      cases hop
      obtain ⟨hash, existing, hg, hw, -⟩ := hevent
      exact ⟨_, _, existing, .inr (List.mem_append_right _ hg.read),
        .inl (ownership_ok hg.owned), .fleet existing _ o h t rfl hw⟩
    | delete k n uid rv =>
      cases hop
      exact hevent.elim
    | _ => cases hop
  · exact hside hop

/-- **A whole pass.** -/
theorem reconcileApp_child (app : WorkerApp) (key : NamespacedName) :
    Valid (ChildEvent r app) h (reconcileApp r key app) (fun _ _ => True) := by
  unfold reconcileApp
  split
  · exact bind_child ((ask_child rfl).post fun _ _ _ => trivial) fun _ _ => valid_exit trivial
  · split
    · unfold rejectSpec
      dsimp only
      split
      · exact valid_exit trivial
      · exact check_child ((ask_child rfl).post fun _ _ _ => trivial) fun _ _ =>
          valid_exit trivial
    · unfold reconcileValid
      refine check_child ensureFoundation_child fun _ foundation => ?_
      refine bind_child (resolveAppVersion_reads r app).child fun _ resolved => ?_
      exact check_child (reconcileFleet_child _) fun _ outcome => finishPass_child _ _ _

end helpers

/-- The same with the read of the WorkerApp in front. -/
def PassEvent (r : Reconciler) (key : NamespacedName) (h : Trace) (e : Event Api) : Prop :=
  e.op.writes ≠ none → ∃ app t, h = ⟨.getApp key, .ok app⟩ :: t ∧ ChildEvent r app h e

theorem OwnedWrite.cons {r : Reconciler} {app : WorkerApp} {h : Trace} {o : Op} {e : Event Api}
    (hw : OwnedWrite r app h o) : OwnedWrite r app (e :: h) o := by
  obtain ⟨k, n, v, hread, hpasses, hd⟩ := hw
  refine ⟨k, n, v, ?_, ?_, ?_⟩
  · exact hread.imp (List.mem_cons_of_mem _) (List.mem_cons_of_mem _)
  · exact hpasses.imp_right fun ⟨hk, hn, hunclaimed, hsaw⟩ =>
      ⟨hk, hn, hunclaimed, List.mem_cons_of_mem _ hsaw⟩
  · cases hd with
    | mutation _ desired mutate keeps => exact .mutation v desired mutate keeps
    | overlay _ desired => exact .overlay v desired
    | deletion _ => exact .deletion v
    | fleet existing desired o pre t past write =>
      exact .fleet existing desired o (e :: pre) t (by rw [past]; rfl) write

theorem reconcile_child (r : Reconciler) (key : NamespacedName) :
    Valid (PassEvent r key) [] (reconcile r key) (fun _ _ => True) := by
  unfold reconcile
  rw [valid_bind]
  refine valid_ask fun read => ⟨fun hw => absurd rfl hw, ?_⟩
  cases read with
  | error e =>
    dsimp only
    split
    · exact bind_child (valid_ask fun _ => ⟨fun hw => absurd rfl hw, trivial⟩) fun _ _ =>
        valid_exit trivial
    · exact valid_exit trivial
  | ok app =>
    have hv := (reconcileApp_child (r := r) (h := []) app key).shift [⟨.getApp key, .ok app⟩]
    refine hv.mono ?_ fun _ _ _ => trivial
    rintro _ e ⟨t, rfl, he⟩ -
    exact ⟨app, t, rfl, fun hm => (he hm).cons⟩

/-! ## §4. What takes effect. -/

section effect

variable {r : Reconciler} {app : WorkerApp} {h : Trace} {c c' : Cluster} {k : Kind} {n : String}
  {v : Obj k} {o : Op} {res : Resp o}

/-- **Exact writes.**  What was decided on a copy changes nothing, or changes just the object of
the copy, of which that copy is the live version. -/
theorem DecidedOn.live (hk : Knows h c) (hmem : v ∈ c.past k n)
    (hd : DecidedOn r app h n k v o) (hs : Serve c o res c') {k' : Kind} {n' : String}
    (hne : c'.live k' n' ≠ c.live k' n') : k' = k ∧ n' = n ∧ c.live k n = some v := by
  -- an update that carries the identity of the copy
  have hupdate : ∀ {k : Kind} (v sent : Obj k) {res : Resp (.update k sent)},
      v ∈ c.past k n → sent.metadata.name = v.metadata.name → sent.rv = v.rv →
      Serve c (.update k sent) res c' → k' = k ∧ n' = n ∧ c.live k n = some v := by
    intro k v sent res hmem hname hrv hs
    cases res with
    | error e => exact absurd (by rw [show c' = c from hs]) hne
    | ok stored =>
      obtain ⟨cur, hlive, hcur, hacc, hp, rfl⟩ := hs
      have hn : sent.metadata.name = n := hname.trans (Cluster.name_of_mem_past hmem)
      rw [hn] at hlive
      have heq : v = cur := Cluster.eq_of_rv hmem hlive (hrv.symm.trans hcur.symm)
      have hstored : stored.metadata.name = n := by
        rw [hacc.metadata]
        exact hn
      by_cases hother : k' ≠ k ∨ n' ≠ n
      · rw [← hstored] at hother
        exact absurd (c.put_live_of_ne stored hp hother) hne
      · push Not at hother
        exact ⟨hother.1, hother.2, heq ▸ hlive⟩
  cases hd with
  | mutation _ desired mutate keeps =>
    have hkeeps := keeps (receive (prepare r app desired) v) (prepare r app desired)
    have hid := receive_identity (prepare r app desired) v
    exact hupdate v (mutated mutate (receive (prepare r app desired) v) (prepare r app desired))
      hmem (hkeeps.1.trans hid.1) (hkeeps.2.trans hid.2.2) hs
  | overlay _ desired =>
    exact hupdate v (overlaid v (setControllerReference app desired)) hmem rfl rfl hs
  | fleet existing desired o pre t past write =>
    have hknows : Knows t c := by
      subst past
      exact ⟨fun k n v hs => hk.read k n v (List.mem_append_right _ hs),
        fun k n v hs => hk.cached k n v (List.mem_append_right _ hs),
        fun k o v hs => hk.stored k o v (List.mem_append_right _ hs)⟩
    have hid := write.identity hknows hmem
    exact hupdate _ _ hmem hid.1 hid.2 hs
  | deletion _ =>
    cases res with
    | error e => exact absurd (by rw [show c' = c from hs]) hne
    | ok u =>
      obtain ⟨cur, hlive, huid, hrv, hdeleted⟩ := hs
      have heq : v = cur := Cluster.eq_of_rv hmem hlive hrv.symm
      have hnamed : cur.metadata.name = n := Cluster.name_of_live hlive
      by_cases hother : k' ≠ k ∨ n' ≠ n
      · exact absurd (hdeleted.live_of_ne (hnamed.symm ▸ hother)) hne
      · push Not at hother
        exact ⟨hother.1, hother.2, heq ▸ hlive⟩

/-- How a pass changes an object: it was missing and is created, or the live version is the very
object, controlled by the WorkerApp, on which the pass decided. -/
inductive Changes (r : Reconciler) (app : WorkerApp) (h : Trace) (c : Cluster) (o : Op) (k : Kind)
    (n : String) : Prop where
  | creates (sent : Obj k) (op : o = .create k sent) (absent : c.live k n = none)
  | modifies (v : Obj k) (live : c.live k n = some v)
      (owner : isControlledBy v.metadata.ownerReferences app.uid = true) (read : ReadIn h n v)
      (decided : DecidedOn r app h n k v o)

/-- **No unclaimed route was found**: an HTTPRoute that a read of the pass has handed out under the
name of the fleet, and that does not say whose it is, is controlled by the WorkerApp all the
same. -/
def RoutesClaimed (key : NamespacedName) (h : Trace) : Prop :=
  ∀ app v, Saw h (.getApp key) (.ok app) → Saw h (.get .httpRoute (fleetName app)) (.ok v) →
    Unclaimed app.uid v.metadata.ownerReferences →
    isControlledBy v.metadata.ownerReferences app.uid = true

/-- The test of ownership means ownership then. -/
theorem Passes.owner {key : NamespacedName} (hp : Passes app h n v) (hclaimed : RoutesClaimed key h)
    (happ : Saw h (.getApp key) (.ok app)) :
    isControlledBy v.metadata.ownerReferences app.uid = true := by
  rcases hp with howner | ⟨rfl, rfl, hunclaimed, hsaw⟩
  · exact howner
  · exact hclaimed app v happ hsaw hunclaimed

end effect

/-- The server of a namespace with this WorkerApp. -/
def answerFor (app : WorkerApp) (c : Cluster) : (o : Op) → Resp o × Cluster
  | .getApp _ => (.ok app, c)
  | o => answer {} c o

theorem serve_answerFor (app : WorkerApp) (c : Cluster) (o : Op) :
    Serve c o (answerFor app c o).1 (answerFor app c o).2 := by
  unfold answerFor
  split
  · rfl
  · exact serve_answer {} c _

/-- A pass over this WorkerApp. -/
def appPass (app : WorkerApp) (c : Cluster) : List (Event Api) × Cluster × Except Err Result :=
  runWith (answerFor app) (reconcile sampleReconciler ⟨"prod", "shop"⟩) c

/-- The routed WorkerApp with a later image. -/
def routedUpgrade : WorkerApp :=
  { routedApp with spec := { routedApp.spec with
      celld := { routedApp.spec.celld with image := "ghcr.io/denoland/celld:v0.5.2" } } }

/-- If the event hands out a route, it says that this is its controller. -/
def claimedRead (uid : String) : Event Api → Bool
  | ⟨.get .httpRoute _, .ok v⟩ => isControlledBy v.metadata.ownerReferences uid
  | _ => true

/-- If the event hands out the WorkerApp, it has this UID. -/
def appRead (uid : String) : Event Api → Bool
  | ⟨.getApp _, .ok app⟩ => app.uid == uid
  | _ => true

theorem routesClaimed_of_reads {key : NamespacedName} {uid : String} {h : Trace}
    (happ : ∀ e ∈ h, appRead uid e = true) (hroutes : ∀ e ∈ h, claimedRead uid e = true) :
    RoutesClaimed key h := by
  intro app v hsaw hread _
  have huid : app.uid = uid := beq_iff_eq.mp (happ _ hsaw)
  rw [huid]
  exact hroutes _ hread

/-- Somebody's route under the name of the fleet; it names no owner. -/
def foreignRoute : Obj .httpRoute where
  metadata := { name := "shop-celld", uid := "f1", resourceVersion := 1, generation := 1 }
  spec := ({ parentName := "edge", parentNamespace := "infra", hostnames := ["other.example"]
             rules := [{ backendName := "other", backendPort := 80 }] } : HTTPRouteSpec)
  status := ([] : List RouteParentStatus)

/-- The namespace has this route, and nothing of the fleet yet. -/
def foreignCluster : Cluster :=
  Cluster.empty.put foreignRoute ⟨by simp [Cluster.empty, Versioned.empty], Nat.zero_le _⟩

/-- The event is an accepted update of the first version of the HTTPRoute. -/
def overwritesRoute : Event Api → Bool
  | ⟨.update .httpRoute sent, .ok stored⟩ =>
    sent.metadata.name == "shop-celld" && sent.rv == 1 &&
      (show HTTPRouteSpec from stored.spec).hostnames == ["shop.example"]
  | _ => false

end CelldOperator
