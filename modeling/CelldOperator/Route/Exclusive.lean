/-
  CelldOperator.Route.Exclusive

  **ONE ROUTE AT A TIME.**

  A WorkerApp's hostnames are routed by an Ingress, an HTTPRoute or a VirtualService.
  The mode of the operator and the hostnames may change from pass to pass, and a pass
  may stop anywhere.  A route that finalizers hold outlives its deletion, marked, so what
  is counted are the routes that are not being deleted.  At no moment does the WorkerApp
  control such routes of two kinds; and a pass that does not ask to come back soon leaves
  none of another kind than its own mode's.

    • `removeObsoleteRoutes_clears` — what a removal that succeeds leaves,
    • `reconcileApp_oneRoute`       — the invariant, at every point of a pass,
    • `reconcileApp_clears`         — what a pass that returns leaves,
    • `routes_exclusive`            — any number of passes, by induction over the run.
-/
import CelldOperator.Children.Ownership
import CelldOperator.Effect.Hoare
import CelldOperator.Pass.Footprint

namespace CelldOperator

open Effect Prog

/-! ## §1. Routes in the cluster. -/

/-- The WorkerApp with this UID controls a live route of the kind that is not being deleted. -/
def OwnsRoute (n uid : String) (k : Kind) (c : Cluster) : Prop :=
  ∃ v : Obj k, c.live k n = some v ∧ isControlledBy v.metadata.ownerReferences uid = true ∧
    v.metadata.deleting = false

/-- It controls routes of at most one kind. -/
def OneRoute (n uid : String) (c : Cluster) : Prop :=
  ∀ k ∈ routeKinds, ∀ k' ∈ routeKinds, OwnsRoute n uid k c → OwnsRoute n uid k' c → k = k'

/-- Of these kinds it controls no route but of the mode's. -/
def Cleared (n uid : String) (mode : Option Kind) (kinds : List Kind) (c : Cluster) : Prop :=
  ∀ k ∈ kinds, some k ≠ mode → ¬ OwnsRoute n uid k c

/-- What the errors of a read and of a deletion say: of a kind that is not installed there is no
object, and what is not found is not there. -/
def Honest (c : Cluster) : (o : Op) → Resp o → Prop
  | .getLive k n, .error e => e.isNoMatch = true → c.live k n = none
  | .delete k n _ _, .error e => e.isNotFound = true → c.live k n = none
  | _, _ => True

/-- The server of this section. -/
def RouteServe (c : Cluster) (o : Op) (res : Resp o) (c' : Cluster) : Prop :=
  Serve c o res c' ∧ Honest c o res

/-- The others do what they like, but nobody hands the WorkerApp a route. -/
def NoGift (n uid : String) (c c' : Cluster) : Prop :=
  ∀ k ∈ routeKinds, OwnsRoute n uid k c' → OwnsRoute n uid k c

section

variable {n uid : String} {mode : Option Kind} {k : Kind} {kinds : List Kind} {c c' : Cluster}

theorem not_owns_of_none (h : c.live k n = none) : ¬ OwnsRoute n uid k c := by
  rintro ⟨v, hv, -⟩
  rw [h] at hv
  cases hv

/-- What a deletion leaves under the name is no route to count. -/
theorem not_owns_of_deleted {cur : Obj k} (hd : Deleted c cur c') (hlive : c.live k n = some cur) :
    ¬ OwnsRoute n uid k c' := by
  obtain rfl := Cluster.name_of_live hlive
  rcases hd.live_self hlive with hnone | ⟨v, hv, hdeleting, -⟩
  · exact not_owns_of_none hnone
  · rintro ⟨w, hw, -, hstays⟩
    rw [hv] at hw
    cases hw
    rw [hdeleting] at hstays
    cases hstays

/-- Of the operations only a creation and an update of the kind bring a route. -/
theorem owns_of_serve {o : Op} {res : Resp o} (h : Serve c o res c') (hc : o.topic ≠ .create k)
    (hu : o.topic ≠ .update k) (howns : OwnsRoute n uid k c') : OwnsRoute n uid k c := by
  unfold Serve at h
  split at h
  · exact h.1 ▸ howns
  · exact h.1 ▸ howns
  · exact h.1 ▸ howns
  · next k₀ sent v =>
    have hk : k ≠ k₀ := fun heq => hc (by rw [heq]; rfl)
    obtain ⟨-, -, hs, rfl⟩ := h
    obtain ⟨w, hw, hcontrolled⟩ := howns
    exact ⟨w, (c.put_live_of_ne v hs (.inl hk)) ▸ hw, hcontrolled⟩
  · next k₀ sent v =>
    have hk : k ≠ k₀ := fun heq => hu (by rw [heq]; rfl)
    obtain ⟨cur, -, -, -, hs, rfl⟩ := h
    obtain ⟨w, hw, hcontrolled⟩ := howns
    exact ⟨w, (c.put_live_of_ne v hs (.inl hk)) ▸ hw, hcontrolled⟩
  · next k₀ n₀ _ _ _ =>
    obtain ⟨cur, hlive, -, -, hdeleted⟩ := h
    by_cases hne : k ≠ k₀ ∨ n ≠ n₀
    · obtain ⟨w, hw, hcontrolled⟩ := howns
      rw [← Cluster.name_of_live hlive] at hne
      exact ⟨w, (hdeleted.live_of_ne hne) ▸ hw, hcontrolled⟩
    · push Not at hne
      obtain ⟨rfl, rfl⟩ := hne
      exact absurd howns (not_owns_of_deleted hdeleted hlive)
  · exact h.1 ▸ howns
  · exact h.1 ▸ howns
  · exact h.1 ▸ howns
  · exact h ▸ howns

theorem stable_oneRoute : Stable (NoGift n uid) (OneRoute n uid) :=
  fun _ _ h hg k hk k' hk' howns howns' => h k hk k' hk' (hg k hk howns) (hg k' hk' howns')

theorem stable_cleared (hkinds : kinds ⊆ routeKinds) :
    Stable (NoGift n uid) (Cleared n uid mode kinds) :=
  fun _ _ h hg k hk hne howns => h k hk hne (hg k (hkinds hk) howns)

theorem stable_not_owns (hk : k ∈ routeKinds) :
    Stable (NoGift n uid) fun c => ¬ OwnsRoute n uid k c :=
  fun _ _ h hg howns => h (hg k hk howns)

/-- With everything else cleared there is one route at most. -/
theorem Cleared.oneRoute (h : Cleared n uid mode routeKinds c) : OneRoute n uid c := by
  have hmode : ∀ k ∈ routeKinds, OwnsRoute n uid k c → some k = mode := fun k hk howns =>
    by_contra fun hne => h k hk hne howns
  intro k hk k' hk' howns howns'
  exact Option.some.inj ((hmode k hk howns).trans (hmode k' hk' howns').symm)

/-! ## §2. Functions that bring no route. -/

/-- No topic brings a route of this kind. -/
def Brings (T : List Topic) (k : Kind) : Bool := T.contains (.create k) || T.contains (.update k)

theorem not_brings_of_topic {T : List Topic} {o : Op} (ho : T.contains o.topic = true)
    (hT : Brings T k = false) : o.topic ≠ .create k ∧ o.topic ≠ .update k := by
  unfold Brings at hT
  rw [Bool.or_eq_false_iff] at hT
  constructor
  · intro htopic
    rw [htopic, hT.1] at ho
    cases ho
  · intro htopic
    rw [htopic, hT.2] at ho
    cases ho

/-- A function that brings routes of the mode's kind at most keeps the others away. -/
theorem Asks.keeps_cleared {α : Type} {T : List Topic} {p : P α} (hp : Asks T p)
    (hT : ∀ k ∈ routeKinds, some k ≠ mode → Brings T k = false) :
    Throughout RouteServe (NoGift n uid) (Cleared n uid mode routeKinds) p
      (Cleared n uid mode routeKinds) := by
  refine throughout_only (stable_cleared (List.Subset.refl _)) hp fun c o res c' ho hc hs => ?_
  intro k hk hne howns
  obtain ⟨hcreate, hupdate⟩ := not_brings_of_topic ho (hT k hk hne)
  exact hc k hk hne (owns_of_serve hs.1 hcreate hupdate howns)

/-- A function that brings none keeps the invariant. -/
theorem Asks.keeps_oneRoute {α : Type} {T : List Topic} {p : P α} (hp : Asks T p)
    (hT : ∀ k ∈ routeKinds, Brings T k = false) :
    Throughout RouteServe (NoGift n uid) (OneRoute n uid) p (OneRoute n uid) := by
  refine throughout_only stable_oneRoute hp fun c o res c' ho hc hs => ?_
  have hbefore : ∀ k ∈ routeKinds, OwnsRoute n uid k c' → OwnsRoute n uid k c := by
    intro k hk howns
    obtain ⟨hcreate, hupdate⟩ := not_brings_of_topic ho (hT k hk)
    exact owns_of_serve hs.1 hcreate hupdate howns
  exact fun k hk k' hk' howns howns' => hc k hk k' hk' (hbefore k hk howns) (hbefore k' hk' howns')

end

/-! ## §3. The removal. -/

section

variable {r : Reconciler} {app : WorkerApp} {mode : Option Kind} {kinds done : List Kind}

/-- The read found nothing the WorkerApp controls. -/
def nothingOurs (uid : String) {k : Kind} : Except Err (Obj k) → Bool
  | .error e => e.isNotFound || e.isNoMatch
  | .ok o => !isControlledBy o.metadata.ownerReferences uid

/-- One kind looked up. -/
theorem getLive_clears {k : Kind} (hk : k ∈ routeKinds) (hdone : done ⊆ routeKinds) :
    Ensures RouteServe (NoGift (fleetName app) app.uid)
      (Cleared (fleetName app) app.uid mode done) (ask (.getLive k (fleetName app)))
      fun res c => Cleared (fleetName app) app.uid mode done c ∧
        (nothingOurs app.uid res = true → ¬ OwnsRoute (fleetName app) app.uid k c) := by
  refine ensures_req (stable_cleared hdone) (fun res c c' h hg => ?_) fun c res c' h hs => ?_
  · exact ⟨stable_cleared hdone c c' h.1 hg, fun hres => stable_not_owns hk c c' (h.2 hres) hg⟩
  · obtain ⟨hserve, hhonest⟩ := hs
    cases res with
    | error e =>
      obtain ⟨rfl, hnotFound⟩ := hserve
      refine ⟨h, fun hres => not_owns_of_none ?_⟩
      rcases Bool.or_eq_true _ _ ▸ hres with he | he
      · exact hnotFound he
      · exact hhonest he
    | ok v =>
      obtain ⟨rfl, hlive⟩ := hserve
      refine ⟨h, fun hres => ?_⟩
      -- the read is live, so it shows what the WorkerApp has now
      rintro ⟨w, hw, hcontrolled, -⟩
      rw [hlive] at hw
      cases hw
      have hforeign : (!isControlledBy v.metadata.ownerReferences app.uid) = true := hres
      rw [hcontrolled] at hforeign
      cases hforeign

/-- The deletion went through, or found nothing to delete. -/
def isGone : Except Err Unit → Bool
  | .ok _ => true
  | .error e => e.isNotFound

/-- One kind deleted. -/
theorem delete_clears {k : Kind} (hk : k ∈ routeKinds) (hdone : done ⊆ routeKinds) (u : String)
    (rv : Nat) :
    Ensures RouteServe (NoGift (fleetName app) app.uid)
      (Cleared (fleetName app) app.uid mode done) (ask (.delete k (fleetName app) u rv))
      fun res c => Cleared (fleetName app) app.uid mode done c ∧
        (isGone res = true → ¬ OwnsRoute (fleetName app) app.uid k c) := by
  refine ensures_req (stable_cleared hdone) (fun res c c' h hg => ?_) fun c res c' h hs => ?_
  · exact ⟨stable_cleared hdone c c' h.1 hg, fun hres => stable_not_owns hk c c' (h.2 hres) hg⟩
  · obtain ⟨hserve, hhonest⟩ := hs
    have hkept : Cleared (fleetName app) app.uid mode done c' := fun k' hk' hne howns =>
      h k' hk' hne (owns_of_serve hserve (by simp [Op.topic]) (by simp [Op.topic]) howns)
    refine ⟨hkept, fun hres => ?_⟩
    cases res with
    | error e =>
      have hsame : c' = c := hserve
      rw [hsame]
      exact not_owns_of_none (hhonest hres)
    | ok _ =>
      obtain ⟨cur, hlive, -, -, hdeleted⟩ := hserve
      exact not_owns_of_deleted hdeleted hlive

theorem cleared_cons {k : Kind} {c : Cluster} {n uid : String} (h : Cleared n uid mode done c)
    (hk : some k ≠ mode → ¬ OwnsRoute n uid k c) : Cleared n uid mode (k :: done) c :=
  List.forall_mem_cons.mpr ⟨hk, h⟩

/-- The loop clears the kinds it goes through.  The induction is on the kinds to go; those behind
are `done`. -/
theorem removeRoutes_clears : ∀ {done : List Kind}, kinds ⊆ routeKinds → done ⊆ routeKinds →
    Ensures RouteServe (NoGift (fleetName app) app.uid)
      (Cleared (fleetName app) app.uid mode done) (removeRoutes app mode kinds)
      fun res c => res = .ok () →
        Cleared (fleetName app) app.uid mode (kinds ++ done) c := by
  induction kinds with
  | nil => exact fun _ hdone => ensures_pure (stable_cleared hdone) _ fun c h _ => h
  | cons k kinds ih =>
    intro done hkinds hdone
    obtain ⟨hk, hrest⟩ := List.cons_subset.mp hkinds
    have hnext : Ensures RouteServe (NoGift (fleetName app) app.uid)
        (Cleared (fleetName app) app.uid mode (k :: done)) (removeRoutes app mode kinds)
        fun res c => res = .ok () →
          Cleared (fleetName app) app.uid mode (k :: kinds ++ done) c := by
      refine (ih hrest (List.cons_subset.mpr ⟨hk, hdone⟩)).post fun res c h hres k' hk' => ?_
      exact h hres k' (by simp only [List.mem_append, List.mem_cons] at hk' ⊢; tauto)
    have hfail : ∀ {A : Cluster → Prop} (e : Err), Ensures RouteServe
        (NoGift (fleetName app) app.uid) A (pure (.error e) : P (Except Err Unit))
        fun res c => res = .ok () →
          Cleared (fleetName app) app.uid mode (k :: kinds ++ done) c :=
      fun e => (ensures_result _).post fun res c hres hok => by
        rw [hres] at hok
        cases hok
    unfold removeRoutes
    split
    · next hmode => exact hnext.pre fun c h => cleared_cons h fun hne => absurd hmode hne
    · -- missing, foreign, deleted, or the loop stops with an error
      refine ensures_bind (fun res => ?_) (getLive_clears hk hdone)
      cases res with
      | error e =>
        dsimp only
        split
        · next he => exact hnext.pre fun c h => cleared_cons h.1 fun _ => h.2 he
        · exact hfail e
      | ok o =>
        dsimp only
        split
        · next ho => exact hnext.pre fun c h => cleared_cons h.1 fun _ => h.2 ho
        · refine ensures_bind (fun res => ?_)
            ((delete_clears hk hdone _ _).pre fun c h => h.1)
          cases res with
          | ok _ => exact hnext.pre fun c h => cleared_cons h.1 fun _ => h.2 rfl
          | error e =>
            dsimp only
            split
            · next he => exact hnext.pre fun c h => cleared_cons h.1 fun _ => h.2 he
            · exact hfail e

/-- **A removal that succeeds leaves the mode's kind at most.** -/
theorem removeObsoleteRoutes_clears :
    Ensures RouteServe (NoGift (fleetName app) app.uid) (fun _ => True)
      (removeObsoleteRoutes r app)
      fun res c => res = .ok () →
        Cleared (fleetName app) app.uid (routeKind r app) routeKinds c := by
  unfold removeObsoleteRoutes
  refine ensures_bind (B := fun _ => Cleared (fleetName app) app.uid (routeKind r app) [])
    (fun order => ?_) ?_
  · have hsub : order.val ⊆ routeKinds := fun k hk => order.property.mem_iff.mp hk
    refine (removeRoutes_clears hsub (List.nil_subset _)).post fun res c h hres k hk => ?_
    exact h hres k (by rw [List.append_nil]; exact order.property.mem_iff.mpr hk)
  · refine ensures_req (fun _ _ h _ => h) (fun _ => stable_cleared (List.nil_subset _)) ?_
    exact fun _ _ _ _ _ k hk => absurd hk List.not_mem_nil

/-! ## §4. A pass. -/

/-- The invariant of a part of a pass. -/
abbrev KeepsOneRoute {α : Type} (app : WorkerApp) (p : P α) : Prop :=
  Throughout RouteServe (NoGift (fleetName app) app.uid) (OneRoute (fleetName app) app.uid) p
    (OneRoute (fleetName app) app.uid)

theorem keepsOneRoute_check {α β : Type} {p : P (Except Err α)} {f : α → P (Except Err β)}
    (hp : KeepsOneRoute app p) (hf : ∀ a, KeepsOneRoute app (f a)) :
    KeepsOneRoute app (check p f) := by
  refine hp.bind fun res => ?_
  cases res with
  | error e => exact throughout_pure stable_oneRoute _ fun _ h => h
  | ok a => exact hf a

/-- What `ensureIngress` does behind a removal that succeeded: nothing, or the route of the
mode. -/
inductive RouteStep (r : Reconciler) (app : WorkerApp) : P (Bool × List Condition) → Prop where
  | nothing : RouteStep r app (pure (false, []))
  | virtualService (mode : routeKind r app = some .virtualService) :
      RouteStep r app (ensureVirtualService r app)
  | ingress (mode : routeKind r app = some .ingress) : RouteStep r app (ensureV1Ingress r app)
  | httpRoute (mode : routeKind r app = some .httpRoute) : RouteStep r app (ensureHTTPRoute r app)

theorem ensureIngress_steps (r : Reconciler) (app : WorkerApp) :
    ∃ f, ensureIngress r app = removeObsoleteRoutes r app >>= f ∧
      (∀ e, ∃ c : Condition, c.status = .false_ ∧ f (.error e) = pure (true, [c])) ∧
      RouteStep r app (f (.ok ())) := by
  refine ⟨_, rfl, fun e => ⟨_, rfl, rfl⟩, ?_⟩
  dsimp only
  split
  · exact .nothing
  · next hhosts =>
    split
    · exact .nothing
    · next hmode => exact .virtualService (by unfold routeKind; rw [if_neg hhosts, hmode])
    · next hmode => exact .ingress (by unfold routeKind; rw [if_neg hhosts, hmode])
    · next hmode => exact .httpRoute (by unfold routeKind; rw [if_neg hhosts, hmode])
    · next hmode => exact .httpRoute (by unfold routeKind; rw [if_neg hhosts, hmode])

/-- Only the mode's route is written there. -/
theorem RouteStep.cleared {p : P (Bool × List Condition)} (h : RouteStep r app p) :
    Throughout RouteServe (NoGift (fleetName app) app.uid)
      (Cleared (fleetName app) app.uid (routeKind r app) routeKinds) p
      (Cleared (fleetName app) app.uid (routeKind r app) routeKinds) := by
  cases h with
  | nothing => exact throughout_pure (stable_cleared (List.Subset.refl routeKinds)) _ fun _ h => h
  | virtualService mode =>
    have hasks : Asks (ensured .virtualService) (ensureVirtualService r app) := by
      unfold ensureVirtualService
      refine asks_bind (ensureUnstructured_topics ..) fun res => ?_
      split <;> exact asks_pure _
    exact hasks.keeps_cleared (by rw [mode]; decide)
  | ingress mode =>
    have hasks : Asks (ensured .ingress) (ensureV1Ingress r app) := by
      unfold ensureV1Ingress
      refine asks_bind (ensureObject_topics ..) fun res => ?_
      split <;> exact asks_pure _
    exact hasks.keeps_cleared (by rw [mode]; decide)
  | httpRoute mode => exact (ensureHTTPRoute_topics r app).keeps_cleared (by rw [mode]; decide)

/-- The removal itself brings nothing. -/
theorem removeObsoleteRoutes_oneRoute : KeepsOneRoute app (removeObsoleteRoutes r app) := by
  have hkinds : ∀ k ∈ routeKinds, removed k ⊆ .order :: routeKinds.flatMap removed := by decide
  refine Asks.keeps_oneRoute (T := .order :: routeKinds.flatMap removed) ?_ (by decide)
  unfold removeObsoleteRoutes
  exact asks_bind (asks_ask rfl) fun order => removeRoutes_topics _ _ fun k hk =>
    hkinds k (order.property.mem_iff.mp hk)

theorem ensureIngress_oneRoute : KeepsOneRoute app (ensureIngress r app) := by
  obtain ⟨f, heq, hfails, hroute⟩ := ensureIngress_steps r app
  rw [heq]
  refine throughout_bind (fun res => ?_) removeObsoleteRoutes_oneRoute
    ((removeObsoleteRoutes_clears.pre fun _ _ => trivial).and
      removeObsoleteRoutes_oneRoute.ensures)
  cases res with
  | error e =>
    obtain ⟨c, -, hf⟩ := hfails e
    rw [hf]
    exact (throughout_pure stable_oneRoute _ fun _ h => h).pre fun c h => h.2
  | ok u => exact (hroute.cleared.pre fun c h => h.1 rfl).post fun c h => h.oneRoute

/-- What `ensureIngress` leaves unless it failed. -/
theorem ensureIngress_clears :
    Ensures RouteServe (NoGift (fleetName app) app.uid) (fun _ => True) (ensureIngress r app)
      fun res c => res.1 = false →
        Cleared (fleetName app) app.uid (routeKind r app) routeKinds c := by
  obtain ⟨f, heq, hfails, hroute⟩ := ensureIngress_steps r app
  rw [heq]
  refine ensures_bind (fun res => ?_) removeObsoleteRoutes_clears
  cases res with
  | error e =>
    obtain ⟨c, -, hf⟩ := hfails e
    rw [hf]
    refine (ensures_result _).post fun res c hres hfine => ?_
    rw [hres] at hfine
    cases hfine
  | ok u => exact (hroute.cleared.pre fun c h => h rfl).ensures.post fun _ _ h _ => h

/-- **At every point of a pass there is one route at most.** -/
theorem reconcileApp_oneRoute {key : NamespacedName} :
    KeepsOneRoute app (reconcileApp r key app) := by
  unfold reconcileApp
  split
  · exact Asks.keeps_oneRoute (T := [.tracker]) (asks_bind (asks_ask rfl) fun _ => asks_pure _)
      (by decide)
  · split
    · exact (rejectSpec_topics ..).keeps_oneRoute (by decide)
    · unfold reconcileValid
      refine keepsOneRoute_check ((ensureFoundation_topics r app).keeps_oneRoute (by decide))
        fun foundation => ?_
      refine ((resolveAppVersion_topics r app).keeps_oneRoute (by decide)).bind fun resolved => ?_
      rw [reconcileFleet_eq]
      refine keepsOneRoute_check (keepsOneRoute_check
        ((configHash_topics r app).keeps_oneRoute (by decide)) fun hash =>
          (placeFleet_topics ..).keeps_oneRoute (by decide)) fun outcome => ?_
      unfold finishPass
      refine ensureIngress_oneRoute.bind fun _ => ?_
      refine ((ensureAuthorizationPolicy_topics r app).keeps_oneRoute (by decide)).bind fun _ => ?_
      refine ((ensureScaledObject_topics ..).keeps_oneRoute (by decide)).bind fun _ => ?_
      refine ((updateStatus_topics ..).keeps_oneRoute (by decide)).bind fun res => ?_
      split
      · exact throughout_pure stable_oneRoute _ fun _ h => h
      · split <;> exact throughout_pure stable_oneRoute _ fun _ h => h

/-- The pass asks to be run again at once, or within 15 seconds. -/
def Result.soon (res : Result) : Prop := res.requeue = true ∨ res.requeueAfter ≤ 15 * second

theorem capRequeue_soon (requeue : Time) : capRequeue requeue (15 * second) ≤ 15 * second := by
  unfold capRequeue
  split
  · exact le_refl _
  · next h => exact not_lt.mp fun hlt => h (.inr hlt)

/-- **What a pass that returns leaves**: the mode's route at most, or it comes back soon. -/
theorem reconcileApp_clears {key : NamespacedName} (hlive : app.deleting = false)
    (hvalid : validateApp r app = .ok ()) :
    Ensures RouteServe (NoGift (fleetName app) app.uid) (fun _ => True) (reconcileApp r key app)
      fun res c => ∀ result, res = .ok result → result.soon ∨
        Cleared (fleetName app) app.uid (routeKind r app) routeKinds c := by
  have hfail : ∀ {A : Cluster → Prop} (e : Err), Ensures RouteServe
      (NoGift (fleetName app) app.uid) A (pure (.error e) : P (Except Err Result))
      fun res c => ∀ result, res = .ok result → result.soon ∨
        Cleared (fleetName app) app.uid (routeKind r app) routeKinds c :=
    fun e => (ensures_result _).post fun res c hres result hok => by
      rw [hres] at hok
      cases hok
  have hany : ∀ {α : Type} {A : Cluster → Prop} {p : P α}, Ensures RouteServe
      (NoGift (fleetName app) app.uid) A p fun _ _ => True := fun _ _ _ _ _ _ => trivial
  unfold reconcileApp
  rw [hlive, if_neg (by decide), hvalid]
  unfold reconcileValid check
  refine ensures_bind (fun res => ?_) hany
  cases res with
  | error e => exact hfail e
  | ok foundation =>
    refine ensures_bind (fun resolved => ensures_bind (fun res => ?_) hany) hany
    cases res with
    | error e => exact hfail e
    | ok outcome =>
      unfold finishPass
      refine ensures_bind (fun ingress => ?_) ensureIngress_clears
      obtain ⟨transient, conditions⟩ := ingress
      dsimp only
      cases transient with
      | true =>
        -- the routes may be anything; the flag caps the requeue
        refine ensures_bind (fun policy => ensures_bind (fun scaler =>
          ensures_bind (fun res => ?_) hany) hany) hany
        cases res with
        | error e =>
          dsimp only
          split
          · refine (ensures_result _).post fun res c hres result hok => .inl (.inl ?_)
            cases hres.symm.trans hok
            rfl
          · exact hfail e
        | ok u =>
          refine (ensures_result _).post fun res c hres result hok => .inl (.inr ?_)
          cases hres.symm.trans hok
          exact capRequeue_soon _
      | false =>
        -- the routes are as they should be, and nothing behind writes one
        have hstable : Stable (NoGift (fleetName app) app.uid)
            (Cleared (fleetName app) app.uid (routeKind r app) routeKinds) :=
          stable_cleared (List.Subset.refl routeKinds)
        have hkeep : ∀ {α : Type} {T : List Topic} {p : P α}, Asks T p →
            (∀ k ∈ routeKinds, Brings T k = false) →
            Ensures RouteServe (NoGift (fleetName app) app.uid)
              (Cleared (fleetName app) app.uid (routeKind r app) routeKinds) p
              fun _ => Cleared (fleetName app) app.uid (routeKind r app) routeKinds :=
          fun hp hT => (hp.keeps_cleared fun k hk _ => hT k hk).ensures
        refine ensures_bind (fun policy => ensures_bind (fun scaler =>
          ensures_bind (fun res => ?_) (hkeep (updateStatus_topics ..) (by decide)))
          (hkeep (ensureScaledObject_topics ..) (by decide)))
          ((hkeep (ensureAuthorizationPolicy_topics r app) (by decide)).pre fun c h => h rfl)
        cases res with
        | error e =>
          dsimp only
          split
          · exact ensures_pure hstable _ fun c h _ _ => .inr h
          · exact hfail e
        | ok u => exact ensures_pure hstable _ fun c h _ _ => .inr h

end

/-! ## §5. The run. -/

/-- **Passes over one WorkerApp**, of operators with any configuration and over any edit of its
spec, each stopping where it may; in between and during them the others move. -/
inductive ModeRun (n uid : String) : Cluster → Cluster → Prop where
  | idle (c : Cluster) : ModeRun n uid c c
  | others {c c' c'' : Cluster} (run : ModeRun n uid c c') (move : NoGift n uid c' c'') :
      ModeRun n uid c c''
  | pass {c c' c'' : Cluster} (run : ModeRun n uid c c') (r : Reconciler) (key : NamespacedName)
      (app : WorkerApp) (named : fleetName app = n) (same : app.uid = uid) {t : Trace}
      {q : P (Except Err Result)}
      (exec : Exec RouteServe (NoGift n uid) c' (reconcileApp r key app) t c'' q) :
      ModeRun n uid c c''

theorem ModeRun.oneRoute {n uid : String} {c c' : Cluster} (h : ModeRun n uid c c')
    (hc : OneRoute n uid c) : OneRoute n uid c' := by
  induction h with
  | idle => exact hc
  | others _ move ih => exact stable_oneRoute _ _ ih move
  | pass _ r key app named same exec ih =>
    subst named same
    exact reconcileApp_oneRoute _ _ _ _ ih exec

/-- The serving app with a hostname. -/
def hostedApp : WorkerApp :=
  { servingApp with spec := { servingApp.spec with hostnames := ["shop.example"] } }

/-- The server of its namespace; its pods answer. -/
def answerHosted (c : Cluster) : (o : Op) → Resp o × Cluster
  | .getState _ => (.ok (sampleState "1" 0), c)
  | o => answerFor hostedApp c o

theorem routeServe_answerHosted (c : Cluster) (o : Op) :
    RouteServe c o (answerHosted c o).1 (answerHosted c o).2 := by
  constructor
  · unfold answerHosted
    split
    · rfl
    · exact serve_answerFor hostedApp c _
  · cases o with
    | getLive k n =>
      show Honest c (.getLive k n) (answerGet c k n)
      unfold answerGet
      split
      · next hnone => exact fun _ => hnone
      · trivial
    | delete k n u rv =>
      show Honest c (.delete k n u rv) (answerDelete c k n u rv).1
      unfold answerDelete
      split
      · next hnone => exact fun _ => hnone
      · split
        · trivial
        · exact fun h => by cases h
    | _ => trivial

/-- An operator in this mode passes over the app. -/
def modePass (mode : IngressMode) (c : Cluster) : Trace × Cluster × Except Err Result :=
  runWith (S := Api) answerHosted
    (reconcileApp { sampleReconciler with ingressMode := mode } ⟨"prod", "shop"⟩ hostedApp) c

theorem exec_modePass (mode : IngressMode) (c : Cluster) :
    Exec RouteServe (NoGift "shop-celld" "u1") c
      (reconcileApp { sampleReconciler with ingressMode := mode } ⟨"prod", "shop"⟩ hostedApp)
      (modePass mode c).1 (modePass mode c).2.1 (.ret (modePass mode c).2.2) :=
  exec_runWith routeServe_answerHosted _ c

def settledRoutes : Cluster := settledCluster hostedApp true "True"

/-- The cluster after a pass in the default mode. -/
def gatewayRoutes : Cluster := (modePass .httpRoute settledRoutes).2.1

end CelldOperator
