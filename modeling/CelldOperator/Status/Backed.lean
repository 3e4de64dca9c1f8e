/-
  CelldOperator.Status.Backed

  **WHAT STANDS BEHIND A CONDITION THAT IS TRUE.**

  Users and alerts act on the conditions of a WorkerApp one by one.  For each type the
  evidence is written down (`Backed`), and it is shown that a pass never writes a True it
  has not just found:

    • `parentsReady_true`        — the route loop answers True for a parent it has checked,
    • `…_vouched`                — one lemma for each part of a pass: what it appends is
      backed by what it exchanged,
    • `findStatusCondition_merge` — a reader sees what was reported, or what was stored
      under a type that was not,
    • `conditions_backed`        — every True condition of a written status.  A refused spec
      hides nothing and finds nothing: it carries stored conditions on, except those
      that would still call the WorkerApp valid, available, routed, scaled or tracked.
-/
import CelldOperator.Children.Standing
import CelldOperator.Foundation.Identity
import CelldOperator.Route.Exclusive
import CelldOperator.Status.Consistent

namespace CelldOperator

open Effect Prog

/-! ## §1. Evidence. -/

/-- The Gateway is programmed with what it says now. -/
def Gateway.Programmed (gateway : Gateway) : Prop :=
  ∃ c ∈ gateway.conditions, c.type = "Programmed" ∧ c.observedGeneration = gateway.generation ∧
    c.status = .true_

/-- **The route is served.**  The live route shows a parent, the operator's Gateway, that has
accepted the route and resolved its backends as they are now, and the Gateway is programmed. -/
structure RouteServed (r : Reconciler) (app : WorkerApp) (h : Trace) (live : Obj .httpRoute)
    (parent : RouteParentStatus) (gateway : Gateway) : Prop where
  read : Saw h (.getLive .httpRoute (fleetName app)) (.ok live)
  shown : parent ∈ (show List RouteParentStatus from live.status)
  named : parent.name = r.gatewayName
  placed : parent.namespace_.getD app.namespace_ = r.gatewayNamespace
  accepted : observedTrue parent.conditions live.metadata.generation "Accepted" = true
  resolved : observedTrue parent.conditions live.metadata.generation "ResolvedRefs" = true
  gatewayRead : Saw h (.getGateway r.gatewayNamespace r.gatewayName) (.ok gateway)
  programmed : gateway.Programmed

/-- The route sends the hostnames of the WorkerApp from the operator's Gateway to its fleet. -/
structure RoutesTo (r : Reconciler) (app : WorkerApp) (spec : HTTPRouteSpec) : Prop where
  gateway : spec.parentName = r.gatewayName ∧ spec.parentNamespace = r.gatewayNamespace
  hostnames : spec.hostnames = app.spec.hostnames
  backends : spec.rules.map (fun rule => (rule.backendName, rule.backendPort)) =
    [(fleetName app, publicPort)]

/-- The condition types of the operator. -/
def reportedTypes : List String :=
  ["SpecValid", "BucketCredentialsReady", "DeployTrackingReady", "IngressReady",
   "MeshPolicyReady", "AutoscalingReady", "FleetStateReady", "Available", "Progressing",
   "Degraded"]

/-- **What a True condition of this type says** about the events `h`.  Under `tracking`, the pointer
read is this pass's own or, within the tracker's interval, the one its cache kept. -/
inductive Backed (r : Reconciler) (app : WorkerApp) (h : Trace) : String → Prop where
  | specValid (accepted : validateApp r app = .ok ()) : Backed r app h "SpecValid"
  | credentials (given : leavesIdentity app = false) (account : Obj .serviceAccount)
      (stands : Stands (fleetName app) h account)
      (identity : ∀ key ∈ identityKeys,
        account.metadata.annotations.lookup key = namedIdentity app key) :
      Backed r app h "BucketCredentialsReady"
  | tracking (auto : app.spec.appVersion = appVersionAuto) (read : PointerRead)
      (ran : Ran (pointerVersion r app) read h) (clean : read.err = none) :
      Backed r app h "DeployTrackingReady"
  | ingress (mode : routeKind r app = some .httpRoute) (route live : Obj .httpRoute)
      (parent : RouteParentStatus) (gateway : Gateway)
      (stands : Stands (fleetName app) h route) (routes : RoutesTo r app route.spec)
      (served : RouteServed r app h live parent gateway) : Backed r app h "IngressReady"
  | mesh (policy : Obj .authorizationPolicy)
      (stands : Stands (buildAuthorizationPolicy app r.operatorPrincipal).metadata.name h policy)
      (spec : policy.spec = (buildAuthorizationPolicy app r.operatorPrincipal).spec) :
      Backed r app h "MeshPolicyReady"
  | autoscaling (enabled : autoscalingEnabled app = true) (scaler : Obj .scaledObject)
      (paused : Bool) (stands : Stands (fleetName app) h scaler)
      (spec : scaler.spec = (buildScaledObject r.lib app r.prometheusURL paused).spec) :
      Backed r app h "AutoscalingReady"
  | fleetState (read : Except Err StatefulSet) (sweep : Sweep)
      (looked : Saw h (.get .statefulSet (fleetName app)) read)
      (ran : Ran (observeFleet app (lookedUp read)) sweep h) (complete : sweep.err = none) :
      Backed r app h "FleetStateReady"
  | available (version : String) (out : FleetOutcome)
      (ran : Ran (reconcileFleet r app version) (.ok out) h) (ready : out.phase = .ready) :
      Backed r app h "Available"
  | progressing (version : String) (out : FleetOutcome)
      (ran : Ran (reconcileFleet r app version) (.ok out) h)
      (underway : out.phase.progressing = true) : Backed r app h "Progressing"
  | degraded (version : String) (out : FleetOutcome)
      (ran : Ran (reconcileFleet r app version) (.ok out) h) (failed : out.phase = .degraded) :
      Backed r app h "Degraded"

section

variable {r : Reconciler} {app : WorkerApp} {t : Trace} {type : String}

/-- Evidence stays evidence in a longer history. -/
theorem Backed.within (hb : Backed r app t type) (pre post : Trace) :
    Backed r app (pre ++ t ++ post) type := by
  cases hb with
  | specValid accepted => exact .specValid accepted
  | credentials given account stands identity =>
    exact .credentials given account ((stands.append_left pre).append post) identity
  | tracking auto read ran clean =>
    exact .tracking auto read ((ran.append_left pre).append post) clean
  | ingress mode route live parent gateway stands routes served =>
    exact .ingress mode route live parent gateway ((stands.append_left pre).append post) routes
      { served with
        read := (served.read.append_left pre).append post
        gatewayRead := (served.gatewayRead.append_left pre).append post }
  | mesh policy stands spec => exact .mesh policy ((stands.append_left pre).append post) spec
  | autoscaling enabled scaler paused stands spec =>
    exact .autoscaling enabled scaler paused ((stands.append_left pre).append post) spec
  | fleetState read sweep looked ran complete =>
    exact .fleetState read sweep ((looked.append_left pre).append post)
      ((ran.append_left pre).append post) complete
  | available version out ran ready =>
    exact .available version out ((ran.append_left pre).append post) ready
  | progressing version out ran underway =>
    exact .progressing version out ((ran.append_left pre).append post) underway
  | degraded version out ran failed =>
    exact .degraded version out ((ran.append_left pre).append post) failed

end

/-- Conditions of the operator's types, the True ones backed. -/
def Vouched (r : Reconciler) (app : WorkerApp) (h : Trace) (conditions : List Condition) : Prop :=
  ∀ c ∈ conditions, c.status = .true_ → Backed r app h c.type

section

variable {r : Reconciler} {app : WorkerApp} {t : Trace} {l l' : List Condition}

theorem vouched_nil : Vouched r app t [] := fun _ hc => nomatch hc

/-- One condition that is True only for a reason. -/
theorem vouched_one {c : Condition} (h : c.status = .true_ → Backed r app t c.type) :
    Vouched r app t [c] := by
  intro d hd htrue
  obtain rfl := List.mem_singleton.mp hd
  exact h htrue

theorem vouched_append : Vouched r app t (l ++ l') ↔ Vouched r app t l ∧ Vouched r app t l' :=
  List.forall_mem_append

theorem Vouched.within (h : Vouched r app t l) (pre post : Trace) :
    Vouched r app (pre ++ t ++ post) l :=
  fun c hc htrue => (h c hc htrue).within pre post

theorem Vouched.append (h : Vouched r app t l) (post : Trace) : Vouched r app (t ++ post) l :=
  h.within [] post

theorem Vouched.append_left (h : Vouched r app t l) (pre : Trace) : Vouched r app (pre ++ t) l := by
  have hwithin := h.within pre []
  rwa [List.append_nil] at hwithin

/-- A failed call reports nothing True. -/
theorem failedCondition_vouched (type unavailable text failed : String) (e : Err) :
    Vouched r app t (failedCondition type unavailable text failed e).2 := by
  unfold failedCondition
  split <;> exact vouched_one fun htrue => nomatch htrue

end

/-! ## §2. Foundation and version. -/

section

variable {r : Reconciler} {app : WorkerApp} {t : Trace}

/-- **The credentials condition** is True only when the account carries the identity. -/
theorem ensureFoundation_vouched {conditions : List Condition}
    (hr : Runs (ensureFoundation r app) t (.ok conditions)) :
    conditions = [credentialsCondition app] ∧ Vouched r app t conditions := by
  unfold ensureFoundation at hr
  obtain ⟨_, t₁, u₁, rfl, haccount, hr⟩ := runs_check_headed hr
  obtain ⟨_, t₂, u₂, rfl, -, hr⟩ := runs_check_headed hr
  obtain ⟨_, t₃, u₃, rfl, -, hr⟩ := runs_check_headed hr
  obtain ⟨_, t₄, u₄, rfl, -, hr⟩ := runs_check_headed hr
  obtain ⟨_, t₅, u₅, rfl, -, hr⟩ := runs_check_headed hr
  obtain ⟨rfl, heq⟩ := runs_ret.mp hr
  cases heq
  refine ⟨rfl, vouched_one fun htrue => ?_⟩
  unfold credentialsCondition at htrue ⊢
  split at htrue
  · cases htrue
  · next hauto =>
    have hgiven : leavesIdentity app = false := by
      unfold leavesIdentity
      simpa using hauto
    have hidentity : ∀ (found : StrMap), ∀ key ∈ identityKeys,
        (identityAfter app found).lookup key = namedIdentity app key := by
      intro found key hkey
      rw [lookup_identityAfter, if_pos ⟨hkey, by simp [hgiven]⟩]
    -- a new account is built with the identity, a live one is given it
    have hnew : ∀ key ∈ identityKeys,
        (prepare r app (buildServiceAccount app)).metadata.annotations.lookup key =
          namedIdentity app key := fun key _ => lookup_buildServiceAccount app key
    have hmutated : ∀ live : Obj .serviceAccount, ∀ key ∈ identityKeys,
        (mutated (mutateServiceAccount app) live
          (prepare r app (buildServiceAccount app))).metadata.annotations.lookup key =
          namedIdentity app key := fun live => hidentity live.metadata.annotations
    obtain ⟨account, hstands, hnamed⟩ := ensureObject_stands_of
      (Q := fun o : Obj .serviceAccount => ∀ key ∈ identityKeys,
        o.metadata.annotations.lookup key = namedIdentity app key)
      hnew hmutated (fun _ => rfl) haccount
    rw [if_neg hauto]
    exact .credentials hgiven account (hstands.append _) hnamed

theorem resolveAppVersion_vouched {resolved : ResolvedVersion}
    (hr : Runs (resolveAppVersion r app) t resolved) : Vouched r app t resolved.conditions := by
  unfold resolveAppVersion at hr
  split at hr
  · split at hr
    · obtain ⟨-, rfl⟩ := runs_ret.mp hr
      exact vouched_nil
    · obtain ⟨live, t₁, t₂, rfl, -, hr⟩ := runs_bind.mp hr
      obtain ⟨-, rfl⟩ := runs_ret.mp hr
      exact vouched_one fun htrue => nomatch htrue
  · split at hr
    · unfold resolvePinned at hr
      dsimp only at hr
      split at hr
      · obtain ⟨-, rfl⟩ := runs_ret.mp hr
        exact vouched_nil
      · obtain ⟨read, t₁, t₂, rfl, -, hr⟩ := runs_bind.mp hr
        split at hr
        · obtain ⟨-, rfl⟩ := runs_ret.mp hr
          exact vouched_one fun htrue => nomatch htrue
        · obtain ⟨-, rfl⟩ := runs_ret.mp hr
          exact vouched_nil
    · next hauto =>
      unfold resolveTracked at hr
      obtain ⟨read, t₁, t₂, rfl, hread, hr⟩ := runs_bind.mp hr
      split at hr
      · next hclean =>
        obtain ⟨rfl, rfl⟩ := runs_ret.mp hr
        refine vouched_one fun _ => ?_
        exact .tracking (not_not.mp hauto) read (hread.ran [] []) hclean
      · split at hr
        · obtain ⟨-, rfl⟩ := runs_ret.mp hr
          exact vouched_one fun htrue => nomatch htrue
        · obtain ⟨live, t₃, t₄, rfl, -, hr⟩ := runs_bind.mp hr
          obtain ⟨-, rfl⟩ := runs_ret.mp hr
          exact vouched_one fun htrue => nomatch htrue

end

/-! ## §3. The route. -/

/-- The server stores a new route under the name it was sent with. -/
def keepsName (e : Event Api) : Bool :=
  match e with
  | ⟨.create .httpRoute o, .ok stored⟩ => stored.metadata.name == o.metadata.name
  | _ => true

/-- The server keeps the names of new routes along these events. -/
def KeepsNames (t : Trace) : Prop := ∀ e ∈ t, keepsName e = true

theorem keepsNames_append {t u : Trace} : KeepsNames (t ++ u) ↔ KeepsNames t ∧ KeepsNames u :=
  List.forall_mem_append

section

variable {r : Reconciler} {app : WorkerApp} {t : Trace}

/-- **The loop over the parents** says True for one it has checked. -/
theorem parentsReady_true {namespace_ : String} {generation : Nat}
    {parents : List RouteParentStatus} : ∀ {t : Trace},
    Runs (parentsReady r namespace_ generation parents) t .true_ →
    ∃ parent ∈ parents, ∃ gateway : Gateway, parent.name = r.gatewayName ∧
      parent.namespace_.getD namespace_ = r.gatewayNamespace ∧
      observedTrue parent.conditions generation "Accepted" = true ∧
      observedTrue parent.conditions generation "ResolvedRefs" = true ∧
      Saw t (.getGateway r.gatewayNamespace r.gatewayName) (.ok gateway) ∧
      gateway.Programmed := by
  induction parents with
  | nil =>
    intro t hr
    obtain ⟨-, heq⟩ := runs_ret.mp hr
    cases heq
  | cons parent parents ih =>
    intro t hr
    -- a parent that is passed over leaves the result to the others
    have hothers : ∀ {u : Trace}, Runs (parentsReady r namespace_ generation parents) u .true_ →
        ∀ pre : Trace, ∃ p ∈ parent :: parents, ∃ gateway : Gateway, p.name = r.gatewayName ∧
          p.namespace_.getD namespace_ = r.gatewayNamespace ∧
          observedTrue p.conditions generation "Accepted" = true ∧
          observedTrue p.conditions generation "ResolvedRefs" = true ∧
          Saw (pre ++ u) (.getGateway r.gatewayNamespace r.gatewayName) (.ok gateway) ∧
          gateway.Programmed := by
      intro u hu pre
      obtain ⟨p, hp, gateway, hname, hplace, haccepted, hresolved, hsaw, hprogrammed⟩ := ih hu
      exact ⟨p, List.mem_cons_of_mem _ hp, gateway, hname, hplace, haccepted, hresolved,
        hsaw.append_left pre, hprogrammed⟩
    unfold parentsReady at hr
    dsimp only at hr
    split at hr
    · exact hothers hr []
    · next hours =>
      obtain ⟨hname, hplace⟩ := not_or.mp hours
      rw [not_not] at hname hplace
      split at hr
      · next hobserved =>
        obtain ⟨haccepted, hresolved⟩ := Bool.and_eq_true_iff.mp hobserved
        obtain ⟨read, t₁, t₂, rfl, hread, hrest⟩ := runs_bind.mp hr
        obtain rfl := runs_req.mp hread
        cases read with
        | error e =>
          obtain ⟨-, heq⟩ := runs_ret.mp hrest
          cases heq
        | ok gateway =>
          dsimp only at hrest
          split at hrest
          · next hany =>
            obtain ⟨c, hc, hprogrammed⟩ := List.any_eq_true.mp hany
            simp only [Bool.and_eq_true, beq_iff_eq] at hprogrammed
            refine ⟨parent, List.mem_cons_self .., gateway, hname, hplace, haccepted,
              hresolved, ?_, c, hc, hprogrammed.1.1, hprogrammed.1.2, hprogrammed.2⟩
            rw [← hname, ← hplace]
            exact List.mem_cons_self ..
          · exact hothers hrest _
      · exact hothers hr []

theorem routesTo_build (r : Reconciler) (app : WorkerApp) :
    RoutesTo r app (buildHTTPRoute app r.gatewayName r.gatewayNamespace).spec ∧
      RoutesTo r app
        (withoutRetries (buildHTTPRoute app r.gatewayName r.gatewayNamespace)).spec :=
  ⟨⟨⟨rfl, rfl⟩, rfl, rfl⟩, ⟨⟨rfl, rfl⟩, rfl, rfl⟩⟩

/-- What an ensure call returns has the name that was asked for. -/
theorem ensureObject_named {desired ensured : Obj .httpRoute} (hnames : KeepsNames t)
    (hr : Runs (ensureObject r app desired replaceSpec) t (.ok ensured)) :
    ensured.metadata.name = desired.metadata.name := by
  have hprepared := prepare_name r app desired
  unfold ensureObject at hr
  obtain ⟨read, t₁, t₂, rfl, -, hr⟩ := runs_bind.mp hr
  cases read with
  | error e =>
    dsimp only at hr
    split at hr
    · rcases runs_check hr with ⟨e, heq, -⟩ | ⟨stored, t₃, t₄, rfl, hack, hlast⟩
      · cases heq
      · obtain rfl := runs_req.mp hack
        obtain ⟨-, heq⟩ := runs_ret.mp hlast
        cases heq
        have hkept := (keepsNames_append.mp hnames).2 _ (List.mem_cons_self ..)
        unfold keepsName at hkept
        rw [(receive_identity _ stored).1, beq_iff_eq.mp hkept, hprepared]
    · obtain ⟨-, heq⟩ := runs_ret.mp hr
      cases heq
  | ok live =>
    dsimp only at hr
    split at hr
    · obtain ⟨-, heq⟩ := runs_ret.mp hr
      cases heq
    · split at hr
      · obtain ⟨-, heq⟩ := runs_ret.mp hr
        cases heq
        exact hprepared
      · rcases runs_check hr with ⟨e, heq, -⟩ | ⟨stored, t₃, t₄, rfl, -, hr⟩
        · cases heq
        · obtain ⟨-, heq⟩ := runs_ret.mp hr
          cases heq
          exact hprepared

/-- **The HTTPRoute.** -/
theorem ensureHTTPRoute_vouched {res : Bool × List Condition}
    (hmode : routeKind r app = some .httpRoute) (hnames : KeepsNames t)
    (hr : Runs (ensureHTTPRoute r app) t res) : Vouched r app t res.2 := by
  unfold ensureHTTPRoute at hr
  obtain ⟨⟨route, retryDropped⟩, t₁, u₁, rfl, hconfigure, hr⟩ := runs_bind.mp hr
  obtain ⟨hname, hspec⟩ := configureHTTPRouteRetries_runs hconfigure
  obtain ⟨ensured, t₂, u₂, rfl, hensure, hr⟩ := runs_bind.mp hr
  cases ensured with
  | error e =>
    obtain ⟨-, rfl⟩ := runs_ret.mp hr
    exact failedCondition_vouched _ _ _ _ e
  | ok ensured =>
    obtain ⟨dropped, t₃, u₃, rfl, -, hr⟩ := runs_bind.mp hr
    split at hr
    · obtain ⟨-, rfl⟩ := runs_ret.mp hr
      exact vouched_one fun htrue => nomatch htrue
    · obtain ⟨status, t₄, u₄, rfl, hready, hr⟩ := runs_bind.mp hr
      obtain ⟨rfl, rfl⟩ := runs_ret.mp hr
      refine vouched_one fun htrue => ?_
      change status = .true_ at htrue
      subst htrue
      -- the live route is read under the name that was ensured
      have hensured : ensured.metadata.name = fleetName app :=
        (ensureObject_named (keepsNames_append.mp (keepsNames_append.mp hnames).2).1
          hensure).trans hname
      unfold httpRouteReady at hready
      obtain ⟨read, t₅, t₆, rfl, hread, hparents⟩ := runs_bind.mp hready
      obtain rfl := runs_req.mp hread
      rw [hensured]
      cases read with
      | error e =>
        obtain ⟨-, heq⟩ := runs_ret.mp hparents
        cases heq
      | ok live =>
        obtain ⟨parent, hshown, gateway, hnamed, hplaced, haccepted, hresolved, hgateway,
          hprogrammed⟩ := parentsReady_true hparents
        obtain ⟨standing, hstands, hstanding⟩ := ensureObject_stands hensure
        have hroutes : RoutesTo r app standing.spec := by
          rw [hstanding]
          rcases hspec with hspec | hspec
          · rw [hspec]
            exact (routesTo_build r app).1
          · rw [hspec]
            exact (routesTo_build r app).2
        rw [hname] at hstands
        refine .ingress hmode standing live parent gateway
          ((hstands.append _).append_left _) hroutes
          { read := ?_
            shown := hshown
            named := hnamed
            placed := hplaced
            accepted := haccepted
            resolved := hresolved
            gatewayRead := ?_
            programmed := hprogrammed }
        · simp [Saw]
        · have hsaw := ((hgateway.append []).append_left
            [⟨.getLive .httpRoute (fleetName app), .ok live⟩]).append_left (t₁ ++ t₂ ++ t₃)
          simpa [Saw] using hsaw

/-- **The route step.** -/
theorem ensureIngress_vouched {res : Bool × List Condition} (hnames : KeepsNames t)
    (hr : Runs (ensureIngress r app) t res) : Vouched r app t res.2 := by
  obtain ⟨next, heq, herror, hstep⟩ := ensureIngress_steps r app
  rw [heq] at hr
  obtain ⟨removed, t₁, t₂, rfl, -, hr⟩ := runs_bind.mp hr
  cases removed with
  | error e =>
    obtain ⟨c, hc, hnext⟩ := herror e
    rw [hnext] at hr
    obtain ⟨-, rfl⟩ := runs_ret.mp hr
    exact vouched_one fun htrue => by rw [hc] at htrue; cases htrue
  | ok _ =>
    generalize hp : next (.ok ()) = p at hstep hr
    cases hstep with
    | nothing =>
      obtain ⟨-, rfl⟩ := runs_ret.mp hr
      exact vouched_nil
    | virtualService mode =>
      unfold ensureVirtualService at hr
      obtain ⟨ensured, t₃, t₄, rfl, -, hr⟩ := runs_bind.mp hr
      cases ensured with
      | ok _ =>
        obtain ⟨-, rfl⟩ := runs_ret.mp hr
        exact vouched_one fun htrue => nomatch htrue
      | error e =>
        obtain ⟨-, rfl⟩ := runs_ret.mp hr
        exact failedCondition_vouched _ _ _ _ e
    | ingress mode =>
      unfold ensureV1Ingress at hr
      obtain ⟨ensured, t₃, t₄, rfl, -, hr⟩ := runs_bind.mp hr
      cases ensured with
      | ok _ =>
        obtain ⟨-, rfl⟩ := runs_ret.mp hr
        exact vouched_one fun htrue => nomatch htrue
      | error e =>
        obtain ⟨-, rfl⟩ := runs_ret.mp hr
        exact vouched_one fun htrue => nomatch htrue
    | httpRoute mode =>
      exact (ensureHTTPRoute_vouched mode (keepsNames_append.mp hnames).2 hr).append_left t₁

end

/-! ## §4. Mesh policy, autoscaler, fleet. -/

section

variable {r : Reconciler} {app : WorkerApp} {t : Trace}

/-- The mesh policy is reported in every pass. -/
theorem ensureAuthorizationPolicy_typed {res : Bool × List Condition}
    (hr : Runs (ensureAuthorizationPolicy r app) t res) :
    ∃ c ∈ res.2, c.type = "MeshPolicyReady" := by
  unfold ensureAuthorizationPolicy at hr
  obtain ⟨ensured, t₁, t₂, rfl, -, hr⟩ := runs_bind.mp hr
  cases ensured with
  | ok _ =>
    obtain ⟨-, rfl⟩ := runs_ret.mp hr
    exact ⟨_, List.mem_singleton_self _, rfl⟩
  | error e =>
    obtain ⟨-, rfl⟩ := runs_ret.mp hr
    unfold failedCondition
    split <;> exact ⟨_, List.mem_singleton_self _, rfl⟩

theorem ensureAuthorizationPolicy_vouched {res : Bool × List Condition}
    (hr : Runs (ensureAuthorizationPolicy r app) t res) : Vouched r app t res.2 := by
  unfold ensureAuthorizationPolicy at hr
  obtain ⟨ensured, t₁, t₂, rfl, hensure, hr⟩ := runs_bind.mp hr
  cases ensured with
  | ok _ =>
    obtain ⟨rfl, rfl⟩ := runs_ret.mp hr
    obtain ⟨policy, hstands, hspec⟩ := ensureUnstructured_stands (by decide) hensure
    exact vouched_one fun _ => .mesh policy (hstands.append []) hspec
  | error e =>
    obtain ⟨-, rfl⟩ := runs_ret.mp hr
    exact failedCondition_vouched _ _ _ _ e

theorem ensureScaledObject_vouched {phase : Phase} {res : Bool × List Condition}
    (hr : Runs (ensureScaledObject r app phase) t res) : Vouched r app t res.2 := by
  unfold ensureScaledObject at hr
  split at hr
  · -- without autoscaling there is nothing to be ready
    have hremoved : Valid (fun _ _ => True) [] (removeScaledObject app) fun _ res =>
        ∀ c ∈ res.2, c.status = .false_ := by
      unfold removeScaledObject scalerError
      rw [valid_bind, valid_req]
      refine fun read => ⟨trivial, ?_⟩
      cases read with
      | error e =>
        dsimp only
        split <;> simp
      | ok o =>
        dsimp only
        split
        · simp
        · rw [valid_bind, valid_req]
          refine fun deleted => ⟨trivial, ?_⟩
          cases deleted with
          | ok _ => simp
          | error e =>
            dsimp only
            split <;> simp
    intro c hc htrue
    rw [valid_runs hremoved hr c hc] at htrue
    cases htrue
  · next henabled =>
    obtain ⟨ensured, t₁, t₂, rfl, hensure, hr⟩ := runs_bind.mp hr
    cases ensured with
    | ok _ =>
      obtain ⟨rfl, rfl⟩ := runs_ret.mp hr
      obtain ⟨scaler, hstands, hspec⟩ := ensureUnstructured_stands (by decide) hensure
      exact vouched_one fun _ =>
        .autoscaling (by simpa using henabled) scaler _ (hstands.append []) hspec
    | error e =>
      obtain ⟨-, rfl⟩ := runs_ret.mp hr
      exact failedCondition_vouched _ _ _ _ e

theorem observedStatus_vouched {status : WorkerAppStatus} {seen : WorkerAppStatus × Condition}
    (hr : Runs (observedStatus app status) t seen) : Vouched r app t [seen.2] := by
  obtain ⟨read, w, sweep, tail, rfl, hsweep, hcondition, -⟩ := observedStatus_cases hr
  refine vouched_one fun htrue => ?_
  rw [hcondition] at htrue ⊢
  cases herr : sweep.err with
  | some e =>
    rw [herr] at htrue
    cases htrue
  | none =>
    exact .fleetState read sweep (List.mem_cons_self ..)
      (hsweep.ran [⟨.get .statefulSet (fleetName app), read⟩] tail) herr

theorem summaryConditions_vouched {version : String} {out : FleetOutcome}
    (hr : Runs (reconcileFleet r app version) t (.ok out)) :
    Vouched r app t (summaryConditions out) := by
  have hran : Ran (reconcileFleet r app version) (.ok out) t := by
    simpa using hr.ran [] []
  unfold summaryConditions
  intro c hc htrue
  simp only [List.mem_cons, List.not_mem_nil, or_false] at hc
  rcases hc with rfl | rfl | rfl
  · exact .available version out hran (by simpa [boolToCondition_eq_true] using htrue)
  · refine .progressing version out hran ?_
    exact (boolToCondition_eq_true _).mp htrue
  · exact .degraded version out hran (by simpa [boolToCondition_eq_true] using htrue)

end

/-! ## §5. What a reader finds. -/

/-- A reported type shows a report. -/
theorem find_foldl_of_mem {type : String} {c : Condition} {reported : List Condition} :
    ∀ {l : List Condition}, (∃ d ∈ reported, d.type = type) →
      findStatusCondition (reported.foldl setStatusCondition l) type = some c → c ∈ reported := by
  induction reported with
  | nil =>
    rintro l ⟨d, hd, -⟩ -
    cases hd
  | cons first rest ih =>
    intro l hmem hfind
    by_cases hlater : ∃ d ∈ rest, d.type = type
    · exact List.mem_cons_of_mem _ (ih hlater hfind)
    · -- the first is the last of its type
      have hrest : ∀ d ∈ rest, d.type ≠ type := fun d hd htype => hlater ⟨d, hd, htype⟩
      obtain ⟨d, hd, rfl⟩ := hmem
      rcases List.mem_cons.mp hd with rfl | hd
      · rw [List.foldl_cons, find_foldl_of_not_mem hrest, findStatusCondition_set_self] at hfind
        cases hfind
        exact List.mem_cons_self ..
      · exact absurd rfl (hrest d hd)

/-- **What a reader finds** in merged conditions: the report of this pass, or what was stored
under a type that stays when nobody reports it. -/
theorem findStatusCondition_merge {generation : Nat} {stored reported : List Condition}
    {type : String} {c : Condition}
    (hfind : findStatusCondition (mergeConditions generation stored reported) type = some c) :
    (∃ d ∈ reported, d.type = type ∧ c = { d with observedGeneration := generation }) ∨
      ((∀ d ∈ reported, d.type ≠ type) ∧ type ∉ optionalConditions) := by
  have htype : c.type = type := by simpa using List.find?_some hfind
  unfold mergeConditions at hfind
  dsimp only at hfind
  by_cases hmem : ∃ d ∈ reported, d.type = type
  · left
    obtain ⟨d, hd, hdtype⟩ := hmem
    have hreport := find_foldl_of_mem ⟨_, List.mem_map_of_mem hd, hdtype⟩ hfind
    obtain ⟨d', hd', rfl⟩ := List.mem_map.mp hreport
    exact ⟨d', hd', htype, rfl⟩
  · right
    have hnone : ∀ d ∈ reported, d.type ≠ type := fun d hd hdtype => hmem ⟨d, hd, hdtype⟩
    refine ⟨hnone, fun hoptional => ?_⟩
    rw [find_foldl_of_not_mem (by simpa using hnone)] at hfind
    -- an optional type that is not reported has been removed
    have habsent : type ∈ optionalConditions.filter
        (fun type => !reported.any (·.type == type)) := by
      rw [List.mem_filter]
      exact ⟨hoptional, by simpa using hnone⟩
    exact (mem_foldl_remove.mp (List.mem_of_find?_eq_some hfind)).2 type habsent htype

/-- What a refused spec leaves True was stored, and is not among the retired types. -/
theorem find_invalidStatus {app : WorkerApp} {text type : String} {c : Condition}
    (hfind : findStatusCondition (invalidStatus app text).conditions type = some c)
    (htrue : c.status = .true_) :
    findStatusCondition app.status.conditions type = some c ∧
      type ∉ "SpecValid" :: "Available" :: optionalConditions := by
  have htype : c.type = type := by simpa using List.find?_some hfind
  have hretired : type ∉ "SpecValid" :: "Available" :: optionalConditions := by
    intro hmem
    rcases mem_setStatusCondition (List.mem_of_find?_eq_some hfind) with hmem' | rfl
    · rcases mem_setStatusCondition hmem' with hmem' | rfl
      · obtain ⟨-, hkept⟩ := mem_foldl_remove.mp hmem'
        rcases List.mem_cons.mp hmem with rfl | hmem
        · unfold invalidStatus at hfind
          dsimp only at hfind
          rw [findStatusCondition_set_of_ne _ (show "Available" ≠ "SpecValid" by decide)] at hfind
          have hset := findStatusCondition_set_self
            (optionalConditions.foldl removeStatusCondition app.status.conditions)
            { type := "SpecValid", status := .false_, reason := "InvalidConfiguration"
              message := text, observedGeneration := app.generation }
          rw [hset] at hfind
          cases hfind
          cases htrue
        · rcases List.mem_cons.mp hmem with rfl | hmem
          · unfold invalidStatus at hfind
            dsimp only at hfind
            have hset := findStatusCondition_set_self
              (setStatusCondition
                (optionalConditions.foldl removeStatusCondition app.status.conditions)
                { type := "SpecValid", status := .false_, reason := "InvalidConfiguration"
                  message := text, observedGeneration := app.generation })
              { type := "Available", status := .false_, reason := "InvalidConfiguration"
                observedGeneration := app.generation }
            rw [hset] at hfind
            cases hfind
            cases htrue
          · exact hkept type hmem htype
      · cases htrue
    · cases htrue
  refine ⟨?_, hretired⟩
  obtain ⟨hvalid, hrest⟩ := not_or.mp (List.mem_cons.not.mp hretired)
  obtain ⟨havailable, hoptional⟩ := not_or.mp (List.mem_cons.not.mp hrest)
  rwa [findStatusCondition_invalid app text hvalid havailable hoptional] at hfind

/-! ## §6. Every status a pass writes. -/

theorem fleetStateCondition_type (err : Option Err) :
    (fleetStateCondition err).type = "FleetStateReady" := by
  cases err <;> rfl

/-- A pass over an accepted spec reports every type that is not optional. -/
theorem always_reported (app : WorkerApp) (resolved : ResolvedVersion) (out : FleetOutcome)
    {added : List Condition} {seen : Condition} {type : String}
    (hmesh : ∃ c ∈ added, c.type = "MeshPolicyReady") (hfleet : seen.type = "FleetStateReady")
    (htype : type ∈ reportedTypes) (hoptional : type ∉ optionalConditions) :
    ∃ d ∈ passConditions [credentialsCondition app] resolved ++ added ++ [seen] ++
      summaryConditions out, d.type = type := by
  have hcredentials : (credentialsCondition app).type = "BucketCredentialsReady" := by
    unfold credentialsCondition
    split <;> rfl
  rw [← List.mem_map] at hmesh ⊢
  simp only [passConditions, summaryConditions, List.map_append, List.map_cons, List.map_nil,
    hcredentials, hfleet]
  simp only [optionalConditions, List.mem_cons, List.not_mem_nil, or_false, not_or] at hoptional
  obtain ⟨hingress, hscaler, htracking⟩ := hoptional
  simp only [reportedTypes, List.mem_cons, List.not_mem_nil, or_false] at htype
  rcases htype with rfl | rfl | rfl | rfl | rfl | rfl | rfl | rfl | rfl | rfl
  · simp
  · simp
  · exact absurd rfl htracking
  · exact absurd rfl hingress
  · simp [hmesh]
  · exact absurd rfl hscaler
  · simp
  · simp
  · simp
  · simp

/-- A pass over an accepted spec. -/
theorem SentStatus.backed {r : Reconciler} {app sent : WorkerApp} {t : Trace}
    {answer : Except Err Unit} {type : String} {c : Condition} (h : SentStatus r app sent answer t)
    (hvalid : validateApp r app = .ok ()) (hnames : KeepsNames t) (htype : type ∈ reportedTypes)
    (hfind : findStatusCondition sent.status.conditions type = some c)
    (htrue : c.status = .true_) :
    Backed r app t type ∧ c.observedGeneration = app.generation := by
  cases h with
  | @intro t₀ t₁ t₂ u₁ u₂ u₃ v _ resolved out ingress policy scaler seen founded versioned
      driven routed guarded scaled observed hstatus =>
  obtain ⟨rfl, hfoundation⟩ := ensureFoundation_vouched founded
  rw [hstatus] at hfind
  -- everything that was reported is backed
  have hreported : Vouched r app
      (t₀ ++ (t₁ ++ (t₂ ++ (u₁ ++ (u₂ ++ (u₃ ++ (v ++ [⟨.updateStatus sent, answer⟩])))))))
      (passConditions [credentialsCondition app] resolved ++
        (ingress.2 ++ policy.2 ++ scaler.2) ++ [seen.2] ++ summaryConditions out) := by
    have hnames₁ : KeepsNames u₁ := by
      simp only [keepsNames_append] at hnames
      exact hnames.2.2.2.1
    unfold passConditions
    simp only [vouched_append]
    refine ⟨⟨⟨⟨⟨vouched_one fun _ => .specValid hvalid, hfoundation.append _⟩,
      ((resolveAppVersion_vouched versioned).append _).append_left t₀⟩, ⟨?_, ?_⟩, ?_⟩, ?_⟩, ?_⟩
    · exact (((((ensureIngress_vouched hnames₁ routed).append _).append_left t₂).append_left
        t₁).append_left t₀)
    · exact (((((ensureAuthorizationPolicy_vouched guarded).append _).append_left u₁).append_left
        t₂).append_left t₁).append_left t₀
    · exact ((((((ensureScaledObject_vouched scaled).append _).append_left u₂).append_left
        u₁).append_left t₂).append_left t₁).append_left t₀
    · exact (((((((observedStatus_vouched observed).append _).append_left u₃).append_left
        u₂).append_left u₁).append_left t₂).append_left t₁).append_left t₀
    · exact (((summaryConditions_vouched driven).append _).append_left t₁).append_left t₀
  rcases findStatusCondition_merge hfind with ⟨d, hd, rfl, rfl⟩ | ⟨hnone, hoptional⟩
  · exact ⟨hreported d hd htrue, rfl⟩
  · -- the types that stay when nobody reports them are reported in every pass
    have hfleet : seen.2.type = "FleetStateReady" := by
      obtain ⟨_, _, sweep, _, -, -, hcondition, -⟩ := observedStatus_cases observed
      rw [hcondition]
      exact fleetStateCondition_type sweep.err
    have hmesh : ∃ c ∈ ingress.2 ++ policy.2 ++ scaler.2, c.type = "MeshPolicyReady" := by
      obtain ⟨c, hc, htype⟩ := ensureAuthorizationPolicy_typed guarded
      exact ⟨c, List.mem_append_left _ (List.mem_append_right _ hc), htype⟩
    obtain ⟨d, hd, hdtype⟩ := always_reported app resolved out hmesh hfleet htype hoptional
    exact absurd hdtype (hnone d hd)

/-- **No True without its evidence.**  A condition of the operator's types that a written status
shows as True was found in that very pass, at this generation, or the spec was refused and the
condition is the stored one, of a type that says nothing of the spec, the availability, the
route, the autoscaler or the tracking. -/
theorem conditions_backed (r : Reconciler) (key : NamespacedName) (app sent : WorkerApp)
    (t : Trace) (res : Except Err Result) (answer : Except Err Unit) (type : String)
    (c : Condition) (hrun : Runs (reconcileApp r key app) t res) (hnames : KeepsNames t)
    (hsent : Saw t (.updateStatus sent) answer) (htype : type ∈ reportedTypes)
    (hfind : findStatusCondition sent.status.conditions type = some c)
    (htrue : c.status = .true_) :
    (validateApp r app = .ok () ∧ Backed r app t type ∧ c.observedGeneration = app.generation) ∨
      ((∃ text, validateApp r app = .error text) ∧
        findStatusCondition app.status.conditions type = some c ∧
        type ∉ "SpecValid" :: "Available" :: optionalConditions) := by
  rcases reconcileApp_reported hrun hsent with ⟨text, hinvalid, hstatus⟩ | ⟨hvalid, hreported⟩
  · rw [hstatus] at hfind
    exact .inr ⟨⟨text, hinvalid⟩, find_invalidStatus hfind htrue⟩
  · exact .inl ⟨hvalid, hreported.backed hvalid hnames htype hfind htrue⟩

/-- An operator behind the Gateway `infra/edge`. -/
def gatewayReconciler : Reconciler :=
  { sampleReconciler with gatewayName := "edge", gatewayNamespace := "infra" }

/-- The status the Gateway gives a route it serves. -/
def servedStatus (generation : Nat) : List RouteParentStatus :=
  [⟨"edge", some "infra", [⟨"Accepted", .true_, generation⟩, ⟨"ResolvedRefs", .true_, generation⟩]⟩]

/-- A cluster in which the Gateway is programmed and serves every route at once. -/
def servesRoutes (c : Cluster) : (o : Op) → Resp o × Cluster
  | .getGateway _ _ => (.ok ⟨1, [⟨"Programmed", .true_, 1⟩]⟩, c)
  | .getLive .httpRoute n =>
    ((answerGet c .httpRoute n).map fun live =>
      { live with status := servedStatus live.metadata.generation }, c)
  | o => answer {} c o

/-- The first pass over the WorkerApp there. -/
def routedPass : List (Event Api) × Cluster × Except Err Result :=
  runWith servesRoutes (reconcileApp gatewayReconciler ⟨"prod", "shop"⟩ hostedApp) Cluster.empty

/-- The first pass creates the route, finds it served, and says so. -/
theorem conditions_backed_routed :
    ∃ sent c, Saw routedPass.1 (.updateStatus sent) (.ok ()) ∧
      findStatusCondition sent.status.conditions "IngressReady" = some c ∧ c.status = .true_ ∧
      Backed gatewayReconciler hostedApp routedPass.1 "IngressReady" := by
  have hwritten : (writtenStatus routedPass.1).any (fun sent =>
      (findStatusCondition sent.status.conditions "IngressReady").any fun c =>
        decide (c.status = .true_)) = true := by decide +kernel
  have hnames : routedPass.1.all keepsName = true := by decide +kernel
  have hvalid : validateApp gatewayReconciler hostedApp = .ok () := by decide +kernel
  obtain ⟨sent, hsent, hshown⟩ := (Option.any_eq_true _ _).mp hwritten
  obtain ⟨c, hfind, htrue⟩ := (Option.any_eq_true _ _).mp hshown
  have htrue : c.status = .true_ := of_decide_eq_true htrue
  have hrun : Runs (reconcileApp gatewayReconciler ⟨"prod", "shop"⟩ hostedApp) routedPass.1
      routedPass.2.2 := runs_runWith routedPass rfl
  refine ⟨sent, c, saw_writtenStatus hsent, hfind, htrue, ?_⟩
  rcases conditions_backed gatewayReconciler ⟨"prod", "shop"⟩ hostedApp sent routedPass.1
      routedPass.2.2 (.ok ()) "IngressReady" c hrun (List.all_eq_true.mp hnames)
      (saw_writtenStatus hsent) (by decide) hfind htrue with ⟨-, hbacked, -⟩ | ⟨⟨text, htext⟩, -⟩
  · exact hbacked
  · rw [hvalid] at htext
    cases htext

end CelldOperator
