/-
  CelldOperator.Pass.Privileges

  **THE OPERATOR STAYS WITHIN ITS ROLE.**

  `managerRole` is the ClusterRole of `config/rbac/role.yaml`, `Op.needs` what an
  operation takes of it: a read through the cache is served by an informer, which lists
  and watches, a read past the cache is one `get`.  Every request of every pass, and
  of every sweep of the poller, its list of the WorkerApps included, is granted; and a
  pass takes much less than the role.

    • `passGrants`        — the part of the role that a pass uses,
    • `needs_passGrants`  — the needs of every topic of a pass are in it,
    • `requests_granted`  — every request, after any answers.
-/
import CelldOperator.Children.Ownership
import CelldOperator.Controller.StatePoller
import CelldOperator.Pass.Footprint

namespace CelldOperator

open Effect Prog

/-! ## §1. The role. -/

inductive Verb where
  | get | list | watch | create | update | patch | delete
  deriving DecidableEq

/-- The resources the role names, each of its API group. -/
inductive Resource where
  | events | pods | secrets | serviceAccounts | services
  | statefulSets
  | horizontalPodAutoscalers
  | workerApps | workerAppFinalizers | workerAppStatus
  | gateways | httpRoutes
  | scaledObjects
  | virtualServices
  | ingresses | networkPolicies
  | podDisruptionBudgets
  | authorizationPolicies
  deriving DecidableEq

/-- One permission. -/
abbrev Grant := Resource × Verb

/-- All verbs the role gives on the kinds it manages. -/
def managing : List Verb := [.create, .delete, .get, .list, .patch, .update, .watch]

/-- `config/rbac/role.yaml`. -/
def managerRole : List (List Resource × List Verb) :=
  [ ([.events], [.create, .patch]),
    ([.pods], [.get, .list, .watch]),
    ([.secrets], [.get]),
    ([.serviceAccounts, .services], managing),
    ([.statefulSets], managing),
    ([.horizontalPodAutoscalers], [.get, .list, .watch]),
    ([.workerApps], managing),
    ([.workerAppFinalizers], [.update]),
    ([.workerAppStatus], [.get, .patch, .update]),
    ([.gateways], [.get]),
    ([.httpRoutes], managing),
    ([.scaledObjects], managing),
    ([.virtualServices], managing),
    ([.ingresses, .networkPolicies], managing),
    ([.podDisruptionBudgets], managing),
    ([.authorizationPolicies], managing) ]

/-- What a role comes to. -/
def grantsOf (role : List (List Resource × List Verb)) : List Grant :=
  role.flatMap fun rule => rule.1.flatMap fun resource => rule.2.map fun verb => (resource, verb)

/-! ## §2. What an operation takes. -/

def Kind.resource : Kind → Resource
  | .serviceAccount => .serviceAccounts
  | .internalService | .publicService => .services
  | .networkPolicy => .networkPolicies
  | .podDisruptionBudget => .podDisruptionBudgets
  | .statefulSet => .statefulSets
  | .ingress => .ingresses
  | .httpRoute => .httpRoutes
  | .virtualService => .virtualServices
  | .authorizationPolicy => .authorizationPolicies
  | .scaledObject => .scaledObjects

/-- The cache of the manager holds the kinds it has types for, but HTTPRoutes
(`DisableFor` in `main`); what is read as a tree goes to the server. -/
def Kind.cached : Kind → Bool
  | .httpRoute | .virtualService | .authorizationPolicy | .scaledObject => false
  | _ => true

/-- What an informer takes. -/
def informer (resource : Resource) : List Grant := [(resource, .list), (resource, .watch)]

/-- What an operation takes.  A write sets `blockOwnerDeletion` on the WorkerApp, which some
clusters admit only to those who may update its finalizers.  Pods are listed past the cache by a
pass, and through it by the poller. -/
def Op.needs : Op → List Grant
  | .getApp _ | .listApps => informer .workerApps
  | .updateStatus _ => [(.workerAppStatus, .update)]
  | .getSecret _ => [(.secrets, .get)]
  | .get k _ => if k.cached then informer k.resource else [(k.resource, .get)]
  | .getLive k _ => [(k.resource, .get)]
  | .create k _ => [(k.resource, .create), (.workerAppFinalizers, .update)]
  | .update k _ => [(k.resource, .update), (.workerAppFinalizers, .update)]
  | .delete k _ _ _ => [(k.resource, .delete)]
  | .listPods _ | .getPod _ => informer .pods
  | .listHPAs => [(.horizontalPodAutoscalers, .list)]
  | .getGateway _ _ => [(.gateways, .get)]
  | .now | .getState _ | .getObject _ | .completionOrder _ | .rangeStates _ | .rangeKinds _
  | .trackerLoad _ | .trackerStore _ _ _ | .trackerForget _ => []

/-- **What a pass uses of the role.**  Nothing is patched; only routes and the scaler are
deleted; of the WorkerApp only the status is written, and of pods, Secrets and HPAs nothing. -/
def passGrants : List Grant :=
  grantsOf
    [ ([.serviceAccounts, .services, .networkPolicies, .podDisruptionBudgets, .statefulSets,
        .ingresses], [.get, .list, .watch, .create, .update]),
      ([.httpRoutes, .virtualServices, .authorizationPolicies, .scaledObjects],
        [.get, .create, .update]),
      ([.ingresses, .httpRoutes, .virtualServices, .scaledObjects], [.delete]),
      ([.workerApps, .pods], [.list, .watch]),
      ([.workerAppStatus, .workerAppFinalizers], [.update]),
      ([.secrets, .gateways], [.get]),
      ([.horizontalPodAutoscalers], [.list]) ]

/-! ## §3. Every request is granted. -/

/-- What the operations of a topic may take. -/
def Topic.needs : Topic → List Grant
  | .app => informer .workerApps
  | .status => [(.workerAppStatus, .update)]
  | .read k => (k.resource, .get) :: if k.cached then informer k.resource else []
  | .create k => [(k.resource, .create), (.workerAppFinalizers, .update)]
  | .update k => [(k.resource, .update), (.workerAppFinalizers, .update)]
  | .delete k => [(k.resource, .delete)]
  | .pods => informer .pods
  | .hpas => [(.horizontalPodAutoscalers, .list)]
  | .gateway => [(.gateways, .get)]
  | .secret => [(.secrets, .get)]
  | .object | .state | .clock | .tracker | .order => []

theorem needs_subset_topic (o : Op) : o.needs ⊆ o.topic.needs := by
  cases o with
  | get k n =>
    unfold Op.needs Op.topic Topic.needs
    dsimp only
    split
    · exact List.subset_cons_self _ _
    · exact List.Subset.refl _
  | getLive k n => exact List.cons_subset_cons _ (List.nil_subset _)
  | _ => exact List.Subset.refl _

/-- The topics of a pass need no more than `passGrants`. -/
theorem needs_passGrants : ∀ T ∈ passTopics, T.needs ⊆ passGrants := by decide +kernel

/-- A program on these topics needs what they need. -/
theorem Asks.granted {α : Type} {T : List Topic} {p : P α} {G : List Grant} (hp : Asks T p)
    (hT : ∀ topic ∈ T, topic.needs ⊆ G) : Only (fun o : Op => o.needs ⊆ G) p := by
  refine Only.mono (fun o ho => ?_) hp
  have hmem : o.topic ∈ T := by simpa using ho
  exact List.Subset.trans (needs_subset_topic o) (hT _ hmem)

theorem readFleet_topics (app : WorkerApp) : Asks [.read .statefulSet, .pods] (readFleet app) := by
  unfold readFleet
  refine asks_bind (asks_ask rfl) fun read => ?_
  split
  · exact asks_pure _
  · refine asks_bind (asks_ask rfl) fun listed => ?_
    split <;> exact asks_pure _

/-- One turn of the poller reads, and polls. -/
theorem sampleFleet_topics (app : WorkerApp) :
    Asks (.read .statefulSet :: .clock :: observed) (sampleFleet app) := by
  unfold sampleFleet fleetSweep
  refine asks_bind (asks_ask rfl) fun now => ?_
  refine asks_bind ((readFleet_topics app).mono (by decide)) fun fleet => ?_
  exact asks_bind (asks_bind (asks_ask rfl) fun _ => (pollAll_topics _ _).mono (by decide))
    fun _ => asks_pure _

theorem sweepApps_topics (apps : List WorkerApp) :
    Asks (.read .statefulSet :: .clock :: observed) (sweepApps apps) := by
  induction apps with
  | nil => exact asks_pure _
  | cons app apps ih =>
    unfold sweepApps
    exact asks_bind (sampleFleet_topics app) fun _ => asks_bind ih fun _ => asks_pure _

/-- A whole sweep lists the WorkerApps first. -/
theorem sweep_topics :
    Asks (.app :: .read .statefulSet :: .clock :: observed) StatePoller.sweep := by
  unfold StatePoller.sweep
  refine asks_bind (asks_ask rfl) fun listed => ?_
  split
  · exact asks_pure _
  · exact asks_bind ((sweepApps_topics _).mono (by decide)) fun _ => asks_pure _

/-- What a sweep takes: the lists of the WorkerApps and the pods, and the StatefulSets. -/
def sweepGrants : List Grant :=
  informer .workerApps ++ (informer .pods ++ (Topic.read .statefulSet).needs)

/-- **The operator stays within its role.**  Whatever answers a pass has had, its next request
takes only what the ClusterRole grants, and only the part of it a pass uses; the same holds of the
poller's reads of a fleet, and of its whole sweep, the list of the WorkerApps included. -/
theorem requests_granted (r : Reconciler) (key : NamespacedName) (app : WorkerApp) :
    (∀ (h : Trace) (o : Op) (next : Resp o → P (Except Err Result)),
      Steps (reconcile r key) h (.call o next) →
        o.needs ⊆ passGrants ∧ o.needs ⊆ grantsOf managerRole) ∧
    (∀ (h : Trace) (o : Op) (next : Resp o → P (List Sample)),
      Steps (sampleFleet app) h (.call o next) →
        o.needs ⊆ informer .pods ++ (Topic.read .statefulSet).needs ∧
          o.needs ⊆ grantsOf managerRole) ∧
    ∀ (h : Trace) (o : Op) (next : Resp o → P (Except Err (List Sample))),
      Steps StatePoller.sweep h (.call o next) →
        o.needs ⊆ sweepGrants ∧ o.needs ⊆ grantsOf managerRole := by
  have hrole : passGrants ⊆ grantsOf managerRole := by decide +kernel
  have hsweep : sweepGrants ⊆ passGrants := by decide +kernel
  have hfleet : informer .pods ++ (Topic.read .statefulSet).needs ⊆ sweepGrants :=
    List.subset_append_right _ _
  refine ⟨?_, ?_, ?_⟩
  · intro h o next hsteps
    have hissued := ((reconcile_topics r key).granted needs_passGrants).steps hsteps
    have hneeds := (only_call.mp hissued.2).1
    exact ⟨hneeds, List.Subset.trans hneeds hrole⟩
  · intro h o next hsteps
    have hissued := ((sampleFleet_topics app).granted (G := informer .pods ++
      (Topic.read .statefulSet).needs) (by decide +kernel)).steps hsteps
    have hneeds := (only_call.mp hissued.2).1
    exact ⟨hneeds, List.Subset.trans (List.Subset.trans hneeds hfleet)
      (List.Subset.trans hsweep hrole)⟩
  · intro h o next hsteps
    have hissued := (sweep_topics.granted (G := sweepGrants) (by decide +kernel)).steps hsteps
    have hneeds := (only_call.mp hissued.2).1
    exact ⟨hneeds, List.Subset.trans hneeds (List.Subset.trans hsweep hrole)⟩

/-- A WorkerApp whose image has no tag. -/
def untaggedApp : WorkerApp := sampleApp "ghcr.io/denoland/celld" .rolling

/-- It is refused, which takes the update of its status. -/
theorem requests_granted_refused :
    ∃ (h : Trace) (o : Op) (next : Resp o → P (Except Err Result)),
      Steps (reconcile sampleReconciler ⟨"prod", "shop"⟩) h (.call o next) ∧
      o.needs = [(.workerAppStatus, .update)] ∧ o.needs ⊆ grantsOf managerRole := by
  obtain ⟨e, he, hneeds⟩ : ∃ e ∈ (runWith (S := Api) (answerFor untaggedApp)
      (reconcile sampleReconciler ⟨"prod", "shop"⟩) Cluster.empty).1,
      e.op.needs = [(.workerAppStatus, .update)] := by decide +kernel
  obtain ⟨h, next, hsteps⟩ := steps_of_mem_runWith he
  have hgranted := (requests_granted sampleReconciler ⟨"prod", "shop"⟩ untaggedApp).1 h e.op next
    hsteps
  exact ⟨h, e.op, next, hsteps, hneeds, hgranted.2⟩

end CelldOperator
