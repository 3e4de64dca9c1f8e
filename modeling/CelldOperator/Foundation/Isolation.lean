/-
  CelldOperator.Foundation.Isolation

  **A PASS SEES TO THE FENCE BEFORE THE FLEET.**

  celld's internal listener is unauthenticated, so the NetworkPolicy of a fleet has to
  keep everybody else from it, and a pass has to see to it first.  Both are shown of every
  pass.  It knows the policy by what it found in its cache or had acknowledged; what others
  do to the policy since, and a cache that is behind, it cannot see.

    • `isolates_buildNetworkPolicy` — what the built policy admits to a fleet's pods, in a
      cluster with the policies of any number of other WorkerApps,
    • `ensureFoundation_stands`     — what a foundation that succeeded found or wrote,
    • `fleet_fenced`                — every creation and every update of a StatefulSet.
-/
import CelldOperator.Children.Ownership
import CelldOperator.Children.Standing
import CelldOperator.Net.Policy
import CelldOperator.Pass.Footprint

namespace CelldOperator

open Effect Prog

/-! ## §1. Selectors. -/

/-- A label selector matches. -/
abbrev LabelsMatch (selector labels : StrMap) : Prop := stringMapSubset selector labels = true

theorem labelsMatch_iff {selector labels : StrMap} :
    LabelsMatch selector labels ↔ ∀ k ∈ selector, labels.lookup k = selector.lookup k := by
  unfold LabelsMatch stringMapSubset
  rw [decide_eq_true_iff]
  exact forall_congr' fun k => by rw [Finmap.mem_keys]

theorem labelsMatch_empty (labels : StrMap) : LabelsMatch ∅ labels :=
  labelsMatch_iff.mpr fun _ hk => absurd hk Finmap.notMem_empty

/-- One requirement more. -/
theorem labelsMatch_insert {selector labels : StrMap} {key value : String}
    (hnew : key ∉ selector) :
    LabelsMatch (selector.insert key value) labels ↔
      labels.lookup key = some value ∧ LabelsMatch selector labels := by
  simp only [labelsMatch_iff]
  constructor
  · intro h
    refine ⟨?_, fun k hk => ?_⟩
    · rw [h key (Finmap.mem_insert.mpr (.inl rfl)), Finmap.lookup_insert]
    · have hne : k ≠ key := fun heq => hnew (heq ▸ hk)
      rw [h k (Finmap.mem_insert.mpr (.inr hk)), Finmap.lookup_insert_of_ne _ hne]
  · rintro ⟨hkey, hrest⟩ k hk
    by_cases heq : k = key
    · rw [heq, hkey, Finmap.lookup_insert]
    · rw [Finmap.lookup_insert_of_ne _ heq]
      exact hrest k ((Finmap.mem_insert.mp hk).resolve_left heq)

/-- A selector of one label. -/
theorem labelsMatch_one {labels : StrMap} {key value : String} :
    LabelsMatch (StrMap.ofList [(key, value)]) labels ↔ labels.lookup key = some value := by
  unfold StrMap.ofList
  rw [List.foldl_cons, List.foldl_nil, labelsMatch_insert Finmap.notMem_empty]
  exact and_iff_left (labelsMatch_empty labels)

/-- A selector of two. -/
theorem labelsMatch_two {labels : StrMap} {key value key' value' : String} (hne : key' ≠ key) :
    LabelsMatch (StrMap.ofList [(key, value), (key', value')]) labels ↔
      labels.lookup key' = some value' ∧ labels.lookup key = some value := by
  have hnew : key' ∉ (∅ : StrMap).insert key value := fun h =>
    (Finmap.mem_insert.mp h).elim hne Finmap.notMem_empty
  unfold StrMap.ofList
  rw [List.foldl_cons, List.foldl_cons, List.foldl_nil, labelsMatch_insert hnew,
    labelsMatch_insert Finmap.notMem_empty]
  exact and_congr_right fun _ => and_iff_left (labelsMatch_empty labels)

/-! ## §2. The meaning of the policy. -/

/-- The policy an object of this namespace stands for. -/
def NetworkPolicySpec.policy (namespace_ : String) (spec : NetworkPolicySpec) :
    Net.Policy StrMap where
  space := namespace_
  inbound := spec.policyTypes.contains "Ingress"
  selector := spec.podSelector
  rules := spec.ingress.map fun rule =>
    { protocol := rule.protocol
      port := rule.port
      peers := rule.peers.map fun peer => ⟨peer.podSelector, peer.namespaceSelector⟩ }

/-- The policy the operator builds. -/
def builtPolicy (app : WorkerApp) (operatorNamespace : String) : Net.Policy StrMap :=
  NetworkPolicySpec.policy app.namespace_ (buildNetworkPolicy app operatorNamespace).spec

/-- A pod with the label of the fleet, in its namespace. -/
def FleetPod (app : WorkerApp) (pod : Net.Endpoint StrMap) : Prop :=
  pod.space = app.namespace_ ∧ pod.labels.lookup "celld-operator.io/workerapp" = some app.name

/-- A pod of the operator. -/
def OperatorPod (operatorNamespace : String) (pod : Net.Endpoint StrMap) : Prop :=
  pod.spaceLabels.lookup "kubernetes.io/metadata.name" = some operatorNamespace ∧
    pod.labels.lookup "app.kubernetes.io/name" = some "celld-operator" ∧
    pod.labels.lookup "control-plane" = some "controller-manager"

/-- **Isolation of a fleet.**  Beside the policies of any other WorkerApps, its pods receive TCP
on the public port from everybody, TCP on the internal port from the fleet and the operator, and
nothing else. -/
def Isolates (operatorNamespace : String) (app : WorkerApp) (spec : NetworkPolicySpec) : Prop :=
  ∀ (others : List (WorkerApp × String)),
    (∀ other ∈ others, other.1.namespace_ ≠ app.namespace_ ∨ other.1.name ≠ app.name) →
    ∀ (src : Option (Net.Endpoint StrMap)) (dst : Net.Endpoint StrMap) (protocol : String)
      (port : Nat), FleetPod app dst →
      (Net.Admitted LabelsMatch
          (spec.policy app.namespace_ :: others.map fun other => builtPolicy other.1 other.2)
          src dst protocol port ↔
        protocol = "TCP" ∧ (port = publicPort ∨ port = internalPort ∧
          ∃ pod ∈ src, FleetPod app pod ∨ OperatorPod operatorNamespace pod))

section

variable {app : WorkerApp} {ns : String} {pod dst : Net.Endpoint StrMap}

/-- The policy of a WorkerApp selects its own pods. -/
theorem builtPolicy_selects :
    (builtPolicy app ns).Selects LabelsMatch dst ↔ FleetPod app dst := by
  have hinbound : (builtPolicy app ns).inbound = true := rfl
  show (builtPolicy app ns).inbound = true ∧ app.namespace_ = dst.space ∧
    LabelsMatch (selectorLabels app) dst.labels ↔ _
  unfold selectorLabels FleetPod
  rw [labelsMatch_one, and_iff_right hinbound, eq_comm]

theorem fleetPeer_admits :
    (⟨selectorLabels app, none⟩ : Net.Peer StrMap).Admits LabelsMatch app.namespace_ pod ↔
      FleetPod app pod := by
  show LabelsMatch (selectorLabels app) pod.labels ∧ pod.space = app.namespace_ ↔ _
  unfold selectorLabels FleetPod
  rw [labelsMatch_one]
  exact and_comm

theorem operatorPeer_admits {space : String} :
    (⟨StrMap.ofList [("control-plane", "controller-manager"),
        ("app.kubernetes.io/name", "celld-operator")],
      some (StrMap.ofList [("kubernetes.io/metadata.name", ns)])⟩ : Net.Peer StrMap).Admits
        LabelsMatch space pod ↔ OperatorPod ns pod := by
  show LabelsMatch _ pod.labels ∧ LabelsMatch _ pod.spaceLabels ↔ _
  unfold OperatorPod
  rw [labelsMatch_two (by decide), labelsMatch_one]
  exact and_comm

/-- What the built policy admits. -/
theorem builtPolicy_admits {src : Option (Net.Endpoint StrMap)} {protocol : String} {port : Nat} :
    (builtPolicy app ns).Admits LabelsMatch src protocol port ↔
      protocol = "TCP" ∧ (port = publicPort ∨ port = internalPort ∧
        ∃ pod ∈ src, FleetPod app pod ∨ OperatorPod ns pod) := by
  -- the two rules, one for each port
  have hinternal : ∀ pod, (∃ peer ∈ ([⟨selectorLabels app, none⟩,
      ⟨StrMap.ofList [("control-plane", "controller-manager"),
        ("app.kubernetes.io/name", "celld-operator")],
      some (StrMap.ofList [("kubernetes.io/metadata.name", ns)])⟩] : List (Net.Peer StrMap)),
      peer.Admits LabelsMatch app.namespace_ pod) ↔ FleetPod app pod ∨ OperatorPod ns pod := by
    intro pod
    simp only [List.exists_mem_cons_iff, List.not_mem_nil, false_and, exists_false, or_false,
      fleetPeer_admits, operatorPeer_admits]
  show (∃ rule ∈ ([⟨"TCP", internalPort, [⟨selectorLabels app, none⟩,
      ⟨StrMap.ofList [("control-plane", "controller-manager"),
        ("app.kubernetes.io/name", "celld-operator")],
      some (StrMap.ofList [("kubernetes.io/metadata.name", ns)])⟩]⟩,
      ⟨"TCP", publicPort, []⟩] : List (Net.Rule StrMap)),
      rule.Admits LabelsMatch app.namespace_ src protocol port) ↔ _
  simp only [List.exists_mem_cons_iff, List.not_mem_nil, false_and, exists_false, or_false,
    Net.Rule.Admits, hinternal, reduceCtorEq, false_or, true_or, and_true]
  constructor
  · rintro (⟨rfl, rfl, hpeer⟩ | ⟨rfl, rfl⟩)
    · exact ⟨rfl, .inr ⟨rfl, hpeer⟩⟩
    · exact ⟨rfl, .inl rfl⟩
  · rintro ⟨rfl, rfl | ⟨rfl, hpeer⟩⟩
    · exact .inr ⟨rfl, rfl⟩
    · exact .inl ⟨rfl, rfl, hpeer⟩

/-- **The built policy isolates its fleet.** -/
theorem isolates_buildNetworkPolicy (app : WorkerApp) (ns : String) :
    Isolates ns app (buildNetworkPolicy app ns).spec := by
  intro others hothers src dst protocol port hdst
  have hsel : (builtPolicy app ns).Selects LabelsMatch dst := builtPolicy_selects.mpr hdst
  rw [← builtPolicy_admits]
  refine Net.admitted_iff_of_only (List.mem_cons_self ..) hsel ?_
  intro policy hpolicy hselects
  rcases List.mem_cons.mp hpolicy with rfl | hpolicy
  · rfl
  · -- a policy of another WorkerApp does not select these pods
    obtain ⟨other, hother, rfl⟩ := List.mem_map.mp hpolicy
    obtain ⟨hspace, hlabel⟩ := builtPolicy_selects.mp hselects
    rcases hothers other hother with hne | hne
    · exact absurd (hspace.symm.trans hdst.1) hne
    · exact absurd (Option.some.inj (hlabel.symm.trans hdst.2)) hne

end

/-! ## §3. What a foundation finds or writes. -/

section

variable {r : Reconciler} {app : WorkerApp} {t : Trace}

/-- **A foundation that succeeded** has found the policy, or had it acknowledged. -/
theorem ensureFoundation_stands {conditions : List Condition}
    (hr : Runs (ensureFoundation r app) t (.ok conditions)) :
    ∃ policy : Obj .networkPolicy, Stands (fleetName app) t policy ∧
      policy.spec = (buildNetworkPolicy app r.operatorNamespace).spec := by
  unfold ensureFoundation at hr
  obtain ⟨_, t₁, u₁, rfl, -, hr⟩ := runs_check_headed hr
  obtain ⟨_, t₂, u₂, rfl, -, hr⟩ := runs_check_headed hr
  obtain ⟨_, t₃, u₃, rfl, -, hr⟩ := runs_check_headed hr
  obtain ⟨_, t₄, u₄, rfl, hpolicy, -⟩ := runs_check_headed hr
  obtain ⟨policy, hstands, hspec⟩ := ensureObject_stands hpolicy
  exact ⟨policy, (((hstands.append u₄).append_left t₃).append_left t₂).append_left t₁, hspec⟩

end

/-! ## §4. The fence comes first. -/

/-- **The fleet is fenced**, as far as the pass can tell: it has found a policy that isolates it,
or had one acknowledged. -/
def Fenced (r : Reconciler) (key : NamespacedName) (h : Trace) : Prop :=
  ∃ (app : WorkerApp) (policy : Obj .networkPolicy), Saw h (.getApp key) (.ok app) ∧
    Stands (fleetName app) h policy ∧ Isolates r.operatorNamespace app policy.spec

/-- A StatefulSet is written behind the fence only. -/
def FenceEvent (r : Reconciler) (key : NamespacedName) (h : Trace) (e : Event Api) : Prop :=
  e.op.writes = some .statefulSet → Fenced r key h

section

variable {α : Type} {r : Reconciler} {key : NamespacedName} {app : WorkerApp} {h : Trace}
  {T : List Topic}

theorem Fenced.append (hf : Fenced r key h) (t : Trace) : Fenced r key (h ++ t) := by
  obtain ⟨app, policy, happ, hstands, hisolates⟩ := hf
  exact ⟨app, policy, happ.append t, hstands.append t, hisolates⟩

/-- Behind the fence anything goes. -/
theorem Fenced.valid (hf : Fenced r key h) (p : P α) :
    Valid (FenceEvent r key) h p (fun _ _ => True) := by
  have hvalid : Valid (FenceEvent r key) h p (fun h' _ => Fenced r key h') :=
    valid_of_kept (I := FenceEvent r key) (fun _ e hf => hf.append [e]) (fun _ _ hf _ => hf) p hf
  exact hvalid.post fun _ _ _ => trivial

/-- A program that writes no StatefulSet needs no fence. -/
theorem Asks.unfenced {p : P α} (hp : Asks T p)
    (hT : ∀ topic ∈ T, topic ∉ [.create .statefulSet, .update .statefulSet, .delete .statefulSet]) :
    Valid (FenceEvent r key) h p (fun h' a => ∃ t, h' = h ++ t ∧ Runs p t a) := by
  refine (Only.valid hp fun h e he hwrites => ?_).post ?_
  · have hmem := hT e.op.topic (List.contains_iff_mem.mp he)
    obtain ⟨o, res⟩ := e
    cases o with
    | create k _ | update k _ | delete k _ _ _ =>
      cases hwrites
      simp [Op.topic] at hmem
    | _ => cases hwrites
  · rintro h' a ⟨t, rfl, hr, -⟩
    exact ⟨t, rfl, hr⟩

/-- **One pass**: the foundation is laid, then comes the fleet. -/
theorem reconcileApp_fenced (happ : Saw h (.getApp key) (.ok app)) :
    Valid (FenceEvent r key) h (reconcileApp r key app) (fun _ _ => True) := by
  unfold reconcileApp
  split
  · exact (Asks.unfenced (T := [.tracker]) (asks_bind (asks_ask rfl) fun _ => asks_pure _)
      (by decide)).post fun _ _ _ => trivial
  · split
    · exact ((rejectSpec_topics ..).unfenced (by decide)).post fun _ _ _ => trivial
    · unfold reconcileValid
      refine valid_check (((ensureFoundation_topics r app).unfenced (by decide)).post ?_)
      rintro _ res ⟨t, rfl, hr⟩
      cases res with
      | error e => trivial
      | ok conditions =>
        obtain ⟨policy, hstands, hspec⟩ := ensureFoundation_stands hr
        have hfenced : Fenced r key (h ++ t) :=
          ⟨app, policy, happ.append t, hstands.append_left h,
            hspec ▸ isolates_buildNetworkPolicy app r.operatorNamespace⟩
        exact hfenced.valid _

end

/-- **The fence comes first.**  Whenever a pass creates, updates or deletes a StatefulSet, it has
found before, or had acknowledged, a NetworkPolicy under the fleet's name that admits TCP to the
public port of the fleet's pods from everybody, to the internal port from the fleet and the
operator, and nothing else, beside the policies of any other WorkerApps. -/
theorem fleet_fenced (r : Reconciler) (key : NamespacedName) (h : Trace) (o : Op)
    (next : Resp o → P (Except Err Result)) (hwrites : o.writes = some .statefulSet)
    (hsteps : Steps (reconcile r key) h (.call o next)) : Fenced r key h := by
  have hvalid : Valid (FenceEvent r key) [] (reconcile r key) (fun _ _ => True) := by
    rw [reconcile_eq, valid_bind, valid_req]
    refine fun read => ⟨fun hw => (by cases hw), ?_⟩
    cases read with
    | error e =>
      unfold reconcileRead
      dsimp only
      split
      · exact (Asks.unfenced (T := [.tracker]) (asks_bind (asks_ask rfl) fun _ => asks_pure _)
          (by decide)).post fun _ _ _ => trivial
      · exact valid_exit trivial
    | ok app => exact reconcileApp_fenced (List.mem_singleton_self _)
  cases o with
  | create k desired => exact valid_issued hvalid hsteps (.error (.other "")) hwrites
  | update k desired => exact valid_issued hvalid hsteps (.error (.other "")) hwrites
  | delete k _ _ _ => exact valid_issued hvalid hsteps (.error (.other "")) hwrites
  | _ => cases hwrites

/-- The names of the StatefulSets created along a trace. -/
def createdFleets (t : Trace) : List String :=
  t.filterMap fun e => match e.op with
    | .create .statefulSet o => some o.metadata.name
    | _ => none

/-- In an empty cluster, the fleet is created behind its fence. -/
theorem fleet_fenced_created :
    ∃ h, Fenced sampleReconciler ⟨"prod", "shop"⟩ h := by
  have hcreated : "shop-celld" ∈ createdFleets (runWith (S := Api) (answerFor servingApp)
      (reconcile sampleReconciler ⟨"prod", "shop"⟩) Cluster.empty).1 := by
    decide +kernel
  obtain ⟨⟨o, res⟩, hmem, hname⟩ := List.mem_filterMap.mp hcreated
  obtain ⟨h, next, hsteps⟩ := steps_of_mem_runWith hmem
  cases o with
  | create k desired =>
    cases k with
    | statefulSet =>
      exact ⟨h, fleet_fenced sampleReconciler ⟨"prod", "shop"⟩ h
        (.create .statefulSet desired) next rfl hsteps⟩
    | _ => cases hname
  | _ => cases hname

end CelldOperator
