/-
  CelldOperator.Foundation.Steady

  **A STEADY PASS OVER THE FOUNDATION.**  The API server stores what it is sent
  after filling in fields that were left unset.  A second pass that finds every
  object as the first one left it should write none of them.

    • `Filled` — what the server may store for what it was sent,
    • `reconcileAnnotations_idem`, `identityAfter_idem` — merged metadata is stable
      under a second merge,
    • `ensureFoundation_founded` — what a completed pass leaves behind,
    • `steady_pass_iff` — the next one writes nothing exactly if the server filled in
      no field of a port that the operator copies over: the protocol, and on the
      internal Service the node port,
    • `steady_pass_writes` — with the default `TCP` both Services are written by
      every pass.
-/
import CelldOperator.Foundation.Identity

namespace CelldOperator

open Effect Prog

/-! ## §1. A server that fills in defaults. -/

/-- The Service types that are given node ports. -/
abbrev ServiceType.usesNodePorts (t : ServiceType) : Prop := t = .nodePort ∨ t = .loadBalancer

/-- A stored port: a field that was set is kept; the protocol may be filled in, the node port
where the Service has one. -/
structure FilledPort (type : ServiceType) (sent v : ServicePort) : Prop where
  name : v.name = sent.name
  port : v.port = sent.port
  targetPort : v.targetPort = sent.targetPort
  protocol : sent.protocol ≠ "" → v.protocol = sent.protocol
  nodePort : sent.nodePort ≠ 0 ∨ ¬ type.usesNodePorts → v.nodePort = sent.nodePort

/-- A stored Service. -/
structure FilledService (sent v : ServiceSpec) : Prop where
  type : sent.type ≠ .unset → v.type = sent.type
  clusterIP : sent.clusterIP ≠ "" → v.clusterIP = sent.clusterIP
  selector : v.selector = sent.selector
  publish : v.publishNotReadyAddresses = sent.publishNotReadyAddresses
  ports : List.Forall₂ (FilledPort v.type) sent.ports v.ports

/-- A stored spec; the builders leave nothing unset in the specs of the other kinds. -/
def FilledSpec : (k : Kind) → Spec k → Spec k → Prop
  | .internalService, sent, v | .publicService, sent, v => FilledService sent v
  | _, sent, v => v = sent

/-- **What the server stores** for what it was sent. -/
structure Filled {k : Kind} (sent v : Obj k) : Prop where
  metadata : v.metadata = { sent.metadata with
    uid := v.metadata.uid
    resourceVersion := v.rv
    generation := v.metadata.generation }
  spec : FilledSpec k sent.spec v.spec

/-- The stored objects, each under its own name. -/
structure Shelf where
  obj : (k : Kind) → String → Option (Obj k)
  named : ∀ k n v, obj k n = some v → v.metadata.name = n

namespace Shelf

def empty : Shelf := ⟨fun _ _ => none, by simp⟩

/-- Store an object. -/
def put (s : Shelf) {k : Kind} (v : Obj k) : Shelf where
  obj := Function.update s.obj k (Function.update (s.obj k) v.metadata.name (some v))
  named := by
    intro k' n w h
    rcases eq_or_ne k' k with rfl | hk
    · rw [Function.update_self] at h
      rcases eq_or_ne n v.metadata.name with rfl | hn
      · rw [Function.update_self] at h
        cases h
        rfl
      · rw [Function.update_of_ne hn] at h
        exact s.named _ _ _ h
    · rw [Function.update_of_ne hk] at h
      exact s.named _ _ _ h

theorem put_obj (s : Shelf) {k : Kind} (v : Obj k) : (s.put v).obj k v.metadata.name = some v := by
  simp [put]

theorem put_obj_of_ne (s : Shelf) {k k' : Kind} (v : Obj k) (h : k' ≠ k) :
    (s.put v).obj k' = s.obj k' := by
  simp [put, Function.update_of_ne h]

end Shelf

/-- The server: reads tell the truth or fail, a write that is accepted is stored filled in, a
failed one changes nothing.  The foundation is never deleted. -/
def ServeFilled (s : Shelf) : (o : Op) → Resp o → Shelf → Prop
  | .get k n, .ok v, s' => s' = s ∧ s.obj k n = some v
  | .get k n, .error e, s' => s' = s ∧ (e.isNotFound = true → s.obj k n = none)
  | .create k sent, .ok v, s' =>
    s.obj k sent.metadata.name = none ∧ Filled sent v ∧ s' = s.put v
  | .update k sent, .ok v, s' =>
    (∃ cur, s.obj k sent.metadata.name = some cur ∧ cur.rv = sent.rv) ∧ Filled sent v ∧
      s' = s.put v
  | _, _, s' => s' = s

/-- Nobody else writes. -/
def Undisturbed (_ _ : Shelf) : Prop := False

theorem stable_undisturbed (A : Shelf → Prop) : Stable Undisturbed A := fun _ _ _ h => h.elim

/-- Only writes of a kind change the objects of that kind. -/
theorem ServeFilled.frame {s s' : Shelf} {o : Op} {res : Resp o} (h : ServeFilled s o res s')
    {k : Kind} (ho : o.writes ≠ some k) : s'.obj k = s.obj k := by
  unfold ServeFilled at h
  split at h
  · rw [h.1]
  · rw [h.1]
  · rw [h.2.2]
    exact Shelf.put_obj_of_ne _ _ fun heq => ho (by rw [heq]; rfl)
  · rw [h.2.2]
    exact Shelf.put_obj_of_ne _ _ fun heq => ho (by rw [heq]; rfl)
  · rw [h]

/-- What writes nothing changes nothing. -/
theorem ServeFilled.eq_of_reads {s s' : Shelf} {o : Op} {res : Resp o}
    (h : ServeFilled s o res s') (ho : o.writes = none) : s' = s := by
  unfold ServeFilled at h
  split at h
  · exact h.1
  · exact h.1
  · cases ho
  · cases ho
  · exact h

/-! ## §2. Merged metadata. -/

theorem mergeStringMaps_idem (live desired : StrMap) :
    mergeStringMaps (mergeStringMaps live desired) desired = mergeStringMaps live desired := by
  refine Finmap.ext_lookup fun key => ?_
  simp only [lookup_mergeStringMaps]
  cases desired.lookup key <;> rfl

theorem mergeStringMaps_self (m : StrMap) : mergeStringMaps m m = m := by
  refine Finmap.ext_lookup fun key => ?_
  rw [lookup_mergeStringMaps]
  cases m.lookup key <;> rfl

/-- **Identities are stable.** -/
theorem identityAfter_idem (app : WorkerApp) (found : StrMap) :
    identityAfter app (identityAfter app found) = identityAfter app found := by
  refine Finmap.ext_lookup fun key => ?_
  rw [lookup_identityAfter, lookup_identityAfter]
  split
  · rfl
  · cases namedIdentity app key <;> rfl

/-- The keys of the last inventory, and those of releases without one. -/
def inventory (lib : Lib) (k : Kind) (annotations : StrMap) : List String :=
  lib.unmarshalKeys (annotations.get managedAnnotationsKey) ++
    (if k = .ingress then legacyIngressKeys else [])

/-- What becomes of each annotation; of the desired ones only those besides the inventory
count. -/
theorem lookup_reconcileAnnotations (lib : Lib) (k : Kind) (annotations desired : StrMap)
    (key : String) :
    (reconcileAnnotations lib k annotations desired).lookup key =
      if key = managedAnnotationsKey then
        some (lib.marshalKeys ((desired.erase managedAnnotationsKey).keys.sort (· ≤ ·)))
      else ((desired.erase managedAnnotationsKey).lookup key).or
        (if key ∈ inventory lib k annotations then none else annotations.lookup key) := by
  unfold reconcileAnnotations inventory
  dsimp only
  by_cases hkey : key = managedAnnotationsKey
  · rw [if_pos hkey, hkey, Finmap.lookup_insert]
  · rw [if_neg hkey, Finmap.lookup_insert_of_ne _ hkey, lookup_mergeStringMaps,
      StrMap.lookup_eraseAll, Finmap.lookup_erase_ne hkey]
    cases hdesired : desired.lookup key with
    | some value => rfl
    | none =>
      have hmem : key ∉ desired := Finmap.lookup_eq_none.mp hdesired
      simp [hmem]

/-- A desired inventory is not looked at. -/
theorem reconcileAnnotations_congr (lib : Lib) (k : Kind) (annotations : StrMap)
    {desired desired' : StrMap}
    (h : desired.erase managedAnnotationsKey = desired'.erase managedAnnotationsKey) :
    reconcileAnnotations lib k annotations desired =
      reconcileAnnotations lib k annotations desired' := by
  refine Finmap.ext_lookup fun key => ?_
  rw [lookup_reconcileAnnotations, lookup_reconcileAnnotations, h]

/-- Reading an inventory back gives no key that was not written. -/
def ReadsBack (lib : Lib) : Prop := ∀ keys, lib.unmarshalKeys (lib.marshalKeys keys) ⊆ keys

/-- The inventory a call leaves behind. -/
theorem get_reconcileAnnotations (lib : Lib) (k : Kind) (annotations desired : StrMap) :
    (reconcileAnnotations lib k annotations desired).get managedAnnotationsKey =
      lib.marshalKeys ((desired.erase managedAnnotationsKey).keys.sort (· ≤ ·)) := by
  unfold StrMap.get
  rw [lookup_reconcileAnnotations, if_pos rfl, Option.getD_some]

/-- **Annotations under an inventory are stable.** -/
theorem reconcileAnnotations_idem {lib : Lib} (hlib : ReadsBack lib) (k : Kind)
    (annotations desired : StrMap) :
    reconcileAnnotations lib k (reconcileAnnotations lib k annotations desired) desired =
      reconcileAnnotations lib k annotations desired := by
  refine Finmap.ext_lookup fun key => ?_
  rw [lookup_reconcileAnnotations]
  by_cases hkey : key = managedAnnotationsKey
  · rw [if_pos hkey, lookup_reconcileAnnotations, if_pos hkey]
  · rw [if_neg hkey, lookup_reconcileAnnotations, if_neg hkey]
    cases hdesired : (desired.erase managedAnnotationsKey).lookup key with
    | some value => rfl
    | none =>
      rw [Option.none_or, Option.none_or]
      by_cases hlisted : key ∈ inventory lib k (reconcileAnnotations lib k annotations desired)
      · -- the new inventory lists desired keys only, so this one is a legacy key: gone already
        rw [if_pos hlisted]
        unfold inventory at hlisted ⊢
        rw [get_reconcileAnnotations, List.mem_append] at hlisted
        rcases hlisted with hwritten | hlegacy
        · have hmem := hlib _ hwritten
          rw [Finset.mem_sort, Finmap.mem_keys] at hmem
          exact absurd hmem (Finmap.lookup_eq_none.mp hdesired)
        · rw [if_pos (List.mem_append.mpr (.inr hlegacy))]
      · rw [if_neg hlisted]

/-- The annotations a Service is created with. -/
theorem reconcileAnnotations_erase (lib : Lib) (k : Kind) (annotations : StrMap) :
    (reconcileAnnotations lib k annotations annotations).erase managedAnnotationsKey =
      annotations.erase managedAnnotationsKey := by
  refine Finmap.ext_lookup fun key => ?_
  by_cases hkey : key = managedAnnotationsKey
  · rw [hkey, Finmap.lookup_erase, Finmap.lookup_erase]
  · rw [Finmap.lookup_erase_ne hkey, lookup_reconcileAnnotations, if_neg hkey,
      Finmap.lookup_erase_ne hkey]
    cases hfound : annotations.lookup key <;> simp

/-! ## §3. Objects that are left alone. -/

section settled

variable {k : Kind} {mutate : Obj k → Obj k → Obj k} {desired sent v : Obj k}

/-- A pass that finds `v` has nothing to write. -/
abbrev Settled (mutate : Obj k → Obj k → Obj k) (desired v : Obj k) : Prop :=
  mutated mutate v desired = v

/-- What a pass may send: a new object, or a live one after the mutation. -/
def Sent (mutate : Obj k → Obj k → Obj k) (desired sent : Obj k) : Prop :=
  sent = desired ∨ ∃ live, sent = mutated mutate live desired

/-- A mutation changes the spec, the annotations and nothing else. -/
def Mutation (mutate : Obj k → Obj k → Obj k) : Prop :=
  ∀ live desired, mutate live desired = { live with
    spec := (mutate live desired).spec
    metadata := { live.metadata with
      annotations := (mutate live desired).metadata.annotations } }

theorem settled_iff (hm : Mutation mutate) :
    Settled mutate desired v ↔ (mutate v desired).spec = v.spec ∧
      (mutate v desired).metadata.annotations = v.metadata.annotations ∧
      mergeStringMaps v.metadata.labels desired.metadata.labels = v.metadata.labels := by
  show mutated mutate v desired = v ↔ _
  unfold mutated
  rw [hm v desired]
  obtain ⟨⟨name, uid, rv, generation, labels, annotations, owners⟩, spec, status⟩ := v
  simp only [Obj.mk.injEq, ObjectMeta.mk.injEq, true_and, and_true]
  exact ⟨fun h => ⟨h.2, h.1.2, h.1.1⟩, fun h => ⟨⟨h.2.2, h.2.1⟩, h.1⟩⟩

/-- Our labels are among those sent. -/
theorem Sent.labels (hs : Sent mutate desired sent) :
    mergeStringMaps sent.metadata.labels desired.metadata.labels = sent.metadata.labels := by
  rcases hs with rfl | ⟨live, rfl⟩
  · exact mergeStringMaps_self _
  · exact mergeStringMaps_idem _ _

/-- The metadata of a stored object, as far as a mutation looks. -/
theorem Filled.labels (hf : Filled sent v) : v.metadata.labels = sent.metadata.labels := by
  rw [hf.metadata]

theorem Filled.annotations (hf : Filled sent v) :
    v.metadata.annotations = sent.metadata.annotations := by
  rw [hf.metadata]

theorem Filled.owners (hf : Filled sent v) :
    v.metadata.ownerReferences = sent.metadata.ownerReferences := by
  rw [hf.metadata]

theorem Filled.name (hf : Filled sent v) : v.metadata.name = sent.metadata.name := by
  rw [hf.metadata]

/-- A stored object is settled if its spec and its annotations are. -/
theorem settled_of_filled (hm : Mutation mutate) (hs : Sent mutate desired sent)
    (hf : Filled sent v) (hspec : (mutate v desired).spec = v.spec)
    (hannotations : (mutate v desired).metadata.annotations = v.metadata.annotations) :
    Settled mutate desired v := by
  refine (settled_iff hm).mpr ⟨hspec, hannotations, ?_⟩
  rw [hf.labels]
  exact hs.labels

end settled

theorem mutation_serviceAccount (app : WorkerApp) : Mutation (mutateServiceAccount app) :=
  fun _ _ => rfl

theorem mutation_internalService : Mutation mutateInternalService := fun _ _ => rfl

theorem mutation_publicService (lib : Lib) : Mutation (mutatePublicService lib) := fun _ _ => rfl

theorem mutation_replaceSpec {k : Kind} : Mutation (replaceSpec (k := k)) := fun _ _ => rfl

/-- The ServiceAccount. -/
theorem settled_serviceAccount (r : Reconciler) (app : WorkerApp) {sent v : Obj .serviceAccount}
    (hs : Sent (mutateServiceAccount app) (prepare r app (buildServiceAccount app)) sent)
    (hf : Filled sent v) :
    Settled (mutateServiceAccount app) (prepare r app (buildServiceAccount app)) v := by
  refine settled_of_filled (mutation_serviceAccount app) hs hf rfl ?_
  show identityAfter app v.metadata.annotations = v.metadata.annotations
  rw [hf.annotations]
  rcases hs with rfl | ⟨live, rfl⟩
  · show identityAfter app (buildServiceAccount app).metadata.annotations =
      (buildServiceAccount app).metadata.annotations
    rw [← identityAfter_empty]
    exact identityAfter_idem app ∅
  · exact identityAfter_idem app live.metadata.annotations

/-- The kinds whose spec is taken over whole. -/
theorem settled_replaceSpec {k : Kind} {desired sent v : Obj k}
    (hk : ∀ sent v : Spec k, FilledSpec k sent v → v = sent)
    (hs : Sent replaceSpec desired sent) (hf : Filled sent v) : Settled replaceSpec desired v := by
  refine settled_of_filled mutation_replaceSpec hs hf ?_ rfl
  show desired.spec = v.spec
  rw [hk _ _ hf.spec]
  rcases hs with rfl | ⟨live, rfl⟩ <;> rfl

/-! ## §4. Services. -/

/-- The one port of a stored Service. -/
theorem filledPorts_single {type : ServiceType} {p : ServicePort} {ports : List ServicePort}
    (h : List.Forall₂ (FilledPort type) [p] ports) : ∃ q, ports = [q] ∧ FilledPort type p q := by
  obtain ⟨q, rest, hq, hrest, rfl⟩ := List.forall₂_cons_left_iff.mp h
  cases hrest
  exact ⟨q, rfl, hq⟩

/-- A port that differs only in what the server fills in. -/
theorem FilledPort.eq_iff {type : ServiceType} {p q : ServicePort} (h : FilledPort type p q) :
    p = q ↔ q.protocol = p.protocol ∧ q.nodePort = p.nodePort := by
  obtain ⟨hname, hport, htarget, -, -⟩ := h
  cases p
  cases q
  simp_all [eq_comm, and_comm]

/-- The port of the internal Service, as the operator sends it. -/
def internalServicePort : ServicePort :=
  { name := "internal", port := internalPort, targetPort := internalPort }

/-- The port of the public Service. -/
def publicServicePort : ServicePort :=
  { name := "public", port := publicPort, targetPort := publicPort }

/-- Nothing of a port that the operator overwrites has been filled in: on the internal Service. -/
def InternalUnfilled (v : Obj .internalService) : Prop :=
  ∀ p ∈ ServiceSpec.ports v.spec, p.protocol = "" ∧ p.nodePort = 0

/-- The same on the public Service, which keeps its node ports. -/
def PublicUnfilled (v : Obj .publicService) : Prop :=
  ∀ p ∈ ServiceSpec.ports v.spec, p.protocol = ""

/-- The ports a pass would write are those found. -/
theorem unfilled_of_settled_internal {r : Reconciler} {app : WorkerApp} {v : Obj .internalService}
    (h : Settled mutateInternalService (prepare r app (buildInternalService app)) v) :
    InternalUnfilled v := by
  have hsame : [internalServicePort] = ServiceSpec.ports v.spec :=
    congrArg ServiceSpec.ports ((settled_iff mutation_internalService).mp h).1
  unfold InternalUnfilled
  rw [← hsame]
  simp [internalServicePort]

/-- **The internal Service**, stored with its ports as they were sent. -/
theorem settled_internalService {r : Reconciler} {app : WorkerApp}
    {sent v : Obj .internalService}
    (hs : Sent mutateInternalService (prepare r app (buildInternalService app)) sent)
    (hf : Filled sent v) (hunfilled : InternalUnfilled v) :
    Settled mutateInternalService (prepare r app (buildInternalService app)) v := by
  have hports : ServiceSpec.ports sent.spec = [internalServicePort] := by
    rcases hs with rfl | ⟨live, rfl⟩ <;> rfl
  have hselector : ServiceSpec.selector sent.spec = selectorLabels app := by
    rcases hs with rfl | ⟨live, rfl⟩ <;> rfl
  have hpublish : ServiceSpec.publishNotReadyAddresses sent.spec = true := by
    rcases hs with rfl | ⟨live, rfl⟩ <;> rfl
  have hspec : FilledService sent.spec v.spec := hf.spec
  have hfilled := hspec.ports
  rw [hports] at hfilled
  obtain ⟨q, hq, hport⟩ := filledPorts_single hfilled
  have hsame : internalServicePort = q :=
    hport.eq_iff.mpr (hunfilled q (by rw [hq]; exact .head _))
  refine settled_of_filled mutation_internalService hs hf ?_ rfl
  show ({ (v.spec : ServiceSpec) with
    selector := selectorLabels app
    ports := [internalServicePort]
    publishNotReadyAddresses := true } : ServiceSpec) = v.spec
  rw [← hselector, ← hpublish, ← hspec.selector, ← hspec.publish, hsame, ← hq]
  rfl

/-- Only the node port is taken over. -/
theorem keepNodePort_eq (livePorts : List ServicePort) (port : ServicePort) :
    ∃ nodePort, keepNodePort livePorts port = { port with nodePort := nodePort } := by
  unfold keepNodePort
  -- the accumulator is the port with some node port
  suffices h : ∀ d : ServicePort, (∃ n, d = { port with nodePort := n }) →
      ∃ n, livePorts.foldl (fun d l =>
        if l.name = port.name then { d with nodePort := l.nodePort } else d) d =
          { port with nodePort := n } from h port ⟨port.nodePort, rfl⟩
  induction livePorts with
  | nil => exact fun d hd => hd
  | cons l ls ih =>
    rintro d ⟨n, rfl⟩
    rw [List.foldl_cons]
    split
    · exact ih _ ⟨l.nodePort, rfl⟩
    · exact ih _ ⟨n, rfl⟩

/-- The ports of the public Service, as a pass writes them over `livePorts`. -/
def publicPorts (type : ServiceType) (livePorts : List ServicePort) : List ServicePort :=
  if type = .nodePort ∨ type = .loadBalancer then [keepNodePort livePorts publicServicePort]
  else [publicServicePort]

/-- The type of the public Service. -/
def publicType (app : WorkerApp) : ServiceType :=
  if app.spec.service.type = .unset then .clusterIP else app.spec.service.type

theorem publicType_ne_unset (app : WorkerApp) : publicType app ≠ .unset := by
  unfold publicType
  split
  · decide
  · assumption

theorem publicPorts_eq (type : ServiceType) (livePorts : List ServicePort) :
    ∃ nodePort, publicPorts type livePorts = [{ publicServicePort with nodePort := nodePort }] ∧
      (nodePort ≠ 0 → type.usesNodePorts) := by
  unfold publicPorts
  split
  · next huses =>
    obtain ⟨nodePort, hkept⟩ := keepNodePort_eq livePorts publicServicePort
    exact ⟨nodePort, by rw [hkept], fun _ => huses⟩
  · exact ⟨0, rfl, fun h => absurd rfl h⟩

/-- What the mutation makes of the spec of the public Service. -/
theorem mutatePublicService_spec (r : Reconciler) (app : WorkerApp) (live : Obj .publicService) :
    (mutatePublicService r.lib live (prepare r app (buildPublicService app))).spec =
      ({ (live.spec : ServiceSpec) with
        selector := selectorLabels app
        ports := publicPorts (publicType app) (ServiceSpec.ports live.spec)
        type := publicType app } : ServiceSpec) := by
  unfold publicPorts
  rfl

theorem unfilled_of_settled_public {r : Reconciler} {app : WorkerApp} {v : Obj .publicService}
    (h : Settled (mutatePublicService r.lib) (prepare r app (buildPublicService app)) v) :
    PublicUnfilled v := by
  have hspec := ((settled_iff (mutation_publicService r.lib)).mp h).1
  rw [mutatePublicService_spec] at hspec
  have hsame := congrArg ServiceSpec.ports hspec
  obtain ⟨nodePort, hports, -⟩ :=
    publicPorts_eq (publicType app) (ServiceSpec.ports v.spec)
  unfold PublicUnfilled
  rw [← hsame]
  simp [hports, publicServicePort]

/-- The annotations sent with the public Service. -/
theorem Sent.publicAnnotations {r : Reconciler} {app : WorkerApp} {sent : Obj .publicService}
    (hs : Sent (mutatePublicService r.lib) (prepare r app (buildPublicService app)) sent) :
    ∃ found, sent.metadata.annotations =
      reconcileAnnotations r.lib .publicService found app.spec.service.annotations := by
  rcases hs with rfl | ⟨live, rfl⟩
  · exact ⟨app.spec.service.annotations, rfl⟩
  · exact ⟨live.metadata.annotations,
      reconcileAnnotations_congr r.lib .publicService _ (reconcileAnnotations_erase _ _ _)⟩

/-- The ports and the type sent with the public Service. -/
theorem Sent.publicSpec {r : Reconciler} {app : WorkerApp} {sent : Obj .publicService}
    (hs : Sent (mutatePublicService r.lib) (prepare r app (buildPublicService app)) sent) :
    ServiceSpec.type sent.spec = publicType app ∧
      ServiceSpec.selector sent.spec = selectorLabels app ∧
      ∃ nodePort, ServiceSpec.ports sent.spec =
          [{ publicServicePort with nodePort := nodePort }] ∧
        (nodePort ≠ 0 → (publicType app).usesNodePorts) := by
  rcases hs with rfl | ⟨live, rfl⟩
  · exact ⟨rfl, rfl, 0, rfl, fun h => absurd rfl h⟩
  · have hspec := mutatePublicService_spec r app live
    refine ⟨congrArg ServiceSpec.type hspec, congrArg ServiceSpec.selector hspec, ?_⟩
    obtain ⟨nodePort, hports, huses⟩ :=
      publicPorts_eq (publicType app) (ServiceSpec.ports live.spec)
    exact ⟨nodePort, (congrArg ServiceSpec.ports hspec).trans hports, huses⟩

/-- The node port a second pass keeps is the one stored. -/
theorem publicPorts_stored {type : ServiceType} {nodePort : Nat} {q : ServicePort}
    (hport : FilledPort type { publicServicePort with nodePort := nodePort } q)
    (huses : nodePort ≠ 0 → type.usesNodePorts) (hprotocol : q.protocol = "") :
    publicPorts type [q] = [q] := by
  have hname : q.name = publicServicePort.name := hport.name
  unfold publicPorts
  split
  · next hnode =>
    have hkept : keepNodePort [q] publicServicePort =
        { publicServicePort with nodePort := q.nodePort } := by
      simp [keepNodePort, hname]
    rw [hkept]
    congr 1
    obtain ⟨hname, hport', htarget, -, -⟩ := hport
    cases q
    simp_all [publicServicePort]
  · next hnode =>
    have hzero : nodePort = 0 := by
      by_contra hne
      exact hnode (huses hne)
    subst hzero
    have hstored : q.nodePort = 0 := hport.nodePort (.inr hnode)
    congr 1
    exact hport.eq_iff.mpr ⟨hprotocol, hstored⟩

/-- **The public Service**, stored with no protocol filled in. -/
theorem settled_publicService {r : Reconciler} (hlib : ReadsBack r.lib) {app : WorkerApp}
    {sent v : Obj .publicService}
    (hs : Sent (mutatePublicService r.lib) (prepare r app (buildPublicService app)) sent)
    (hf : Filled sent v) (hunfilled : PublicUnfilled v) :
    Settled (mutatePublicService r.lib) (prepare r app (buildPublicService app)) v := by
  have hspec : FilledService sent.spec v.spec := hf.spec
  obtain ⟨htype, hselector, nodePort, hports, huses⟩ := hs.publicSpec
  have htype' : ServiceSpec.type v.spec = publicType app := by
    rw [hspec.type (by rw [htype]; exact publicType_ne_unset app), htype]
  have hfilled := hspec.ports
  rw [hports, htype'] at hfilled
  obtain ⟨q, hq, hport⟩ := filledPorts_single hfilled
  have hprotocol : q.protocol = "" := hunfilled q (by rw [hq]; exact .head _)
  refine settled_of_filled (mutation_publicService r.lib) hs hf ?_ ?_
  · rw [mutatePublicService_spec, hq, publicPorts_stored hport huses hprotocol, ← hq, ← htype',
      ← hselector, ← hspec.selector]
    rfl
  · show reconcileAnnotations r.lib .publicService v.metadata.annotations
      (reconcileAnnotations r.lib .publicService app.spec.service.annotations
        app.spec.service.annotations) = v.metadata.annotations
    rw [reconcileAnnotations_congr _ _ _ (reconcileAnnotations_erase _ _ _), hf.annotations]
    obtain ⟨found, hfound⟩ := hs.publicAnnotations
    rw [hfound]
    exact reconcileAnnotations_idem hlib _ found app.spec.service.annotations

/-! ## §5. What a completed pass leaves. -/

section place

variable {r : Reconciler} {app : WorkerApp} {k : Kind} {desired : Obj k}
  {mutate : Obj k → Obj k → Obj k}

/-- **In place**: our object, which had nothing to be written or was stored from what was sent. -/
def Placed (r : Reconciler) (app : WorkerApp) (desired : Obj k) (mutate : Obj k → Obj k → Obj k)
    (s : Shelf) : Prop :=
  ∃ v, s.obj k desired.metadata.name = some v ∧ requireOwnership app v = .ok () ∧
    (Settled mutate (prepare r app desired) v ∨
      ∃ sent, Sent mutate (prepare r app desired) sent ∧ Filled sent v)

theorem prepare_owners :
    (prepare r app desired).metadata.ownerReferences = [⟨app.uid, some true⟩] := rfl

/-- Ownership is a matter of the owner references. -/
theorem requireOwnership_of_owners {v w : Obj k} (h : requireOwnership app v = .ok ())
    (heq : w.metadata.ownerReferences = v.metadata.ownerReferences) :
    requireOwnership app w = .ok () := by
  unfold requireOwnership at h ⊢
  rw [heq]
  split at h
  · next howned => rw [if_pos howned]
  · cases h

theorem requireOwnership_prepare {v : Obj k}
    (heq : v.metadata.ownerReferences = (prepare r app desired).metadata.ownerReferences) :
    requireOwnership app v = .ok () := by
  unfold requireOwnership
  rw [heq, prepare_owners, if_pos (by simp [isControlledBy])]

theorem Mutation.mutated_name (hm : Mutation mutate) (live desired : Obj k) :
    (mutated mutate live desired).metadata.name = live.metadata.name := by
  unfold mutated
  rw [hm live desired]

theorem Mutation.mutated_owners (hm : Mutation mutate) (live desired : Obj k) :
    (mutated mutate live desired).metadata.ownerReferences = live.metadata.ownerReferences := by
  unfold mutated
  rw [hm live desired]

/-- What does not look at the objects of this kind. -/
def Apart (k : Kind) (F : Shelf → Prop) : Prop :=
  ∀ s s', (∀ k' ≠ k, s'.obj k' = s.obj k') → F s → F s'

theorem apart_true : Apart k fun _ => True := fun _ _ _ _ => trivial

theorem Apart.and {F F' : Shelf → Prop} (h : Apart k F) (h' : Apart k F') :
    Apart k fun s => F s ∧ F' s :=
  fun s s' heq hs => ⟨h s s' heq hs.1, h' s s' heq hs.2⟩

theorem apart_placed {k' : Kind} (hne : k ≠ k') : Apart k' (Placed r app desired mutate) := by
  intro s s' heq h
  unfold Placed
  rw [heq k hne]
  exact h

/-- **One object of a pass**, of a kind that is cached. -/
theorem ensureObject_places (hk : k ≠ .httpRoute) (hm : Mutation mutate) :
    Ensures ServeFilled Undisturbed (fun _ => True) (ensureObject r app desired mutate)
      (fun res s => ∀ o, res = .ok o → Placed r app desired mutate s) := by
  have hstable := fun A => stable_undisturbed A
  unfold ensureObject
  refine ensures_bind (B := fun res s => ∀ v, res = .ok v →
    s.obj k desired.metadata.name = some v) (fun res => ?_) ?_
  · cases res with
    | error e =>
      dsimp only
      split
      · refine ensures_check (B := Placed r app desired mutate) ?_ fun _ =>
          ensures_pure (hstable _) _ fun _ h _ _ => h
        refine ensures_req (hstable _) (fun res => hstable _) ?_
        rintro s res s' - hserve o rfl
        obtain ⟨-, hf, rfl⟩ := hserve
        refine ⟨o, ?_, requireOwnership_prepare hf.owners, .inr ⟨_, .inl rfl, hf⟩⟩
        rw [← prepare_name r app desired, ← hf.name]
        exact Shelf.put_obj s o
      · exact ensures_pure (hstable _) _ fun _ _ o ho => by cases ho
    | ok v =>
      dsimp only
      rw [receive_of_ne hk]
      split
      · exact ensures_pure (hstable _) _ fun _ _ o ho => by cases ho
      · next howned =>
        split
        · next hsettled =>
          exact ensures_pure (hstable _) _ fun s hread _ _ =>
            ⟨v, hread v rfl, howned, .inl hsettled⟩
        · refine ensures_check (B := Placed r app desired mutate) ?_ fun _ =>
            ensures_pure (hstable _) _ fun _ h _ _ => h
          refine ensures_req (hstable _) (fun res => hstable _) ?_
          rintro s res s' hread hserve o rfl
          obtain ⟨-, hf, rfl⟩ := hserve
          refine ⟨o, ?_, requireOwnership_of_owners howned
            (hf.owners.trans (hm.mutated_owners _ _)), .inr ⟨_, .inr ⟨v, rfl⟩, hf⟩⟩
          have hname : o.metadata.name = desired.metadata.name := by
            rw [hf.name, hm.mutated_name]
            exact s.named _ _ _ (hread v rfl)
          rw [← hname]
          exact Shelf.put_obj s o
  · refine ensures_req (hstable _) (fun res => hstable _) ?_
    rintro s res s' - hserve v rfl
    obtain ⟨rfl, hread⟩ := hserve
    rw [← hread, prepare_name]

/-- One object of a pass, with what stands beside it. -/
theorem headed_places (hk : k ≠ .httpRoute) (hm : Mutation mutate) {F : Shelf → Prop} (hF : Apart k F)
    (heading : String) :
    Ensures ServeFilled Undisturbed F (headed heading (ensureObject r app desired mutate))
      (fun res s => ∀ o, res = .ok o → F s ∧ Placed r app desired mutate s) := by
  have hkept : Ensures ServeFilled Undisturbed F (ensureObject r app desired mutate)
      (fun _ => F) := by
    refine ensures_only (stable_undisturbed F) (ensureObject_confined r app desired mutate) ?_
    rintro s o res s' ⟨hwrites, -⟩ hs hserve
    exact hF s s' (fun k' hne => hserve.frame fun hw => hne (hwrites k' hw)) hs
  refine ensures_headed (stable_undisturbed _) ?_
  exact (hkept.and ((ensureObject_places hk hm).pre fun _ _ => trivial)).post
    fun _ _ h o ho => ⟨h.1, h.2 o ho⟩

end place

/-- **The foundation is in place.** -/
structure Founded (r : Reconciler) (app : WorkerApp) (s : Shelf) : Prop where
  account : Placed r app (buildServiceAccount app) (mutateServiceAccount app) s
  internal : Placed r app (buildInternalService app) mutateInternalService s
  front : Placed r app (buildPublicService app) (mutatePublicService r.lib) s
  policy : Placed r app (buildNetworkPolicy app r.operatorNamespace) replaceSpec s
  budget : Placed r app (buildPDB app) replaceSpec s

theorem ensureFoundation_founded (r : Reconciler) (app : WorkerApp) :
    Ensures ServeFilled Undisturbed (fun _ => True) (ensureFoundation r app)
      (fun res s => ∀ conditions, res = .ok conditions → Founded r app s) := by
  unfold ensureFoundation
  -- each object is placed beside those already in place
  refine ensures_check (headed_places (by decide) (mutation_serviceAccount app) apart_true _)
    fun _ => ?_
  refine ensures_check (headed_places (by decide) mutation_internalService
    (apart_true.and (apart_placed (by decide))) _) fun _ => ?_
  refine ensures_check (headed_places (by decide) (mutation_publicService r.lib)
    ((apart_true.and (apart_placed (by decide))).and (apart_placed (by decide))) _) fun _ => ?_
  refine ensures_check (headed_places (by decide) mutation_replaceSpec
    (((apart_true.and (apart_placed (by decide))).and (apart_placed (by decide))).and
      (apart_placed (by decide))) _) fun _ => ?_
  refine ensures_check (headed_places (by decide) mutation_replaceSpec
    ((((apart_true.and (apart_placed (by decide))).and (apart_placed (by decide))).and
      (apart_placed (by decide))).and (apart_placed (by decide))) _) fun _ => ?_
  exact ensures_pure (stable_undisturbed _) _
    fun _ ⟨⟨⟨⟨⟨_, account⟩, internal⟩, front⟩, policy⟩, budget⟩ _ _ =>
      ⟨account, internal, front, policy, budget⟩

/-! ## §6. The next pass. -/

/-- However far it gets, the program writes nothing from here. -/
def WritesNothing {α : Type} (s : Shelf) (p : P α) : Prop :=
  ∀ t s' q, Exec ServeFilled Undisturbed s p t s' q → ∀ e ∈ t, e.op.writes = none

theorem writesNothing_iff {α : Type} {s : Shelf} {p : P α} :
    WritesNothing s p ↔
      Issues ServeFilled Undisturbed (· = s) p fun o : Op => o.writes = none := by
  constructor
  · rintro h _ t s' q rfl hx
    exact h t s' q hx
  · exact fun h t s' q hx => h s t s' q rfl hx

section next

variable {α β : Type} {s : Shelf}

theorem writesNothing_pure (a : α) : WritesNothing s (pure a : P α) :=
  writesNothing_iff.mpr (issues_only (only_pure _ a))

theorem writesNothing_bind {p : P α} {f : α → P β} (hp : WritesNothing s p)
    (hf : ∀ a, WritesNothing s (f a)) : WritesNothing s (p >>= f) := by
  rw [writesNothing_iff] at hp ⊢
  refine issues_bind (B := fun _ => (· = s)) (fun a => writesNothing_iff.mp (hf a)) hp ?_
  refine hp.keeps (stable_undisturbed _) ?_
  rintro _ o res s' ho rfl hserve
  exact hserve.eq_of_reads ho

theorem writesNothing_check {p : P (Except Err α)} {f : α → P (Except Err β)}
    (hp : WritesNothing s p) (hf : ∀ a, WritesNothing s (f a)) : WritesNothing s (check p f) := by
  unfold check
  refine writesNothing_bind hp fun res => ?_
  cases res with
  | error e => exact writesNothing_pure _
  | ok a => exact hf a

theorem writesNothing_headed {heading : String} {p : P (Except Err α)}
    (hp : WritesNothing s p) : WritesNothing s (headed heading p) := by
  unfold headed
  refine writesNothing_bind hp fun res => ?_
  cases res <;> exact writesNothing_pure _

variable {r : Reconciler} {app : WorkerApp} {k : Kind} {desired : Obj k}
  {mutate : Obj k → Obj k → Obj k} {v : Obj k}

/-- A settled object is read, and left. -/
theorem writesNothing_ensureObject (hk : k ≠ .httpRoute)
    (hv : s.obj k desired.metadata.name = some v)
    (hsettled : Settled mutate (prepare r app desired) v) :
    WritesNothing s (ensureObject r app desired mutate) := by
  rw [writesNothing_iff]
  unfold ensureObject
  -- the read returns the object, or fails for another reason than its absence
  refine issues_bind (B := fun res _ => (∀ e, res = .error e → e.isNotFound = false) ∧
    ∀ w, res = .ok w → w = v) (fun res => ?_) (issues_only ((only_req (S := Api) _ _).mpr rfl)) ?_
  · refine issues_of_const fun hread => ?_
    cases res with
    | error e =>
      dsimp only
      rw [if_neg (by simp [hread.1 e rfl])]
      exact issues_only (only_pure _ _)
    | ok w =>
      obtain rfl := hread.2 w rfl
      dsimp only
      rw [receive_of_ne hk]
      split
      · exact issues_only (only_pure _ _)
      · rw [if_pos hsettled]
        exact issues_only (only_pure _ _)
  · refine ensures_req (stable_undisturbed _) (fun _ => stable_undisturbed _) ?_
    rintro _ res s' rfl hserve
    rw [← prepare_name r app desired] at hv
    refine ⟨?_, ?_⟩
    · rintro e rfl
      by_contra hfound
      cases (hserve.2 (by simpa using hfound)).symm.trans hv
    · rintro w rfl
      exact Option.some.inj (hserve.2.symm.trans hv)

/-- Reading a settled object of ours. -/
theorem exec_ensureObject (hk : k ≠ .httpRoute) (hv : s.obj k desired.metadata.name = some v)
    (howned : requireOwnership app v = .ok ())
    (hsettled : Settled mutate (prepare r app desired) v) (heading : String) :
    ∃ t, Exec ServeFilled Undisturbed s (headed heading (ensureObject r app desired mutate)) t s
      (.ret (.ok (prepare r app desired))) := by
  have hread : ServeFilled s (.get k (prepare r app desired).metadata.name) (.ok v) s :=
    ⟨rfl, by rw [prepare_name]; exact hv⟩
  have hx : Exec ServeFilled Undisturbed s (ensureObject r app desired mutate)
      [⟨.get k (prepare r app desired).metadata.name, .ok v⟩] s
      (.ret (.ok (prepare r app desired))) := by
    unfold ensureObject
    refine .request hread ?_
    dsimp only
    rw [receive_of_ne hk, howned]
    dsimp only
    rw [if_pos hsettled]
    exact .refl _ _
  exact ⟨_, hx.bind_left _⟩

/-- An object of ours that is left alone is settled: otherwise its update would be sent. -/
theorem settled_of_writesNothing (hk : k ≠ .httpRoute)
    (hv : s.obj k desired.metadata.name = some v)
    (howned : requireOwnership app v = .ok ())
    (h : WritesNothing s (ensureObject r app desired mutate)) :
    Settled mutate (prepare r app desired) v := by
  by_contra hsettled
  have hread : ServeFilled s (.get k (prepare r app desired).metadata.name) (.ok v) s :=
    ⟨rfl, by rw [prepare_name]; exact hv⟩
  have hrefused : ServeFilled s (.update k (mutated mutate v (prepare r app desired)))
      (.error (.other "")) s := rfl
  have hx : Exec ServeFilled Undisturbed s (ensureObject r app desired mutate)
      [⟨.get k (prepare r app desired).metadata.name, .ok v⟩,
        ⟨.update k (mutated mutate v (prepare r app desired)), .error (.other "")⟩] s
      (.ret (.error (.other ""))) := by
    unfold ensureObject
    refine .request hread ?_
    dsimp only
    rw [receive_of_ne hk, howned]
    dsimp only
    rw [if_neg hsettled]
    exact .call hrefused (.refl _ _)
  cases h _ _ _ hx _ (.tail _ (.head _))

/-- The first part of a pass that writes nothing. -/
theorem WritesNothing.first {heading : String} {p : P (Except Err α)}
    {f : α → P (Except Err β)} (h : WritesNothing s (check (headed heading p) f)) :
    WritesNothing s p := by
  rw [writesNothing_iff] at h ⊢
  exact h.first.first

/-- What follows a first part that has returned. -/
theorem WritesNothing.rest {p : P (Except Err α)} {f : α → P (Except Err β)} {t : Trace} {a : α}
    (h : WritesNothing s (check p f))
    (hx : Exec ServeFilled Undisturbed s p t s (.ret (.ok a))) : WritesNothing s (f a) := by
  rw [writesNothing_iff] at h ⊢
  exact h.rest rfl hx

end next

/-- Nothing that the operator overwrites has been filled in. -/
structure PortsUnfilled (app : WorkerApp) (s : Shelf) : Prop where
  internal : ∀ v, s.obj .internalService (internalServiceName app) = some v → InternalUnfilled v
  front : ∀ v, s.obj .publicService (fleetName app) = some v → PublicUnfilled v

/-- The objects that do not depend on what the server fills in. -/
theorem Placed.settled {r : Reconciler} {app : WorkerApp} {k : Kind} {desired : Obj k}
    {mutate : Obj k → Obj k → Obj k} {s : Shelf} (h : Placed r app desired mutate s)
    (hfilled : ∀ sent v, s.obj k desired.metadata.name = some v →
      Sent mutate (prepare r app desired) sent → Filled sent v →
        Settled mutate (prepare r app desired) v) :
    ∃ v, s.obj k desired.metadata.name = some v ∧ requireOwnership app v = .ok () ∧
      Settled mutate (prepare r app desired) v := by
  obtain ⟨v, hv, howned, hsettled | ⟨sent, hs, hf⟩⟩ := h
  · exact ⟨v, hv, howned, hsettled⟩
  · exact ⟨v, hv, howned, hfilled sent v hv hs hf⟩

/-- **The next pass over a foundation in place.** -/
theorem Founded.writesNothing_iff {r : Reconciler} (hlib : ReadsBack r.lib) {app : WorkerApp}
    {s : Shelf} (hfounded : Founded r app s) :
    WritesNothing s (ensureFoundation r app) ↔ PortsUnfilled app s := by
  obtain ⟨account, haccount, hours, hsame⟩ := hfounded.account.settled
    fun _ _ _ hs hf => settled_serviceAccount r app hs hf
  constructor
  · intro h
    unfold ensureFoundation at h
    obtain ⟨t, hx⟩ := exec_ensureObject (by decide) haccount hours hsame "service account"
    have hinternal := h.rest hx
    obtain ⟨internal, hv, hours', -⟩ := hfounded.internal
    have hsettled := settled_of_writesNothing (by decide) hv hours' hinternal.first
    obtain ⟨t', hx'⟩ := exec_ensureObject (by decide) hv hours' hsettled "internal service"
    have hfront := hinternal.rest hx'
    obtain ⟨front, hw, hours'', -⟩ := hfounded.front
    have hsettled' := settled_of_writesNothing (by decide) hw hours'' hfront.first
    refine ⟨fun v hv' => ?_, fun w hw' => ?_⟩
    · cases hv.symm.trans hv'
      exact unfilled_of_settled_internal hsettled
    · cases hw.symm.trans hw'
      exact unfilled_of_settled_public hsettled'
  · intro h
    obtain ⟨internal, hinternal, -, hsame'⟩ := hfounded.internal.settled
      fun _ v hv hs hf => settled_internalService hs hf (h.internal v hv)
    obtain ⟨front, hfront, -, hsame''⟩ := hfounded.front.settled
      fun _ v hv hs hf => settled_publicService hlib hs hf (h.front v hv)
    obtain ⟨policy, hpolicy, -, hsame₃⟩ := hfounded.policy.settled
      fun _ _ _ hs hf => settled_replaceSpec (fun _ _ h => h) hs hf
    obtain ⟨budget, hbudget, -, hsame₄⟩ := hfounded.budget.settled
      fun _ _ _ hs hf => settled_replaceSpec (fun _ _ h => h) hs hf
    have hstep : ∀ {k : Kind} {desired v : Obj k} {mutate : Obj k → Obj k → Obj k}
        (heading : String), k ≠ .httpRoute → s.obj k desired.metadata.name = some v →
          Settled mutate (prepare r app desired) v →
            WritesNothing s (headed heading (ensureObject r app desired mutate)) :=
      fun _ hk hv hs => writesNothing_headed (writesNothing_ensureObject hk hv hs)
    unfold ensureFoundation
    refine writesNothing_check (hstep _ (by decide) haccount hsame) fun _ => ?_
    refine writesNothing_check (hstep _ (by decide) hinternal hsame') fun _ => ?_
    refine writesNothing_check (hstep _ (by decide) hfront hsame'') fun _ => ?_
    refine writesNothing_check (hstep _ (by decide) hpolicy hsame₃) fun _ => ?_
    exact writesNothing_check (hstep _ (by decide) hbudget hsame₄) fun _ => writesNothing_pure _

/-- **A steady pass writes nothing** — however far it gets, behind any completed pass from any
state — exactly if no protocol has been filled in on the two Services, and no node port on the
internal one. -/
theorem steady_pass_iff (r : Reconciler) (hlib : ReadsBack r.lib) (app : WorkerApp)
    (s s' : Shelf) (t : Trace) (conditions : List Condition)
    (hx : Exec ServeFilled Undisturbed s (ensureFoundation r app) t s' (.ret (.ok conditions))) :
    WritesNothing s' (ensureFoundation r app) ↔ PortsUnfilled app s' :=
  (ensureFoundation_founded r app s t s' _ trivial hx conditions rfl).writesNothing_iff hlib

/-! ## §7. The default protocol. -/

/-- A port with this default protocol, and a node port where the Service has one. -/
def fillPort (protocol : String) (type : ServiceType) (p : ServicePort) : ServicePort :=
  { p with
    protocol := if p.protocol = "" then protocol else p.protocol
    nodePort := if p.nodePort = 0 ∧ type.usesNodePorts then 30080 else p.nodePort }

def fillService (protocol : String) (s : ServiceSpec) : ServiceSpec :=
  let type := if s.type = .unset then .clusterIP else s.type
  { s with
    type := type
    clusterIP := if s.clusterIP = "" then "10.0.0.1" else s.clusterIP
    ports := s.ports.map (fillPort protocol type) }

def fillSpec (protocol : String) : (k : Kind) → Spec k → Spec k
  | .internalService, s | .publicService, s => fillService protocol s
  | _, s => s

/-- What this server stores. -/
def fill (protocol : String) {k : Kind} (sent : Obj k) : Obj k :=
  { sent with
    spec := fillSpec protocol k sent.spec
    metadata := { sent.metadata with
      uid := "u2"
      resourceVersion := sent.rv + 1
      generation := sent.metadata.generation + 1 } }

theorem filledService_fill (protocol : String) (sent : ServiceSpec) :
    FilledService sent (fillService protocol sent) where
  type := fun h => by simp [fillService, h]
  clusterIP := fun h => by simp [fillService, h]
  selector := rfl
  publish := rfl
  ports := by
    unfold fillService
    dsimp only
    rw [List.forall₂_map_right_iff]
    refine List.forall₂_same.mpr fun p _ => ⟨rfl, rfl, rfl, fun h => ?_, fun h => ?_⟩
    · simp [fillPort, h]
    · unfold fillPort
      dsimp only
      rw [if_neg fun hboth => h.elim (fun h => h hboth.1) fun h => h hboth.2]

theorem filled_fill (protocol : String) {k : Kind} (sent : Obj k) :
    Filled sent (fill protocol sent) := by
  refine ⟨rfl, ?_⟩
  cases k with
  | internalService | publicService => exact filledService_fill protocol sent.spec
  | _ => rfl

/-- The server with this default protocol, when nothing fails. -/
def answerFilled (protocol : String) (s : Shelf) : (o : Op) → Resp o × Shelf
  | .get k n =>
    (match s.obj k n with
      | some v => .ok v
      | none => .error (.notFound ""), s)
  | .create k sent =>
    match s.obj k sent.metadata.name with
    | none => (.ok (fill protocol sent), s.put (fill protocol sent))
    | some _ => (.error (.other ""), s)
  | .update k sent =>
    match s.obj k sent.metadata.name with
    | some cur =>
      if cur.rv = sent.rv then (.ok (fill protocol sent), s.put (fill protocol sent))
      else (.error (.conflict ""), s)
    | none => (.error (.notFound ""), s)
  | o => ((answer {} Cluster.empty o).1, s)

theorem serve_answerFilled (protocol : String) (s : Shelf) (o : Op) :
    ServeFilled s o (answerFilled protocol s o).1 (answerFilled protocol s o).2 := by
  cases o with
  | get k n =>
    simp only [answerFilled]
    split
    · next v hv => exact ⟨rfl, hv⟩
    · next hv => exact ⟨rfl, fun _ => hv⟩
  | create k sent =>
    simp only [answerFilled]
    split
    · next habsent => exact ⟨habsent, filled_fill protocol sent, rfl⟩
    · rfl
  | update k sent =>
    simp only [answerFilled]
    split
    · next cur hcur =>
      split
      · next hrv => exact ⟨⟨cur, hcur, hrv⟩, filled_fill protocol sent, rfl⟩
      · rfl
    · rfl
  | _ => rfl

/-- A WorkerApp with a load balancer. -/
def servedApp : WorkerApp :=
  let app := sampleApp "ghcr.io/denoland/celld:v0.5.1" .rolling
  { app with spec := { app.spec with service :=
      { type := .loadBalancer, annotations := StrMap.ofList [("lb/scheme", "internal")] } } }

/-- A pass against this server. -/
def servedRun (protocol : String) (s : Shelf) : Trace × Shelf × Except Err (List Condition) :=
  runWith (answerFilled protocol) (ensureFoundation sampleReconciler servedApp) s

theorem exec_servedRun (protocol : String) (s : Shelf) :
    Exec ServeFilled Undisturbed s (ensureFoundation sampleReconciler servedApp)
      (servedRun protocol s).1 (servedRun protocol s).2.1
      (.ret (servedRun protocol s).2.2) := by
  unfold servedRun
  exact exec_runWith (serve_answerFilled protocol) _ s

/-- The first pass. -/
def firstRun (protocol : String) : Trace × Shelf × Except Err (List Condition) :=
  servedRun protocol .empty

theorem firstRun_done (protocol : String) (h : (firstRun protocol).2.2 =
    .ok [credentialsCondition servedApp]) :
    Exec ServeFilled Undisturbed .empty (ensureFoundation sampleReconciler servedApp)
      (firstRun protocol).1 (firstRun protocol).2.1
      (.ret (.ok [credentialsCondition servedApp])) := by
  rw [← h]
  exact exec_servedRun protocol .empty

/-- A server that fills in the address, the type and the node port, and no protocol: the second
pass writes nothing. -/
theorem steady_pass_iff_unfilled :
    PortsUnfilled servedApp (firstRun "").2.1 ∧
      WritesNothing (firstRun "").2.1 (ensureFoundation sampleReconciler servedApp) := by
  have hunfilled : PortsUnfilled servedApp (firstRun "").2.1 := by
    have hports : ∀ v ∈ (firstRun "").2.1.obj .internalService (internalServiceName servedApp),
        ∀ p ∈ ServiceSpec.ports v.spec, p.protocol = "" ∧ p.nodePort = 0 := by decide +kernel
    have hports' : ∀ v ∈ (firstRun "").2.1.obj .publicService (fleetName servedApp),
        ∀ p ∈ ServiceSpec.ports v.spec, p.protocol = "" := by decide +kernel
    exact ⟨fun v hv => hports v hv, fun v hv => hports' v hv⟩
  exact ⟨hunfilled, (steady_pass_iff sampleReconciler (fun _ => by simp [sampleReconciler,
    sampleLib]) servedApp _ _ _ _ (firstRun_done "" (by decide +kernel))).mpr hunfilled⟩

/-- **Every pass writes both Services** when the protocol defaults to `TCP`. -/
theorem steady_pass_writes :
    validateApp sampleReconciler servedApp = .ok () ∧
    Exec ServeFilled Undisturbed .empty (ensureFoundation sampleReconciler servedApp)
      (firstRun "TCP").1 (firstRun "TCP").2.1 (.ret (.ok [credentialsCondition servedApp])) ∧
    ∃ t s', Exec ServeFilled Undisturbed (firstRun "TCP").2.1
        (ensureFoundation sampleReconciler servedApp) t s'
        (.ret (.ok [credentialsCondition servedApp])) ∧
      t.filterMap (·.op.writes) = [.internalService, .publicService] ∧
      ¬ WritesNothing (firstRun "TCP").2.1 (ensureFoundation sampleReconciler servedApp) := by
  have hdone : (servedRun "TCP" (firstRun "TCP").2.1).2.2 =
      .ok [credentialsCondition servedApp] := by decide +kernel
  have hwrites : (servedRun "TCP" (firstRun "TCP").2.1).1.filterMap (·.op.writes) =
      [.internalService, .publicService] := by decide +kernel
  have hx := exec_servedRun "TCP" (firstRun "TCP").2.1
  rw [hdone] at hx
  refine ⟨by decide, firstRun_done "TCP" (by decide +kernel), _, _, hx, hwrites, fun h => ?_⟩
  have hnone : (servedRun "TCP" (firstRun "TCP").2.1).1.filterMap (·.op.writes) = [] :=
    List.filterMap_eq_nil_iff.mpr (h _ _ _ hx)
  cases hnone.symm.trans hwrites

end CelldOperator
