/-
  CelldOperator.Children.Unstructured

  **`ensureUnstructured` ON WHOLE TREES** (`workerapp_controller.go`).

  The passes of the operator see of a CRD object its spec, its metadata and the part
  of its status that is read (`Obj k`).  Here is the same function on the object as
  it is, a tree with whatever other fields it has:

    • `overlaid_spec`, `overlaid_labels`, `overlaid_annotations`, `overlaid_outside` —
      what the written object is,
    • `inPlace_overlaid` — the skip test and the merge are exact complements,
    • `unstructured_converges` — one call brings the live object in place, keeps what
      is not its own, and a second one writes nothing,
    • `ensureUnstructured_refines`, `newUnstructuredObject_refines` — the function of
      the passes is this one, seen through the fields they know.
-/
import CelldOperator.Controller.Ensure
import CelldOperator.Effect.Hoare
import CelldOperator.Go.Unstructured

namespace CelldOperator.Unstructured

open Effect Prog

/-! ## §1. Ownership. -/

/-- The reference to the WorkerApp. -/
def controllerRef (app : WorkerApp) : OwnerRef :=
  { apiVersion := "celld-operator.io/v1alpha1", kind := "WorkerApp", name := app.name
    uid := app.uid, controller := some true, blockOwnerDeletion := some true }

/-- The group of `schema.ParseGroupVersion`. -/
def groupOf (apiVersion : String) : Option (List Char) :=
  match apiVersion.toList.count '/' with
  | 0 => some []
  | 1 => some (cut '/' apiVersion.toList).1
  | _ => none

/-- `referSameObject`: the UID does not count. -/
def referSameObject (a b : OwnerRef) : Bool :=
  match groupOf a.apiVersion, groupOf b.apiVersion with
  | some group, some group' => group == group' && a.kind == b.kind && a.name == b.name
  | _, _ => false

/-- `metav1.GetControllerOf`. -/
def controllerOf (refs : List OwnerRef) : Option OwnerRef :=
  refs.find? fun ref => ref.controller == some true

/-- `upsertOwnerRef`. -/
def upsertOwnerRef (ref : OwnerRef) : List OwnerRef → List OwnerRef
  | [] => [ref]
  | r :: refs => if referSameObject r ref then ref :: refs else r :: upsertOwnerRef ref refs

/-- `ctrl.SetControllerReference`. -/
def setControllerReference (app : WorkerApp) (u : Unstructured) : Except Err Unstructured :=
  if app.namespace_ ≠ "" ∧ u.getNamespace = "" then
    .error (.other ("cluster-scoped resource must not have a namespace-scoped owner, " ++
      "owner's namespace " ++ app.namespace_))
  else if app.namespace_ ≠ "" ∧ app.namespace_ ≠ u.getNamespace then
    .error (.other ("cross-namespace owner references are disallowed, owner's namespace " ++
      app.namespace_ ++ ", obj's namespace " ++ u.getNamespace))
  else
    let owned := u.setOwnerReferences (upsertOwnerRef (controllerRef app) u.getOwnerReferences)
    match controllerOf u.getOwnerReferences with
    | some existing =>
      if referSameObject existing (controllerRef app) then .ok owned
      else .error (.other ("Object " ++ u.getNamespace ++ "/" ++ u.getName ++
        " is already owned by another " ++ existing.kind ++ " controller " ++ existing.name))
    | none => .ok owned

/-- `metav1.IsControlledBy`. -/
def controlledBy (u : Unstructured) (app : WorkerApp) : Bool :=
  match controllerOf u.getOwnerReferences with
  | some ref => ref.uid == app.uid
  | none => false

/-- `requireOwnership`. -/
def requireOwnership (app : WorkerApp) (u : Unstructured) : Except Err Unit :=
  if u.controlledBy app then .ok ()
  else .error (.other ("refusing to modify " ++ "*unstructured.Unstructured" ++ " " ++
    u.getNamespace ++ "/" ++ u.getName ++ ": not controlled by WorkerApp " ++ app.namespace_ ++
    "/" ++ app.name))

/-! ## §2. The function. -/

/-- The requests of the function; the client addresses an object by kind, namespace and name. -/
inductive Request where
  | get (apiVersion kind namespace_ name : String)
  | create (o : Unstructured)
  | update (o : Unstructured)

/-- The object the server answers with. -/
@[reducible] def Client : Sig := ⟨Request, fun _ => Except Err Unstructured⟩

/-- The request changes the object. -/
def Request.writes : Request → Bool
  | .get .. => false
  | .create _ | .update _ => true

/-- `newUnstructuredObject`. -/
def newUnstructuredObject (apiVersion kind name namespace_ : String) (labels : StrMap)
    (annotations : Option StrMap) (spec : Json) : Unstructured :=
  let metadata := [("labels", .obj (ofStrMap labels)), ("name", .str name),
    ("namespace", .str namespace_)]
  ⟨[ ("apiVersion", .str apiVersion), ("kind", .str kind),
     ("metadata", .obj (match annotations with
       | some annotations => ("annotations", .obj (ofStrMap annotations)) :: metadata
       | none => metadata)),
     ("spec", spec) ]⟩

/-- The live object already carries our spec and metadata. -/
def inPlace (live desired : Unstructured) : Bool :=
  decide (live.spec = desired.spec) && stringMapSubset desired.getLabels live.getLabels &&
    stringMapSubset desired.getAnnotations live.getAnnotations

/-- The object that is written: metadata merged, never replaced. -/
def overlaid (live desired : Unstructured) : Unstructured :=
  let live := live.setSpec desired.spec
  let live := live.setLabels (mergeStringMaps live.getLabels desired.getLabels)
  live.setAnnotations (mergeStringMaps live.getAnnotations desired.getAnnotations)

/-- The error of a write. -/
def written : Except Err Unstructured → Except Err Unit
  | .error e => .error e
  | .ok _ => .ok ()

/-- `ensureUnstructured`. -/
def ensureUnstructured (app : WorkerApp) (desired : Unstructured) :
    Prog Client (Except Err Unit) :=
  match setControllerReference app desired with
  | .error e => pure (.error e)
  | .ok desired => do
    match ← req (S := Client) (.get desired.getAPIVersion desired.getKind desired.getNamespace
        desired.getName) with
    | .error e =>
      if e.isNotFound then do
        let answer ← req (S := Client) (.create desired)
        pure (written answer)
      else pure (.error e)
    | .ok live =>
      match requireOwnership app live with
      | .error e => pure (.error e)
      | .ok () =>
        if inPlace live desired then pure (.ok ())
        else do
          let answer ← req (S := Client) (.update (overlaid live desired))
          pure (written answer)

/-! ## §3. The skip test and the merge. -/

/-- Every entry of one map is an entry of the other. -/
def Carries (of sub : StrMap) : Prop := ∀ key v, sub.lookup key = some v → of.lookup key = some v

/-- A missing key is not one with an empty value. -/
theorem stringMapSubset_iff {sub of : StrMap} : stringMapSubset sub of = true ↔ Carries of sub := by
  unfold stringMapSubset Carries
  rw [decide_eq_true_iff]
  constructor
  · intro h key v hv
    rw [h key (Finmap.mem_keys.mpr (Finmap.mem_of_lookup_eq_some hv)), hv]
  · intro h key hkey
    obtain ⟨v, hv⟩ := Finmap.mem_iff.mp (Finmap.mem_keys.mp hkey)
    rw [hv]
    exact h key v hv

/-- The live object has the desired spec, and every desired label and annotation with its desired
value. -/
structure InPlace (live desired : Unstructured) : Prop where
  spec : live.spec = desired.spec
  labels : Carries live.getLabels desired.getLabels
  annotations : Carries live.getAnnotations desired.getAnnotations

theorem inPlace_iff {live desired : Unstructured} :
    inPlace live desired = true ↔ InPlace live desired := by
  unfold inPlace
  rw [Bool.and_eq_true, Bool.and_eq_true, decide_eq_true_iff, stringMapSubset_iff,
    stringMapSubset_iff]
  exact ⟨fun h => ⟨h.1.1, h.1.2, h.2⟩, fun h => ⟨⟨h.spec, h.labels⟩, h.annotations⟩⟩

theorem merge_carries (live desired : StrMap) : Carries (mergeStringMaps live desired) desired := by
  intro key v hv
  rw [lookup_mergeStringMaps, hv]
  rfl

/-- Foreign keys survive the merge. -/
theorem merge_foreign (live : StrMap) {desired : StrMap} {key : String} (h : key ∉ desired) :
    (mergeStringMaps live desired).lookup key = live.lookup key := by
  rw [lookup_mergeStringMaps, Finmap.lookup_eq_none.mpr h]
  rfl

/-- Every field outside spec, labels and annotations is the same. -/
structure SameOutside (u v : Unstructured) : Prop where
  fields : ∀ field, field ≠ "spec" → field ≠ "metadata" → v.field? field = u.field? field
  metadata : ∀ field, field ≠ "labels" → field ≠ "annotations" →
    v.metadata? field = u.metadata? field

section overlay

variable {live desired : Unstructured}

theorem metadata?_setSpec (u : Unstructured) (spec : Json) (field : String) :
    (u.setSpec spec).metadata? field = u.metadata? field := by
  unfold metadata?
  rw [field?_setSpec_of_ne (by decide)]

theorem getStringMap_setSpec (u : Unstructured) (spec : Json) (field : String) :
    (u.setSpec spec).getStringMap field = u.getStringMap field := by
  unfold getStringMap
  rw [metadata?_setSpec]

theorem overlaid_spec (live desired : Unstructured) :
    (overlaid live desired).spec = desired.spec := by
  have hfield : (overlaid live desired).field? "spec" =
      (live.setSpec desired.spec).field? "spec" := by
    unfold overlaid setLabels setAnnotations
    rw [field?_setStringMap_of_ne (by decide), field?_setStringMap_of_ne (by decide)]
  unfold spec
  rw [hfield]
  exact spec_setSpec live desired.spec

theorem overlaid_labels (h : live.HasMetadata) :
    (overlaid live desired).getLabels = mergeStringMaps live.getLabels desired.getLabels := by
  unfold overlaid getLabels setLabels setAnnotations
  rw [getStringMap_setStringMap_of_ne (by decide),
    getStringMap_setStringMap_self (h.setSpec desired.spec), getStringMap_setSpec]

theorem overlaid_annotations (h : live.HasMetadata) :
    (overlaid live desired).getAnnotations =
      mergeStringMaps live.getAnnotations desired.getAnnotations := by
  unfold overlaid getAnnotations setLabels setAnnotations
  rw [getStringMap_setStringMap_self ((h.setSpec desired.spec).setStringMap _ _),
    getStringMap_setStringMap_of_ne (by decide), getStringMap_setSpec]

/-- The written object differs in nothing else. -/
theorem overlaid_outside (live desired : Unstructured) :
    SameOutside live (overlaid live desired) where
  fields := by
    intro field hspec hmetadata
    unfold overlaid setLabels setAnnotations
    rw [field?_setStringMap_of_ne hmetadata, field?_setStringMap_of_ne hmetadata,
      field?_setSpec_of_ne hspec]
  metadata := by
    intro field hlabels hannotations
    unfold overlaid setLabels setAnnotations
    rw [metadata?_setStringMap_of_ne hannotations, metadata?_setStringMap_of_ne hlabels,
      metadata?_setSpec]

/-- **The merge meets the skip test.** -/
theorem inPlace_overlaid (h : live.HasMetadata) (desired : Unstructured) :
    InPlace (overlaid live desired) desired where
  spec := overlaid_spec live desired
  labels := by
    rw [overlaid_labels h]
    exact merge_carries _ _
  annotations := by
    rw [overlaid_annotations h]
    exact merge_carries _ _

end overlay

/-! ## §4. Calls. -/

/-- A server that stores exactly what is sent, with an object under the name that is asked for: a
read gives that object or fails, a creation is refused, an update is stored or fails. -/
def Verbatim : Unstructured → (o : Request) → Except Err Unstructured → Unstructured → Prop
  | live, .get .., r, live' =>
    live' = live ∧ (r = .ok live ∨ ∃ e, r = .error e ∧ e.isNotFound = false)
  | live, .create _, r, live' => live' = live ∧ ∃ e, r = .error e
  | live, .update o, r, live' => (live' = live ∧ ∃ e, r = .error e) ∨ (live' = o ∧ ∃ u, r = .ok u)

/-- A call of the function: the events, the live object it leaves, and its result. -/
def Calls (app : WorkerApp) (desired live : Unstructured) (t : List (Event Client))
    (live' : Unstructured) (res : Except Err Unit) : Prop :=
  Exec Verbatim alone live (ensureUnstructured app desired) t live' (.ret res)

/-- The number of writes. -/
def writes (t : List (Event Client)) : Nat := t.countP fun e => e.op.writes

section calls

variable {app : WorkerApp} {desired live live' : Unstructured} {t : List (Event Client)}
  {res : Except Err Unit}

theorem eq_of_setControllerReference {owned : Unstructured}
    (h : setControllerReference app desired = .ok owned) :
    owned = desired.setOwnerReferences
      (upsertOwnerRef (controllerRef app) desired.getOwnerReferences) := by
  unfold setControllerReference at h
  split at h
  · cases h
  · split at h
    · cases h
    · dsimp only at h
      split at h
      · split at h
        · exact (Except.ok.inj h).symm
        · cases h
      · exact (Except.ok.inj h).symm

/-- An owner reference changes neither spec nor labels nor annotations. -/
theorem inPlace_owned {owned : Unstructured} (h : setControllerReference app desired = .ok owned) :
    owned.spec = desired.spec ∧ owned.getLabels = desired.getLabels ∧
      owned.getAnnotations = desired.getAnnotations := by
  obtain rfl := eq_of_setControllerReference h
  unfold setOwnerReferences spec getLabels getAnnotations getStringMap
  rw [field?_setMetadata_of_ne (by decide), metadata?_setMetadata_of_ne (by decide),
    metadata?_setMetadata_of_ne (by decide)]
  exact ⟨rfl, rfl, rfl⟩

theorem overlaid_congr {owned : Unstructured} (h : setControllerReference app desired = .ok owned)
    (live : Unstructured) :
    overlaid live owned = overlaid live desired ∧ inPlace live owned = inPlace live desired := by
  obtain ⟨hspec, hlabels, hannotations⟩ := inPlace_owned h
  unfold overlaid inPlace
  rw [hspec, hlabels, hannotations]
  exact ⟨rfl, rfl⟩

/-- **Everything a call can do** on a live object that the app controls: it fails, or it finds the
object in place, or it writes the merged object. -/
theorem calls_cases (howned : live.controlledBy app = true)
    (h : Calls app desired live t live' res) :
    (∃ e, res = .error e ∧ live' = live ∧ (inPlace live desired = true → writes t = 0)) ∨
      (res = .ok () ∧ inPlace live desired = true ∧ live' = live ∧ writes t = 0) ∨
      (res = .ok () ∧ inPlace live desired = false ∧ live' = overlaid live desired ∧
        writes t = 1) := by
  unfold Calls ensureUnstructured at h
  cases hset : setControllerReference app desired with
  | error e =>
    rw [hset] at h
    obtain ⟨rfl, rfl, rfl⟩ := h.pure_alone
    exact .inl ⟨e, rfl, rfl, fun _ => rfl⟩
  | ok owned =>
    rw [hset] at h
    obtain ⟨hoverlaid, hinPlace⟩ := overlaid_congr hset live
    obtain ⟨r, read, u, ⟨hkept, hr⟩, rfl, hrest⟩ := h.req_alone
    obtain rfl := hkept.symm
    rcases hr with rfl | ⟨e, rfl, hfound⟩
    · have hrequire : requireOwnership app live = .ok () := if_pos howned
      simp only [hrequire, hinPlace] at hrest
      cases hskip : inPlace live desired with
      | true =>
        rw [if_pos hskip] at hrest
        obtain ⟨rfl, rfl, rfl⟩ := hrest.pure_alone
        exact .inr (.inl ⟨rfl, rfl, rfl, rfl⟩)
      | false =>
        rw [if_neg (by simp [hskip])] at hrest
        obtain ⟨answer, stored, u', hupdate, rfl, hend⟩ := hrest.req_alone
        obtain ⟨rfl, rfl, rfl⟩ := hend.pure_alone
        rcases hupdate with ⟨rfl, e, rfl⟩ | ⟨rfl, o, rfl⟩
        · exact .inl ⟨e, rfl, rfl, fun hcontra => by cases hcontra⟩
        · exact .inr (.inr ⟨rfl, rfl, hoverlaid, rfl⟩)
    · simp only [hfound] at hrest
      obtain ⟨rfl, rfl, rfl⟩ := hrest.pure_alone
      exact .inl ⟨e, rfl, rfl, fun _ => rfl⟩

/-- An object with a controller has a map of metadata. -/
theorem hasMetadata_of_controlledBy (h : live.controlledBy app = true) : live.HasMetadata := by
  by_contra hno
  have hnone : live.metadata? "ownerReferences" = none := by
    unfold metadata?
    cases hfield : live.field? "metadata" with
    | none => rfl
    | some j =>
      cases j with
      | obj members => exact absurd ⟨members, hfield⟩ hno
      | _ => rfl
  simp [controlledBy, getOwnerReferences, hnone, controllerOf] at h

/-- The controller is none of the fields that are written. -/
theorem SameOutside.controlledBy (h : SameOutside live live') (app : WorkerApp) :
    live'.controlledBy app = live.controlledBy app := by
  unfold Unstructured.controlledBy getOwnerReferences
  rw [h.metadata _ (by decide) (by decide)]

theorem SameOutside.refl (u : Unstructured) : SameOutside u u :=
  ⟨fun _ _ _ => rfl, fun _ _ _ => rfl⟩

/-- A call that finds the object in place writes nothing, whether it succeeds or not. -/
theorem calls_inPlace (howned : live.controlledBy app = true)
    (hskip : inPlace live desired = true) (h : Calls app desired live t live' res) :
    writes t = 0 ∧ live' = live := by
  rcases calls_cases howned h with ⟨e, -, hkept, hwrites⟩ | ⟨-, -, hkept, hwrites⟩ | ⟨-, hno, -⟩
  · exact ⟨hwrites hskip, hkept⟩
  · exact ⟨hwrites, hkept⟩
  · rw [hskip] at hno
    cases hno

end calls

/-! ## §5. Convergence. -/

/-- **One write, and nothing foreign is lost.**  After a call that succeeds, made on a live object
the app controls against a server that stores exactly what is sent, the object carries the desired
spec, labels and annotations, and everything else is as it was.  A second call with the desired
object, or with that object as the first call left it, writes nothing; the first call wrote nothing
exactly when the object was in place before. -/
theorem unstructured_converges (app : WorkerApp) (desired live live' : Unstructured)
    (t : List (Event Client)) (howned : live.controlledBy app = true)
    (h : Calls app desired live t live' (.ok ())) :
    InPlace live' desired ∧
      (∀ key, key ∉ desired.getLabels → live'.getLabels.lookup key = live.getLabels.lookup key) ∧
      (∀ key, key ∉ desired.getAnnotations →
        live'.getAnnotations.lookup key = live.getAnnotations.lookup key) ∧
      SameOutside live live' ∧
      (∀ again, again = desired ∨ setControllerReference app desired = .ok again →
        ∀ u live'' res, Calls app again live' u live'' res → writes u = 0 ∧ live'' = live') ∧
      writes t ≤ 1 ∧ (writes t = 0 ↔ InPlace live desired) := by
  -- from the object in place, the second call follows in both cases
  have hsecond : InPlace live' desired → SameOutside live live' →
      ∀ again, again = desired ∨ setControllerReference app desired = .ok again →
        ∀ u live'' res, Calls app again live' u live'' res → writes u = 0 ∧ live'' = live' := by
    intro hplace hsame again hagain u live'' res hcall
    have hcontrolled : live'.controlledBy app = true := (hsame.controlledBy app).trans howned
    refine calls_inPlace hcontrolled ?_ hcall
    rcases hagain with rfl | hset
    · exact inPlace_iff.mpr hplace
    · rw [(overlaid_congr hset live').2]
      exact inPlace_iff.mpr hplace
  rcases calls_cases howned h with ⟨e, hres, -⟩ | ⟨-, hskip, rfl, hwrites⟩ |
    ⟨-, hskip, rfl, hwrites⟩
  · cases hres
  · have hplace := inPlace_iff.mp hskip
    have hsame := SameOutside.refl live'
    refine ⟨hplace, fun _ _ => rfl, fun _ _ => rfl, hsame, hsecond hplace hsame, by omega, ?_⟩
    exact ⟨fun _ => hplace, fun _ => hwrites⟩
  · have hmetadata := hasMetadata_of_controlledBy howned
    have hplace := inPlace_overlaid hmetadata desired
    have hsame := overlaid_outside live desired
    refine ⟨hplace, fun key hkey => ?_, fun key hkey => ?_, hsame, hsecond hplace hsame,
      by omega, ?_⟩
    · rw [overlaid_labels hmetadata]
      exact merge_foreign _ hkey
    · rw [overlaid_annotations hmetadata]
      exact merge_foreign _ hkey
    · rw [hwrites]
      refine ⟨fun hzero => absurd hzero Nat.one_ne_zero, fun hbefore => ?_⟩
      rw [inPlace_iff.mpr hbefore] at hskip
      cases hskip

/-- The server, with every request answered. -/
def handle (live : Unstructured) : (o : Request) → Except Err Unstructured × Unstructured
  | .get .. => (.ok live, live)
  | .create _ => (.error (.other "already exists"), live)
  | .update o => (.ok o, o)

theorem calls_handle {app : WorkerApp} {desired live : Unstructured} {res : Except Err Unit}
    (h : (runWith handle (ensureUnstructured app desired) live).2.2 = res) :
    Calls app desired live (runWith handle (ensureUnstructured app desired) live).1
      (runWith handle (ensureUnstructured app desired) live).2.1 res := by
  subst h
  refine exec_runWith (fun live o => ?_) _ live
  cases o with
  | get => exact ⟨rfl, .inl rfl⟩
  | create o => exact ⟨rfl, _, rfl⟩
  | update o => exact .inr ⟨rfl, o, rfl⟩

/-- An app whose autoscaler is to be released, -/
def shopApp : WorkerApp := { name := "shop", namespace_ := "prod", uid := "u1", spec := {} }

/-- the ScaledObject it wants, -/
def releasedScaler : Unstructured :=
  newUnstructuredObject "keda.sh/v1alpha1" "ScaledObject" "shop-celld" "prod" ∅
    (some (StrMap.ofList [( kedaPausedAnnotation, "false")]))
    (.obj [("maxReplicaCount", .int 5)])

/-- and the live one: paused, labelled by KEDA, with a finalizer and a status. -/
def pausedScaler : Unstructured :=
  ⟨[ ("apiVersion", .str "keda.sh/v1alpha1"), ("kind", .str "ScaledObject"),
     ("metadata", .obj
       [ ("annotations", .obj [( kedaPausedAnnotation, .str "true"), ("team", .str "web")]),
         ("finalizers", .arr [.str "finalizer.keda.sh"]),
         ("labels", .obj [("scaledobject.keda.sh/name", .str "shop-celld")]),
         ("name", .str "shop-celld"), ("namespace", .str "prod"),
         ("ownerReferences", .arr [ofOwnerRef (controllerRef shopApp)]) ]),
     ("spec", .obj [("maxReplicaCount", .int 5)]),
     ("status", .obj [("hpaName", .str "keda-hpa-shop-celld")]) ]⟩

/-- The call that releases it. -/
def release : List (Event Client) × Unstructured × Except Err Unit :=
  runWith handle (ensureUnstructured shopApp releasedScaler) pausedScaler

theorem unstructured_converges_release :
    pausedScaler.controlledBy shopApp = true ∧
      Calls shopApp releasedScaler pausedScaler release.1 release.2.1 (.ok ()) ∧
      InPlace release.2.1 releasedScaler ∧
      release.2.1.getLabels.lookup "scaledobject.keda.sh/name" = some "shop-celld" ∧
      release.2.1.getAnnotations.lookup "team" = some "web" ∧
      SameOutside pausedScaler release.2.1 ∧ writes release.1 = 1 := by
  have howned : pausedScaler.controlledBy shopApp = true := by decide +kernel
  have hcall : Calls shopApp releasedScaler pausedScaler release.1 release.2.1 (.ok ()) :=
    calls_handle (by decide +kernel)
  obtain ⟨hplace, hlabels, hannotations, hsame, -, -, -⟩ :=
    unstructured_converges shopApp releasedScaler pausedScaler release.2.1 release.1 howned hcall
  refine ⟨howned, hcall, hplace, ?_, ?_, hsame, by decide +kernel⟩
  · rw [hlabels _ (by decide +kernel)]
    decide +kernel
  · rw [hannotations _ (by decide +kernel)]
    decide +kernel

/-! ## §6. The function of the passes. -/

/-- The kinds the operator links no types for. -/
inductive Crd where
  | virtualService | authorizationPolicy | scaledObject

def Crd.kind : Crd → Kind
  | .virtualService => .virtualService
  | .authorizationPolicy => .authorizationPolicy
  | .scaledObject => .scaledObject

/-- Their spec is a tree. -/
def Crd.spec (c : Crd) (spec : Json) : Spec c.kind :=
  match c with
  | .virtualService | .authorizationPolicy | .scaledObject => spec

theorem Crd.spec_inj {c : Crd} {spec spec' : Json} : c.spec spec = c.spec spec' ↔ spec = spec' := by
  cases c <;> exact Iff.rfl

/-- The two objects differ at most in spec, labels, annotations and owners. -/
def SameRest (u v : Unstructured) : Prop :=
  (∀ field, field ≠ "spec" → field ≠ "metadata" → v.field? field = u.field? field) ∧
    ∀ field, field ≠ "labels" → field ≠ "annotations" → field ≠ "ownerReferences" →
      v.metadata? field = u.metadata? field

/-- How the passes read the fields the function leaves alone; a new object has none of them. -/
structure Reading (c : Crd) where
  resourceVersion : Unstructured → Nat
  generation : Unstructured → Nat
  status : Unstructured → Status c.kind
  rest : ∀ {u v}, SameRest u v → resourceVersion v = resourceVersion u ∧
    generation v = generation u ∧ status v = status u
  new : ∀ {u}, u.metadata? "resourceVersion" = none → u.metadata? "generation" = none →
    u.field? "status" = none → resourceVersion u = 0 ∧ generation u = 0 ∧ status u = default

namespace Reading

variable {c : Crd} (rd : Reading c) {app : WorkerApp} {live desired owned : Unstructured}

/-- What the passes see of an object. -/
def view (u : Unstructured) : Obj c.kind where
  metadata :=
    { name := u.getName, uid := u.getUID, resourceVersion := rd.resourceVersion u
      generation := rd.generation u, labels := u.getLabels, annotations := u.getAnnotations
      ownerReferences := u.getOwnerReferences.map fun ref =>
        ⟨ref.uid, ref.controller⟩ }
  spec := c.spec u.spec
  status := rd.status u

/-- The object a builder makes, in both models. -/
theorem view_newUnstructuredObject (app : WorkerApp) (apiVersion kind : String)
    (annotations : Option StrMap) (spec : Json) :
    rd.view (newUnstructuredObject apiVersion kind (childName app c.kind) app.namespace_
        (fleetLabels app) annotations spec) =
      newChild app c.kind (annotations.getD ∅) (c.spec spec) := by
  generalize hu : newUnstructuredObject apiVersion kind (childName app c.kind) app.namespace_
    (fleetLabels app) annotations spec = u
  -- the server fills these fields, the builder none of them
  obtain ⟨hversion, hgeneration, hstatus⟩ :
      rd.resourceVersion u = 0 ∧ rd.generation u = 0 ∧ rd.status u = default := by
    subst hu
    refine rd.new ?_ ?_ ?_ <;> cases annotations <;>
      simp [newUnstructuredObject, metadata?, field?, member?_obj]
  unfold view newChild
  rw [hversion, hgeneration, hstatus]
  subst hu
  cases annotations <;>
    simp [newUnstructuredObject, getName, getUID, getLabels, getAnnotations, getStringMap,
      getOwnerReferences, Unstructured.spec, metadata?, field?, member?_obj, stringOf,
      stringMap?_ofStrMap]

theorem view_requireOwnership (h : live.getNamespace = app.namespace_) :
    CelldOperator.requireOwnership app (rd.view live) = requireOwnership app live := by
  have hcontrolled : isControlledBy (rd.view live).metadata.ownerReferences app.uid =
      live.controlledBy app := by
    unfold isControlledBy controlledBy controllerOf view
    dsimp only
    rw [List.find?_map]
    have htest : ((fun ref : OwnerReference => ref.controller == some true) ∘ fun ref : OwnerRef =>
        (⟨ref.uid, ref.controller⟩ : OwnerReference)) =
        fun ref => ref.controller == some true := rfl
    rw [htest]
    cases live.getOwnerReferences.find? fun ref => ref.controller == some true <;> rfl
  unfold CelldOperator.requireOwnership requireOwnership
  rw [hcontrolled, h]
  cases c <;> rfl

theorem view_inPlace (live desired : Unstructured) :
    CelldOperator.inPlace (rd.view live) (rd.view desired) = inPlace live desired := by
  unfold CelldOperator.inPlace inPlace view
  dsimp only
  rw [decide_eq_decide.mpr Crd.spec_inj]

theorem view_overlaid (h : live.HasMetadata) (desired : Unstructured) :
    CelldOperator.overlaid (rd.view live) (rd.view desired) = rd.view (overlaid live desired) := by
  have hsame := overlaid_outside live desired
  obtain ⟨hversion, hgeneration, hstatus⟩ :=
    rd.rest ⟨hsame.fields, fun field hl ha _ => hsame.metadata field hl ha⟩
  unfold CelldOperator.overlaid view getName getUID getOwnerReferences
  rw [hversion, hgeneration, hstatus, overlaid_spec, overlaid_labels h, overlaid_annotations h,
    hsame.metadata _ (by decide) (by decide), hsame.metadata _ (by decide) (by decide),
    hsame.metadata _ (by decide) (by decide)]

theorem view_owned (hmetadata : desired.HasMetadata) (hnew : desired.getOwnerReferences = [])
    (h : setControllerReference app desired = .ok owned) :
    CelldOperator.setControllerReference app (rd.view desired) = rd.view owned := by
  obtain ⟨hspec, hlabels, hannotations⟩ := inPlace_owned h
  have howned := eq_of_setControllerReference h
  rw [hnew] at howned
  have hrefs : owned.getOwnerReferences = [controllerRef app] := by
    rw [howned, getOwnerReferences_setOwnerReferences hmetadata]
    rfl
  have hfield : ∀ field, field ≠ "metadata" → owned.field? field = desired.field? field :=
    fun field hfield => howned ▸ field?_setMetadata_of_ne hfield _
  have hmeta : ∀ field, field ≠ "ownerReferences" → owned.metadata? field = desired.metadata? field :=
    fun field hfield => howned ▸ metadata?_setMetadata_of_ne hfield _
  obtain ⟨hversion, hgeneration, hstatus⟩ :=
    rd.rest ⟨fun field _ hother => hfield field hother, fun field _ _ hother => hmeta field hother⟩
  unfold CelldOperator.setControllerReference view getName getUID
  rw [hversion, hgeneration, hstatus, hspec, hlabels, hannotations, hrefs,
    hmeta _ (by decide), hmeta _ (by decide)]
  rfl

/-- An exchange as the passes see it. -/
def event : Event Client → Event Api
  | ⟨.get _ _ _ name, r⟩ => ⟨.get c.kind name, r.map rd.view⟩
  | ⟨.create o, r⟩ => ⟨.create c.kind (rd.view o), r.map rd.view⟩
  | ⟨.update o, r⟩ => ⟨.update c.kind (rd.view o), r.map rd.view⟩

/-- An object of the app's namespace that nobody owns gets the app as its owner. -/
theorem setControllerReference_new (hns : desired.getNamespace = app.namespace_)
    (hnew : desired.getOwnerReferences = []) :
    ∃ owned, setControllerReference app desired = .ok owned := by
  unfold setControllerReference
  rw [hnew, hns, if_neg (fun h => h.1 h.2), if_neg (fun h => h.2 rfl)]
  exact ⟨_, rfl⟩

theorem controlledBy_of_requireOwnership (h : requireOwnership app live = .ok ()) :
    live.controlledBy app = true := by
  unfold requireOwnership at h
  split at h
  · assumption
  · cases h

/-- **The function of the passes is the function on trees**, seen through the fields they know. -/
theorem ensureUnstructured_refines (hmetadata : desired.HasMetadata)
    (hnew : desired.getOwnerReferences = []) (hns : desired.getNamespace = app.namespace_)
    {t : List (Event Client)} {res : Except Err Unit}
    (hread : ∀ o live, o.writes = false → (⟨o, .ok live⟩ : Event Client) ∈ t →
      live.getNamespace = app.namespace_)
    (h : Runs (ensureUnstructured app desired) t res) :
    Runs (CelldOperator.ensureUnstructured app (rd.view desired)) (t.map rd.event) res := by
  obtain ⟨owned, hset⟩ := setControllerReference_new hns hnew
  unfold ensureUnstructured at h
  rw [hset] at h
  obtain ⟨r, t₁, t₂, rfl, hget, hrest⟩ := runs_bind.mp h
  obtain rfl := runs_req.mp hget
  unfold CelldOperator.ensureUnstructured
  rw [rd.view_owned hmetadata hnew hset]
  refine runs_bind.mpr ⟨r.map rd.view, [_], _, List.map_append, runs_req.mpr rfl, ?_⟩
  cases r with
  | error e =>
    dsimp only [Except.map] at hrest ⊢
    split at hrest
    · next hmissing =>
      obtain ⟨answer, u₁, u₂, rfl, hcreate, hend⟩ := runs_bind.mp hrest
      obtain rfl := runs_req.mp hcreate
      obtain ⟨rfl, rfl⟩ := runs_ret.mp hend
      rw [if_pos hmissing]
      refine runs_bind.mpr ⟨answer.map rd.view, [_], [], rfl, runs_req.mpr rfl, ?_⟩
      cases answer <;> exact runs_ret.mpr ⟨rfl, rfl⟩
    · next hother =>
      obtain ⟨rfl, rfl⟩ := runs_ret.mp hrest
      rw [if_neg hother]
      exact runs_ret.mpr ⟨rfl, rfl⟩
  | ok live =>
    have hnamespace : live.getNamespace = app.namespace_ :=
      hread (.get ..) live rfl List.mem_cons_self
    dsimp only [Except.map] at hrest ⊢
    rw [rd.view_requireOwnership hnamespace, rd.view_inPlace]
    cases howner : requireOwnership app live with
    | error e =>
      rw [howner] at hrest
      obtain ⟨rfl, rfl⟩ := runs_ret.mp hrest
      exact runs_ret.mpr ⟨rfl, rfl⟩
    | ok =>
      rw [howner] at hrest
      dsimp only at hrest ⊢
      split at hrest
      · next hskip =>
        obtain ⟨rfl, rfl⟩ := runs_ret.mp hrest
        rw [if_pos hskip]
        exact runs_ret.mpr ⟨rfl, rfl⟩
      · next hskip =>
        obtain ⟨answer, u₁, u₂, rfl, hupdate, hend⟩ := runs_bind.mp hrest
        obtain rfl := runs_req.mp hupdate
        obtain ⟨rfl, rfl⟩ := runs_ret.mp hend
        have hcontrolled : live.HasMetadata :=
          hasMetadata_of_controlledBy (controlledBy_of_requireOwnership howner)
        rw [if_neg hskip, rd.view_overlaid hcontrolled]
        refine runs_bind.mpr ⟨answer.map rd.view, [_], [], rfl, runs_req.mpr rfl, ?_⟩
        cases answer <;> exact runs_ret.mpr ⟨rfl, rfl⟩

/-- So it is on every object a builder makes. -/
theorem newUnstructuredObject_refines (apiVersion kind : String) (annotations : Option StrMap)
    (spec : Json) {t : List (Event Client)} {res : Except Err Unit}
    (hread : ∀ o live, o.writes = false → (⟨o, .ok live⟩ : Event Client) ∈ t →
      live.getNamespace = app.namespace_)
    (h : Runs (ensureUnstructured app (newUnstructuredObject apiVersion kind
      (childName app c.kind) app.namespace_ (fleetLabels app) annotations spec)) t res) :
    Runs (CelldOperator.ensureUnstructured app
      (newChild app c.kind (annotations.getD ∅) (c.spec spec))) (t.map rd.event) res := by
  rw [← rd.view_newUnstructuredObject app apiVersion kind]
  refine rd.ensureUnstructured_refines ⟨_, rfl⟩ ?_ ?_ hread h
  · cases annotations <;>
      simp [newUnstructuredObject, getOwnerReferences, metadata?, field?, member?_obj]
  · cases annotations <;>
      simp [newUnstructuredObject, getNamespace, metadata?, field?, member?_obj, stringOf]

end Reading

end CelldOperator.Unstructured
