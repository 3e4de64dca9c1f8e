/-
  CelldOperator.Foundation.Identity

  **THE CLOUD IDENTITY ON THE SERVICE ACCOUNT.**  The role and the client ID a spec
  names are annotations of the fleet's ServiceAccount.  With `iamRole: auto` the
  operator names none and leaves what is there, for others to provision; it cannot
  tell what they put there from what an earlier spec did.

    • `identityAfter` — the annotations a pass leaves, from those it finds,
    • `ensureFoundation_ensures` — every pass that completes leaves just these, and one
      that is cut off these or what it found,
    • `identity_current_iff` — what it leaves is what the spec names or what others
      put there, exactly if an `auto` spec finds no identity of the operator's,
    • `identity_current_reachable` — so along every run whose specs never say `auto`,
      or never name an identity,
    • `identity_lingers` — a role, then `auto`.

  Who put an annotation there is a ghost of the world, `author`.
-/
import CelldOperator.Effect.Hoare
import CelldOperator.Pass.Known

namespace CelldOperator

open Effect Prog

/-! ## §1. What the spec names. -/

/-- The annotations that carry an identity. -/
def identityKeys : List String := [ roleArnAnnotation, azureClientIDAnnotation]

/-- The identity the spec names for an annotation. -/
def namedIdentity (app : WorkerApp) (key : String) : Option String :=
  let creds := app.spec.bucket.credentialsFrom
  if key = roleArnAnnotation then
    if creds.iamRole ≠ "" ∧ creds.iamRole ≠ iamRoleAuto then some creds.iamRole else none
  else if key = azureClientIDAnnotation then
    if creds.azureClientID ≠ "" then some creds.azureClientID else none
  else none

/-- Provisioning is left to others. -/
def leavesIdentity (app : WorkerApp) : Bool :=
  app.spec.bucket.credentialsFrom.iamRole == iamRoleAuto

theorem roleArn_ne_azureClientID : roleArnAnnotation ≠ azureClientIDAnnotation := by decide

theorem lookup_buildServiceAccount (app : WorkerApp) (key : String) :
    (buildServiceAccount app).metadata.annotations.lookup key = namedIdentity app key := by
  have hne := roleArn_ne_azureClientID
  unfold buildServiceAccount namedIdentity newChild
  dsimp only
  by_cases hrole : key = roleArnAnnotation
  · subst hrole
    split <;> split <;>
      simp [StrMap.ofList, Finmap.lookup_insert, Finmap.lookup_insert_of_ne, hne]
  · by_cases hclient : key = azureClientIDAnnotation
    · subst hclient
      split <;> split <;>
        simp [StrMap.ofList, Finmap.lookup_insert, Finmap.lookup_insert_of_ne, hne.symm]
    · split <;> split <;>
        simp [StrMap.ofList, Finmap.lookup_insert_of_ne, hrole, hclient]

theorem namedIdentity_of_foreign {app : WorkerApp} {key : String} (h : key ∉ identityKeys) :
    namedIdentity app key = none := by
  simp only [identityKeys, List.mem_cons, List.not_mem_nil, or_false, not_or] at h
  unfold namedIdentity
  rw [if_neg h.1, if_neg h.2]

/-- The annotations a pass leaves, from those it finds: the merge, and away with an identity that
is not named, unless that is left to others. -/
def identityAfter (app : WorkerApp) (found : StrMap) : StrMap :=
  (identityKeys.filter fun key =>
    !decide (key ∈ (buildServiceAccount app).metadata.annotations) &&
      app.spec.bucket.credentialsFrom.iamRole != iamRoleAuto).foldl (fun m key => m.erase key)
    (mergeStringMaps found (buildServiceAccount app).metadata.annotations)

/-- **What becomes of each annotation.** -/
theorem lookup_identityAfter (app : WorkerApp) (found : StrMap) (key : String) :
    (identityAfter app found).lookup key =
      if key ∈ identityKeys ∧ ¬ leavesIdentity app then namedIdentity app key
      else (namedIdentity app key).or (found.lookup key) := by
  have hmem : key ∈ (buildServiceAccount app).metadata.annotations ↔
      namedIdentity app key ≠ none := by
    rw [← lookup_buildServiceAccount, Ne, Finmap.lookup_eq_none, not_not]
  unfold identityAfter leavesIdentity
  rw [StrMap.lookup_eraseAll, lookup_mergeStringMaps, lookup_buildServiceAccount]
  cases hnamed : namedIdentity app key with
  | some value => simp [hmem, hnamed]
  | none => simp [hmem, hnamed, bne]

/-! ## §2. The world. -/

/-- Who put an annotation there. -/
inductive Author where
  | operator | other
  deriving DecidableEq

/-- The cluster, and who put the present value of each annotation of the ServiceAccount there. -/
structure AccountWorld where
  cluster : Cluster
  author : String → Author

/-- The annotations of the ServiceAccount `n`. -/
def accountAnnotations (n : String) (c : Cluster) : StrMap :=
  match c.live .serviceAccount n with
  | some account => account.metadata.annotations
  | none => ∅

/-- The authors behind a change by `who`. -/
def authored (who : Author) (before after : StrMap) (author : String → Author) (key : String) :
    Author :=
  if after.lookup key = before.lookup key then author key else who

@[simp] theorem authored_same (who : Author) (m : StrMap) (author : String → Author) :
    authored who m m author = author := by
  funext key
  simp [authored]

theorem authored_of_lookup {who : Author} {before after : StrMap} {author : String → Author}
    {key : String} (h : after.lookup key = before.lookup key) :
    authored who before after author key = author key :=
  if_pos h

/-- A read of the ServiceAccount through the cache is up to date. -/
def CurrentRead (c : Cluster) : (o : Op) → Resp o → Prop
  | .get .serviceAccount n, .ok v => c.live .serviceAccount n = some v
  | _, _ => True

/-- The API server in such a world. -/
structure ServeAccount (n : String) (w : AccountWorld) (o : Op) (res : Resp o)
    (w' : AccountWorld) : Prop where
  served : Serve w.cluster o res w'.cluster
  current : CurrentRead w.cluster o res
  author : w'.author = authored .operator (accountAnnotations n w.cluster)
    (accountAnnotations n w'.cluster) w.author

/-- During a pass others leave the ServiceAccount alone. -/
structure SparesAccount (n : String) (w w' : AccountWorld) : Prop where
  later : w.cluster.Later w'.cluster
  live : w'.cluster.live .serviceAccount n = w.cluster.live .serviceAccount n
  author : w'.author = w.author

/-- Between passes anybody changes anything. -/
structure EditsAccount (n : String) (w w' : AccountWorld) : Prop where
  later : w.cluster.Later w'.cluster
  author : w'.author = authored .other (accountAnnotations n w.cluster)
    (accountAnnotations n w'.cluster) w.author

/-- One pass over the foundation: the flags with their allowlists, and the spec. -/
structure FoundationPass where
  r : Reconciler
  app : WorkerApp

/-- **The system**: passes over the foundation of the WorkerApp `name`, for any accepted spec and
any allowlists. -/
def accountSystem (name : String) :
    System Api AccountWorld FoundationPass (Except Err (List Condition)) where
  serve := ServeAccount (name ++ "-celld")
  during := SparesAccount (name ++ "-celld")
  between := EditsAccount (name ++ "-celld")
  job := fun j => ensureFoundation j.r j.app
  admits := fun _ j => j.app.name = name ∧ validateApp j.r j.app = .ok ()

/-! ## §3. What a pass leaves. -/

section rules

/-- A condition on success, over the error check. -/
theorem ensures_check {σ α β : Type} {serve : σ → (o : Op) → Resp o → σ → Prop}
    {env : σ → σ → Prop} {A B C : σ → Prop} {p : P (Except Err α)} {f : α → P (Except Err β)}
    (hp : Ensures serve env A p fun res s => ∀ a, res = .ok a → B s)
    (hf : ∀ a, Ensures serve env B (f a) fun res s => ∀ b, res = .ok b → C s) :
    Ensures serve env A (check p f) fun res s => ∀ b, res = .ok b → C s := by
  unfold check
  refine ensures_bind (fun res => ?_) hp
  cases res with
  | error e => exact (ensures_result _).post fun _ _ hres b hb => by cases hres.symm.trans hb
  | ok a => exact (hf a).pre fun _ h => h a rfl

theorem ensures_headed {σ α : Type} {serve : σ → (o : Op) → Resp o → σ → Prop}
    {env : σ → σ → Prop} {A B : σ → Prop} (hB : Stable env B) {heading : String}
    {p : P (Except Err α)} (hp : Ensures serve env A p fun res s => ∀ a, res = .ok a → B s) :
    Ensures serve env A (headed heading p) fun res s => ∀ a, res = .ok a → B s := by
  unfold headed
  refine ensures_bind (fun res => ?_) hp
  cases res with
  | error e => exact (ensures_result _).post fun _ _ hres b hb => by cases hres.symm.trans hb
  | ok a => exact (ensures_pure hB _ fun _ h _ _ => h).pre fun _ h => h a rfl

/-- The same with an invariant. -/
theorem ensures_check_and {σ α β : Type} {serve : σ → (o : Op) → Resp o → σ → Prop}
    {env : σ → σ → Prop} {A B C I : σ → Prop} {p : P (Except Err α)} {f : α → P (Except Err β)}
    (hI : Stable env I) (hp : Ensures serve env A p fun res s => (∀ a, res = .ok a → B s) ∧ I s)
    (hf : ∀ a, Ensures serve env B (f a) fun res s => (∀ b, res = .ok b → C s) ∧ I s) :
    Ensures serve env A (check p f) fun res s => (∀ b, res = .ok b → C s) ∧ I s := by
  unfold check
  refine ensures_bind (fun res => ?_) hp
  cases res with
  | error e =>
    exact (ensures_pure hI _ fun _ h => ⟨fun b hb => (by cases hb), h⟩).pre fun _ h => h.2
  | ok a => exact (hf a).pre fun _ h => h.1 a rfl

end rules

section pass

variable {r : Reconciler} {app : WorkerApp} {live : Option (Obj .serviceAccount)}
  {author : String → Author}

/-- The annotations of the ServiceAccount, if there is one. -/
def annotationsIn : Option (Obj .serviceAccount) → StrMap
  | some account => account.metadata.annotations
  | none => ∅

/-- The ServiceAccount is as it was found. -/
def FoundAccount (app : WorkerApp) (live : Option (Obj .serviceAccount))
    (author : String → Author) (w : AccountWorld) : Prop :=
  w.cluster.live .serviceAccount (fleetName app) = live ∧ w.author = author

/-- The ServiceAccount is as the pass leaves it. -/
def SettledAccount (app : WorkerApp) (live : Option (Obj .serviceAccount))
    (author : String → Author) (w : AccountWorld) : Prop :=
  accountAnnotations (fleetName app) w.cluster = identityAfter app (annotationsIn live) ∧
    w.author = authored .operator (annotationsIn live) (identityAfter app (annotationsIn live))
      author

theorem accountAnnotations_eq (n : String) (c : Cluster) :
    accountAnnotations n c = annotationsIn (c.live .serviceAccount n) := by
  unfold accountAnnotations annotationsIn
  rfl

variable (app live author) in
theorem stable_found : Stable (SparesAccount (fleetName app)) (FoundAccount app live author) := by
  rintro w w' ⟨hlive, hauthor⟩ hm
  exact ⟨hm.live.trans hlive, hm.author.trans hauthor⟩

theorem stable_settled :
    Stable (SparesAccount (fleetName app)) (SettledAccount app live author) := by
  rintro w w' ⟨hleft, hauthor⟩ hm
  refine ⟨?_, hm.author.trans hauthor⟩
  rw [accountAnnotations_eq, hm.live, ← accountAnnotations_eq]
  exact hleft

/-- As found or as left. -/
def VisitedAccount (app : WorkerApp) (live : Option (Obj .serviceAccount))
    (author : String → Author) (w : AccountWorld) : Prop :=
  FoundAccount app live author w ∨ SettledAccount app live author w

theorem stable_visited :
    Stable (SparesAccount (fleetName app)) (VisitedAccount app live author) := by
  rintro w w' (hw | hw) hm
  · exact .inl (stable_found app live author w w' hw hm)
  · exact .inr (stable_settled w w' hw hm)

/-- What leaves the ServiceAccount leaves its authors. -/
theorem ServeAccount.spares {n : String} {w w' : AccountWorld} {o : Op} {res : Resp o}
    (hs : ServeAccount n w o res w')
    (hlive : w'.cluster.live .serviceAccount n = w.cluster.live .serviceAccount n) :
    SparesAccount n w w' := by
  refine ⟨hs.served.later, hlive, ?_⟩
  rw [hs.author, accountAnnotations_eq, accountAnnotations_eq, hlive, authored_same]

theorem ServeAccount.idle {n : String} {w w' : AccountWorld} {o : Op} {res : Resp o}
    (hs : ServeAccount n w o res w') (h : w'.cluster = w.cluster) : SparesAccount n w w' :=
  hs.spares (by rw [h])

/-- Only writes of ServiceAccounts touch it. -/
theorem ServeAccount.frame {n : String} {w w' : AccountWorld} {o : Op} {res : Resp o}
    (hs : ServeAccount n w o res w') (ho : o.writes ≠ some .serviceAccount) :
    SparesAccount n w w' :=
  hs.spares (hs.served.live_of_writes ho n)

/-- A write of the ServiceAccount. -/
theorem settled_of_write {w w' : AccountWorld} {o : Op} {res : Resp o}
    {stored : Obj .serviceAccount} (hs : ServeAccount (fleetName app) w o res w')
    (hw : FoundAccount app live author w)
    (hlive : w'.cluster.live .serviceAccount (fleetName app) = some stored)
    (hstored : stored.metadata.annotations = identityAfter app (annotationsIn live)) :
    SettledAccount app live author w' := by
  have hleft : accountAnnotations (fleetName app) w'.cluster =
      identityAfter app (annotationsIn live) := by
    rw [accountAnnotations_eq, hlive]
    exact hstored
  refine ⟨hleft, ?_⟩
  rw [hs.author, hleft, accountAnnotations_eq, hw.1, hw.2]

/-- Nothing to write. -/
theorem settled_of_same {w : AccountWorld} (hw : FoundAccount app live author w)
    (hsame : identityAfter app (annotationsIn live) = annotationsIn live) :
    SettledAccount app live author w := by
  unfold SettledAccount
  rw [hsame, authored_same, accountAnnotations_eq, hw.1]
  exact ⟨rfl, hw.2⟩

/-- A new ServiceAccount has what the spec names. -/
theorem identityAfter_empty (app : WorkerApp) :
    identityAfter app ∅ = (buildServiceAccount app).metadata.annotations := by
  refine Finmap.ext_lookup fun key => ?_
  rw [lookup_identityAfter, lookup_buildServiceAccount]
  simp

/-- Settled by what succeeds, and otherwise as found. -/
def AccountAnswered {α : Type} (app : WorkerApp) (live : Option (Obj .serviceAccount))
    (author : String → Author) (res : Except Err α) (w : AccountWorld) : Prop :=
  (∀ a, res = .ok a → SettledAccount app live author w) ∧ VisitedAccount app live author w

section answers

variable {α : Type} {w w' : AccountWorld}

theorem stable_answered (res : Except Err α) :
    Stable (SparesAccount (fleetName app)) (AccountAnswered app live author res) :=
  fun w w' h hm => ⟨fun a ha => stable_settled w w' (h.1 a ha) hm, stable_visited w w' h.2 hm⟩

theorem answered_of_settled (h : SettledAccount app live author w) (res : Except Err α) :
    AccountAnswered app live author res w :=
  ⟨fun _ _ => h, .inr h⟩

theorem answered_of_found (h : FoundAccount app live author w) (e : Err) :
    AccountAnswered app live author (.error e : Except Err α) w :=
  ⟨fun _ ha => (by cases ha), .inl h⟩

/-- The server admits a creation only if there was none. -/
theorem answered_create {res : Except Err (Obj .serviceAccount)}
    (hw : FoundAccount app live author w)
    (hs : ServeAccount (fleetName app) w
      (.create .serviceAccount (prepare r app (buildServiceAccount app))) res w') :
    AccountAnswered app live author res w' := by
  cases res with
  | error e => exact answered_of_found (stable_found app live author w w' hw (hs.idle hs.served)) e
  | ok stored =>
    obtain ⟨habsent, hmade, hput⟩ := hs.served
    have hnone : live = none := hw.1.symm.trans habsent
    refine answered_of_settled (settled_of_write hs hw (live_of_put hput ?_) ?_) _
    · rw [hmade.metadata]
      rfl
    · rw [hmade.metadata, hnone]
      exact (identityAfter_empty app).symm

/-- The annotations that an update writes. -/
theorem annotations_mutated (v : Obj .serviceAccount) :
    (mutated (mutateServiceAccount app) v (prepare r app
      (buildServiceAccount app))).metadata.annotations =
        identityAfter app v.metadata.annotations :=
  rfl

theorem answered_update {v : Obj .serviceAccount} {res : Except Err (Obj .serviceAccount)}
    (hw : FoundAccount app (some v) author w)
    (hs : ServeAccount (fleetName app) w (.update .serviceAccount
      (mutated (mutateServiceAccount app) v (prepare r app (buildServiceAccount app)))) res w') :
    AccountAnswered app (some v) author res w' := by
  cases res with
  | error e => exact answered_of_found (stable_found app _ author w w' hw (hs.idle hs.served)) e
  | ok stored =>
    obtain ⟨cur, -, -, hacc, hput⟩ := hs.served
    have hname : v.metadata.name = fleetName app := Cluster.name_of_live hw.1
    refine answered_of_settled (settled_of_write hs hw (live_of_put hput ?_) ?_) _
    · rw [hacc.metadata]
      exact hname
    · rw [hacc.metadata]
      exact annotations_mutated v

end answers

/-- **The ServiceAccount step of a pass.** -/
theorem ensureAccount_ensures :
    Ensures (ServeAccount (fleetName app)) (SparesAccount (fleetName app))
      (FoundAccount app live author)
      (ensureObject r app (buildServiceAccount app) (mutateServiceAccount app))
      (AccountAnswered app live author) := by
  have hfound := stable_found app live author
  -- behind an accepted write
  have hdone : ∀ o, Ensures (ServeAccount (fleetName app)) (SparesAccount (fleetName app))
      (SettledAccount app live author) (pure (.ok o) : P (Except Err (Obj .serviceAccount)))
      (AccountAnswered app live author) :=
    fun o => ensures_pure stable_settled _ fun _ h => answered_of_settled h _
  unfold ensureObject
  refine ensures_bind (B := fun res w => (∀ v, res = .ok v → live = some v) ∧
    FoundAccount app live author w) (fun res => ?_) ?_
  · cases res with
    | error e =>
      dsimp only
      split
      · refine ensures_check_and stable_visited ?_ fun _ => hdone _
        exact (ensures_req hfound stable_answered fun _ _ _ hw hs => answered_create hw hs).pre
          fun _ h => h.2
      · exact ensures_pure (hfound.and_const _) _ fun _ h => answered_of_found h.2 e
    | ok v =>
      dsimp only
      rw [receive_of_ne (by decide)]
      split
      · exact ensures_pure (hfound.and_const _) _ fun _ h => answered_of_found h.2 _
      · split
        · next hsame =>
          refine ensures_pure (hfound.and_const _) _ fun w h => answered_of_settled ?_ _
          obtain rfl := h.1 v rfl
          refine settled_of_same h.2 ?_
          show identityAfter app v.metadata.annotations = v.metadata.annotations
          rw [← annotations_mutated (r := r), hsame]
        · refine ensures_check_and stable_visited ?_ fun _ => hdone _
          refine ensures_req (hfound.and_const _) stable_answered fun w res w' h hs => ?_
          obtain rfl := h.1 v rfl
          exact answered_update h.2 hs
  · refine ensures_req hfound (fun res => hfound.and_const _) ?_
    intro w res w' hw hs
    refine ⟨?_, hfound w w' hw (hs.frame (by simp [Op.writes]))⟩
    rintro v rfl
    exact hw.1.symm.trans hs.current

/-- The rest of a pass leaves the ServiceAccount alone. -/
theorem ensures_settled {α : Type} {K : Kind → Prop} {p : P (Except Err α)} (hp : Confined K p)
    (hK : ¬ K .serviceAccount) :
    Ensures (ServeAccount (fleetName app)) (SparesAccount (fleetName app))
      (SettledAccount app live author) p (AccountAnswered app live author) := by
  refine (ensures_only stable_settled hp ?_).post fun res _ h => answered_of_settled h res
  rintro w o res w' ⟨hwrites, -⟩ hw hs
  exact stable_settled w w' hw (hs.frame fun h => hK (hwrites _ h))

/-- **What a pass leaves.** -/
theorem ensureFoundation_ensures :
    Ensures (ServeAccount (fleetName app)) (SparesAccount (fleetName app))
      (FoundAccount app live author) (ensureFoundation r app) (AccountAnswered app live author) := by
  unfold ensureFoundation
  refine ensures_check_and stable_visited (B := SettledAccount app live author) ?_ fun _ => ?_
  · unfold headed
    refine ensures_bind (fun res => ?_) ensureAccount_ensures
    cases res with
    | error e =>
      exact ensures_pure (stable_answered _) _ fun _ h => ⟨fun _ ha => (by cases ha), h.2⟩
    | ok o => exact ensures_pure (stable_answered _) _ fun _ h => ⟨fun _ _ => h.1 o rfl, h.2⟩
  -- the other four objects
  have hstep : ∀ {k : Kind} (desired : Obj k) (mutate : Obj k → Obj k → Obj k) (heading : String),
      k ≠ .serviceAccount →
        Confined (· ≠ .serviceAccount) (headed heading (ensureObject r app desired mutate)) :=
    fun desired mutate heading hk => headed_confined
      ((ensureObject_confined r app desired mutate).mono fun k' heq => heq ▸ hk)
  refine ensures_settled (K := (· ≠ .serviceAccount)) ?_ (by simp)
  refine confined_check (hstep _ _ _ (by decide)) fun _ => ?_
  refine confined_check (hstep _ _ _ (by decide)) fun _ => ?_
  refine confined_check (hstep _ _ _ (by decide)) fun _ => ?_
  exact confined_check (hstep _ _ _ (by decide)) fun _ => confined_pure _

/-- A request may fail with nothing done. -/
theorem serveAccount_idle (n : String) (w : AccountWorld) (o : Op) :
    ∃ res, ServeAccount n w o res w := by
  obtain ⟨res, hserve, hread⟩ : ∃ res, Serve w.cluster o res w.cluster ∧
      CurrentRead w.cluster o res := by
    cases o with
    | now => exact ⟨0, rfl, trivial⟩
    | getLive k n => exact ⟨.error (.other ""), ⟨rfl, nofun⟩, trivial⟩
    | completionOrder l | rangeStates l | rangeKinds l => exact ⟨⟨l, .refl l⟩, rfl, trivial⟩
    | trackerLoad key => exact ⟨none, rfl, trivial⟩
    | trackerStore _ _ _ | trackerForget _ => exact ⟨(), rfl, trivial⟩
    | get k n => exact ⟨.error (.other ""), rfl, by cases k <;> trivial⟩
    | _ => exact ⟨.error (.other ""), rfl, trivial⟩
  exact ⟨res, hserve, hread, (authored_same _ _ _).symm⟩

/-- So wherever it is cut off, the ServiceAccount is as found or as left. -/
theorem ensureFoundation_throughout :
    Throughout (ServeAccount (fleetName app)) (SparesAccount (fleetName app))
      (FoundAccount app live author) (ensureFoundation r app) (VisitedAccount app live author) :=
  (ensureFoundation_ensures.post fun _ _ h => h.2).throughout (serveAccount_idle _)

end pass

/-! ## §4. Current identities. -/

/-- **The identity is current**: each annotation is what the spec names, or was put there by
others for an `auto` spec; what the spec names is allowed; the rest has not changed. -/
structure IdentityCurrent (r : Reconciler) (app : WorkerApp) (before after : StrMap)
    (author : String → Author) : Prop where
  identity : ∀ key ∈ identityKeys, after.lookup key = namedIdentity app key ∨
    leavesIdentity app = true ∧ author key = .other
  role : ∀ role, namedIdentity app roleArnAnnotation = some role → role ∈ r.allowedIAMRoles
  client : ∀ client, namedIdentity app azureClientIDAnnotation = some client →
    client ∈ r.allowedAzureClientIDs
  others : ∀ key ∉ identityKeys, after.lookup key = before.lookup key

/-- **The condition**: a pass with `auto` finds no identity that the operator put there. -/
def FindsForeign (app : WorkerApp) (w : AccountWorld) : Prop :=
  leavesIdentity app = true → ∀ key ∈ identityKeys,
    key ∈ accountAnnotations (fleetName app) w.cluster → w.author key = .other

theorem namedIdentity_of_leaves {r : Reconciler} {app : WorkerApp}
    (hvalid : validateApp r app = .ok ()) (hauto : leavesIdentity app = true) (key : String) :
    namedIdentity app key = none := by
  have hrole : app.spec.bucket.credentialsFrom.iamRole = iamRoleAuto := by
    simpa [leavesIdentity] using hauto
  have hclient := (trustedIdentity_of_valid hvalid).single (by rw [hrole]; decide)
  unfold namedIdentity
  simp [hrole, hclient]

/-- What an `auto` spec finds it leaves. -/
theorem lookup_identityAfter_of_leaves {r : Reconciler} {app : WorkerApp}
    (hvalid : validateApp r app = .ok ()) (hauto : leavesIdentity app = true) (found : StrMap)
    (key : String) : (identityAfter app found).lookup key = found.lookup key := by
  rw [lookup_identityAfter, namedIdentity_of_leaves hvalid hauto]
  simp [hauto]

/-- The allowlists. -/
theorem namedIdentity_allowed {r : Reconciler} {app : WorkerApp}
    (hvalid : validateApp r app = .ok ()) :
    (∀ role, namedIdentity app roleArnAnnotation = some role → role ∈ r.allowedIAMRoles) ∧
      ∀ client, namedIdentity app azureClientIDAnnotation = some client →
        client ∈ r.allowedAzureClientIDs := by
  have htrust := trustedIdentity_of_valid hvalid
  constructor
  · intro role hrole
    unfold namedIdentity at hrole
    simp only [if_true] at hrole
    split at hrole
    · next hnamed =>
      cases hrole
      exact htrust.role hnamed.1 hnamed.2
    · cases hrole
  · intro client hclient
    unfold namedIdentity at hclient
    simp only [if_neg roleArn_ne_azureClientID.symm, if_true] at hclient
    split at hclient
    · next hnamed =>
      cases hclient
      exact htrust.client hnamed
    · cases hclient

/-- What a pass leaves of what it found is current exactly if an `auto` spec found no identity of
the operator's. -/
theorem identityCurrent_after_iff {r : Reconciler} {app : WorkerApp}
    (hvalid : validateApp r app = .ok ()) (found : StrMap) (author : String → Author) :
    IdentityCurrent r app found (identityAfter app found)
        (authored .operator found (identityAfter app found) author) ↔
      (leavesIdentity app = true → ∀ key ∈ identityKeys, key ∈ found → author key = .other) := by
  have hkept := fun hauto key => lookup_identityAfter_of_leaves hvalid hauto found key
  constructor
  · intro hc hauto key hkey hmem
    rcases hc.identity key hkey with hnamed | ⟨-, hother⟩
    · rw [hkept hauto, namedIdentity_of_leaves hvalid hauto, Finmap.lookup_eq_none] at hnamed
      exact absurd hmem hnamed
    · rwa [authored_of_lookup (hkept hauto key)] at hother
  · intro hforeign
    refine ⟨fun key hkey => ?_, (namedIdentity_allowed hvalid).1, (namedIdentity_allowed hvalid).2,
      fun key hkey => ?_⟩
    · cases hauto : leavesIdentity app with
      | false =>
        left
        rw [lookup_identityAfter]
        simp [hkey, hauto]
      | true =>
        by_cases hmem : key ∈ found
        · right
          refine ⟨rfl, ?_⟩
          rw [authored_of_lookup (hkept hauto key)]
          exact hforeign hauto key hkey hmem
        · left
          rw [hkept hauto, namedIdentity_of_leaves hvalid hauto]
          exact Finmap.lookup_eq_none.mpr hmem
    · rw [lookup_identityAfter, namedIdentity_of_foreign hkey]
      simp [hkey]

/-- **A revoked identity does not linger**, behind any pass that completes `ensureFoundation` from
any state, exactly if an `auto` spec finds no identity that the operator put there. -/
theorem identity_current_iff (r : Reconciler) (app : WorkerApp)
    (hvalid : validateApp r app = .ok ()) (w w' : AccountWorld) (t : Trace)
    (conditions : List Condition)
    (hx : Exec (ServeAccount (fleetName app)) (SparesAccount (fleetName app)) w
      (ensureFoundation r app) t w' (.ret (.ok conditions))) :
    IdentityCurrent r app (accountAnnotations (fleetName app) w.cluster)
        (accountAnnotations (fleetName app) w'.cluster) w'.author ↔
      FindsForeign app w := by
  obtain ⟨hafter, hauthor⟩ := (ensureFoundation_ensures w t w' _ ⟨rfl, rfl⟩ hx).1 conditions rfl
  rw [← accountAnnotations_eq] at hafter hauthor
  rw [hafter, hauthor]
  exact identityCurrent_after_iff hvalid _ _

/-! ## §5. Over a run. -/

/-- The system with passes over the specs in `specs` only. -/
def accountRuns (name : String) (specs : FoundationPass → Prop) :
    System Api AccountWorld FoundationPass (Except Err (List Condition)) :=
  { accountSystem name with admits := fun w j => (accountSystem name).admits w j ∧ specs j }

/-- No identity on the ServiceAccount is the operator's. -/
def AllForeign (n : String) (w : AccountWorld) : Prop :=
  ∀ key ∈ identityKeys, key ∈ accountAnnotations n w.cluster → w.author key = .other

/-- The others add none that is the operator's. -/
theorem AllForeign.edits {n : String} {w w' : AccountWorld} (h : AllForeign n w)
    (hm : EditsAccount n w w') : AllForeign n w' := by
  intro key hkey hmem
  rw [hm.author]
  by_cases hsame : (accountAnnotations n w'.cluster).lookup key =
      (accountAnnotations n w.cluster).lookup key
  · rw [authored_of_lookup hsame]
    refine h key hkey (Finmap.mem_iff.mpr ?_)
    rw [← hsame]
    exact Finmap.mem_iff.mp hmem
  · exact if_neg hsame

/-- Nor does a pass whose spec names none. -/
theorem AllForeign.visited {app : WorkerApp} {w w' : AccountWorld}
    (h : AllForeign (fleetName app) w) (hnamed : ∀ key, namedIdentity app key = none)
    (hw' : VisitedAccount app (w.cluster.live .serviceAccount (fleetName app)) w.author w') :
    AllForeign (fleetName app) w' := by
  rcases hw' with ⟨hlive, hauthor⟩ | ⟨hafter, hauthor⟩
  · unfold AllForeign
    rw [accountAnnotations_eq, hlive, hauthor, ← accountAnnotations_eq]
    exact h
  · rw [← accountAnnotations_eq] at hafter hauthor
    intro key hkey hmem
    rw [hafter, Finmap.mem_iff, lookup_identityAfter, hnamed] at hmem
    cases hauto : leavesIdentity app with
    | false => simp [hkey, hauto] at hmem
    | true =>
      have hkept : (identityAfter app (accountAnnotations (fleetName app) w.cluster)).lookup key =
          (accountAnnotations (fleetName app) w.cluster).lookup key := by
        rw [lookup_identityAfter, hnamed]
        simp [hauto]
      rw [hauthor, authored_of_lookup hkept]
      exact h key hkey (Finmap.mem_iff.mpr (by simpa [hauto] using hmem))

/-- Where no spec of the run names an identity, none on the ServiceAccount is ever the
operator's. -/
theorem allForeign_reachable {name : String} {specs : FoundationPass → Prop}
    (hnamed : ∀ j, specs j → ∀ key, namedIdentity j.app key = none) {w : AccountWorld}
    (hr : (accountRuns name specs).Reachable (AllForeign (name ++ "-celld")) w) :
    AllForeign (name ++ "-celld") w := by
  refine System.reachable_invariant (fun _ h => h) (fun s s' hs hstep => ?_) hr
  cases hstep with
  | others hm => exact hs.edits hm
  | job ha hx =>
    obtain ⟨⟨rfl, -⟩, hspec⟩ := ha
    exact hs.visited (hnamed _ hspec) (ensureFoundation_throughout _ _ _ _ ⟨rfl, rfl⟩ hx)

/-- **Over a whole run**, with passes cut off anywhere and others in between: if the specs never
say `auto`, or never name an identity, the identity is current behind every pass that completes. -/
theorem identity_current_reachable {name : String} {specs : FoundationPass → Prop}
    (hspecs : (∀ j, specs j → leavesIdentity j.app = false) ∨
      ∀ j, specs j → ∀ key, namedIdentity j.app key = none) {w w' : AccountWorld}
    (hr : (accountRuns name specs).Reachable (AllForeign (name ++ "-celld")) w)
    {j : FoundationPass} (hj : (accountRuns name specs).admits w j) {t : Trace}
    {conditions : List Condition}
    (hx : Exec (ServeAccount (name ++ "-celld")) (SparesAccount (name ++ "-celld")) w
      (ensureFoundation j.r j.app) t w' (.ret (.ok conditions))) :
    IdentityCurrent j.r j.app (accountAnnotations (name ++ "-celld") w.cluster)
      (accountAnnotations (name ++ "-celld") w'.cluster) w'.author := by
  obtain ⟨⟨rfl, hvalid⟩, hspec⟩ := hj
  obtain ⟨hafter, hauthor⟩ := (ensureFoundation_ensures w t w' _ ⟨rfl, rfl⟩ hx).1 conditions rfl
  rw [← accountAnnotations_eq] at hafter hauthor
  rw [hauthor]
  show IdentityCurrent _ _ _ (accountAnnotations (fleetName j.app) w'.cluster) _
  rw [hafter]
  refine (identityCurrent_after_iff hvalid _ _).mpr fun hauto => ?_
  rcases hspecs with hnever | hnamed
  · cases (hnever j hspec).symm.trans hauto
  · exact allForeign_reachable hnamed hr

/-! ## §6. A role, then `auto`. -/

/-- The server that never fails, in such a world. -/
def answerAccount (n : String) (w : AccountWorld) (o : Op) : Resp o × AccountWorld :=
  ((answer {} w.cluster o).1,
    { cluster := (answer {} w.cluster o).2
      author := authored .operator (accountAnnotations n w.cluster)
        (accountAnnotations n (answer {} w.cluster o).2) w.author })

theorem serve_answerAccount (n : String) (w : AccountWorld) (o : Op) :
    ServeAccount n w o (answerAccount n w o).1 (answerAccount n w o).2 := by
  refine ⟨serve_answer {} w.cluster o, ?_, rfl⟩
  unfold CurrentRead
  split
  · next m v heq =>
    simp only [answerAccount, answer, answerGet] at heq
    split at heq
    · cases heq
    · next hlive =>
      cases heq
      exact hlive
  · trivial

/-- An operator that allows one role. -/
def roleReconciler : Reconciler := { sampleReconciler with allowedIAMRoles := ["arn:shop"] }

/-- A WorkerApp with this `iamRole`. -/
def roleApp (role : String) : WorkerApp :=
  let app := sampleApp "ghcr.io/denoland/celld:v0.5.1" .rolling
  { app with spec := { app.spec with bucket := { app.spec.bucket with
      credentialsFrom := { iamRole := role } } } }

/-- Nothing exists yet. -/
def emptyAccount : AccountWorld := ⟨Cluster.empty, fun _ => .other⟩

/-- A pass in which every call succeeds. -/
def accountRun (role : String) (w : AccountWorld) :
    Trace × AccountWorld × Except Err (List Condition) :=
  runWith (answerAccount ("shop" ++ "-celld")) (ensureFoundation roleReconciler (roleApp role)) w

theorem exec_accountRun (role : String) (w : AccountWorld) :
    Exec (ServeAccount ("shop" ++ "-celld")) (SparesAccount ("shop" ++ "-celld")) w
      (ensureFoundation roleReconciler (roleApp role)) (accountRun role w).1
      (accountRun role w).2.1 (.ret (accountRun role w).2.2) := by
  unfold accountRun
  exact exec_runWith (serve_answerAccount _) _ w

/-- The identity annotations and their authors. -/
def identityOf (w : AccountWorld) : Option String × Author :=
  ((accountAnnotations ("shop" ++ "-celld") w.cluster).lookup roleArnAnnotation,
    w.author roleArnAnnotation)

/-- A role that the spec no longer names is gone behind the next pass. -/
theorem identity_current_iff_revoked :
    FindsForeign (roleApp "") (accountRun "arn:shop" emptyAccount).2.1 ∧
    IdentityCurrent roleReconciler (roleApp "")
      (accountAnnotations ("shop" ++ "-celld") (accountRun "arn:shop" emptyAccount).2.1.cluster)
      (accountAnnotations ("shop" ++ "-celld")
        (accountRun "" (accountRun "arn:shop" emptyAccount).2.1).2.1.cluster)
      (accountRun "" (accountRun "arn:shop" emptyAccount).2.1).2.1.author := by
  have hforeign : FindsForeign (roleApp "") (accountRun "arn:shop" emptyAccount).2.1 :=
    fun hauto => absurd hauto (by decide)
  have hdone : (accountRun "" (accountRun "arn:shop" emptyAccount).2.1).2.2 =
      .ok [credentialsCondition (roleApp "")] := by decide +kernel
  have hx := exec_accountRun "" (accountRun "arn:shop" emptyAccount).2.1
  rw [hdone] at hx
  exact ⟨hforeign, (identity_current_iff roleReconciler (roleApp "") (by decide) _ _ _ _ hx).mpr
    hforeign⟩

/-- **A revoked role lingers**: the spec names a role, then `auto`; no spec names the role any
more, and nobody but the operator ever wrote the ServiceAccount. -/
theorem identity_lingers :
    ∃ w w' t conditions,
      (accountSystem "shop").Reachable (· = emptyAccount) w ∧
      validateApp roleReconciler (roleApp iamRoleAuto) = .ok () ∧
      Exec (ServeAccount ("shop" ++ "-celld")) (SparesAccount ("shop" ++ "-celld")) w
        (ensureFoundation roleReconciler (roleApp iamRoleAuto)) t w' (.ret (.ok conditions)) ∧
      identityOf w' = (some "arn:shop", .operator) ∧
      ¬ IdentityCurrent roleReconciler (roleApp iamRoleAuto)
        (accountAnnotations ("shop" ++ "-celld") w.cluster)
        (accountAnnotations ("shop" ++ "-celld") w'.cluster) w'.author := by
  have hdone : (accountRun iamRoleAuto (accountRun "arn:shop" emptyAccount).2.1).2.2 =
      .ok [credentialsCondition (roleApp iamRoleAuto)] := by decide +kernel
  have hx := exec_accountRun iamRoleAuto (accountRun "arn:shop" emptyAccount).2.1
  rw [hdone] at hx
  have hleft : identityOf (accountRun iamRoleAuto (accountRun "arn:shop" emptyAccount).2.1).2.1 =
      (some "arn:shop", .operator) := by decide +kernel
  refine ⟨_, _, _, _, ⟨emptyAccount, rfl, .tail .refl (.job (j := ⟨roleReconciler, _⟩)
    ⟨rfl, by decide⟩ (exec_accountRun "arn:shop" emptyAccount))⟩, by decide, hx, hleft, ?_⟩
  intro hc
  obtain ⟨hvalue, hauthor⟩ := Prod.ext_iff.mp hleft
  rcases hc.identity roleArnAnnotation (by simp [identityKeys]) with hnamed | ⟨-, hother⟩
  · have hnone : some "arn:shop" = namedIdentity (roleApp iamRoleAuto) roleArnAnnotation :=
      hvalue.symm.trans hnamed
    exact absurd hnone (by decide)
  · cases hauthor.symm.trans hother

end CelldOperator
