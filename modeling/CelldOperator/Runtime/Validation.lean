/-
  CelldOperator.Runtime.Validation

  `validateApp` (`internal/controller/validation.go`): the checks made before a
  pass touches any child, in the source's order and with its texts.
-/
import CelldOperator.Api.Client
import CelldOperator.Runtime.Version

namespace CelldOperator

/-! ## §1. Kubernetes names. -/

/-- `[a-z0-9]`. -/
def isLowerAlnum (c : Char) : Bool := ('a' ≤ c && c ≤ 'z') || ('0' ≤ c && c ≤ '9')

/-- `[a-z0-9]([-a-z0-9]*[a-z0-9])?`. -/
def isLabelText (cs : List Char) : Bool :=
  match cs.head?, cs.getLast? with
  | some first, some last =>
    isLowerAlnum first && isLowerAlnum last && cs.all (fun c => isLowerAlnum c || c == '-')
  | _, _ => false

/-- Split at every `sep`. -/
def splitOnChar (sep : Char) : List Char → List (List Char)
  | [] => [[]]
  | c :: cs =>
    if c = sep then [] :: splitOnChar sep cs
    else
      match splitOnChar sep cs with
      | [] => [[c]]
      | part :: parts => (c :: part) :: parts

/-- `validation.IsDNS1123Label` finds nothing wrong. -/
def isDNS1123Label (s : String) : Bool := s.utf8ByteSize ≤ 63 && isLabelText s.toList

/-- `validation.IsDNS1123Subdomain` finds nothing wrong. -/
def isDNS1123Subdomain (s : String) : Bool :=
  s.utf8ByteSize ≤ 253 && (splitOnChar '.' s.toList).all isLabelText

/-- `validation.IsWildcardDNS1123Subdomain` finds nothing wrong. -/
def isWildcardDNS1123Subdomain (s : String) : Bool :=
  match s.toList with
  | '*' :: '.' :: rest => s.utf8ByteSize ≤ 253 && (splitOnChar '.' rest).all isLabelText
  | _ => false

/-! ## §2. The image tag. -/

/-- A non-empty run of digits, and what follows it. -/
def spanDigits (cs : List Char) : Option (List Char) :=
  match cs.takeWhile Char.isDigit with
  | [] => none
  | _ => some (cs.dropWhile Char.isDigit)

/-- `([-.+][a-zA-Z0-9.-]+)?$`. -/
def isTagSuffix : List Char → Bool
  | [] => true
  | c :: rest =>
    (c == '-' || c == '.' || c == '+') && !rest.isEmpty &&
      rest.all (fun c => c.isAlphanum || c == '.' || c == '-')

/-- `runtimeImageTag`: `^v?[0-9]+\.[0-9]+\.[0-9]+([-.+][a-zA-Z0-9.-]+)?$`. -/
def runtimeImageTag (tag : List Char) : Bool :=
  match spanDigits (trimPrefix 'v' tag) with
  | some ('.' :: afterMajor) =>
    match spanDigits afterMajor with
    | some ('.' :: afterMinor) =>
      match spanDigits afterMinor with
      | some suffix => isTagSuffix suffix
      | none => false
    | _ => false
  | _ => false

/-- The tag `validateApp` looks at: behind the first colon after the last slash, the digest
cut off. -/
def imageTag (image : String) : Option (List Char) :=
  let (name, _, _) := cut '@' image.toList
  let (_, tag, tagged) := cut ':' ((afterLast '/' name).getD name)
  if tagged then some tag else none

/-! ## §3. The checks. -/

/-- Fail with the text when the condition holds. -/
def refuseIf (bad : Bool) (text : String) : Except String Unit :=
  if bad then .error text else .ok ()

/-- `validateVars`. -/
def validateVars (app : WorkerApp) : Except String Unit := do
  refuseIf (match app.spec.vars with
      | some vars => vars.secretRef == "" || !isDNS1123Subdomain vars.secretRef
      | none => false)
    "vars.secretRef is required and must be a Secret name"
  refuseIf (match minorOf app.spec.celld.image with
      | some version => decide (0 ≤ version.cmp ⟨0, 5⟩) && app.spec.vars.isSome
      | none => false)
    ("vars.secretRef is unsupported by celld v0.5+; move vars into the deployment's Wrangler " ++
      "configuration and remove spec.vars")

/-- `validateTrust`. -/
def validateTrust (r : Reconciler) (app : WorkerApp) : Except String Unit := do
  let prefixes := if r.allowedImagePrefixes.isEmpty then ["ghcr.io/denoland/celld:"]
    else r.allowedImagePrefixes
  let creds := app.spec.bucket.credentialsFrom
  refuseIf (!prefixes.any (fun pre => hasPrefix app.spec.celld.image pre))
    "celld image is not in the operator image allowlist"
  refuseIf (decide (1 < ([creds.iamRole, creds.secretRef, creds.azureClientID].filter
      (· != "")).length))
    "select only one bucket credential family"
  refuseIf (creds.iamRole != "" && creds.iamRole != iamRoleAuto &&
      !r.allowedIAMRoles.contains creds.iamRole)
    "IAM role is not in the operator allowlist"
  refuseIf (creds.azureClientID != "" && !r.allowedAzureClientIDs.contains creds.azureClientID)
    "azure identity is not in the operator allowlist"
  let endpoint := app.spec.bucket.endpoint
  refuseIf (endpoint != "" && match r.lib.parseURL endpoint with
      | none => true
      | some url => url.scheme != "https" || url.hostname == "" || url.hasUser ||
          url.rawQuery != "" || url.fragment != "" || !r.allowedBucketEndpoints.contains endpoint)
    ("bucket endpoint must be an explicitly allowed HTTPS URL without credentials, query, or " ++
      "fragment")

/-- `validateApp`. -/
def validateApp (r : Reconciler) (app : WorkerApp) : Except String Unit := do
  refuseIf (decide (48 < app.name.utf8ByteSize) || !isDNS1123Label app.name)
    "name must be a DNS label of at most 48 characters"
  match app.spec.hostnames.find?
      (fun host => !isDNS1123Subdomain host && !isWildcardDNS1123Subdomain host) with
  | some host => .error ("invalid hostname " ++ r.lib.quote host)
  | none => .ok ()
  refuseIf (app.spec.appVersion == "") "appVersion is required"
  refuseIf (!((imageTag app.spec.celld.image).elim false runtimeImageTag))
    ("celld image must include a numeric major.minor.patch tag, including when digest-pinned")
  refuseIf (app.spec.appVersion == appVersionAuto &&
      (!trackableBucket app || app.spec.deployTrackingSecretRef == ""))
    "auto requires an s3 bucket and deployTrackingSecretRef"
  refuseIf ([app.spec.bucket.credentialsFrom.secretRef, app.spec.deployTrackingSecretRef].any
      (fun ref => ref != "" && !isDNS1123Subdomain ref))
    "invalid Secret reference"
  validateVars app
  refuseIf (decide (desiredReplicas app < 1 ∨ app.spec.resources.memoryGi < 0 ∨
      65536 < app.spec.resources.memoryGi))
    "invalid replica or memory configuration"
  refuseIf (match app.spec.autoscaling with
      | some as => as.enabled &&
          decide (defaultPositive as.maxReplicas 10 < defaultPositive as.minReplicas 2)
      | none => false)
    "minReplicas exceeds maxReplicas"
  refuseIf (decide (app.spec.durability = .fleet) &&
      (app.spec.storage.isNone || decide (desiredReplicas app < 3) ||
        match app.spec.autoscaling with
        | some as => as.enabled && decide (defaultPositive as.minReplicas 2 < 3)
        | none => false))
    "fleet durability requires persistent storage and at least three replicas"
  refuseIf (!isDNS1123Subdomain (clusterDomain app)) "invalid clusterDomain"
  validateTrust r app

/-! ## §4. What an accepted tag is read as. -/

/-- The digits found, and what follows. -/
theorem of_spanDigits {cs rest : List Char} (h : spanDigits cs = some rest) :
    ∃ ds, (∀ c ∈ ds, c.isDigit = true) ∧ cs = ds ++ rest := by
  unfold spanDigits at h
  split at h
  · cases h
  · cases h
    exact ⟨cs.takeWhile Char.isDigit, List.all_eq_true.mp List.all_takeWhile,
      (List.takeWhile_append_dropWhile).symm⟩

/-- **The shape of an accepted tag**: a `v` or none, then two runs of digits, each followed by a
dot; and no colon. -/
structure NumericTag (tag major minor patch : List Char) : Prop where
  shape : trimPrefix 'v' tag = major ++ '.' :: (minor ++ '.' :: patch)
  majorDigits : ∀ c ∈ major, c.isDigit = true
  minorDigits : ∀ c ∈ minor, c.isDigit = true
  plain : ':' ∉ patch

theorem not_mem_digits {ds : List Char} {x : Char} (hd : ∀ c ∈ ds, c.isDigit = true)
    (hx : x.isDigit = false) : x ∉ ds := by
  intro hmem
  rw [hd x hmem] at hx
  cases hx

theorem isTagSuffix_plain {cs : List Char} (h : isTagSuffix cs = true) : ':' ∉ cs := by
  intro hmem
  cases cs with
  | nil => cases hmem
  | cons c rest =>
    unfold isTagSuffix at h
    simp only [Bool.and_eq_true, List.all_eq_true] at h
    rcases List.mem_cons.mp hmem with rfl | hmem
    · exact absurd h.1.1 (by decide)
    · exact absurd (h.2 ':' hmem) (by decide)

theorem numericTag_of_runtimeImageTag {tag : List Char} (h : runtimeImageTag tag = true) :
    ∃ major minor patch, NumericTag tag major minor patch := by
  unfold runtimeImageTag at h
  split at h
  · next afterMajor hmajor =>
    split at h
    · next afterMinor hminor =>
      split at h
      · next suffix hpatch =>
        obtain ⟨major, hmd, hms⟩ := of_spanDigits hmajor
        obtain ⟨minor, hnd, hns⟩ := of_spanDigits hminor
        obtain ⟨patch, hpd, hps⟩ := of_spanDigits hpatch
        refine ⟨major, minor, patch ++ suffix, ⟨?_, hmd, hnd, ?_⟩⟩
        · rw [hms, hns, hps]
        · rw [List.mem_append, not_or]
          exact ⟨not_mem_digits hpd (by decide), isTagSuffix_plain h⟩
      · cases h
    · cases h
  · cases h

theorem mem_of_mem_tag {x : Char} {tag : List Char} (hx : x ≠ 'v') (hmem : x ∈ tag) :
    x ∈ trimPrefix 'v' tag := by
  cases tag with
  | nil => cases hmem
  | cons c cs =>
    rw [trimPrefix]
    split
    · next hc =>
      rcases List.mem_cons.mp hmem with rfl | hmem
      · exact absurd hc hx
      · exact hmem
    · exact hmem

theorem NumericTag.no_colon {tag major minor patch : List Char}
    (h : NumericTag tag major minor patch) : ':' ∉ tag := by
  intro hmem
  have hmem := mem_of_mem_tag (by decide) hmem
  have hmajor := not_mem_digits (x := ':') h.majorDigits (by decide)
  have hminor := not_mem_digits (x := ':') h.minorDigits (by decide)
  rw [h.shape] at hmem
  simp [hmajor, hminor, h.plain] at hmem

/-- `minorOf` and `validateApp` look at the same tag, once the tag is accepted. -/
theorem afterLast_of_imageTag {image : String} {tag : List Char} (h : imageTag image = some tag)
    (hplain : ':' ∉ tag) : afterLast ':' (cut '@' image.toList).1 = some tag := by
  unfold imageTag at h
  dsimp only at h
  generalize (cut '@' image.toList).1 = name at h ⊢
  have hsuffix : (afterLast '/' name).getD name <:+ name := by
    cases hslash : afterLast '/' name with
    | none => exact List.suffix_refl name
    | some rest => exact suffix_of_afterLast hslash
  obtain ⟨before, hbefore⟩ := hsuffix
  split at h
  · next htagged =>
    cases h
    have hcut := eq_append_of_cut htagged
    have hname : name = before ++ (cut ':' ((afterLast '/' name).getD name)).1 ++
        ':' :: (cut ':' ((afterLast '/' name).getD name)).2.1 := by
      rw [List.append_assoc, ← hcut, hbefore]
    calc afterLast ':' name = _ := congrArg _ hname
      _ = _ := afterLast_append _ hplain
  · cases h

/-- **What an accepted image is read as.**  Its version, where it fits 64 bits. -/
theorem minorOf_of_imageTag {image : String} {tag major minor patch : List Char}
    (h : imageTag image = some tag) (hn : NumericTag tag major minor patch) :
    minorOf image = (atoi major).bind fun x => (atoi minor).map fun y => ⟨x, y⟩ := by
  have htag := afterLast_of_imageTag h hn.no_colon
  have hmajor := cut_append (not_mem_digits (x := '.') hn.majorDigits (by decide))
    (minor ++ '.' :: patch)
  have hminor := cut_append (not_mem_digits (x := '.') hn.minorDigits (by decide)) patch
  unfold minorOf
  dsimp only
  rw [htag]
  dsimp only
  rw [hn.shape, hmajor]
  dsimp only
  rw [hminor]
  cases atoi major <;> cases atoi minor <;> rfl

/-! ## §5. What an accepted spec satisfies. -/

theorem of_bind_ok {α β : Type} {x : Except String α} {f : α → Except String β} {b : β}
    (h : (x >>= f) = .ok b) : ∃ a, x = .ok a ∧ f a = .ok b := by
  cases x with
  | error e => cases h
  | ok a => exact ⟨a, rfl, h⟩

theorem of_refuseIf {bad : Bool} {text : String} {u : Unit} (h : refuseIf bad text = .ok u) :
    bad = false := by
  cases bad with
  | false => rfl
  | true => cases h

/-- The checks behind name and hostnames that later results use. -/
structure PassedChecks (r : Reconciler) (app : WorkerApp) : Prop where
  image : (imageTag app.spec.celld.image).elim false runtimeImageTag = true
  tracked : app.spec.appVersion = appVersionAuto → trackableBucket app = true
  replicas : 1 ≤ desiredReplicas app
  durable : app.spec.durability = .fleet → 3 ≤ desiredReplicas app
  trust : validateTrust r app = .ok ()

theorem passedChecks_of_valid {r : Reconciler} {app : WorkerApp}
    (h : validateApp r app = .ok ()) : PassedChecks r app := by
  unfold validateApp at h
  obtain ⟨-, -, h⟩ := of_bind_ok h
  dsimp only at h
  split at h
  · cases h
  · -- the end of the loop, version, image, tracking, references, vars, replicas, bounds,
    -- durability, domain, trust
    obtain ⟨-, -, h⟩ := of_bind_ok h
    obtain ⟨-, -, h⟩ := of_bind_ok h
    obtain ⟨_, himage, h⟩ := of_bind_ok h
    obtain ⟨_, htracked, h⟩ := of_bind_ok h
    obtain ⟨-, -, h⟩ := of_bind_ok h
    obtain ⟨-, -, h⟩ := of_bind_ok h
    obtain ⟨_, hreplicas, h⟩ := of_bind_ok h
    obtain ⟨-, -, h⟩ := of_bind_ok h
    obtain ⟨_, hdurable, h⟩ := of_bind_ok h
    obtain ⟨-, -, htrust⟩ := of_bind_ok h
    refine ⟨?_, fun hauto => ?_, ?_, fun hfleet => ?_, htrust⟩
    · simpa using of_refuseIf himage
    · have hnot := of_refuseIf htracked
      rw [hauto] at hnot
      simp only [beq_self_eq_true, Bool.true_and, Bool.or_eq_false_iff, Bool.not_eq_false'] at hnot
      exact hnot.1
    · have hnot := of_decide_eq_false (of_refuseIf hreplicas)
      omega
    · have hnot := of_refuseIf hdurable
      rw [hfleet] at hnot
      simp only [decide_true, Bool.true_and, Bool.or_eq_false_iff,
        decide_eq_false_iff_not] at hnot
      omega

/-- An accepted spec asks for at least one node. -/
theorem one_le_desiredReplicas {r : Reconciler} {app : WorkerApp}
    (h : validateApp r app = .ok ()) : 1 ≤ desiredReplicas app :=
  (passedChecks_of_valid h).replicas

/-- An accepted spec has a numeric image tag. -/
theorem numericTag_of_valid {r : Reconciler} {app : WorkerApp} (h : validateApp r app = .ok ()) :
    ∃ tag major minor patch, imageTag app.spec.celld.image = some tag ∧
      NumericTag tag major minor patch := by
  have htag := (passedChecks_of_valid h).image
  cases hcase : imageTag app.spec.celld.image with
  | none => simp [hcase] at htag
  | some tag =>
    have hmatch : runtimeImageTag tag = true := by simpa [hcase] using htag
    obtain ⟨major, minor, patch, hn⟩ := numericTag_of_runtimeImageTag hmatch
    exact ⟨tag, major, minor, patch, rfl, hn⟩

/-- The version of an accepted image has no negative part. -/
theorem minor_nonneg_of_valid {r : Reconciler} {app : WorkerApp} {w : MinorVersion}
    (h : validateApp r app = .ok ()) (hw : minorOf app.spec.celld.image = some w) :
    0 ≤ w.major ∧ 0 ≤ w.minor := by
  obtain ⟨tag, major, minor, patch, htag, hn⟩ := numericTag_of_valid h
  rw [minorOf_of_imageTag htag hn] at hw
  obtain ⟨x, hx, hmap⟩ := Option.bind_eq_some_iff.mp hw
  obtain ⟨y, hy, rfl⟩ := Option.map_eq_some_iff.mp hmap
  exact ⟨atoi_nonneg hn.majorDigits hx, atoi_nonneg hn.minorDigits hy⟩

/-- The identities of an accepted spec are in the allowlists, and it names one at most. -/
structure TrustedIdentity (r : Reconciler) (creds : BucketCredentials) : Prop where
  role : creds.iamRole ≠ "" → creds.iamRole ≠ iamRoleAuto → creds.iamRole ∈ r.allowedIAMRoles
  client : creds.azureClientID ≠ "" → creds.azureClientID ∈ r.allowedAzureClientIDs
  single : creds.iamRole ≠ "" → creds.azureClientID = ""

theorem trustedIdentity_of_valid {r : Reconciler} {app : WorkerApp}
    (h : validateApp r app = .ok ()) :
    TrustedIdentity r app.spec.bucket.credentialsFrom := by
  have h := (passedChecks_of_valid h).trust
  unfold validateTrust at h
  obtain ⟨-, -, h⟩ := of_bind_ok h
  obtain ⟨_, hfamily, h⟩ := of_bind_ok h
  obtain ⟨_, hrole, h⟩ := of_bind_ok h
  obtain ⟨_, hclient, -⟩ := of_bind_ok h
  have hfamily := of_decide_eq_false (of_refuseIf hfamily)
  have hrole := of_refuseIf hrole
  have hclient := of_refuseIf hclient
  refine ⟨fun hne hauto => ?_, fun hne => ?_, fun hne => ?_⟩
  · simpa [hne, hauto] using hrole
  · simpa [hne] using hclient
  · by_contra hother
    apply hfamily
    by_cases hsecret : app.spec.bucket.credentialsFrom.secretRef = "" <;>
      simp [hne, hother, hsecret]

end CelldOperator
