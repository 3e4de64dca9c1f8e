/-
  CelldOperator.Admission.Refusal

  **WHY THE OPERATOR REFUSES WHAT THE API SERVER HAS LET IN.**

  `validateApp` repeats checks of the schema and adds its own.  For a WorkerApp the API
  server has admitted, the repeated ones (version, tracking, replicas and memory,
  autoscaling bounds, fleet durability, cluster domain, credential family) cannot fail:

    • `isDNS1123Subdomain_of_isDomainName`, `isDNS1123Label_iff` — patterns of the schema
      against the checks of the operator,
    • `Refusal`            — the causes that are left, each with the text it is given,
    • `admitted_refusals`  — the operator refuses exactly for these.
-/
import CelldOperator.Admission.Schema
import CelldOperator.Children.Names
import CelldOperator.Secrets.Credentials

namespace CelldOperator

open Admission

/-! ## §1. Patterns and names. -/

/-- A text of one-byte characters has as many bytes as characters. -/
theorem utf8ByteSize_eq_length {s : String} (h : ∀ c ∈ s.toList, c.utf8Size = 1) :
    s.utf8ByteSize = s.length := by
  revert h
  induction s using String.push_induction with
  | empty => intro _; rfl
  | push b c ih =>
    intro h
    rw [String.toList_push] at h
    have hb := ih fun d hd => h d (List.mem_append_left _ hd)
    have hc := h c (List.mem_append_right _ (List.mem_singleton_self c))
    rw [String.utf8ByteSize_push, String.length_push, hb, hc]

theorem utf8Size_of_isLowerAlnum {c : Char} (h : isLowerAlnum c = true) : c.utf8Size = 1 := by
  rw [Char.utf8Size_eq_one_iff]
  simp only [isLowerAlnum, Bool.or_eq_true, Bool.and_eq_true, decide_eq_true_eq] at h
  rcases h with ⟨-, hle⟩ | ⟨-, hle⟩
  · exact UInt32.le_trans hle (by decide)
  · exact UInt32.le_trans hle (by decide)

section

variable {sep c : Char} {s : List Char}

/-- A character is the separator or in a part. -/
theorem mem_splitOnChar_of_mem (sep : Char) (h : c ∈ s) :
    c = sep ∨ ∃ part ∈ splitOnChar sep s, c ∈ part := by
  induction s with
  | nil => cases h
  | cons d ds ih =>
    unfold splitOnChar
    by_cases hd : d = sep
    · rw [if_pos hd]
      rcases List.mem_cons.mp h with rfl | h
      · exact .inl hd
      · rcases ih h with hsep | ⟨part, hpart, hc⟩
        · exact .inl hsep
        · exact .inr ⟨part, List.mem_cons_of_mem _ hpart, hc⟩
    · rw [if_neg hd]
      cases hsplit : splitOnChar sep ds with
      | nil =>
        -- a split has at least one part, so nothing can be in this one but the head
        refine .inr ⟨[d], List.mem_singleton_self _, ?_⟩
        rcases List.mem_cons.mp h with rfl | h
        · exact List.mem_singleton_self _
        · cases ds with
          | nil => cases h
          | cons e es =>
            unfold splitOnChar at hsplit
            split at hsplit
            · cases hsplit
            · split at hsplit <;> cases hsplit
      | cons head tail =>
        rcases List.mem_cons.mp h with rfl | h
        · exact .inr ⟨c :: head, List.mem_cons_self .., List.mem_cons_self ..⟩
        · rcases ih h with hsep | ⟨part, hpart, hc⟩
          · exact .inl hsep
          · rw [hsplit] at hpart
            rcases List.mem_cons.mp hpart with rfl | hpart
            · exact .inr ⟨d :: part, List.mem_cons_self .., List.mem_cons_of_mem _ hc⟩
            · exact .inr ⟨part, List.mem_cons_of_mem _ hpart, hc⟩

/-- Without a separator there is one part. -/
theorem splitOnChar_of_not_mem (h : sep ∉ s) : splitOnChar sep s = [s] := by
  induction s with
  | nil => rfl
  | cons d ds ih =>
    rw [List.mem_cons, not_or] at h
    unfold splitOnChar
    rw [if_neg (Ne.symm h.1), ih h.2]

end

/-- A text of labels between dots has one-byte characters only. -/
theorem utf8Size_of_labels {s : String}
    (h : ∀ label ∈ splitOnChar '.' s.toList, isLabelText label = true) :
    ∀ c ∈ s.toList, c.utf8Size = 1 := by
  intro c hc
  rcases mem_splitOnChar_of_mem '.' hc with rfl | ⟨label, hlabel, hmem⟩
  · rfl
  · have hchar := (isLabelText_iff.mp (h label hlabel)).2.2 c hmem
    rcases Bool.or_eq_true_iff.mp hchar with halnum | hdash
    · exact utf8Size_of_isLowerAlnum halnum
    · rw [beq_iff_eq.mp hdash]
      rfl

/-- **The cluster domain**: what the pattern takes, the operator takes. -/
theorem isDNS1123Subdomain_of_isDomainName {s : String} (h : isDomainName s = true)
    (hlength : s.length ≤ 253) : isDNS1123Subdomain s = true := by
  have hlabels : ∀ label ∈ splitOnChar '.' s.toList, isLabelText label = true := by
    intro label hlabel
    have hboth := List.all_eq_true.mp h label hlabel
    exact (Bool.and_eq_true_iff.mp hboth).1
  have hsize := utf8ByteSize_eq_length (utf8Size_of_labels hlabels)
  unfold isDNS1123Subdomain
  rw [Bool.and_eq_true, decide_eq_true_eq]
  exact ⟨by omega, List.all_eq_true.mpr hlabels⟩

/-- **The name**: of the names the API server takes, the operator refuses those with a dot. -/
theorem isDNS1123Label_iff {name : String} (h : NameAdmitted name) :
    name.utf8ByteSize ≤ 48 ∧ (isDNS1123Label name = true ↔ '.' ∉ name.toList) := by
  obtain ⟨hsub, hlength⟩ := h
  unfold isDNS1123Subdomain at hsub
  rw [Bool.and_eq_true, List.all_eq_true] at hsub
  have hsize := utf8ByteSize_eq_length (utf8Size_of_labels hsub.2)
  refine ⟨by omega, fun hlabel hdot => ?_, fun hdot => ?_⟩
  · unfold isDNS1123Label at hlabel
    have htext := (Bool.and_eq_true_iff.mp hlabel).2
    exact absurd ((isLabelText_iff.mp htext).2.2 '.' hdot) (by decide)
  · unfold isDNS1123Label
    rw [Bool.and_eq_true, decide_eq_true_eq]
    refine ⟨by omega, hsub.2 _ ?_⟩
    rw [splitOnChar_of_not_mem hdot]
    exact List.mem_singleton_self _

/-! ## §2. What the schema settles. -/

section

variable {app : WorkerApp} {stored : StoredSpec}

theorem ne_empty_of_length {s : String} (h : 1 ≤ s.length) : s ≠ "" := by
  rintro rfl
  exact absurd h (by decide)

theorem given_iff {field : Option String} : given field = true ↔ field.getD "" ≠ "" := by
  cases field with
  | none => simp [given]
  | some s =>
    simp only [given, Option.any_some, decide_eq_true_eq, Option.getD_some]
    constructor
    · exact ne_empty_of_length
    · intro hne
      by_contra hzero
      exact hne (String.length_eq_zero_iff.mp (by omega))

/-- The version is there. -/
theorem admitted_version (hspec : app.spec = stored.manifest.decode) : app.spec.appVersion ≠ "" := by
  rw [hspec]
  exact ne_empty_of_length stored.conforms.appVersion

/-- Deploy tracking has its bucket and its credential. -/
theorem admitted_tracking (hspec : app.spec = stored.manifest.decode)
    (hauto : app.spec.appVersion = appVersionAuto) :
    trackableBucket app = true ∧ app.spec.deployTrackingSecretRef ≠ "" := by
  unfold trackableBucket
  rw [hspec] at hauto ⊢
  obtain ⟨hs3, href⟩ := stored.conforms.tracking.resolve_left (not_not.mpr hauto)
  refine ⟨hs3, ?_⟩
  obtain ⟨ref, hsome⟩ := Option.isSome_iff_exists.mp href
  show stored.manifest.deployTrackingSecretRef.getD "" ≠ ""
  rw [hsome]
  exact ne_empty_of_length (stored.conforms.deployTrackingSecretRef ref hsome)

theorem admitted_replicas (hspec : app.spec = stored.manifest.decode) : 1 ≤ desiredReplicas app := by
  unfold desiredReplicas
  rw [hspec]
  show 1 ≤ stored.manifest.replicas.getD 3
  cases hreplicas : stored.manifest.replicas with
  | none => decide
  | some n => exact (stored.conforms.replicas n hreplicas).1

theorem admitted_memory (hspec : app.spec = stored.manifest.decode) :
    0 ≤ app.spec.resources.memoryGi ∧ app.spec.resources.memoryGi ≤ 65536 := by
  rw [hspec]
  show 0 ≤ (stored.manifest.resources.elim {} ResourcesManifest.decode).memoryGi ∧
    (stored.manifest.resources.elim {} ResourcesManifest.decode).memoryGi ≤ 65536
  cases hresources : stored.manifest.resources with
  | none => exact ⟨by decide, by decide⟩
  | some m =>
    show 0 ≤ m.memoryGi.getD 0 ∧ m.memoryGi.getD 0 ≤ 65536
    cases hmemory : m.memoryGi with
    | none => exact ⟨by decide, by decide⟩
    | some n =>
      obtain ⟨hlo, hhi⟩ := (stored.conforms.resources m hresources).memoryGi n hmemory
      exact ⟨by simpa using by omega, hhi⟩

/-- The bounds of the autoscaler are positive and ordered. -/
theorem admitted_bounds {m : AutoscalingManifest} (h : m.Conforms) :
    1 ≤ m.decode.minReplicas ∧ m.decode.minReplicas ≤ m.decode.maxReplicas := by
  have hordered := h.ordered
  show 1 ≤ m.minReplicas.getD 0 ∧ m.minReplicas.getD 0 ≤ m.maxReplicas.getD 0
  cases hlo : m.minReplicas with
  | none => simp [hlo] at hordered
  | some lo =>
    cases hhi : m.maxReplicas with
    | none => simp [hlo, hhi] at hordered
    | some hi =>
      refine ⟨(h.minReplicas lo hlo).1, ?_⟩
      simpa [hlo, hhi] using hordered

/-- What the operator reads of an autoscaler was admitted. -/
theorem admitted_autoscaling (hspec : app.spec = stored.manifest.decode) {as : AutoscalingSpec}
    (has : app.spec.autoscaling = some as) :
    ∃ m, stored.manifest.autoscaling = some m ∧ m.Conforms ∧ m.decode = as := by
  rw [hspec] at has
  obtain ⟨m, hm, hdecode⟩ := Option.map_eq_some_iff.mp has
  exact ⟨m, hm, stored.conforms.autoscaling m hm, hdecode⟩

theorem defaultPositive_of_pos {n fallback : Int} (h : 1 ≤ n) : defaultPositive n fallback = n :=
  if_pos (by omega)

/-- The bounds with their defaults are ordered too. -/
theorem admitted_ordered (hspec : app.spec = stored.manifest.decode) {as : AutoscalingSpec}
    (has : app.spec.autoscaling = some as) :
    ¬ defaultPositive as.maxReplicas 10 < defaultPositive as.minReplicas 2 := by
  obtain ⟨m, -, hconforms, rfl⟩ := admitted_autoscaling hspec has
  obtain ⟨hlo, hle⟩ := admitted_bounds hconforms
  have hhi : 1 ≤ m.decode.maxReplicas := by omega
  rw [defaultPositive_of_pos hlo, defaultPositive_of_pos hhi]
  omega

/-- Fleet durability has its disks and its three nodes. -/
theorem admitted_durability (hspec : app.spec = stored.manifest.decode)
    (hfleet : app.spec.durability = .fleet) :
    app.spec.storage.isSome = true ∧ 3 ≤ desiredReplicas app ∧
      ∀ as, app.spec.autoscaling = some as → as.enabled = true → 3 ≤ as.minReplicas := by
  have hset : stored.manifest.durability = some .fleet := by
    rw [hspec] at hfleet
    have hget : stored.manifest.durability.getD .unset = .fleet := hfleet
    cases hd : stored.manifest.durability with
    | none => simp [hd] at hget
    | some d => simpa [hd] using hget
  obtain ⟨hstorage, hreplicas, hscaler⟩ :=
    stored.conforms.fleetDurability.resolve_left (not_not.mpr hset)
  refine ⟨?_, ?_, fun as has henabled => ?_⟩
  · rw [hspec]
    exact hstorage
  · unfold desiredReplicas
    rw [hspec]
    show 3 ≤ stored.manifest.replicas.getD 3
    cases hn : stored.manifest.replicas with
    | none => decide
    | some n => simpa [hn] using hreplicas
  · obtain ⟨m, hm, -, rfl⟩ := admitted_autoscaling hspec has
    have hon : m.enabled = some true := by
      have hget : m.enabled.getD false = true := henabled
      cases he : m.enabled with
      | none => simp [he] at hget
      | some b => simpa [he] using hget
    have hany := (hscaler m hm).resolve_left (not_not.mpr hon)
    show 3 ≤ m.minReplicas.getD 0
    cases hn : m.minReplicas with
    | none => simp [hn] at hany
    | some n => simpa [hn] using hany

theorem admitted_domain (hspec : app.spec = stored.manifest.decode) :
    isDNS1123Subdomain (clusterDomain app) = true := by
  unfold clusterDomain
  rw [hspec]
  show isDNS1123Subdomain (if stored.manifest.clusterDomain.getD "" ≠ "" then
    stored.manifest.clusterDomain.getD "" else "cluster.local") = true
  cases hdomain : stored.manifest.clusterDomain with
  | none => decide
  | some s =>
    show isDNS1123Subdomain (if s ≠ "" then s else "cluster.local") = true
    split
    · obtain ⟨hpattern, hlength⟩ := stored.conforms.clusterDomain s hdomain
      exact isDNS1123Subdomain_of_isDomainName hpattern hlength
    · decide

/-- One credential family at most. -/
theorem admitted_family (hspec : app.spec = stored.manifest.decode) :
    (([app.spec.bucket.credentialsFrom.iamRole, app.spec.bucket.credentialsFrom.secretRef,
      app.spec.bucket.credentialsFrom.azureClientID].filter (· != "")).length) ≤ 1 := by
  rw [hspec]
  show (([(stored.manifest.bucket.credentialsFrom.elim {} CredentialsManifest.decode).iamRole,
    (stored.manifest.bucket.credentialsFrom.elim {} CredentialsManifest.decode).secretRef,
    (stored.manifest.bucket.credentialsFrom.elim {} CredentialsManifest.decode).azureClientID].filter
      (· != "")).length) ≤ 1
  cases hcreds : stored.manifest.bucket.credentialsFrom with
  | none => decide
  | some c =>
    have hone := (stored.conforms.bucket.credentialsFrom c hcreds).oneFamily
    have hgiven : ∀ field : Option String, (field.getD "" != "") = given field := by
      intro field
      rw [Bool.eq_iff_iff, bne_iff_ne]
      exact given_iff.symm
    -- the counts agree, position by position
    have hmap : [given c.iamRole, given c.secretRef, given c.azureClientID] =
        [c.iamRole.getD "", c.secretRef.getD "", c.azureClientID.getD ""].map (· != "") := by
      simp only [List.map_cons, List.map_nil, hgiven]
    rw [hmap, List.filter_map, List.length_map] at hone
    exact hone

end

/-! ## §3. What is left to the operator. -/

/-- **The causes of a refusal**, with the text each is given. -/
inductive Refusal (r : Reconciler) (app : WorkerApp) : String → Prop where
  | name (dotted : '.' ∈ app.name.toList) :
      Refusal r app "name must be a DNS label of at most 48 characters"
  | hostname (host : String) (listed : host ∈ app.spec.hostnames)
      (plain : isDNS1123Subdomain host = false)
      (wildcard : isWildcardDNS1123Subdomain host = false) :
      Refusal r app ("invalid hostname " ++ r.lib.quote host)
  | tag (untagged : (imageTag app.spec.celld.image).elim false runtimeImageTag = false) :
      Refusal r app
        "celld image must include a numeric major.minor.patch tag, including when digest-pinned"
  | secret (ref : String)
      (listed : ref ∈ [app.spec.bucket.credentialsFrom.secretRef, app.spec.deployTrackingSecretRef])
      (set : ref ≠ "") (bad : isDNS1123Subdomain ref = false) :
      Refusal r app "invalid Secret reference"
  | vars (vars : VarsSpec) (set : app.spec.vars = some vars)
      (bad : isDNS1123Subdomain vars.secretRef = false) :
      Refusal r app "vars.secretRef is required and must be a Secret name"
  | varsVersion (vars : VarsSpec) (version : MinorVersion) (set : app.spec.vars = some vars)
      (read : minorOf app.spec.celld.image = some version) (new : 0 ≤ version.cmp ⟨0, 5⟩) :
      Refusal r app ("vars.secretRef is unsupported by celld v0.5+; move vars into the " ++
        "deployment's Wrangler configuration and remove spec.vars")
  | image (unlisted : ∀ pre ∈ if r.allowedImagePrefixes.isEmpty then ["ghcr.io/denoland/celld:"]
        else r.allowedImagePrefixes, hasPrefix app.spec.celld.image pre = false) :
      Refusal r app "celld image is not in the operator image allowlist"
  | role (set : app.spec.bucket.credentialsFrom.iamRole ≠ "")
      (given : app.spec.bucket.credentialsFrom.iamRole ≠ iamRoleAuto)
      (unlisted : app.spec.bucket.credentialsFrom.iamRole ∉ r.allowedIAMRoles) :
      Refusal r app "IAM role is not in the operator allowlist"
  | identity (set : app.spec.bucket.credentialsFrom.azureClientID ≠ "")
      (unlisted : app.spec.bucket.credentialsFrom.azureClientID ∉ r.allowedAzureClientIDs) :
      Refusal r app "azure identity is not in the operator allowlist"
  | endpoint (bad : ¬ TrustedEndpoint r app.spec.bucket.endpoint) :
      Refusal r app ("bucket endpoint must be an explicitly allowed HTTPS URL without " ++
        "credentials, query, or fragment")

theorem of_bind_error {α β : Type} {x : Except String α} {f : α → Except String β} {e : String}
    (h : (x >>= f) = .error e) : x = .error e ∨ ∃ a, x = .ok a ∧ f a = .error e := by
  cases x with
  | error e' =>
    cases h
    exact .inl rfl
  | ok a => exact .inr ⟨a, rfl, h⟩

theorem of_refuseIf_error {bad : Bool} {text e : String} (h : refuseIf bad text = .error e) :
    bad = true ∧ e = text := by
  cases bad with
  | false => cases h
  | true =>
    cases h
    exact ⟨rfl, rfl⟩

section

variable {r : Reconciler} {app : WorkerApp} {e : String}

theorem refusal_of_validateVars (hvars : ∀ v, app.spec.vars = some v → v.secretRef ≠ "")
    (h : validateVars app = .error e) : Refusal r app e := by
  unfold validateVars at h
  rcases of_bind_error h with h | ⟨_, -, h⟩
  · obtain ⟨hbad, rfl⟩ := of_refuseIf_error h
    split at hbad
    · next v hv =>
      rw [Bool.or_eq_true, beq_iff_eq, Bool.not_eq_true'] at hbad
      exact .vars v hv (hbad.resolve_left (hvars v hv))
    · cases hbad
  · obtain ⟨hbad, rfl⟩ := of_refuseIf_error h
    split at hbad
    · next version hversion =>
      rw [Bool.and_eq_true, decide_eq_true_eq] at hbad
      obtain ⟨v, hv⟩ := Option.isSome_iff_exists.mp hbad.2
      exact .varsVersion v version hv hversion hbad.1
    · cases hbad

theorem refusal_of_validateTrust
    (hfamily : (([app.spec.bucket.credentialsFrom.iamRole,
      app.spec.bucket.credentialsFrom.secretRef,
      app.spec.bucket.credentialsFrom.azureClientID].filter (· != "")).length) ≤ 1)
    (h : validateTrust r app = .error e) : Refusal r app e := by
  unfold validateTrust at h
  -- image, family, role, identity, endpoint
  rcases of_bind_error h with h | ⟨_, -, h⟩
  · obtain ⟨hbad, rfl⟩ := of_refuseIf_error h
    rw [Bool.not_eq_true', List.any_eq_false] at hbad
    exact .image fun pre hpre => by simpa using hbad pre hpre
  rcases of_bind_error h with h | ⟨_, -, h⟩
  · have hbad := of_decide_eq_true (of_refuseIf_error h).1
    omega
  rcases of_bind_error h with h | ⟨_, -, h⟩
  · obtain ⟨hbad, rfl⟩ := of_refuseIf_error h
    simp only [Bool.and_eq_true, bne_iff_ne, Bool.not_eq_true', List.contains_eq_mem,
      decide_eq_false_iff_not] at hbad
    exact .role hbad.1.1 hbad.1.2 hbad.2
  rcases of_bind_error h with h | ⟨_, -, h⟩
  · obtain ⟨hbad, rfl⟩ := of_refuseIf_error h
    simp only [Bool.and_eq_true, bne_iff_ne, Bool.not_eq_true', List.contains_eq_mem,
      decide_eq_false_iff_not] at hbad
    exact .identity hbad.1 hbad.2
  · obtain ⟨hbad, rfl⟩ := of_refuseIf_error h
    refine .endpoint fun htrusted => ?_
    rw [Bool.and_eq_true, bne_iff_ne] at hbad
    obtain ⟨hlisted, url, hurl, hscheme, hhost, huser, hquery, hfragment⟩ :=
      htrusted.resolve_left hbad.1
    simp [hurl, hscheme, hhost, huser, hquery, hfragment, hlisted] at hbad

/-- The causes are causes. -/
theorem Refusal.refused (h : Refusal r app e) : validateApp r app ≠ .ok () := by
  intro hvalid
  have hname := name_of_valid hvalid
  have hpassed := passedChecks_of_valid hvalid
  have hidentity := trustedIdentity_of_valid hvalid
  have htrust := hpassed.trust
  have hendpoint := trustedEndpoint_of_valid hvalid
  unfold validateApp at hvalid
  obtain ⟨-, -, hvalid⟩ := of_bind_ok hvalid
  dsimp only at hvalid
  split at hvalid
  · cases hvalid
  next hhosts =>
  obtain ⟨-, -, hvalid⟩ := of_bind_ok hvalid
  obtain ⟨-, -, hvalid⟩ := of_bind_ok hvalid
  obtain ⟨-, -, hvalid⟩ := of_bind_ok hvalid
  obtain ⟨-, -, hvalid⟩ := of_bind_ok hvalid
  obtain ⟨_, hsecrets, hvalid⟩ := of_bind_ok hvalid
  obtain ⟨_, hvars, -⟩ := of_bind_ok hvalid
  unfold validateVars at hvars
  obtain ⟨_, hvarsRef, hvars⟩ := of_bind_ok hvars
  have hvarsRef := of_refuseIf hvarsRef
  have hvarsVersion := of_refuseIf hvars
  cases h with
  | name dotted =>
    have htext := (Bool.and_eq_true_iff.mp hname.2).2
    exact absurd ((isLabelText_iff.mp htext).2.2 '.' dotted) (by decide)
  | hostname host listed plain wildcard =>
    have hgood := List.find?_eq_none.mp hhosts host listed
    simp [plain, wildcard] at hgood
  | tag untagged =>
    rw [hpassed.image] at untagged
    cases untagged
  | secret ref listed set bad =>
    have hgood := List.any_eq_false.mp (of_refuseIf hsecrets) ref listed
    simp [set, bad] at hgood
  | vars vars set bad => simp [set, bad] at hvarsRef
  | varsVersion vars version set read new => simp [read, new, set] at hvarsVersion
  | image unlisted =>
    unfold validateTrust at htrust
    obtain ⟨_, himage, -⟩ := of_bind_ok htrust
    have hany := of_refuseIf himage
    rw [Bool.not_eq_false', List.any_eq_true] at hany
    obtain ⟨pre, hpre, hhas⟩ := hany
    rw [unlisted pre hpre] at hhas
    cases hhas
  | role set given unlisted => exact unlisted (hidentity.role set given)
  | identity set unlisted => exact unlisted (hidentity.client set)
  | endpoint bad => exact bad hendpoint

end

/-- **The operator refuses what the API server admits for these causes only, and always for
them**: the text of a refusal names a cause that holds, and where a cause holds the WorkerApp is
refused. -/
theorem admitted_refusals (r : Reconciler) (app : WorkerApp) (stored : StoredSpec)
    (hname : NameAdmitted app.name) (hspec : app.spec = stored.manifest.decode) :
    (∀ e, validateApp r app = .error e → Refusal r app e) ∧
      ((∃ e, Refusal r app e) → ∃ e, validateApp r app = .error e) := by
  obtain ⟨hsize, hlabel⟩ := isDNS1123Label_iff hname
  constructor
  · intro e h
    unfold validateApp at h
    rcases of_bind_error h with h | ⟨_, -, h⟩
    · -- the length is the API server's business
      obtain ⟨hbad, rfl⟩ := of_refuseIf_error h
      rw [Bool.or_eq_true, decide_eq_true_eq, Bool.not_eq_true'] at hbad
      have hnot := hbad.resolve_left (by omega)
      refine .name ?_
      by_contra hdot
      rw [hlabel.mpr hdot] at hnot
      cases hnot
    dsimp only at h
    split at h
    · next host hfind =>
      cases h
      have hbad := List.find?_some hfind
      rw [Bool.and_eq_true, Bool.not_eq_true', Bool.not_eq_true'] at hbad
      exact .hostname host (List.mem_of_find?_eq_some hfind) hbad.1 hbad.2
    -- the end of the loop, version, image, tracking, references, vars, replicas, bounds,
    -- durability, domain, trust
    rcases of_bind_error h with h | ⟨_, -, h⟩
    · cases h
    rcases of_bind_error h with h | ⟨_, -, h⟩
    · have hbad := (of_refuseIf_error h).1
      exact absurd (beq_iff_eq.mp hbad) (admitted_version hspec)
    rcases of_bind_error h with h | ⟨_, -, h⟩
    · obtain ⟨hbad, rfl⟩ := of_refuseIf_error h
      exact .tag (by simpa using hbad)
    rcases of_bind_error h with h | ⟨_, -, h⟩
    · have hbad := (of_refuseIf_error h).1
      rw [Bool.and_eq_true, beq_iff_eq] at hbad
      obtain ⟨hs3, href⟩ := admitted_tracking hspec hbad.1
      simp [hs3, href] at hbad
    rcases of_bind_error h with h | ⟨_, -, h⟩
    · obtain ⟨hbad, rfl⟩ := of_refuseIf_error h
      obtain ⟨ref, hmem, hbad⟩ := List.any_eq_true.mp hbad
      rw [Bool.and_eq_true, bne_iff_ne, Bool.not_eq_true'] at hbad
      exact .secret ref hmem hbad.1 hbad.2
    rcases of_bind_error h with h | ⟨_, -, h⟩
    · refine refusal_of_validateVars (fun v hv => ?_) h
      rw [hspec] at hv
      exact ne_empty_of_length (stored.conforms.vars v hv)
    rcases of_bind_error h with h | ⟨_, -, h⟩
    · have hbad := of_decide_eq_true (of_refuseIf_error h).1
      have hreplicas := admitted_replicas hspec
      have hmemory := admitted_memory hspec
      omega
    rcases of_bind_error h with h | ⟨_, -, h⟩
    · have hbad := (of_refuseIf_error h).1
      split at hbad
      · next as has =>
        rw [Bool.and_eq_true, decide_eq_true_eq] at hbad
        exact absurd hbad.2 (admitted_ordered hspec has)
      · cases hbad
    rcases of_bind_error h with h | ⟨_, -, h⟩
    · have hbad := (of_refuseIf_error h).1
      rw [Bool.and_eq_true, decide_eq_true_eq] at hbad
      obtain ⟨hfleet, hbad⟩ := hbad
      obtain ⟨hstorage, hreplicas, hscaler⟩ := admitted_durability hspec hfleet
      rw [Bool.or_eq_true, Bool.or_eq_true, decide_eq_true_eq] at hbad
      rcases hbad with (hnone | hfew) | hscaled
      · simp [Option.isNone_iff_eq_none.mp hnone] at hstorage
      · omega
      · split at hscaled
        · next as has =>
          rw [Bool.and_eq_true, decide_eq_true_eq] at hscaled
          have hthree := hscaler as has hscaled.1
          rw [defaultPositive_of_pos (by omega)] at hscaled
          omega
        · cases hscaled
    rcases of_bind_error h with h | ⟨_, -, h⟩
    · have hbad := (of_refuseIf_error h).1
      rw [admitted_domain hspec] at hbad
      cases hbad
    exact refusal_of_validateTrust (admitted_family hspec) h
  · rintro ⟨e, h⟩
    cases hcase : validateApp r app with
    | error e' => exact ⟨e', rfl⟩
    | ok u => exact absurd hcase h.refused

/-- A small manifest, with these hostnames. -/
def hostedManifest (hostnames : List String) : SpecManifest where
  hostnames := hostnames
  appVersion := "7"
  celld := { image := "ghcr.io/denoland/celld:v0.5.1" }
  bucket := { name := "s3://cells/shop" }

/-- What the API server makes of it. -/
def hostedSpec (hostnames : List String) (h : (create (hostedManifest hostnames)).isSome = true) :
    StoredSpec :=
  (create (hostedManifest hostnames)).get h

/-- The WorkerApp with this spec. -/
def storedApp (stored : StoredSpec) : WorkerApp where
  name := "shop"
  namespace_ := "prod"
  uid := "uid-shop"
  spec := stored.manifest.decode

/-- An underscore in a hostname passes the schema. -/
theorem admitted_refusals_hostname :
    Refusal sampleReconciler
      (storedApp (hostedSpec ["shop_1.example.com"] (by decide +kernel)))
      ("invalid hostname " ++ sampleReconciler.lib.quote "shop_1.example.com") :=
  (admitted_refusals _ _ _ ⟨by decide +kernel, by decide⟩ rfl).1 _ (by decide +kernel)

end CelldOperator
