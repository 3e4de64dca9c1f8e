/-
  CelldOperator.Runtime.Version

  **WHICH CELLD VERSIONS MAY SHARE A FLEET** (`internal/controller/rollout.go`).

    • `minorOf`            — the `major.minor` of an image tag,
    • `breakingBoundaries` — the table kept from celld's release notes (F8),
    • `breakingReason`     — why two images must not be mixed,
    • `fleetBreakingReason` — the same for two pod specs, which adds the
      replication-stream break of v0.6 under fleet durability,
    • `runtimeChangeRefusal` — the changes no update strategy may make.

  A reason is the text the operator reports; the empty text is "no objection".
-/
import CelldOperator.Api.Objects

namespace CelldOperator

/-! ## §1. Image tags. -/

/-- The `major.minor` of a celld image tag. -/
structure MinorVersion where
  major : Int
  minor : Int
  deriving DecidableEq

/-- `cmp`; the differences are 64-bit. -/
def MinorVersion.cmp (v o : MinorVersion) : Int :=
  if v.major ≠ o.major then wrap64 (v.major - o.major) else wrap64 (v.minor - o.minor)

/-- `minorOf`: cut the digest, take the tag behind the last colon, drop one leading `v`, and
read the first two of its dot-separated parts. -/
def minorOf (image : String) : Option MinorVersion :=
  let (name, _, _) := cut '@' image.toList
  match afterLast ':' name with
  | none => none
  | some tag =>
    let (major, rest, dotted) := cut '.' (trimPrefix 'v' tag)
    if !dotted then none
    else
      let (minor, _, _) := cut '.' rest
      match atoi major, atoi minor with
      | some major, some minor => some ⟨major, minor⟩
      | _, _ => none

/-- The parts of a version that parses are 64-bit. -/
theorem minorOf_range {image : String} {v : MinorVersion} (h : minorOf image = some v) :
    (-2 ^ 63 ≤ v.major ∧ v.major < 2 ^ 63) ∧ -2 ^ 63 ≤ v.minor ∧ v.minor < 2 ^ 63 := by
  unfold minorOf at h
  dsimp only at h
  split at h
  · cases h
  · split at h
    · cases h
    · split at h
      · next hmajor hminor =>
        cases h
        exact ⟨atoi_range hmajor, atoi_range hminor⟩
      · cases h

/-- Versions in their own order, which is what `cmp` is for. -/
instance : LE MinorVersion where
  le v w := v.major < w.major ∨ v.major = w.major ∧ v.minor ≤ w.minor

instance (v w : MinorVersion) : Decidable (v ≤ w) := inferInstanceAs (Decidable (_ ∨ _))

/-- `cmp` against a version without negative parts: right for a version at or above it … -/
theorem MinorVersion.cmp_nonneg {v o : MinorVersion} (hv : v.major < 2 ^ 63 ∧ v.minor < 2 ^ 63)
    (ho : 0 ≤ o.major ∧ 0 ≤ o.minor) (h : o ≤ v) : 0 ≤ v.cmp o := by
  unfold MinorVersion.cmp wrap64
  rcases h with hlt | ⟨heq, hle⟩
  · rw [if_pos hlt.ne']
    omega
  · rw [if_neg (by simp [heq])]
    omega

/-- … and for one below it that has none either. -/
theorem MinorVersion.cmp_neg {v o : MinorVersion} (hv : 0 ≤ v.major ∧ 0 ≤ v.minor)
    (ho : o.major < 2 ^ 63 ∧ o.minor < 2 ^ 63) (h : ¬ o ≤ v) : v.cmp o < 0 := by
  have hnot : ¬ (o.major < v.major ∨ o.major = v.major ∧ o.minor ≤ v.minor) := h
  unfold MinorVersion.cmp wrap64
  split
  · omega
  · omega

/-! ## §2. The table of boundaries. -/

/-- A line between two consecutive minors, and the directions that must not cross it as a
rolling update. -/
structure VersionBoundary where
  lower : MinorVersion
  upper : MinorVersion
  upward : Bool
  downward : Bool
  reason : String

/-- `breakingBoundaries`. -/
def breakingBoundaries : List VersionBoundary :=
  [ { lower := ⟨0, 1⟩, upper := ⟨0, 2⟩, upward := true, downward := true,
      reason := "v0.1 and v0.2 nodes cannot share a fleet (ownership records changed address " ++
        "semantics and block objects changed format); upstream requires stop-all-then-start" },
    { lower := ⟨0, 2⟩, upper := ⟨0, 3⟩, upward := false, downward := true,
      reason := "a v0.2 node cannot read writes waiting in v0.3's replicated log, so the downgrade " ++
        "can lose acknowledged writes unless every node's shutdown log shows " ++
        "\"node-log close: sealed epoch\"" },
    { lower := ⟨0, 3⟩, upper := ⟨0, 4⟩, upward := true, downward := true,
      reason := "v0.3 and v0.4 nodes cannot share a fleet (the peer tunnel protocols are " ++
        "incompatible and v0.3 cannot read v0.4 large Workers KV value references); " ++
        "upstream requires stop-all-then-start" },
    { lower := ⟨0, 4⟩, upper := ⟨0, 5⟩, upward := true, downward := true,
      reason := "v0.4 and v0.5 nodes cannot share a fleet; upstream requires stop-all-then-start" } ]

/-- The boundary is crossed between the two versions in a direction it is flagged for. -/
def VersionBoundary.crossed (b : VersionBoundary) (v w : MinorVersion) : Bool :=
  let crossesUp := v.cmp b.lower ≤ 0 ∧ 0 ≤ w.cmp b.upper
  let crossesDown := 0 ≤ v.cmp b.upper ∧ w.cmp b.lower ≤ 0
  (b.upward && decide crossesUp) || (b.downward && decide crossesDown)

/-- `breakingReason`: the reasons of every boundary crossed, or the empty text.  Tags that do
not parse are not objected to. -/
def breakingReason (fromImage toImage : String) : String :=
  match minorOf fromImage, minorOf toImage with
  | some v, some w =>
    if v = w then ""
    else "; ".intercalate ((breakingBoundaries.filter (·.crossed v w)).map (·.reason))
  | _, _ => ""

/-! ## §3. Pod specs. -/

/-- `celldContainerName`. -/
def celldContainerName : String := "celld"

/-- `stsContainerImage`, on the pod spec of the template. -/
def stsContainerImage (spec : PodSpec) : String :=
  match spec.containers.find? (·.name == celldContainerName) with
  | some c => c.image
  | none => ""

/-- The first `CELLD_DURABILITY` of the celld containers, in order. -/
def durabilityEnv (spec : PodSpec) : Option EnvVar :=
  (spec.containers.filter (·.name == celldContainerName)).findSome?
    (fun c => c.env.find? (·.name == "CELLD_DURABILITY"))

/-- `usesFleetDurability`: celld defaults to fleet when no proof is configured. -/
def usesFleetDurability (spec : PodSpec) : Bool :=
  match durabilityEnv spec with
  | some env => env.value != Durability.bucket.text
  | none => true

/-- The v0.6 line is crossed, in either direction. -/
def crossesV06 (v w : MinorVersion) : Bool :=
  decide ((v.cmp ⟨0, 6⟩ < 0 ∧ 0 ≤ w.cmp ⟨0, 6⟩) ∨ (0 ≤ v.cmp ⟨0, 6⟩ ∧ w.cmp ⟨0, 6⟩ < 0))

/-- `fleetBreakingReason`, on the pod specs of the two templates. -/
def fleetBreakingReason (existing desired : PodSpec) : String :=
  let reason := breakingReason (stsContainerImage existing) (stsContainerImage desired)
  if reason ≠ "" then reason
  else
    match minorOf (stsContainerImage existing), minorOf (stsContainerImage desired) with
    | some v, some w =>
      if crossesV06 v w && (usesFleetDurability existing || usesFleetDurability desired) then
        "v0.5 and v0.6 fleet replication streams are incompatible; stop the whole fleet first"
      else ""
    | _, _ => ""

/-! ## §4. Changes that are always refused. -/

/-- `runtimeChangeRefusal`: a crossing of the v0.3 durability floor, and an unrecognised live
or desired image without an explicit Recreate. -/
def runtimeChangeRefusal (app : WorkerApp) (oldImage : String) : String :=
  let v := minorOf oldImage
  let w := minorOf app.spec.celld.image
  let floorCrossed := match v, w with
    | some v, some w => decide (0 ≤ v.cmp ⟨0, 3⟩ ∧ w.cmp ⟨0, 3⟩ < 0)
    | _, _ => false
  if floorCrossed then
    "downgrade requires offline durability verification and migration to a new WorkerApp"
  else if oldImage ≠ app.spec.celld.image ∧ (v.isNone ∨ w.isNone) ∧
      app.spec.celld.updateStrategy ≠ .recreate then
    "unrecognized live image requires Recreate"
  else ""

end CelldOperator
