/-
  CelldOperator.Runtime.ImageTag

  **TWO READERS OF ONE IMAGE STRING.**

  `validateApp` cuts the digest, takes what stands behind the first colon after
  the last slash and matches it against `runtimeImageTag`.  `minorOf` cuts the
  digest too, but takes what stands behind the LAST colon, splits at dots and
  calls `strconv.Atoi`.  Every version guard of the rollout rests on the two
  reading the same thing.

    • `versionTag`                   — the tag `minorOf` looks at,
    • `tagMajor`, `tagMinor`         — the decimal components of a tag,
    • `atoi_of_digits`               — `Atoi` on a run of digits is its value,
      or fails when the value does not fit 64 bits,
    • `minorOf_of_accepted`          — on every accepted image the readers agree.
-/
import Mathlib.Data.Nat.Digits.Defs
import CelldOperator.Runtime.Validation

namespace CelldOperator

/-! ## §1. Decimal values. -/

/-- The number a run of decimal digits denotes, most significant digit first. -/
def decimalValue (ds : List Char) : Nat :=
  Nat.ofDigits 10 (ds.reverse.map fun d => d.toNat - '0'.toNat)

/-- The accumulator of the digit loop carries the digits read so far. -/
theorem foldl_digits (ds : List Char) (n : Nat) :
    ds.foldl (fun n d => 10 * n + (d.toNat - '0'.toNat)) n =
      10 ^ ds.length * n + decimalValue ds := by
  induction ds generalizing n with
  | nil => simp [decimalValue]
  | cons d ds ih =>
    -- the head digit goes to the accumulator on the left and to the top power on the right
    have htop : decimalValue (d :: ds) =
        decimalValue ds + 10 ^ ds.length * (d.toNat - '0'.toNat) := by
      simp [decimalValue, Nat.ofDigits_append]
    rw [List.foldl_cons, ih, htop, List.length_cons, pow_succ]
    ring

theorem digits?_of_digits {ds : List Char} (hne : ds ≠ []) (hd : ∀ c ∈ ds, c.isDigit = true) :
    digits? ds = some (decimalValue ds) := by
  have hall : ds.all Char.isDigit = true := List.all_eq_true.mpr hd
  have hfold := foldl_digits ds 0
  rw [Nat.mul_zero, Nat.zero_add] at hfold
  cases ds with
  | nil => exact absurd rfl hne
  | cons d ds =>
    show (if (d :: ds).all Char.isDigit then some _ else none) = _
    rw [if_pos hall, hfold]

/-- **`strconv.Atoi` on digits**: their value, whatever zeros lead them, unless it leaves the
signed 64-bit range. -/
theorem atoi_of_digits {ds : List Char} (hne : ds ≠ []) (hd : ∀ c ∈ ds, c.isDigit = true) :
    atoi ds = if decimalValue ds < 2 ^ 63 then some (decimalValue ds : Int) else none := by
  have hvalue := digits?_of_digits hne hd
  -- a run of digits does not start with a sign
  have hminus : ∀ rest, ds ≠ '-' :: rest := by
    intro rest heq
    have := hd '-' (heq ▸ List.mem_cons_self ..)
    cases this
  have hplus : ∀ rest, ds ≠ '+' :: rest := by
    intro rest heq
    have := hd '+' (heq ▸ List.mem_cons_self ..)
    cases this
  unfold atoi
  dsimp only
  split
  · next rest => exact absurd rfl (hminus rest)
  · next rest => exact absurd rfl (hplus rest)
  · rw [hvalue, Option.map_some, Option.bind_some]
    by_cases hfit : decimalValue ds < 2 ^ 63
    · rw [if_pos hfit, if_pos (by omega)]
    · rw [if_neg hfit, if_neg (by omega)]

/-! ## §2. The components of a tag. -/

/-- The first numeric component of a tag. -/
def tagMajor (tag : List Char) : List Char := (trimPrefix 'v' tag).takeWhile Char.isDigit

/-- The second numeric component of a tag, behind the character that ends the first. -/
def tagMinor (tag : List Char) : List Char :=
  ((trimPrefix 'v' tag).dropWhile Char.isDigit).tail.takeWhile Char.isDigit

theorem takeWhile_digits_append {ds rest : List Char} (hd : ∀ c ∈ ds, c.isDigit = true) :
    (ds ++ '.' :: rest).takeWhile Char.isDigit = ds := by
  rw [List.takeWhile_append_of_pos hd, List.takeWhile_cons_of_neg (by decide), List.append_nil]

theorem dropWhile_digits_append {ds rest : List Char} (hd : ∀ c ∈ ds, c.isDigit = true) :
    (ds ++ '.' :: rest).dropWhile Char.isDigit = '.' :: rest := by
  rw [List.dropWhile_append_of_pos hd, List.dropWhile_cons_of_neg (by decide)]

/-- The parts of a numeric tag are its components: there is no second way to split it. -/
theorem NumericTag.components {tag major minor patch : List Char}
    (h : NumericTag tag major minor patch) : tagMajor tag = major ∧ tagMinor tag = minor := by
  unfold tagMajor tagMinor
  rw [h.shape, takeWhile_digits_append h.majorDigits, dropWhile_digits_append h.majorDigits]
  exact ⟨rfl, takeWhile_digits_append h.minorDigits⟩

theorem spanDigits_ne_nil {cs rest : List Char} (h : spanDigits cs = some rest) :
    cs.takeWhile Char.isDigit ≠ [] := by
  intro hnil
  unfold spanDigits at h
  rw [hnil] at h
  cases h

/-- `[0-9]+` twice: an accepted tag has both components. -/
theorem components_ne_nil {tag : List Char} (h : runtimeImageTag tag = true) :
    tagMajor tag ≠ [] ∧ tagMinor tag ≠ [] := by
  unfold runtimeImageTag at h
  split at h
  · next afterMajor hmajor =>
    split at h
    · next afterMinor hminor =>
      have hdrop : (trimPrefix 'v' tag).dropWhile Char.isDigit = '.' :: afterMajor := by
        unfold spanDigits at hmajor
        split at hmajor
        · cases hmajor
        · exact Option.some.inj hmajor
      refine ⟨spanDigits_ne_nil hmajor, ?_⟩
      unfold tagMinor
      rw [hdrop]
      exact spanDigits_ne_nil hminor
    · cases h
  · cases h

/-! ## §3. The two readers. -/

/-- The tag `minorOf` looks at: behind the last colon, the digest cut off. -/
def versionTag (image : String) : Option (List Char) := afterLast ':' (cut '@' image.toList).1

/-- **The image validator and the version parser agree.**  On an image whose tag `validateApp`
accepts, `minorOf` looks at the same tag, however many colons and slashes the host, the path and
the digest hold; it succeeds exactly when both decimal components fit a signed 64-bit integer, and
it then returns their values. -/
theorem minorOf_of_accepted {image : String}
    (h : (imageTag image).elim false runtimeImageTag = true) :
    ∃ tag patch, imageTag image = some tag ∧ versionTag image = some tag ∧
      NumericTag tag (tagMajor tag) (tagMinor tag) patch ∧
      tagMajor tag ≠ [] ∧ tagMinor tag ≠ [] ∧
      minorOf image =
        if decimalValue (tagMajor tag) < 2 ^ 63 ∧ decimalValue (tagMinor tag) < 2 ^ 63 then
          some ⟨decimalValue (tagMajor tag), decimalValue (tagMinor tag)⟩
        else none := by
  cases htag : imageTag image with
  | none => simp [htag] at h
  | some tag =>
    have hmatch : runtimeImageTag tag = true := by simpa [htag] using h
    obtain ⟨major, minor, patch, hn⟩ := numericTag_of_runtimeImageTag hmatch
    obtain ⟨hmajor, hminor⟩ := hn.components
    obtain ⟨hmajor', hminor'⟩ := components_ne_nil hmatch
    subst hmajor hminor
    have hread := minorOf_of_imageTag htag hn
    refine ⟨tag, patch, rfl, afterLast_of_imageTag htag hn.no_colon, hn, hmajor', hminor', ?_⟩
    rw [hread, atoi_of_digits hmajor' hn.majorDigits, atoi_of_digits hminor' hn.minorDigits]
    by_cases h₁ : decimalValue (tagMajor tag) < 2 ^ 63
    · by_cases h₂ : decimalValue (tagMinor tag) < 2 ^ 63
      · rw [if_pos h₁, if_pos h₂, if_pos ⟨h₁, h₂⟩]
        rfl
      · rw [if_pos h₁, if_neg h₂, if_neg fun hfit => h₂ hfit.2]
        rfl
    · rw [if_neg h₁, Option.bind_none]
      exact (if_neg fun hfit => h₁ hfit.1).symm

/-- A port in the host, a path, a leading zero, a suffix with dots and a digest at once. -/
theorem minorOf_of_accepted_pinned :
    (imageTag "registry:5000/a/b/celld:v0.05.3-rc.1@sha256:0f").elim false runtimeImageTag = true ∧
      minorOf "registry:5000/a/b/celld:v0.05.3-rc.1@sha256:0f" = some ⟨0, 5⟩ := by
  have haccepted :
      (imageTag "registry:5000/a/b/celld:v0.05.3-rc.1@sha256:0f").elim false runtimeImageTag =
        true := by decide +kernel
  obtain ⟨tag, patch, htag, -, -, -, -, hread⟩ := minorOf_of_accepted haccepted
  have htag' : tag = "v0.05.3-rc.1".toList :=
    Option.some.inj (htag.symm.trans (by decide +kernel))
  refine ⟨haccepted, hread.trans ?_⟩
  rw [htag']
  decide +kernel

/-- A component of twenty digits passes the validator and is no version. -/
example : (imageTag "celld:0.99999999999999999999.0").elim false runtimeImageTag = true ∧
    minorOf "celld:0.99999999999999999999.0" = none := by decide +kernel

end CelldOperator
