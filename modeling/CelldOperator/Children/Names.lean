/-
  CelldOperator.Children.Names

  **THE NAMES OF THE CHILDREN.**

  `validateApp` bounds the name of a WorkerApp once, at 48 bytes; the suffixes
  are appended elsewhere.

    • `childName_valid`     — every child's name is a DNS label (at most 63 bytes),
      the longest being `<name>-celld-internal` with exactly 63,
    • `childName_injective` — a child's name determines the WorkerApp, also between
      the internal Service of one and the public Service of another,
    • `revisionLabel_fits_iff` — the label `<StatefulSet>-<revision hash>` that the
      StatefulSet controller puts on every pod fits 63 bytes for all hashes of up to
      ten characters exactly when the name has at most 46 bytes.  Names of 47 and 48
      bytes are accepted, and their pods cannot be created.
-/
import CelldOperator.Cluster.Server

namespace CelldOperator

/-! ## §1. Labels with a suffix. -/

/-- What `[a-z0-9]([-a-z0-9]*[a-z0-9])?` asks of a text. -/
theorem isLabelText_iff {cs : List Char} :
    isLabelText cs = true ↔
      (∃ first, cs.head? = some first ∧ isLowerAlnum first = true) ∧
      (∃ last, cs.getLast? = some last ∧ isLowerAlnum last = true) ∧
      ∀ c ∈ cs, (isLowerAlnum c || c == '-') = true := by
  unfold isLabelText
  cases hhead : cs.head? with
  | none => simp
  | some first =>
    cases hlast : cs.getLast? with
    | none => simp
    | some last => simp [and_assoc]

/-- A label stays one when a text of label characters that ends in a letter or digit follows. -/
theorem isLabelText_append {cs suffix : List Char} (h : isLabelText cs = true)
    (hlast : ∃ last, suffix.getLast? = some last ∧ isLowerAlnum last = true)
    (hall : ∀ c ∈ suffix, (isLowerAlnum c || c == '-') = true) :
    isLabelText (cs ++ suffix) = true := by
  obtain ⟨⟨first, hhead, hfirst⟩, -, hchars⟩ := isLabelText_iff.mp h
  obtain ⟨last, hsuffix, halnum⟩ := hlast
  refine isLabelText_iff.mpr ⟨⟨first, ?_, hfirst⟩, ⟨last, ?_, halnum⟩, ?_⟩
  · rw [List.head?_append, hhead, Option.some_or]
  · rw [List.getLast?_append, hsuffix, Option.some_or]
  · intro c hc
    rcases List.mem_append.mp hc with hc | hc
    · exact hchars c hc
    · exact hall c hc

/-- The suffix an object name adds to the name of the WorkerApp. -/
def childSuffix : Kind → String
  | .internalService | .authorizationPolicy => "-celld-internal"
  | _ => "-celld"

theorem childName_eq (app : WorkerApp) (k : Kind) : childName app k = app.name ++ childSuffix k := by
  cases k with
  | authorizationPolicy =>
    show app.name ++ "-celld" ++ "-internal" = app.name ++ "-celld-internal"
    rw [String.append_assoc]
    rfl
  | _ => rfl

/-- The suffixes are label text that ends in a letter, of 6 and 15 bytes. -/
theorem childSuffix_spec : ∀ k : Kind,
    (∃ last, (childSuffix k).toList.getLast? = some last ∧ isLowerAlnum last = true) ∧
      (∀ c ∈ (childSuffix k).toList, (isLowerAlnum c || c == '-') = true) ∧
      (childSuffix k).utf8ByteSize ≤ 15 := by
  have hlong : (∃ last, "-celld-internal".toList.getLast? = some last ∧ isLowerAlnum last = true) ∧
      (∀ c ∈ "-celld-internal".toList, (isLowerAlnum c || c == '-') = true) ∧
      "-celld-internal".utf8ByteSize ≤ 15 :=
    ⟨⟨'l', by decide +kernel, by decide⟩, List.all_eq_true.mp (by decide +kernel), by decide⟩
  have hshort : (∃ last, "-celld".toList.getLast? = some last ∧ isLowerAlnum last = true) ∧
      (∀ c ∈ "-celld".toList, (isLowerAlnum c || c == '-') = true) ∧
      "-celld".utf8ByteSize ≤ 15 :=
    ⟨⟨'d', by decide +kernel, by decide⟩, List.all_eq_true.mp (by decide +kernel), by decide⟩
  intro k
  cases k with
  | internalService => exact hlong
  | authorizationPolicy => exact hlong
  | _ => exact hshort

/-! ## §2. Accepted names. -/

/-- The first check of `validateApp`. -/
theorem name_of_valid {r : Reconciler} {app : WorkerApp} (h : validateApp r app = .ok ()) :
    app.name.utf8ByteSize ≤ 48 ∧ isDNS1123Label app.name = true := by
  unfold validateApp at h
  obtain ⟨_, hname, -⟩ := of_bind_ok h
  have hname := of_refuseIf hname
  simp only [Bool.or_eq_false_iff, decide_eq_false_iff_not, Bool.not_eq_false'] at hname
  exact ⟨by omega, hname.2⟩

/-- **Every child of an accepted WorkerApp has a DNS label for a name.** -/
theorem childName_valid {r : Reconciler} {app : WorkerApp} (h : validateApp r app = .ok ())
    (k : Kind) : isDNS1123Label (childName app k) = true := by
  obtain ⟨hsize, hlabel⟩ := name_of_valid h
  obtain ⟨hlast, hall, hsuffix⟩ := childSuffix_spec k
  unfold isDNS1123Label at hlabel ⊢
  rw [Bool.and_eq_true, decide_eq_true_eq] at hlabel ⊢
  rw [childName_eq, String.utf8ByteSize_append, String.toList_append]
  exact ⟨by omega, isLabelText_append hlabel.2 hlast hall⟩

/-! ## §3. Collisions. -/

/-- Different suffixes end in different letters. -/
theorem append_suffix_ne (a b : String) : a ++ "-celld" ≠ b ++ "-celld-internal" := by
  intro heq
  have hlast := congrArg (fun s => s.toList.getLast?) heq
  simp [String.toList_append, List.getLast?_append] at hlast

/-- **A child's name determines its WorkerApp**, whatever kinds the two objects have and whatever
the names themselves end in. -/
theorem childName_injective {app app' : WorkerApp} {k k' : Kind}
    (h : childName app k = childName app' k') : app.name = app'.name := by
  rw [childName_eq, childName_eq] at h
  have hsuffix : childSuffix k = childSuffix k' := by
    have hcases : ∀ k, childSuffix k = "-celld" ∨ childSuffix k = "-celld-internal" := by
      intro k
      cases k <;> simp [childSuffix]
    rcases hcases k with hk | hk <;> rcases hcases k' with hk' | hk' <;> rw [hk, hk'] at h ⊢
    · exact absurd h (append_suffix_ne _ _)
    · exact absurd h.symm (append_suffix_ne _ _)
  rw [hsuffix] at h
  exact (String.append_left_inj _).mp h

/-! ## §4. The pod label of the StatefulSet controller. -/

/-- The value of the label `controller-revision-hash` on a pod. -/
def revisionLabel (app : WorkerApp) (hash : String) : String := fleetName app ++ "-" ++ hash

theorem revisionLabel_size (app : WorkerApp) (hash : String) :
    (revisionLabel app hash).utf8ByteSize = app.name.utf8ByteSize + 7 + hash.utf8ByteSize := by
  unfold revisionLabel fleetName
  rw [String.utf8ByteSize_append, String.utf8ByteSize_append, String.utf8ByteSize_append]
  rfl

/-- A revision hash of ten characters, the longest there is. -/
def longestHash : String := "5d4f8c7b9d"

theorem longestHash_size : longestHash.utf8ByteSize = 10 := by decide

/-- **Pods can be labelled for every revision exactly when the name leaves room for the hash.** -/
theorem revisionLabel_fits_iff (app : WorkerApp) :
    (∀ hash : String, hash.utf8ByteSize ≤ 10 → (revisionLabel app hash).utf8ByteSize ≤ 63) ↔
      app.name.utf8ByteSize ≤ 46 := by
  constructor
  · intro h
    have hlong := h longestHash (by rw [longestHash_size])
    rw [revisionLabel_size, longestHash_size] at hlong
    omega
  · intro h hash hhash
    rw [revisionLabel_size]
    omega

/-- **The children of accepted names**: their names are DNS labels and collide with no other
WorkerApp's; their pods carry a label value that fits exactly when the name has at most
46 bytes. -/
theorem derived_names_iff (r : Reconciler) (app : WorkerApp) (h : validateApp r app = .ok ()) :
    ((∀ k, isDNS1123Label (childName app k) = true) ∧
      ∀ app', validateApp r app' = .ok () → app'.name ≠ app.name →
        ∀ k k', childName app k ≠ childName app' k') ∧
    ((∀ hash : String, hash.utf8ByteSize ≤ 10 → (revisionLabel app hash).utf8ByteSize ≤ 63) ↔
      app.name.utf8ByteSize ≤ 46) := by
  refine ⟨⟨fun k => childName_valid h k, ?_⟩, revisionLabel_fits_iff app⟩
  intro app' _ hne k k' heq
  exact hne (childName_injective heq).symm

/-- The fleet `shop`. -/
theorem derived_names_shop :
    (revisionLabel (sampleApp "ghcr.io/denoland/celld:v0.6.0" .rolling)
      longestHash).utf8ByteSize ≤ 63 := by
  have haccepted : validateApp sampleReconciler (sampleApp "ghcr.io/denoland/celld:v0.6.0" .rolling) =
      .ok () := by decide +kernel
  exact (derived_names_iff _ _ haccepted).2.mpr (by decide) longestHash (by decide)

/-- A WorkerApp with a name of 48 characters. -/
def longNamedApp : WorkerApp :=
  { sampleApp "ghcr.io/denoland/celld:v0.6.0" .rolling with
    name := "orders-and-payments-of-the-european-storefront-1" }

/-- It is accepted, and the label of its pods has 65 bytes. -/
theorem long_name_accepted :
    validateApp sampleReconciler longNamedApp = .ok () ∧
      (revisionLabel longNamedApp longestHash).utf8ByteSize = 65 := by
  decide +kernel

end CelldOperator
