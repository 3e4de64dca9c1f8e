/-
  CelldOperator.Rollout.ConfigHash

  **WHAT THE CONFIG HASH SEES OF THE SECRETS.**  `configHash` feeds every part — a
  marker, a name, a key, a value — to SHA-256 with a zero byte behind it.  Keys and
  names have no zero byte, values may, and a marker may be a key.

    • `stateStream`, `configHash_stream` — the bytes a pass feeds for a state of the
      Secrets,
    • `spelled` — the same state as the sequence of its parts, cut at zero bytes, which
      is all the stream says of it,
    • `Plain` — no value has a zero byte and no entry reads like the header of the next
      Secret,
    • `rotation_seen_of_plain` — a rotation between plain states changes the stream, and
      with collision-free hashes the template hash,
    • `rotation_unseen` — two rotations that change nothing: neither half of `Plain`
      can be left out.
-/
import CelldOperator.Pass.FleetSpec
import CelldOperator.Cluster.Server

namespace CelldOperator

open Effect Prog

/-! ## §1. States of the Secrets. -/

/-- A key of a Secret: `[-._a-zA-Z0-9]+`. -/
def ValidKey (key : String) : Prop :=
  key ≠ "" ∧ ∀ c ∈ key.toList, c.isAlphanum = true ∨ c = '-' ∨ c = '.' ∨ c = '_'

-- the characters of the key are tried, not all characters
instance (key : String) : Decidable (ValidKey key) :=
  letI : Decidable (∀ c ∈ key.toList, c.isAlphanum = true ∨ c = '-' ∨ c = '.' ∨ c = '_') :=
    List.decidableBAll _ _
  inferInstanceAs (Decidable (_ ∧ _))

/-- The data of a Secret: a map from keys to bytes, listed in key order. -/
@[ext] structure SecretData where
  entries : List (String × List UInt8)
  sorted : entries.Pairwise fun a b => a.1 < b.1
  valid : ∀ e ∈ entries, ValidKey e.1

/-- A state of the Secrets of a namespace; a missing one is `none`. -/
abbrev SecretState := String → Option SecretData

/-- One of the referenced Secrets has changed. -/
def Rotated (names : List String) (s s' : SecretState) : Prop := ∃ name ∈ names, s name ≠ s' name

/-- The parts `configHash` writes for one reference. -/
def secretParts (name : String) : Option SecretData → List (List UInt8)
  | none => [bytes "missing", bytes name]
  | some data => [bytes "secret", bytes name] ++
      data.entries.flatMap fun entry => [bytes entry.1, entry.2]

/-- The parts it writes for all of them. -/
def stateParts (names : List String) (s : SecretState) : List (List UInt8) :=
  names.flatMap fun name => secretParts name (s name)

/-- **The byte stream** it feeds to SHA-256. -/
def stateStream (names : List String) (s : SecretState) : List UInt8 :=
  digestParts (stateParts names s)

/-- The history read the Secrets in this state. -/
def ReadsState (s : SecretState) (h : Trace) : Prop :=
  ∀ name res, Saw h (.getSecret name) res →
    match s name with
    | some data => ∃ secret, res = .ok secret ∧ secret.data = data.entries
    | none => ∃ e, res = .error e ∧ e.isNotFound = true

theorem digestParts_append (ps qs : List (List UInt8)) :
    digestParts (ps ++ qs) = digestParts ps ++ digestParts qs := List.flatMap_append

theorem digestParts_flatMap {α : Type} (l : List α) (f : α → List (List UInt8)) :
    digestParts (l.flatMap f) = l.flatMap fun a => digestParts (f a) := List.flatMap_assoc

theorem ReadsState.sub {s : SecretState} {t t' : Trace} (h : ReadsState s t)
    (ht : ∀ e ∈ t', e ∈ t) : ReadsState s t' :=
  fun name res hs => h name res (ht _ hs)

/-- The loop over the references feeds the stream of the state. -/
theorem readSecrets_stream {s : SecretState} {names : List String} :
    ∀ {before stream : List UInt8} {t : Trace}, ReadsState s t →
      Runs (readSecrets names before) t (.ok stream) → stream = before ++ stateStream names s := by
  induction names with
  | nil =>
    intro before stream t _ ht
    obtain ⟨-, heq⟩ := runs_ret.mp ht
    cases heq
    simp [stateStream, stateParts, digestParts]
  | cons name names ih =>
    intro before stream t hs ht
    unfold readSecrets at ht
    obtain ⟨res, t₁, t₂, rfl, ht₁, ht₂⟩ := runs_bind.mp ht
    have hasked := runs_req.mp ht₁
    subst hasked
    have hread := hs name res (List.mem_append_left _ (List.mem_singleton_self _))
    have hrest : ReadsState s t₂ := hs.sub fun e he => List.mem_append_right _ he
    have hsplit : stateStream (name :: names) s =
        digestParts (secretParts name (s name)) ++ stateStream names s :=
      digestParts_append _ _
    rw [hsplit]
    cases hstate : s name with
    | none =>
      rw [hstate] at hread
      obtain ⟨e, rfl, hmissing⟩ := hread
      dsimp only at ht₂
      rw [if_pos hmissing] at ht₂
      rw [ih hrest ht₂, List.append_assoc]
      rfl
    | some data =>
      rw [hstate] at hread
      obtain ⟨secret, rfl, hdata⟩ := hread
      have hpart : secretStream name (some secret) =
          digestParts (secretParts name (some data)) := by
        unfold secretStream secretParts
        dsimp only
        rw [hdata, digestParts_append, digestParts_flatMap]
      rw [ih hrest ht₂, List.append_assoc, hpart]

/-- **The config hash of a state.** -/
theorem configHash_stream {r : Reconciler} {app : WorkerApp} {s : SecretState} {t : Trace}
    {hash : String} (hs : ReadsState s t) (ht : Runs (configHash r app) t (.ok hash))
    (hrefs : secretRefs app ≠ []) : hash = r.lib.digest (stateStream (secretRefs app) s) := by
  unfold configHash at ht
  rw [if_neg (by simpa using hrefs)] at ht
  rcases runs_check ht with ⟨e, he, -⟩ | ⟨stream, t₁, t₂, rfl, ht₁, ht₂⟩
  · cases he
  obtain ⟨-, heq⟩ := runs_ret.mp ht₂
  cases heq
  have hstream := readSecrets_stream (hs.sub fun e he => List.mem_append_left _ he) ht₁
  rw [hstream]
  rfl

/-! ## §2. The spelling of a stream. -/

/-- The parts, cut at every zero byte. -/
def spelledParts (parts : List (List UInt8)) : List (List UInt8) := parts.flatMap (List.splitOn 0)

/-- **A state, spelled out**: markers, names, keys, and the pieces of the values. -/
def spelled (names : List String) (s : SecretState) : List (List UInt8) :=
  spelledParts (stateParts names s)

/-- Cutting the stream at its zero bytes gives the spelling back. -/
theorem splitOn_digestParts (parts : List (List UInt8)) :
    (digestParts parts).splitOn 0 = spelledParts parts ++ [[]] := by
  induction parts with
  | nil => rfl
  | cons p ps ih =>
    have hcons : digestParts (p :: ps) = p ++ 0 :: digestParts ps := by
      simp [digestParts]
    rw [hcons, List.splitOn_append_cons_self, ih, ← List.append_assoc]
    rfl

/-- **The stream says no more than the spelling.** -/
theorem digestParts_eq_iff (ps qs : List (List UInt8)) :
    digestParts ps = digestParts qs ↔ spelledParts ps = spelledParts qs := by
  constructor
  · intro h
    have hsplit := congrArg (List.splitOn 0) h
    rw [splitOn_digestParts, splitOn_digestParts] at hsplit
    exact List.append_cancel_right hsplit
  · intro h
    have hback : ∀ stream : List UInt8, [0].intercalate (stream.splitOn 0) = stream :=
      fun _ => List.intercalate_splitOn 0
    rw [← hback (digestParts ps), splitOn_digestParts, h, ← splitOn_digestParts, hback]

/-! ## §3. Rotations. -/

/-- The function has no collision on these two inputs. -/
def CollisionFree {α : Type} (f : α → String) (a b : α) : Prop := f a = f b → a = b

/-- **The rotation is seen**: the streams differ; and wherever the hashes do not collide, the
StatefulSet of a pass that reads the one state has another template hash than that of a pass that
reads the other. -/
structure RotationSeen (names : List String) (s s' : SecretState) : Prop where
  stream : Rotated names s s' → stateStream names s ≠ stateStream names s'
  template : Rotated names s s' → ∀ r app version t t' hash hash', secretRefs app = names →
    Runs (configHash r app) t (.ok hash) → ReadsState s t →
    Runs (configHash r app) t' (.ok hash') → ReadsState s' t' →
    CollisionFree r.lib.digest (stateStream names s) (stateStream names s') →
    CollisionFree r.lib.templateHash (buildPodTemplate app hash version)
      (buildPodTemplate app hash' version) →
    templateChanged (desiredFleet r app hash version) (desiredFleet r app hash' version) = true

/-- The template carries the config hash. -/
theorem configHash_buildPodTemplate (app : WorkerApp) (hash version : String) :
    (buildPodTemplate app hash version).annotations.get configHashAnnotation = hash := by
  have hne : configHashAnnotation ≠ appVersionAnnotation := by decide
  show (templateAnnotations app hash version).get configHashAnnotation = hash
  unfold templateAnnotations
  by_cases hhash : hash = ""
  · subst hhash
    split <;> simp [StrMap.ofList, StrMap.get, Finmap.lookup_insert_of_ne, hne]
  · rw [if_pos hhash]
    split <;> simp [StrMap.ofList, StrMap.get]

/-- A stream that changes changes the template. -/
theorem rotationSeen_of_stream {names : List String} {s s' : SecretState}
    (h : Rotated names s s' → stateStream names s ≠ stateStream names s') :
    RotationSeen names s s' := by
  refine ⟨h, fun hrot r app version t t' hash hash' hrefs ht hs ht' hs' hdigest htemplate => ?_⟩
  subst hrefs
  have hsome : secretRefs app ≠ [] := by
    obtain ⟨name, hname, -⟩ := hrot
    exact List.ne_nil_of_mem hname
  have hne : hash ≠ hash' := by
    rw [configHash_stream hs ht hsome, configHash_stream hs' ht' hsome]
    exact fun heq => h hrot (hdigest heq)
  have hhash : r.lib.templateHash (buildPodTemplate app hash version) ≠
      r.lib.templateHash (buildPodTemplate app hash' version) :=
    fun heq => hne (by
      rw [← configHash_buildPodTemplate app hash version, htemplate heq,
        configHash_buildPodTemplate])
  unfold templateChanged
  rw [desiredFleet_hashed, desiredFleet_hashed]
  simpa using hhash

/-! ## §4. Plain Secrets. -/

section bytes

theorem toList_loop_eq (b : ByteArray) (i : Nat) (acc : List UInt8) :
    ByteArray.toList.loop b i acc = acc.reverse ++ b.data.toList.drop i := by
  induction i, acc using ByteArray.toList.loop.induct b with
  | case1 i acc hlt ih =>
    have hlen : i < b.data.toList.length := by simpa using hlt
    have hget : b.get! i = b.data.toList[i] := by
      rw [Array.getElem_toList]
      exact getElem!_pos b.data i hlt
    rw [ByteArray.toList.loop, if_pos hlt, ih, List.drop_eq_getElem_cons hlen, hget]
    simp
  | case2 i acc hge =>
    have hlen : b.data.toList.length ≤ i := by simpa using hge
    rw [ByteArray.toList.loop, if_neg hge, List.drop_eq_nil_of_le hlen, List.append_nil]

theorem bytes_eq_data (s : String) : bytes s = s.toByteArray.data.toList := by
  unfold bytes String.toUTF8 ByteArray.toList
  rw [toList_loop_eq]
  simp

theorem bytes_injective : Function.Injective bytes := by
  intro s s' h
  rw [bytes_eq_data, bytes_eq_data] at h
  exact String.toByteArray_inj.mp (ByteArray.ext (Array.toList_inj.mp h))

/-- The bytes of a string, character by character. -/
theorem bytes_eq_flatMap (s : String) : bytes s = s.toList.flatMap String.utf8EncodeChar := by
  have hencoded : s.toByteArray = s.toList.utf8Encode := by
    conv_lhs => rw [← String.ofList_toList (s := s)]
    exact String.toByteArray_ofList
  rw [bytes_eq_data, hencoded]
  simp [List.utf8Encode]

/-- An ASCII character besides NUL is not encoded with a zero byte. -/
theorem zero_not_mem_encode {c : Char} (hpos : 0 < c.toNat) (hascii : c.toNat ≤ 127) :
    0 ∉ String.utf8EncodeChar c := by
  have hone : String.utf8EncodeChar c = [UInt8.ofNat c.toNat] := if_pos hascii
  rw [hone, List.mem_singleton]
  intro hzero
  have hnat : 0 = c.toNat % 2 ^ 8 := (congrArg UInt8.toNat hzero).trans UInt8.toNat_ofNat'
  omega

/-- A key has no zero byte. -/
theorem ValidKey.zero_not_mem {key : String} (h : ValidKey key) : 0 ∉ bytes key := by
  rw [bytes_eq_flatMap]
  intro hmem
  obtain ⟨c, hc, hzero⟩ := List.mem_flatMap.mp hmem
  have hascii : 0 < c.toNat ∧ c.toNat ≤ 127 := by
    rcases h.2 c hc with halnum | rfl | rfl | rfl
    · have hval : c.toNat = c.val.toNat := rfl
      delta Char.isAlphanum Char.isAlpha Char.isUpper Char.isLower Char.isDigit at halnum
      simp [UInt32.le_iff_toNat_le] at halnum
      omega
    all_goals decide
  exact zero_not_mem_encode hascii.1 hascii.2 hzero

end bytes

/-- The parts of one reference, two by two. -/
def secretPairs (name : String) : Option SecretData → List (List UInt8 × List UInt8)
  | none => [(bytes "missing", bytes name)]
  | some data => (bytes "secret", bytes name) :: data.entries.map fun e => (bytes e.1, e.2)

def statePairs (names : List String) (s : SecretState) : List (List UInt8 × List UInt8) :=
  names.flatMap fun name => secretPairs name (s name)

/-- A list of pairs, flattened. -/
def unpaired (pairs : List (List UInt8 × List UInt8)) : List (List UInt8) :=
  pairs.flatMap fun p => [p.1, p.2]

theorem unpaired_injective : Function.Injective unpaired := by
  intro ps
  induction ps with
  | nil =>
    intro qs h
    cases qs with
    | nil => rfl
    | cons q qs => cases h
  | cons p ps ih =>
    intro qs h
    cases qs with
    | nil => cases h
    | cons q qs =>
      have hcons : p.1 :: p.2 :: unpaired ps = q.1 :: q.2 :: unpaired qs := h
      injection hcons with hfst hrest
      injection hrest with hsnd hrest
      rw [Prod.ext hfst hsnd, ih hrest]

theorem stateParts_eq (names : List String) (s : SecretState) :
    stateParts names s = unpaired (statePairs names s) := by
  unfold stateParts statePairs unpaired
  rw [List.flatMap_assoc]
  congr 1
  funext name
  cases s name with
  | none => rfl
  | some data => simp [secretParts, secretPairs, List.flatMap_map]

/-- The entry reads like the header of this reference. -/
def LikeHeader (name : String) (e : String × List UInt8) : Prop :=
  (e.1 = "secret" ∨ e.1 = "missing") ∧ e.2 = bytes name

/-- **A plain state**: no name and no value has a zero byte, and no entry reads like the header of
the next reference. -/
structure Plain (names : List String) (s : SecretState) : Prop where
  refs : ∀ name ∈ names, 0 ∉ bytes name
  values : ∀ name ∈ names, ∀ data, s name = some data → ∀ e ∈ data.entries, 0 ∉ e.2
  headers : names.IsChain fun name next =>
    ∀ data, s name = some data → ∀ e ∈ data.entries, ¬ LikeHeader next e

theorem Plain.tail {name : String} {names : List String} {s : SecretState}
    (h : Plain (name :: names) s) : Plain names s where
  refs n hn := h.refs n (.tail _ hn)
  values n hn := h.values n (.tail _ hn)
  headers := h.headers.tail

/-- The first pair is a header. -/
theorem statePairs_head {next : String} {names : List String} {s : SecretState}
    {p : List UInt8 × List UInt8} {rest : List (List UInt8 × List UInt8)}
    (h : statePairs (next :: names) s = p :: rest) :
    (p.1 = bytes "secret" ∨ p.1 = bytes "missing") ∧ p.2 = bytes next := by
  unfold statePairs at h
  rw [List.flatMap_cons] at h
  cases hs : s next with
  | none =>
    rw [hs] at h
    cases h
    exact ⟨.inr rfl, rfl⟩
  | some data =>
    rw [hs] at h
    cases h
    exact ⟨.inl rfl, rfl⟩

/-- No entry of a plain Secret is taken for the header of the next one. -/
theorem Plain.prefix_eq {name : String} {names : List String} {s s' : SecretState}
    (h : Plain (name :: names) s) {data : SecretData} (hdata : s name = some data)
    {xs ys : List (List UInt8 × List UInt8)}
    (hentries : data.entries.map (fun e => (bytes e.1, e.2)) = xs ++ ys)
    (hrest : statePairs names s' = ys ++ statePairs names s) : ys = [] := by
  cases ys with
  | nil => rfl
  | cons p ys =>
    exfalso
    cases names with
    | nil => cases hrest
    | cons next names =>
      obtain ⟨hmarker, hname⟩ := statePairs_head hrest
      have hmem : p ∈ data.entries.map fun e => (bytes e.1, e.2) := by
        rw [hentries]
        exact List.mem_append_right _ (.head _)
      obtain ⟨e, he, rfl⟩ := List.mem_map.mp hmem
      have hchain := (List.isChain_cons_cons.mp h.headers).1
      refine hchain data hdata e he ⟨?_, hname⟩
      exact hmarker.imp (fun h => bytes_injective h) fun h => bytes_injective h

theorem entries_of_pairs {data data' : SecretData}
    (h : data.entries.map (fun e => (bytes e.1, e.2)) =
      data'.entries.map fun e => (bytes e.1, e.2)) : data = data' := by
  have hinjective : Function.Injective fun e : String × List UInt8 => (bytes e.1, e.2) := by
    intro e e' heq
    obtain ⟨hkey, hvalue⟩ := Prod.mk.inj heq
    exact Prod.ext (bytes_injective hkey) hvalue
  exact SecretData.ext (List.map_injective_iff.mpr hinjective h)

/-- The pairs of a plain state determine it. -/
theorem Plain.eq_of_pairs {names : List String} {s s' : SecretState} :
    Plain names s → Plain names s' → statePairs names s = statePairs names s' →
      ∀ name ∈ names, s name = s' name := by
  induction names with
  | nil => exact fun _ _ _ name hname => absurd hname List.not_mem_nil
  | cons name names ih =>
    intro hs hs' h
    have hmarkers : bytes "missing" ≠ bytes "secret" :=
      fun heq => absurd (bytes_injective heq) (by decide)
    have hsplit : secretPairs name (s name) ++ statePairs names s =
        secretPairs name (s' name) ++ statePairs names s' := h
    -- the first reference is the same in both, and so is what follows
    have hboth : s name = s' name ∧ statePairs names s = statePairs names s' := by
      cases hn : s name with
      | none =>
        cases hn' : s' name with
        | none =>
          rw [hn, hn'] at hsplit
          exact ⟨rfl, List.append_cancel_left hsplit⟩
        | some data' =>
          rw [hn, hn'] at hsplit
          injection hsplit with hhead _
          exact absurd (Prod.mk.inj hhead).1 hmarkers
      | some data =>
        cases hn' : s' name with
        | none =>
          rw [hn, hn'] at hsplit
          injection hsplit with hhead _
          exact absurd (Prod.mk.inj hhead).1.symm hmarkers
        | some data' =>
          rw [hn, hn'] at hsplit
          injection hsplit with _ hentries
          rcases List.append_eq_append_iff.mp hentries with
            ⟨ys, hdata', hrest⟩ | ⟨ys, hdata, hrest⟩
          · have hnil := hs'.prefix_eq hn' hdata' hrest
            subst hnil
            rw [List.append_nil] at hdata'
            exact ⟨congrArg some (entries_of_pairs hdata'.symm), hrest⟩
          · have hnil := hs.prefix_eq hn hdata hrest
            subst hnil
            rw [List.append_nil] at hdata
            exact ⟨congrArg some (entries_of_pairs hdata), hrest.symm⟩
    intro n hmem
    rcases List.mem_cons.mp hmem with rfl | hmem
    · exact hboth.1
    · exact ih hs.tail hs'.tail hboth.2 n hmem

/-- The parts of a plain state have no zero byte. -/
theorem Plain.spelled_eq {names : List String} {s : SecretState} (h : Plain names s) :
    spelled names s = stateParts names s := by
  have hmarkers : 0 ∉ bytes "missing" ∧ 0 ∉ bytes "secret" :=
    ⟨ValidKey.zero_not_mem (by decide), ValidKey.zero_not_mem (by decide)⟩
  have hzero : ∀ p ∈ stateParts names s, (0 : UInt8) ∉ p := by
    intro p hp
    obtain ⟨name, hname, hp⟩ := List.mem_flatMap.mp hp
    cases hs : s name with
    | none =>
      rw [hs] at hp
      simp only [secretParts, List.mem_cons, List.not_mem_nil, or_false] at hp
      rcases hp with rfl | rfl
      · exact hmarkers.1
      · exact h.refs name hname
    | some data =>
      rw [hs] at hp
      simp only [secretParts, List.mem_append, List.mem_cons, List.not_mem_nil, or_false,
        List.mem_flatMap] at hp
      rcases hp with (rfl | rfl) | ⟨e, he, rfl | rfl⟩
      · exact hmarkers.2
      · exact h.refs name hname
      · exact (data.valid e he).zero_not_mem
      · exact h.values name hname data hs e he
  have hsplit : ∀ parts : List (List UInt8), (∀ p ∈ parts, (0 : UInt8) ∉ p) →
      spelledParts parts = parts := by
    intro parts
    induction parts with
    | nil => exact fun _ => rfl
    | cons p ps ih =>
      intro hp
      have hrest := ih fun q hq => hp q (.tail _ hq)
      unfold spelledParts at hrest ⊢
      rw [List.flatMap_cons, List.splitOn_eq_singleton (hp p (.head _)), hrest]
      rfl
  exact hsplit _ hzero

/-- **Plain Secrets**: every rotation between plain states is seen. -/
theorem rotation_seen_of_plain (names : List String) (s s' : SecretState) (h : Plain names s)
    (h' : Plain names s') : RotationSeen names s s' := by
  refine rotationSeen_of_stream fun ⟨name, hname, hne⟩ heq => hne ?_
  have hspelled : spelled names s = spelled names s' := (digestParts_eq_iff _ _).mp heq
  rw [h.spelled_eq, h'.spelled_eq, stateParts_eq, stateParts_eq] at hspelled
  exact h.eq_of_pairs h' (unpaired_injective hspelled) name hname

/-! ## §5. Rotations that are seen, and that are not. -/

/-- Two settings. -/
def splitData : SecretData where
  entries := [("a", [120]), ("b", [121])]
  sorted := by decide
  valid := by decide

/-- One setting, whose value spells the other. -/
def joinedData : SecretData where
  entries := [("a", 120 :: 0 :: (bytes "b" ++ [0, 121]))]
  sorted := by simp
  valid := by simp; decide

/-- No settings. -/
def noData : SecretData := ⟨[], by simp, by simp⟩

/-- One setting that reads like the header of the Secret `cloud`. -/
def headerData : SecretData where
  entries := [("secret", bytes "cloud")]
  sorted := by simp
  valid := by simp; decide

/-- A WorkerApp that references both Secrets. -/
def secretApp : WorkerApp :=
  let app := sampleApp "ghcr.io/denoland/celld:v0.5.1" .rolling
  { app with spec := { app.spec with
      vars := some { secretRef := "env" }
      bucket := { app.spec.bucket with credentialsFrom := { secretRef := "cloud" } } } }

/-- The Secrets `env` and `cloud`. -/
def secretsWith (env cloud : SecretData) : SecretState := fun name =>
  if name = "env" then some env else if name = "cloud" then some cloud else none

/-- Settings without zero bytes or marker keys make a plain state. -/
theorem plain_secretsWith {data : SecretData} (hvalues : ∀ e ∈ data.entries, 0 ∉ e.2)
    (hkeys : ∀ e ∈ data.entries, e.1 ≠ "secret" ∧ e.1 ≠ "missing") :
    Plain ["env", "cloud"] (secretsWith data noData) where
  refs := by
    intro name hname
    simp only [List.mem_cons, List.not_mem_nil, or_false] at hname
    rcases hname with rfl | rfl
    · exact ValidKey.zero_not_mem (by decide)
    · exact ValidKey.zero_not_mem (by decide)
  values := by
    intro name hname d hd e he
    simp only [List.mem_cons, List.not_mem_nil, or_false] at hname
    rcases hname with rfl | rfl
    · cases hd
      exact hvalues e he
    · cases hd
      cases he
  headers := by
    refine List.isChain_cons_cons.mpr ⟨fun d hd e he hlike => ?_, List.isChain_singleton _⟩
    cases hd
    exact hlike.1.elim (hkeys e he).1 (hkeys e he).2

/-- Two settings are dropped. -/
theorem rotation_seen_dropped :
    Rotated ["env", "cloud"] (secretsWith splitData noData) (secretsWith noData noData) ∧
      Plain ["env", "cloud"] (secretsWith splitData noData) ∧
      Plain ["env", "cloud"] (secretsWith noData noData) ∧
      RotationSeen ["env", "cloud"] (secretsWith splitData noData) (secretsWith noData noData) := by
  have hlengths : splitData.entries.length ≠ noData.entries.length := by decide
  have hsplit : Plain ["env", "cloud"] (secretsWith splitData noData) :=
    plain_secretsWith (by decide) (by decide)
  have hnone : Plain ["env", "cloud"] (secretsWith noData noData) :=
    plain_secretsWith (by decide) (by decide)
  refine ⟨⟨"env", .head _, fun h => ?_⟩, hsplit, hnone, rotation_seen_of_plain _ _ _ hsplit hnone⟩
  exact hlengths (congrArg (fun d => d.entries.length) (Option.some.inj h))

/-- **Rotations that are not seen**: a setting moves into the value of the one before it; and, with
no zero byte in any value, a setting moves from one Secret to the other. -/
theorem rotation_unseen :
    secretRefs secretApp = ["env", "cloud"] ∧
    (Rotated ["env", "cloud"] (secretsWith splitData noData) (secretsWith joinedData noData) ∧
      stateStream ["env", "cloud"] (secretsWith splitData noData) =
        stateStream ["env", "cloud"] (secretsWith joinedData noData)) ∧
    (Rotated ["env", "cloud"] (secretsWith headerData noData) (secretsWith noData headerData) ∧
      stateStream ["env", "cloud"] (secretsWith headerData noData) =
        stateStream ["env", "cloud"] (secretsWith noData headerData) ∧
      0 ∉ bytes "cloud") ∧
    ¬ RotationSeen ["env", "cloud"] (secretsWith splitData noData)
      (secretsWith joinedData noData) := by
  have hlengths : splitData.entries.length ≠ joinedData.entries.length := by decide
  have hrotated : Rotated ["env", "cloud"] (secretsWith splitData noData)
      (secretsWith joinedData noData) :=
    ⟨"env", .head _, fun h => hlengths (congrArg (fun d => d.entries.length) (Option.some.inj h))⟩
  have hlengths' : headerData.entries.length ≠ noData.entries.length := by decide
  have hrotated' : Rotated ["env", "cloud"] (secretsWith headerData noData)
      (secretsWith noData headerData) :=
    ⟨"env", .head _, fun h => hlengths' (congrArg (fun d => d.entries.length) (Option.some.inj h))⟩
  have hsame : stateStream ["env", "cloud"] (secretsWith splitData noData) =
      stateStream ["env", "cloud"] (secretsWith joinedData noData) := by
    simp [stateStream, stateParts, secretParts, secretsWith, splitData, joinedData, digestParts]
  have hsame' : stateStream ["env", "cloud"] (secretsWith headerData noData) =
      stateStream ["env", "cloud"] (secretsWith noData headerData) := by
    simp [stateStream, stateParts, secretParts, secretsWith, noData, headerData, digestParts]
  exact ⟨by decide, ⟨hrotated, hsame⟩, ⟨hrotated', hsame',
    ValidKey.zero_not_mem (by decide)⟩, fun h => h.stream hrotated hsame⟩

end CelldOperator
