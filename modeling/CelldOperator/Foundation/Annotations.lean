/-
  CelldOperator.Foundation.Annotations

  **MANAGED AND FOREIGN ANNOTATIONS OVER A HISTORY OF CALLS.**

  `reconcileAnnotations` remembers which keys are the operator's in one place only:
  a JSON list stored among the annotations themselves.  A history is a list of
  rounds; in each one foreign controllers edit the object and then the operator
  calls `reconcileAnnotations`.

    • `Accounted`            — a key the next call can get rid of: it is absent, or
      the inventory lists it.  Every key that was ever desired stays accounted for
      (`accounted_runRounds`), so it is gone once it is not desired (`absent_of_accounted`),
    • `lookup_runRounds_foreign` — a key that is never desired and that the inventory
      the object starts with does not list keeps its foreign history,
    • `annotations_converge` — what holds after the last call of any history.

  The inventory the object starts with matters: a key it lists is taken for the
  operator's and deleted, whoever wrote its value (`inherited_key_deleted`).
-/
import CelldOperator.Foundation.Steady

namespace CelldOperator

/-! ## §1. Histories. -/

/-- A write of one annotation by somebody else: a value, or a removal. -/
structure ForeignEdit where
  key : String
  value : Option String

/-- The annotations after the write. -/
def ForeignEdit.apply (m : StrMap) (e : ForeignEdit) : StrMap :=
  match e.value with
  | some value => m.insert e.key value
  | none => m.erase e.key

/-- Foreign edits, then a call with a desired map. -/
structure Round where
  edits : List ForeignEdit
  desired : StrMap

/-- The annotations after the edits of a round. -/
def Round.edited (m : StrMap) (rd : Round) : StrMap := rd.edits.foldl ForeignEdit.apply m

/-- The annotations after a round. -/
def Round.run (lib : Lib) (k : Kind) (m : StrMap) (rd : Round) : StrMap :=
  reconcileAnnotations lib k (rd.edited m) rd.desired

/-- The annotations after a history. -/
def runRounds (lib : Lib) (k : Kind) (m : StrMap) (rounds : List Round) : StrMap :=
  rounds.foldl (Round.run lib k) m

/-- The annotations the foreign edits of a history leave, were there no operator. -/
def foreignRun (m : StrMap) (rounds : List Round) : StrMap := rounds.foldl Round.edited m

/-- No foreign edit of the history touches the key. -/
def KeepsOff (rounds : List Round) (key : String) : Prop :=
  ∀ rd ∈ rounds, ∀ e ∈ rd.edits, e.key ≠ key

/-- The keys an inventory annotation names. -/
def listedKeys (lib : Lib) (m : StrMap) : List String :=
  lib.unmarshalKeys (m.get managedAnnotationsKey)

/-- `json.Unmarshal` gives back what `json.Marshal` was given. -/
def RoundTrips (lib : Lib) : Prop := ∀ keys, lib.unmarshalKeys (lib.marshalKeys keys) = keys

theorem RoundTrips.readsBack {lib : Lib} (h : RoundTrips lib) : ReadsBack lib := by
  intro keys key hkey
  rwa [h keys] at hkey

/-! ## §2. One edit, one call. -/

theorem lookup_apply (m : StrMap) (e : ForeignEdit) (key : String) :
    (e.apply m).lookup key = if e.key = key then e.value else m.lookup key := by
  obtain ⟨k, value⟩ := e
  by_cases hkey : k = key
  · subst hkey
    rw [if_pos rfl]
    cases value with
    | some value => exact Finmap.lookup_insert m
    | none => exact Finmap.lookup_erase k m
  · rw [if_neg hkey]
    cases value with
    | some value => exact Finmap.lookup_insert_of_ne m (Ne.symm hkey)
    | none => exact Finmap.lookup_erase_ne (Ne.symm hkey)

/-- What a round's edits make of a key depends on that key alone. -/
theorem lookup_edited_congr {m m' : StrMap} {key : String} (rd : Round)
    (h : m.lookup key = m'.lookup key) :
    (rd.edited m).lookup key = (rd.edited m').lookup key := by
  unfold Round.edited
  generalize rd.edits = edits
  induction edits generalizing m m' with
  | nil => exact h
  | cons e edits ih =>
    rw [List.foldl_cons, List.foldl_cons]
    apply ih
    rw [lookup_apply, lookup_apply, h]

theorem lookup_edited_of_untouched (m : StrMap) {key : String} {rd : Round}
    (h : ∀ e ∈ rd.edits, e.key ≠ key) : (rd.edited m).lookup key = m.lookup key := by
  unfold Round.edited
  generalize rd.edits = edits at h
  induction edits generalizing m with
  | nil => rfl
  | cons e edits ih =>
    rw [List.foldl_cons, ih _ fun e' he' => h e' (List.mem_cons_of_mem e he'), lookup_apply,
      if_neg (h e (List.mem_cons_self ..))]

/-- Edits that leave the inventory key alone leave the inventory alone. -/
theorem listedKeys_edited (lib : Lib) (m : StrMap) {rd : Round}
    (h : ∀ e ∈ rd.edits, e.key ≠ managedAnnotationsKey) :
    listedKeys lib (rd.edited m) = listedKeys lib m := by
  unfold listedKeys StrMap.get
  rw [lookup_edited_of_untouched m h]

/-- The inventory after a call: the desired keys, sorted. -/
theorem listedKeys_run {lib : Lib} (hlib : RoundTrips lib) (k : Kind) (m : StrMap) (rd : Round) :
    listedKeys lib (rd.run lib k m) =
      (rd.desired.erase managedAnnotationsKey).keys.sort (· ≤ ·) := by
  unfold listedKeys Round.run
  rw [get_reconcileAnnotations, hlib]

theorem mem_listedKeys_run {lib : Lib} (hlib : RoundTrips lib) {k : Kind} {m : StrMap} {rd : Round}
    {key : String} (hkey : key ≠ managedAnnotationsKey) :
    key ∈ listedKeys lib (rd.run lib k m) ↔ key ∈ rd.desired := by
  rw [listedKeys_run hlib, Finset.mem_sort, Finmap.mem_keys, Finmap.mem_erase]
  exact ⟨fun h => h.2, fun h => ⟨hkey, h⟩⟩

section Step

variable {lib : Lib} {k : Kind} {m : StrMap} {rd : Round} {key : String}

/-- What a call makes of a key besides the inventory. -/
theorem lookup_run (hkey : key ≠ managedAnnotationsKey) :
    (rd.run lib k m).lookup key = (rd.desired.lookup key).or
      (if key ∈ inventory lib k (rd.edited m) then none else (rd.edited m).lookup key) := by
  unfold Round.run
  rw [lookup_reconcileAnnotations, if_neg hkey, Finmap.lookup_erase_ne hkey]

/-- A desired key has the desired value. -/
theorem lookup_run_desired (hkey : key ≠ managedAnnotationsKey) {value : String}
    (h : rd.desired.lookup key = some value) : (rd.run lib k m).lookup key = some value := by
  rw [lookup_run hkey, h]
  rfl

/-- A key of the inventory, or a legacy key of an Ingress, is gone when it is not desired. -/
theorem lookup_run_listed (hkey : key ≠ managedAnnotationsKey) (h : key ∉ rd.desired)
    (hlisted : key ∈ inventory lib k (rd.edited m)) : (rd.run lib k m).lookup key = none := by
  rw [lookup_run hkey, Finmap.lookup_eq_none.mpr h, if_pos hlisted]
  rfl

/-- Any other key is left alone. -/
theorem lookup_run_kept (hkey : key ≠ managedAnnotationsKey) (h : key ∉ rd.desired)
    (hlisted : key ∉ inventory lib k (rd.edited m)) :
    (rd.run lib k m).lookup key = (rd.edited m).lookup key := by
  rw [lookup_run hkey, Finmap.lookup_eq_none.mpr h, if_neg hlisted]
  rfl

end Step

/-! ## §3. Keys of the operator. -/

/-- **A key the next call can get rid of.** -/
def Accounted (lib : Lib) (m : StrMap) (key : String) : Prop :=
  m.lookup key = none ∨ key ∈ listedKeys lib m

section Accounting

variable {lib : Lib} (hlib : RoundTrips lib) {k : Kind} {key : String}
include hlib

/-- A call that desires the key lists it. -/
theorem accounted_of_desired {m : StrMap} {rd : Round} (hkey : key ≠ managedAnnotationsKey)
    (h : key ∈ rd.desired) : Accounted lib (rd.run lib k m) key :=
  .inr ((mem_listedKeys_run hlib hkey).mpr h)

omit hlib in
/-- An accounted key that is not desired is absent after the call. -/
theorem absent_of_accounted {m : StrMap} {rd : Round} (hkey : key ≠ managedAnnotationsKey)
    (h : Accounted lib m key)
    (hedits : ∀ e ∈ rd.edits, e.key ≠ key ∧ e.key ≠ managedAnnotationsKey)
    (hdesired : key ∉ rd.desired) : (rd.run lib k m).lookup key = none := by
  have hlookup := lookup_edited_of_untouched m fun e he => (hedits e he).1
  have hlisted := listedKeys_edited lib m fun e he => (hedits e he).2
  by_cases hinventory : key ∈ inventory lib k (rd.edited m)
  · exact lookup_run_listed hkey hdesired hinventory
  · rw [lookup_run_kept hkey hdesired hinventory, hlookup]
    refine h.resolve_right fun hmem => hinventory ?_
    rw [← hlisted] at hmem
    exact List.mem_append.mpr (.inl hmem)

/-- **A round keeps a key accounted for.** -/
theorem accounted_run {m : StrMap} {rd : Round} (hkey : key ≠ managedAnnotationsKey)
    (h : Accounted lib m key)
    (hedits : ∀ e ∈ rd.edits, e.key ≠ key ∧ e.key ≠ managedAnnotationsKey) :
    Accounted lib (rd.run lib k m) key := by
  by_cases hdesired : key ∈ rd.desired
  · exact accounted_of_desired hlib hkey hdesired
  · exact .inl (absent_of_accounted hkey h hedits hdesired)

/-- … and so does a history. -/
theorem accounted_runRounds (hkey : key ≠ managedAnnotationsKey) (rounds : List Round)
    {m : StrMap} (h : Accounted lib m key)
    (hedits : ∀ rd ∈ rounds, ∀ e ∈ rd.edits, e.key ≠ key ∧ e.key ≠ managedAnnotationsKey) :
    Accounted lib (runRounds lib k m rounds) key := by
  induction rounds generalizing m with
  | nil => exact h
  | cons rd rounds ih =>
    have hhead := hedits rd (List.mem_cons_self ..)
    exact ih (accounted_run hlib hkey h hhead)
      fun rd' hrd' => hedits rd' (List.mem_cons_of_mem rd hrd')

/-- A key that was desired at some point of the history is accounted for ever after. -/
theorem accounted_of_mem (hkey : key ≠ managedAnnotationsKey) {rounds : List Round} {m : StrMap}
    {rd : Round} (hrd : rd ∈ rounds) (hdesired : key ∈ rd.desired)
    (hedits : ∀ rd ∈ rounds, ∀ e ∈ rd.edits, e.key ≠ key ∧ e.key ≠ managedAnnotationsKey) :
    Accounted lib (runRounds lib k m rounds) key := by
  obtain ⟨before, after, rfl⟩ := List.append_of_mem hrd
  unfold runRounds
  rw [List.foldl_append, List.foldl_cons]
  refine accounted_runRounds hlib hkey after (accounted_of_desired hlib hkey hdesired) ?_
  intro rd' hrd'
  exact hedits rd' (List.mem_append.mpr (.inr (List.mem_cons_of_mem rd hrd')))

/-! ## §4. Keys of others. -/

/-- **A key that is not the operator's keeps its foreign history**: never desired, not listed at
the start, and no legacy key of an Ingress. -/
theorem lookup_runRounds_foreign (hkey : key ≠ managedAnnotationsKey)
    (hlegacy : k = .ingress → key ∉ legacyIngressKeys) (rounds : List Round) {m m' : StrMap}
    (hlisted : key ∉ listedKeys lib m) (hm : m.lookup key = m'.lookup key)
    (hdesired : ∀ rd ∈ rounds, key ∉ rd.desired)
    (hedits : KeepsOff rounds managedAnnotationsKey) :
    (runRounds lib k m rounds).lookup key = (foreignRun m' rounds).lookup key := by
  induction rounds generalizing m m' with
  | nil => exact hm
  | cons rd rounds ih =>
    have hedited := listedKeys_edited lib m (hedits rd (List.mem_cons_self ..))
    have hrd := hdesired rd (List.mem_cons_self ..)
    -- the call does not touch the key, and its inventory does not list it either
    have hout : key ∉ inventory lib k (rd.edited m) := by
      intro hmem
      rcases List.mem_append.mp hmem with hmem | hmem
      · have hlisted' : key ∈ listedKeys lib (rd.edited m) := hmem
        rw [hedited] at hlisted'
        exact hlisted hlisted'
      · split at hmem
        · next hk => exact hlegacy hk hmem
        · cases hmem
    have hkept : (rd.run lib k m).lookup key = (rd.edited m').lookup key := by
      rw [lookup_run_kept hkey hrd hout, lookup_edited_congr rd hm]
    exact ih (fun hmem => hrd ((mem_listedKeys_run hlib hkey).mp hmem)) hkept
      (fun rd' hrd' => hdesired rd' (List.mem_cons_of_mem rd hrd'))
      fun rd' hrd' => hedits rd' (List.mem_cons_of_mem rd hrd')

end Accounting

/-! ## §5. After the last call. -/

/-- **Managed annotations converge and foreign ones survive.**  A history of any length ends with
the call for `last`; foreign edits keep off the inventory key and off every key that is ever
desired.  Foreign keys survive unless the inventory the object starts with lists them. -/
theorem annotations_converge {lib : Lib} (hlib : RoundTrips lib) (k : Kind) (m : StrMap)
    (rounds : List Round) (last : Round)
    (hinventory : KeepsOff (rounds ++ [last]) managedAnnotationsKey)
    (hdesired : ∀ rd ∈ rounds ++ [last], ∀ key ∈ rd.desired, key ≠ managedAnnotationsKey →
      KeepsOff (rounds ++ [last]) key) :
    (∀ key value, key ≠ managedAnnotationsKey → last.desired.lookup key = some value →
      (runRounds lib k m (rounds ++ [last])).lookup key = some value) ∧
    (∀ rd ∈ rounds, ∀ key ∈ rd.desired, key ≠ managedAnnotationsKey → key ∉ last.desired →
      (runRounds lib k m (rounds ++ [last])).lookup key = none) ∧
    (∀ key, key ≠ managedAnnotationsKey → (∀ rd ∈ rounds ++ [last], key ∉ rd.desired) →
      key ∉ listedKeys lib m → (k = .ingress → key ∉ legacyIngressKeys) →
      (runRounds lib k m (rounds ++ [last])).lookup key =
        (foreignRun m (rounds ++ [last])).lookup key) ∧
    listedKeys lib (runRounds lib k m (rounds ++ [last])) =
      (last.desired.erase managedAnnotationsKey).keys.sort (· ≤ ·) ∧
    reconcileAnnotations lib k (runRounds lib k m (rounds ++ [last])) last.desired =
      runRounds lib k m (rounds ++ [last]) ∧
    (k = .ingress → ∀ key ∈ legacyIngressKeys, key ∉ last.desired →
      (runRounds lib k m (rounds ++ [last])).lookup key = none) := by
  -- the last call works on what the rounds before it left
  have hlast : runRounds lib k m (rounds ++ [last]) = last.run lib k (runRounds lib k m rounds) := by
    unfold runRounds
    rw [List.foldl_append, List.foldl_cons, List.foldl_nil]
  have hmem : last ∈ rounds ++ [last] := List.mem_append.mpr (.inr (List.mem_singleton_self last))
  refine ⟨?_, ?_, ?_, ?_, ?_, ?_⟩
  · intro key value hkey hvalue
    rw [hlast]
    exact lookup_run_desired hkey hvalue
  · intro rd hrd key hmemKey hkey hgone
    have huntouched := hdesired rd (List.mem_append.mpr (.inl hrd)) key hmemKey hkey
    have hoff : ∀ rd' ∈ rounds ++ [last], ∀ e ∈ rd'.edits,
        e.key ≠ key ∧ e.key ≠ managedAnnotationsKey :=
      fun rd' hrd' e he => ⟨huntouched rd' hrd' e he, hinventory rd' hrd' e he⟩
    rw [hlast]
    refine absent_of_accounted hkey ?_ (hoff last hmem) hgone
    exact accounted_of_mem hlib hkey hrd hmemKey
      fun rd' hrd' => hoff rd' (List.mem_append.mpr (.inl hrd'))
  · intro key hkey hnever hlisted hlegacy
    exact lookup_runRounds_foreign hlib hkey hlegacy _ hlisted rfl hnever hinventory
  · rw [hlast]
    exact listedKeys_run hlib k _ last
  · rw [hlast]
    exact reconcileAnnotations_idem hlib.readsBack k _ last.desired
  · intro hk key hlegacy hgone
    have hkey : key ≠ managedAnnotationsKey := by
      rintro rfl
      exact absurd hlegacy (by decide)
    rw [hlast]
    refine lookup_run_listed hkey hgone (List.mem_append.mpr (.inr ?_))
    rw [if_pos hk]
    exact hlegacy

/-! ## §6. An inventory in JSON. -/

/-- The characters of a JSON string behind its opening quote. -/
def quoteKey : List Char → List Char
  | [] => ['"']
  | c :: cs => if c = '"' ∨ c = '\\' then '\\' :: c :: quoteKey cs else c :: quoteKey cs

/-- The items of a JSON array of strings, separated by commas. -/
def quoteKeys : List String → List Char
  | [] => [']']
  | [key] => '"' :: quoteKey key.toList ++ [']']
  | key :: keys => '"' :: quoteKey key.toList ++ ',' :: quoteKeys keys

/-- Read the strings of a JSON array; `inside` one, `acc` holds its characters so far. -/
def readKeys : (inside : Bool) → (acc : List Char) → List Char → List String
  | _, _, [] => []
  | false, _, c :: cs => if c = '"' then readKeys true [] cs else readKeys false [] cs
  | true, acc, '\\' :: c :: cs => readKeys true (c :: acc) cs
  | true, acc, c :: cs =>
    if c = '"' then String.ofList acc.reverse :: readKeys false [] cs
    else readKeys true (c :: acc) cs

/-- Reading stops at the quote that closes a string. -/
theorem readKeys_quoteKey (cs acc rest : List Char) :
    readKeys true acc (quoteKey cs ++ rest) =
      String.ofList (acc.reverse ++ cs) :: readKeys false [] rest := by
  induction cs generalizing acc with
  | nil => simp [quoteKey, readKeys]
  | cons c cs ih =>
    by_cases hc : c = '"' ∨ c = '\\'
    · rw [quoteKey, if_pos hc, List.cons_append, List.cons_append, readKeys, ih]
      simp
    · obtain ⟨hquote, hslash⟩ := not_or.mp hc
      rw [quoteKey, if_neg hc, List.cons_append, readKeys, if_neg hquote, ih]
      · simp
      · intro c' cs' heq
        exact absurd heq hslash

theorem readKeys_quoteKeys (keys : List String) : readKeys false [] (quoteKeys keys) = keys := by
  induction keys with
  | nil => simp [quoteKeys, readKeys]
  | cons key keys ih =>
    cases keys with
    | nil =>
      rw [quoteKeys, List.cons_append, readKeys, if_pos rfl, readKeys_quoteKey]
      simp [readKeys]
    | cons key' keys =>
      rw [quoteKeys, List.cons_append, readKeys, if_pos rfl, readKeys_quoteKey, readKeys,
        if_neg (by decide), ih]
      · simp
      · simp

/-- A library that keeps inventories as JSON arrays. -/
def jsonLib : Lib :=
  { sampleLib with
    marshalKeys := fun keys => String.ofList ('[' :: quoteKeys keys)
    unmarshalKeys := fun text => readKeys false [] text.toList }

theorem jsonLib_roundTrips : RoundTrips jsonLib := by
  intro keys
  show readKeys false [] (String.ofList ('[' :: quoteKeys keys)).toList = keys
  rw [String.toList_ofList, readKeys, if_neg (by decide), readKeys_quoteKeys]

/-- One call for `lb/type`, a foreign edit of `cloud/id`, and a call without annotations. -/
def droppedKey : List Round :=
  [⟨[], StrMap.ofList [("lb/type", "nlb")]⟩] ++ [⟨[⟨"cloud/id", some "7"⟩], ∅⟩]

theorem droppedKey_keepsOff {key : String} (h : key ≠ "cloud/id") : KeepsOff droppedKey key := by
  intro rd hrd e he
  simp only [droppedKey, List.singleton_append, List.mem_cons, List.not_mem_nil, or_false] at hrd
  rcases hrd with rfl | rfl
  · cases he
  · rw [List.mem_singleton.mp he]
    exact Ne.symm h

/-- The key of the first call is gone, the foreign one is there. -/
theorem annotations_converge_dropped :
    (runRounds jsonLib .publicService ∅ droppedKey).lookup "lb/type" = none ∧
      (runRounds jsonLib .publicService ∅ droppedKey).lookup "cloud/id" = some "7" := by
  have hdesired : ∀ rd ∈ droppedKey, ∀ key ∈ rd.desired, key = "lb/type" := by
    intro rd hrd key hkey
    simp only [droppedKey, List.singleton_append, List.mem_cons, List.not_mem_nil, or_false] at hrd
    rcases hrd with rfl | rfl
    · exact (Finmap.mem_insert.mp hkey).resolve_right Finmap.notMem_empty
    · exact absurd hkey Finmap.notMem_empty
  have hkeeps : ∀ rd ∈ droppedKey, ∀ key ∈ rd.desired, key ≠ managedAnnotationsKey →
      KeepsOff droppedKey key := by
    intro rd hrd key hkey _
    rw [hdesired rd hrd key hkey]
    exact droppedKey_keepsOff (by decide)
  obtain ⟨-, hgone, hforeign, -⟩ := annotations_converge jsonLib_roundTrips .publicService ∅ _ _
    (droppedKey_keepsOff (by decide)) hkeeps
  refine ⟨hgone _ (List.mem_singleton_self _) "lb/type" (by decide) (by decide) (by decide), ?_⟩
  refine (hforeign "cloud/id" (by decide) ?_ (by decide +kernel) (by decide)).trans (by decide)
  intro rd hrd hmem
  exact absurd (hdesired rd hrd _ hmem) (by decide)

/-- The inventory the Service starts with lists `team`.  The key is in no desired map, its owner
sets it, and the first call deletes it. -/
theorem inherited_key_deleted :
    (runRounds jsonLib .publicService
      (StrMap.ofList [( managedAnnotationsKey, "[\"team\"]")])
      [⟨[⟨"team", some "checkout"⟩], ∅⟩]).lookup "team" = none ∧
    (foreignRun (StrMap.ofList [( managedAnnotationsKey, "[\"team\"]")])
      [⟨[⟨"team", some "checkout"⟩], ∅⟩]).lookup "team" = some "checkout" := by
  decide +kernel

end CelldOperator
