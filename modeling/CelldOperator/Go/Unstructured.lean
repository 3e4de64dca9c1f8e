/-
  CelldOperator.Go.Unstructured

  **OBJECTS WITHOUT TYPES** (`unstructured.Unstructured` of the API machinery).

  Such an object is a tree of maps, lists and scalars, and everything about it goes
  by path:

    • `setMember`, `eraseMember` — assignment to a map and deletion from it,
    • `stringMap?`, `ofStrMap` — a `map[string]string` inside the tree, read with
      nulls coerced to "" and written back (`stringMap?_ofStrMap`),
    • `Unstructured` — the accessors of metadata and spec.  What a setter leaves
      alone is said field by field (`field?_…_of_ne`, `metadata?_…_of_ne`).
-/
import CelldOperator.Go.Decode
import Mathlib.Data.Finset.Sort
import Mathlib.Data.String.Basic

namespace CelldOperator

/-! ## §1. Assigning to a map. -/

/-- `m[key] = value`; the members stay in key order. -/
def setMember (key : String) (value : Json) : List (String × Json) → List (String × Json)
  | [] => [(key, value)]
  | m :: members =>
    if m.1 = key then (key, value) :: members
    else if key < m.1 then (key, value) :: m :: members
    else m :: setMember key value members

/-- `delete(m, key)`. -/
def eraseMember (key : String) (members : List (String × Json)) : List (String × Json) :=
  members.filter fun m => m.1 != key

theorem member?_setMember_self (key : String) (value : Json) (members : List (String × Json)) :
    (Json.obj (setMember key value members)).member? key = some value := by
  induction members with
  | nil => rw [setMember, member?_cons, if_pos rfl]
  | cons m members ih =>
    unfold setMember
    split
    · rw [member?_cons, if_pos rfl]
    · next hne =>
      split
      · rw [member?_cons, if_pos rfl]
      · rw [member?_cons, if_neg hne, ih]

theorem member?_setMember_of_ne {key other : String} (h : other ≠ key) (value : Json)
    (members : List (String × Json)) :
    (Json.obj (setMember key value members)).member? other = (Json.obj members).member? other := by
  induction members with
  | nil => rw [setMember, member?_cons, if_neg (Ne.symm h)]
  | cons m members ih =>
    unfold setMember
    split
    · next heq =>
      rw [member?_cons, member?_cons, if_neg (Ne.symm h), if_neg (heq ▸ Ne.symm h)]
    · split
      · rw [member?_cons, if_neg (Ne.symm h)]
      · rw [member?_cons, member?_cons, ih]

theorem member?_eraseMember_self (key : String) (members : List (String × Json)) :
    (Json.obj (eraseMember key members)).member? key = none := by
  refine member?_eq_none fun m hm => ?_
  simpa using (List.mem_filter.mp hm).2

theorem member?_eraseMember_of_ne {key other : String} (h : other ≠ key)
    (members : List (String × Json)) :
    (Json.obj (eraseMember key members)).member? other = (Json.obj members).member? other := by
  induction members with
  | nil => rfl
  | cons m members ih =>
    unfold eraseMember at ih ⊢
    by_cases hm : m.1 = key
    · rw [List.filter_cons_of_neg (by simp [hm]), ih, member?_cons,
        if_neg fun heq => h (heq.symm.trans hm)]
    · rw [List.filter_cons_of_pos (by simp [hm]), member?_cons, member?_cons, ih]

/-! ## §2. String maps in a tree. -/

/-- `NestedNullCoercingStringMap` of a map: nil when some value is neither a string nor null. -/
def stringMap? : List (String × Json) → Option StrMap
  | [] => some ∅
  | (key, .str value) :: members => (stringMap? members).map fun m => m.insert key value
  | (key, .null) :: members => (stringMap? members).map fun m => m.insert key ""
  | _ :: _ => none

section keyOrder

-- maps are written with their keys in order
local instance keyTrans : IsTrans String (· ≤ ·) := ⟨fun _ _ _ => le_trans⟩

local instance keyAntisymm : Std.Antisymm (α := String) (· ≤ ·) := ⟨fun _ _ => le_antisymm⟩

local instance keyTotal : Std.Total (α := String) (· ≤ ·) := ⟨le_total⟩

/-- The tree of a string map. -/
def ofStrMap (m : StrMap) : List (String × Json) :=
  (m.keys.sort (· ≤ ·)).map fun key => (key, .str (m.get key))

theorem stringMap?_keys (m : StrMap) (keys : List String) :
    ∃ read, stringMap? (keys.map fun key => (key, .str (m.get key))) = some read ∧
      ∀ key, read.lookup key = if key ∈ keys then some (m.get key) else none := by
  induction keys with
  | nil => exact ⟨∅, rfl, by simp⟩
  | cons k keys ih =>
    obtain ⟨read, hread, hlookup⟩ := ih
    refine ⟨read.insert k (m.get k), ?_, fun key => ?_⟩
    · rw [List.map_cons, stringMap?, hread]
      rfl
    · by_cases hk : key = k
      · subst hk
        simp
      · rw [Finmap.lookup_insert_of_ne read hk, hlookup]
        simp [hk]

/-- **What is written is read back.** -/
theorem stringMap?_ofStrMap (m : StrMap) : stringMap? (ofStrMap m) = some m := by
  obtain ⟨read, hread, hlookup⟩ := stringMap?_keys m (m.keys.sort (· ≤ ·))
  unfold ofStrMap
  rw [hread]
  refine congrArg some (Finmap.ext_lookup fun key => ?_)
  have hsorted : key ∈ m.keys.sort (· ≤ ·) ↔ key ∈ m := by rw [Finset.mem_sort, Finmap.mem_keys]
  rw [hlookup]
  by_cases hkey : key ∈ m
  · obtain ⟨v, hv⟩ := Finmap.mem_iff.mp hkey
    rw [if_pos (hsorted.mpr hkey), StrMap.get, hv]
    rfl
  · rw [if_neg (fun h => hkey (hsorted.mp h)), Finmap.lookup_eq_none.mpr hkey]

end keyOrder

/-! ## §3. Objects. -/

/-- `unstructured.Unstructured`: the members of `Object`, in key order. -/
structure Unstructured where
  object : List (String × Json)
  deriving DecidableEq

/-- An owner reference, read off a tree. -/
structure OwnerRef where
  apiVersion : String
  kind : String
  name : String
  uid : String
  controller : Option Bool
  blockOwnerDeletion : Option Bool
  deriving DecidableEq

namespace Unstructured

/-- `u.Object[field]`. -/
def field? (u : Unstructured) (field : String) : Option Json := (Json.obj u.object).member? field

/-- The field at this path below `metadata`. -/
def metadata? (u : Unstructured) (field : String) : Option Json :=
  (u.field? "metadata").bind fun metadata => metadata.member? field

/-- `u.Object["spec"]`, nil when there is none. -/
def spec (u : Unstructured) : Json := (u.field? "spec").getD .null

/-- `u.Object["spec"] = spec`. -/
def setSpec (u : Unstructured) (spec : Json) : Unstructured := ⟨setMember "spec" spec u.object⟩

/-- `SetNestedField` below `metadata`; its error, when `metadata` is not a map, is dropped. -/
def setMetadata (u : Unstructured) (field : String) (value : Json) : Unstructured :=
  match u.field? "metadata" with
  | some (.obj members) =>
    ⟨setMember "metadata" (.obj (setMember field value members)) u.object⟩
  | some _ => u
  | none => ⟨setMember "metadata" (.obj [(field, value)]) u.object⟩

/-- `RemoveNestedField` below `metadata`. -/
def removeMetadata (u : Unstructured) (field : String) : Unstructured :=
  match u.field? "metadata" with
  | some (.obj members) => ⟨setMember "metadata" (.obj (eraseMember field members)) u.object⟩
  | _ => u

/-- A string of the tree, empty when it is not one. -/
def stringOf : Option Json → String
  | some (.str s) => s
  | _ => ""

def boolOf : Option Json → Option Bool
  | some (.bool b) => some b
  | _ => none

def getName (u : Unstructured) : String := stringOf (u.metadata? "name")

def getNamespace (u : Unstructured) : String := stringOf (u.metadata? "namespace")

def getUID (u : Unstructured) : String := stringOf (u.metadata? "uid")

def getAPIVersion (u : Unstructured) : String := stringOf (u.field? "apiVersion")

def getKind (u : Unstructured) : String := stringOf (u.field? "kind")

/-- `GetLabels` and `GetAnnotations`, by field. -/
def getStringMap (u : Unstructured) (field : String) : StrMap :=
  match u.metadata? field with
  | some (.obj members) => (stringMap? members).getD ∅
  | _ => ∅

/-- `SetLabels` and `SetAnnotations`; a nil map removes the field. -/
def setStringMap (u : Unstructured) (field : String) (m : StrMap) : Unstructured :=
  if m = ∅ then u.removeMetadata field else u.setMetadata field (.obj (ofStrMap m))

def getLabels (u : Unstructured) : StrMap := u.getStringMap "labels"

def getAnnotations (u : Unstructured) : StrMap := u.getStringMap "annotations"

def setLabels (u : Unstructured) (m : StrMap) : Unstructured := u.setStringMap "labels" m

def setAnnotations (u : Unstructured) (m : StrMap) : Unstructured := u.setStringMap "annotations" m

/-- `extractOwnerReference`. -/
def ownerRef? : Json → Option OwnerRef
  | .obj members => some
      { apiVersion := stringOf ((Json.obj members).member? "apiVersion")
        kind := stringOf ((Json.obj members).member? "kind")
        name := stringOf ((Json.obj members).member? "name")
        uid := stringOf ((Json.obj members).member? "uid")
        controller := boolOf ((Json.obj members).member? "controller")
        blockOwnerDeletion := boolOf ((Json.obj members).member? "blockOwnerDeletion") }
  | _ => none

/-- An optional member. -/
def optional (field : String) : Option Bool → List (String × Json)
  | some b => [(field, .bool b)]
  | none => []

/-- The tree of an owner reference. -/
def ofOwnerRef (ref : OwnerRef) : Json :=
  .obj ([("apiVersion", .str ref.apiVersion)] ++ optional "blockOwnerDeletion"
    ref.blockOwnerDeletion ++ optional "controller" ref.controller ++
    [("kind", .str ref.kind), ("name", .str ref.name), ("uid", .str ref.uid)])

/-- `GetOwnerReferences`: nil as soon as an item is not a map. -/
def getOwnerReferences (u : Unstructured) : List OwnerRef :=
  match u.metadata? "ownerReferences" with
  | some (.arr items) => (items.mapM ownerRef?).getD []
  | _ => []

/-- `SetOwnerReferences`. -/
def setOwnerReferences (u : Unstructured) (refs : List OwnerRef) : Unstructured :=
  u.setMetadata "ownerReferences" (.arr (refs.map ofOwnerRef))

/-! ## §4. What the setters do. -/

/-- `metadata` is a map, as in every object the API server serves. -/
def HasMetadata (u : Unstructured) : Prop := ∃ members, u.field? "metadata" = some (.obj members)

variable {u : Unstructured} {field other : String}

theorem field?_setSpec_of_ne (h : other ≠ "spec") (spec : Json) :
    (u.setSpec spec).field? other = u.field? other :=
  member?_setMember_of_ne h spec u.object

@[simp] theorem spec_setSpec (u : Unstructured) (spec : Json) : (u.setSpec spec).spec = spec := by
  unfold Unstructured.spec
  rw [field?, setSpec, member?_setMember_self]
  rfl

/-- Both setters below `metadata` replace that map by another one. -/
theorem field?_setMetadata_of_ne (h : other ≠ "metadata") (value : Json) :
    (u.setMetadata field value).field? other = u.field? other := by
  unfold setMetadata
  split
  · exact member?_setMember_of_ne h _ u.object
  · rfl
  · exact member?_setMember_of_ne h _ u.object

theorem field?_removeMetadata_of_ne (h : other ≠ "metadata") :
    (u.removeMetadata field).field? other = u.field? other := by
  unfold removeMetadata
  split
  · exact member?_setMember_of_ne h _ u.object
  · rfl

/-- The map a setter puts in the place of `metadata`. -/
theorem metadata?_replaced (u : Unstructured) (members : List (String × Json)) (field : String) :
    (Unstructured.mk (setMember "metadata" (.obj members) u.object)).metadata? field =
      (Json.obj members).member? field := by
  unfold metadata? field?
  rw [member?_setMember_self]
  rfl

theorem metadata?_of_field {members : List (String × Json)}
    (h : u.field? "metadata" = some (.obj members)) (field : String) :
    u.metadata? field = (Json.obj members).member? field := by
  rw [metadata?, h]
  rfl

theorem metadata?_setMetadata_self (h : u.HasMetadata) (value : Json) :
    (u.setMetadata field value).metadata? field = some value := by
  obtain ⟨members, hmembers⟩ := h
  simp only [setMetadata, hmembers]
  rw [metadata?_replaced, member?_setMember_self]

theorem metadata?_setMetadata_of_ne (h : other ≠ field) (value : Json) :
    (u.setMetadata field value).metadata? other = u.metadata? other := by
  unfold setMetadata
  split
  · next members hmembers =>
    rw [metadata?_replaced, member?_setMember_of_ne h, metadata?_of_field hmembers]
  · rfl
  · next hnone =>
    rw [metadata?_replaced, member?_cons, if_neg (Ne.symm h), metadata?, hnone]
    rfl

theorem metadata?_removeMetadata_self (u : Unstructured) (h : u.HasMetadata) (field : String) :
    (u.removeMetadata field).metadata? field = none := by
  obtain ⟨members, hmembers⟩ := h
  simp only [removeMetadata, hmembers]
  rw [metadata?_replaced, member?_eraseMember_self]

theorem metadata?_removeMetadata_of_ne (h : other ≠ field) :
    (u.removeMetadata field).metadata? other = u.metadata? other := by
  unfold removeMetadata
  split
  · next members hmembers =>
    rw [metadata?_replaced, member?_eraseMember_of_ne h, metadata?_of_field hmembers]
  · rfl

theorem HasMetadata.setSpec (h : u.HasMetadata) (spec : Json) : (u.setSpec spec).HasMetadata := by
  obtain ⟨members, hmembers⟩ := h
  exact ⟨members, (field?_setSpec_of_ne (by decide) spec).trans hmembers⟩

theorem HasMetadata.setStringMap (h : u.HasMetadata) (field : String) (m : StrMap) :
    (u.setStringMap field m).HasMetadata := by
  obtain ⟨members, hmembers⟩ := h
  unfold Unstructured.setStringMap
  split
  · simp only [removeMetadata, hmembers]
    exact ⟨_, member?_setMember_self ..⟩
  · simp only [setMetadata, hmembers]
    exact ⟨_, member?_setMember_self ..⟩

theorem field?_setStringMap_of_ne (h : other ≠ "metadata") (m : StrMap) :
    (u.setStringMap field m).field? other = u.field? other := by
  unfold setStringMap
  split
  · exact field?_removeMetadata_of_ne h
  · exact field?_setMetadata_of_ne h _

theorem metadata?_setStringMap_of_ne (h : other ≠ field) (m : StrMap) :
    (u.setStringMap field m).metadata? other = u.metadata? other := by
  unfold setStringMap
  split
  · exact metadata?_removeMetadata_of_ne h
  · exact metadata?_setMetadata_of_ne h _

/-- **A string map that was set is read back.** -/
theorem getStringMap_setStringMap_self (h : u.HasMetadata) (field : String) (m : StrMap) :
    (u.setStringMap field m).getStringMap field = m := by
  unfold setStringMap
  by_cases hempty : m = ∅
  · rw [if_pos hempty, getStringMap, metadata?_removeMetadata_self u h]
    exact hempty.symm
  · rw [if_neg hempty, getStringMap, metadata?_setMetadata_self h]
    dsimp only
    rw [stringMap?_ofStrMap]
    rfl

theorem ownerRef?_ofOwnerRef (ref : OwnerRef) : ownerRef? (ofOwnerRef ref) = some ref := by
  obtain ⟨apiVersion, kind, name, uid, controller, blockOwnerDeletion⟩ := ref
  cases controller <;> cases blockOwnerDeletion <;>
    simp [ofOwnerRef, ownerRef?, optional, member?_obj, stringOf, boolOf]

/-- **Owner references that were set are read back.** -/
theorem getOwnerReferences_setOwnerReferences (h : u.HasMetadata) (refs : List OwnerRef) :
    (u.setOwnerReferences refs).getOwnerReferences = refs := by
  have hread : (refs.map ofOwnerRef).mapM ownerRef? = some refs := by
    induction refs with
    | nil => rfl
    | cons ref refs ih =>
      rw [List.map_cons, List.mapM_cons, ownerRef?_ofOwnerRef, ih]
      rfl
  rw [getOwnerReferences, setOwnerReferences, metadata?_setMetadata_self h]
  dsimp only
  rw [hread]
  rfl

theorem getStringMap_setStringMap_of_ne (h : other ≠ field) (m : StrMap) :
    (u.setStringMap field m).getStringMap other = u.getStringMap other := by
  unfold getStringMap
  rw [metadata?_setStringMap_of_ne h]

end Unstructured

end CelldOperator
