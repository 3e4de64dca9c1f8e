/-
  CelldOperator.Api.Receiver

  **WHAT AN ANSWER LEAVES IN ITS RECEIVER.**

  `client.Get` and `client.Create` write the answer into an object the caller passes.
  A read from the cache replaces that object.  The manager disables the cache for
  HTTPRoutes (`cmd/main.go`), so these are decoded from JSON, in place:

    • a member the answer omits leaves the receiver's field as it was,
    • a map gains the answer's entries and keeps its own under other keys,
    • a list is decoded element over element, and an omitted one is kept.

  `receive` is that decoding.  `receive_of_ne` says that it is the answer itself for
  every other kind, `receive_identity` that the fields the API server always fills
  are the answer's.
-/
import CelldOperator.Api.Objects

namespace CelldOperator

/-! ## §1. Members, lists and maps. -/

/-- The elements of an array, decoded over those the receiver has. -/
def receiveItems {α : Type} (item : α → α → α) : List α → List α → List α
  | receiver :: receivers, found :: rest => item receiver found :: receiveItems item receivers rest
  | _, found => found

/-- An `omitempty` list. -/
def receiveList {α : Type} (item : α → α → α) (receiver : List α) : List α → List α
  | [] => receiver
  | found => receiveItems item receiver found

/-- A pointer: what it points to is decoded in place as well. -/
def receivePointer {α : Type} (item : α → α → α) (receiver : Option α) : Option α → Option α
  | none => receiver
  | some found =>
    match receiver with
    | none => some found
    | some held => some (item held found)

/-- An element without members of its own is overwritten. -/
def overwrite {α : Type} (_ found : α) : α := found

theorem receiveItems_overwrite {α : Type} (receiver found : List α) :
    receiveItems overwrite receiver found = found := by
  induction found generalizing receiver with
  | nil => cases receiver <;> rfl
  | cons head rest ih =>
    cases receiver with
    | nil => rfl
    | cons _ receivers =>
      show overwrite _ head :: receiveItems overwrite receivers rest = head :: rest
      rw [ih receivers]
      rfl

/-- A list of plain values is the answer's, or the receiver's when it was omitted. -/
theorem receiveList_overwrite {α : Type} (receiver found : List α) :
    receiveList overwrite receiver found = if found = [] then receiver else found := by
  cases found with
  | nil => rfl
  | cons head rest =>
    rw [if_neg (List.cons_ne_nil _ _)]
    exact receiveItems_overwrite receiver (head :: rest)

/-! ## §2. The HTTPRoute. -/

def receiveOwner (receiver found : OwnerReference) : OwnerReference where
  uid := found.uid
  controller := receivePointer overwrite receiver.controller found.controller

/-- Name, UID, resource version and generation are in every answer; what was built carries no
deletion timestamp. -/
def receiveMeta (receiver found : ObjectMeta) : ObjectMeta :=
  { found with
    labels := mergeStringMaps receiver.labels found.labels
    annotations := mergeStringMaps receiver.annotations found.annotations
    ownerReferences := receiveList receiveOwner receiver.ownerReferences found.ownerReferences
    finalizers := receiveList overwrite receiver.finalizers found.finalizers }

def receiveRetry (receiver found : HTTPRouteRetry) : HTTPRouteRetry where
  codes := receiveList overwrite receiver.codes found.codes
  attempts := found.attempts

def receiveRule (receiver found : HTTPRouteRule) : HTTPRouteRule where
  backendName := found.backendName
  backendPort := found.backendPort
  retry := receivePointer receiveRetry receiver.retry found.retry
  requestTimeout := receivePointer overwrite receiver.requestTimeout found.requestTimeout

def receiveRouteSpec (receiver found : HTTPRouteSpec) : HTTPRouteSpec where
  parentName := found.parentName
  parentNamespace := found.parentNamespace
  hostnames := receiveList overwrite receiver.hostnames found.hostnames
  rules := receiveList receiveRule receiver.rules found.rules

/-- **What the receiver holds behind an answer.** -/
def receive : {k : Kind} → (receiver found : Obj k) → Obj k
  | .httpRoute, receiver, found =>
    { metadata := receiveMeta receiver.metadata found.metadata
      spec := receiveRouteSpec receiver.spec found.spec
      status := found.status }
  | _, _, found => found

section

variable {k : Kind}

/-- A cached read replaces its receiver. -/
theorem receive_of_ne (hk : k ≠ .httpRoute) (receiver found : Obj k) :
    receive receiver found = found := by
  cases k with
  | httpRoute => exact absurd rfl hk
  | _ => rfl

/-- What the API server always fills is the answer's. -/
theorem receive_identity (receiver found : Obj k) :
    (receive receiver found).metadata.name = found.metadata.name ∧
      (receive receiver found).metadata.uid = found.metadata.uid ∧
      (receive receiver found).metadata.resourceVersion = found.metadata.resourceVersion := by
  cases k <;> exact ⟨rfl, rfl, rfl⟩

end

/-! ## §3. The owner. -/

/-- The first owner reference is there, and says whether it is the controller's. -/
def OwnerTold (refs : List OwnerReference) : Prop :=
  ∃ ref rest, refs = ref :: rest ∧ ref.controller ≠ none

/-- Over the one reference the operator sets, references that say so are decoded as they are. -/
theorem receiveOwners_of_told {refs : List OwnerReference} (h : OwnerTold refs)
    (owner : OwnerReference) : receiveList receiveOwner [owner] refs = refs := by
  obtain ⟨⟨uid, controller⟩, rest, rfl, htold⟩ := h
  cases controller with
  | none => exact absurd rfl htold
  | some b =>
    show receiveOwner owner ⟨uid, some b⟩ :: receiveItems receiveOwner [] rest = _
    rw [show receiveOwner owner ⟨uid, some b⟩ = ⟨uid, some b⟩ by cases owner with
      | mk _ held => cases held <;> rfl]
    cases rest <;> rfl

/-- Over that reference an object passes for controlled when it is, and also when it names no
owner, or names this one first without saying more. -/
theorem controlled_receive_iff (uid : String) (refs : List OwnerReference) :
    isControlledBy (receiveList receiveOwner [⟨uid, some true⟩] refs) uid = true ↔
      refs = [] ∨ (∃ rest, refs = ⟨uid, none⟩ :: rest) ∨
        (OwnerTold refs ∧ isControlledBy refs uid = true) := by
  cases refs with
  | nil => simp [receiveList, isControlledBy]
  | cons ref rest =>
    obtain ⟨owner, controller⟩ := ref
    cases controller with
    | some b =>
      have htold : OwnerTold (⟨owner, some b⟩ :: rest) := ⟨_, _, rfl, by simp⟩
      rw [receiveOwners_of_told htold]
      simp [htold]
    | none =>
      -- the omitted member keeps the receiver's
      have hdecoded : receiveList receiveOwner [⟨uid, some true⟩] (⟨owner, none⟩ :: rest) =
          ⟨owner, some true⟩ :: rest := by
        cases rest <;> rfl
      have huntold : ¬ OwnerTold (⟨owner, none⟩ :: rest) := by
        rintro ⟨_, _, heq, htold⟩
        cases heq
        exact htold rfl
      rw [hdecoded]
      simp [isControlledBy, huntold]

end CelldOperator
