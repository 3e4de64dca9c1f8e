/-
  CelldOperator.Net.Policy

  **WHAT NETWORK POLICIES ADMIT.**

  A pod that no policy selects is open.  A pod that some policies select is isolated:
  it receives what one of them admits, so policies add up.  Selectors are of any type
  `σ`, labels of any type `ℓ`, and `matches` says when a selector matches.

    • `admitted_iff_of_selected` — an isolated pod, by its policies,
    • `admitted_iff_of_only`     — the case of one policy that counts.
-/
import Mathlib.Logic.Basic

namespace Net

variable {σ ℓ : Type}

/-- Where traffic may come from: pods, in the policy's own namespace or in selected ones. -/
structure Peer (σ : Type) where
  pods : σ
  namespaces : Option σ := none

/-- What a policy admits on one port; no peers is everybody. -/
structure Rule (σ : Type) where
  protocol : String
  port : Nat
  peers : List (Peer σ) := []

/-- A policy; `inbound` says that it counts for incoming traffic at all. -/
structure Policy (σ : Type) where
  space : String
  inbound : Bool
  selector : σ
  rules : List (Rule σ)

/-- A pod on the network: its namespace, with its labels, and its own labels. -/
structure Endpoint (ℓ : Type) where
  space : String
  spaceLabels : ℓ
  labels : ℓ

section

variable (matches_ : σ → ℓ → Prop)

def Peer.Admits (space : String) (peer : Peer σ) (src : Endpoint ℓ) : Prop :=
  matches_ peer.pods src.labels ∧
    match peer.namespaces with
    | none => src.space = space
    | some selector => matches_ selector src.spaceLabels

/-- The rule admits traffic from this pod, or from outside the cluster (`none`). -/
def Rule.Admits (space : String) (rule : Rule σ) (src : Option (Endpoint ℓ)) (protocol : String)
    (port : Nat) : Prop :=
  rule.protocol = protocol ∧ rule.port = port ∧
    (rule.peers = [] ∨ ∃ pod ∈ src, ∃ peer ∈ rule.peers, peer.Admits matches_ space pod)

def Policy.Selects (policy : Policy σ) (dst : Endpoint ℓ) : Prop :=
  policy.inbound = true ∧ policy.space = dst.space ∧ matches_ policy.selector dst.labels

def Policy.Admits (policy : Policy σ) (src : Option (Endpoint ℓ)) (protocol : String)
    (port : Nat) : Prop :=
  ∃ rule ∈ policy.rules, rule.Admits matches_ policy.space src protocol port

/-- **What reaches a pod.** -/
def Admitted (policies : List (Policy σ)) (src : Option (Endpoint ℓ)) (dst : Endpoint ℓ)
    (protocol : String) (port : Nat) : Prop :=
  (∀ policy ∈ policies, ¬ policy.Selects matches_ dst) ∨
    ∃ policy ∈ policies, policy.Selects matches_ dst ∧ policy.Admits matches_ src protocol port

end

variable {matches_ : σ → ℓ → Prop} {policies : List (Policy σ)} {policy : Policy σ}
  {src : Option (Endpoint ℓ)} {dst : Endpoint ℓ} {protocol : String} {port : Nat}

/-- A selected pod is isolated. -/
theorem admitted_iff_of_selected (hmem : policy ∈ policies) (hsel : policy.Selects matches_ dst) :
    Admitted matches_ policies src dst protocol port ↔
      ∃ p ∈ policies, p.Selects matches_ dst ∧ p.Admits matches_ src protocol port := by
  constructor
  · rintro (hopen | hadmits)
    · exact absurd hsel (hopen policy hmem)
    · exact hadmits
  · exact .inr

/-- Where one policy alone selects the pod, it alone decides. -/
theorem admitted_iff_of_only (hmem : policy ∈ policies) (hsel : policy.Selects matches_ dst)
    (honly : ∀ p ∈ policies, p.Selects matches_ dst → p = policy) :
    Admitted matches_ policies src dst protocol port ↔
      policy.Admits matches_ src protocol port := by
  rw [admitted_iff_of_selected hmem hsel]
  constructor
  · rintro ⟨p, hp, hselp, hadmits⟩
    exact honly p hp hselp ▸ hadmits
  · intro hadmits
    exact ⟨policy, hmem, hsel, hadmits⟩

end Net
