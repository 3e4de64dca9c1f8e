/-
  CelldOperator.Startup.Main

  **FROM THE COMMAND LINE TO THE OPERATOR** (`cmd/main.go`).

  `main` refuses an unknown ingress mode and an interval that is not positive, cuts the
  comma-separated flags into lists, and fills in the reconciler and the state poller.
  Addresses, certificates, leader election and the manager itself are the scaffold's.

    • `Flags`, `splitList`, `main` — as the source has them,
    • `listItem_of_splitList`        — an item of a flag is a piece of its text: never empty,
      without a comma, without space at its ends.
-/
import CelldOperator.Runtime.Validation
import Mathlib.Data.List.DropRight

namespace CelldOperator.Startup

/-! ## §1. Lists in flags. -/

/-- `unicode.IsSpace`. -/
def isSpace (c : Char) : Bool :=
  [0x09, 0x0A, 0x0B, 0x0C, 0x0D, 0x20, 0x85, 0xA0, 0x1680, 0x2028, 0x2029, 0x202F, 0x205F,
    0x3000].contains c.toNat || (0x2000 ≤ c.toNat && c.toNat ≤ 0x200A)

/-- `strings.TrimSpace`. -/
def trimSpace (s : List Char) : List Char := (s.dropWhile isSpace).rdropWhile isSpace

/-- `splitList`. -/
def splitList (value : String) : List String :=
  (((splitOnChar ',' value.toList).map trimSpace).filter (!·.isEmpty)).map String.ofList

/-- **An item of a comma-separated flag.** -/
structure ListItem (value item : String) : Prop where
  nonempty : item ≠ ""
  piece : item.toList <:+: value.toList
  plain : ',' ∉ item.toList
  trimmed : trimSpace item.toList = item.toList

section

variable {value item : String} {s part : List Char}

/-- A part between separators. -/
theorem of_mem_splitOnChar {sep : Char} (h : part ∈ splitOnChar sep s) :
    part <:+: s ∧ sep ∉ part ∧ ∀ first rest, splitOnChar sep s = first :: rest → first <+: s := by
  induction s generalizing part with
  | nil =>
    obtain rfl := List.mem_singleton.mp h
    refine ⟨List.infix_refl _, List.not_mem_nil, fun first rest heq => ?_⟩
    cases heq
    exact List.prefix_refl _
  | cons c cs ih =>
    unfold splitOnChar at h ⊢
    split at h
    · next hc =>
      rw [if_pos hc]
      refine ⟨?_, ?_, fun first rest heq => ?_⟩
      · rcases List.mem_cons.mp h with rfl | h
        · exact List.nil_infix
        · exact (ih h).1.trans (List.suffix_cons c cs).isInfix
      · rcases List.mem_cons.mp h with rfl | h
        · exact List.not_mem_nil
        · exact (ih h).2.1
      · cases heq
        exact List.nil_prefix
    · next hc =>
      rw [if_neg hc]
      cases hsplit : splitOnChar sep cs with
      | nil =>
        rw [hsplit] at h
        obtain rfl := List.mem_singleton.mp h
        refine ⟨⟨[], cs, rfl⟩, by simpa using Ne.symm hc, fun first rest heq => ?_⟩
        cases heq
        exact ⟨cs, rfl⟩
      | cons head tail =>
        -- the first part grows by the character, the others stay
        have hhead := @ih head (by rw [hsplit]; exact List.mem_cons_self ..)
        have hfirst : head <+: cs := hhead.2.2 head tail hsplit
        have hgrown : c :: head <+: c :: cs := List.cons_prefix_cons.mpr ⟨rfl, hfirst⟩
        rw [hsplit] at h
        refine ⟨?_, ?_, fun first rest heq => ?_⟩
        · rcases List.mem_cons.mp h with rfl | h
          · exact hgrown.isInfix
          · exact (ih (hsplit ▸ List.mem_cons_of_mem _ h)).1.trans
              (List.suffix_cons c cs).isInfix
        · rcases List.mem_cons.mp h with rfl | h
          · rw [List.mem_cons, not_or]
            exact ⟨Ne.symm hc, hhead.2.1⟩
          · exact (ih (hsplit ▸ List.mem_cons_of_mem _ h)).2.1
        · cases heq
          exact hgrown

/-- Trimming keeps a piece of the text. -/
theorem trimSpace_piece : trimSpace s <:+: s :=
  ( List.rdropWhile_prefix _ _).isInfix.trans (List.dropWhile_suffix _).isInfix

/-- Nothing is left to trim. -/
theorem trimSpace_trimSpace : trimSpace (trimSpace s) = trimSpace s := by
  unfold trimSpace
  have hdrop : ((s.dropWhile isSpace).rdropWhile isSpace).dropWhile isSpace =
      (s.dropWhile isSpace).rdropWhile isSpace := by
    cases hfront : s.dropWhile isSpace with
    | nil => rfl
    | cons c cs =>
      have hc : isSpace c = false := by
        have hhead := List.head?_dropWhile_not isSpace s
        simpa [hfront] using hhead
      -- what is left begins with the same character
      rcases List.prefix_cons_iff.mp ( List.rdropWhile_prefix isSpace (c :: cs)) with
        hnil | ⟨tail, htail, -⟩
      · rw [hnil]
        rfl
      · rw [htail, List.dropWhile_cons_of_neg (by simp [hc])]
  rw [hdrop, List.rdropWhile_idempotent]

/-- **The items of a flag.** -/
theorem listItem_of_splitList (h : item ∈ splitList value) : ListItem value item := by
  unfold splitList at h
  obtain ⟨text, htext, rfl⟩ := List.mem_map.mp h
  obtain ⟨hmem, hnonempty⟩ := List.mem_filter.mp htext
  obtain ⟨part, hpart, rfl⟩ := List.mem_map.mp hmem
  obtain ⟨hpiece, hplain, -⟩ := of_mem_splitOnChar hpart
  refine ⟨?_, ?_, ?_, ?_⟩
  · intro hempty
    have hnil : trimSpace part = [] := by simpa using congrArg String.toList hempty
    simp [hnil] at hnonempty
  · simpa using trimSpace_piece.trans hpiece
  · intro hcomma
    exact hplain (trimSpace_piece.subset (by simpa using hcomma))
  · simpa using trimSpace_trimSpace

end

example : splitList " ghcr.io/a:, ,ghcr.io/b:," = ["ghcr.io/a:", "ghcr.io/b:"] := by decide +kernel

/-! ## §2. The flags. -/

/-- The flags of the operator, with their defaults. -/
structure Flags where
  ingressMode : String := "httproute"
  ingressClass : String := ""
  clusterIssuer : String := ""
  istioGateways : String := ""
  gatewayName : String := "edge"
  gatewayNamespace : String := "infra"
  prometheusURL : String := "http://prometheus-operated.monitoring.svc:9090"
  operatorNamespace : String := "celld-operator-system"
  operatorPrincipal : String :=
    "cluster.local/ns/celld-operator-system/sa/celld-operator-controller-manager"
  statePollInterval : Time := 15 * second
  deployPollInterval : Time := 60 * second
  allowedImagePrefixes : String := "ghcr.io/denoland/celld:"
  allowedIAMRoles : String := ""
  allowedAzureClientIDs : String := ""
  allowedBucketEndpoints : String := ""
  httprouteRetries : Bool := false

/-- The valid ingress modes. -/
def modeOf : String → Option IngressMode
  | "httproute" => some .httpRoute
  | "ingress" => some .ingress
  | "virtualservice" => some .virtualService
  | "none" => some .none
  | _ => none

/-- What `main` hands to the manager. -/
structure Operator where
  reconciler : Reconciler
  /-- The interval of the state poller. -/
  pollInterval : Time
  pollInterval_pos : 0 < pollInterval

/-- `main`: `none` is the exit with status 1 before anything is started. -/
def main (lib : Lib) (flags : Flags) : Option Operator :=
  match modeOf flags.ingressMode with
  | none => none
  | some mode =>
    if h : 0 < flags.statePollInterval ∧ 0 < flags.deployPollInterval then
      some
        { reconciler :=
            { lib := lib
              allowedImagePrefixes := splitList flags.allowedImagePrefixes
              allowedIAMRoles := splitList flags.allowedIAMRoles
              allowedAzureClientIDs := splitList flags.allowedAzureClientIDs
              allowedBucketEndpoints := splitList flags.allowedBucketEndpoints
              httpRouteRetries := flags.httprouteRetries
              ingressMode := mode
              istioGateways := if flags.istioGateways = "" then []
                else (splitOnChar ',' flags.istioGateways.toList).map String.ofList
              ingressClassName := flags.ingressClass
              clusterIssuer := flags.clusterIssuer
              gatewayName := flags.gatewayName
              gatewayNamespace := flags.gatewayNamespace
              prometheusURL := flags.prometheusURL
              operatorNamespace := flags.operatorNamespace
              operatorPrincipal := flags.operatorPrincipal
              interval := flags.deployPollInterval
              interval_pos := h.2 }
          pollInterval := flags.statePollInterval
          pollInterval_pos := h.1 }
    else none

/-- The lists of a started operator are those of the flags. -/
theorem main_lists {lib : Lib} {flags : Flags} {op : Operator} (h : main lib flags = some op) :
    op.reconciler.lib = lib ∧
      op.reconciler.allowedImagePrefixes = splitList flags.allowedImagePrefixes ∧
      op.reconciler.allowedBucketEndpoints = splitList flags.allowedBucketEndpoints := by
  unfold main at h
  split at h
  · cases h
  · split at h
    · cases h
      exact ⟨rfl, rfl, rfl⟩
    · cases h

end CelldOperator.Startup
