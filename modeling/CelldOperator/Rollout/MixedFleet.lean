/-
  CelldOperator.Rollout.MixedFleet

  **WHICH NODES EVER RUN TOGETHER.**

  celld minors that cannot share a fleet must never be live at the same time
  (`Shares`).  The operator checks a new template against the update template and
  the listed pods at the instant a rolling update starts; the StatefulSet
  controller goes on creating pods below the partition from the CURRENT revision,
  which that check does not look at.

    • `mixedFleet_safe`     — every fleet stays coherent as long as no rolling
      update starts over a current revision that cannot join (`JoinsCurrent`),
    • `mixedFleet_violated` — without that, a run reaches two live pods that
      cannot share a fleet.

  The invariant `Coherent` says that the live pods and the update template can
  share a fleet, and with them the current revision while the partition lets it
  be used.
-/
import CelldOperator.Rollout.FleetSystem

namespace CelldOperator

open Effect Prog

/-! ## §1. Sharing a fleet. -/

/-- The two pod specs may run in one fleet: one of them may roll to the other. -/
def Shares (p q : PodSpec) : Prop :=
  fleetBreakingReason p q = "" ∨ fleetBreakingReason q p = ""

instance (p q : PodSpec) : Decidable (Shares p q) := inferInstanceAs (Decidable (_ ∨ _))

theorem Shares.symm {p q : PodSpec} (h : Shares p q) : Shares q p := Or.symm h

/-- A pod spec can share a fleet with itself: equal versions cross no line. -/
theorem shares_self (p : PodSpec) : Shares p p := by
  left
  have hbreaking : breakingReason (stsContainerImage p) (stsContainerImage p) = "" := by
    unfold breakingReason
    split
    · next v w hv hw =>
      have : v = w := Option.some.inj (hv.symm.trans hw)
      rw [if_pos this]
    · rfl
  unfold fleetBreakingReason
  rw [hbreaking]
  dsimp only
  rw [if_neg (not_not.mpr rfl)]
  split
  · next v w hv hw =>
    have hvw : v = w := Option.some.inj (hv.symm.trans hw)
    have hcross : crossesV06 v w = false := by
      rw [hvw]
      unfold crossesV06
      rw [decide_eq_false_iff_not]
      omega
    rw [hcross]
    rfl
  · rfl

/-! ## §2. The invariant. -/

/-- The selector labels of the fleet of this WorkerApp. -/
def selectorFor (name : String) : StrMap :=
  StrMap.ofList [("celld-operator.io/workerapp", name)]

/-- **Coherence** of a StatefulSet (its spec and UID), its current revision and the live
pods. -/
structure Coherent (name : String) (spec : StatefulSetSpec) (uid : String) (current : PodTemplate)
    (pods : List Pod) : Prop where
  together : ∀ p ∈ pods, ∀ q ∈ pods, Shares p.spec q.spec
  update : ∀ p ∈ pods, Shares p.spec spec.template.spec
  currentJoins : 0 < spec.partition.getD 0 →
    Shares current.spec spec.template.spec ∧ ∀ p ∈ pods, Shares p.spec current.spec
  labelled : ∀ p ∈ pods, stringMapSubset (selectorFor name) p.labels = true
  updateLabels : stringMapSubset (selectorFor name) spec.template.labels = true
  currentLabels : stringMapSubset (selectorFor name) current.labels = true
  owned : ∀ p ∈ pods, isControlledBy p.ownerReferences uid = true

section Coherent

variable {name uid : String} {spec spec' : StatefulSetSpec} {current : PodTemplate}
  {pods pods' : List Pod}

theorem stringMapSubset_trans {a b c : StrMap} (hab : stringMapSubset a b = true)
    (hbc : stringMapSubset b c = true) : stringMapSubset a c = true := by
  unfold stringMapSubset at *
  rw [decide_eq_true_iff] at *
  intro k hk
  rw [← hab k hk]
  apply hbc
  rw [Finmap.mem_keys, ← Finmap.lookup_isSome, hab k hk, Finmap.lookup_isSome, ← Finmap.mem_keys]
  exact hk

/-- Deaths and status changes keep it. -/
theorem Coherent.kept (hc : Coherent name spec uid current pods)
    (hk : ∀ p' ∈ pods', ∃ p ∈ pods, SamePod p p') : Coherent name spec uid current pods' := by
  refine { hc with together := ?_, update := ?_, currentJoins := ?_, labelled := ?_, owned := ?_ }
  · intro p' hp' q' hq'
    obtain ⟨p, hp, hpp⟩ := hk p' hp'
    obtain ⟨q, hq, hqq⟩ := hk q' hq'
    rw [hpp.spec, hqq.spec]
    exact hc.together p hp q hq
  · intro p' hp'
    obtain ⟨p, hp, hpp⟩ := hk p' hp'
    rw [hpp.spec]
    exact hc.update p hp
  · intro hpart
    refine ⟨(hc.currentJoins hpart).1, ?_⟩
    intro p' hp'
    obtain ⟨p, hp, hpp⟩ := hk p' hp'
    rw [hpp.spec]
    exact (hc.currentJoins hpart).2 p hp
  · intro p' hp'
    obtain ⟨p, hp, hpp⟩ := hk p' hp'
    rw [hpp.labels]
    exact hc.labelled p hp
  · intro p' hp'
    obtain ⟨p, hp, hpp⟩ := hk p' hp'
    rw [hpp.owners]
    exact hc.owned p hp

/-- The template a pod is created from is the update template, or the current one while the
partition is positive. -/
def Usable (spec : StatefulSetSpec) (current template : PodTemplate) : Prop :=
  template = spec.template ∨ (template = current ∧ 0 < spec.partition.getD 0)

/-- A usable template can share the fleet. -/
theorem Coherent.usable (hc : Coherent name spec uid current pods) {template : PodTemplate}
    (hu : Usable spec current template) :
    Shares template.spec spec.template.spec ∧
      (0 < spec.partition.getD 0 → Shares template.spec current.spec) ∧
      ∀ p ∈ pods, Shares p.spec template.spec := by
  rcases hu with rfl | ⟨rfl, hpart⟩
  · exact ⟨shares_self _, fun hpart => (hc.currentJoins hpart).1.symm, hc.update⟩
  · exact ⟨(hc.currentJoins hpart).1, fun _ => shares_self _, (hc.currentJoins hpart).2⟩

/-- A pod created from a usable template joins. -/
theorem Coherent.add (hc : Coherent name spec uid current pods) {pod : Pod}
    {template : PodTemplate} (hu : Usable spec current template) (hspec : pod.spec = template.spec)
    (hlabels : stringMapSubset template.labels pod.labels = true)
    (howner : isControlledBy pod.ownerReferences uid = true) :
    Coherent name spec uid current (pod :: pods) := by
  obtain ⟨hupdate, hcurrent, hpods⟩ := hc.usable hu
  rw [← hspec] at hupdate hcurrent hpods
  refine { hc with together := ?_, update := ?_, currentJoins := ?_, labelled := ?_, owned := ?_ }
  · intro p hp q hq
    rcases List.mem_cons.mp hp with hp' | hp' <;> rcases List.mem_cons.mp hq with hq' | hq'
    · rw [hp', hq']
      exact shares_self _
    · rw [hp']
      exact (hpods q hq').symm
    · rw [hq']
      exact hpods p hp'
    · exact hc.together p hp' q hq'
  · exact List.forall_mem_cons.mpr ⟨hupdate, hc.update⟩
  · intro hpart
    obtain ⟨htemplate, hpods⟩ := hc.currentJoins hpart
    exact ⟨htemplate, List.forall_mem_cons.mpr ⟨hcurrent hpart, hpods⟩⟩
  · refine List.forall_mem_cons.mpr ⟨stringMapSubset_trans ?_ hlabels, hc.labelled⟩
    rcases hu with rfl | ⟨rfl, -⟩
    · exact hc.updateLabels
    · exact hc.currentLabels
  · exact List.forall_mem_cons.mpr ⟨howner, hc.owned⟩

/-- The update revision may become the current one at any time. -/
theorem Coherent.promote (hc : Coherent name spec uid current pods) :
    Coherent name spec uid spec.template pods :=
  { hc with
    currentJoins := fun _ => ⟨shares_self _, hc.update⟩
    currentLabels := hc.updateLabels }

/-- A write that keeps the template and does not open the partition keeps it. -/
theorem Coherent.sameTemplate (hc : Coherent name spec uid current pods)
    (ht : spec'.template = spec.template)
    (hp : 0 < spec'.partition.getD 0 → 0 < spec.partition.getD 0) :
    Coherent name spec' uid current pods where
  together := hc.together
  update := ht ▸ hc.update
  currentJoins := fun hpart => ht ▸ hc.currentJoins (hp hpart)
  labelled := hc.labelled
  updateLabels := ht ▸ hc.updateLabels
  currentLabels := hc.currentLabels
  owned := hc.owned

end Coherent

/-! ## §3. Inside a pass. -/

/-- The world is coherent: no pods without a StatefulSet, and a coherent fleet with one. -/
structure WorldCoherent (name : String) (w : World) : Prop where
  fleet : ∀ sts, w.cluster.live .statefulSet (name ++ "-celld") = some sts →
    Coherent name sts.sspec sts.metadata.uid w.current w.cluster.pods
  absent : w.cluster.live .statefulSet (name ++ "-celld") = none → w.cluster.pods = []

/-- **The pass may start a rolling update** over this StatefulSet that puts the partition up: the
template has changed, by a config hash the pass can find, and is not for a Recreate. -/
structure MayRoll (j : FleetPass) (sts : StatefulSet) : Prop where
  rolling : j.app.spec.celld.updateStrategy ≠ .recreate
  idle : recreating sts = false
  running : stsReplicas sts ≠ 0
  changed : ∃ hash t, Runs (configHash j.r j.app) t (.ok hash) ∧
    templateChanged sts (desiredFleet j.r j.app hash j.appVersion) = true

/-- What a pass relies on until it writes, over the StatefulSet it will write to: the current
revision can join what a rolling update mixes, and a live pod that is not on the latest list was
created since. -/
structure Before (j : FleetPass) (h : Trace) (sts : StatefulSet) (current : PodTemplate)
    (pods : List Pod) : Prop where
  joins : MayRoll j sts →
    (current.spec = sts.sspec.template.spec ∨ Shares current.spec (fleetPodSpec j.app)) ∧
    Shares current.spec sts.sspec.template.spec ∧ ∀ p ∈ pods, Shares p.spec current.spec
  listed : ∀ list, LastPods j.app h list → (MayRoll j sts ∨ stsReplicas sts = 0) →
    ∀ p ∈ pods, (∃ p₀ ∈ list.val, SamePod p₀ p) ∨ (stsReplicas sts ≠ 0 ∧
      (p.spec = sts.sspec.template.spec ∨ Shares p.spec (fleetPodSpec j.app)))

theorem SamePod.refl (p : Pod) : SamePod p p := ⟨rfl, rfl, rfl⟩

theorem SamePod.trans {p q r : Pod} (h : SamePod p q) (h' : SamePod q r) : SamePod p r :=
  ⟨h'.spec.trans h.spec, h'.labels.trans h.labels, h'.owners.trans h.owners⟩

section Before

variable {j : FleetPass} {h : Trace} {sts sts' : StatefulSet} {current : PodTemplate}
  {pods pods' : List Pod}

theorem Before.kept (hb : Before j h sts current pods)
    (hk : ∀ p' ∈ pods', ∃ p ∈ pods, SamePod p p') : Before j h sts current pods' := by
  refine ⟨?_, ?_⟩
  · intro hroll
    obtain ⟨hnew, hold, hpods⟩ := hb.joins hroll
    refine ⟨hnew, hold, fun p' hp' => ?_⟩
    obtain ⟨p, hp, hsame⟩ := hk p' hp'
    rw [hsame.spec]
    exact hpods p hp
  · intro list hlast hcase p' hp'
    obtain ⟨p, hp, hsame⟩ := hk p' hp'
    rcases hb.listed list hlast hcase p hp with ⟨p₀, hp₀, hsame₀⟩ | hnew
    · exact .inl ⟨p₀, hp₀, hsame₀.trans hsame⟩
    · rw [hsame.spec]
      exact .inr hnew

theorem Before.add (hb : Before j h sts current pods) {pod : Pod} {template : PodTemplate}
    (hu : Usable sts.sspec current template) (hspec : pod.spec = template.spec)
    (hrun : stsReplicas sts ≠ 0) : Before j h sts current (pod :: pods) := by
  refine ⟨?_, ?_⟩
  · intro hroll
    obtain ⟨hnew, hold, hpods⟩ := hb.joins hroll
    refine ⟨hnew, hold, List.forall_mem_cons.mpr ⟨?_, hpods⟩⟩
    rw [hspec]
    rcases hu with rfl | ⟨rfl, -⟩
    · exact hold.symm
    · exact shares_self _
  · intro list hlast hcase
    refine List.forall_mem_cons.mpr ⟨.inr ⟨hrun, ?_⟩, hb.listed list hlast hcase⟩
    rw [hspec]
    rcases hu with rfl | ⟨rfl, -⟩
    · exact .inl rfl
    · exact (hb.joins (hcase.resolve_right hrun)).1

theorem Before.promote (hb : Before j h sts current pods)
    (hupdate : ∀ p ∈ pods, Shares p.spec sts.sspec.template.spec) :
    Before j h sts sts.sspec.template pods :=
  ⟨fun _ => ⟨.inl rfl, shares_self _, hupdate⟩, hb.listed⟩

theorem Before.reported (hb : Before j h sts current pods) (hr : Reported sts sts') :
    Before j h sts' current pods := by
  have hspec : sts'.sspec = sts.sspec := hr.spec
  have hreplicas : stsReplicas sts' = stsReplicas sts := by
    unfold stsReplicas
    rw [hspec]
  have hroll : MayRoll j sts' ↔ MayRoll j sts := by
    have hidle : recreating sts' = recreating sts := by
      unfold recreating annotationOf
      rw [hr.metadata]
    have hchanged : ∀ desired, templateChanged sts' desired = templateChanged sts desired := by
      intro desired
      unfold templateChanged annotationOf
      rw [hr.metadata]
    constructor
    · exact fun ⟨hrolling, hi, hrun, hc⟩ =>
        ⟨hrolling, hidle ▸ hi, hreplicas ▸ hrun, by simpa only [hchanged] using hc⟩
    · exact fun ⟨hrolling, hi, hrun, hc⟩ =>
        ⟨hrolling, hidle ▸ hi, hreplicas ▸ hrun, by simpa only [hchanged] using hc⟩
  refine ⟨?_, ?_⟩
  · rw [hspec, hroll]
    exact hb.joins
  · rw [hspec, hroll, hreplicas]
    exact hb.listed

end Before

theorem usable_templateFor (w : World) (sts : StatefulSet) (i : Nat) :
    Usable sts.sspec w.current (templateFor w sts i) := by
  unfold templateFor
  split
  · exact .inl rfl
  · next hlt =>
    refine .inr ⟨rfl, ?_⟩
    unfold stsPartition at hlt
    omega

/-- A world around one given StatefulSet. -/
theorem WorldCoherent.of_live {name : String} {w : World} {sts : StatefulSet}
    (hlive : w.cluster.live .statefulSet (name ++ "-celld") = some sts)
    (hc : Coherent name sts.sspec sts.metadata.uid w.current w.cluster.pods) :
    WorldCoherent name w := by
  refine ⟨?_, ?_⟩
  · intro s hs
    cases hlive.symm.trans hs
    exact hc
  · intro habsent
    cases hlive.symm.trans habsent

/-- Changes elsewhere do not matter. -/
theorem WorldCoherent.congr {name : String} {w w' : World} (hc : WorldCoherent name w)
    (hlive : w'.cluster.live .statefulSet (name ++ "-celld") =
      w.cluster.live .statefulSet (name ++ "-celld"))
    (hcur : w'.current = w.current) (hpods : w'.cluster.pods = w.cluster.pods) :
    WorldCoherent name w' := by
  refine ⟨?_, ?_⟩
  · rw [hlive, hcur, hpods]
    exact hc.fleet
  · rw [hlive, hpods]
    exact hc.absent

/-- **Kubernetes keeps the world coherent.** -/
theorem WorldCoherent.kube {name : String} {w w' : World} (hc : WorldCoherent name w)
    (hmove : KubeMove (name ++ "-celld") w w') : WorldCoherent name w' := by
  cases hmove with
  | pods pods kept =>
    refine ⟨fun sts hlive => (hc.fleet sts hlive).kept kept, ?_⟩
    intro habsent
    refine List.eq_nil_iff_forall_not_mem.mpr fun p hp => ?_
    obtain ⟨q, hq, -⟩ := kept p hp
    rw [hc.absent habsent] at hq
    cases hq
  | create sts i pod live below missing made =>
    exact .of_live live ((hc.fleet sts live).add (usable_templateFor w sts i) made.spec
      made.labels made.owner)
  | promote sts live complete => exact .of_live live (hc.fleet sts live).promote
  | report sts sts' live same hp =>
    refine .of_live (live_of_put ⟨hp, rfl⟩ (same.name live)) ?_
    have hspec : sts'.sspec = sts.sspec := same.spec
    have huid : sts'.metadata.uid = sts.metadata.uid := by rw [same.metadata]
    rw [hspec, huid]
    exact hc.fleet sts live
  | others c' later same pods =>
    refine hc.congr ?_ rfl pods
    unfold Cluster.live
    rw [same]

/-- What holds inside a pass after the history `h`. -/
structure MixedPass (j : FleetPass) (h : Trace) (w : World) : Prop where
  knows : Knows h w.cluster
  coherent : WorldCoherent j.app.name w
  before : Untouched h → ∀ sts, w.cluster.live .statefulSet (fleetName j.app) = some sts →
    Before j h sts w.current w.cluster.pods

/-- **The others keep it**, at any point of a pass. -/
theorem MixedPass.kube {j : FleetPass} {h : Trace} {w w' : World} (hm : MixedPass j h w)
    (hmove : KubeMove (fleetName j.app) w w') : MixedPass j h w' := by
  refine ⟨hm.knows.later hmove.later, hm.coherent.kube hmove, fun hu s hs => ?_⟩
  have hb := hm.before hu
  cases hmove with
  | pods pods kept => exact (hb s hs).kept kept
  | create sts i pod live below missing made =>
    cases live.symm.trans hs
    exact (hb s live).add (usable_templateFor w s i) made.spec (by omega)
  | promote sts live complete =>
    cases live.symm.trans hs
    exact (hb s live).promote (hm.coherent.fleet s live).update
  | report sts sts' live same hp =>
    cases (live_of_put ⟨hp, rfl⟩ (same.name live)).symm.trans hs
    exact (hb sts live).reported same
  | others c' later same pods =>
    dsimp only at hs ⊢
    rw [pods]
    unfold Cluster.live at hs
    rw [same] at hs
    exact hb s hs

/-! ## §4. The writes of a pass. -/

/-- The pods of a fleet carry its selector labels, whatever the spec. -/
theorem selectorFor_subset (app : WorkerApp) (hash v : String) :
    stringMapSubset (selectorFor app.name) (buildPodTemplate app hash v).labels = true := by
  have hfleet : (fleetLabels app).lookup "celld-operator.io/workerapp" = some app.name := by
    unfold fleetLabels StrMap.ofList
    simp only [List.foldl_cons, List.foldl_nil]
    rw [Finmap.lookup_insert_of_ne _ (by decide), Finmap.lookup_insert_of_ne _ (by decide),
      Finmap.lookup_insert]
  have hlabel : (buildPodTemplate app hash v).labels.lookup "celld-operator.io/workerapp" =
      some app.name := by
    unfold buildPodTemplate
    dsimp only
    split
    · rw [Finmap.lookup_insert_of_ne _ (by decide), hfleet]
    · exact hfleet
  unfold stringMapSubset
  rw [decide_eq_true_iff]
  intro k hk
  have hkey : k = "celld-operator.io/workerapp" := by
    simpa [selectorFor, StrMap.ofList, Finmap.mem_keys, Finmap.notMem_empty] using hk
  subst hkey
  rw [hlabel]
  simp [selectorFor, StrMap.ofList]

section writes

variable {j : FleetPass} {h : Trace} {hash n : String} {c : Cluster}
  {existing o : StatefulSet} {current : PodTemplate} {pods : List Pod}

/-- A rolling start mixes only what can share a fleet. -/
theorem coherent_startRolling
    (hc : Coherent j.app.name existing.sspec existing.metadata.uid current pods)
    (hb : Before j h existing current pods) (settle : String)
    (hidle : recreating existing = false) (hroll : j.app.spec.celld.updateStrategy ≠ .recreate)
    {t : Trace} (hhash : Runs (configHash j.r j.app) t (.ok hash))
    (hchanged : templateChanged existing (desiredFleet j.r j.app hash j.appVersion) = true)
    (htemplate : fleetBreakingReason existing.sspec.template.spec (fleetPodSpec j.app) = "")
    {list : PodList} (hlast : LastPods j.app h list)
    (hpods : podsBreakingReason existing (desiredFleet j.r j.app hash j.appVersion) list.val = "") :
    Coherent j.app.name (startRolling existing (desiredFleet j.r j.app hash j.appVersion) settle).sspec
      existing.metadata.uid current pods := by
  have hold : Shares existing.sspec.template.spec (fleetPodSpec j.app) := .inl htemplate
  have hmay : stsReplicas existing ≠ 0 → MayRoll j existing := fun hrun =>
    ⟨hroll, hidle, hrun, hash, t, hhash, hchanged⟩
  have hcase : MayRoll j existing ∨ stsReplicas existing = 0 := by
    rcases eq_or_ne (stsReplicas existing) 0 with h0 | h0
    · exact .inr h0
    · exact .inl (hmay h0)
  have hnew : ∀ p ∈ pods, Shares p.spec (fleetPodSpec j.app) := by
    intro p hp
    rcases hb.listed list hlast hcase p hp with ⟨p₀, hp₀, hsame⟩ | ⟨-, heq | hshares⟩
    · have howned := hc.owned p hp
      rw [hsame.owners] at howned
      rw [hsame.spec]
      exact .inl (podsBreakingReason_empty hpods hp₀ howned)
    · rw [heq]
      exact hold
    · exact hshares
  refine { hc with update := hnew, updateLabels := selectorFor_subset j.app hash j.appVersion,
                   currentJoins := ?_ }
  intro hpart
  have hrun : stsReplicas existing ≠ 0 := Nat.pos_iff_ne_zero.mp hpart
  obtain ⟨hcur, -, hjoin⟩ := hb.joins (hmay hrun)
  refine ⟨?_, hjoin⟩
  rcases hcur with heq | hshares
  · rw [heq]
    exact hold
  · exact hshares

/-- The rolling steps keep the template and only lower the partition. -/
theorem coherent_rollout (hc : Coherent j.app.name existing.sspec existing.metadata.uid current pods)
    (hk : Knows h c) (hmem : existing ∈ c.past .statefulSet n)
    (hw : RolloutWrite j.r j.app existing h o) :
    Coherent j.app.name o.sspec existing.metadata.uid current pods := by
  cases hw with
  | clamp high =>
    refine hc.sameTemplate rfl fun _ => ?_
    unfold stsPartition at high
    omega
  | release base partition now start gates clock =>
    obtain ⟨rfl, rfl, -⟩ := start.exact hk hmem gates.observed
    exact hc.sameTemplate rfl fun _ => Nat.pos_iff_ne_zero.mpr gates.pos

/-- **Every write of a pass keeps the fleet coherent.** -/
theorem FleetWrite.coherent {t : Trace} (hhash : Runs (configHash j.r j.app) t (.ok hash))
    (hk : Knows h c) (hmem : existing ∈ c.past .statefulSet n)
    (hc : Coherent j.app.name existing.sspec existing.metadata.uid current pods)
    (hb : Before j h existing current pods)
    (hw : FleetWrite j.r j.app existing (desiredFleet j.r j.app hash j.appVersion) h o) :
    Coherent j.app.name o.sspec existing.metadata.uid current pods := by
  cases hw with
  | rollingStart now idle changed rolling template hpods =>
    obtain ⟨list, hlast, hpods⟩ := hpods
    exact coherent_startRolling hc hb _ idle rolling hhash changed template hlast hpods
  | rollout idle same write => exact coherent_rollout hc hk hmem write
  | scaleDown | scale => exact hc.sameTemplate rfl fun hpart => hpart
  | recreateStart cause stopped observed drained hpods =>
    -- nothing is listed, and nothing was created since: the fleet is empty
    obtain ⟨list, hlast, hnil⟩ := hpods
    have hempty : pods = [] := by
      refine List.eq_nil_iff_forall_not_mem.mpr fun p hp => ?_
      rcases hb.listed list hlast (.inr stopped) p hp with ⟨p₀, hp₀, -⟩ | ⟨hrun, -⟩
      · rw [hnil] at hp₀
        cases hp₀
      · exact hrun stopped
    subst hempty
    exact { hc with
      update := by simp
      updateLabels := selectorFor_subset j.app hash j.appVersion
      currentJoins := fun hpart => absurd hpart (Nat.lt_irrefl 0) }

/-- The event is not the creation of the StatefulSet: the current revision stays. -/
theorem currentAfter_of_not_acknowledged {op : Op} {res : Resp op} (hq : ¬ acknowledged op res) :
    currentAfter current op res = current := by
  unfold currentAfter
  split
  · exact absurd trivial hq
  · rfl

/-- Without a write, a pass only learns. -/
theorem Before.snoc {e : Event Api} (hb : Before j h existing current pods)
    (hlist : ∀ list, e = ⟨.listPods (selectorLabels j.app), .ok list⟩ → ∀ p ∈ pods, p ∈ list.val) :
    Before j (h ++ [e]) existing current pods := by
  refine ⟨hb.joins, ?_⟩
  intro list hlast hcase p hp
  rcases hlast.snoc_cases with heq | hlast
  · exact .inl ⟨p, hlist list heq p hp, .refl p⟩
  · exact hb.listed list hlast hcase p hp

/-- **A pass keeps it**, at every event the server answers. -/
theorem MixedPass.call {op : Op} {res : Resp op} {w w' : World} (hm : MixedPass j h w)
    (he : FleetEvent j.r j.app j.appVersion h ⟨op, res⟩) (hs : ServeWorld w op res w') :
    MixedPass j (h ++ [⟨op, res⟩]) w' := by
  obtain ⟨hserve, hcur⟩ := hs
  have hknows := hm.knows.serve hserve
  cases fleetMove_of_serve hm.knows he hserve with
  | idle same hpods quiet =>
    have hlive : w'.cluster.live .statefulSet (fleetName j.app) =
        w.cluster.live .statefulSet (fleetName j.app) := by
      unfold Cluster.live
      rw [same]
    rw [currentAfter_of_not_acknowledged quiet] at hcur
    refine ⟨hknows, hm.coherent.congr hlive hcur hpods, fun hu sts hsts => ?_⟩
    have hu' : Untouched h := fun e he => hu e (List.mem_append_left _ he)
    rw [hlive] at hsts
    rw [hcur, hpods]
    refine (hm.before hu' sts hsts).snoc ?_
    -- a fresh list holds every pod of the fleet: all of them carry its labels
    rintro list ⟨⟩ p hp
    refine hserve.2.mem_iff.mpr (List.mem_filter.mpr ⟨hp, ?_⟩)
    exact (hm.coherent.fleet sts hsts).labelled p hp
  | created hash stored absent made moved =>
    have hname : stored.metadata.name = fleetName j.app := by rw [made.metadata]; rfl
    have hspec : stored.sspec = (desiredFleet j.r j.app hash j.appVersion).sspec := made.spec
    have hcur : w'.current = stored.sspec.template := hcur
    have hnone : w'.cluster.pods = [] := by
      obtain ⟨hp, heq⟩ := moved
      rw [heq]
      exact hm.coherent.absent absent
    refine ⟨hknows, .of_live (live_of_put moved hname) ?_,
      fun hu => absurd hu (not_untouched_snoc trivial)⟩
    rw [hcur, hspec, hnone]
    have hlabels := selectorFor_subset j.app hash j.appVersion
    exact ⟨by simp, by simp, fun _ => ⟨shares_self _, by simp⟩, by simp, hlabels, hlabels, by simp⟩
  | wrote hash existing o stored guards write first live accepted named moved =>
    have hspec : stored.sspec = o.sspec := accepted.spec
    have huid : stored.metadata.uid = existing.metadata.uid := by rw [accepted.metadata]
    have hcur : w'.current = w.current := hcur
    have hpods : w'.cluster.pods = w.cluster.pods := by
      obtain ⟨hp, heq⟩ := moved
      rw [heq]
      rfl
    refine ⟨hknows, .of_live (live_of_put moved named) ?_,
      fun hu => absurd hu (not_untouched_snoc trivial)⟩
    rw [hcur, hspec, huid, hpods]
    obtain ⟨-, t, -, -, hran⟩ := guards.hashed
    exact write.coherent hran hm.knows (Cluster.mem_past_of_live live)
      (hm.coherent.fleet existing live) (hm.before first existing live)

end writes

/-! ## §5. Whole runs. -/

/-- Before the fleet is created. -/
def Fresh (name : String) (w : World) : Prop :=
  w.cluster.live .statefulSet (name ++ "-celld") = none ∧ w.cluster.pods = []

/-- **The condition at the start of a pass.**  If the pass may start a rolling update, the
current revision is the update revision, or it can share a fleet with the new template, with
the update template and with every live pod. -/
def JoinsCurrent (w : World) (j : FleetPass) : Prop :=
  ∀ sts, w.cluster.live .statefulSet (fleetName j.app) = some sts → MayRoll j sts →
    w.current.spec = sts.sspec.template.spec ∨
      (Shares w.current.spec (fleetPodSpec j.app) ∧
        Shares w.current.spec sts.sspec.template.spec ∧
        ∀ p ∈ w.cluster.pods, Shares p.spec w.current.spec)

/-- The condition is what a pass relies on. -/
theorem mixedPass_start {w : World} {j : FleetPass} (hc : WorldCoherent j.app.name w)
    (hj : JoinsCurrent w j) : MixedPass j [] w := by
  refine ⟨knows_nil _, hc, fun _ sts hlive => ⟨fun hroll => ?_, ?_⟩⟩
  · rcases hj sts hlive hroll with heq | ⟨hnew, hold, hpods⟩
    · have hcoh := hc.fleet sts hlive
      rw [heq]
      exact ⟨.inl rfl, shares_self _, hcoh.update⟩
    · exact ⟨.inr hnew, hold, hpods⟩
  · rintro list ⟨pre, post, heq, -⟩
    simp at heq

/-- Every reachable world is coherent. -/
theorem worldCoherent_reachable {name : String} {w : World}
    (h : (fleetSystem name JoinsCurrent).Reachable (Fresh name) w) : WorldCoherent name w := by
  refine System.reachable_invariant ?_ ?_ h
  · rintro w ⟨habsent, hpods⟩
    refine ⟨?_, fun _ => hpods⟩
    intro sts hlive
    cases habsent.symm.trans hlive
  · intro w w' hc hstep
    refine System.step_invariant (H := fun j h w => j.app.name = name ∧ MixedPass j h w)
      (fun _ j _ => reconcileFleet_valid j.r j.app j.appVersion) ?_ ?_ ?_ ?_ ?_ hc hstep
    · exact fun w w' hc hmove => hc.kube hmove
    · rintro w j hc ⟨rfl, -, hj⟩
      exact ⟨rfl, mixedPass_start hc hj⟩
    · rintro j h w w' ⟨rfl, hm⟩ hmove
      exact ⟨rfl, hm.kube hmove⟩
    · rintro j h w o res w' ⟨rfl, hm⟩ he hs
      exact ⟨rfl, hm.call he hs⟩
    · rintro j h w ⟨rfl, hm⟩
      exact hm.coherent

/-- **Mixed-fleet safety.**  In every run in which each pass starts with a current revision that
can join, no two pods that cannot share a fleet are ever live together. -/
theorem mixedFleet_safe (name : String) (w : World)
    (h : (fleetSystem name JoinsCurrent).Reachable (Fresh name) w) :
    ∀ p ∈ w.cluster.pods, ∀ q ∈ w.cluster.pods, Shares p.spec q.spec := by
  have hc := worldCoherent_reachable h
  cases hlive : w.cluster.live .statefulSet (name ++ "-celld") with
  | none =>
    rw [hc.absent hlive]
    simp
  | some sts => exact (hc.fleet sts hlive).together

/-! ## §6. Concrete runs. -/

theorem reachable_emptyWorld (name : String) (may : World → FleetPass → Prop) :
    (fleetSystem name may).Reachable (Fresh name) emptyWorld :=
  ⟨emptyWorld, ⟨rfl, rfl⟩, .refl⟩

/-- A fleet at v0.5.1, just created. -/
def created051 : World :=
  runPass (sampleApp "ghcr.io/denoland/celld:v0.5.1" .rolling) emptyWorld

/-- Two pods are up when it is rolled to v0.5.2. -/
def rolled052 : World :=
  runPass (sampleApp "ghcr.io/denoland/celld:v0.5.2" .rolling)
    (createPod ("shop" ++ "-celld") 1 (createPod ("shop" ++ "-celld") 0 created051))

/-- Before any of them has moved it is rolled on to v0.5.3; the third pod comes up from the
current revision. -/
def rolled053 : World :=
  createPod ("shop" ++ "-celld") 2
    (runPass (sampleApp "ghcr.io/denoland/celld:v0.5.3" .rolling) rolled052)

/-- Both rolling updates start under the condition: over the first, the current revision is the
update revision; over the second it can join all there is. -/
theorem mixedFleet_safe_rolled :
    rolled053.cluster.pods.length = 3 ∧
      (∀ sts ∈ rolled053.cluster.live .statefulSet "shop-celld", sts.sspec.partition = some 3 ∧
        stsContainerImage sts.sspec.template.spec = "ghcr.io/denoland/celld:v0.5.3") ∧
      ∀ p ∈ rolled053.cluster.pods, ∀ q ∈ rolled053.cluster.pods, Shares p.spec q.spec := by
  refine ⟨by decide +kernel, by decide +kernel,
    mixedFleet_safe "shop" _ (reachable_createPod ?_ 2)⟩
  have hcreated : (fleetSystem "shop" JoinsCurrent).Reachable (Fresh "shop") created051 := by
    refine reachable_runPass (reachable_emptyWorld _ _) _ rfl (by decide) fun sts hlive => ?_
    cases hlive
  have hfirst : ∀ sts ∈ (createPod ("shop" ++ "-celld") 1 (createPod ("shop" ++ "-celld") 0
      created051)).cluster.live .statefulSet "shop-celld",
      (createPod ("shop" ++ "-celld") 1 (createPod ("shop" ++ "-celld") 0
        created051)).current.spec = sts.sspec.template.spec := by
    decide +kernel
  have hsecond : ∀ sts ∈ rolled052.cluster.live .statefulSet "shop-celld",
      Shares rolled052.current.spec
          (fleetPodSpec (sampleApp "ghcr.io/denoland/celld:v0.5.3" .rolling)) ∧
        Shares rolled052.current.spec sts.sspec.template.spec ∧
        ∀ p ∈ rolled052.cluster.pods, Shares p.spec rolled052.current.spec := by
    decide +kernel
  refine reachable_runPass (reachable_runPass (reachable_createPod (reachable_createPod hcreated 0)
    1) _ rfl (by decide) ?_) _ rfl (by decide) ?_
  · exact fun sts hlive _ => .inl (hfirst sts hlive)
  · exact fun sts hlive _ => .inr (hsecond sts hlive)

/-- It is stopped for v0.6.2 (Recreate), and the controller has seen that. -/
def stopped062 : World :=
  observe ("shop" ++ "-celld")
    (runPass (sampleApp "ghcr.io/denoland/celld:v0.6.2" .recreate) created051)

/-- It is started at v0.6.2, and the first pod is up. -/
def started062 : World :=
  createPod ("shop" ++ "-celld") 0
    (runPass (sampleApp "ghcr.io/denoland/celld:v0.6.2" .recreate) stopped062)

/-- Before the others are, the spec is edited to v0.6.3 with Rolling, which raises the partition
over them; the controller creates the next pod from the current revision. -/
def mixed063 : World :=
  createPod ("shop" ++ "-celld") 1
    (runPass (sampleApp "ghcr.io/denoland/celld:v0.6.3" .rolling) started062)

/-- **Without the condition** a v0.5.1 and a v0.6.2 pod under fleet durability are live
together. -/
theorem mixedFleet_violated :
    (fleetSystem "shop" fun _ _ => True).Reachable (Fresh "shop") mixed063 ∧
      ∃ p ∈ mixed063.cluster.pods, ∃ q ∈ mixed063.cluster.pods, ¬ Shares p.spec q.spec := by
  have h₁ : (fleetSystem "shop" fun _ _ => True).Reachable (Fresh "shop") created051 :=
    reachable_runPass (reachable_emptyWorld _ _) _ rfl (by decide) trivial
  have h₂ : (fleetSystem "shop" fun _ _ => True).Reachable (Fresh "shop") stopped062 :=
    reachable_observe (reachable_runPass h₁ _ rfl (by decide) trivial)
  have h₃ : (fleetSystem "shop" fun _ _ => True).Reachable (Fresh "shop") started062 :=
    reachable_createPod (reachable_runPass h₂ _ rfl (by decide) trivial) 0
  exact ⟨reachable_createPod (reachable_runPass h₃ _ rfl (by decide) trivial) 1, by decide +kernel⟩

end CelldOperator
