/-
  CelldOperator.Keda.Handshake

  **THE PAUSE HANDSHAKE.**  Before a pass updates the StatefulSet it reads the
  ScaledObject as paused and acknowledged, and then finds no HPA for the fleet.

  The acknowledgement is a level, without a generation.  What makes it mean
  something is `AckHonest`: where the pause and its acknowledgement are both
  shown, KEDA is not about to create an HPA.  From there

    acknowledged  →  `Waiting`  →  no HPA listed  →  `Calmed`

  and `Calmed` is kept by KEDA and by the operator until it releases the scaler.
  `AckHonest` itself is lost by one move only: asking for a pause while the
  condition of an EARLIER pause still stands and KEDA has read the release in
  between (`PausesFresh` excludes it; `handshake_broken` is the schedule).
-/
import CelldOperator.Keda.Controller
import CelldOperator.Pass.FleetValid

namespace CelldOperator

open Effect Prog

/-! ## §1. What a whole pass sends. -/

/-- No event writes another value of the annotation than the pause. -/
def Held (h : Trace) : Prop := ∀ e ∈ h, Pauses "true" e.op

/-- What the handshake needs to know of an event of a pass. -/
structure ScalerEvent (r : Reconciler) (app : WorkerApp) (h : Trace) (e : Event Api) : Prop where
  guarded : ∀ o, e.op = .update .statefulSet o → Ran (pauseScaling r app) (.ok true) h ∧ Held h
  valued : ∀ x, e.op.pausedValue = some x → x = "true" ∨ x = "false"

section

variable {α : Type} {r : Reconciler} {app : WorkerApp} {h : Trace}

theorem scalerEvent_of_spares (h : Trace) (e : Event Api) (hw : e.op.writes ≠ some .statefulSet)
    (hv : ∀ x, e.op.pausedValue = some x → x = "true" ∨ x = "false") : ScalerEvent r app h e where
  guarded o ho := absurd (by rw [ho]; rfl) hw
  valued := hv

theorem Held.append {t : Trace} (hh : Held h) (ht : Held t) : Held (h ++ t) := by
  intro e he
  rcases List.mem_append.mp he with he | he
  · exact hh e he
  · exact ht e he

/-- A function that writes neither StatefulSet nor ScaledObject. -/
theorem confined_scaler {K : Kind → Prop} {p : P α} (hc : Confined K p) (hK : ¬ K .statefulSet)
    (hK' : ¬ K .scaledObject) (hh : Held h) :
    Valid (ScalerEvent r app) h p (fun h' _ => Held h') := by
  have honly : Only (fun o : Op => o.writes ≠ some .statefulSet ∧ o.pausedValue = none) p :=
    Only.mono (fun o ho => ⟨fun hw => hK (ho.1 _ hw),
      pausedValue_of_writes fun hw => hK' (ho.1 _ hw)⟩) hc
  refine (Only.valid honly fun h e he => ?_).post ?_
  · exact scalerEvent_of_spares h e he.1 fun x hx => by rw [he.2] at hx; cases hx
  · rintro h' a ⟨t, rfl, -, ht⟩
    refine hh.append fun e he x hx => ?_
    rw [(ht e he).2] at hx
    cases hx

/-- The fleet step: its updates come behind the handshake, and it releases nothing. -/
theorem reconcileFleet_scaler (v : String) (hh : Held h) :
    Valid (ScalerEvent r app) h (reconcileFleet r app v) (fun _ _ => True) := by
  have hv := ((reconcileFleet_valid r app v).along (reconcileFleet_pauses r app v)
    (by simp)).shift h
  rw [List.append_nil] at hv
  refine hv.mono ?_ fun _ _ _ => trivial
  rintro h' ⟨op, res⟩ ⟨t, rfl, hevent, hpauses, hheld⟩
  refine ⟨?_, fun x hx => .inl (hpauses x hx)⟩
  rintro o rfl
  obtain ⟨hash, existing, hg, -, -⟩ := hevent
  exact ⟨hg.paused.append_left h, hh.append hheld⟩

theorem finishPass_scaler (resolved : ResolvedVersion) (conditions : List Condition)
    (outcome : FleetOutcome) : Valid (ScalerEvent r app) h
      (finishPass r app resolved conditions outcome) (fun _ _ => True) := by
  have honly := (finishPass_sparesFleet r app resolved conditions outcome).and
    (finishPass_pauses r app resolved conditions outcome)
  refine (Only.valid honly fun h e he => ?_).post fun _ _ _ => trivial
  refine scalerEvent_of_spares h e he.1 fun x hx => ?_
  rw [he.2 x hx]
  unfold pausedIn
  split
  · exact .inr rfl
  · exact .inl rfl

end

/-- **A whole pass**, as the handshake sees it. -/
theorem reconcileApp_scaler (r : Reconciler) (key : NamespacedName) (app : WorkerApp) :
    Valid (ScalerEvent r app) [] (reconcileApp r key app) (fun _ _ => True) := by
  have hnil : Held [] := by simp [Held]
  unfold reconcileApp
  split
  · have hc := forget_reads key
    exact (confined_scaler hc (fun hf => hf) (fun hf => hf) hnil).post fun _ _ _ => trivial
  · split
    · unfold rejectSpec
      dsimp only
      split
      · exact valid_exit trivial
      · refine valid_check (valid_ask fun res => ⟨?_, ?_⟩)
        · exact scalerEvent_of_spares _ _ (by simp [Op.writes]) fun x hx => by cases hx
        · cases res with
          | error e => trivial
          | ok _ => exact valid_exit trivial
    · unfold reconcileValid
      refine valid_check ((confined_scaler (ensureFoundation_confined r app) (fun hf => hf)
        (fun hf => hf) hnil).post ?_)
      intro h₀ foundation hheld₀
      cases foundation with
      | error e => trivial
      | ok foundation =>
        dsimp only
        rw [valid_bind]
        refine (confined_scaler (resolveAppVersion_reads r app) (fun hf => hf)
          (fun hf => hf) hheld₀).post ?_
        intro h₁ resolved hheld₁
        refine valid_check ((reconcileFleet_scaler resolved.version hheld₁).post ?_)
        intro h₂ outcome _
        cases outcome with
        | error e => trivial
        | ok outcome => exact finishPass_scaler resolved _ outcome

/-! ## §2. The handshake in the history of a pass. -/

/-- The pass read the pause together with its acknowledgement. -/
def SawAck (n : String) (h : Trace) : Prop :=
  ∃ o, Saw h (.getLive .scaledObject n) (.ok o) ∧ isPaused o = true ∧ acknowledgesPause o = true

/-- And then it listed the HPAs and found none for the fleet. -/
def Shaken (n : String) (h : Trace) : Prop :=
  ∃ pre post hpas, h = pre ++ ⟨.listHPAs, .ok hpas⟩ :: post ∧ SawAck n pre ∧
    ∀ hpa ∈ hpas, HPA.scales n hpa = false

/-- KEDA's API was never reported missing. -/
def AlwaysInstalled (h : Trace) : Prop := ∀ e ∈ h, Installed e.op e.resp

theorem SawAck.snoc {n : String} {h : Trace} {e : Event Api} (hs : SawAck n (h ++ [e])) :
    SawAck n h ∨ ∃ o, e = ⟨.getLive .scaledObject n, .ok o⟩ ∧ isPaused o = true ∧
      acknowledgesPause o = true := by
  obtain ⟨o, hsaw, hpaused, hack⟩ := hs
  rcases List.mem_append.mp hsaw with hsaw | hsaw
  · exact .inl ⟨o, hsaw, hpaused, hack⟩
  · exact .inr ⟨o, (List.mem_singleton.mp hsaw).symm, hpaused, hack⟩

theorem Shaken.snoc {n : String} {h : Trace} {e : Event Api} (hs : Shaken n (h ++ [e])) :
    Shaken n h ∨ SawAck n h ∧ ∃ hpas, e = ⟨.listHPAs, .ok hpas⟩ ∧
      ∀ hpa ∈ hpas, HPA.scales n hpa = false := by
  obtain ⟨pre, post, hpas, heq, hack, hnone⟩ := hs
  rcases List.eq_nil_or_concat post with rfl | ⟨post', e', rfl⟩
  · obtain ⟨rfl, he⟩ := List.append_inj' heq rfl
    exact .inr ⟨hack, hpas, List.singleton_inj.mp he, hnone⟩
  · rw [List.concat_eq_append, ← List.cons_append, ← List.append_assoc] at heq
    exact .inl ⟨pre, post', hpas, (List.append_inj' heq rfl).1, hack, hnone⟩

/-- **`pauseScaling` returns true only behind the handshake.** -/
theorem shaken_of_pauseScaling {r : Reconciler} {app : WorkerApp} {h : Trace}
    (henabled : autoscalingEnabled app = true) (hinst : AlwaysInstalled h)
    (hran : Ran (pauseScaling r app) (.ok true) h) : Shaken (fleetName app) h := by
  obtain ⟨pre, t, post, rfl, ht⟩ := hran
  replace hinst : AlwaysInstalled t :=
    fun e he => hinst e (List.mem_append_left _ (List.mem_append_right _ he))
  have hrequest : ∀ {u : Trace}, ¬ Runs (requestPause r app) u (.ok true) := by
    intro u hu
    unfold requestPause at hu
    rcases runs_check hu with ⟨e, he, -⟩ | ⟨_, u₁, u₂, -, -, hu₂⟩
    · cases he
    · obtain ⟨-, he⟩ := runs_ret.mp hu₂
      cases he
  unfold pauseScaling at ht
  obtain ⟨read, t₁, t₂, rfl, ht₁, ht₂⟩ := runs_bind.mp ht
  have hread := runs_req.mp ht₁
  subst hread
  rw [henabled] at ht₂
  simp only [Bool.not_true, Bool.false_eq_true, if_false] at ht₂
  cases read with
  | error e =>
    dsimp only at ht₂
    have hno : e.isNoMatch = false := hinst _ (List.mem_cons_self ..)
    rw [hno] at ht₂
    simp only [Bool.false_eq_true, if_false] at ht₂
    split at ht₂
    · exact absurd ht₂ hrequest
    · obtain ⟨-, he⟩ := runs_ret.mp ht₂
      cases he
  | ok o =>
    dsimp only at ht₂
    split at ht₂
    · exact absurd ht₂ hrequest
    · next hpaused =>
      split at ht₂
      · obtain ⟨-, he⟩ := runs_ret.mp ht₂
        cases he
      · split at ht₂
        · next hack =>
          -- paused and acknowledged: what is left is the list of HPAs
          unfold noFleetHPA at ht₂
          rcases runs_check ht₂ with ⟨e, he, -⟩ | ⟨hpas, u₁, u₂, rfl, hu₁, hu₂⟩
          · cases he
          · have hlist := runs_req.mp hu₁
            subst hlist
            obtain ⟨rfl, hnone⟩ := runs_ret.mp hu₂
            refine ⟨pre ++ [⟨.getLive .scaledObject (fleetName app), .ok o⟩], post, hpas,
              by simp, ⟨o, saw_last _ _ _, by simpa [isPaused] using hpaused, hack⟩, ?_⟩
            simpa [HPA.targets, HPA.scales] using hnone
        · obtain ⟨-, he⟩ := runs_ret.mp ht₂
          cases he

/-! ## §3. What the handshake establishes. -/

/-- Every acknowledgement shown beside a pause is of that pause: KEDA is not about to create. -/
def AckHonest (n : String) (w : ScaledWorld) : Prop :=
  ∀ o, w.cluster.live .scaledObject n = some o → isPaused o = true →
    acknowledgesPause o = true → w.keda ≠ .read false

/-- The pause is asked for, and KEDA is not about to create. -/
structure Waiting (n : String) (w : ScaledWorld) : Prop where
  paused : ∀ o, w.cluster.live .scaledObject n = some o → isPaused o = true
  keda : w.keda ≠ .read false

/-- And there is no HPA for the fleet. -/
structure Calmed (n : String) (w : ScaledWorld) : Prop extends Waiting n w where
  none : ∀ hpa ∈ w.cluster.hpas, hpa.scales n = false

section moves

variable {n : String} {w w' : ScaledWorld}

theorem Acknowledges.isPaused {paused : Bool} {o o' : Obj .scaledObject}
    (ha : Acknowledges paused o o') : isPaused o' = isPaused o := by
  unfold CelldOperator.isPaused
  rw [ha.metadata]

/-- The ScaledObject behind KEDA's report. -/
theorem live_report {c : Cluster} {paused : Bool} {o o' v : Obj .scaledObject}
    (hlive : c.live .scaledObject n = some o) (ha : Acknowledges paused o o')
    (hs : c.Storable o') (hv : (c.put o' hs).live .scaledObject n = some v) : v = o' := by
  have hname : o'.metadata.name = n := by
    rw [ha.metadata]
    exact Cluster.name_of_mem_past (Cluster.mem_past_of_live hlive)
  subst hname
  rw [Cluster.put_live] at hv
  exact (Option.some.inj hv).symm

theorem Waiting.move (hw : Waiting n w) (hm : KedaMove n w w') : Waiting n w' := by
  cases hm with
  | read o idle live =>
    refine ⟨hw.paused, ?_⟩
    rw [hw.paused o live]
    simp
  | act paused reading => exact ⟨hw.paused, by simp⟩
  | report paused o o' acting live answer hs =>
    refine ⟨fun v hv => ?_, by simp⟩
    have heq : v = o' := live_report live answer hs hv
    rw [heq, answer.isPaused]
    exact hw.paused o live
  | forget paused acting gone => exact ⟨hw.paused, by simp⟩
  | others c' scaler hpas => exact ⟨fun o ho => hw.paused o (scaler ▸ ho), hw.keda⟩

/-- **KEDA leaves a calmed fleet calm.** -/
theorem Calmed.move (hc : Calmed n w) (hm : KedaMove n w w') : Calmed n w' := by
  refine ⟨hc.toWaiting.move hm, ?_⟩
  cases hm with
  | act paused reading =>
    -- what it is acting on is a pause it read
    have hp : paused = true := by
      cases paused with
      | true => rfl
      | false => exact absurd reading hc.keda
    subst hp
    intro hpa hmem
    simpa [hpasAfter] using (List.mem_filter.mp hmem).2
  | others c' scaler hpas =>
    intro hpa hmem
    rw [hpas] at hmem
    exact hc.none hpa hmem
  | read | report | forget => exact hc.none

theorem AckHonest.move (ha : AckHonest n w) (hm : KedaMove n w w') : AckHonest n w' := by
  cases hm with
  | read o idle live =>
    intro v hv hpaused _
    rw [live] at hv
    cases hv
    rw [hpaused]
    simp
  | act paused reading => exact fun _ _ _ _ => by simp
  | report paused o o' acting live answer hs => exact fun _ _ _ _ => by simp
  | forget paused acting gone => exact fun _ _ _ _ => by simp
  | others c' scaler hpas => exact fun o ho => ha o (scaler ▸ ho)

end moves

/-! ## §4. The operator's calls. -/

/-- The text of the paused annotation. -/
def pausedText (o : Obj .scaledObject) : String := o.metadata.annotations.get kedaPausedAnnotation

/-- The ScaledObject, if it is there still, has the annotations and the status it had. -/
def ScalerKept (n : String) (c c' : Cluster) : Prop :=
  ∀ v, c'.live .scaledObject n = some v → ∃ cur, c.live .scaledObject n = some cur ∧
    v.metadata.annotations = cur.metadata.annotations ∧ v.status = cur.status

theorem scalerKept_of_eq {n : String} {c c' : Cluster}
    (h : c'.live .scaledObject n = c.live .scaledObject n) : ScalerKept n c c' :=
  fun v hv => ⟨v, h ▸ hv, rfl, rfl⟩

/-- A deletion takes it away, or marks it. -/
theorem Deleted.scalerKept {c c' : Cluster} {k : Kind} {cur : Obj k} (h : Deleted c cur c')
    (hlive : c.live k cur.metadata.name = some cur) (n : String) : ScalerKept n c c' := by
  by_cases hne : Kind.scaledObject ≠ k ∨ n ≠ cur.metadata.name
  · exact scalerKept_of_eq (h.live_of_ne hne)
  · push Not at hne
    obtain ⟨rfl, rfl⟩ := hne
    intro v hv
    rcases h.live_self hlive with hnone | ⟨w, hw, -, hmark | rfl⟩
    · cases hnone.symm.trans hv
    · cases hw.symm.trans hv
      exact ⟨cur, hlive, by rw [hmark.metadata], hmark.status⟩
    · cases hw.symm.trans hv
      exact ⟨v, hlive, rfl, rfl⟩

/-- What an answered operation does to the ScaledObject: it is kept or deleted, or it is an accepted
write with that annotation, whose status is new or the one it had. -/
theorem Serve.scaler {c c' : Cluster} {o : Op} {res : Resp o} (hs : Serve c o res c') (n : String) :
    ScalerKept n c c' ∨
      ∃ v, c'.live .scaledObject n = some v ∧ o.pausedValue = some (pausedText v) ∧
        (∀ frozen, frozenAfter frozen o res = (frozen && pausedText v != "false")) ∧
        (acknowledgesPause v = false ∨ ∃ sent cur, o = .update .scaledObject sent ∧
          isPaused sent = isPaused v ∧ c.live .scaledObject n = some cur ∧
          acknowledgesPause v = acknowledgesPause cur) := by
  unfold Serve at hs
  split at hs
  · exact .inl (scalerKept_of_eq (by rw [hs.1]))
  · exact .inl (scalerKept_of_eq (by rw [hs.1]))
  · exact .inl (scalerKept_of_eq (by rw [hs.1]))
  · next k sent v =>
    obtain ⟨-, hmade, hp, rfl⟩ := hs
    by_cases hne : Kind.scaledObject ≠ k ∨ n ≠ v.metadata.name
    · exact .inl (scalerKept_of_eq (c.put_live_of_ne v hp hne))
    · push Not at hne
      obtain ⟨rfl, rfl⟩ := hne
      refine .inr ⟨v, c.put_live v hp, ?_, ?_, .inl ?_⟩
      · unfold pausedText
        rw [hmade.metadata]
        rfl
      · intro frozen
        unfold pausedText
        rw [hmade.metadata]
        rfl
      · unfold acknowledgesPause
        rw [hmade.status]
        rfl
  · next k sent v =>
    obtain ⟨cur, hlive, -, hacc, hp, rfl⟩ := hs
    by_cases hne : Kind.scaledObject ≠ k ∨ n ≠ v.metadata.name
    · exact .inl (scalerKept_of_eq (c.put_live_of_ne v hp hne))
    · push Not at hne
      obtain ⟨rfl, rfl⟩ := hne
      have hname : v.metadata.name = sent.metadata.name := by rw [hacc.metadata]
      refine .inr ⟨v, c.put_live v hp, ?_, ?_, .inr ⟨sent, cur, rfl, ?_, ?_, ?_⟩⟩
      · unfold pausedText
        rw [hacc.metadata]
        rfl
      · intro frozen
        unfold pausedText
        rw [hacc.metadata]
        rfl
      · unfold isPaused
        rw [hacc.metadata]
      · rw [hname]
        exact hlive
      · unfold acknowledgesPause
        rw [hacc.status]
  · obtain ⟨cur, hlive, -, -, hdeleted⟩ := hs
    exact .inl (hdeleted.scalerKept (Cluster.name_of_live hlive ▸ hlive) n)
  · exact .inl (scalerKept_of_eq (by rw [hs.1]))
  · exact .inl (scalerKept_of_eq (by rw [hs.1]))
  · exact .inl (scalerKept_of_eq (by rw [hs.1]))
  · exact .inl (scalerKept_of_eq (by rw [hs]))

theorem Serve.hpas {c c' : Cluster} {o : Op} {res : Resp o} (hs : Serve c o res c') :
    c'.hpas = c.hpas := by
  unfold Serve at hs
  split at hs
  · rw [hs.1]
  · rw [hs.1]
  · rw [hs.1]
  · obtain ⟨-, -, hp, rfl⟩ := hs
    rfl
  · obtain ⟨cur, -, -, -, hp, rfl⟩ := hs
    rfl
  · obtain ⟨cur, -, -, -, hdeleted⟩ := hs
    exact hdeleted.hpas
  · rw [hs.1]
  · rw [hs.1]
  · rw [hs.1]
  · rw [hs]

section calls

variable {n : String} {w w' : ScaledWorld} {o : Op} {res : Resp o}

/-- A call keeps the operator waiting if what it writes, if anything, asks for the pause. -/
theorem Waiting.call (hw : Waiting n w) (hs : ServeScaled w o res w')
    (hp : ∀ v, o.pausedValue = some (pausedText v) →
      w'.frozen = (w.frozen && pausedText v != "false") → isPaused v = true) : Waiting n w' := by
  refine ⟨?_, hs.keda ▸ hw.keda⟩
  intro o' ho'
  rcases hs.served.scaler n with hkept | ⟨v, hlive, hvalue, hfrozen, -⟩
  · obtain ⟨cur, hcur, hannotations, -⟩ := hkept o' ho'
    have hpaused := hw.paused cur hcur
    unfold isPaused at hpaused ⊢
    rw [hannotations]
    exact hpaused
  · cases hlive.symm.trans ho'
    exact hp o' hvalue (hs.frozen.trans (hfrozen _))

theorem Calmed.call (hc : Calmed n w) (hs : ServeScaled w o res w')
    (hp : ∀ v, o.pausedValue = some (pausedText v) →
      w'.frozen = (w.frozen && pausedText v != "false") → isPaused v = true) : Calmed n w' := by
  refine ⟨hc.toWaiting.call hs hp, ?_⟩
  rw [hs.served.hpas]
  exact hc.none

theorem isPaused_of_text {v : Obj .scaledObject} (h : pausedText v = "true") :
    isPaused v = true := by
  have htrue : v.metadata.annotations.get kedaPausedAnnotation = "true" := h
  simp [isPaused, annotationTrue, htrue]

/-- A call leaves the acknowledgements honest, under the condition. -/
theorem AckHonest.call (ha : AckHonest n w) (hs : ServeScaled w o res w')
    (hfresh : PausesFresh n w o) : AckHonest n w' := by
  intro o' ho' hpaused hack
  rw [hs.keda]
  rcases hs.served.scaler n with hkept | ⟨v, hlive, -, -, hstatus⟩
  · obtain ⟨cur, hcur, hannotations, hsame⟩ := hkept o' ho'
    unfold isPaused at hpaused
    unfold acknowledgesPause at hack
    rw [hannotations] at hpaused
    rw [hsame] at hack
    exact ha cur hcur hpaused hack
  · cases hlive.symm.trans ho'
    rcases hstatus with hnew | ⟨sent, cur, rfl, hsent, hcur, heq⟩
    · rw [hnew] at hack
      cases hack
    · rw [heq] at hack
      cases hp : isPaused cur with
      | true => exact ha cur hcur hp hack
      | false => exact hfresh sent rfl (hsent.trans hpaused) cur hcur hp hack

/-- The ghost is set by an update of the StatefulSet only. -/
theorem frozen_cases {frozen : Bool} (h : frozenAfter frozen o res = true) :
    frozen = true ∨ ∃ sts, o = .update .statefulSet sts := by
  unfold frozenAfter at h
  split at h
  · exact .inr ⟨_, rfl⟩
  · exact .inl (Bool.and_eq_true_iff.mp h).1
  · exact .inl (Bool.and_eq_true_iff.mp h).1
  · exact .inl h

end calls

/-! ## §5. Along a pass, and along every run. -/

/-- What holds of the world inside a pass with the history `h`. -/
structure Shaking (n : String) (h : Trace) (w : ScaledWorld) : Prop where
  honest : AckHonest n w
  frozen : w.frozen = true → Calmed n w
  installed : AlwaysInstalled h
  waiting : Held h → SawAck n h → Waiting n w
  calmed : Held h → Shaken n h → Calmed n w

theorem Shaking.move {n : String} {h : Trace} {w w' : ScaledWorld} (hw : Shaking n h w)
    (hm : KedaMove n w w') : Shaking n h w' where
  honest := hw.honest.move hm
  frozen hf := by
    have hsame : w'.frozen = w.frozen := by cases hm <;> rfl
    exact (hw.frozen (hsame ▸ hf)).move hm
  installed := hw.installed
  waiting hh hs := (hw.waiting hh hs).move hm
  calmed hh hs := (hw.calmed hh hs).move hm

/-- **One answered call of a pass.** -/
theorem Shaking.call {r : Reconciler} {app : WorkerApp} {h : Trace} {w w' : ScaledWorld} {o : Op}
    {res : Resp o} (henabled : autoscalingEnabled app = true) (hw : Shaking (fleetName app) h w)
    (he : ScalerEvent r app h ⟨o, res⟩) (hs : ServeScaled w o res w')
    (hfresh : PausesFresh (fleetName app) w o) :
    Shaking (fleetName app) (h ++ [⟨o, res⟩]) w' := by
  have hsnoc : Held (h ++ [⟨o, res⟩]) → Held h ∧ ∀ v : Obj .scaledObject,
      o.pausedValue = some (pausedText v) →
        w'.frozen = (w.frozen && pausedText v != "false") → isPaused v = true := by
    intro hh
    refine ⟨fun e hmem => hh e (List.mem_append_left _ hmem), fun v hv _ => ?_⟩
    have hpauses := hh ⟨o, res⟩ (List.mem_append_right _ (List.mem_singleton_self _))
    exact isPaused_of_text (hpauses _ hv)
  refine ⟨hw.honest.call hs hfresh, ?_, ?_, ?_, ?_⟩
  · intro hf
    -- frozen before, or frozen by this very update: calmed either way
    have hcalm : Calmed (fleetName app) w := by
      rcases frozen_cases (hs.frozen ▸ hf) with hbefore | ⟨sts, rfl⟩
      · exact hw.frozen hbefore
      · obtain ⟨hran, hheld⟩ := he.guarded sts rfl
        exact hw.calmed hheld (shaken_of_pauseScaling henabled hw.installed hran)
    refine hcalm.call hs fun v hv hfrozen => ?_
    rw [hf] at hfrozen
    have hne := (Bool.and_eq_true_iff.mp hfrozen.symm).2
    rcases he.valued _ hv with htrue | hfalse
    · exact isPaused_of_text htrue
    · rw [hfalse] at hne
      cases hne
  · intro e hmem
    rcases List.mem_append.mp hmem with hmem | hmem
    · exact hw.installed e hmem
    · rw [List.mem_singleton.mp hmem]
      exact hs.installed
  · intro hh hsaw
    obtain ⟨hheld, hp⟩ := hsnoc hh
    rcases hsaw.snoc with hsaw | ⟨obj, heq, hpaused, hack⟩
    · exact (hw.waiting hheld hsaw).call hs hp
    · -- the read itself: the object is live, and its acknowledgement honest
      cases heq
      have hlive := hs.served.2
      refine Waiting.call ⟨fun o' ho' => ?_, hw.honest obj hlive hpaused hack⟩ hs hp
      cases hlive.symm.trans ho'
      exact hpaused
  · intro hh hshaken
    obtain ⟨hheld, hp⟩ := hsnoc hh
    rcases hshaken.snoc with hshaken | ⟨hsaw, hpas, heq, hnone⟩
    · exact (hw.calmed hheld hshaken).call hs hp
    · cases heq
      have hperm := hs.served.2
      exact Calmed.call ⟨hw.waiting hheld hsaw, fun hpa hmem =>
        hnone hpa (hperm.mem_iff.mpr hmem)⟩ hs hp

/-- The invariant between passes. -/
def ScalerInv (n : String) (w : ScaledWorld) : Prop :=
  AckHonest n w ∧ (w.frozen = true → Calmed n w)

/-- Along every run under the condition. -/
theorem scalerInv_reachable {name : String} {w : ScaledWorld}
    (h : ((scalerSystem name).restrict (PausesFresh (name ++ "-celld"))).Reachable (Unscaled name)
      w) : ScalerInv (name ++ "-celld") w := by
  refine System.reachable_invariant ?_ ?_ h
  · rintro w ⟨hgone, hidle, hfrozen⟩
    refine ⟨fun o ho => (by cases hgone.symm.trans ho), fun hf => ?_⟩
    rw [hfrozen] at hf
    cases hf
  · intro w w' hinv hstep
    refine System.step_invariant
      (H := fun j h w => (j.app.name = name ∧ autoscalingEnabled j.app = true) ∧
        Shaking (name ++ "-celld") h w)
      (fun _ j _ => reconcileApp_scaler j.r j.key j.app) ?_ ?_ ?_ ?_ ?_ hinv hstep
    · intro w w' hinv hm
      refine ⟨hinv.1.move hm, fun hf => ?_⟩
      have hsame : w'.frozen = w.frozen := by cases hm <;> rfl
      exact (hinv.2 (hsame ▸ hf)).move hm
    · intro w j hinv ha
      refine ⟨ha, hinv.1, hinv.2, by simp [AlwaysInstalled], ?_, ?_⟩
      · rintro - ⟨o, hsaw, -⟩
        cases hsaw
      · rintro - ⟨pre, post, hpas, heq, -⟩
        simp at heq
    · rintro j h w w' ⟨ha, hw⟩ hm
      exact ⟨ha, hw.move hm⟩
    · rintro j h w o res w' ⟨⟨rfl, henabled⟩, hw⟩ he ⟨hs, hfresh⟩
      exact ⟨⟨rfl, henabled⟩, hw.call henabled he hs hfresh⟩
    · rintro j h w ⟨-, hw⟩
      exact ⟨hw.honest, hw.frozen⟩

/-- **The pause handshake.**  In every run in which a pause is asked for only while KEDA is not
still acting on the release before it: from an update of the StatefulSet until the scaler is
released, there is no HPA for the fleet. -/
theorem pause_handshake (name : String) (w : ScaledWorld)
    (h : ((scalerSystem name).restrict (PausesFresh (name ++ "-celld"))).Reachable (Unscaled name)
      w) (hfrozen : w.frozen = true) :
    ∀ hpa ∈ w.cluster.hpas, hpa.scales (name ++ "-celld") = false :=
  ((scalerInv_reachable h).2 hfrozen).none

/-! ## §6. Concrete runs. -/

/-- A pass in which every call succeeds and every pod serves version 1. -/
def operate (image : String) (w : ScaledWorld) : ScaledWorld :=
  (runWith (answerScaled { state := fun _ => .ok (sampleState "1" 0) })
    (reconcileApp sampleReconciler ⟨"prod", "shop"⟩ (scaledApp image)) w).2.1

theorem pausesFresh_of_idle {n : String} {w : ScaledWorld} (hidle : w.keda = .idle) (o : Op) :
    PausesFresh n w o := by
  intro _ _ _ _ _ _ _
  rw [hidle]
  simp

section runs

variable {C : ScaledWorld → Op → Prop} {w : ScaledWorld}

/-- A pass during which KEDA stands still. -/
theorem reachable_operate {keda : Keda} (hC : ∀ w o, w.keda = keda → C w o) (hkeda : w.keda = keda)
    (hr : ((scalerSystem "shop").restrict C).Reachable (Unscaled "shop") w) (image : String) :
    ((scalerSystem "shop").restrict C).Reachable (Unscaled "shop") (operate image w) :=
  hr.step (.job (j := ⟨sampleReconciler, ⟨"prod", "shop"⟩, scaledApp image⟩) ⟨rfl, rfl⟩
    (exec_runWith_of_inv (A := fun w => w.keda = keda) (fun _ _ h => h)
      (fun w o h => ⟨serve_answerScaled _ w o, hC w o h⟩) _ w hkeda))

theorem reachable_kedaNext (hr : ((scalerSystem "shop").restrict C).Reachable (Unscaled "shop") w) :
    ((scalerSystem "shop").restrict C).Reachable (Unscaled "shop")
      (kedaNext ("shop" ++ "-celld") w) := by
  rcases kedaMove_kedaNext ("shop" ++ "-celld") w with heq | hm
  · rw [heq]
    exact hr
  · exact hr.step (.others hm)

end runs

/-- A converged fleet at v0.5.1 without a scaler. -/
def unscaledWorld : ScaledWorld := ⟨convergedCluster servingApp, .idle, false⟩

/-- The image is edited: the pause is asked for, and KEDA acknowledges it. -/
def acknowledgedWorld : ScaledWorld :=
  kedaNext ("shop" ++ "-celld") (kedaNext ("shop" ++ "-celld") (kedaNext ("shop" ++ "-celld")
    (operate "ghcr.io/denoland/celld:v0.5.2" unscaledWorld)))

theorem reachable_acknowledgedWorld {C : ScaledWorld → Op → Prop}
    (hC : ∀ w o, w.keda = .idle → C w o) :
    ((scalerSystem "shop").restrict C).Reachable (Unscaled "shop") acknowledgedWorld := by
  have h₀ : ((scalerSystem "shop").restrict C).Reachable (Unscaled "shop") unscaledWorld :=
    ⟨unscaledWorld, ⟨by decide +kernel, rfl, rfl⟩, .refl⟩
  exact reachable_kedaNext (reachable_kedaNext (reachable_kedaNext
    (reachable_operate hC rfl h₀ "ghcr.io/denoland/celld:v0.5.2")))

theorem pause_handshake_acknowledged :
    let w := operate "ghcr.io/denoland/celld:v0.5.2" acknowledgedWorld
    w.frozen = true ∧ ∀ hpa ∈ w.cluster.hpas, hpa.scales ("shop" ++ "-celld") = false := by
  have hidle : acknowledgedWorld.keda = .idle := by decide +kernel
  have hfrozen : (operate "ghcr.io/denoland/celld:v0.5.2" acknowledgedWorld).frozen = true := by
    decide +kernel
  have hfresh : ∀ w o, w.keda = .idle → PausesFresh ("shop" ++ "-celld") w o :=
    fun w o h => pausesFresh_of_idle h o
  exact ⟨hfrozen, pause_handshake "shop" _ (reachable_operate hfresh hidle
    (reachable_acknowledgedWorld hfresh) "ghcr.io/denoland/celld:v0.5.2") hfrozen⟩

/-- The edit is taken back: the scaler is released, and KEDA reads that. -/
def releasedWorld : ScaledWorld :=
  kedaNext ("shop" ++ "-celld") (operate "ghcr.io/denoland/celld:v0.5.1" acknowledgedWorld)

/-- The edit is made again: one pass asks for the pause, the next takes the old acknowledgement
for its own and starts the rolling update; then KEDA creates the HPA. -/
def brokenWorld : ScaledWorld :=
  kedaNext ("shop" ++ "-celld") (operate "ghcr.io/denoland/celld:v0.5.2"
    (operate "ghcr.io/denoland/celld:v0.5.2" releasedWorld))

/-- **Without the condition** the fleet is scaled in the middle of a rolling update. -/
theorem handshake_broken :
    (scalerSystem "shop").Reachable (Unscaled "shop") brokenWorld ∧ brokenWorld.frozen = true ∧
      ∃ hpa ∈ brokenWorld.cluster.hpas, hpa.scales ("shop" ++ "-celld") = true := by
  refine ⟨?_, by decide +kernel⟩
  rw [← System.restrict_true (scalerSystem "shop")]
  have hacknowledged := reachable_acknowledgedWorld (C := fun _ _ => True) fun _ _ _ => trivial
  have hreleased := reachable_kedaNext
    (reachable_operate (fun _ _ _ => trivial) rfl hacknowledged "ghcr.io/denoland/celld:v0.5.1")
  exact reachable_kedaNext (reachable_operate (fun _ _ _ => trivial) rfl
    (reachable_operate (fun _ _ _ => trivial) rfl hreleased "ghcr.io/denoland/celld:v0.5.2")
    "ghcr.io/denoland/celld:v0.5.2")

end CelldOperator
