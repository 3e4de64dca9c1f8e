/-
  CelldOperator.Pass.Known

  **WHAT A PASS KNOWS OF THE API SERVER.**

  Other writers move between any two calls of a pass, so what it read may be out
  of date when it writes.  What stays true is `Knows`: every object the pass was
  handed is a version the server stored.  Together with the exactness of resource
  versions this settles what a write of the StatefulSet acts on:

    • `FleetWrite.live` — a write that takes effect acts on the very object the
      pass read and based its decision on,
    • `Spared.untouched` — it is the first one of its pass that does: behind an
      accepted clamp the generation has moved, and no gate opens.
-/
import CelldOperator.Pass.FleetValid
import CelldOperator.Cluster.Server

namespace CelldOperator

open Effect Prog

/-! ## §1. Known versions. -/

/-- Every object the pass was handed is a version the server has stored. -/
structure Knows (h : Trace) (c : Cluster) : Prop where
  read : ∀ k n v, Saw h (.getLive k n) (.ok v) → v ∈ c.past k n
  cached : ∀ k n v, Saw h (.get k n) (.ok v) → v ∈ c.past k n
  stored : ∀ k o v, Saw h (.update k o) (.ok v) →
    ∃ cur ∈ c.past k o.metadata.name, cur.rv = o.rv ∧ Accepted cur o v

theorem knows_nil (c : Cluster) : Knows [] c := by
  constructor <;> intro _ _ _ hs <;> cases hs

/-- Others only add versions. -/
theorem Knows.later {h : Trace} {c c' : Cluster} (hk : Knows h c) (hl : c.Later c') :
    Knows h c' where
  read k n v hs := hl.mem_past (hk.read k n v hs)
  cached k n v hs := hl.mem_past (hk.cached k n v hs)
  stored k o v hs := by
    obtain ⟨cur, hcur, hrest⟩ := hk.stored k o v hs
    exact ⟨cur, hl.mem_past hcur, hrest⟩

theorem saw_snoc {h : Trace} {e : Event Api} {o : Op} {res : Resp o}
    (hs : Saw (h ++ [e]) o res) : Saw h o res ∨ e = ⟨o, res⟩ := by
  rcases List.mem_append.mp hs with hs | hs
  · exact .inl hs
  · exact .inr (List.mem_singleton.mp hs).symm

/-- An answer of the server is known. -/
theorem Knows.serve {h : Trace} {c c' : Cluster} {o : Op} {res : Resp o} (hk : Knows h c)
    (hs : Serve c o res c') : Knows (h ++ [⟨o, res⟩]) c' := by
  have hk' := hk.later hs.later
  refine ⟨?_, ?_, ?_⟩
  · intro k n v hsaw
    rcases saw_snoc hsaw with hsaw | heq
    · exact hk'.read k n v hsaw
    · cases heq
      obtain ⟨rfl, hlive⟩ := hs
      exact Cluster.mem_past_of_live hlive
  · intro k n v hsaw
    rcases saw_snoc hsaw with hsaw | heq
    · exact hk'.cached k n v hsaw
    · cases heq
      obtain ⟨rfl, hpast⟩ := hs
      exact hpast
  · intro k sent v hsaw
    rcases saw_snoc hsaw with hsaw | heq
    · exact hk'.stored k sent v hsaw
    · cases heq
      have hl := Serve.later hs
      obtain ⟨cur, hlive, hrv, hacc, -⟩ := hs
      exact ⟨cur, hl.mem_past (Cluster.mem_past_of_live hlive), hrv, hacc⟩

/-! ## §2. The identity of what is written. -/

@[simp] theorem annotate_name {k : Kind} (o : Obj k) (f : StrMap → StrMap) :
    (annotate o f).metadata.name = o.metadata.name := rfl

@[simp] theorem annotate_rv {k : Kind} (o : Obj k) (f : StrMap → StrMap) :
    (annotate o f).rv = o.rv := rfl

@[simp] theorem withSpec_metadata (s : StatefulSet) (f : StatefulSetSpec → StatefulSetSpec) :
    (withSpec s f).metadata = s.metadata := rfl

@[simp] theorem setStsPartition_metadata (s : StatefulSet) (p : Nat) :
    (setStsPartition s p).metadata = s.metadata := rfl

/-- A clamp raises the generation past everything observed. -/
theorem clamp_unobserved {c : Cluster} {n : String} {existing stored : StatefulSet}
    (hmem : existing ∈ c.past .statefulSet n)
    (hover : stsReplicas existing < stsPartition existing)
    (hacc : Accepted existing (clampPartition existing) stored) :
    stored.sstatus.observedGeneration ≠ stored.metadata.generation := by
  have hle := Cluster.observed_le_of_mem_past hmem
  have hstatus : stored.sstatus = existing.sstatus := hacc.status
  have hspec : (clampPartition existing).spec ≠ existing.spec := by
    intro heq
    have hpart : stsPartition (clampPartition existing) = stsPartition existing := by
      unfold stsPartition Obj.sspec
      rw [heq]
    have hval : stsPartition (clampPartition existing) = stsReplicas existing := rfl
    omega
  have hgen : stored.metadata.generation = existing.metadata.generation + 1 := by
    rw [hacc.metadata]
    exact if_neg hspec
  rw [hstatus, hgen]
  omega

section

variable {r : Reconciler} {app : WorkerApp} {h : Trace} {c c' : Cluster} {n : String}
  {existing base desired o stored : StatefulSet}

/-- The server's answer to a clamp, from what the pass knows. -/
theorem Knows.clamped (hk : Knows h c) (hmem : existing ∈ c.past .statefulSet n)
    (hsaw : Saw h (.update .statefulSet (clampPartition existing)) (.ok stored)) :
    Accepted existing (clampPartition existing) stored := by
  obtain ⟨cur, hcur, hrv, hacc⟩ := hk.stored _ _ _ hsaw
  have hname : existing.metadata.name = n := Cluster.name_of_mem_past hmem
  have hcur : cur ∈ c.past .statefulSet n := hname ▸ hcur
  have heq : cur = existing := Versioned.token_inj hcur hmem hrv
  exact heq ▸ hacc

/-- A release starts from the object the pass read. -/
theorem ReleaseBase.exact {partition : Nat} (hk : Knows h c)
    (hmem : existing ∈ c.past .statefulSet n) (hb : ReleaseBase existing h base partition)
    (hobs : base.sstatus.observedGeneration = base.metadata.generation) :
    base = existing ∧ partition = stsPartition existing ∧
      stsPartition existing ≤ stsReplicas existing := by
  cases hb with
  | read le => exact ⟨rfl, rfl, le⟩
  | clamped _ high ack => exact absurd hobs (clamp_unobserved hmem high (hk.clamped hmem ack))

/-- **The first write.**  In a pass that knows the server, no accepted write comes before. -/
theorem Spared.untouched (hk : Knows h c) (hmem : existing ∈ c.past .statefulSet n)
    (hs : Spared existing h) : Untouched h := by
  rcases hs with hu | ⟨stored, hover, hsaw, hobs⟩
  · exact hu
  · exact absurd hobs (clamp_unobserved hmem hover (hk.clamped hmem hsaw))

theorem LeftAlone.untouched (hk : Knows h c) (hs : LeftAlone app h) : Untouched h := by
  rcases hs with hu | ⟨existing, hread, hclamped⟩
  · exact hu
  · exact Spared.untouched hk (hk.read _ _ _ hread) (.inr hclamped)

/-- What a rolling step sends carries the name and the resource version of the object read. -/
theorem RolloutWrite.identity (hk : Knows h c) (hmem : existing ∈ c.past .statefulSet n)
    (hw : RolloutWrite r app existing h o) :
    o.metadata.name = existing.metadata.name ∧ o.rv = existing.rv := by
  cases hw with
  | clamp => exact ⟨rfl, rfl⟩
  | release base partition now start gates clock =>
    obtain ⟨rfl, -, -⟩ := start.exact hk hmem gates.observed
    exact ⟨rfl, rfl⟩

/-- Every write of a pass does. -/
theorem FleetWrite.identity (hk : Knows h c) (hmem : existing ∈ c.past .statefulSet n)
    (hw : FleetWrite r app existing desired h o) :
    o.metadata.name = existing.metadata.name ∧ o.rv = existing.rv := by
  cases hw with
  | rollout _ _ write => exact write.identity hk hmem
  | rollingStart | scaleDown | recreateStart | scale => exact ⟨rfl, rfl⟩

/-- A write keeps the template, or brings the one of the spec. -/
theorem FleetWrite.template_cases (hk : Knows h c)
    (hmem : existing ∈ c.past .statefulSet n) (hw : FleetWrite r app existing desired h o) :
    o.sspec.template = existing.sspec.template ∨ o.sspec.template = desired.sspec.template := by
  cases hw with
  | rollingStart | recreateStart => exact .inr rfl
  | scaleDown | scale => exact .inl rfl
  | rollout idle same write =>
    cases write with
    | clamp high => exact .inl rfl
    | release base partition now start gates clock =>
      obtain ⟨rfl, -, -⟩ := start.exact hk hmem gates.observed
      exact .inl rfl

/-- A version that was updated is no longer live. -/
theorem superseded_of_update {k : Kind} {cur sent new : Obj k} (hlive : c.live k n = some cur)
    (hname : sent.metadata.name = n) (hacc : Accepted cur sent new) {hp : c.Storable new} :
    (c.put new hp).live k n ≠ some cur := by
  have hn : new.metadata.name = n := by
    rw [hacc.metadata]
    exact hname
  have hmem := Cluster.mem_past_of_live hlive
  subst hn
  rw [Cluster.put_live]
  rintro ⟨⟩
  exact hp.fresh _ hmem rfl

/-- An update that takes effect and carries the resource version of a known object acts on
that object. -/
theorem serve_update_exact (hmem : existing ∈ c.past .statefulSet n)
    (hid : o.metadata.name = existing.metadata.name ∧ o.rv = existing.rv)
    (hs : Serve c (.update .statefulSet o) (.ok stored) c') :
    c.live .statefulSet n = some existing ∧ Accepted existing o stored ∧
      ∃ hp, c' = c.put stored hp := by
  obtain ⟨cur, hlive, hrv, hacc, hput⟩ := hs
  have hname : o.metadata.name = n := hid.1.trans (Cluster.name_of_mem_past hmem)
  rw [hname] at hlive
  have heq : existing = cur := Cluster.eq_of_rv hmem hlive (hid.2.symm.trans hrv.symm)
  rw [heq]
  exact ⟨hlive, hacc, hput⟩

/-- **Exact writes.**  A write of the pass that takes effect acts on the object it read. -/
theorem FleetWrite.live {hash : String} (hk : Knows h c) (hb : Basis r app h hash existing)
    (hw : FleetWrite r app existing desired h o)
    (hs : Serve c (.update .statefulSet o) (.ok stored) c') :
    c.live .statefulSet (fleetName app) = some existing ∧ Accepted existing o stored ∧
      ∃ hp, c' = c.put stored hp := by
  have hmem := hk.read _ _ _ hb.read
  exact serve_update_exact hmem (hw.identity hk hmem) hs

end

/-! ## §3. A pass against the server. -/

/-- Along every execution the objects only move on. -/
theorem later_exec {α : Type} {env : Cluster → Cluster → Prop}
    (henv : ∀ c c', env c c' → c.Later c') {c c' : Cluster} {p q : P α} {t : Trace}
    (hx : Exec Serve env c p t c' q) : c.Later c' :=
  hx.invariant (A := fun s => c.Later s) (fun _ _ hl he => hl.trans (henv _ _ he))
    (fun _ _ _ _ hl hs => hl.trans hs.later) (Cluster.Later.refl c)

/-- In every execution the pass knows the server, whatever the others do. -/
theorem knows_exec {α : Type} {env : Cluster → Cluster → Prop}
    (henv : ∀ c c', env c c' → c.Later c') {c c' : Cluster} {p q : P α} {t : Trace}
    (hx : Exec Serve env c p t c' q) : Knows t c' := by
  exact (hx.rely_guarantee (H := Knows) (fun _ _ _ hk he => hk.later (henv _ _ he))
    (fun _ _ _ _ _ hk _ hs => hk.serve hs) (valid_trivial [] p) (knows_nil c)).1

/-! ## §4. What an answered event does to the fleet. -/

/-- **The moves of a pass.**  The event leaves every StatefulSet and the pods alone, or it
creates the fleet, or it is the one write of the pass, on the object the pass read. -/
inductive FleetMove (r : Reconciler) (app : WorkerApp) (appVersion : String) (h : Trace)
    (c : Cluster) : Event Api → Cluster → Prop where
  | idle {e : Event Api} {c' : Cluster}
      (same : ∀ n, c'.store .statefulSet n = c.store .statefulSet n) (pods : c'.pods = c.pods)
      (quiet : ¬ acknowledged e.op e.resp) : FleetMove r app appVersion h c e c'
  | created (hash : String) (stored : StatefulSet) {c' : Cluster}
      (absent : c.live .statefulSet (fleetName app) = none)
      (made : Created (desiredFleet r app hash appVersion) stored)
      (moved : ∃ hp, c' = c.put stored hp) :
      FleetMove r app appVersion h c
        ⟨.create .statefulSet (desiredFleet r app hash appVersion), .ok stored⟩ c'
  | wrote (hash : String) (existing o stored : StatefulSet) {c' : Cluster}
      (guards : Guards r app h hash existing)
      (write : FleetWrite r app existing (desiredFleet r app hash appVersion) h o)
      (first : Untouched h) (live : c.live .statefulSet (fleetName app) = some existing)
      (accepted : Accepted existing o stored) (named : stored.metadata.name = fleetName app)
      (moved : ∃ hp, c' = c.put stored hp) :
      FleetMove r app appVersion h c ⟨.update .statefulSet o, .ok stored⟩ c'

/-- The live object after storing one under the name. -/
theorem live_of_put {c c' : Cluster} {k : Kind} {v : Obj k} {n : String}
    (hmoved : ∃ hp, c' = c.put v hp) (hname : v.metadata.name = n) : c'.live k n = some v := by
  obtain ⟨hp, rfl⟩ := hmoved
  rw [← hname]
  exact c.put_live v hp

/-- Without an accepted write of it, no StatefulSet changes; the pods are never the server's
to change. -/
theorem Serve.spares {c c' : Cluster} {o : Op} {res : Resp o} (hs : Serve c o res c')
    (hq : ¬ acknowledged o res) :
    (∀ n, c'.store .statefulSet n = c.store .statefulSet n) ∧ c'.pods = c.pods := by
  unfold Serve at hs
  split at hs
  · rw [hs.1]; exact ⟨fun _ => rfl, rfl⟩
  · rw [hs.1]; exact ⟨fun _ => rfl, rfl⟩
  · rw [hs.1]; exact ⟨fun _ => rfl, rfl⟩
  · next k sent v =>
    obtain ⟨-, -, hp, rfl⟩ := hs
    have hk : Kind.statefulSet ≠ k := by
      rintro rfl
      exact hq trivial
    exact ⟨fun n => c.put_store_of_ne v hp (.inl hk), rfl⟩
  · next k sent v =>
    obtain ⟨cur, -, -, -, hp, rfl⟩ := hs
    have hk : Kind.statefulSet ≠ k := by
      rintro rfl
      exact hq trivial
    exact ⟨fun n => c.put_store_of_ne v hp (.inl hk), rfl⟩
  · next k n uid rv _ =>
    obtain ⟨cur, -, -, -, hdeleted⟩ := hs
    have hk : Kind.statefulSet ≠ k := by
      rintro rfl
      exact hq trivial
    exact ⟨fun n' => hdeleted.store_of_ne (.inl hk), hdeleted.pods⟩
  · rw [hs.1]; exact ⟨fun _ => rfl, rfl⟩
  · rw [hs.1]; exact ⟨fun _ => rfl, rfl⟩
  · rw [hs.1]; exact ⟨fun _ => rfl, rfl⟩
  · rw [hs]; exact ⟨fun _ => rfl, rfl⟩

/-- An operation that does not write a kind leaves its objects. -/
theorem Serve.live_of_writes {c c' : Cluster} {o : Op} {res : Resp o} (hs : Serve c o res c')
    {k : Kind} (hw : o.writes ≠ some k) (n : String) : c'.live k n = c.live k n := by
  unfold Serve at hs
  split at hs
  · rw [hs.1]
  · rw [hs.1]
  · rw [hs.1]
  · next k' sent v =>
    obtain ⟨-, -, hp, rfl⟩ := hs
    exact c.put_live_of_ne v hp (.inl fun heq => hw (congrArg some heq.symm))
  · next k' sent v =>
    obtain ⟨cur, -, -, -, hp, rfl⟩ := hs
    exact c.put_live_of_ne v hp (.inl fun heq => hw (congrArg some heq.symm))
  · next k' n' uid rv _ =>
    obtain ⟨cur, -, -, -, hdeleted⟩ := hs
    exact hdeleted.live_of_ne (.inl fun heq => hw (congrArg some heq.symm))
  · rw [hs.1]
  · rw [hs.1]
  · rw [hs.1]
  · rw [hs]

/-- Nobody else changes the StatefulSet `n`. -/
def SparesObject (n : String) (c c' : Cluster) : Prop :=
  c.Later c' ∧ c'.live .statefulSet n = c.live .statefulSet n

/-- Without an accepted write the StatefulSet stays. -/
theorem exec_untouched {α : Type} {n : String} {c c' : Cluster} {p q : P α} {t : Trace}
    (hx : Exec Serve (SparesObject n) c p t c' q) (hu : Untouched t) :
    c'.live .statefulSet n = c.live .statefulSet n := by
  induction hx with
  | refl => rfl
  | env he _ ih => exact (ih hu).trans he.2
  | call hs _ ih =>
    have hquiet := hu _ (List.mem_cons_self ..)
    have hstore := (Serve.spares hs hquiet).1 n
    refine (ih fun e he => hu e (List.mem_cons_of_mem _ he)).trans ?_
    unfold Cluster.live
    rw [hstore]

/-- What such a pass reads of the StatefulSet before it writes is what was there when it began. -/
theorem exec_read {α : Type} {n : String} {c c' : Cluster} {p q : P α} {t : Trace}
    {sts : StatefulSet} (hx : Exec Serve (SparesObject n) c p t c' q) (hu : Untouched t)
    (hs : Saw t (.getLive .statefulSet n) (.ok sts)) : c.live .statefulSet n = some sts := by
  obtain ⟨h, rest, rfl⟩ := List.append_of_mem hs
  obtain ⟨c₁, c₂, k, hbefore, ⟨-, hlive⟩, -⟩ := hx.split rfl
  rw [← exec_untouched hbefore fun e he => hu e (List.mem_append_left _ he)]
  exact hlive

/-- **Step inversion.**  Every event of a pass the server answers is one of the moves. -/
theorem fleetMove_of_serve {r : Reconciler} {app : WorkerApp} {appVersion : String} {h : Trace}
    {c c' : Cluster} {o : Op} {res : Resp o} (hk : Knows h c)
    (he : FleetEvent r app appVersion h ⟨o, res⟩) (hs : Serve c o res c') :
    FleetMove r app appVersion h c ⟨o, res⟩ c' := by
  by_cases hq : acknowledged o res
  · unfold acknowledged at hq
    split at hq
    · obtain ⟨hash, e', -, rfl, -, -⟩ := he
      obtain ⟨habsent, hmade, hput⟩ := hs
      exact .created hash _ habsent hmade hput
    · obtain ⟨hash, existing, hg, hw, hsp⟩ := he
      obtain ⟨hlive, hacc, hput⟩ := hw.live hk hg.toBasis hs
      have hmem := hk.read _ _ _ hg.read
      have hname := (hw.identity hk hmem).1.trans (Cluster.name_of_mem_past hmem)
      refine .wrote hash existing _ _ hg hw (hsp.untouched hk hmem) hlive hacc ?_ hput
      rw [hacc.metadata]
      exact hname
    · exact he.elim
    · exact hq.elim
  · obtain ⟨hsame, hpods⟩ := hs.spares hq
    exact .idle hsame hpods hq

/-- A pass of the operator: its flags, the WorkerApp as edited so far, the resolved version. -/
structure FleetPass where
  r : Reconciler
  app : WorkerApp
  appVersion : String

/-- In a pass amid others, after the history `h` and in the state `c`, a write took effect on the
live StatefulSet `existing` and was stored as `stored`. -/
def WritesFleet (j : FleetPass) (h : Trace) (c : Cluster) (existing stored : StatefulSet) : Prop :=
  ∃ c₀ o k c', Exec Serve Cluster.Later c₀ (reconcileFleet j.r j.app j.appVersion) h c
      (.call (.update .statefulSet o) k) ∧
    Serve c (.update .statefulSet o) (.ok stored) c' ∧
    c.live .statefulSet (fleetName j.app) = some existing

/-- **Write inversion.**  Such a write is one of the six, decided on that very object. -/
theorem WritesFleet.inv {j : FleetPass} {h : Trace} {c : Cluster} {existing stored : StatefulSet}
    (hw : WritesFleet j h c existing stored) :
    ∃ hash o, Guards j.r j.app h hash existing ∧
      FleetWrite j.r j.app existing (desiredFleet j.r j.app hash j.appVersion) h o ∧
      Accepted existing o stored ∧ Knows h c := by
  obtain ⟨c₀, o, k, c', hx, hs, hlive⟩ := hw
  have hk : Knows h c := knows_exec (fun _ _ hl => hl) hx
  have he := valid_issued (reconcileFleet_valid j.r j.app j.appVersion) hx.steps (.ok stored)
  rw [List.nil_append] at he
  obtain ⟨hash, base, hg, hw, -⟩ := he
  obtain ⟨hbase, hacc, -⟩ := hw.live hk hg.toBasis hs
  rw [hlive] at hbase
  cases hbase
  exact ⟨hash, o, hg, hw, hacc, hk⟩

/-! ## §5. Concrete runs. -/

/-- The event is an accepted update of the StatefulSet. -/
def acceptedUpdate : Event Api → Bool
  | ⟨.update .statefulSet _, .ok _⟩ => true
  | _ => false

/-- A concrete run with an accepted update, as an execution up to that update. -/
theorem exists_served_by {α : Type} {E : Cluster → Cluster → Prop}
    {handle : Cluster → (o : Op) → Resp o × Cluster}
    (hh : ∀ c o, Serve c o (handle c o).1 (handle c o).2) (p : P α) (c : Cluster)
    (hany : (runWith handle p c).1.any acceptedUpdate = true) :
    ∃ h o stored rest c₁ k c₂,
      (runWith handle p c).1 = h ++ ⟨.update .statefulSet o, .ok stored⟩ :: rest ∧
      Exec Serve E c p h c₁ (.call (.update .statefulSet o) k) ∧
      Serve c₁ (.update .statefulSet o) (.ok stored) c₂ := by
  obtain ⟨e, hmem, he⟩ := List.any_eq_true.mp hany
  obtain ⟨h, rest, heq⟩ := List.append_of_mem hmem
  obtain ⟨c₁, c₂, k, hx, hs, -⟩ := (exec_runWith (E := E) hh p c).split heq
  unfold acceptedUpdate at he
  split at he
  · next o stored => exact ⟨h, o, stored, rest, c₁, k, c₂, heq, hx, hs⟩
  · cases he

theorem exists_served {α : Type} {E : Cluster → Cluster → Prop} (ora : Oracle) (p : P α)
    (c : Cluster) (hany : (runWith (answer ora) p c).1.any acceptedUpdate = true) :
    ∃ h o stored rest c₁ k c₂,
      (runWith (answer ora) p c).1 = h ++ ⟨.update .statefulSet o, .ok stored⟩ :: rest ∧
      Exec Serve E c p h c₁ (.call (.update .statefulSet o) k) ∧
      Serve c₁ (.update .statefulSet o) (.ok stored) c₂ :=
  exists_served_by (fun c o => serve_answer ora c o) p c hany

/-- A concrete pass with an accepted update writes; what it read and what was stored is told
from the run. -/
theorem exists_writesFleet (ora : Oracle) (j : FleetPass) (c : Cluster)
    {p q : StatefulSet → Bool}
    (hany : (runWith (answer ora) (reconcileFleet j.r j.app j.appVersion) c).1.any
      acceptedUpdate = true)
    (hread : (runWith (answer ora) (reconcileFleet j.r j.app j.appVersion) c).1.all
      (fleetRead p) = true)
    (hstored : (runWith (answer ora) (reconcileFleet j.r j.app j.appVersion) c).1.all
      (fleetStored q) = true) :
    ∃ h c₁ existing stored, WritesFleet j h c₁ existing stored ∧ p existing = true ∧
      q stored = true := by
  obtain ⟨h, o, stored, rest, c₁, k, c₂, heq, hx, hs⟩ :=
    exists_served (E := Cluster.Later) ora _ c hany
  have hk : Knows h c₁ := knows_exec (fun _ _ hl => hl) hx
  have he := valid_issued (reconcileFleet_valid j.r j.app j.appVersion) hx.steps (.ok stored)
  rw [List.nil_append] at he
  obtain ⟨hash, existing, hg, hw, -⟩ := he
  rw [heq] at hread hstored
  refine ⟨h, c₁, existing, stored, ⟨c, o, k, c₂, hx, hs, (hw.live hk hg.toBasis hs).1⟩, ?_, ?_⟩
  · exact List.all_eq_true.mp hread _ (List.mem_append_left _ hg.read)
  · exact List.all_eq_true.mp hstored _ (List.mem_append_right _ (List.mem_cons_self ..))

end CelldOperator
