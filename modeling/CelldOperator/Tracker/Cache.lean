/-
  CelldOperator.Tracker.Cache

  **THE TRACKER'S CACHE AND ITS LOG.**

  A ghost log records the bucket reads of the tracker, with the identity of the call
  and the identity whose credentials were used, and what happened to the entries.

    • `lastRead`, `Spaced` — the reads of a key, as long as its entry stands, and how
      far apart they are,
    • `length_evict_lt` — eviction makes room for one entry,
    • `lookup_sublist` — and drops the entry of a key or leaves it.
-/
import CelldOperator.Controller.DeployTracker

namespace CelldOperator

open Effect Prog

/-! ## §1. The log. -/

/-- What is recorded of the tracker. -/
inductive TrackerEvent where
  /-- A bucket read: of which key, under which identity the call went, with which it was made. -/
  | read (key : NamespacedName) (caller used : TrackerIdentity) (result : Except Err String)
      (time : Time)
  | stored (key : NamespacedName) (identity : TrackerIdentity)
  | evicted (key : NamespacedName)
  | forgot (key : NamespacedName)

/-- The log, newest first. -/
abbrev TrackerLog := List TrackerEvent

/-- The last bucket read of a key, as long as the key has not been forgotten, evicted or
re-identified since. -/
def lastRead (key : NamespacedName) : TrackerLog → Option (TrackerIdentity × Time)
  | [] => none
  | .read k caller _ _ time :: log => if k = key then some (caller, time) else lastRead key log
  | .stored k identity :: log =>
    if k = key then (lastRead key log).filter (fun x => decide (x.1 = identity))
    else lastRead key log
  | .evicted k :: log | .forgot k :: log => if k = key then none else lastRead key log

/-- **Every bucket read is an interval after the last one** of its key under its identity. -/
def Spaced (interval : Time) : TrackerLog → Prop
  | [] => True
  | .read key caller _ _ time :: log =>
    (∀ before, lastRead key log = some (caller, before) → before + interval ≤ time) ∧
      Spaced interval log
  | _ :: log => Spaced interval log

/-- The version a successful read returned whose call went by the identity. -/
def TrackerEvent.success (identity : TrackerIdentity) : TrackerEvent → Option String
  | .read _ caller _ (.ok version) _ => if caller = identity then some version else none
  | _ => none

/-- The same of a read that was made with the identity's credentials. -/
def TrackerEvent.successUsing (identity : TrackerIdentity) : TrackerEvent → Option String
  | .read _ _ used (.ok version) _ => if used = identity then some version else none
  | _ => none

/-- The time of a read of the key. -/
def TrackerEvent.readTime (key : NamespacedName) : TrackerEvent → Option Time
  | .read k _ _ _ time => if k = key then some time else none
  | _ => none

section log

variable {key : NamespacedName} {log : TrackerLog} {identity : TrackerIdentity}

theorem lastRead_mem {caller : TrackerIdentity} {time : Time}
    (h : lastRead key log = some (caller, time)) :
    ∃ used result, TrackerEvent.read key caller used result time ∈ log := by
  induction log with
  | nil => cases h
  | cons e log ih =>
    have htail : lastRead key log = some (caller, time) →
        ∃ used result, TrackerEvent.read key caller used result time ∈ e :: log := by
      intro htail
      obtain ⟨used, result, hmem⟩ := ih htail
      exact ⟨used, result, List.mem_cons_of_mem _ hmem⟩
    cases e with
    | read k caller' used result time' =>
      unfold lastRead at h
      split at h
      · next hk =>
        cases h
        subst hk
        exact ⟨used, result, List.mem_cons_self ..⟩
      · exact htail h
    | stored k identity =>
      unfold lastRead at h
      split at h
      · exact htail (Option.filter_eq_some_iff.mp h).1
      · exact htail h
    | evicted k =>
      unfold lastRead at h
      split at h
      · cases h
      · exact htail h
    | forgot k =>
      unfold lastRead at h
      split at h
      · cases h
      · exact htail h

/-- Evictions end the record of the evicted keys, and of no other. -/
theorem lastRead_evicted (key : NamespacedName) (log : TrackerLog)
    (keys : List NamespacedName) :
    lastRead key (keys.map .evicted ++ log) =
      if key ∈ keys then none else lastRead key log := by
  induction keys with
  | nil => simp
  | cons k keys ih =>
    rw [List.map_cons, List.cons_append, lastRead, ih]
    by_cases hk : k = key
    · simp [hk]
    · have hk' : key ≠ k := fun h => hk h.symm
      simp [hk, hk']

theorem spaced_evicted {interval : Time} (keys : List NamespacedName)
    (h : Spaced interval log) : Spaced interval (keys.map .evicted ++ log) := by
  induction keys with
  | nil => exact h
  | cons k keys ih => exact ih

/-- Evictions are no reads. -/
theorem findSome_evicted {β : Type} {f : TrackerEvent → Option β} (keys : List NamespacedName)
    (hf : ∀ k, f (.evicted k) = none) :
    (keys.map TrackerEvent.evicted ++ log).findSome? f = log.findSome? f := by
  induction keys with
  | nil => rfl
  | cons k keys ih => rw [List.map_cons, List.cons_append, List.findSome?_cons, hf k, ih]

end log

/-! ## §2. The cache. -/

namespace TrackerCache

/-- One entry for a key. -/
def Keyed (cache : TrackerCache) : Prop := (cache.map Prod.fst).Nodup

variable {cache cache' : TrackerCache} {key k : NamespacedName} {entry : TrackedVersion}

theorem mem_of_lookup (h : cache.lookup key = some entry) : (key, entry) ∈ cache := by
  unfold lookup at h
  obtain ⟨⟨k, e⟩, hfind, rfl⟩ := Option.map_eq_some_iff.mp h
  have hk := List.find?_some hfind
  have hk : k = key := by simpa using hk
  subst hk
  exact List.mem_of_find?_eq_some hfind

theorem lookup_of_mem (hc : cache.Keyed) (h : (key, entry) ∈ cache) :
    cache.lookup key = some entry := by
  cases hcase : cache.lookup key with
  | some e =>
    have heq := List.inj_on_of_nodup_map hc (mem_of_lookup hcase) h rfl
    cases heq
    rfl
  | none =>
    unfold lookup at hcase
    rw [Option.map_eq_none_iff, List.find?_eq_none] at hcase
    exact absurd (beq_self_eq_true key) (hcase _ h)

/-- Dropping entries drops the entry of a key, or leaves it. -/
theorem lookup_sublist (hc : cache.Keyed) (hs : cache'.Sublist cache) (key : NamespacedName) :
    cache'.lookup key = cache.lookup key ∨ cache'.lookup key = none := by
  cases hcase : cache'.lookup key with
  | none => exact .inr rfl
  | some e => exact .inl (lookup_of_mem hc (hs.subset (mem_of_lookup hcase))).symm

theorem Keyed.sublist (hc : cache.Keyed) (hs : cache'.Sublist cache) : cache'.Keyed :=
  List.Nodup.sublist (hs.map _) hc

theorem evict_sublist (interval : Time) (now : NamespacedName → Time) (victim : NamespacedName)
    (cache : TrackerCache) : (cache.evict interval now victim).Sublist cache := by
  unfold evict
  split
  · exact List.Sublist.refl _
  · split
    · exact List.filter_sublist
    · exact List.filter_sublist.trans List.filter_sublist

theorem lookup_put_of_ne (h : k ≠ key) : (cache.put key entry).lookup k = cache.lookup k := by
  unfold lookup put
  have hkey : ((key, entry).1 == k) = false := by simpa using h.symm
  rw [List.find?_cons, hkey, List.find?_filter]
  show Option.map _ (List.find? _ cache) = _
  congr 2
  funext e
  by_cases hk : e.1 = k
  · simp [hk, h]
  · simp [hk]

theorem Keyed.put (hc : cache.Keyed) : (cache.put key entry).Keyed := by
  unfold TrackerCache.put Keyed
  rw [List.map_cons, List.nodup_cons]
  refine ⟨?_, hc.sublist List.filter_sublist⟩
  simp

theorem length_put_le (cache : TrackerCache) (key : NamespacedName) (entry : TrackedVersion) :
    (cache.put key entry).length ≤ cache.length + 1 := by
  unfold put
  rw [List.length_cons]
  exact Nat.succ_le_succ (List.length_filter_le _ _)

theorem lookup_forget_self (cache : TrackerCache) (key : NamespacedName) :
    (cache.forget key).lookup key = none := by
  unfold lookup forget
  rw [Option.map_eq_none_iff, List.find?_eq_none]
  intro e he
  have hne := (List.mem_filter.mp he).2
  simpa using hne

theorem lookup_forget_of_ne (h : k ≠ key) : (cache.forget key).lookup k = cache.lookup k := by
  unfold lookup forget
  rw [List.find?_filter]
  congr 2
  funext e
  by_cases hk : e.1 = k
  · simp [hk, h]
  · simp [hk]

/-- The entry dropped last, where one has to be, is one of those still there. -/
def Victim (interval : Time) (now : NamespacedName → Time) (victim : NamespacedName)
    (cache : TrackerCache) : Prop :=
  1024 ≤ (cache.young interval now).length → ∃ e ∈ cache.young interval now, e.1 = victim

/-- **The bound.**  Eviction makes room for one entry. -/
theorem length_evict_lt {interval : Time} {now : NamespacedName → Time} {victim : NamespacedName}
    (hsize : cache.length ≤ 1024) (hv : cache.Victim interval now victim) :
    (cache.evict interval now victim).length < 1024 := by
  unfold evict
  split
  · next h => exact h
  · split
    · next h => exact h
    · next h =>
      obtain ⟨e, he, hkey⟩ := hv (Nat.le_of_not_lt h)
      have hyoung : (cache.young interval now).length ≤ 1024 :=
        (List.length_filter_le _ _).trans hsize
      have hlt : ((cache.young interval now).filter (·.1 != victim)).length <
          (cache.young interval now).length := by
        refine List.length_filter_lt_length_iff_exists.mpr ⟨e, he, ?_⟩
        simp [hkey]
      omega

/-- The keys that lost their entry. -/
def dropped (cache cache' : TrackerCache) : List NamespacedName :=
  (cache.map Prod.fst).filter fun k => (cache'.lookup k).isNone

theorem mem_dropped :
    k ∈ dropped cache cache' ↔ k ∈ cache.map Prod.fst ∧ cache'.lookup k = none := by
  simp [dropped, List.mem_filter]

end TrackerCache

end CelldOperator
