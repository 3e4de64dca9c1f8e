/-
  CelldOperator.Hammer.Verdict

  **WHAT THE HAMMER SAYS ABOUT A STORE THAT KEEPS THE CONTRACT.**

  An `AtomicStore` checks the precondition of a PUT and writes in one step, and
  gives different contents different ETags.  Against it:

    • `race_oneShot` — a race is a contest that only the first PUT can win: it
      creates the key, or it replaces the ETag all writers hold,
    • `race_atomic`, `round_atomic` — so a race has one winner where the precondition
      held when it began, and none where it did not,
    • `roundKey_injective` — the rounds of a phase meet at different keys, so what a
      phase finds under its keys is what was there when it began,
    • `hammer_verdict` — the verdict is exact as long as the create phase races for
      keys that are free.
-/
import CelldOperator.Hammer.Tally

namespace CelldOperator.Hammer

open Effect Prog

/-! ## §1. Stores that enforce preconditions atomically. -/

/-- A stored object. -/
structure Object where
  body : String
  etag : String

/-- The precondition of a PUT, of what its key holds. -/
def admits (input : PutObjectInput) (held : Option Object) : Bool :=
  (input.ifNoneMatch != some "*" || held.isNone) &&
    match input.ifMatch with
    | none => true
    | some etag => held.map Object.etag == some etag

/-- A store that evaluates the precondition of each PUT and performs its write in one step, answers
it with success or PreconditionFailed, and gives different contents different ETags.  A DELETE may
fail. -/
structure AtomicStore (σ : Type) where
  serve : Store σ
  /-- What the store holds. -/
  objects : σ → Location → Option Object
  answers : ∀ s o, ∃ r s', serve s o r s'
  put_admitted : ∀ {s input r s'}, serve s (.putObject input) r s' →
    admits input (objects s input.location) = true → r = none ∧
      ∃ etag, objects s' = Function.update (objects s) input.location (some ⟨input.body, etag⟩)
  put_refused : ∀ {s input r s'}, serve s (.putObject input) r s' →
    admits input (objects s input.location) = false →
      (∃ text, r = some (.api "PreconditionFailed" text)) ∧ objects s' = objects s
  head : ∀ {s l r s'}, serve s (.headObject l) r s' → objects s' = objects s ∧
    ∀ x, objects s l = some x → r = .ok (some ⟨some x.etag⟩)
  delete : ∀ {s l r s'}, serve s (.deleteObject l) r s' →
    objects s' = objects s ∨ objects s' = Function.update (objects s) l none
  etag_ne : ∀ {s s' l l' x x'}, objects s l = some x → objects s' l' = some x' →
    x.body ≠ x'.body → x.etag ≠ x'.etag

/-! ## §2. A race is won once. -/

section race

variable {σ : Type} {store : AtomicStore σ} {f : Flags} {p : Phase} {key : String}
  {etag : Option String} {s s' : σ}

/-- An event of one of the writers. -/
def WriterEvent (f : Flags) (p : Phase) (key : String) (etag : Option String)
    (e : Event WriterApi) : Prop :=
  (∃ w : Nat, e.op = .store (.putObject (p.input f key etag w))) ∨
    ∃ won err, e.op = .record won err

theorem raced_writerEvent {any : Store σ} {r : Raced f.writers}
    (h : ServeHammer any s (.race f.writers (writers f p key etag)) r s') :
    ∀ e ∈ events r.history, WriterEvent f p key etag e := by
  rw [forall_events_iff]
  intro w e he
  obtain ⟨err, hw⟩ := raced_eventsOf h w
  rw [hw] at he
  rcases List.mem_pair.mp he with rfl | rfl
  · exact .inl ⟨w, rfl⟩
  · exact .inr ⟨_, _, rfl⟩

/-- A PUT of a writer. -/
def contends : Event WriterApi → Bool
  | ⟨.store _, _⟩ => true
  | _ => false

theorem input_location (w : Nat) : (p.input f key etag w).location = ⟨f.bucket, key⟩ := by
  cases p <;> rfl

theorem input_body (w : Nat) : (p.input f key etag w).body = writerBody w := by
  cases p <;> rfl

/-- The writers share one precondition. -/
theorem admits_input (w : Nat) (held : Option Object) :
    admits (p.input f key etag w) held = admits (p.input f key etag 0) held := by
  cases p <;> rfl

theorem writerBody_ne_seed (w : Nat) : writerBody w ≠ "seed" := by
  intro h
  have := congrArg String.toList h
  simp [writerBody] at this

/-- In the update phase, the ETag the writers share is that of a seed. -/
def SharesSeed (store : AtomicStore σ) (p : Phase) (l : Location) (etag : Option String) : Prop :=
  p = .update → ∃ s x, store.objects s l = some x ∧ x.body = "seed" ∧ etag = some x.etag

/-- Over the body of a writer, no writer's precondition holds. -/
theorem not_admits_writerBody (hseed : SharesSeed store p ⟨f.bucket, key⟩ etag) {w : Nat}
    {given : String} (hs : store.objects s ⟨f.bucket, key⟩ = some ⟨writerBody w, given⟩) :
    admits (p.input f key etag 0) (some ⟨writerBody w, given⟩) = false := by
  cases p with
  | create => rfl
  | update =>
    obtain ⟨s₀, x, hx, hbody, rfl⟩ := hseed rfl
    have hne : given ≠ x.etag :=
      store.etag_ne hs hx fun heq => writerBody_ne_seed w (heq.trans hbody)
    simp [admits, Phase.input, updateInput, hne]

/-- **A race is a one-shot contest**, open while the writers' precondition holds. -/
theorem race_oneShot (hseed : SharesSeed store p ⟨f.bucket, key⟩ etag)
    (hconditional : ∀ w, (p.input f key etag w).conditional = true) :
    OneShot (ServeWriter store.serve) (WriterEvent f p key etag) contends succeeded
      fun x => admits (p.input f key etag 0) (store.objects x.1 ⟨f.bucket, key⟩) = true where
  contend := by
    intro x y o r hP hc hs
    rcases hP with ⟨w, rfl⟩ | ⟨won, err, rfl⟩
    · have hput : store.serve x.1 (.putObject (p.input f key etag w)) r y.1 := hs.1
      cases hopen : admits (p.input f key etag 0) (store.objects x.1 ⟨f.bucket, key⟩) with
      | true =>
        obtain ⟨rfl, given, hafter⟩ := store.put_admitted hput
          (by rw [input_location, admits_input]; exact hopen)
        rw [input_location, input_body] at hafter
        have hheld : store.objects y.1 ⟨f.bucket, key⟩ = some ⟨writerBody w, given⟩ := by
          rw [hafter, Function.update_self]
        rw [hheld, not_admits_writerBody hseed hheld]
        simp [succeeded, hconditional]
      | false =>
        obtain ⟨⟨text, rfl⟩, hafter⟩ := store.put_refused hput
          (by rw [input_location, admits_input]; exact hopen)
        rw [hafter, hopen]
        simp [succeeded]
    · cases hc
  other := by
    intro x y o r hP hc hs
    rcases hP with ⟨w, rfl⟩ | ⟨won, err, rfl⟩
    · cases hc
    · have hkept : y.1 = x.1 := hs.1
      rw [hkept]
      exact ⟨rfl, Iff.rfl⟩

/-- A writer touches no other object, and its PUT gets no hard error. -/
theorem writerEvent_spec {e : Event WriterApi} (he : WriterEvent f p key etag e)
    {x y : σ × Tally} (hs : ServeWriter store.serve x e.op e.resp y) :
    hardError e = false ∧
      ∀ l, l ≠ ⟨f.bucket, key⟩ → store.objects y.1 l = store.objects x.1 l := by
  obtain ⟨o, r⟩ := e
  rcases he with ⟨w, rfl⟩ | ⟨won, err, rfl⟩
  · have hput : store.serve x.1 (.putObject (p.input f key etag w)) r y.1 := hs.1
    cases hopen : admits (p.input f key etag w)
        (store.objects x.1 (p.input f key etag w).location) with
    | true =>
      obtain ⟨rfl, given, hafter⟩ := store.put_admitted hput hopen
      refine ⟨rfl, fun l hl => ?_⟩
      rw [hafter, input_location, Function.update_of_ne hl]
    | false =>
      obtain ⟨⟨text, rfl⟩, hafter⟩ := store.put_refused hput hopen
      exact ⟨rfl, fun l _ => by rw [hafter]⟩
  · have hkept : y.1 = x.1 := hs.1
    rw [hkept]
    exact ⟨rfl, fun _ _ => rfl⟩

/-- **The winners of a race** on an atomic store: one where the precondition held when the race
began, none where it did not. -/
theorem race_atomic (hwriters : 0 < f.writers) (hseed : SharesSeed store p ⟨f.bucket, key⟩ etag)
    (hconditional : ∀ w, (p.input f key etag w).conditional = true) {r : Raced f.writers}
    (h : ServeHammer store.serve s (.race f.writers (writers f p key etag)) r s') :
    r.tally.hardErr = none ∧
      r.tally.winners =
        (if admits (p.input f key etag 0) (store.objects s ⟨f.bucket, key⟩) then 1 else 0) ∧
      ∀ l, l ≠ ⟨f.bucket, key⟩ → store.objects s' l = store.objects s l := by
  have hevents := raced_writerEvent h
  obtain ⟨hwinners, herr⟩ := raced_tally h hconditional
  obtain ⟨ends, hfork, -⟩ := id h
  have hserved := hfork.served
  refine ⟨herr.mpr fun e he => ?_, ?_, fun l hl => ?_⟩
  · obtain ⟨x, y, hs⟩ := hserved.of_mem he
    exact (writerEvent_spec (hevents e he) hs).1
  · rw [hwinners]
    have hcontest := race_oneShot hseed hconditional
    split
    · next hopen =>
      refine hcontest.one_winner hserved hevents hopen ?_
      -- the first writer contends
      obtain ⟨err, hw⟩ := raced_eventsOf h ⟨0, hwriters⟩
      refine ⟨⟨.store (.putObject (p.input f key etag 0)), err⟩, ?_, rfl⟩
      rw [mem_events_iff]
      exact ⟨⟨0, hwriters⟩, by rw [hw]; exact List.mem_cons_self ..⟩
    · next hclosed => exact hcontest.no_winner hserved hevents hclosed
  · exact hserved.keeps (A := fun x => store.objects x.1 l = store.objects s l)
      (fun hP hx hs => ((writerEvent_spec hP hs).2 l hl).trans hx) hevents rfl

end race

/-! ## §3. A round. -/

section rounds

variable {σ : Type} {store : AtomicStore σ} {f : Flags} {p : Phase} {i : Nat} {s s' : σ}
  {t : List (Event HammerApi)}

/-- A create race for a key that is taken. -/
def taken (p : Phase) (held : Option Object) : Bool := decide (p = .create) && held.isSome

/-- The seeding of a round goes through, leaves other objects alone, and opens the race unless it
is a create race for a key that is taken. -/
theorem seed_atomic {key : String} {seeded : Except Exit (Option String)}
    (h : Hammers store.serve s (seedETag f p.name key i) t s' seeded) :
    ∃ etag, seeded = .ok etag ∧ SharesSeed store p ⟨f.bucket, key⟩ etag ∧
      admits (p.input f key etag 0) (store.objects s' ⟨f.bucket, key⟩) =
        !taken p (store.objects s ⟨f.bucket, key⟩) ∧
      ∀ l, l ≠ ⟨f.bucket, key⟩ → store.objects s' l = store.objects s l := by
  cases p with
  | create =>
    obtain ⟨rfl, rfl⟩ := seedETag_create h
    refine ⟨none, rfl, fun hp => (by cases hp), ?_, fun _ _ => rfl⟩
    cases store.objects s' ⟨f.bucket, key⟩ <;> rfl
  | update =>
    obtain ⟨err, s₁, hput, hrest⟩ := seedETag_update h
    obtain ⟨rfl, given, hseeded⟩ := store.put_admitted hput rfl
    have hheld : store.objects s₁ ⟨f.bucket, key⟩ = some ⟨"seed", given⟩ := by
      rw [hseeded]
      exact Function.update_self ..
    rcases hrest with ⟨exit, hne, -⟩ | ⟨-, head, hhead, hrest⟩
    · exact absurd rfl hne
    · obtain ⟨hkept, hanswer⟩ := store.head hhead
      have hread := hanswer _ hheld
      rcases hrest with ⟨etag, hetag, rfl⟩ | ⟨exit, hno, -⟩
      · cases hread.symm.trans hetag
        refine ⟨_, rfl, fun _ => ⟨s₁, _, hheld, rfl, rfl⟩, ?_, fun l hl => ?_⟩
        · rw [hkept, hheld]
          simp [admits, Phase.input, updateInput, taken]
        · rw [hkept, hseeded]
          exact Function.update_of_ne hl ..
      · exact absurd hread (hno given)

/-- **A round against an atomic store** is always counted: with one winner, or with none when its
key was taken. -/
theorem round_atomic (hwriters : 0 < f.writers) {res : Except Exit Bool}
    (h : Hammers store.serve s (runRound f p.name p.racer i) t s' res) :
    ∃ nano, readings t = [nano] ∧
      winnersOf t = [if taken p (store.objects s (roundLocation f p.name nano i)) then 0 else 1] ∧
      (∃ violated, res = .ok violated) ∧
      ∀ l, l ≠ roundLocation f p.name nano i → store.objects s' l = store.objects s l := by
  obtain ⟨nano, t₁, s₁, seeded, hseed, hrest⟩ := runRound_cases h
  obtain ⟨etag, rfl, hshares, hopen, hframe₁⟩ := seed_atomic hseed
  rcases hrest with ⟨exit, hexit, -⟩ | ⟨etag', r, s₂, t₂, hetag, hrace, rfl, hend⟩
  · cases hexit
  cases hetag
  obtain ⟨hnone, hwinners, hframe₂⟩ :=
    race_atomic hwriters hshares (input_conditional hseed) hrace
  rcases hend with ⟨exit, hsome, -⟩ | ⟨-, hres, d, hdelete, rfl⟩
  · exact absurd hnone hsome
  obtain ⟨-, hw, hr⟩ := observed_race nano (writers f p (roundKey f p.name nano i) etag) r
    (seeded_store hseed) (.inr ⟨_, .deleteObject _, d, rfl⟩)
  refine ⟨nano, hr, ?_, ⟨_, hres⟩, fun l hl => ?_⟩
  · rw [hw, hwinners, hopen]
    unfold roundLocation
    cases taken p (store.objects s ⟨f.bucket, roundKey f p.name nano i⟩) <;> rfl
  · have hdeleted : store.objects s' l = store.objects s₂ l := by
      rcases store.delete hdelete with hkept | hgone
      · rw [hkept]
      · rw [hgone, Function.update_of_ne hl]
    rw [hdeleted, hframe₂ l hl, hframe₁ l hl]

/-! ## §4. The rounds of a phase. -/

/-- The rounds of a phase meet at different keys, whatever the clock says. -/
theorem roundKey_injective {name : String} {nano nano' : Int} {j : Nat}
    (h : roundKey f name nano i = roundKey f name nano' j) : i = j := by
  have hlast : ∀ nano k, afterLast '-' (roundKey f name nano k).toList =
      some (decimal k).toList := by
    intro nano k
    have hdash : '-' ∉ (decimal k).toList := by
      intro hmem
      exact absurd (decimal_isDigit hmem) (by decide)
    have hkey : (roundKey f name nano k).toList =
        (f.prefix_ ++ "/" ++ name ++ "/" ++ toString nano).toList ++ '-' :: (decimal k).toList := by
      simp [roundKey, String.toList_append]
    rw [hkey]
    exact afterLast_append _ hdash
  have hdecimal := (hlast nano i).symm.trans (h ▸ hlast nano' j)
  exact decimal_injective (String.toList_inj.mp (Option.some.inj hdecimal))

/-- The winners of the rounds from `i` on, at these readings of the clock: none where the key is
taken. -/
def fairWinners (f : Flags) (p : Phase) (objects : Location → Option Object) :
    Nat → List Int → List Nat
  | _, [] => []
  | i, nano :: rest =>
    (if taken p (objects (roundLocation f p.name nano i)) then 0 else 1) ::
      fairWinners f p objects (i + 1) rest

theorem fairWinners_congr {objects objects' : Location → Option Object} :
    ∀ {i : Nat} {nanos : List Int},
      (∀ nano j, i ≤ j → objects (roundLocation f p.name nano j) =
        objects' (roundLocation f p.name nano j)) →
      fairWinners f p objects i nanos = fairWinners f p objects' i nanos := by
  intro i nanos
  induction nanos generalizing i with
  | nil => intro _; rfl
  | cons nano rest ih =>
    intro hsame
    have hrest := ih fun nano j hj => hsame nano j (Nat.le_of_succ_le hj)
    rw [fairWinners, fairWinners, hsame nano i le_rfl, hrest]

/-- **The rounds that are left**, against an atomic store. -/
theorem rounds_atomic (hwriters : 0 < f.writers) {left : Nat} :
    ∀ {s : σ} {t : List (Event HammerApi)} {i violations : Nat} {res : Except Exit Nat},
      Hammers store.serve s (runRounds f p.name p.racer left i violations) t s' res →
      (readings t).length = left ∧ (∃ total, res = .ok total) ∧
        winnersOf t = fairWinners f p (store.objects s) i (readings t) := by
  induction left with
  | zero =>
    intro s t i violations res h
    obtain ⟨rfl, -, rfl⟩ := hammers_pure h
    exact ⟨rfl, ⟨_, rfl⟩, rfl⟩
  | succ left ih =>
    intro s t i violations res h
    unfold runRounds at h
    obtain ⟨round, t₁, t₂, s₁, rfl, hround, hrest⟩ := hammers_bind h
    obtain ⟨nano, hr, hw, ⟨violated, rfl⟩, hframe⟩ := round_atomic hwriters hround
    obtain ⟨hlength, htotal, hwinners⟩ := ih hrest
    rw [readings_append, winnersOf_append, hr, hw, List.singleton_append, List.singleton_append,
      List.length_cons, hlength]
    refine ⟨rfl, htotal, ?_⟩
    -- the round just held met at a key no later round meets at
    have hlater : fairWinners f p (store.objects s₁) (i + 1) (readings t₂) =
        fairWinners f p (store.objects s) (i + 1) (readings t₂) := by
      refine fairWinners_congr fun nano' j hj => hframe _ fun heq => ?_
      have hij := roundKey_injective (congrArg Location.key heq)
      omega
    rw [fairWinners, hwinners, hlater]

/-- None of the keys a create phase races for, at these readings of the clock, is taken. -/
def KeysFree (f : Flags) (p : Phase) (objects : Location → Option Object) (nanos : List Int) :
    Prop :=
  p = .create → ∀ i nano, nanos[i]? = some nano → objects (roundLocation f p.name nano i) = none

/-- One winner in each round means that no key was taken. -/
theorem fairWinners_eq_ones (f : Flags) (p : Phase) (objects : Location → Option Object) (i : Nat)
    (nanos : List Int) : fairWinners f p objects i nanos = List.replicate nanos.length 1 ↔
      (p = .create → ∀ j nano, nanos[j]? = some nano →
        objects (roundLocation f p.name nano (i + j)) = none) := by
  induction nanos generalizing i with
  | nil => simp [fairWinners]
  | cons nano rest ih =>
    have hhead : ((if taken p (objects (roundLocation f p.name nano i)) then 0 else 1) = 1) ↔
        (p = .create → objects (roundLocation f p.name nano i) = none) := by
      unfold taken
      cases p <;> simp
    rw [fairWinners, List.length_cons, List.replicate_succ, List.cons.injEq, hhead, ih,
      ← forall_and]
    refine forall_congr' fun _ => ⟨fun h j => ?_, fun h => ⟨?_, fun j nano' hj => ?_⟩⟩
    · cases j with
      | zero =>
        intro nano' hnano
        cases hnano
        exact h.1
      | succ j =>
        intro nano' hnano
        rw [← Nat.succ_add_eq_add_succ]
        exact h.2 j nano' hnano
    · exact h 0 nano rfl
    · rw [Nat.succ_add_eq_add_succ]
      exact h (j + 1) nano' hj

end rounds

/-! ## §5. The verdict. -/

section verdict

variable {σ : Type}

theorem serveWriter_answers {store : Store σ} (h : ∀ s o, ∃ r s', store s o r s') (x : σ × Tally)
    (o : WriterOp) : ∃ r y, ServeWriter store x o r y := by
  cases o with
  | store o =>
    obtain ⟨r, s', hs⟩ := h x.1 o
    exact ⟨r, (s', x.2), hs, rfl⟩
  | record won err => exact ⟨(), (x.1, x.2.record won err), rfl, rfl⟩

/-- Against a store that answers, nothing the hammer asks for stays without an answer. -/
theorem serveHammer_answers {store : Store σ} (h : ∀ s o, ∃ r s', store s o r s') (s : σ)
    (o : HammerOp) : ∃ r s', ServeHammer store s o r s' := by
  cases o with
  | now => exact ⟨(0 : Int), s, rfl⟩
  | store o => exact h s o
  | race n ws =>
    obtain ⟨history, x, ends, hfork, hends⟩ :=
      fork_completes (serveWriter_answers h) (s, ({} : Tally)) ws
    exact ⟨⟨x.2, history⟩, x.1, ends, hfork, hends⟩
  | printf line => exact ⟨(), s, rfl⟩

/-- **The hammer's verdict is exact.**  Against an atomic store a phase always ends, and it counts
one winner in every round and no violation exactly when no key it raced to create was taken.
Against any store, a round in which no writer gets a hard error is counted as a violation exactly
when the number of conditional PUTs that succeeded is not one, and a phase returns how many rounds
that were. -/
theorem hammer_verdict (f : Flags) (hwriters : 2 ≤ f.writers) (p : Phase) :
    (∀ {σ : Type} (store : AtomicStore σ) (s : σ),
      (∀ t s₁ q, Exec (ServeHammer store.serve) alone s (runPhase f p.name p.racer) t s₁ q →
        ∃ u s' res, Exec (ServeHammer store.serve) alone s₁ q u s' (.ret res)) ∧
      ∀ t s' res, Hammers store.serve s (runPhase f p.name p.racer) t s' res →
        (winnersOf t = List.replicate f.rounds 1 ∧ res = .ok 0 ↔
          KeysFree f p (store.objects s) (readings t))) ∧
    (∀ {σ : Type} (store : Store σ) (s s' : σ) (i : Nat) t res,
      Hammers store s (runRound f p.name p.racer i) t s' res →
      ∀ n ws (r : Raced n), (⟨.race n ws, r⟩ : Event HammerApi) ∈ t → NoHardError r →
        ∃ violated, res = .ok violated ∧ (violated = true ↔ successes r ≠ 1)) ∧
    (∀ {σ : Type} (store : Store σ) (s s' : σ) t violations,
      Hammers store s (runPhase f p.name p.racer) t s' (.ok violations) →
        violations = (successesOf t).countP fun n => n ≠ 1) := by
  refine ⟨fun store s => ⟨fun t s₁ q _ => ?_, fun t s' res h => ?_⟩, ?_, ?_⟩
  · exact exec_completes (serveHammer_answers store.answers) q s₁
  · obtain ⟨hlength, ⟨total, rfl⟩, hfair⟩ := rounds_atomic (by omega) h
    obtain ⟨hwinners, htotal⟩ := rounds_verdict h
    have hones := fairWinners_eq_ones f p (store.objects s) 0 (readings t)
    rw [hlength, ← hfair] at hones
    simp only [Nat.zero_add] at hones
    refine Iff.trans ⟨fun h => h.1, fun hall => ⟨hall, ?_⟩⟩ hones
    -- with one winner in each round there is nothing to count
    rw [htotal, ← hwinners, hall]
    simp
  · intro σ store s s' i t res h n ws r hr hnone
    exact round_verdict h hr hnone
  · intro σ store s s' t violations h
    have htotal := (rounds_verdict h).2
    omega

end verdict

/-! ## §6. A store that keeps the contract. -/

/-- A store that keeps bodies, the ETag of an object being its body. -/
abbrev Shelf := Location → Option String

def Shelf.objects (s : Shelf) (l : Location) : Option Object := (s l).map fun body => ⟨body, body⟩

/-- How it answers. -/
def Shelf.handle (s : Shelf) : (o : StoreOp) → StoreResp o × Shelf
  | .putObject input =>
    if admits input (s.objects input.location) then
      (none, Function.update s input.location (some input.body))
    else (some (.api "PreconditionFailed" "412"), s)
  | .headObject l =>
    match s l with
    | some body => (.ok (some ⟨some body⟩), s)
    | none => (.error (.api "NotFound" "404"), s)
  | .deleteObject l => (none, Function.update s l none)

theorem Shelf.objects_update (s : Shelf) (l : Location) (x : Option String) :
    Shelf.objects (Function.update s l x) =
      Function.update s.objects l (x.map fun body => ⟨body, body⟩) := by
  funext l'
  by_cases hl : l' = l
  · subst hl
    simp [Shelf.objects]
  · simp [Shelf.objects, Function.update_of_ne hl]

/-- It is an atomic store. -/
def shelfStore : AtomicStore Shelf where
  serve := fun s o r s' => r = (s.handle o).1 ∧ s' = (s.handle o).2
  objects := Shelf.objects
  answers := fun s o => ⟨(s.handle o).1, (s.handle o).2, rfl, rfl⟩
  put_admitted := by
    intro s input r s' h hadmits
    simp only [Shelf.handle, hadmits, if_true] at h
    obtain ⟨rfl, rfl⟩ := h
    exact ⟨rfl, input.body, s.objects_update _ _⟩
  put_refused := by
    intro s input r s' h hrefused
    simp only [Shelf.handle, hrefused] at h
    obtain ⟨rfl, rfl⟩ := h
    exact ⟨⟨_, rfl⟩, rfl⟩
  head := by
    intro s l r s' h
    cases hl : s l with
    | some body =>
      simp only [Shelf.handle, hl] at h
      obtain ⟨rfl, rfl⟩ := h
      simp [Shelf.objects, hl]
    | none =>
      simp only [Shelf.handle, hl] at h
      obtain ⟨rfl, rfl⟩ := h
      simp [Shelf.objects, hl]
  delete := by
    intro s l r s' h
    obtain ⟨rfl, rfl⟩ := h
    exact .inr (s.objects_update l none)
  etag_ne := by
    intro s s' l l' x x' hx hx' hbody hetag
    obtain ⟨body, -, rfl⟩ := Option.map_eq_some_iff.mp hx
    obtain ⟨body', -, rfl⟩ := Option.map_eq_some_iff.mp hx'
    exact hbody hetag

/-- How a writer is answered on the shelf. -/
def Shelf.handleWriter (x : Shelf × Tally) : (o : WriterOp) → WriterResp o × (Shelf × Tally)
  | .store o => ((x.1.handle o).1, (x.1.handle o).2, x.2)
  | .record won err => ((), x.1, x.2.record won err)

/-- The writers of a race, each twice in turn. -/
def Shelf.race (s : Shelf) (n : Nat) (ws : Fin n → Prog WriterApi Unit) :=
  runFork Shelf.handleWriter (List.finRange n ++ List.finRange n) (s, ({} : Tally)) ws

/-- How the hammer is answered, by a clock that stands still. -/
def Shelf.handleHammer (nano : Int) (s : Shelf) : (o : HammerOp) → HammerResp o × Shelf
  | .now => (nano, s)
  | .store o => s.handle o
  | .race n ws => (⟨(s.race n ws).2.1.2, (s.race n ws).1⟩, (s.race n ws).2.1.1)
  | .printf _ => ((), s)

/-- The writers have all returned. -/
def Shelf.raceEnds (s : Shelf) : HammerOp → Bool
  | .race n ws => (List.finRange n).all fun w => ((s.race n ws).2.2 w).returned
  | _ => true

/-- The run of a program on the shelf. -/
def Shelf.run {α : Type} (nano : Int) (p : H α) (s : Shelf) : List (Event HammerApi) × Shelf × α :=
  runWith (Shelf.handleHammer nano) p s

/-- It is a run against the atomic store, provided the writers of each race return. -/
theorem hammers_shelf {α : Type} {nano : Int} {p : H α} {s : Shelf}
    (h : runMeets (Shelf.handleHammer nano) Shelf.raceEnds p s = true) :
    Hammers shelfStore.serve s p (s.run nano p).1 (s.run nano p).2.1 (s.run nano p).2.2 := by
  refine exec_runWith_of_meets (fun s o ho => ?_) p s h
  cases o with
  | now => rfl
  | store o => exact ⟨rfl, rfl⟩
  | race n ws =>
    refine ⟨_, fork_runFork (fun x o => ?_) _ _ _, fun w => ?_⟩
    · cases o with
      | store o => exact ⟨⟨rfl, rfl⟩, rfl⟩
      | record won err => exact ⟨rfl, rfl⟩
    · exact List.all_eq_true.mp ho w (List.mem_finRange w)
  | printf line => rfl

/-- Two writers, two rounds. -/
def duelFlags : Flags := { bucket := "bench", writers := 2, rounds := 2 }

/-- A phase of theirs, with the clock at 7. -/
def duel (p : Phase) (s : Shelf) : List (Event HammerApi) × Shelf × Except Exit Nat :=
  s.run 7 (runPhase duelFlags p.name p.racer)

theorem hammer_verdict_duel :
    2 ≤ duelFlags.writers ∧
      (winnersOf (duel .create fun _ => none).1 = [1, 1] ∧
        (duel .create fun _ => none).2.2 = .ok 0) ∧
      (winnersOf (duel .update fun _ => none).1 = [1, 1] ∧
        (duel .update fun _ => none).2.2 = .ok 0) := by
  have htwo : 2 ≤ duelFlags.writers := by decide
  refine ⟨htwo, ?_, ?_⟩
  · exact (((hammer_verdict duelFlags htwo .create).1 shelfStore fun _ => none).2 _ _ _
      (hammers_shelf (by decide +kernel))).mpr fun _ _ _ _ => rfl
  · exact (((hammer_verdict duelFlags htwo .update).1 shelfStore fun _ => none).2 _ _ _
      (hammers_shelf (by decide +kernel))).mpr fun hp => by cases hp

/-- A shelf that holds an object under the key of the first create round. -/
def takenShelf : Shelf :=
  Function.update (fun _ => none) (roundLocation duelFlags Phase.create.name 7 0) (some "old")

/-- **A taken key is reported as a violation.**  The store is atomic, but the first create race is
for a key that is there already, so both writers lose. -/
theorem taken_key_violation :
    2 ≤ duelFlags.writers ∧
      Hammers shelfStore.serve takenShelf (runPhase duelFlags Phase.create.name Phase.create.racer)
        (duel .create takenShelf).1 (duel .create takenShelf).2.1 (.ok 1) ∧
      winnersOf (duel .create takenShelf).1 = [0, 1] := by
  have hres : (duel .create takenShelf).2.2 = .ok 1 := by decide +kernel
  refine ⟨by decide, ?_, by decide +kernel⟩
  rw [← hres]
  exact hammers_shelf (by decide +kernel)

end CelldOperator.Hammer
