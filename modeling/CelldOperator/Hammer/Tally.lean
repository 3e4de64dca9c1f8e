/-
  CelldOperator.Hammer.Tally

  **WHAT THE HAMMER COUNTS, AGAINST ANY STORE.**

  Nothing is assumed of the store here: it may answer a PUT as it likes.

    • `raced_tally` — however the writers interleave, the tally of a race holds the
      number of conditional PUTs that succeeded, and a hard error exactly when some
      writer got one,
    • `runRound_cases` — everything a round can do,
    • `round_verdict`, `rounds_verdict` — a round without a hard error is a violation
      exactly when that number is not one, and a phase returns how many were.
-/
import CelldOperator.Hammer.Race

namespace CelldOperator.Hammer

open Effect Prog

/-! ## §1. One writer. -/

/-- What a writer of the phase PUTs. -/
def Phase.input (p : Phase) (f : Flags) (key : String) (etag : Option String) (w : Nat) :
    PutObjectInput :=
  match p with
  | .create => createInput f key w
  | .update => updateInput f key w etag

theorem racer_eq (p : Phase) (f : Flags) (key : String) (w : Nat) (etag : Option String) :
    p.racer f key w etag = put (p.input f key etag w) := by
  cases p <;> rfl

/-- The two events of a writer. -/
def writerEvents (input : PutObjectInput) (err : Option StoreErr) : List (Event WriterApi) :=
  [⟨.store (.putObject input), err⟩, ⟨.record (classify err).1 (classify err).2, ()⟩]

/-- **A writer's run**: one PUT, then what came of it is recorded. -/
theorem runs_writer {p : Phase} {f : Flags} {key : String} {etag : Option String} {w : Nat}
    {t : List (Event WriterApi)} {u : Unit} (h : Runs (writer p.racer f key etag w) t u) :
    ∃ err, t = writerEvents (p.input f key etag w) err := by
  unfold writer at h
  rw [racer_eq] at h
  obtain ⟨res, t₁, t₂, rfl, hput, hrecord⟩ := runs_bind.mp h
  obtain ⟨err, t₃, t₄, rfl, hreq, hret⟩ := runs_bind.mp hput
  obtain ⟨rfl, rfl⟩ := runs_ret.mp hret
  rw [runs_req.mp hreq, runs_req.mp hrecord]
  exact ⟨err, rfl⟩

/-! ## §2. What the events of a race say. -/

/-- A conditional PUT that succeeded. -/
def succeeded : Event WriterApi → Bool
  | ⟨.store (.putObject input), err⟩ => input.conditional && err.isNone
  | _ => false

/-- A PUT answered with a hard error. -/
def hardError : Event WriterApi → Bool
  | ⟨.store (.putObject _), err⟩ => (classify err).2.isSome
  | _ => false

/-- A section that counts a winner. -/
def countsWinner : Event WriterApi → Bool
  | ⟨.record won err, _⟩ => won && err.isNone
  | _ => false

/-- A section that keeps a hard error. -/
def keepsError : Event WriterApi → Bool
  | ⟨.record _ err, _⟩ => err.isSome
  | _ => false

/-- Only a PUT without an error has won. -/
theorem classify_won (err : Option StoreErr) :
    ((classify err).1 && (classify err).2.isNone) = err.isNone := by
  cases err with
  | none => rfl
  | some err =>
    cases err with
    | api code text =>
      unfold classify
      dsimp only
      split <;> rfl
    | other text => rfl

theorem record_winners (c : Tally) (won : Bool) (err : Option StoreErr) :
    (c.record won err).winners = c.winners + if won && err.isNone then 1 else 0 := by
  cases err with
  | none => cases won <;> rfl
  | some err => cases won <;> rfl

theorem record_hardErr (c : Tally) (won : Bool) (err : Option StoreErr) :
    (c.record won err).hardErr = none ↔ c.hardErr = none ∧ err.isSome = false := by
  cases err with
  | none => cases won <;> simp [Tally.record]
  | some err => simp [Tally.record]

/-- The tally after a list of events. -/
theorem served_tally {σ : Type} {store : Store σ} {x y : σ × Tally} {t : List (Event WriterApi)}
    (h : Served (ServeWriter store) x t y) :
    y.2.winners = x.2.winners + t.countP countsWinner ∧
      (y.2.hardErr = none ↔ x.2.hardErr = none ∧ ∀ e ∈ t, keepsError e = false) := by
  induction h with
  | nil x => simp
  | @cons x₁ x₂ x₃ o r t hs _ ih =>
    obtain ⟨hwinners, herr⟩ := ih
    cases o with
    | store o =>
      have hkept : x₂.2 = x₁.2 := hs.2
      rw [hkept] at hwinners herr
      refine ⟨?_, ?_⟩
      · rw [List.countP_cons_of_neg (by simp [countsWinner])]
        exact hwinners
      · simpa [keepsError] using herr
    | record won err =>
      have hrecord : x₂.2 = x₁.2.record won err := hs.2
      rw [hrecord] at hwinners herr
      refine ⟨?_, ?_⟩
      · rw [hwinners, record_winners, List.countP_cons]
        show _ = x₁.2.winners + (t.countP countsWinner + if won && err.isNone then 1 else 0)
        omega
      · rw [herr, record_hardErr]
        simp [keepsError, and_assoc]

/-! ## §3. A race, against any store. -/

section race

variable {σ : Type} {store : Store σ} {f : Flags} {p : Phase} {key : String}
  {etag : Option String} {s s' : σ}

/-- The writers of a round. -/
abbrev writers (f : Flags) (p : Phase) (key : String) (etag : Option String) :
    Fin f.writers → Prog WriterApi Unit :=
  fun w => writer p.racer f key etag w

/-- The number of conditional PUTs of a race that succeeded. -/
def successes {n : Nat} (r : Raced n) : Nat := (events r.history).countP succeeded

/-- No writer of the race got a hard error. -/
def NoHardError {n : Nat} (r : Raced n) : Prop := ∀ e ∈ events r.history, hardError e = false

/-- Each writer has exchanged its two events. -/
theorem raced_eventsOf {r : Raced f.writers}
    (h : ServeHammer store s (.race f.writers (writers f p key etag)) r s') (w : Fin f.writers) :
    ∃ err, eventsOf w r.history = writerEvents (p.input f key etag w) err := by
  obtain ⟨ends, hfork, hends⟩ := h
  obtain ⟨u, hu⟩ := returned_iff.mp (hends w)
  have hsteps := hfork.steps w
  rw [hu] at hsteps
  exact runs_writer hsteps

/-- **The tally is exact**, whatever the store answers and however the writers interleave. -/
theorem raced_tally {r : Raced f.writers}
    (h : ServeHammer store s (.race f.writers (writers f p key etag)) r s')
    (hconditional : ∀ w, (p.input f key etag w).conditional = true) :
    r.tally.winners = successes r ∧ (r.tally.hardErr = none ↔ NoHardError r) := by
  obtain ⟨ends, hfork, hends⟩ := id h
  obtain ⟨hwinners, herr⟩ := served_tally hfork.served
  refine ⟨?_, ?_⟩
  · -- writer by writer, a counted winner is a PUT that succeeded
    have hcount : ∀ w, (eventsOf w r.history).countP countsWinner =
        (eventsOf w r.history).countP succeeded := by
      intro w
      obtain ⟨err, hw⟩ := raced_eventsOf h w
      rw [hw]
      simp [writerEvents, List.countP_cons, countsWinner, succeeded, hconditional, classify_won]
    rw [hwinners, countP_events_congr hcount]
    exact Nat.zero_add _
  · have hkept : (∀ e ∈ events r.history, keepsError e = false) ↔ NoHardError r := by
      unfold NoHardError
      rw [forall_events_iff, forall_events_iff]
      refine forall_congr' fun w => ?_
      obtain ⟨err, hw⟩ := raced_eventsOf h w
      rw [hw]
      simp [writerEvents, keepsError, hardError]
    rw [herr, hkept]
    exact and_iff_right rfl

end race

/-! ## §4. A round, against any store. -/

section rounds

variable {σ α β : Type} {store : Store σ} {s s' : σ} {t : List (Event HammerApi)}

theorem hammers_pure {a b : α} (h : Hammers store s (pure a) t s' b) :
    t = [] ∧ s' = s ∧ b = a :=
  Exec.pure_alone h

theorem hammers_ask {o : HammerOp} {k : HammerResp o → H α} {a : α}
    (h : Hammers store s (ask o >>= k) t s' a) :
    ∃ r s₁ u, ServeHammer store s o r s₁ ∧ t = ⟨o, r⟩ :: u ∧ Hammers store s₁ (k r) u s' a :=
  Exec.req_alone h

theorem hammers_bind {q : H α} {k : α → H β} {b : β} (h : Hammers store s (q >>= k) t s' b) :
    ∃ a t₁ t₂ s₁, t = t₁ ++ t₂ ∧ Hammers store s q t₁ s₁ a ∧ Hammers store s₁ (k a) t₂ s' b :=
  Exec.bind_cases h

/-- An operation of the store. -/
def isStore : HammerOp → Prop
  | .store _ => True
  | _ => False

theorem seedETag_only (f : Flags) (name key : String) (i : Nat) :
    Only isStore (seedETag f name key i) := by
  unfold seedETag
  split
  · refine only_bind ((only_req ..).mpr trivial) fun err => ?_
    cases err with
    | some err => exact only_pure ..
    | none =>
      refine only_bind ((only_req ..).mpr trivial) fun head => ?_
      split <;> exact only_pure ..
  · exact only_pure ..

/-- The create phase seeds nothing. -/
theorem seedETag_create {f : Flags} {key : String} {i : Nat} {res : Except Exit (Option String)}
    (h : Hammers store s (seedETag f Phase.create.name key i) t s' res) :
    s' = s ∧ res = .ok none := by
  unfold seedETag at h
  rw [if_neg (by decide)] at h
  exact (hammers_pure h).2

/-- The seed of the update phase. -/
def seedInput (f : Flags) (key : String) : PutObjectInput :=
  { location := ⟨f.bucket, key⟩, body := "seed" }

/-- The update phase seeds the key and reads its ETag; with both answers in hand it goes on with
that ETag, otherwise it exits. -/
theorem seedETag_update {f : Flags} {key : String} {i : Nat} {res : Except Exit (Option String)}
    (h : Hammers store s (seedETag f Phase.update.name key i) t s' res) :
    ∃ err s₁, store s (.putObject (seedInput f key)) err s₁ ∧
      ((∃ exit, err ≠ none ∧ res = .error exit) ∨
        err = none ∧ ∃ head, store s₁ (.headObject ⟨f.bucket, key⟩) head s' ∧
          ((∃ etag, head = .ok (some ⟨some etag⟩) ∧ res = .ok (some etag)) ∨
            ∃ exit, (∀ etag, head ≠ .ok (some ⟨some etag⟩)) ∧ res = .error exit)) := by
  unfold seedETag at h
  rw [if_pos (by decide)] at h
  obtain ⟨err, s₁, t₁, hput, -, hrest⟩ := hammers_ask h
  refine ⟨err, s₁, hput, ?_⟩
  cases err with
  | some err =>
    obtain ⟨-, -, hres⟩ := hammers_pure hrest
    exact .inl ⟨_, by simp, hres⟩
  | none =>
    obtain ⟨head, s₂, t₂, hhead, -, hlast⟩ := hammers_ask hrest
    refine .inr ⟨rfl, head, ?_⟩
    split at hlast
    · next etag =>
      obtain ⟨-, rfl, hres⟩ := hammers_pure hlast
      exact ⟨hhead, .inl ⟨etag, rfl, hres⟩⟩
    · next x hx =>
      obtain ⟨-, rfl, hres⟩ := hammers_pure hlast
      refine ⟨hhead, .inr ⟨_, fun etag heq => ?_, hres⟩⟩
      cases heq
      exact hx etag rfl
    · next err =>
      obtain ⟨-, rfl, hres⟩ := hammers_pure hlast
      exact ⟨hhead, .inr ⟨_, by simp, hres⟩⟩

variable {f : Flags} {p : Phase} {i : Nat}

/-- The ETag the writers share makes their PUTs conditional. -/
theorem input_conditional {key key' : String} {etag : Option String}
    (h : Hammers store s (seedETag f p.name key i) t s' (.ok etag)) (w : Nat) :
    (p.input f key' etag w).conditional = true := by
  cases p with
  | create => rfl
  | update =>
    obtain ⟨err, s₁, -, ⟨exit, -, hres⟩ | ⟨-, head, -, ⟨e, -, hres⟩ | ⟨exit, -, hres⟩⟩⟩ :=
      seedETag_update h
    · cases hres
    · cases hres
      rfl
    · cases hres

/-- **Everything a round can do**: it exits before the race, or it holds the race and then exits on
a hard error or prints its line, deletes the object and returns whether it was a violation. -/
theorem runRound_cases {res : Except Exit Bool}
    (h : Hammers store s (runRound f p.name p.racer i) t s' res) :
    ∃ nano t₁ s₁ seeded,
      Hammers store s (seedETag f p.name (roundKey f p.name nano i) i) t₁ s₁ seeded ∧
      ((∃ exit, seeded = .error exit ∧ res = .error exit ∧ t = ⟨.now, nano⟩ :: t₁) ∨
        ∃ etag r s₂ t₂, seeded = .ok etag ∧
          ServeHammer store s₁
            (.race f.writers (writers f p (roundKey f p.name nano i) etag)) r s₂ ∧
          t = ⟨.now, nano⟩ :: (t₁ ++
            ⟨.race f.writers (writers f p (roundKey f p.name nano i) etag), r⟩ :: t₂) ∧
          ((∃ exit, r.tally.hardErr ≠ none ∧ res = .error exit ∧ t₂ = []) ∨
            r.tally.hardErr = none ∧ res = .ok (decide (r.tally.winners ≠ 1)) ∧
              ∃ d, store s₂ (.deleteObject (roundLocation f p.name nano i)) d s' ∧
                t₂ = [⟨.printf (roundLine p.name i r.tally.winners), ()⟩,
                  ⟨.store (.deleteObject (roundLocation f p.name nano i)), d⟩])) := by
  unfold runRound at h
  obtain ⟨nano, s₀, t₀, hnow, rfl, hround⟩ := hammers_ask h
  obtain rfl : s₀ = s := hnow
  obtain ⟨seeded, t₁, t₂, s₁, rfl, hseed, hrest⟩ := hammers_bind hround
  refine ⟨nano, t₁, s₁, seeded, hseed, ?_⟩
  cases seeded with
  | error exit =>
    obtain ⟨rfl, -, hres⟩ := hammers_pure hrest
    exact .inl ⟨exit, rfl, hres, by rw [List.append_nil]⟩
  | ok etag =>
    obtain ⟨r, s₂, t₃, hrace, rfl, hraced⟩ := hammers_ask hrest
    refine .inr ⟨etag, r, s₂, t₃, rfl, hrace, rfl, ?_⟩
    cases herr : r.tally.hardErr with
    | some err =>
      simp only [herr] at hraced
      obtain ⟨rfl, -, hres⟩ := hammers_pure hraced
      exact .inl ⟨_, by simp, hres, rfl⟩
    | none =>
      simp only [herr] at hraced
      obtain ⟨u, s₃, t₄, hprint, rfl, hprinted⟩ := hammers_ask hraced
      obtain rfl : s₃ = s₂ := hprint
      obtain ⟨d, s₄, t₅, hdelete, rfl, hdeleted⟩ := hammers_ask hprinted
      obtain ⟨rfl, rfl, hres⟩ := hammers_pure hdeleted
      exact .inr ⟨rfl, hres, d, hdelete, rfl⟩

/-! ## §5. The verdict, against any store. -/

/-- The number of conditional PUTs that succeeded, race by race. -/
def successesOf (t : List (Event HammerApi)) : List Nat :=
  t.filterMap fun e => match e with
    | ⟨.race _ _, r⟩ => some (successes r)
    | _ => none

/-- The winners counted, race by race. -/
def winnersOf (t : List (Event HammerApi)) : List Nat :=
  t.filterMap fun e => match e with
    | ⟨.race _ _, r⟩ => some r.tally.winners
    | _ => none

/-- The readings of the clock. -/
def readings (t : List (Event HammerApi)) : List Int :=
  t.filterMap fun e => match e with
    | ⟨.now, nano⟩ => some nano
    | _ => none

theorem successesOf_append (t u : List (Event HammerApi)) :
    successesOf (t ++ u) = successesOf t ++ successesOf u :=
  List.filterMap_append

theorem winnersOf_append (t u : List (Event HammerApi)) :
    winnersOf (t ++ u) = winnersOf t ++ winnersOf u :=
  List.filterMap_append

theorem readings_append (t u : List (Event HammerApi)) :
    readings (t ++ u) = readings t ++ readings u :=
  List.filterMap_append

/-- Operations of the store are neither races nor readings. -/
theorem observed_store (ht : ∀ e ∈ t, isStore e.op) :
    successesOf t = [] ∧ winnersOf t = [] ∧ readings t = [] := by
  refine ⟨?_, ?_, ?_⟩ <;>
  · refine List.filterMap_eq_nil_iff.mpr fun e he => ?_
    obtain ⟨o, r⟩ := e
    have hstore := ht _ he
    cases o with
    | store o => rfl
    | now => exact hstore.elim
    | race n ws => exact hstore.elim
    | printf line => exact hstore.elim

theorem seeded_store {key : String} {seeded : Except Exit (Option String)}
    (h : Hammers store s (seedETag f p.name key i) t s' seeded) : ∀ e ∈ t, isStore e.op :=
  ((seedETag_only f p.name key i).steps h.steps).1

/-- What is observed of a round that held its race. -/
theorem observed_race (nano : Int) {t₁ t₂ : List (Event HammerApi)} {n : Nat}
    (ws : Fin n → Prog WriterApi Unit) (r : Raced n) (h₁ : ∀ e ∈ t₁, isStore e.op)
    (h₂ : t₂ = [] ∨ ∃ line o d, t₂ = [⟨.printf line, ()⟩, ⟨.store o, d⟩]) :
    successesOf (⟨.now, nano⟩ :: (t₁ ++ ⟨.race n ws, r⟩ :: t₂)) = [successes r] ∧
      winnersOf (⟨.now, nano⟩ :: (t₁ ++ ⟨.race n ws, r⟩ :: t₂)) = [r.tally.winners] ∧
      readings (⟨.now, nano⟩ :: (t₁ ++ ⟨.race n ws, r⟩ :: t₂)) = [nano] := by
  obtain ⟨hs, hw, hr⟩ := observed_store h₁
  unfold successesOf winnersOf readings at *
  rcases h₂ with rfl | ⟨line, o, d, rfl⟩
  · simp [List.filterMap_append, hs, hw, hr]
  · simp [List.filterMap_append, hs, hw, hr]

/-- **A round that is not cut short** counts its winners right, and is a violation unless there is
exactly one. -/
theorem round_ok {violated : Bool}
    (h : Hammers store s (runRound f p.name p.racer i) t s' (.ok violated)) :
    ∃ nano n, readings t = [nano] ∧ winnersOf t = [n] ∧ successesOf t = [n] ∧
      violated = decide (n ≠ 1) := by
  obtain ⟨nano, t₁, s₁, seeded, hseed, hexit | ⟨etag, r, s₂, t₂, rfl, hrace, rfl, hend⟩⟩ :=
    runRound_cases h
  · obtain ⟨exit, -, hres, -⟩ := hexit
    cases hres
  · rcases hend with ⟨exit, -, hres, -⟩ | ⟨-, hres, d, -, rfl⟩
    · cases hres
    · obtain ⟨hs, hw, hr⟩ := observed_race nano
        (writers f p (roundKey f p.name nano i) etag) r (seeded_store hseed)
        (.inr ⟨_, .deleteObject _, d, rfl⟩)
      have htally := (raced_tally hrace (input_conditional hseed)).1
      cases hres
      exact ⟨nano, r.tally.winners, hr, hw, htally ▸ hs, rfl⟩

/-- **The verdict of a round.**  Unless a writer got a hard error, the round is counted, as a
violation exactly when the number of conditional PUTs that succeeded is not one. -/
theorem round_verdict {res : Except Exit Bool}
    (h : Hammers store s (runRound f p.name p.racer i) t s' res) {n : Nat}
    {ws : Fin n → Prog WriterApi Unit} {r : Raced n}
    (hr : (⟨.race n ws, r⟩ : Event HammerApi) ∈ t) (hnone : NoHardError r) :
    ∃ violated, res = .ok violated ∧ (violated = true ↔ successes r ≠ 1) := by
  obtain ⟨nano, t₁, s₁, seeded, hseed, hexit | ⟨etag, r', s₂, t₂, rfl, hrace, rfl, hend⟩⟩ :=
    runRound_cases h
  · -- no race was held
    obtain ⟨exit, -, -, rfl⟩ := hexit
    rcases List.mem_cons.mp hr with heq | hr
    · cases heq
    · exact (seeded_store hseed _ hr).elim
  · have hheld : (⟨.race n ws, r⟩ : Event HammerApi) =
        ⟨.race f.writers (writers f p (roundKey f p.name nano i) etag), r'⟩ := by
      rcases List.mem_cons.mp hr with heq | hr
      · cases heq
      · rcases List.mem_append.mp hr with hr | hr
        · exact (seeded_store hseed _ hr).elim
        · rcases List.mem_cons.mp hr with heq | hr
          · exact heq
          · rcases hend with ⟨exit, -, -, rfl⟩ | ⟨-, -, d, -, rfl⟩
            · cases hr
            · simp at hr
    cases hheld
    obtain ⟨hwinners, herr⟩ := raced_tally hrace (input_conditional hseed)
    rcases hend with ⟨exit, hsome, -, -⟩ | ⟨-, hres, -⟩
    · exact absurd (herr.mpr hnone) hsome
    · rw [hwinners] at hres
      exact ⟨_, hres, decide_eq_true_iff⟩

/-- The rounds that are left add their violations. -/
theorem rounds_verdict {left : Nat} :
    ∀ {s : σ} {t : List (Event HammerApi)} {i violations total : Nat},
      Hammers store s (runRounds f p.name p.racer left i violations) t s' (.ok total) →
      winnersOf t = successesOf t ∧
        total = violations + (successesOf t).countP fun n => n ≠ 1 := by
  induction left with
  | zero =>
    intro s t i violations total h
    obtain ⟨rfl, -, hres⟩ := hammers_pure h
    cases hres
    exact ⟨rfl, rfl⟩
  | succ left ih =>
    intro s t i violations total h
    unfold runRounds at h
    obtain ⟨res, t₁, t₂, s₁, rfl, hround, hrest⟩ := hammers_bind h
    cases res with
    | error exit =>
      obtain ⟨-, -, hres⟩ := hammers_pure hrest
      cases hres
    | ok violated =>
      obtain ⟨nano, n, -, hw, hs, rfl⟩ := round_ok hround
      obtain ⟨hwinners, htotal⟩ := ih hrest
      rw [winnersOf_append, successesOf_append, hw, hs, hwinners, htotal,
        List.singleton_append, List.countP_cons]
      refine ⟨rfl, ?_⟩
      omega

/-! ## §6. The exit status. -/

/-- The run could not complete. -/
def GivesUp : Except Exit α → Prop
  | .error exit => exit.code = 2
  | .ok _ => True

theorem valid_seedETag (h : List (Event HammerApi)) (f : Flags) (name key : String) (i : Nat) :
    Valid (fun _ _ => True) h (seedETag f name key i) fun _ res => GivesUp res := by
  unfold seedETag
  split
  · rw [valid_bind, valid_req]
    refine fun err => ⟨trivial, ?_⟩
    cases err with
    | some err => exact valid_pure.mpr rfl
    | none =>
      rw [valid_bind, valid_req]
      refine fun head => ⟨trivial, ?_⟩
      split
      · exact valid_pure.mpr trivial
      · exact valid_pure.mpr rfl
      · exact valid_pure.mpr rfl
  · exact valid_pure.mpr trivial

theorem valid_runRound (h : List (Event HammerApi)) (f : Flags) (name : String) (race : Racer)
    (i : Nat) :
    Valid (fun _ _ => True) h (runRound f name race i) fun _ res => GivesUp res := by
  unfold runRound
  rw [valid_bind, valid_req]
  refine fun nano => ⟨trivial, ?_⟩
  rw [valid_bind]
  refine (valid_seedETag _ f name (roundKey f name nano i) i).post fun h' seeded hseeded => ?_
  cases seeded with
  | error exit => exact valid_pure.mpr hseeded
  | ok etag =>
    dsimp only
    rw [valid_bind, valid_req]
    refine fun raced => ⟨trivial, ?_⟩
    split
    · exact valid_pure.mpr rfl
    · rw [valid_bind, valid_req]
      refine fun _ => ⟨trivial, ?_⟩
      rw [valid_bind, valid_req]
      exact fun _ => ⟨trivial, valid_pure.mpr trivial⟩

/-- The rounds give up with status 2 only. -/
theorem valid_runRounds (f : Flags) (name : String) (race : Racer) (left : Nat) :
    ∀ (h : List (Event HammerApi)) (i violations : Nat),
      Valid (fun _ _ => True) h (runRounds f name race left i violations)
        fun _ res => GivesUp res := by
  induction left with
  | zero => exact fun _ _ _ => valid_pure.mpr trivial
  | succ left ih =>
    intro h i violations
    unfold runRounds
    rw [valid_bind]
    refine (valid_runRound h f name race i).post fun h' res hres => ?_
    cases res with
    | error exit => exact valid_pure.mpr hres
    | ok violated => exact ih h' _ _

theorem phase_gives_up {exit : Exit}
    (h : Hammers store s (runPhase f p.name p.racer) t s' (.error exit)) : exit.code = 2 :=
  valid_runs (valid_runRounds f p.name p.racer f.rounds [] 0 0) h.steps

/-- **The exit status.**  0 says that every race had exactly one PUT that succeeded, 1 that some
race had not; anything else is 2. -/
theorem main_exit {exit : Exit} (h : Hammers store s (main f) t s' exit) :
    (exit.code = 0 ∧ ∀ n ∈ successesOf t, n = 1) ∨
      (exit.code = 1 ∧ ∃ n ∈ successesOf t, n ≠ 1) ∨ exit.code = 2 := by
  unfold main at h
  split at h
  · obtain ⟨-, -, rfl⟩ := hammers_pure h
    exact .inr (.inr rfl)
  split at h
  · obtain ⟨-, -, rfl⟩ := hammers_pure h
    exact .inr (.inr rfl)
  obtain ⟨created, t₁, t₂, s₁, rfl, hcreate, hrest⟩ := hammers_bind h
  cases created with
  | error exit' =>
    obtain ⟨-, -, rfl⟩ := hammers_pure hrest
    exact .inr (.inr (phase_gives_up hcreate))
  | ok created =>
    obtain ⟨updated, t₃, t₄, s₂, rfl, hupdate, hlast⟩ := hammers_bind hrest
    cases updated with
    | error exit' =>
      obtain ⟨-, -, rfl⟩ := hammers_pure hlast
      exact .inr (.inr (phase_gives_up hupdate))
    | ok updated =>
      -- the last line printed is not a race
      have hcount : ∀ line, t₄ = [⟨.printf line, ()⟩] → created + updated =
          (successesOf (t₁ ++ (t₃ ++ t₄))).countP fun n => n ≠ 1 := by
        rintro line rfl
        rw [(rounds_verdict hcreate).2, (rounds_verdict hupdate).2, successesOf_append,
          successesOf_append, List.countP_append, List.countP_append]
        simp [successesOf]
      dsimp only at hlast
      split at hlast
      · next hsome =>
        obtain ⟨u, s₃, t₅, -, rfl, hend⟩ := hammers_ask hlast
        obtain ⟨rfl, -, rfl⟩ := hammers_pure hend
        rw [hcount _ rfl] at hsome
        obtain ⟨n, hn, hne⟩ := List.countP_pos_iff.mp hsome
        exact .inr (.inl ⟨rfl, n, hn, of_decide_eq_true hne⟩)
      · next hnone =>
        obtain ⟨u, s₃, t₅, -, rfl, hend⟩ := hammers_ask hlast
        obtain ⟨rfl, -, rfl⟩ := hammers_pure hend
        rw [hcount _ rfl] at hnone
        have hzero := List.countP_eq_zero.mp (Nat.eq_zero_of_not_pos hnone)
        refine .inl ⟨rfl, fun n hn => ?_⟩
        by_contra hne
        exact hzero n hn (decide_eq_true hne)

end rounds

end CelldOperator.Hammer
