/-
  CelldOperator.Hammer.Race

  **THE STORE HAMMER** (`hack/cas-hammer/main.go`).

  The hammer qualifies an object store for celld: each round, a number of writers
  PUT one key under one precondition, and exactly one of them may succeed.

    • a writer is a goroutine: one conditional PUT (`raceCreate`, `raceUpdate`),
      then a critical section on the tally of the round,
    • `runRound` is the body of the loop in `runPhase`: it picks the key, seeds it
      in the update phase, starts the writers and waits for all of them,
    • `runPhase`, `main` — the loop, and the exit status.

  A call of the S3 client is one operation, with the one answer the client returns.
  The goroutines of a round are one operation too, `race`; what may come back from
  it is said by `ServeHammer`, through every interleaving of theirs (`Effect.Fork`).

  Left out: the region, the endpoint and the credentials, which only make the client.
-/
import CelldOperator.Effect.Hoare
import CelldOperator.Effect.Fork
import CelldOperator.Go.Basic

namespace CelldOperator.Hammer

open Effect Prog

/-! ## §1. The object store's API. -/

/-- An error of the S3 client, by whether `errors.As` finds a `smithy.APIError` in it. -/
inductive StoreErr where
  | api (code text : String)
  | other (text : String)
  deriving DecidableEq

/-- `err.Error()`. -/
def StoreErr.text : StoreErr → String
  | .api _ t | .other t => t

/-- Where an object is stored. -/
structure Location where
  bucket : String
  key : String
  deriving DecidableEq

/-- `s3.PutObjectInput`. -/
structure PutObjectInput where
  location : Location
  body : String
  ifMatch : Option String := none
  ifNoneMatch : Option String := none
  deriving DecidableEq

/-- The PUT carries a precondition. -/
def PutObjectInput.conditional (input : PutObjectInput) : Bool :=
  input.ifMatch.isSome || input.ifNoneMatch.isSome

/-- `s3.HeadObjectOutput`. -/
structure HeadObjectOutput where
  eTag : Option String
  deriving DecidableEq

inductive StoreOp where
  | putObject (input : PutObjectInput)
  | headObject (location : Location)
  | deleteObject (location : Location)

/-- What the client returns; of a PUT and a DELETE only the error is looked at. -/
@[reducible] def StoreResp : StoreOp → Type
  | .putObject _ | .deleteObject _ => Option StoreErr
  | .headObject _ => Except StoreErr (Option HeadObjectOutput)

/-! ## §2. The writers of a round. -/

/-- The operations of a writer: its PUT, and the section under `mu`. -/
inductive WriterOp where
  | store (o : StoreOp)
  | record (won : Bool) (err : Option StoreErr)

@[reducible] def WriterResp : WriterOp → Type
  | .store o => StoreResp o
  | .record _ _ => Unit

@[reducible] def WriterApi : Sig := ⟨WriterOp, WriterResp⟩

/-- The flags of the hammer; a negative number of writers or rounds is refused like zero. -/
structure Flags where
  bucket : String
  writers : Nat := 8
  rounds : Nat := 32
  prefix_ : String := "cas-hammer"

/-- `classify`: won, or lost cleanly, or a hard error. -/
def classify : Option StoreErr → Bool × Option StoreErr
  | none => (true, none)
  | some (.api code text) =>
    if code = "PreconditionFailed" ∨ code = "ConditionalRequestConflict" then (false, none)
    else (false, some (.api code text))
  | some (.other text) => (false, some (.other text))

/-- A writer's PUT: of the flags, the key, the writer and the shared ETag. -/
abbrev Racer := Flags → String → Nat → Option String → Prog WriterApi (Bool × Option StoreErr)

/-- The conditional PUT of a writer. -/
def put (input : PutObjectInput) : Prog WriterApi (Bool × Option StoreErr) := do
  let err ← req (S := WriterApi) (.store (.putObject input))
  pure (classify err)

/-- The body a writer PUTs. -/
def writerBody (writer : Nat) : String := "writer-" ++ decimal writer

/-- What a writer of the create phase PUTs: only onto an absent key. -/
def createInput (f : Flags) (key : String) (writer : Nat) : PutObjectInput :=
  { location := ⟨f.bucket, key⟩, body := writerBody writer, ifNoneMatch := some "*" }

/-- What a writer of the update phase PUTs: only over the object with this ETag. -/
def updateInput (f : Flags) (key : String) (writer : Nat) (etag : Option String) :
    PutObjectInput :=
  { location := ⟨f.bucket, key⟩, body := writerBody writer, ifMatch := etag }

def raceCreate : Racer := fun f key writer _ => put (createInput f key writer)

def raceUpdate : Racer := fun f key writer etag => put (updateInput f key writer etag)

/-- The goroutine of a writer, released by the closed channel. -/
def writer (race : Racer) (f : Flags) (key : String) (etag : Option String) (w : Nat) :
    Prog WriterApi Unit := do
  let (won, err) ← race f key w etag
  req (S := WriterApi) (.record won err)

/-- The variables the writers of a round share under `mu`. -/
structure Tally where
  winners : Nat := 0
  hardErr : Option StoreErr := none
  deriving DecidableEq

/-- The critical section of a writer. -/
def Tally.record (c : Tally) (won : Bool) (err : Option StoreErr) : Tally :=
  match err with
  | some err => { c with hardErr := some err }
  | none => if won then { c with winners := c.winners + 1 } else c

/-! ## §3. The main goroutine. -/

/-- What `wg.Wait` leaves: the shared variables, and what the writers exchanged on the way, which
no code looks at. -/
structure Raced (n : Nat) where
  tally : Tally
  history : List (Fin n × Event WriterApi)

inductive HammerOp where
  /-- `time.Now().UnixNano()`. -/
  | now
  | store (o : StoreOp)
  /-- Start the writers, release them, and wait for all. -/
  | race (n : Nat) (writers : Fin n → Prog WriterApi Unit)
  /-- `fmt.Printf`. -/
  | printf (line : String)

@[reducible] def HammerResp : HammerOp → Type
  | .now => Int
  | .store o => StoreResp o
  | .race n _ => Raced n
  | .printf _ => Unit

@[reducible] def HammerApi : Sig := ⟨HammerOp, HammerResp⟩

/-- A program of the hammer. -/
abbrev H (α : Type) := Prog HammerApi α

abbrev ask (o : HammerOp) : H (HammerResp o) := Prog.req (S := HammerApi) o

/-- `os.Exit`, with what was written to standard error. -/
structure Exit where
  code : Nat
  message : String := ""
  deriving DecidableEq

/-- The key of a round. -/
def roundKey (f : Flags) (name : String) (nano : Int) (round : Nat) : String :=
  f.prefix_ ++ "/" ++ name ++ "/" ++ toString nano ++ "-" ++ decimal round

/-- Where the writers of a round meet. -/
def roundLocation (f : Flags) (name : String) (nano : Int) (round : Nat) : Location :=
  ⟨f.bucket, roundKey f name nano round⟩

/-- The seed of the update phase and its ETag, read once for all writers. -/
def seedETag (f : Flags) (name key : String) (round : Nat) : H (Except Exit (Option String)) :=
  if name = "update" then do
    match ← ask (.store (.putObject { location := ⟨f.bucket, key⟩, body := "seed" })) with
    | some err =>
      pure (.error ⟨2, "round " ++ decimal round ++ ": seeding: " ++ err.text ++ "\n"⟩)
    | none =>
      match ← ask (.store (.headObject ⟨f.bucket, key⟩)) with
      | .ok (some ⟨some etag⟩) => pure (.ok (some etag))
      | .ok _ => pure (.error ⟨2, "round " ++ decimal round ++ ": reading seed ETag: <nil>\n"⟩)
      | .error err => pure (.error ⟨2, "round " ++ decimal round ++ ": reading seed ETag: " ++
          err.text ++ "\n"⟩)
  else pure (.ok none)

/-- `%2d`. -/
def decimal2 (n : Nat) : String := if n < 10 then " " ++ decimal n else decimal n

/-- The line a round prints. -/
def roundLine (name : String) (round winners : Nat) : String :=
  name ++ " round " ++ decimal2 round ++ ": winners=" ++ decimal winners ++ " " ++
    (if winners ≠ 1 then "VIOLATION" else "ok") ++ "\n"

/-- One round; it returns whether it is counted as a violation. -/
def runRound (f : Flags) (name : String) (race : Racer) (round : Nat) : H (Except Exit Bool) := do
  let nano ← ask .now
  match ← seedETag f name (roundKey f name nano round) round with
  | .error exit => pure (.error exit)
  | .ok etag =>
    let raced ← ask (.race f.writers fun w => writer race f (roundKey f name nano round) etag w)
    match raced.tally.hardErr with
    | some err =>
      pure (.error ⟨2, "round " ++ decimal round ++ " (" ++ name ++ "): " ++ err.text ++ "\n"⟩)
    | none =>
      let _ ← ask (.printf (roundLine name round raced.tally.winners))
      let _ ← ask (.store (.deleteObject (roundLocation f name nano round)))
      pure (.ok (decide (raced.tally.winners ≠ 1)))

/-- The rounds that are left, from this one on. -/
def runRounds (f : Flags) (name : String) (race : Racer) :
    (left round violations : Nat) → H (Except Exit Nat)
  | 0, _, violations => pure (.ok violations)
  | left + 1, round, violations => do
    match ← runRound f name race round with
    | .error exit => pure (.error exit)
    | .ok violated =>
      runRounds f name race left (round + 1) (violations + if violated then 1 else 0)

/-- `runPhase`: the number of violations. -/
def runPhase (f : Flags) (name : String) (race : Racer) : H (Except Exit Nat) :=
  runRounds f name race f.rounds 0 0

/-- The two phases of `main`. -/
inductive Phase where
  | create | update
  deriving DecidableEq

def Phase.name : Phase → String
  | .create => "create"
  | .update => "update"

def Phase.racer : Phase → Racer
  | .create => raceCreate
  | .update => raceUpdate

/-- `main`, behind the flags and the client. -/
def main (f : Flags) : H Exit :=
  if f.bucket = "" then pure ⟨2, "--bucket is required\n"⟩
  else if f.writers < 2 ∨ f.rounds < 1 then
    pure ⟨2, "--writers must be at least 2 and --rounds must be positive\n"⟩
  else do
    match ← runPhase f Phase.create.name Phase.create.racer with
    | .error exit => pure exit
    | .ok created =>
      match ← runPhase f Phase.update.name Phase.update.racer with
      | .error exit => pure exit
      | .ok updated =>
        if created + updated > 0 then do
          let _ ← ask (.printf ("\nFAIL: " ++ decimal (created + updated) ++
            " rounds did not have exactly one winner — this store cannot fence celld cells\n"))
          pure ⟨1, ""⟩
        else do
          let _ ← ask (.printf ("\nOK: every round had exactly one winner " ++
            "(atomicity holds for this run; rerun per store release)\n"))
          pure ⟨0, ""⟩

/-! ## §4. Running the hammer against a store. -/

section serve

variable {σ : Type}

/-- How a store answers, moving from state to state. -/
abbrev Store (σ : Type) := σ → (o : StoreOp) → StoreResp o → σ → Prop

/-- How the operations of a writer are answered, over the store and the tally. -/
def ServeWriter (store : Store σ) : σ × Tally → (o : WriterOp) → WriterResp o → σ × Tally → Prop
  | x, .store o, r, y => store x.1 o r y.1 ∧ y.2 = x.2
  | x, .record won err, _, y => y.1 = x.1 ∧ y.2 = x.2.record won err

/-- How the operations of the main goroutine are answered.  The writers start on a fresh tally and
have all returned when the race is over. -/
def ServeHammer (store : Store σ) : σ → (o : HammerOp) → HammerResp o → σ → Prop
  | s, .now, _, s' => s' = s
  | s, .store o, r, s' => store s o r s'
  | s, .race _ writers, r, s' => ∃ ends, Fork (ServeWriter store) (s, {}) writers r.history
      (s', r.tally) ends ∧ ∀ w, (ends w).returned = true
  | s, .printf _, _, s' => s' = s

/-- The program runs against the store, from state to state, and returns; nobody else writes to the
store meanwhile. -/
def Hammers {α : Type} (store : Store σ) (s : σ) (p : H α) (t : List (Event HammerApi)) (s' : σ)
    (a : α) : Prop :=
  Exec (ServeHammer store) alone s p t s' (.ret a)

end serve

end CelldOperator.Hammer
