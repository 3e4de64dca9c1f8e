/-
  CelldOperator.Prom.Query

  **INSTANT QUERIES.**

  The part of a metrics query language that alerts and autoscalers guard their
  expressions with: selection by labels, aggregation, comparison with a number, and
  `and on()`, which lets a vector through while another one is not empty.  Functions
  outside this part have a text and whatever value the server gives them.  Numbers are
  machine numbers: of the server's arithmetic only its contract is used (`Arithmetic`).

    • `eval`, `render`              — the value of a query at one instant, and its text,
    • `points_andOn`                — a conjunction,
    • `lets_minEq`, `lets_younger`  — when the two usual guards let through.
-/
import Mathlib.Algebra.Order.Field.Rat
import Mathlib.Data.Rat.Defs

namespace Prom

/-! ## §1. Queries. -/

inductive Agg where
  | avg | max | min
  deriving DecidableEq

inductive Expr where
  | select (metric : String) (matchers : List (String × String))
  | agg (op : Agg) (arg : Expr)
  | number (n : Nat)
  | time
  | sub (left right : Expr)
  | eq (left right : Expr)
  | lt (left right : Expr)
  /-- `left and on() right`. -/
  | andOn (left right : Expr)
  | other (text : String)

/-- How tightly the outermost operator binds. -/
def Expr.binding : Expr → Nat
  | .andOn _ _ => 0
  | .eq _ _ | .lt _ _ => 1
  | .sub _ _ => 2
  | _ => 3

@[simp] theorem binding_andOn (l r : Expr) : (Expr.andOn l r).binding = 0 := rfl

@[simp] theorem binding_sub (l r : Expr) : (Expr.sub l r).binding = 2 := rfl

@[simp] theorem binding_agg (op : Agg) (e : Expr) : (Expr.agg op e).binding = 3 := rfl

@[simp] theorem binding_number (n : Nat) : (Expr.number n).binding = 3 := rfl

@[simp] theorem binding_time : Expr.time.binding = 3 := rfl

def Agg.text : Agg → String
  | .avg => "avg"
  | .max => "max"
  | .min => "min"

/-- In parentheses, unless it binds at least this tightly. -/
def grouped (e : Expr) (text : String) (level : Nat) : String :=
  if e.binding < level then "(" ++ text ++ ")" else text

/-- The text of a query; `quote` writes the label values.  The operands of `and` are in
parentheses, a conjunction on its left apart. -/
def Expr.render (quote : String → String) : Expr → String
  | .select metric matchers =>
    metric ++ "\x7b" ++ ",".intercalate (matchers.map fun m => m.1 ++ "=" ++ quote m.2) ++ "\x7d"
  | .agg op arg => op.text ++ "(" ++ arg.render quote ++ ")"
  | .number n => toString n
  | .time => "time()"
  | .sub l r => grouped l (l.render quote) 2 ++ " - " ++ grouped r (r.render quote) 3
  | .eq l r => grouped l (l.render quote) 2 ++ " == " ++ grouped r (r.render quote) 2
  | .lt l r => grouped l (l.render quote) 2 ++ " < " ++ grouped r (r.render quote) 2
  | .andOn l r =>
    (if l.binding = 0 then l.render quote else "(" ++ l.render quote ++ ")") ++
      " and on() (" ++ r.render quote ++ ")"
  | .other text => text

/-! ## §2. Values. -/

/-- One series, with the value it has at the instant. -/
structure Series where
  name : String
  labels : List (String × String)
  value : ℚ

/-- An element of a vector; the name of the metric plays no role in what follows. -/
structure Point where
  labels : List (String × String)
  value : ℚ
  deriving DecidableEq

inductive Value where
  | scalar (q : ℚ)
  | vector (points : List Point)

/-- **The arithmetic of the server.**  It rounds, in order, and small whole numbers are its own;
how it computes a mean is left to it. -/
structure Arithmetic where
  round : ℚ → ℚ
  mono : Monotone round
  whole : ∀ n : ℕ, n ≤ 2 ^ 53 → round n = n
  mean : List ℚ → ℚ

/-- What is rounded below such a number was below it. -/
theorem Arithmetic.lt_of_round_lt (arith : Arithmetic) {x : ℚ} {n : ℕ} (hn : n ≤ 2 ^ 53)
    (h : arith.round x < n) : x < n := by
  by_contra hge
  have hle := arith.mono (not_lt.mp hge)
  rw [arith.whole n hn] at hle
  exact absurd h (not_lt.mpr hle)

/-- Arithmetic without rounding. -/
def Arithmetic.exactly : Arithmetic where
  round := id
  mono := monotone_id
  whole := fun _ _ => rfl
  mean := fun values => values.sum / values.length

/-- What a query is evaluated over. -/
structure Instant where
  arith : Arithmetic
  now : ℚ
  series : List Series
  other : String → List Point

/-- The series has these labels. -/
def Series.Matches (s : Series) (metric : String) (matchers : List (String × String)) : Prop :=
  s.name = metric ∧ ∀ m ∈ matchers, s.labels.lookup m.1 = some m.2

instance (s : Series) (metric : String) (matchers : List (String × String)) :
    Decidable (s.Matches metric matchers) := inferInstanceAs (Decidable (_ ∧ _))

/-- The values an expression selects. -/
def selected (inst : Instant) (metric : String) (matchers : List (String × String)) : List Series :=
  inst.series.filter fun s => s.Matches metric matchers

/-- An aggregate; there is none of the empty vector. -/
def Agg.apply (arith : Arithmetic) : Agg → List ℚ → Option ℚ
  | .avg, values => if values = [] then none else some (arith.mean values)
  | .max, values => values.max?
  | .min, values => values.min?

/-- Where the labels agree. -/
def joined (left right : List Point) (f : ℚ → ℚ → Option ℚ) : List Point :=
  left.flatMap fun l => (right.filter fun r => r.labels = l.labels).filterMap fun r =>
    (f l.value r.value).map (⟨l.labels, ·⟩)

/-- Every point, through a function that may drop it. -/
def throughPoints (points : List Point) (f : ℚ → Option ℚ) : List Point :=
  points.filterMap fun p => (f p.value).map (⟨p.labels, ·⟩)

/-- Subtraction. -/
def Value.sub (arith : Arithmetic) : Value → Value → Value
  | .scalar a, .scalar b => .scalar (arith.round (a - b))
  | .scalar a, .vector v => .vector (throughPoints v fun x => some (arith.round (a - x)))
  | .vector v, .scalar b => .vector (throughPoints v fun x => some (arith.round (x - b)))
  | .vector v, .vector u => .vector (joined v u fun x y => some (arith.round (x - y)))

/-- A comparison filters; two scalars cannot be compared this way. -/
def Value.compare (rel : ℚ → ℚ → Bool) : Value → Value → Option Value
  | .scalar _, .scalar _ => none
  | .scalar a, .vector v =>
    some (.vector (throughPoints v fun x => if rel a x then some x else none))
  | .vector v, .scalar b =>
    some (.vector (throughPoints v fun x => if rel x b then some x else none))
  | .vector v, .vector u =>
    some (.vector (joined v u fun x y => if rel x y then some x else none))

/-- **The value of a query**, if it has one. -/
def Expr.eval (inst : Instant) : Expr → Option Value
  | .select metric matchers =>
    some (.vector ((selected inst metric matchers).map fun s => ⟨s.labels, s.value⟩))
  | .agg op arg =>
    match arg.eval inst with
    | some (.vector v) =>
      some (.vector ((op.apply inst.arith (v.map (·.value))).toList.map (⟨[], ·⟩)))
    | _ => none
  | .number n => some (.scalar n)
  | .time => some (.scalar inst.now)
  | .sub l r =>
    match l.eval inst, r.eval inst with
    | some a, some b => some (a.sub inst.arith b)
    | _, _ => none
  | .eq l r =>
    match l.eval inst, r.eval inst with
    | some a, some b => a.compare (fun x y => decide (x = y)) b
    | _, _ => none
  | .lt l r =>
    match l.eval inst, r.eval inst with
    | some a, some b => a.compare (fun x y => decide (x < y)) b
    | _, _ => none
  | .andOn l r =>
    match l.eval inst, r.eval inst with
    | some (.vector v), some (.vector u) => some (.vector (if u.isEmpty then [] else v))
    | _, _ => none
  | .other text => some (.vector (inst.other text))

/-- The points of a query; an expression that is no vector has none. -/
def Expr.points (inst : Instant) (e : Expr) : List Point :=
  match e.eval inst with
  | some (.vector v) => v
  | _ => []

/-! ## §3. Guards. -/

/-- The query lets something through. -/
def Lets (inst : Instant) (e : Expr) : Prop := e.points inst ≠ []

instance (inst : Instant) (e : Expr) : Decidable (Lets inst e) :=
  inferInstanceAs (Decidable (¬ e.points inst = []))

section

variable {inst : Instant} {e l r : Expr} {metric : String} {matchers : List (String × String)}
  {n : Nat}

/-- **A conjunction** has the points of its left side, while its right side has any. -/
theorem points_andOn (l r : Expr) :
    (Expr.andOn l r).points inst = if r.points inst = [] then [] else l.points inst := by
  unfold Expr.points
  rw [show (Expr.andOn l r).eval inst = match l.eval inst, r.eval inst with
    | some (.vector v), some (.vector u) => some (.vector (if u.isEmpty then [] else v))
    | _, _ => none from rfl]
  cases l.eval inst with
  | none => simp
  | some a =>
    cases r.eval inst with
    | none => cases a <;> simp
    | some b =>
      cases a with
      | scalar q => simp
      | vector v =>
        cases b with
        | scalar q => simp
        | vector u => simp [List.isEmpty_iff]

theorem lets_andOn : Lets inst (.andOn l r) ↔ Lets inst l ∧ Lets inst r := by
  unfold Lets
  rw [points_andOn]
  split
  · next hr => simp [hr]
  · next hr => simp [hr]

/-- The aggregate of a selection. -/
theorem eval_agg_select (op : Agg) :
    (Expr.agg op (.select metric matchers)).eval inst =
      some (.vector ((op.apply inst.arith
        ((selected inst metric matchers).map (·.value))).toList.map (⟨[], ·⟩))) := by
  show some (Value.vector ((op.apply inst.arith ((((selected inst metric matchers).map
    fun s => (⟨s.labels, s.value⟩ : Point)).map (·.value)))).toList.map (⟨[], ·⟩))) = _
  rw [List.map_map]
  rfl

/-- The smallest of some values. -/
theorem min_spec {arith : Arithmetic} {values : List ℚ} {m : ℚ}
    (h : Agg.min.apply arith values = some m) :
    m ∈ values ∧ ∀ x ∈ values, m ≤ x :=
  ⟨List.min?_mem h, (List.le_min?_iff h).mp (le_refl m)⟩

theorem exists_min (arith : Arithmetic) {values : List ℚ} (hne : values ≠ []) :
    ∃ m, Agg.min.apply arith values = some m :=
  Option.isSome_iff_exists.mp (List.isSome_min?_of_ne_nil hne)

/-- A guard over the minimum of a selection: nothing without one, else what the test says. -/
theorem lets_iff_min {P : ℚ → Prop} {f : List Point → List Point}
    (heval : e.eval inst = some (.vector (f ((Agg.min.apply inst.arith
      ((selected inst metric matchers).map (·.value))).toList.map (⟨[], ·⟩)))))
    (hnil : f [] = []) (hone : ∀ m, f [⟨[], m⟩] ≠ [] ↔ P m) :
    Lets inst e ↔ ∃ s ∈ selected inst metric matchers,
      (∀ s' ∈ selected inst metric matchers, s.value ≤ s'.value) ∧ P s.value := by
  have hpoints : e.points inst = f ((Agg.min.apply inst.arith
      ((selected inst metric matchers).map (·.value))).toList.map (⟨[], ·⟩)) := by
    unfold Expr.points
    rw [heval]
  unfold Lets
  rw [hpoints]
  by_cases hnone : (selected inst metric matchers).map (·.value) = []
  · -- nothing is selected: there is no minimum
    have hempty : selected inst metric matchers = [] := List.map_eq_nil_iff.mp hnone
    rw [hempty]
    constructor
    · exact fun h => absurd hnil h
    · rintro ⟨s, hs, -⟩
      cases hs
  · obtain ⟨m, hm⟩ := exists_min inst.arith hnone
    obtain ⟨hmem, hle⟩ := min_spec hm
    obtain ⟨s₀, hs₀, rfl⟩ := List.mem_map.mp hmem
    rw [hm]
    refine (hone s₀.value).trans ⟨fun hp => ?_, ?_⟩
    · exact ⟨s₀, hs₀, fun s hs => hle _ (List.mem_map_of_mem hs), hp⟩
    · rintro ⟨s, hs, hmin, hp⟩
      rw [le_antisymm (hle _ (List.mem_map_of_mem hs)) (hmin s₀ hs₀)]
      exact hp

/-- **`min(…) == n`**: something is selected, and the smallest of it is `n`. -/
theorem lets_minEq :
    Lets inst (.eq (.agg .min (.select metric matchers)) (.number n)) ↔
      (∃ s ∈ selected inst metric matchers, s.value = n) ∧
        ∀ s ∈ selected inst metric matchers, n ≤ s.value := by
  have heval : (Expr.eq (.agg .min (.select metric matchers)) (.number n)).eval inst =
      some (.vector (throughPoints ((Agg.min.apply inst.arith
        ((selected inst metric matchers).map (·.value))).toList.map (⟨[], ·⟩))
          fun x => if decide (x = (n : ℚ)) then some x else none)) := by
    show (match (Expr.agg .min (.select metric matchers)).eval inst,
      (Expr.number n).eval inst with
      | some a, some b => a.compare (fun x y => decide (x = y)) b
      | _, _ => none) = _
    rw [eval_agg_select]
    rfl
  rw [lets_iff_min (P := fun m => m = (n : ℚ)) heval rfl fun m => by
    by_cases h : m = n <;> simp [h]]
  constructor
  · rintro ⟨s, hs, hmin, heq⟩
    exact ⟨⟨s, hs, heq⟩, fun s' hs' => heq ▸ hmin s' hs'⟩
  · rintro ⟨⟨s, hs, heq⟩, hall⟩
    exact ⟨s, hs, fun s' hs' => heq ▸ hall s' hs', heq⟩

/-- **`time() - min(…) < n`**: something is selected, and the age of all of it, rounded, is less
than `n`. -/
theorem lets_younger :
    Lets inst (.lt (.sub .time (.agg .min (.select metric matchers))) (.number n)) ↔
      selected inst metric matchers ≠ [] ∧
        ∀ s ∈ selected inst metric matchers, inst.arith.round (inst.now - s.value) < n := by
  have heval : (Expr.lt (.sub .time (.agg .min (.select metric matchers))) (.number n)).eval inst =
      some (.vector (throughPoints (throughPoints ((Agg.min.apply inst.arith
        ((selected inst metric matchers).map (·.value))).toList.map (⟨[], ·⟩))
          fun x => some (inst.arith.round (inst.now - x)))
            fun x => if decide (x < (n : ℚ)) then some x else none)) := by
    show (match (match Expr.time.eval inst,
        (Expr.agg .min (.select metric matchers)).eval inst with
      | some a, some b => some (a.sub inst.arith b)
      | _, _ => none), (Expr.number n).eval inst with
      | some a, some b => a.compare (fun x y => decide (x < y)) b
      | _, _ => none) = _
    rw [eval_agg_select]
    rfl
  rw [lets_iff_min (P := fun m => inst.arith.round (inst.now - m) < n)
    (f := fun v => throughPoints (throughPoints v fun x => some (inst.arith.round (inst.now - x)))
      fun x => if decide (x < (n : ℚ)) then some x else none) heval rfl
    fun m => by by_cases h : inst.arith.round (inst.now - m) < n <;> simp [throughPoints, h]]
  constructor
  · -- the oldest decides
    rintro ⟨s, hs, hmin, hlt⟩
    refine ⟨List.ne_nil_of_mem hs, fun s' hs' => ?_⟩
    exact lt_of_le_of_lt (inst.arith.mono (sub_le_sub_left (hmin s' hs') _)) hlt
  · rintro ⟨hne, hall⟩
    obtain ⟨m, hm⟩ := exists_min inst.arith (mt List.map_eq_nil_iff.mp hne)
    obtain ⟨hmem, hle⟩ := min_spec hm
    obtain ⟨s, hs, rfl⟩ := List.mem_map.mp hmem
    exact ⟨s, hs, fun s' hs' => hle _ (List.mem_map_of_mem hs'), hall s hs⟩

end

end Prom
