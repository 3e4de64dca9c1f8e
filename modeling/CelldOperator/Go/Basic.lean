/-
  CelldOperator.Go.Basic

  **THE PIECES OF GO THE OPERATOR IS WRITTEN IN.**

    • fixed-width integers: `int32`/`int64` values are `Int`, with the wrap of
      a conversion or an addition written out (`wrap64`, `int32`),
    • `strings.Cut`, `LastIndex`, `TrimPrefix`, `SplitN`, `HasPrefix` and
      `strconv.Atoi`, on character lists,
    • `map[string]string` as a finite map (`StrMap`), so that equality is the
      equality of maps,
    • the JSON trees `encoding/json` and the unstructured objects use.
-/
import Mathlib.Data.Finmap
import Mathlib.Tactic.Common

namespace CelldOperator

/-! ## §1. Integers and time. -/

/-- The 64-bit value an `int64` expression with the mathematical value `x` has. -/
def wrap64 (x : Int) : Int := (x + 2 ^ 63) % 2 ^ 64 - 2 ^ 63

/-- The conversion `int32(x)`. -/
def int32 (x : Int) : Int := (x + 2 ^ 31) % 2 ^ 32 - 2 ^ 31

theorem int32_of_range {x : Int} (h₁ : -2 ^ 31 ≤ x) (h₂ : x < 2 ^ 31) : int32 x = x := by
  unfold int32
  omega

/-- An instant or a duration, in nanoseconds. -/
abbrev Time := Int

/-- `time.Second`. -/
def second : Time := 1000000000

/-- `time.Minute`. -/
def minute : Time := 60 * second

/-! ## §2. Strings. -/

/-- `strings.Cut` at a one-character separator: before, after, found. -/
def cut (sep : Char) : List Char → List Char × List Char × Bool
  | [] => ([], [], false)
  | c :: cs =>
    if c = sep then ([], cs, true)
    else
      let (before, after, found) := cut sep cs
      (c :: before, after, found)

/-- The text behind the last `sep`, that is `s[strings.LastIndex(s, sep)+1:]`, or `none` when
there is no `sep`. -/
def afterLast (sep : Char) : List Char → Option (List Char)
  | [] => none
  | c :: cs =>
    match afterLast sep cs with
    | some tail => some tail
    | none => if c = sep then some cs else none

/-- `strings.TrimPrefix` of a one-character prefix. -/
def trimPrefix (c : Char) : List Char → List Char
  | [] => []
  | x :: xs => if x = c then xs else x :: xs

/-- `strings.HasPrefix`. -/
def hasPrefix (s pre : String) : Bool := pre.toList.isPrefixOf s.toList

/-- The value of a non-empty run of decimal digits, most significant first. -/
def digits? : List Char → Option Nat
  | [] => none
  | ds => if ds.all Char.isDigit then some (ds.foldl (fun n d => 10 * n + (d.toNat - '0'.toNat)) 0)
      else none

/-- `strconv.Atoi` on a 64-bit platform: an optional sign, decimal digits, in range. -/
def atoi (s : List Char) : Option Int :=
  let value : Option Int := match s with
    | '-' :: ds => (digits? ds).map (fun n : Nat => -(n : Int))
    | '+' :: ds => (digits? ds).map (fun n : Nat => (n : Int))
    | ds => (digits? ds).map (fun n : Nat => (n : Int))
  value.bind fun v => if -2 ^ 63 ≤ v ∧ v < 2 ^ 63 then some v else none

/-- A separator that was found stands between the two halves. -/
theorem eq_append_of_cut {sep : Char} {s : List Char} (h : (cut sep s).2.2 = true) :
    s = (cut sep s).1 ++ sep :: (cut sep s).2.1 := by
  induction s with
  | nil => cases h
  | cons c cs ih =>
    by_cases hc : c = sep
    · simp [cut, hc]
    · simp only [cut, if_neg hc] at h ⊢
      rw [List.cons_append, ← ih h]

theorem cut_append {sep : Char} {before : List Char} (h : sep ∉ before) (after : List Char) :
    cut sep (before ++ sep :: after) = (before, after, true) := by
  induction before with
  | nil => simp [cut]
  | cons c cs ih =>
    have hc : c ≠ sep := fun heq => h (heq ▸ List.mem_cons_self ..)
    rw [List.cons_append, cut, if_neg hc, ih fun hmem => h (List.mem_cons_of_mem c hmem)]

theorem suffix_of_afterLast {sep : Char} {s t : List Char} (h : afterLast sep s = some t) :
    t <:+ s := by
  induction s with
  | nil => cases h
  | cons c cs ih =>
    unfold afterLast at h
    split at h
    · next tail heq =>
      cases h
      exact (ih heq).trans (List.suffix_cons c cs)
    · split at h
      · cases h
        exact List.suffix_cons c _
      · cases h

theorem afterLast_of_not_mem {sep : Char} {s : List Char} (h : sep ∉ s) :
    afterLast sep s = none := by
  induction s with
  | nil => rfl
  | cons c cs ih =>
    have hc : c ≠ sep := fun heq => h (heq ▸ List.mem_cons_self ..)
    rw [afterLast, ih fun hmem => h (List.mem_cons_of_mem c hmem)]
    exact if_neg hc

/-- The last separator is the one behind which there is none. -/
theorem afterLast_append {sep : Char} (before : List Char) {after : List Char} (h : sep ∉ after) :
    afterLast sep (before ++ sep :: after) = some after := by
  induction before with
  | nil => simp [afterLast, afterLast_of_not_mem h]
  | cons c cs ih => rw [List.cons_append, afterLast, ih]

/-- Digits alone are never read as a negative number. -/
theorem atoi_nonneg {ds : List Char} {x : Int} (hd : ∀ c ∈ ds, c.isDigit = true)
    (h : atoi ds = some x) : 0 ≤ x := by
  unfold atoi at h
  dsimp only at h
  obtain ⟨v, hv, hrange⟩ := Option.bind_eq_some_iff.mp h
  split at hrange
  · cases hrange
    split at hv
    · have := hd '-' (List.mem_cons_self ..)
      cases this
    · obtain ⟨n, -, rfl⟩ := Option.map_eq_some_iff.mp hv
      exact Int.natCast_nonneg n
    · obtain ⟨n, -, rfl⟩ := Option.map_eq_some_iff.mp hv
      exact Int.natCast_nonneg n
  · cases hrange

theorem atoi_range {ds : List Char} {x : Int} (h : atoi ds = some x) : -2 ^ 63 ≤ x ∧ x < 2 ^ 63 := by
  obtain ⟨v, -, hrange⟩ := Option.bind_eq_some_iff.mp h
  split at hrange
  · cases hrange
    assumption
  · cases hrange

/-- `fmt.Sprintf("%d", n)` of a natural number. -/
def decimal (n : Nat) : String := n.repr

theorem decimal_injective : Function.Injective decimal := by
  intro i j h
  unfold decimal at h
  rw [Nat.repr_eq_ofList_toDigits, Nat.repr_eq_ofList_toDigits] at h
  -- reading the digits back gives the number
  rw [← Nat.ofDigitChars_ten_toDigits (n := i), String.ofList_injective h,
    Nat.ofDigitChars_ten_toDigits]

theorem decimal_isDigit {n : Nat} {c : Char} (h : c ∈ (decimal n).toList) : c.isDigit = true := by
  unfold decimal at h
  rw [Nat.repr_eq_ofList_toDigits, String.toList_ofList] at h
  exact Nat.isDigit_of_mem_toDigits (by decide) (by decide) h

/-! ## §3. String maps. -/

/-- `map[string]string`; a nil map and an empty one are the same map. -/
abbrev StrMap := Finmap (fun _ : String => String)

namespace StrMap

/-- `m[key]`: the empty string when the key is absent. -/
def get (m : StrMap) (key : String) : String := (m.lookup key).getD ""

/-- `map[string]string` with the listed entries, later ones winning. -/
def ofList (l : List (String × String)) : StrMap :=
  l.foldl (fun m e => m.insert e.1 e.2) ∅

theorem get_insert_self (m : StrMap) (k v : String) : get (m.insert k v) k = v := by
  simp [get]

theorem get_insert_of_ne (m : StrMap) {k k' : String} (v : String) (h : k' ≠ k) :
    get (m.insert k v) k' = get m k' := by
  simp [get, Finmap.lookup_insert_of_ne m h]

theorem get_erase_self (m : StrMap) (k : String) : get (m.erase k) k = "" := by
  simp [get]

theorem get_erase_of_ne (m : StrMap) {k k' : String} (h : k' ≠ k) :
    get (m.erase k) k' = get m k' := by
  simp [get, Finmap.lookup_erase_ne h]

/-- Erasing one key after the other. -/
theorem lookup_eraseAll (m : StrMap) (keys : List String) (k : String) :
    (keys.foldl (fun m key => m.erase key) m).lookup k =
      if k ∈ keys then none else m.lookup k := by
  induction keys generalizing m with
  | nil => simp
  | cons key keys ih =>
    rw [List.foldl_cons, ih]
    by_cases hk : k = key
    · subst hk
      simp [Finmap.lookup_erase]
    · simp [hk, Finmap.lookup_erase_ne hk]

end StrMap

/-- `mergeStringMaps`: overlay `desired` onto `live`; our keys win, foreign keys survive. -/
def mergeStringMaps (live desired : StrMap) : StrMap := desired ∪ live

/-- `stringMapSubset`: every entry of `sub` is an entry of `of`. -/
def stringMapSubset (sub of : StrMap) : Bool :=
  decide (∀ k ∈ sub.keys, of.lookup k = sub.lookup k)

theorem lookup_mergeStringMaps (live desired : StrMap) (k : String) :
    (mergeStringMaps live desired).lookup k = (desired.lookup k).or (live.lookup k) := by
  unfold mergeStringMaps
  by_cases h : k ∈ desired
  · obtain ⟨v, hv⟩ := Finmap.mem_iff.mp h
    rw [Finmap.lookup_union_left h, hv]
    rfl
  · rw [Finmap.lookup_union_right h, Finmap.lookup_eq_none.mpr h]
    rfl

/-! ## §4. JSON trees. -/

/-- A JSON value.  Object members are listed in key order, as `encoding/json` prints a map, so
that equality of trees is `reflect.DeepEqual`.  A number literal with a fraction or an exponent
is kept as its text. -/
inductive Json where
  | null
  | bool (b : Bool)
  | int (n : Int)
  | frac (literal : String)
  | str (s : String)
  | arr (items : List Json)
  | obj (members : List (String × Json))

namespace Json

mutual

/-- Equality of JSON trees, decided. -/
def eqb : Json → Json → Bool
  | .null, .null => true
  | .bool a, .bool b => a == b
  | .int a, .int b => a == b
  | .frac a, .frac b => a == b
  | .str a, .str b => a == b
  | .arr a, .arr b => eqbItems a b
  | .obj a, .obj b => eqbMembers a b
  | _, _ => false

/-- Equality of item lists, decided. -/
def eqbItems : List Json → List Json → Bool
  | [], [] => true
  | a :: as, b :: bs => eqb a b && eqbItems as bs
  | _, _ => false

/-- Equality of member lists, decided. -/
def eqbMembers : List (String × Json) → List (String × Json) → Bool
  | [], [] => true
  | (k, a) :: as, (l, b) :: bs => k == l && eqb a b && eqbMembers as bs
  | _, _ => false

end

mutual

theorem eqb_iff : ∀ a b : Json, eqb a b = true ↔ a = b
  | .null, b => by cases b <;> simp [eqb]
  | .bool _, b => by cases b <;> simp [eqb]
  | .int _, b => by cases b <;> simp [eqb]
  | .frac _, b => by cases b <;> simp [eqb]
  | .str _, b => by cases b <;> simp [eqb]
  | .arr a, b => by cases b <;> simp [eqb, eqbItems_iff a]
  | .obj a, b => by cases b <;> simp [eqb, eqbMembers_iff a]

theorem eqbItems_iff : ∀ a b : List Json, eqbItems a b = true ↔ a = b
  | [], b => by cases b <;> simp [eqbItems]
  | a :: as, b => by cases b <;> simp [eqbItems, eqb_iff a, eqbItems_iff as]

theorem eqbMembers_iff : ∀ a b : List (String × Json), eqbMembers a b = true ↔ a = b
  | [], b => by cases b <;> simp [eqbMembers]
  | (k, a) :: as, b => by
    rcases b with _ | ⟨⟨l, b⟩, bs⟩ <;>
      simp [eqbMembers, eqb_iff a, eqbMembers_iff as, and_assoc]

end

instance : DecidableEq Json := fun a b => decidable_of_iff (eqb a b = true) (eqb_iff a b)

/-- The member of an object under a name. -/
def member? : Json → String → Option Json
  | .obj members, key => (members.find? (fun m => m.1 == key)).map Prod.snd
  | _, _ => none

end Json

end CelldOperator
