/-
  CelldOperator.Runtime.Boundaries

  **WHAT THE TABLE OF BOUNDARIES CATCHES.**

  Two questions about `breakingReason` and `fleetBreakingReason`:

    §1–§3. Can an upgrade that is refused in one step be made in several, none of
           them refused?  It cannot (`exists_breaking_step`): a version sequence,
           zig-zag or not, that gets from one side of a boundary to the other has a
           step that does, in the same direction.  The argument needs only that
           every version counts as "at or below" or "at or above", which survives
           the wrap-around of `cmp`.
    §4–§6. Does the reason name exactly the boundaries between the two versions?
           It does as long as `cmp` does not overflow: `strconv.Atoi` accepts a sign,
           so a minor just above `-2^63` parses, and `v.minor - o.minor` then wraps
           to a large positive number (`named_iff`).
-/
import Mathlib.Data.List.Infix
import CelldOperator.Runtime.Version

namespace CelldOperator

/-! ## §1. Crossing a line step by step. -/

section Crossing

variable {α : Type} (below above : α → Prop)

/-- **The discrete intermediate value rule.**  A sequence that starts below and ends above has a
step from below to above between two different values, if every value is one or the other
(or both). -/
theorem exists_adjacent {t : Nat → α} {n : Nat} (hcover : ∀ i ≤ n, below (t i) ∨ above (t i))
    (hstart : below (t 0)) (hend : above (t n)) (hne : t 0 ≠ t n) :
    ∃ i, i < n ∧ below (t i) ∧ above (t (i + 1)) ∧ t i ≠ t (i + 1) := by
  induction n with
  | zero => exact absurd rfl hne
  | succ n ih =>
    have hcover' : ∀ i ≤ n, below (t i) ∨ above (t i) := fun i hi => hcover i (by omega)
    by_cases hlast : below (t n) ∧ t n ≠ t (n + 1)
    · exact ⟨n, by omega, hlast.1, hend, hlast.2⟩
    -- otherwise the sequence was above one step earlier
    · have hearlier : above (t n) ∧ t 0 ≠ t n := by
        by_cases hbelow : below (t n)
        · have heq : t n = t (n + 1) := by
            by_contra hdiff
            exact hlast ⟨hbelow, hdiff⟩
          rw [heq]
          exact ⟨hend, hne⟩
        · refine ⟨(hcover n (by omega)).resolve_left hbelow, ?_⟩
          intro heq
          exact hbelow (heq ▸ hstart)
      obtain ⟨i, hi, hstep⟩ := ih hcover' hearlier.1 hearlier.2
      exact ⟨i, by omega, hstep⟩

end Crossing

/-! ## §2. `cmp` against the lines of the tables. -/

/-- Both parts are 64-bit. -/
def MinorVersion.InRange (v : MinorVersion) : Prop :=
  (-2 ^ 63 ≤ v.major ∧ v.major < 2 ^ 63) ∧ -2 ^ 63 ≤ v.minor ∧ v.minor < 2 ^ 63

/-- The difference `v.minor - k` leaves the 64-bit range. -/
def MinorVersion.Wraps (v : MinorVersion) (k : Int) : Prop :=
  v.major = 0 ∧ v.minor < -2 ^ 63 + k

theorem MinorVersion.le_iff {v w : MinorVersion} :
    v ≤ w ↔ v.major < w.major ∨ v.major = w.major ∧ v.minor ≤ w.minor := Iff.rfl

/-- At or below `0.k`, as `cmp` sees it. -/
theorem cmp_nonpos_iff {v : MinorVersion} (hv : v.InRange) {k : Int} (hk : 0 ≤ k ∧ k ≤ 6) :
    v.cmp ⟨0, k⟩ ≤ 0 ↔ v ≤ ⟨0, k⟩ ∧ ¬ v.Wraps k := by
  obtain ⟨hmajor, hminor⟩ := hv
  rw [MinorVersion.le_iff]
  unfold MinorVersion.cmp MinorVersion.Wraps wrap64
  by_cases hzero : v.major = 0
  · rw [if_neg (by simpa using hzero)]
    dsimp only
    omega
  · rw [if_pos hzero]
    dsimp only
    omega

/-- At or above `0.k`, as `cmp` sees it. -/
theorem cmp_nonneg_iff {v : MinorVersion} (hv : v.InRange) {k : Int} (hk : 0 ≤ k ∧ k ≤ 6) :
    0 ≤ v.cmp ⟨0, k⟩ ↔ ⟨0, k⟩ ≤ v ∨ v.Wraps k := by
  obtain ⟨hmajor, hminor⟩ := hv
  rw [MinorVersion.le_iff]
  unfold MinorVersion.cmp MinorVersion.Wraps wrap64
  by_cases hzero : v.major = 0
  · rw [if_neg (by simpa using hzero)]
    dsimp only
    omega
  · rw [if_pos hzero]
    dsimp only
    omega

/-- **The lines of the table** run between neighbouring minors of v0. -/
theorem boundary_lines {b : VersionBoundary} (hb : b ∈ breakingBoundaries) :
    ∃ k : Int, 1 ≤ k ∧ k ≤ 4 ∧ b.lower = ⟨0, k⟩ ∧ b.upper = ⟨0, k + 1⟩ := by
  simp only [breakingBoundaries, List.mem_cons, List.not_mem_nil, or_false] at hb
  rcases hb with rfl | rfl | rfl | rfl
  · exact ⟨1, by decide, by decide, rfl, rfl⟩
  · exact ⟨2, by decide, by decide, rfl, rfl⟩
  · exact ⟨3, by decide, by decide, rfl, rfl⟩
  · exact ⟨4, by decide, by decide, rfl, rfl⟩

/-- No version stands inside a line: `cmp` puts it on one side at least. -/
theorem below_or_above {b : VersionBoundary} (hb : b ∈ breakingBoundaries) {v : MinorVersion}
    (hv : v.InRange) : v.cmp b.lower ≤ 0 ∨ 0 ≤ v.cmp b.upper := by
  obtain ⟨k, hk, hk', hlower, hupper⟩ := boundary_lines hb
  rw [hlower, hupper, cmp_nonpos_iff hv (by omega), cmp_nonneg_iff hv (by omega),
    MinorVersion.le_iff, MinorVersion.le_iff]
  unfold MinorVersion.Wraps
  dsimp only
  omega

/-! ## §3. The text of the reasons. -/

/-- `strings.Contains`. -/
def Contains (text part : String) : Prop := ∃ before after, text = before ++ part ++ after

/-- The bytes of a Go string. -/
def utf8 (s : String) : List UInt8 := s.toByteArray.data.toList

theorem utf8_append (s t : String) : utf8 (s ++ t) = utf8 s ++ utf8 t := by
  simp [utf8, String.toByteArray_append, ByteArray.data_append]

theorem mem_utf8_of_contains {text part : String} (h : Contains text part) {x : UInt8}
    (hx : x ∈ utf8 part) : x ∈ utf8 text := by
  obtain ⟨before, after, rfl⟩ := h
  simp [utf8_append, hx]

/-- `strings.Join` contains every one of its parts … -/
theorem contains_join {sep part : String} {parts : List String} (h : part ∈ parts) :
    Contains (sep.intercalate parts) part := by
  induction parts with
  | nil => cases h
  | cons first rest ih =>
    cases rest with
    | nil =>
      rw [List.mem_singleton] at h
      exact ⟨"", "", by simp [h]⟩
    | cons second rest =>
      rw [String.intercalate_cons_cons]
      by_cases hfirst : part = first
      · refine ⟨"", sep ++ sep.intercalate (second :: rest), ?_⟩
        rw [hfirst, String.empty_append, String.append_assoc]
      · obtain ⟨before, after, heq⟩ := ih ((List.mem_cons.mp h).resolve_left hfirst)
        refine ⟨first ++ sep ++ before, after, ?_⟩
        rw [heq]
        simp only [String.append_assoc]

/-- … and has no byte but theirs and the separator's. -/
theorem mem_utf8_join {sep : String} {parts : List String} {x : UInt8}
    (h : x ∈ utf8 (sep.intercalate parts)) : x ∈ utf8 sep ∨ ∃ part ∈ parts, x ∈ utf8 part := by
  induction parts with
  | nil => cases h
  | cons first rest ih =>
    cases rest with
    | nil => exact .inr ⟨first, List.mem_cons_self .., by simpa using h⟩
    | cons second rest =>
      rw [String.intercalate_cons_cons, utf8_append, utf8_append, List.mem_append,
        List.mem_append] at h
      rcases h with (hfirst | hsep) | hrest
      · exact .inr ⟨first, List.mem_cons_self .., hfirst⟩
      · exact .inl hsep
      · rcases ih hrest with hsep | ⟨part, hpart, hx⟩
        · exact .inl hsep
        · exact .inr ⟨part, List.mem_cons_of_mem _ hpart, hx⟩

/-- A byte that stands in one reason of the table only: `1`, an apostrophe, `K` and `5`. -/
def reasonMark (b : VersionBoundary) : UInt8 :=
  match b.lower.minor with
  | 1 => 49
  | 2 => 39
  | 3 => 75
  | _ => 53

theorem reasonMark_mem_iff : ∀ c ∈ breakingBoundaries, ∀ b ∈ breakingBoundaries,
    reasonMark b ∈ utf8 c.reason ↔ b.lower = c.lower := by decide +kernel

theorem reasonMark_not_mem_sep : ∀ b ∈ breakingBoundaries, reasonMark b ∉ utf8 "; " := by
  decide +kernel

/-- The lower version of a line identifies it. -/
theorem boundary_ext {b c : VersionBoundary} (hb : b ∈ breakingBoundaries)
    (hc : c ∈ breakingBoundaries) (h : b.lower = c.lower) : b = c := by
  simp only [breakingBoundaries, List.mem_cons, List.not_mem_nil, or_false] at hb hc
  rcases hb with rfl | rfl | rfl | rfl <;> rcases hc with rfl | rfl | rfl | rfl <;>
    first | rfl | exact absurd h (by decide)

/-- **Which reasons a joined text contains**: those of the lines that were kept. -/
theorem contains_reasons_iff {keep : VersionBoundary → Bool} {b : VersionBoundary}
    (hb : b ∈ breakingBoundaries) :
    Contains ("; ".intercalate ((breakingBoundaries.filter keep).map (·.reason))) b.reason ↔
      keep b = true := by
  constructor
  · intro hcontains
    have hmark : reasonMark b ∈ utf8 b.reason := (reasonMark_mem_iff b hb b hb).mpr rfl
    rcases mem_utf8_join (mem_utf8_of_contains hcontains hmark) with hsep | ⟨text, htext, hx⟩
    · exact absurd hsep (reasonMark_not_mem_sep b hb)
    · -- the mark leads to the reason it came from
      obtain ⟨c, hc, rfl⟩ := List.mem_map.mp htext
      obtain ⟨hc, hkeep⟩ := List.mem_filter.mp hc
      have hsame := boundary_ext hb hc ((reasonMark_mem_iff c hc b hb).mp hx)
      exact hsame ▸ hkeep
  · intro hkeep
    exact contains_join (List.mem_map.mpr ⟨b, List.mem_filter.mpr ⟨hb, hkeep⟩, rfl⟩)

section Pair

variable {fromImage toImage : String} {v w : MinorVersion}

/-- The reasons `breakingReason` gives are those of the lines it finds crossed. -/
theorem contains_breakingReason_iff (hv : minorOf fromImage = some v)
    (hw : minorOf toImage = some w) {b : VersionBoundary} (hb : b ∈ breakingBoundaries) :
    Contains (breakingReason fromImage toImage) b.reason ↔ v ≠ w ∧ b.crossed v w = true := by
  unfold breakingReason
  rw [hv, hw]
  dsimp only
  by_cases heq : v = w
  · rw [if_pos heq]
    have hmark : reasonMark b ∈ utf8 b.reason := (reasonMark_mem_iff b hb b hb).mpr rfl
    constructor
    · intro hcontains
      cases mem_utf8_of_contains hcontains hmark
    · intro h
      exact absurd heq h.1
  · rw [if_neg heq, contains_reasons_iff hb]
    simp [heq]

/-- There is a reason exactly when some line is crossed. -/
theorem breakingReason_ne_iff (hv : minorOf fromImage = some v) (hw : minorOf toImage = some w) :
    breakingReason fromImage toImage ≠ "" ↔
      v ≠ w ∧ ∃ b ∈ breakingBoundaries, b.crossed v w = true := by
  constructor
  · intro hne
    unfold breakingReason at hne
    rw [hv, hw] at hne
    dsimp only at hne
    by_cases heq : v = w
    · exact absurd (if_pos heq) hne
    · rw [if_neg heq] at hne
      refine ⟨heq, ?_⟩
      by_contra hnone
      -- no line crossed, nothing to join
      have hfilter : breakingBoundaries.filter (·.crossed v w) = [] := by
        refine List.filter_eq_nil_iff.mpr fun b hb hcrossed => ?_
        exact hnone ⟨b, hb, hcrossed⟩
      rw [hfilter] at hne
      exact hne rfl
  · rintro ⟨heq, b, hb, hcrossed⟩ hempty
    have hcontains := (contains_breakingReason_iff hv hw hb).mpr ⟨heq, hcrossed⟩
    have hmark : reasonMark b ∈ utf8 b.reason := (reasonMark_mem_iff b hb b hb).mpr rfl
    rw [hempty] at hcontains
    cases mem_utf8_of_contains hcontains hmark

end Pair

/-! ## §4. Splitting an upgrade. -/

/-- A fleet is told to stop for a line of the table, or for v0.6 under fleet durability. -/
theorem fleetBreakingReason_ne_iff {existing desired : PodSpec} {v w : MinorVersion}
    (hv : minorOf (stsContainerImage existing) = some v)
    (hw : minorOf (stsContainerImage desired) = some w) :
    fleetBreakingReason existing desired ≠ "" ↔
      (v ≠ w ∧ ∃ b ∈ breakingBoundaries, b.crossed v w = true) ∨
        (crossesV06 v w = true ∧
          (usesFleetDurability existing || usesFleetDurability desired) = true) := by
  rw [← breakingReason_ne_iff hv hw]
  unfold fleetBreakingReason
  rw [hv, hw]
  dsimp only
  by_cases hreason : breakingReason (stsContainerImage existing) (stsContainerImage desired) = ""
  · rw [if_neg (by simpa using hreason)]
    by_cases hline : (crossesV06 v w &&
        (usesFleetDurability existing || usesFleetDurability desired)) = true
    · rw [if_pos hline]
      rw [Bool.and_eq_true] at hline
      exact ⟨fun _ => .inr hline, fun _ => by decide⟩
    · rw [if_neg hline]
      rw [Bool.and_eq_true] at hline
      exact ⟨fun hne => absurd rfl hne, fun h => absurd h (not_or.mpr ⟨(· hreason), hline⟩)⟩
  · rw [if_pos hreason]
    simp [hreason]

/-- A crossing of a line in one direction. -/
theorem crossed_iff {b : VersionBoundary} {v w : MinorVersion} :
    b.crossed v w = true ↔
      (b.upward = true ∧ v.cmp b.lower ≤ 0 ∧ 0 ≤ w.cmp b.upper) ∨
        (b.downward = true ∧ 0 ≤ v.cmp b.upper ∧ w.cmp b.lower ≤ 0) := by
  simp [VersionBoundary.crossed]

/-- **A version sequence crosses a line of the table in one of its steps**, in the direction
in which its ends do. -/
theorem exists_crossed_step {ver : Nat → MinorVersion} {n : Nat}
    (hrange : ∀ i ≤ n, (ver i).InRange) (hne : ver 0 ≠ ver n) {b : VersionBoundary}
    (hb : b ∈ breakingBoundaries) (h : b.crossed (ver 0) (ver n) = true) :
    ∃ i, i < n ∧ ver i ≠ ver (i + 1) ∧ b.crossed (ver i) (ver (i + 1)) = true := by
  rcases crossed_iff.mp h with ⟨hflag, hstart, hend⟩ | ⟨hflag, hstart, hend⟩
  · have hcover : ∀ i ≤ n, (ver i).cmp b.lower ≤ 0 ∨ 0 ≤ (ver i).cmp b.upper :=
      fun i hi => below_or_above hb (hrange i hi)
    obtain ⟨i, hi, hbelow, habove, hdiff⟩ :=
      exists_adjacent (fun v => v.cmp b.lower ≤ 0) (fun v => 0 ≤ v.cmp b.upper)
        hcover hstart hend hne
    exact ⟨i, hi, hdiff, crossed_iff.mpr (.inl ⟨hflag, hbelow, habove⟩)⟩
  · have hcover : ∀ i ≤ n, 0 ≤ (ver i).cmp b.upper ∨ (ver i).cmp b.lower ≤ 0 :=
      fun i hi => (below_or_above hb (hrange i hi)).symm
    obtain ⟨i, hi, hbelow, habove, hdiff⟩ :=
      exists_adjacent (fun v => 0 ≤ v.cmp b.upper) (fun v => v.cmp b.lower ≤ 0)
        hcover hstart hend hne
    exact ⟨i, hi, hdiff, crossed_iff.mpr (.inr ⟨hflag, hbelow, habove⟩)⟩

/-- The v0.6 line has no inside: the sequence crosses it in one step. -/
theorem exists_v06_step {ver : Nat → MinorVersion} {n : Nat}
    (h : crossesV06 (ver 0) (ver n) = true) :
    ∃ i, i < n ∧ crossesV06 (ver i) (ver (i + 1)) = true := by
  have hside : ∀ v w, crossesV06 v w = true ↔ ¬ (v.cmp ⟨0, 6⟩ < 0 ↔ w.cmp ⟨0, 6⟩ < 0) := by
    intro v w
    simp only [crossesV06, decide_eq_true_eq]
    omega
  by_contra hnone
  -- without such a step every version stays on the side of the first
  have hstay : ∀ i ≤ n, ((ver 0).cmp ⟨0, 6⟩ < 0 ↔ (ver i).cmp ⟨0, 6⟩ < 0) := by
    intro i
    induction i with
    | zero => exact fun _ => Iff.rfl
    | succ i ih =>
      intro hi
      by_contra hcross
      refine hnone ⟨i, by omega, (hside _ _).mpr fun hsame => hcross ?_⟩
      exact (ih (by omega)).trans hsame
  exact (hside _ _).mp h (hstay n (Nat.le_refl n))

/-- **Boundary checks cannot be bypassed by splitting an upgrade.** -/
theorem exists_breaking_step {t : Nat → PodSpec} {n : Nat}
    (hparse : ∀ i ≤ n, (minorOf (stsContainerImage (t i))).isSome = true)
    (hdurability : ∀ i ≤ n, usesFleetDurability (t i) = usesFleetDurability (t 0))
    (h : fleetBreakingReason (t 0) (t n) ≠ "") :
    ∃ i, i < n ∧ fleetBreakingReason (t i) (t (i + 1)) ≠ "" := by
  let ver : Nat → MinorVersion := fun i => (minorOf (stsContainerImage (t i))).getD ⟨0, 0⟩
  have hver : ∀ i ≤ n, minorOf (stsContainerImage (t i)) = some (ver i) := by
    intro i hi
    obtain ⟨v, hv⟩ := Option.isSome_iff_exists.mp (hparse i hi)
    show _ = some ((minorOf (stsContainerImage (t i))).getD ⟨0, 0⟩)
    rw [hv, Option.getD_some]
  have hrange : ∀ i ≤ n, (ver i).InRange := fun i hi => minorOf_range (hver i hi)
  rcases (fleetBreakingReason_ne_iff (hver 0 (by omega)) (hver n (by omega))).mp h with
    ⟨hne, b, hb, hcrossed⟩ | ⟨hline, hfleet⟩
  · obtain ⟨i, hi, hdiff, hstep⟩ := exists_crossed_step hrange hne hb hcrossed
    refine ⟨i, hi, ?_⟩
    rw [fleetBreakingReason_ne_iff (hver i (by omega)) (hver (i + 1) (by omega))]
    exact .inl ⟨hdiff, b, hb, hstep⟩
  · obtain ⟨i, hi, hstep⟩ := exists_v06_step hline
    refine ⟨i, hi, ?_⟩
    rw [fleetBreakingReason_ne_iff (hver i (by omega)) (hver (i + 1) (by omega))]
    rw [hdurability n (by omega), Bool.or_self] at hfleet
    refine .inr ⟨hstep, ?_⟩
    rw [hdurability i (by omega), hdurability (i + 1) (by omega), hfleet]
    rfl

/-! ## §5. The lines between two versions. -/

/-- The line lies between the two versions and is flagged in the direction of travel. -/
def VersionBoundary.between (b : VersionBoundary) (v w : MinorVersion) : Bool :=
  (b.upward && decide (v ≤ b.lower ∧ b.upper ≤ w)) ||
    (b.downward && decide (w ≤ b.lower ∧ b.upper ≤ v))

/-- `cmp` against the minors of the table is right, or wrong only at `0.5`, where the other
version stands above the table. -/
def MinorVersion.Clear (v other : MinorVersion) : Prop :=
  ¬ v.Wraps 5 ∨ v = ⟨0, -2 ^ 63 + 4⟩ ∧ ⟨0, 5⟩ ≤ other

/-- **The pairs the table judges rightly.** -/
def Comparable (v w : MinorVersion) : Prop := v = w ∨ v.Clear w ∧ w.Clear v

instance (v w : MinorVersion) : Decidable (Comparable v w) :=
  inferInstanceAs (Decidable (_ ∨ (¬ (_ ∧ _) ∨ _ ∧ _) ∧ (¬ (_ ∧ _) ∨ _ ∧ _)))

section Judged

variable {v w : MinorVersion} (hv : v.InRange) (hw : w.InRange)
include hv hw

/-- What `crossed` compares, with the wrap-around spelled out. -/
theorem crossed_line_iff {b : VersionBoundary} {k : Int} (hk : 1 ≤ k ∧ k ≤ 4)
    (hlower : b.lower = ⟨0, k⟩) (hupper : b.upper = ⟨0, k + 1⟩) :
    b.crossed v w = true ↔
      (b.upward = true ∧ (v ≤ ⟨0, k⟩ ∧ ¬ v.Wraps k) ∧ (⟨0, k + 1⟩ ≤ w ∨ w.Wraps (k + 1))) ∨
        (b.downward = true ∧ (⟨0, k + 1⟩ ≤ v ∨ v.Wraps (k + 1)) ∧
          (w ≤ ⟨0, k⟩ ∧ ¬ w.Wraps k)) := by
  rw [crossed_iff, hlower, hupper, cmp_nonpos_iff hv (by omega), cmp_nonneg_iff hw (by omega),
    cmp_nonneg_iff hv (by omega), cmp_nonpos_iff hw (by omega)]

/-- Between comparable versions the lines found crossed are the lines that lie there. -/
theorem crossed_of_comparable (h : Comparable v w) {b : VersionBoundary}
    (hb : b ∈ breakingBoundaries) :
    (v ≠ w ∧ b.crossed v w = true) ↔ b.between v w = true := by
  obtain ⟨k, hk, hk', hlower, hupper⟩ := boundary_lines hb
  rw [crossed_line_iff hv hw ⟨hk, hk'⟩ hlower hupper]
  simp only [VersionBoundary.between, hlower, hupper, Bool.or_eq_true, Bool.and_eq_true,
    decide_eq_true_eq]
  -- down to the four integers: the flags stay as atoms
  obtain ⟨a, m⟩ := v
  obtain ⟨c, n⟩ := w
  unfold Comparable MinorVersion.Clear MinorVersion.Wraps at h
  unfold MinorVersion.InRange at hv hw
  unfold MinorVersion.Wraps
  simp only [MinorVersion.le_iff, ne_eq, MinorVersion.mk.injEq] at *
  by_cases hup : b.upward = true <;> by_cases hdown : b.downward = true <;>
    simp only [hup, hdown, true_and, false_and, Bool.false_eq_true, and_false, or_false,
      false_or] <;> omega

/-- A pair that is not comparable is misjudged on the first, the third or the fourth line, or on
the second one downward. -/
theorem comparable_of_crossed
    (h : ∀ b ∈ breakingBoundaries, (v ≠ w ∧ b.crossed v w = true) ↔ b.between v w = true) :
    Comparable v w := by
  simp only [breakingBoundaries, List.forall_mem_cons] at h
  obtain ⟨h₁, h₂, h₃, h₄, -⟩ := h
  rw [crossed_line_iff hv hw (k := 1) (by omega) rfl rfl] at h₁
  rw [crossed_line_iff hv hw (k := 2) (by omega) rfl rfl] at h₂
  rw [crossed_line_iff hv hw (k := 3) (by omega) rfl rfl] at h₃
  rw [crossed_line_iff hv hw (k := 4) (by omega) rfl rfl] at h₄
  simp only [VersionBoundary.between, Bool.or_eq_true, Bool.and_eq_true, decide_eq_true_eq,
    true_and, false_and, Bool.false_eq_true, false_or] at h₁ h₂ h₃ h₄
  obtain ⟨a, m⟩ := v
  obtain ⟨c, n⟩ := w
  unfold Comparable MinorVersion.Clear MinorVersion.Wraps
  unfold MinorVersion.InRange at hv hw
  unfold MinorVersion.Wraps at h₁ h₂ h₃ h₄
  simp only [MinorVersion.le_iff, ne_eq, MinorVersion.mk.injEq] at *
  -- a wrapped minor is one of the five lowest integers; the lines tell them apart
  by_cases ha : a = 0
  · by_cases hc : c = 0
    · omega
    · omega
  · by_cases hc : c = 0
    · omega
    · omega

end Judged

/-! ## §6. What the guards catch. -/

/-- **Splitting an upgrade does not get it past the guard, and the reason of a pair names exactly
the flagged lines between its versions, for exactly the comparable pairs.** -/
theorem boundary_checks_iff (t : Nat → PodSpec) (n : Nat) (fromImage toImage : String) :
    ((∀ i ≤ n, (minorOf (stsContainerImage (t i))).isSome = true) →
      (∀ i ≤ n, usesFleetDurability (t i) = usesFleetDurability (t 0)) →
      fleetBreakingReason (t 0) (t n) ≠ "" →
      ∃ i, i < n ∧ fleetBreakingReason (t i) (t (i + 1)) ≠ "") ∧
    ∀ v w, minorOf fromImage = some v → minorOf toImage = some w →
      ((∀ b ∈ breakingBoundaries,
          Contains (breakingReason fromImage toImage) b.reason ↔ b.between v w = true) ↔
        Comparable v w) := by
  refine ⟨exists_breaking_step, fun v w hv hw => ?_⟩
  have hrange := minorOf_range hv
  have hrange' := minorOf_range hw
  constructor
  · intro h
    refine comparable_of_crossed hrange hrange' fun b hb => ?_
    rw [← contains_breakingReason_iff hv hw hb]
    exact h b hb
  · intro h b hb
    rw [contains_breakingReason_iff hv hw hb]
    exact crossed_of_comparable hrange hrange' h hb

/-- From v0.1 to v0.4 in one jump: three lines lie between, two of them flagged upward. -/
theorem boundary_checks_jump :
    minorOf "celld:0.1.9" = some ⟨0, 1⟩ ∧ minorOf "celld:v0.4.0-rc.1" = some ⟨0, 4⟩ ∧
      ∀ b ∈ breakingBoundaries,
        Contains (breakingReason "celld:0.1.9" "celld:v0.4.0-rc.1") b.reason ↔
          b.lower = ⟨0, 1⟩ ∨ b.lower = ⟨0, 3⟩ := by
  have hfrom : minorOf "celld:0.1.9" = some ⟨0, 1⟩ := by decide +kernel
  have hto : minorOf "celld:v0.4.0-rc.1" = some ⟨0, 4⟩ := by decide +kernel
  refine ⟨hfrom, hto, fun b hb => ?_⟩
  -- the sequence of templates of the first part plays no role here
  have hpair := (boundary_checks_iff (fun _ => { containers := [] }) 0 "celld:0.1.9"
    "celld:v0.4.0-rc.1").2 _ _ hfrom hto
  rw [hpair.mpr (by decide) b hb]
  have htable : ∀ b ∈ breakingBoundaries,
      b.between ⟨0, 1⟩ ⟨0, 4⟩ = true ↔ b.lower = ⟨0, 1⟩ ∨ b.lower = ⟨0, 3⟩ := by decide
  exact htable b hb

/-- A minor of `-2^63` parses and lies below every line; `cmp` wraps and places it above, so the
upgrade to v0.5 is given no reason at all. -/
theorem boundary_checks_wrapped :
    minorOf "celld:0.-9223372036854775808" = some ⟨0, -2 ^ 63⟩ ∧
      minorOf "celld:0.5.0" = some ⟨0, 5⟩ ∧
      breakingReason "celld:0.-9223372036854775808" "celld:0.5.0" = "" ∧
      (breakingBoundaries.filter (·.between ⟨0, -2 ^ 63⟩ ⟨0, 5⟩)).map (·.lower) =
        [⟨0, 1⟩, ⟨0, 3⟩, ⟨0, 4⟩] := by
  decide +kernel

end CelldOperator
