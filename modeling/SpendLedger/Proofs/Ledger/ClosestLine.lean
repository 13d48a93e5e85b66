import SpendLedger.Ledger.Trend
import SpendLedger.Proofs.Number.Exact

/-!
# The line through the months

Read over exact rationals, the projection is the value at the next place of the line that is closest to the months: the sum
of its squared distances is smaller than that of any other line. What is known of the line is that the distances of the
months from it, and their products with the places, add up to nothing; any other line is then further away by as much as the
two lines are apart.
-/

namespace SpendLedger

namespace Trend

/-! ## Sums over the places -/

/-- The sum of the first natural numbers. -/
theorem sum_places (n : Nat) : ∑ x ∈ Finset.range n, (x : Rat) = n * (n - 1) / 2 := by
  induction n with
  | zero => norm_num
  | succ n ih =>
    rw [Finset.sum_range_succ, ih]
    push_cast
    ring

/-- The sum of the first squares. -/
theorem sum_squared_places (n : Nat) : ∑ x ∈ Finset.range n, (x : Rat) ^ 2 = n * (n - 1) * (2 * n - 1) / 6 := by
  induction n with
  | zero => norm_num
  | succ n ih =>
    rw [Finset.sum_range_succ, ih]
    push_cast
    ring

/-- Values at places, summed up one after the other, give four sums. -/
theorem foldl_add_rat (m : Moments Rat) (points : List (Rat × Nat)) :
    points.foldl (fun m p => m.add p.1 p.2) m =
      { x := m.x + (points.map fun p => (p.2 : Rat)).sum
        y := m.y + (points.map Prod.fst).sum
        xy := m.xy + (points.map fun p => (p.2 : Rat) * p.1).sum
        xx := m.xx + (points.map fun p => (p.2 : Rat) * p.2).sum } := by
  induction points generalizing m with
  | nil => simp
  | cons p points ih =>
    have hadd : m.add p.1 p.2 = ⟨m.x + p.2, m.y + p.1, m.xy + p.2 * p.1, m.xx + p.2 * p.2⟩ := rfl
    rw [List.foldl_cons, ih, hadd]
    simp only [List.map_cons, List.sum_cons, add_assoc]

/-- The sums over values are those over the points at the places `0, 1, …`. -/
theorem moments_rat (ys : List Rat) :
    moments ys =
      { x := (ys.zipIdx.map fun p => (p.2 : Rat)).sum
        y := (ys.zipIdx.map Prod.fst).sum
        xy := (ys.zipIdx.map fun p => (p.2 : Rat) * p.1).sum
        xx := (ys.zipIdx.map fun p => (p.2 : Rat) * p.2).sum } := by
  unfold moments
  rw [Amount.zero_rat, foldl_add_rat]
  simp only [zero_add]

/-- A sum over the places of values does not depend on the values. -/
theorem sum_zipIdx (f : Nat → Rat) (ys : List Rat) :
    (ys.zipIdx.map fun p => f p.2).sum = ∑ x ∈ Finset.range ys.length, f x := by
  have hplaces : ys.zipIdx.map (fun p => f p.2) = (List.range ys.length).map f := by
    rw [List.range_eq_range', ← List.zipIdx_map_snd, List.map_map]
    rfl
  rw [hplaces]
  rfl

theorem moments_x (ys : List Rat) : (moments ys).x = ∑ x ∈ Finset.range ys.length, (x : Rat) := by
  rw [moments_rat]
  exact sum_zipIdx (fun x => x) ys

theorem moments_xx (ys : List Rat) : (moments ys).xx = ∑ x ∈ Finset.range ys.length, (x : Rat) ^ 2 := by
  rw [moments_rat]
  simp only [← pow_two]
  exact sum_zipIdx (fun x => (x : Rat) ^ 2) ys

theorem divisor_eq (ys : List Rat) : (ys.length : Rat) * (moments ys).xx - (moments ys).x * (moments ys).x =
    (ys.length : Rat) ^ 2 * ((ys.length - 1) * (ys.length + 1)) / 12 := by
  rw [moments_x, moments_xx, sum_places, sum_squared_places]
  ring

/-- From two values on, the slope is divided by something above zero. -/
theorem divisor_pos {ys : List Rat} (h : 2 ≤ ys.length) :
    0 < (ys.length : Rat) * (moments ys).xx - (moments ys).x * (moments ys).x := by
  have hlength : (2 : Rat) ≤ ys.length := by exact_mod_cast h
  have hbelow : (0 : Rat) < ys.length - 1 := by linarith
  rw [divisor_eq]
  positivity

/-! ## Lines -/

/-- A straight line. -/
structure Line where
  start : Rat
  slope : Rat

namespace Line

/-- The value at a place. -/
def value (l : Line) (x : Nat) : Rat :=
  l.start + l.slope * x

/-- The sum of the squared distances of values at the places `0, 1, …` from a line. -/
def squares (l : Line) (ys : List Rat) : Rat :=
  (ys.zipIdx.map fun p => (p.1 - l.value p.2) ^ 2).sum

/-- No line is closer to the values. -/
def IsClosest (l : Line) (ys : List Rat) : Prop :=
  ∀ other : Line, l.squares ys ≤ other.squares ys

/-- How far two lines are apart at the places of values: the sum of their squared distances. -/
def apart (l other : Line) (ys : List Rat) : Rat :=
  (ys.zipIdx.map fun p => (other.value p.2 - l.value p.2) ^ 2).sum

/-- The distances of the values from the line add up to nothing, and so do their products with the places. -/
structure IsBalanced (l : Line) (ys : List Rat) : Prop where
  distances : l.start * ys.length + l.slope * (moments ys).x = (moments ys).y
  products : l.start * (moments ys).x + l.slope * (moments ys).xx = (moments ys).xy

/-- Sums of squares are not below zero. -/
theorem sum_squares_nonneg (f : Rat × Nat → Rat) (points : List (Rat × Nat)) :
    0 ≤ (points.map fun p => f p ^ 2).sum := by
  refine List.sum_nonneg fun square hsquare => ?_
  obtain ⟨p, _, rfl⟩ := List.mem_map.1 hsquare
  exact sq_nonneg _

/-- The squared distances from two lines, point by point: what is left besides the distance between the lines is a product
with the sums that are balanced. -/
theorem sum_squares_eq (l other : Line) (points : List (Rat × Nat)) :
    (points.map fun p => (p.1 - other.value p.2) ^ 2).sum =
      (points.map fun p => (p.1 - l.value p.2) ^ 2).sum +
        (points.map fun p => (other.value p.2 - l.value p.2) ^ 2).sum +
        2 * ((l.start - other.start) * ((points.map Prod.fst).sum -
              (l.start * points.length + l.slope * (points.map fun p => (p.2 : Rat)).sum)) +
          (l.slope - other.slope) * ((points.map fun p => (p.2 : Rat) * p.1).sum -
              (l.start * (points.map fun p => (p.2 : Rat)).sum +
                l.slope * (points.map fun p => (p.2 : Rat) * p.2).sum))) := by
  -- for points at any places: behind the first value the places of the others no longer start from zero
  induction points with
  | nil => simp
  | cons p points ih =>
    simp only [List.map_cons, List.sum_cons, List.length_cons]
    rw [ih]
    unfold value
    push_cast
    ring

/-- Any line is further away from the values than a balanced one, by as much as the two are apart. -/
theorem IsBalanced.squares_eq {l : Line} {ys : List Rat} (h : l.IsBalanced ys) (other : Line) :
    other.squares ys = l.squares ys + l.apart other ys := by
  have hdistances := h.distances
  have hproducts := h.products
  rw [moments_rat] at hdistances hproducts
  unfold squares apart
  rw [sum_squares_eq l other, List.length_zipIdx, hdistances, hproducts]
  ring

/-- Lines are apart as soon as there are two places, unless they are the same. -/
theorem eq_of_apart_le {l other : Line} {ys : List Rat} (hlength : 2 ≤ ys.length) (h : l.apart other ys ≤ 0) :
    other = l := by
  -- the distances at the first two places are enough to tell the lines apart, whatever the others are
  match ys, hlength with
  | y :: y' :: ys, _ =>
    have hrest := sum_squares_nonneg (fun p => other.value p.2 - l.value p.2) (ys.zipIdx 2)
    have hsum : l.apart other (y :: y' :: ys) = (other.value 0 - l.value 0) ^ 2 + ((other.value 1 - l.value 1) ^ 2 +
        ((ys.zipIdx 2).map fun p => (other.value p.2 - l.value p.2) ^ 2).sum) := rfl
    have hfirst := sq_nonneg (other.value 0 - l.value 0)
    have hsecond := sq_nonneg (other.value 1 - l.value 1)
    have hzero : other.value 0 - l.value 0 = 0 := pow_eq_zero_iff two_ne_zero |>.1 (by linarith)
    have hone : other.value 1 - l.value 1 = 0 := pow_eq_zero_iff two_ne_zero |>.1 (by linarith)
    simp only [value, Nat.cast_zero, Nat.cast_one, mul_zero, mul_one, add_zero] at hzero hone
    obtain ⟨start, slope⟩ := l
    obtain ⟨start', slope'⟩ := other
    rw [mk.injEq]
    exact ⟨by linarith, by linarith⟩

/-- A balanced line is the one that is closest. -/
theorem IsBalanced.isClosest {l : Line} {ys : List Rat} (h : l.IsBalanced ys) : l.IsClosest ys := by
  intro other
  rw [h.squares_eq other]
  exact le_add_of_nonneg_right (sum_squares_nonneg _ _)

/-- No other line is as close to two values or more as a balanced one. -/
theorem IsBalanced.eq_of_isClosest {l other : Line} {ys : List Rat} (h : l.IsBalanced ys) (hlength : 2 ≤ ys.length)
    (hother : other.IsClosest ys) : other = l := by
  have hle := hother l
  rw [h.squares_eq other] at hle
  exact eq_of_apart_le hlength (nonpos_of_add_le_right hle)

/-- A line that goes through all values is the one that is closest to them. -/
theorem isClosest_of_through {l : Line} {ys : List Rat} (h : ∀ i (hi : i < ys.length), ys[i] = l.value i) :
    l.IsClosest ys := by
  have hzero : l.squares ys = 0 := by
    refine List.sum_eq_zero fun square hsquare => ?_
    obtain ⟨⟨y, i⟩, hp, rfl⟩ := List.mem_map.1 hsquare
    obtain ⟨hi, hy⟩ := List.mem_zipIdx' hp
    show (y - l.value i) ^ 2 = 0
    rw [hy, h i hi, sub_self]
    exact zero_pow two_ne_zero
  intro other
  rw [hzero]
  exact sum_squares_nonneg _ _

end Line

/-! ## The projection -/

/-- The line whose value is the projection. -/
def fitted (ys : List Rat) : Line :=
  let n : Rat := ys.length
  let m := moments ys
  let slope := (n * m.xy - m.x * m.y) / (n * m.xx - m.x * m.x)
  { start := (m.y - slope * m.x) / n, slope }

/-- The projection of two values or more is the value of the line at the next place. -/
theorem project_eq {ys : List Rat} (h : 2 ≤ ys.length) : project ys = (fitted ys).value ys.length := by
  have hmany : ¬ys.length < 2 := Nat.not_lt.2 h
  unfold project
  rw [if_neg hmany]
  exact add_comm _ _

/-- The line is balanced. -/
theorem isBalanced_fitted {ys : List Rat} (h : 2 ≤ ys.length) : (fitted ys).IsBalanced ys := by
  have hlength : (ys.length : Rat) ≠ 0 := Nat.cast_ne_zero.2 (by omega)
  have hstart : (fitted ys).start * ys.length = (moments ys).y - (fitted ys).slope * (moments ys).x :=
    div_mul_cancel₀ _ hlength
  have hslope : (fitted ys).slope * (ys.length * (moments ys).xx - (moments ys).x * (moments ys).x) =
      ys.length * (moments ys).xy - (moments ys).x * (moments ys).y := div_mul_cancel₀ _ (divisor_pos h).ne'
  constructor
  · linear_combination hstart
  · apply mul_left_cancel₀ hlength
    linear_combination (moments ys).x * hstart + hslope

/-- The projection is the value one place further of the line of least squares. From two values on,
1. what the slope is divided by, the number of the places times the sum of their squares less the square of their sum, is
   above zero;
2. the projection is the value at the next place of the line that is closest to the values, and no other line is as close;
3. so values on a line are continued on it. -/
theorem project_closest_line {ys : List Rat} (h : 2 ≤ ys.length) :
    ((moments ys).x = ∑ x ∈ Finset.range ys.length, (x : Rat) ∧
      (moments ys).xx = ∑ x ∈ Finset.range ys.length, (x : Rat) ^ 2 ∧
      0 < (ys.length : Rat) * (moments ys).xx - (moments ys).x * (moments ys).x) ∧
    (∃ l : Line, project ys = l.value ys.length ∧ l.IsClosest ys ∧ ∀ other : Line, other.IsClosest ys → other = l) ∧
    ∀ l : Line, (∀ i (hi : i < ys.length), ys[i] = l.value i) → project ys = l.value ys.length := by
  have hbalanced := isBalanced_fitted h
  refine ⟨⟨moments_x ys, moments_xx ys, divisor_pos h⟩,
    ⟨fitted ys, project_eq h, hbalanced.isClosest, fun other hother => hbalanced.eq_of_isClosest h hother⟩,
    fun l hthrough => ?_⟩
  rw [hbalanced.eq_of_isClosest h (Line.isClosest_of_through hthrough)]
  exact project_eq h

/-- Three months that are not on a line, and three that are: falling by fifty, they are continued below zero. -/
theorem project_threeMonths :
    2 ≤ [25, 40, (10 : Rat)].length ∧ project [25, 40, (10 : Rat)] = 10 ∧
      (∃ l : Line, 10 = l.value 3 ∧ l.IsClosest [25, 40, 10]) ∧ project [100, 50, (0 : Rat)] = -50 := by
  have hproject : project [25, 40, (10 : Rat)] = 10 := by decide +kernel
  obtain ⟨_, ⟨l, hvalue, hclosest, _⟩, _⟩ := project_closest_line (show 2 ≤ [25, 40, (10 : Rat)].length by decide)
  obtain ⟨_, _, hthrough⟩ := project_closest_line (show 2 ≤ [100, 50, (0 : Rat)].length by decide)
  refine ⟨by decide, hproject, ⟨l, hproject ▸ hvalue, hclosest⟩, ?_⟩
  rw [hthrough ⟨100, -50⟩ (by decide +kernel)]
  decide +kernel

end Trend

end SpendLedger
