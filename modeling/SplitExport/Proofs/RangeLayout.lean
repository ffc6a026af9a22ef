import Mathlib.Data.Rat.Floor
import SplitExport.Proofs.Digits
import SplitExport.Proofs.Results
import SplitExport.Split.Chunking

/-!
# Layout of ranges — side by side, each value once, never too many

What `SplitRange.cut` lays out, for any positive width and any two ends, and what `Chunking.ranges` makes
of it with the width of its own. The route:

* the width of a chunking is the least positive one that covers the span as often as its parallelism;
* `Tiling` follows the recursion of `cut`: a range of the width and a tiling of what remains, or one range
  that takes everything that is left;
* `IsLayout` says what a reader expects of the ranges, read off a tiling by induction;
* an integer lies in one range of a tiling or in none, and the number of ranges is the quotient of span
  and width, rounded up.

The ranges themselves never outnumber the parallelism. What can fail is writing the width, which is told
of in every case and may have too many digits.
-/

namespace SplitExport

open SplitExport.Number SplitExport.Results

/-! ## Widths -/

namespace Chunking

/-- The width is the quotient of span and parallelism, rounded up, where that is positive, and 1
    elsewhere. -/
theorem width_cases (c : Chunking) :
    (c.width = -(-(c.max - c.min) / c.parallelism) ∧ 1 ≤ c.width) ∨
      (c.width = 1 ∧ -(-(c.max - c.min) / c.parallelism) ≤ 0) := by
  have hdiv : (-(c.max - c.min)).fdiv c.parallelism = -(c.max - c.min) / c.parallelism :=
    Int.fdiv_eq_ediv_of_nonneg _ (Int.le_of_lt c.parallelism_pos)
  unfold width
  dsimp only
  rw [hdiv]
  split
  · exact Or.inl ⟨rfl, by omega⟩
  · exact Or.inr ⟨rfl, by omega⟩

/-- Ranges are at least one value wide. -/
theorem one_le_width (c : Chunking) : 1 ≤ c.width := by
  rcases c.width_cases with ⟨-, h⟩ | ⟨h, -⟩ <;> omega

/-- As many widths as the parallelism says cover the span. -/
theorem span_le_width_mul (c : Chunking) : c.max - c.min ≤ c.width * c.parallelism := by
  have hquot : -(c.max - c.min) / c.parallelism * c.parallelism ≤ -(c.max - c.min) :=
    Int.ediv_mul_le _ (Int.ne_of_gt c.parallelism_pos)
  have hwidth : -(-(c.max - c.min) / c.parallelism) ≤ c.width := by
    rcases c.width_cases with ⟨h, -⟩ | ⟨h, hneg⟩ <;> omega
  have hmul := Int.mul_le_mul_of_nonneg_right hwidth (Int.le_of_lt c.parallelism_pos)
  rw [Int.neg_mul] at hmul
  omega

/-- No smaller positive width covers the span. -/
theorem width_le_of_span_le (c : Chunking) {b : Int} (hb : 1 ≤ b)
    (hspan : c.max - c.min ≤ b * c.parallelism) : c.width ≤ b := by
  have hquot : -b ≤ -(c.max - c.min) / c.parallelism := by
    rw [Int.le_ediv_iff_mul_le c.parallelism_pos, Int.neg_mul]
    omega
  rcases c.width_cases with ⟨h, -⟩ | ⟨h, -⟩ <;> omega

/-- The width is the quotient of rational numbers, rounded up, and at least 1. -/
theorem width_eq_ceil (c : Chunking) :
    c.width = Max.max 1 ⌈((c.max - c.min : Int) : ℚ) / c.parallelism⌉ := by
  have hpos : (0 : ℚ) < c.parallelism := by exact_mod_cast c.parallelism_pos
  refine Int.le_antisymm (c.width_le_of_span_le (le_max_left _ _) ?_)
    (max_le c.one_le_width (Int.ceil_le.mpr ?_))
  · have hceil := (div_le_iff₀ hpos).mp (Int.le_ceil (((c.max - c.min : Int) : ℚ) / c.parallelism))
    have hspan : c.max - c.min ≤ ⌈((c.max - c.min : Int) : ℚ) / c.parallelism⌉ * c.parallelism := by
      exact_mod_cast hceil
    exact hspan.trans
      (Int.mul_le_mul_of_nonneg_right (le_max_right _ _) (Int.le_of_lt c.parallelism_pos))
  · rw [div_le_iff₀ hpos]
    exact_mod_cast c.span_le_width_mul

/-- **The width is the least that suffices.** For any two ends, in whatever order, and any parallelism from 1
    on there is a chunking, and its width is the least of the positive integers that cover the span as often as
    the parallelism says. -/
theorem isLeast_width (min max parallelism : Int) (h : 1 ≤ parallelism) :
    ∃ c, ofBounds min max parallelism = .ok c ∧
      IsLeast {b : Int | 1 ≤ b ∧ max - min ≤ b * parallelism} c.width := by
  have hchunking : ofBounds min max parallelism = .ok ⟨min, max, parallelism, h⟩ := dif_pos h
  refine ⟨_, hchunking, ⟨?_, ?_⟩, ?_⟩
  · exact one_le_width _
  · exact span_le_width_mul _
  · rintro b ⟨hb, hspan⟩
    exact width_le_of_span_le _ hb hspan

/-- The width of all words of 64 bits in seven ranges, and of the same span from its upper end down. -/
theorem isLeast_width_words :
    ∃ c d, ofBounds (-2 ^ 63) (2 ^ 63 - 1) 7 = .ok c ∧ ofBounds (2 ^ 63 - 1) (-2 ^ 63) 7 = .ok d ∧
      c.width = 2635249153387078803 ∧ d.width = 1 ∧
      IsLeast {b : Int | 1 ≤ b ∧ (2 ^ 63 - 1) - (-2 ^ 63) ≤ b * 7} c.width ∧
      IsLeast {b : Int | 1 ≤ b ∧ -2 ^ 63 - (2 ^ 63 - 1) ≤ b * 7} d.width := by
  obtain ⟨c, hc, hleast⟩ := isLeast_width (-2 ^ 63) (2 ^ 63 - 1) 7 (by decide)
  obtain ⟨d, hd, hreversed⟩ := isLeast_width (2 ^ 63 - 1) (-2 ^ 63) 7 (by decide)
  refine ⟨c, d, hc, hd, ?_, ?_, hleast, hreversed⟩
  · obtain rfl := Except.ok.inj hc
    decide
  · obtain rfl := Except.ok.inj hd
    decide

end Chunking

/-! ## Tilings -/

/-- Ranges of a width side by side up to `upper`, the last of which takes what remains. -/
inductive Tiling (width upper : Int) : Int → List SplitRange → Prop where
  | last {lower : Int} : upper ≤ lower + width → Tiling width upper lower [⟨lower, upper, true⟩]
  | step {lower : Int} {rest : List SplitRange} : lower + width < upper →
      Tiling width upper (lower + width) rest →
      Tiling width upper lower (⟨lower, lower + width, false⟩ :: rest)

namespace Tiling

variable {width lower upper : Int} {ranges : List SplitRange}

/-- What `cut` gives is a tiling. -/
theorem of_cut (h : 0 < width) (lower upper : Int) :
    Tiling width upper lower (SplitRange.cut width lower upper) := by
  induction lower using SplitRange.cut.induct width upper with
  | case1 lower hmore ih =>
      rw [SplitRange.cut, if_pos hmore]
      exact step hmore.2 ih
  | case2 lower hend =>
      rw [SplitRange.cut, if_neg hend]
      exact last (by omega)

/-- A tiling starts with a range that starts at its lower end. -/
theorem exists_cons (t : Tiling width upper lower ranges) :
    ∃ r rest, ranges = r :: rest ∧ r.lower = lower := by
  cases t with
  | last _ => exact ⟨_, _, rfl, rfl⟩
  | step _ _ => exact ⟨_, _, rfl, rfl⟩

/-- The last range of a tiling, with those in front of it. -/
theorem exists_last (t : Tiling width upper lower ranges) :
    ∃ front last, ranges = front ++ [last] ∧ last.upper = upper ∧ last.upperInclusive = true ∧
      last.upper ≤ last.lower + width ∧ (lower < upper → last.lower < upper) ∧
      ∀ r ∈ front, r.upperInclusive = false ∧ r.upper = r.lower + width := by
  induction t with
  | last h => exact ⟨[], _, rfl, rfl, rfl, h, id, fun _ hr => nomatch hr⟩
  | @step lower rest hlt _ ih =>
      obtain ⟨front, last, rfl, hupper, hincl, hwide, hlow, hfront⟩ := ih
      refine ⟨⟨lower, lower + width, false⟩ :: front, last, rfl, hupper, hincl, hwide, fun _ => hlow hlt, ?_⟩
      intro r hr
      rcases List.mem_cons.mp hr with rfl | hmem
      · exact ⟨rfl, rfl⟩
      · exact hfront r hmem

/-- Each range of a tiling starts where the one in front of it ends. -/
theorem adjacent (t : Tiling width upper lower ranges) :
    ranges.IsChain fun r s => s.lower = r.upper := by
  induction t with
  | last _ => exact List.IsChain.singleton _
  | step _ t ih =>
      obtain ⟨r, rest, rfl, hlower⟩ := t.exists_cons
      exact List.isChain_cons_cons.mpr ⟨hlower, ih⟩

/-- **Every value once**: an integer lies in one range of a tiling if it lies between the ends, and in
    none otherwise. -/
theorem countP_contains (hw : 0 < width) (t : Tiling width upper lower ranges) (x : Int) :
    ranges.countP (fun r => r.Contains x) = if lower ≤ x ∧ x ≤ upper then 1 else 0 := by
  induction t with
  | @last lower _ =>
      have hmem : (SplitRange.mk lower upper true).Contains x ↔ lower ≤ x ∧ x ≤ upper := by
        simp only [SplitRange.Contains, true_and]
        omega
      simp [hmem]
  | @step lower rest hlt _ ih =>
      have hmem : (SplitRange.mk lower (lower + width) false).Contains x ↔
          lower ≤ x ∧ x < lower + width := by
        simp [SplitRange.Contains]
      rw [List.countP_cons, ih]
      simp only [hmem, decide_eq_true_eq]
      -- the head takes the values below its upper end, the rest those from there on
      split <;> split <;> split <;> omega

/-- The ends of all ranges of a tiling lie between its own ends, in whatever order these are. -/
theorem ends_between (hw : 0 < width) (t : Tiling width upper lower ranges) :
    ∀ r ∈ ranges, min lower upper ≤ r.lower ∧ r.lower ≤ max lower upper ∧
      min lower upper ≤ r.upper ∧ r.upper ≤ max lower upper := by
  induction t with
  | last _ =>
      intro r hr
      obtain rfl := List.mem_singleton.mp hr
      dsimp only
      omega
  | @step lower rest hlt _ ih =>
      intro r hr
      rcases List.mem_cons.mp hr with rfl | hmem
      · dsimp only
        omega
      · have := ih r hmem
        omega

end Tiling

/-! ## Layouts -/

/-- What ranges of a width from `least` to `greatest` look like. -/
structure IsLayout (width least greatest : Int) (ranges : List SplitRange) : Prop where
  /-- There is a first range, and it starts at the least value. -/
  starts : ranges.head?.map SplitRange.lower = some least
  /-- The last range ends at the greatest value. -/
  ends : ranges.getLast?.map SplitRange.upper = some greatest
  adjacent : ranges.IsChain fun r s => s.lower = r.upper
  halfOpen : ∀ r ∈ ranges.dropLast, r.upperInclusive = false
  lastInclusive : ∀ r ∈ ranges.getLast?, r.upperInclusive = true
  wide : ∀ r ∈ ranges.dropLast, r.upper - r.lower = width
  remainder : least < greatest → ∀ r ∈ ranges.getLast?, 1 ≤ r.upper - r.lower ∧ r.upper - r.lower ≤ width

/-- A tiling is laid out as it should be. -/
theorem Tiling.isLayout {width lower upper : Int} {ranges : List SplitRange}
    (t : Tiling width upper lower ranges) : IsLayout width lower upper ranges := by
  obtain ⟨r, rest, hcons, hlower⟩ := t.exists_cons
  obtain ⟨front, last, rfl, hupper, hincl, hwide, hlow, hfront⟩ := t.exists_last
  have hlast : (front ++ [last]).getLast? = some last := List.getLast?_concat
  have hdrop : (front ++ [last]).dropLast = front := List.dropLast_concat
  refine ⟨?_, ?_, t.adjacent, ?_, ?_, ?_, ?_⟩
  · rw [hcons, List.head?_cons, Option.map_some, hlower]
  · rw [hlast, Option.map_some, hupper]
  · rw [hdrop]
    exact fun r hr => (hfront r hr).1
  · rw [hlast]
    rintro r hr
    obtain rfl := Option.some.inj hr
    exact hincl
  · rw [hdrop]
    intro r hr
    have := (hfront r hr).2
    omega
  · rw [hlast]
    intro hlt r hr
    obtain rfl := Option.some.inj hr
    have := hlow hlt
    omega

/-! ## Numbers of ranges -/

namespace SplitRange

variable {width : Int}

/-- Every cut makes one more range. -/
theorem length_cut (h : 0 < width) (lower upper : Int) :
    (cut width lower upper).length = cuts width lower upper + 1 := by
  induction lower using cut.induct width upper with
  | case1 lower hmore ih =>
      have hshift : (upper - lower - 1) / width = (upper - (lower + width) - 1) / width + 1 := by
        rw [← Int.add_mul_ediv_right _ 1 (Int.ne_of_gt h)]
        congr 1
        omega
      have hnonneg : 0 ≤ (upper - (lower + width) - 1) / width :=
        Int.ediv_nonneg (by omega) (Int.le_of_lt h)
      rw [cut, if_pos hmore, List.length_cons, ih]
      simp only [cuts, if_pos h]
      show ((upper - (lower + width) - 1) / width).toNat + 1 + 1 = ((upper - lower - 1) / width).toNat + 1
      omega
  | case2 lower hend =>
      have hsmall : (upper - lower - 1) / width < 1 := by
        rw [Int.ediv_lt_iff_lt_mul h]
        omega
      rw [cut, if_neg hend]
      simp only [cuts, if_pos h]
      show 1 = ((upper - lower - 1) / width).toNat + 1
      omega

/-- A quotient rounded up, as a quotient rounded down. -/
theorem ceil_div_eq (span : Int) (h : 0 < width) :
    ⌈(span : ℚ) / width⌉ = (span - 1) / width + 1 := by
  have hpos : (0 : ℚ) < width := by exact_mod_cast h
  have hfloor := Int.ediv_mul_le (span - 1) (Int.ne_of_gt h)
  have hnext := Int.lt_ediv_add_one_mul_self (span - 1) h
  rw [Int.ceil_eq_iff, lt_div_iff₀ hpos, div_le_iff₀ hpos]
  constructor
  · have : ((span - 1) / width) * width < span := by omega
    push_cast
    simp only [add_sub_cancel_right]
    exact_mod_cast this
  · have : span ≤ ((span - 1) / width + 1) * width := by omega
    exact_mod_cast this

/-- There are as many ranges as widths fit into the span, rounded up, and always one. -/
theorem length_cut_eq_ceil (h : 0 < width) (lower upper : Int) :
    ((cut width lower upper).length : Int) = max 1 ⌈((upper - lower : Int) : ℚ) / width⌉ := by
  rw [length_cut h, ceil_div_eq _ h]
  simp only [cuts, if_pos h]
  show ((((upper - lower - 1) / width).toNat + 1 : Nat) : Int) = max 1 ((upper - lower - 1) / width + 1)
  omega

/-- As many ranges suffice as cover the span. -/
theorem length_cut_le {count : Int} (h : 0 < width) (hcount : 1 ≤ count) {lower upper : Int}
    (hspan : upper - lower ≤ width * count) : ((cut width lower upper).length : Int) ≤ count := by
  have hpos : (0 : ℚ) < width := by exact_mod_cast h
  rw [length_cut_eq_ceil h]
  refine max_le hcount (Int.ceil_le.mpr ?_)
  rw [div_le_iff₀ hpos, mul_comm]
  exact_mod_cast hspan

end SplitRange

/-! ## Ranges of a chunking -/

namespace Chunking

/-- The ranges of a chunking never outnumber its parallelism. -/
theorem length_cut_le_parallelism (c : Chunking) :
    ((SplitRange.cut c.width c.min c.max).length : Int) ≤ c.parallelism :=
  SplitRange.length_cut_le c.one_le_width c.parallelism_pos c.span_le_width_mul

/-- The ranges of a chunking are those of its width, unless the width has too many digits to be told. -/
theorem ranges_eq (c : Chunking) :
    c.ranges = if isWritable c.width then .ok (SplitRange.cut c.width c.min c.max)
      else .error (.oversize {}) := by
  have hcount := c.length_cut_le_parallelism
  rw [SplitRange.length_cut c.one_le_width] at hcount
  unfold ranges rangesOf
  dsimp only
  rw [if_neg (by push_cast at hcount; omega)]
  cases isWritable c.width <;> rfl

/-- A chunking has the ranges of its width as its answer, if the width can be written. -/
theorem ranges_eq_ok_iff {c : Chunking} {ranges : List SplitRange} :
    c.ranges = .ok ranges ↔ isWritable c.width = true ∧ ranges = SplitRange.cut c.width c.min c.max := by
  rw [c.ranges_eq, ite_eq_ok]

/-- The ranges that are the answer are at least one, and no more than the parallelism says. -/
theorem length_of_ranges_eq_ok {c : Chunking} {ranges : List SplitRange} (h : c.ranges = .ok ranges) :
    ranges ≠ [] ∧ (ranges.length : Int) ≤ c.parallelism := by
  obtain ⟨-, rfl⟩ := ranges_eq_ok_iff.mp h
  obtain ⟨r, rest, hcut, -⟩ := (Tiling.of_cut c.one_le_width c.min c.max).exists_cons
  refine ⟨?_, c.length_cut_le_parallelism⟩
  rw [hcut]
  exact List.cons_ne_nil _ _

/-- An undivided span is as wide as it is long. -/
theorem width_undivided (c : Chunking) (hone : c.parallelism = 1) (hlt : c.min < c.max) :
    c.width = c.max - c.min := by
  rcases c.width_cases with ⟨hw, -⟩ | ⟨-, hw⟩
  · rw [hw, hone, Int.ediv_one, Int.neg_neg]
  · rw [hone, Int.ediv_one] at hw
    omega

/-- An undivided span of too many digits has no ranges. -/
theorem ranges_undivided_long (c : Chunking) (hone : c.parallelism = 1)
    (hlong : (Nat.pow 10 digitLimit : Int) ≤ c.max - c.min) : c.ranges = .error (.oversize {}) := by
  have hlarge := one_lt_pow_digitLimit
  have hlt : c.min < c.max := Int.sub_pos.mp (by omega)
  have hrefused : isWritable c.width = false := by
    rw [c.width_undivided hone hlt, isWritable, decide_eq_false_iff_not, Nat.not_lt]
    omega
  rw [ranges_eq, hrefused]
  rfl

end Chunking

/-! ## Main result -/

/-- **The layout of a chunking.** For every span and parallelism there are ranges from the least to the
    greatest value that take every value between them once and no other; a span that ends before it
    starts has one range without values. They are the answer exactly if their width can be written, and
    a refusal is the answer otherwise. -/
theorem ranges_lay_out_span (c : Chunking) :
    ∃ ranges : List SplitRange,
      IsLayout c.width c.min c.max ranges ∧
      (∀ x, ranges.countP (fun r => r.Contains x) = if c.min ≤ x ∧ x ≤ c.max then 1 else 0) ∧
      (c.max < c.min → ranges = [⟨c.min, c.max, true⟩]) ∧
      c.ranges = if isWritable c.width then .ok ranges else .error (.oversize {}) := by
  have t := Tiling.of_cut c.one_le_width c.min c.max
  refine ⟨_, t.isLayout, t.countP_contains c.one_le_width, ?_, c.ranges_eq⟩
  intro hlt
  have := c.one_le_width
  rw [SplitRange.cut, if_neg (by omega)]

/-- A span of 4301 digits that is not to be divided has no answer: its width is too long to be told. -/
theorem undivided_long_span_has_no_ranges :
    ¬ ∃ ranges, (Chunking.mk (-1) (Nat.pow 10 digitLimit - 1) 1 Int.one_pos).ranges = .ok ranges := by
  rintro ⟨ranges, h⟩
  rw [Chunking.ranges_undivided_long _ rfl (by rw [Int.sub_neg, Int.sub_add_cancel])] at h
  exact nomatch h

end SplitExport
