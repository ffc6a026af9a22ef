import Mathlib.Data.Int.Interval
import Mathlib.Data.List.MinMax
import Mathlib.Data.Set.Card
import SplitExport.Proofs.RangeLayout

/-!
# Finer divisions — more parallelism, and neither fewer nor larger ranges

One span is divided for two parallelisms, the larger of which has the narrower ranges, or the same ones.

* A narrower width never cuts fewer ranges (`SplitRange.length_cut_le_length_cut`): as many widths as
  there are ranges cover the span.
* `SplitRange.size` counts the integers in a range. The last range holds its upper end, too, so that it may
  hold one more than its width says.
* The largest range of a cut holds as many integers as the width says, or the whole span
  (`Tiling.exists_large`), and no range holds more than one beyond its width (`Tiling.size_le`). That one
  does not make up for the step from one width to a larger one.

Two cuts of one width are the same, so that only unequal widths are compared by their ranges.
-/

namespace SplitExport

open SplitExport.Number

/-! ## Sizes -/

/-- The number of integers in a range. -/
noncomputable def SplitRange.size (r : SplitRange) : Nat :=
  {x : Int | r.Contains x}.ncard

/-- The size of the largest of some ranges. -/
noncomputable def SplitRange.largest (ranges : List SplitRange) : WithBot Nat :=
  (ranges.map SplitRange.size).maximum

/-- A range holds as many integers as its ends are apart, and one more if it holds its upper end. -/
theorem SplitRange.size_eq (r : SplitRange) :
    r.size = (r.upper - r.lower + if r.upperInclusive then 1 else 0).toNat := by
  obtain ⟨lower, upper, upperInclusive⟩ := r
  cases upperInclusive with
  | false =>
      have hset : {x : Int | (SplitRange.mk lower upper false).Contains x} = Finset.Ico lower upper := by
        ext x
        simp [SplitRange.Contains]
      rw [size, hset, Set.ncard_coe_finset, Int.card_Ico]
      simp
  | true =>
      have hset : {x : Int | (SplitRange.mk lower upper true).Contains x} = Finset.Icc lower upper := by
        ext x
        simp only [SplitRange.Contains, Set.mem_ofPred_eq, Finset.coe_Icc, Set.mem_Icc, true_and]
        omega
      rw [size, hset, Set.ncard_coe_finset, Int.card_Icc]
      dsimp only
      congr 1
      simp only [if_true]
      omega

/-- Ranges each of which is no larger than some other one are no larger than the largest of these. -/
theorem SplitRange.largest_le_of_forall {ranges ranges' : List SplitRange}
    (h : ∀ r' ∈ ranges', ∃ r ∈ ranges, r'.size ≤ r.size) : largest ranges' ≤ largest ranges := by
  refine List.maximum_le_of_forall_le fun n hn => ?_
  obtain ⟨r', hr', rfl⟩ := List.mem_map.mp hn
  obtain ⟨r, hr, hsize⟩ := h r' hr'
  calc (r'.size : WithBot Nat)
    _ ≤ r.size := WithBot.coe_le_coe.mpr hsize
    _ ≤ largest ranges := List.le_maximum_of_mem' (List.mem_map_of_mem hr)

/-! ## Tilings -/

namespace Tiling

variable {width lower upper : Int} {ranges : List SplitRange}

/-- As many widths as a tiling has ranges cover its span. -/
theorem span_le_width_mul_length (t : Tiling width upper lower ranges) :
    upper - lower ≤ width * ranges.length := by
  induction t with
  | last h =>
      rw [List.length_singleton, Nat.cast_one, Int.mul_one]
      omega
  | step _ _ ih =>
      rw [List.length_cons, Nat.cast_succ, Int.mul_add, Int.mul_one]
      omega

/-- No range of a tiling holds more than one integer beyond its width, or more than the span does. -/
theorem size_le (hw : 0 < width) (t : Tiling width upper lower ranges) :
    ∀ r ∈ ranges, (r.size : Int) ≤ width + 1 ∧ r.size ≤ (upper - lower + 1).toNat := by
  induction t with
  | @last lower h =>
      intro r hr
      obtain rfl := List.mem_singleton.mp hr
      rw [SplitRange.size_eq]
      simp only [if_true]
      omega
  | @step lower rest hlt _ ih =>
      intro r hr
      rcases List.mem_cons.mp hr with rfl | hmem
      · rw [SplitRange.size_eq]
        simp only [Bool.false_eq_true, if_false]
        omega
      · have := ih r hmem
        omega

/-- Some range of a tiling holds as many integers as the width says, or all those of the span. -/
theorem exists_large (t : Tiling width upper lower ranges) :
    ∃ r ∈ ranges, width ≤ r.size ∨ r.size = (upper - lower + 1).toNat := by
  cases t with
  | last _ =>
      refine ⟨_, List.mem_singleton_self _, Or.inr ?_⟩
      rw [SplitRange.size_eq]
      rfl
  | step _ _ =>
      refine ⟨_, List.mem_cons_self, Or.inl ?_⟩
      rw [SplitRange.size_eq]
      simp only [Bool.false_eq_true, if_false]
      omega

end Tiling

/-! ## Widths -/

namespace SplitRange

variable {width width' : Int}

/-- A narrower width cuts no fewer ranges. -/
theorem length_cut_le_length_cut (h : 0 < width') (hle : width' ≤ width) (lower upper : Int) :
    (cut width lower upper).length ≤ (cut width' lower upper).length := by
  have t := Tiling.of_cut h lower upper
  obtain ⟨_, _, hcons, -⟩ := t.exists_cons
  have hone : (1 : Int) ≤ (cut width' lower upper).length := by
    rw [hcons, List.length_cons]
    omega
  have hspan : upper - lower ≤ width * (cut width' lower upper).length :=
    t.span_le_width_mul_length.trans (Int.mul_le_mul_of_nonneg_right hle (Int.natCast_nonneg _))
  exact_mod_cast length_cut_le (Int.lt_of_lt_of_le h hle) hone hspan

/-- A narrower width cuts no larger ranges. -/
theorem largest_cut_le_largest_cut (h : 0 < width') (hle : width' ≤ width) (lower upper : Int) :
    largest (cut width' lower upper) ≤ largest (cut width lower upper) := by
  rcases hle.eq_or_lt with rfl | hlt
  · exact le_rfl
  · -- one integer beyond the narrower width is not beyond the wider one
    refine largest_le_of_forall fun r' hr' => ?_
    obtain ⟨hwide, hspan⟩ := (Tiling.of_cut h lower upper).size_le h r' hr'
    obtain ⟨r, hr, hlarge⟩ := (Tiling.of_cut (h.trans hlt) lower upper).exists_large
    exact ⟨r, hr, by omega⟩

end SplitRange

/-! ## Chunkings -/

namespace Chunking

variable {c c' : Chunking}

/-- More parallelism makes no wider ranges. -/
theorem width_le_of_parallelism_le (hmin : c'.min = c.min) (hmax : c'.max = c.max)
    (hle : c.parallelism ≤ c'.parallelism) : c'.width ≤ c.width := by
  refine c'.width_le_of_span_le c.one_le_width ?_
  rw [hmin, hmax]
  exact c.span_le_width_mul.trans
    (Int.mul_le_mul_of_nonneg_left hle (Int.le_trans Int.one_nonneg c.one_le_width))

/-- A width below one that can be written can be written, since widths are positive. -/
theorem isWritable_width_of_le (hle : c'.width ≤ c.width) (h : isWritable c.width = true) :
    isWritable c'.width = true := by
  have hpos := c'.one_le_width
  exact isWritable_of_natAbs_le (by omega) h

end Chunking

/-! ## Main result -/

/-- **More parallelism divides finer.** Of two chunkings of one span, the one with more parallelism has no
    wider ranges. Whenever the other one is answered, so is this one, with no fewer ranges, the largest of
    which holds no more integers. A chunking is answered exactly if its width can be written. -/
theorem more_parallelism_divides_finer (c c' : Chunking) (hmin : c'.min = c.min) (hmax : c'.max = c.max)
    (hle : c.parallelism ≤ c'.parallelism) :
    c'.width ≤ c.width ∧
    (∀ ranges, c.ranges = .ok ranges → ∃ ranges', c'.ranges = .ok ranges' ∧
      ranges.length ≤ ranges'.length ∧ SplitRange.largest ranges' ≤ SplitRange.largest ranges) ∧
    ((∃ ranges, c.ranges = .ok ranges) ↔ isWritable c.width = true) := by
  have hwidth := Chunking.width_le_of_parallelism_le hmin hmax hle
  refine ⟨hwidth, fun ranges hranges => ?_, ?_⟩
  · obtain ⟨hwritable, rfl⟩ := Chunking.ranges_eq_ok_iff.mp hranges
    refine ⟨_, Chunking.ranges_eq_ok_iff.mpr ⟨Chunking.isWritable_width_of_le hwidth hwritable, rfl⟩, ?_⟩
    rw [hmin, hmax]
    exact ⟨SplitRange.length_cut_le_length_cut c'.one_le_width hwidth _ _,
      SplitRange.largest_cut_le_largest_cut c'.one_le_width hwidth _ _⟩
  · exact ⟨fun ⟨_, h⟩ => (Chunking.ranges_eq_ok_iff.mp h).1,
      fun h => ⟨_, Chunking.ranges_eq_ok_iff.mpr ⟨h, rfl⟩⟩⟩

/-- The values from 0 to 6 are two ranges of three and four values for two, and three ranges of two, two
    and three values for three. -/
theorem thirds_are_finer_than_halves :
    (Chunking.mk 0 6 2 (by decide)).parallelism ≤ (Chunking.mk 0 6 3 (by decide)).parallelism ∧
      (Chunking.mk 0 6 2 (by decide)).ranges = .ok [⟨0, 3, false⟩, ⟨3, 6, true⟩] ∧
      ∃ ranges', (Chunking.mk 0 6 3 (by decide)).ranges = .ok ranges' ∧ 2 ≤ ranges'.length ∧
        SplitRange.largest ranges' ≤ 4 := by
  have hle : (Chunking.mk 0 6 2 (by decide)).parallelism ≤ (Chunking.mk 0 6 3 (by decide)).parallelism := by
    decide
  have hhalves : (Chunking.mk 0 6 2 (by decide)).ranges = .ok [⟨0, 3, false⟩, ⟨3, 6, true⟩] := by
    decide +kernel
  obtain ⟨-, hfiner, -⟩ :=
    more_parallelism_divides_finer (Chunking.mk 0 6 2 (by decide)) (Chunking.mk 0 6 3 (by decide)) rfl rfl hle
  obtain ⟨ranges', hthirds, hlength, hlargest⟩ := hfiner _ hhalves
  refine ⟨hle, hhalves, ranges', hthirds, hlength, hlargest.trans (le_of_eq ?_)⟩
  simp only [SplitRange.largest, SplitRange.size_eq, List.map_cons, List.map_nil]
  decide

/-- **A span of 4301 digits is divided by two and not by one**: the width of its two halves can be told,
    and its own cannot. -/
theorem undivided_long_span_has_no_fewer_ranges :
    (Chunking.mk (-1) (Nat.pow 10 digitLimit - 1) 1 Int.one_pos).ranges = .error (.oversize {}) ∧
      ∃ ranges, (Chunking.mk (-1) (Nat.pow 10 digitLimit - 1) 2 (by decide)).ranges = .ok ranges := by
  have hlarge := one_lt_pow_digitLimit
  constructor
  · exact Chunking.ranges_undivided_long _ rfl (by rw [Int.sub_neg, Int.sub_add_cancel])
  · have hwidth : (Chunking.mk (-1) (Nat.pow 10 digitLimit - 1) 2 (by decide)).width ≤
        Nat.pow 10 digitLimit - 1 := by
      refine Chunking.width_le_of_span_le _ (by omega) ?_
      dsimp only
      omega
    have hpos := Chunking.one_le_width (Chunking.mk (-1) (Nat.pow 10 digitLimit - 1) 2 (by decide))
    refine ⟨_, Chunking.ranges_eq_ok_iff.mpr ⟨?_, rfl⟩⟩
    rw [isWritable, decide_eq_true_eq]
    omega

end SplitExport
