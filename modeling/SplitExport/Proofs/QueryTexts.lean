import Mathlib.Data.List.Nodup
import SplitExport.Proofs.Building
import SplitExport.Proofs.FilterReading
import SplitExport.Proofs.RangeLayout

/-!
# Query texts — what the queries of a span tell about it

Queries for the ranges of a span share the text in front of the clause of a range and the text behind it,
whatever stands there: bounds and clauses of other columns, or of the same one.

* One query tells its range (`Sql.queryForRange_injective`), since only the clause of the range differs.
* The ranges of a tiling start one behind the other, so that no two of them are the same (`Tiling.nodup`).
* The first range of a tiling tells where it starts and the last one where it ends, whatever its width
  (`Tiling.ends_unique`).

Two spans may be divided into different numbers of ranges and still have the same queries only if they are
one span, and the parallelisms come to the same ranges.
-/

namespace SplitExport

open SplitExport.Results SplitExport.Sql

/-! ## Ranges side by side -/

namespace Tiling

variable {width width' lower lower' upper upper' : Int} {ranges : List SplitRange}

/-- Each range of a tiling starts below those behind it. -/
theorem pairwise_lower (hw : 0 < width) (t : Tiling width upper lower ranges) :
    ranges.Pairwise fun r s => r.lower < s.lower := by
  induction t with
  | last _ => exact List.pairwise_singleton _ _
  | @step lower rest hlt t ih =>
      refine List.pairwise_cons.mpr ⟨fun s hs => ?_, ih⟩
      have hbetween := t.ends_between hw s hs
      dsimp only
      omega

/-- The ranges of a tiling are pairwise distinct. -/
theorem nodup (hw : 0 < width) (t : Tiling width upper lower ranges) : ranges.Nodup :=
  (t.pairwise_lower hw).imp fun hlower heq => Int.ne_of_lt hlower (congrArg SplitRange.lower heq)

/-- Ranges that are tilings of two spans are tilings of one. -/
theorem ends_unique (t : Tiling width upper lower ranges) (t' : Tiling width' upper' lower' ranges) :
    lower = lower' ∧ upper = upper' := by
  have hstarts := t.isLayout.starts.symm.trans t'.isLayout.starts
  have hends := t.isLayout.ends.symm.trans t'.isLayout.ends
  exact ⟨Option.some.inj hstarts, Option.some.inj hends⟩

end Tiling

/-! ## Queries -/

namespace Sql

variable {min max parallelism : Int} {column base partition limit : String} {queries : List String}

/-- The query of a range tells the range, whatever stands around its clause. -/
theorem queryForRange_injective (column base partition limit : String) :
    Function.Injective (queryForRange column base partition limit) := by
  intro r s h
  have hclause : rangeClause column r = rangeClause column s :=
    (String.append_right_inj _).mp ((String.append_left_inj _).mp h)
  exact rangeClause_injective column hclause

/-- The queries of a span are those of the ranges that the span is divided into. -/
theorem exists_tiling_of_queriesForBounds
    (h : queriesForBounds min max parallelism column base partition limit = .ok queries) :
    ∃ width ranges, 0 < width ∧ Tiling width max min ranges ∧
      (Chunking.ofBounds min max parallelism >>= Chunking.ranges) = .ok ranges ∧
      queries = ranges.map (queryForRange column base partition limit) := by
  obtain ⟨c, hchunking, h⟩ := bind_eq_ok.mp h
  obtain ⟨ranges, hranges, h⟩ := bind_eq_ok.mp h
  obtain ⟨-, hqueries⟩ := queriesForRanges_eq_ok.mp (mapError_eq_ok.mp h)
  refine ⟨c.width, ranges, c.one_le_width, ?_, bind_eq_ok.mpr ⟨c, hchunking, hranges⟩, hqueries⟩
  unfold Chunking.ofBounds at hchunking
  split at hchunking
  · obtain rfl := Except.ok.inj hchunking
    obtain ⟨-, rfl⟩ := Chunking.ranges_eq_ok_iff.mp hranges
    exact Tiling.of_cut (Chunking.one_le_width _) min max
  · exact nomatch hchunking

end Sql

/-! ## Main result -/

/-- **The texts of queries tell their ranges.** The queries of a span are pairwise distinct, whatever the
    column, the base query, the clause of the partition and the clause of the limit are. If two spans and
    parallelisms have the same queries in the same order, the spans are the same, and they are divided into
    the same ranges. -/
theorem query_texts_determine_ranges {column base partition limit : String}
    {min max parallelism min' max' parallelism' : Int} {queries queries' : List String}
    (h : queriesForBounds min max parallelism column base partition limit = .ok queries)
    (h' : queriesForBounds min' max' parallelism' column base partition limit = .ok queries') :
    queries.Nodup ∧
      (queries = queries' → min = min' ∧ max = max' ∧ ∃ ranges,
        (Chunking.ofBounds min max parallelism >>= Chunking.ranges) = .ok ranges ∧
        (Chunking.ofBounds min' max' parallelism' >>= Chunking.ranges) = .ok ranges) := by
  have hinjective := queryForRange_injective column base partition limit
  obtain ⟨width, ranges, hpos, t, hranges, rfl⟩ := exists_tiling_of_queriesForBounds h
  obtain ⟨width', ranges', -, t', hranges', rfl⟩ := exists_tiling_of_queriesForBounds h'
  refine ⟨(t.nodup hpos).map hinjective, fun hqueries => ?_⟩
  obtain rfl : ranges = ranges' := hinjective.list_map hqueries
  obtain ⟨hmin, hmax⟩ := t.ends_unique t'
  exact ⟨hmin, hmax, ranges, hranges, hranges'⟩

/-- The span from -1 to 3 is divided by two and by three into the same two ranges, behind a text that
    looks like the clause of another range. -/
theorem two_parallelisms_have_one_division :
    (["q AND id1 >= 1 AND id1 >= -1 AND id1 < 1 LIMIT 3",
      "q AND id1 >= 1 AND id1 >= 1 AND id1 <= 3 LIMIT 3"] : List String).Nodup ∧
      ∃ ranges, (Chunking.ofBounds (-1) 3 2 >>= Chunking.ranges) = .ok ranges ∧
        (Chunking.ofBounds (-1) 3 3 >>= Chunking.ranges) = .ok ranges := by
  have htwo : queriesForBounds (-1) 3 2 "id1" "q" " AND id1 >= 1" " LIMIT 3" =
      .ok ["q AND id1 >= 1 AND id1 >= -1 AND id1 < 1 LIMIT 3",
        "q AND id1 >= 1 AND id1 >= 1 AND id1 <= 3 LIMIT 3"] := by decide +kernel
  have hthree : queriesForBounds (-1) 3 3 "id1" "q" " AND id1 >= 1" " LIMIT 3" =
      .ok ["q AND id1 >= 1 AND id1 >= -1 AND id1 < 1 LIMIT 3",
        "q AND id1 >= 1 AND id1 >= 1 AND id1 <= 3 LIMIT 3"] := by decide +kernel
  obtain ⟨hnodup, hdetermined⟩ := query_texts_determine_ranges htwo hthree
  exact ⟨hnodup, (hdetermined rfl).2.2⟩

end SplitExport
