import SplitExport.Proofs.BuildStages
import SplitExport.Proofs.RangeLayout

/-!
# Range counts — as many ranges as widths fit into the span, and no more than asked for

* `Chunking.count` is the number of ranges that a span calls for: one, or the quotient of span and width,
  rounded up. It is the number of ranges that are cut, and the parallelism bounds it.
* A division that is refused is refused for its digits alone. This goes through the queries for bounds and
  through a whole build, so that nobody is ever told of too many ranges.
-/

namespace SplitExport

open SplitExport.Number SplitExport.Results SplitExport.Sql

/-! ## Counts -/

namespace Chunking

/-- The number of ranges: one for a span of at most 1, and else the span over the width, rounded up. -/
def count (c : Chunking) : Int :=
  if c.max - c.min ≤ 1 then 1 else ⌈((c.max - c.min : Int) : ℚ) / c.width⌉

/-- That many ranges are cut. -/
theorem length_cut_eq_count (c : Chunking) :
    ((SplitRange.cut c.width c.min c.max).length : Int) = c.count := by
  have hpos : 0 < c.width := c.one_le_width
  rw [SplitRange.length_cut_eq_ceil hpos, SplitRange.ceil_div_eq _ hpos, count,
    SplitRange.ceil_div_eq _ hpos]
  -- a short span is no wider than one range, whatever the sign of the span
  split
  · rename_i hsmall
    have hquot : (c.max - c.min - 1) / c.width ≤ 0 := by
      rw [← Int.lt_add_one_iff, Int.zero_add, Int.ediv_lt_iff_lt_mul hpos]
      omega
    omega
  · rename_i hlarge
    have hquot : 0 ≤ (c.max - c.min - 1) / c.width :=
      Int.ediv_nonneg (by omega) (Int.le_of_lt hpos)
    omega

/-- The loop that cuts them goes round once less. -/
theorem cuts_eq_count (c : Chunking) : (SplitRange.cuts c.width c.min c.max : Int) + 1 = c.count := by
  rw [← c.length_cut_eq_count, SplitRange.length_cut c.one_le_width]
  rfl

/-- There is at least one range. -/
theorem one_le_count (c : Chunking) : 1 ≤ c.count := by
  rw [← c.cuts_eq_count]
  omega

/-- There are no more ranges than the parallelism says. -/
theorem count_le_parallelism (c : Chunking) : c.count ≤ c.parallelism := by
  rw [← c.length_cut_eq_count]
  exact c.length_cut_le_parallelism

/-! ## Refusals -/

/-- A division is refused for its digits alone. -/
theorem eq_oversize_of_ranges_eq_error {c : Chunking} {cause : ChunkingError}
    (h : c.ranges = .error cause) : cause = .oversize {} := by
  rw [c.ranges_eq] at h
  split at h
  · exact nomatch h
  · exact (Except.error.inj h).symm

end Chunking

/-- The queries for bounds are refused for a parallelism that is not positive, or for their digits. -/
theorem Sql.cause_of_queriesForBounds_eq_error {min max parallelism : Int}
    {column base partition limit : String} {cause : ChunkingError}
    (h : queriesForBounds min max parallelism column base partition limit = .error cause) :
    cause = .parallelism parallelism ∨ cause = .oversize {} := by
  unfold queriesForBounds at h
  rcases bind_eq_error.mp h with hbounds | ⟨c, -, h⟩
  · unfold Chunking.ofBounds at hbounds
    split at hbounds
    · exact nomatch hbounds
    · exact Or.inl (Except.error.inj hbounds).symm
  · rcases bind_eq_error.mp h with hranges | ⟨ranges, -, h⟩
    · exact Or.inr (Chunking.eq_oversize_of_ranges_eq_error hranges)
    · obtain ⟨e, -, rfl⟩ := mapError_eq_error.mp h
      exact Or.inr rfl

namespace ExportSpec

variable {settings : Settings} {s : ExportSpec} {plan : SplitPlan} {condition : String}

/-- The queries between bounds are refused for digits alone: those of the share, or those of a division. -/
theorem cause_of_splitQueries_eq_error {b : Probe.Bounds} {cause : BuildError}
    (h : (s.splitQueries plan condition b).2 = .error cause) :
    cause = .limit {} ∨ cause = .chunking (.oversize {}) := by
  unfold splitQueries at h
  dsimp only at h
  split at h
  · exact Or.inl (Except.error.inj h).symm
  · rename_i e _ hranges
    obtain rfl := Except.error.inj h
    rw [Chunking.eq_oversize_of_ranges_eq_error hranges]
    exact Or.inr rfl
  · obtain ⟨e, -, rfl⟩ := mapError_eq_error.mp h
    exact Or.inr rfl

/-- The one query of an export that is not split is refused for its limit. -/
theorem cause_of_wholeQueries_eq_error {cause : BuildError} (h : s.wholeQueries condition = .error cause) :
    cause = .limit {} := by
  rw [wholeQueries_eq] at h
  split at h
  · exact nomatch h
  · exact (Except.error.inj h).symm

/-- A division that makes a build fail fails for its digits alone. -/
theorem eq_oversize_of_build_eq_error {executor : Option Executor} {cause : ChunkingError}
    (h : (s.build settings executor).result = .error (.chunking cause)) : cause = .oversize {} := by
  cases hstart : s.started.isWritten with
  | false =>
      rw [build_of_unwritten hstart] at h
      exact nomatch h
  | true =>
      have hends := ends_build settings executor hstart
      generalize s.build settings executor = built at h hends
      cases hends with
      | refused => exact nomatch h
      | unconditioned => exact nomatch h
      | whole => exact nomatch cause_of_wholeQueries_eq_error h
      | unasked => exact nomatch h
      | asked _ _ _ _ hprobed =>
          cases hprobed with
          | fault => exact nomatch h
          | failure => exact nomatch h
          | bounds =>
              rcases cause_of_splitQueries_eq_error h with hcause | hcause
              · exact nomatch hcause
              · exact BuildError.chunking.inj hcause

end ExportSpec

/-! ## Main result -/

/-- **The number of ranges.** Every chunking calls for `Chunking.count` ranges, which is at least one and
    at most its parallelism, and cuts as many: they are the answer exactly if the width can be written.
    The loop goes round less often than the parallelism says, and neither a division nor queries for
    bounds nor a build ever tell of too many ranges. -/
theorem ranges_number_count (c : Chunking) :
    c.width = max 1 ⌈((c.max - c.min : Int) : ℚ) / c.parallelism⌉ ∧
    c.count = (if c.max - c.min ≤ 1 then 1 else ⌈((c.max - c.min : Int) : ℚ) / c.width⌉) ∧
    1 ≤ c.count ∧ c.count ≤ c.parallelism ∧
    (SplitRange.cut c.width c.min c.max).length = SplitRange.cuts c.width c.min c.max + 1 ∧
    (SplitRange.cuts c.width c.min c.max : Int) < c.parallelism ∧
    c.ranges.map (fun ranges => (ranges.length : Int)) =
      (if isWritable c.width then .ok c.count else .error (.oversize {})) ∧
    (∀ n d, c.ranges ≠ .error (.tooMany n d)) ∧
    (∀ column base partition limit n d,
      queriesForBounds c.min c.max c.parallelism column base partition limit ≠ .error (.tooMany n d)) ∧
    ∀ (settings : Settings) (s : ExportSpec) (executor : Option Executor) n d,
      (s.build settings executor).result ≠ .error (.chunking (.tooMany n d)) := by
  have hcuts := c.cuts_eq_count
  have hbound := c.count_le_parallelism
  refine ⟨c.width_eq_ceil, rfl, c.one_le_count, hbound, SplitRange.length_cut c.one_le_width _ _,
    by omega, ?_, ?_, ?_, ?_⟩
  · rw [c.ranges_eq]
    split
    · exact congrArg Except.ok c.length_cut_eq_count
    · rfl
  · intro n d h
    exact nomatch Chunking.eq_oversize_of_ranges_eq_error h
  · intro column base partition limit n d h
    rcases Sql.cause_of_queriesForBounds_eq_error h with hcause | hcause
    · exact nomatch hcause
    · exact nomatch hcause
  · intro settings s executor n d h
    exact nomatch ExportSpec.eq_oversize_of_build_eq_error h

/-- An undivided span of 4301 digits calls for one range and gets none. -/
theorem undivided_long_span_misses_its_range :
    (Chunking.mk (1 - Nat.pow 10 digitLimit) 1 1 Int.one_pos).count = 1 ∧
      (Chunking.mk (1 - Nat.pow 10 digitLimit) 1 1 Int.one_pos).ranges.map
        (fun ranges => (ranges.length : Int)) ≠ .ok 1 := by
  constructor
  · exact Int.le_antisymm (Chunking.count_le_parallelism _) (Chunking.one_le_count _)
  · rw [Chunking.ranges_undivided_long _ rfl (by rw [Int.sub_sub_self])]
    exact fun h => nomatch h

end SplitExport
