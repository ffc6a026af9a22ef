import SplitExport.Log.Journal
import SplitExport.Proofs.RangeLayout
import SplitExport.Spec.Build
import SplitExport.Split.Division

/-!
# Divisions — when ranges are refused for their number

A span can be divided by any positive width, not only by the one that its chunking would take.

* The loop that lays the ranges side by side goes round while another one ends inside the span, and stops
  after `SplitRange.cuts` rounds (`SplitRange.lt_cuts_iff`).
* The ranges outnumber the parallelism if and only if as many widths as it says do not cover the span
  (`Chunking.parallelism_lt_length_cut_iff`).
* Counting the ranges when all of them are there comes to the same as counting them in front
  (`Chunking.result_divide`), and a build divides its span in this way
  (`ExportSpec.events_splitQueries`).

A refusal tells the number of ranges, the parallelism and the span. It fails to do so if one of these has
too many digits, as a division fails that may be made and has to tell of too long a width.
-/

namespace SplitExport

open SplitExport.Log SplitExport.Number SplitExport.Text

/-! ## Rounds -/

/-- The loop goes round once more while another range of the width ends inside the span: as often as the
    span is cut, and no more. -/
theorem SplitRange.lt_cuts_iff {width : Int} (h : 0 < width) (lower upper : Int) (n : Nat) :
    lower + n * width + width < upper ↔ n < cuts width lower upper := by
  have hround : (n : Int) < (upper - lower - 1) / width ↔ (n + 1) * width ≤ upper - lower - 1 :=
    Int.le_ediv_iff_mul_le h
  rw [Int.add_mul, Int.one_mul] at hround
  rw [cuts, if_pos h]
  show _ ↔ n < ((upper - lower - 1) / width).toNat
  omega

namespace Chunking

/-! ## Numbers of ranges -/

/-- The ranges of a width outnumber the parallelism if and only if as many widths as it says do not cover
    the span. -/
theorem parallelism_lt_length_cut_iff (c : Chunking) {width : Int} (h : 0 < width) :
    c.parallelism < (SplitRange.cut width c.min c.max).length ↔
      width * c.parallelism < c.max - c.min := by
  have hpos : (0 : ℚ) < width := by exact_mod_cast h
  have hone : ¬ c.parallelism < 1 := Int.not_lt.mpr c.parallelism_pos
  rw [SplitRange.length_cut_eq_ceil h, lt_max_iff, or_iff_right hone, Int.lt_ceil, lt_div_iff₀ hpos,
    mul_comm]
  exact_mod_cast Iff.rfl

/-! ## Divisions -/

/-- A division whose ranges are refused for their number. -/
theorem divide_refused (c : Chunking) {width : Int} (h : 0 < width)
    (hspan : width * c.parallelism < c.max - c.min) :
    c.divide width =
      { result := .error (c.refusal (SplitRange.cut width c.min c.max).length), events := [] } := by
  unfold divide
  dsimp only
  rw [if_pos ((c.parallelism_lt_length_cut_iff h).mpr hspan)]

/-- A division whose ranges are not too many: they are handed over if their width can be told. -/
theorem divide_admitted (c : Chunking) {width : Int} (h : 0 < width)
    (hspan : c.max - c.min ≤ width * c.parallelism) :
    c.divide width =
      if isWritable width then
        { result := .ok (SplitRange.cut width c.min c.max)
          events := [.rangesCalculated (SplitRange.cut width c.min c.max).length width] }
      else { result := .error (.oversize {}), events := [] } := by
  unfold divide
  dsimp only
  rw [if_neg fun hcount => Int.not_lt.mpr hspan ((c.parallelism_lt_length_cut_iff h).mp hcount)]
  cases isWritable width <;> rfl

/-- Ranges that are counted in front are those that are counted when they are there. -/
theorem result_divide (c : Chunking) {width : Int} (h : 0 < width) :
    (c.divide width).result = c.rangesOf width := by
  have hcount : ((SplitRange.cut width c.min c.max).length : Int) =
      (SplitRange.cuts width c.min c.max + 1 : Nat) := congrArg _ (SplitRange.length_cut h _ _)
  unfold divide rangesOf
  dsimp only
  rw [hcount, SplitRange.length_cut h]
  push_cast
  split
  · rfl
  · cases isWritable width <;> rfl

/-- Whoever is refused ranges hears nothing of them. -/
theorem events_divide_of_error {c : Chunking} {width : Int} {cause : ChunkingError}
    (h : (c.divide width).result = .error cause) : (c.divide width).events = [] := by
  unfold divide at h ⊢
  dsimp only at h ⊢
  split at h
  · rename_i hcount
    rw [if_pos hcount]
  · rename_i hcount
    rw [if_neg hcount]
    split at h
    · rename_i hwidth
      rw [if_pos hwidth]
    · exact nomatch h

/-- A refusal for the number of ranges tells this number, of a chunking that can be told. -/
theorem refusal_eq_tooMany_iff {c d : Chunking} {count n : Nat} :
    c.refusal count = .tooMany n d ↔ c.isWritten = true ∧ n = count ∧ d = c := by
  unfold refusal
  split
  · rename_i hwritten
    constructor
    · intro h
      obtain ⟨rfl, rfl⟩ := ChunkingError.tooMany.inj h
      exact ⟨hwritten, rfl, rfl⟩
    · rintro ⟨-, rfl, rfl⟩
      rfl
  · rename_i hwritten
    exact ⟨fun h => (nomatch h), fun h => absurd h.1 hwritten⟩

end Chunking

/-- A build whose share of the limit can be written tells of the division by the width of its chunking what
    the division has to tell. -/
theorem ExportSpec.events_splitQueries {s : ExportSpec} {plan : SplitPlan} {share : String}
    (hshare : s.shareCondition plan.parallelism = .ok share) (condition : String) (b : Probe.Bounds) :
    (s.splitQueries plan condition b).1 = ((chunkingOf plan b).divide (chunkingOf plan b).width).events := by
  have hresult : ((chunkingOf plan b).divide (chunkingOf plan b).width).result =
      (chunkingOf plan b).ranges := (chunkingOf plan b).result_divide (chunkingOf plan b).one_le_width
  unfold splitQueries
  dsimp only
  rw [hshare]
  cases hranges : (chunkingOf plan b).ranges with
  | error cause => exact (Chunking.events_divide_of_error (hresult.trans hranges)).symm
  | ok ranges =>
      rw [Chunking.divide_admitted _ (chunkingOf plan b).one_le_width
        (chunkingOf plan b).span_le_width_mul] at hresult ⊢
      split at hresult
      · rename_i hwidth
        obtain rfl : SplitRange.cut _ _ _ = ranges := Except.ok.inj (hresult.trans hranges)
        rw [if_pos hwidth]
      · exact nomatch hresult.trans hranges

/-! ## Main result -/

/-- **When ranges are refused for their number.** For every span, parallelism and positive width the loop
    comes to an end, with as many ranges as widths fit into the span, rounded up, and at least one; they
    are laid out as they should be and take each value of the span once. If as many widths as the
    parallelism says do not cover the span, the ranges are refused, and nothing is told; the refusal
    reports their number if the parallelism and the span can be told. Else the ranges are the answer, if
    their width can be told. Counting them in front comes to the same. -/
theorem ranges_are_refused_beyond_parallelism (c : Chunking) {width : Int} (h : 1 ≤ width) :
    ∃ ranges : List SplitRange,
      (∀ n : Nat, c.min + n * width + width < c.max ↔ n + 1 < ranges.length) ∧
      (ranges.length : Int) = max 1 ⌈((c.max - c.min : Int) : ℚ) / width⌉ ∧
      IsLayout width c.min c.max ranges ∧
      (∀ x, ranges.countP (fun r => r.Contains x) = if c.min ≤ x ∧ x ≤ c.max then 1 else 0) ∧
      ((∃ n d, (c.divide width).result = .error (.tooMany n d)) ↔
        c.isWritten = true ∧ width * c.parallelism < c.max - c.min) ∧
      (∀ n d, (c.divide width).result = .error (.tooMany n d) → n = ranges.length ∧ d = c) ∧
      (∀ n, (ChunkingError.tooMany n c).kind = "RangeInvariantError" ∧
        (ChunkingError.tooMany n c).message =
          "Generated " ++ natText n ++ " ranges for parallelism " ++ intText c.parallelism ++
            " (min=" ++ intText c.min ++ ", max=" ++ intText c.max ++ ")") ∧
      (width * c.parallelism < c.max - c.min →
        (c.divide width).result = .error (c.refusal ranges.length)) ∧
      (c.max - c.min ≤ width * c.parallelism → c.divide width =
        if isWritable width then ⟨.ok ranges, [.rangesCalculated ranges.length width]⟩
        else ⟨.error (.oversize {}), []⟩) ∧
      (∀ cause, (c.divide width).result = .error cause →
        ∀ journal : Journal, (journal.logAll (c.divide width).events).records = journal.records) ∧
      c.rangesOf width = (c.divide width).result := by
  have t := Tiling.of_cut h c.min c.max
  have hrefused := c.divide_refused h
  have hadmitted := c.divide_admitted h
  -- only a span that is not covered is refused for the number of its ranges
  have htooMany : ∀ n d, (c.divide width).result = .error (.tooMany n d) ↔
      width * c.parallelism < c.max - c.min ∧ c.isWritten = true ∧
        n = (SplitRange.cut width c.min c.max).length ∧ d = c := by
    intro n d
    rcases lt_or_ge (width * c.parallelism) (c.max - c.min) with hspan | hspan
    · rw [hrefused hspan, Except.error.injEq, Chunking.refusal_eq_tooMany_iff]
      exact (and_iff_right hspan).symm
    · rw [hadmitted hspan]
      refine ⟨fun htold => ?_, fun htold => absurd htold.1 (Int.not_lt.mpr hspan)⟩
      split at htold <;> exact nomatch htold
  refine ⟨SplitRange.cut width c.min c.max, fun n => ?_, SplitRange.length_cut_eq_ceil h _ _, t.isLayout,
    t.countP_contains h, ⟨?_, ?_⟩, fun n d htold => ((htooMany n d).mp htold).2.2, fun n => ⟨rfl, rfl⟩,
    fun hspan => congrArg DivisionRun.result (hrefused hspan), hadmitted, fun cause hcause journal => ?_,
    (c.result_divide h).symm⟩
  · rw [SplitRange.lt_cuts_iff h, SplitRange.length_cut h, Nat.add_lt_add_iff_right]
  · rintro ⟨n, d, htold⟩
    obtain ⟨hspan, hwritten, -⟩ := (htooMany n d).mp htold
    exact ⟨hwritten, hspan⟩
  · rintro ⟨hwritten, hspan⟩
    exact ⟨_, _, (htooMany _ _).mpr ⟨hspan, hwritten, rfl, rfl⟩⟩
  · rw [Chunking.events_divide_of_error hcause]
    rfl

/-- A hundred values in widths of ten are ten ranges, which are too many for two. -/
theorem ten_ranges_are_refused :
    (1 : Int) ≤ 10 ∧
      ((Chunking.mk 0 100 2 (by decide)).divide 10).result =
        .error (.tooMany 10 (Chunking.mk 0 100 2 (by decide))) := by
  have hwidth : (1 : Int) ≤ 10 := by decide
  obtain ⟨ranges, -, hcount, -, -, hrefused, hreport, -⟩ :=
    ranges_are_refused_beyond_parallelism (Chunking.mk 0 100 2 (by decide)) hwidth
  obtain ⟨n, d, htold⟩ := hrefused.mpr ⟨by decide +kernel, by decide⟩
  obtain ⟨rfl, rfl⟩ := hreport n d htold
  have hceil : max 1 ⌈((100 - 0 : Int) : ℚ) / (10 : Int)⌉ = 10 := by norm_num
  have hlength : ranges.length = 10 := by exact_mod_cast hcount.trans hceil
  rw [hlength] at htold
  exact ⟨hwidth, htold⟩

/-- A span of 4301 digits that is not to be divided. -/
def overlongSpan : Chunking :=
  ⟨-2, Nat.pow 10 digitLimit - 2, 1, Int.one_pos⟩

/-- Two values beyond 4300 digits, which are not to be divided either. -/
def remoteSpan : Chunking :=
  ⟨Nat.pow 10 digitLimit, Nat.pow 10 digitLimit + 2, 1, Int.one_pos⟩

/-- **What is too long is not told.** The one range of a span of 4301 digits may be made, and is not the
    answer, since its width is too long; and two ranges of a remote span are not refused for their number,
    since its ends are too long. -/
theorem overlong_numbers_are_not_told :
    (overlongSpan.max - overlongSpan.min ≤ overlongSpan.width * overlongSpan.parallelism ∧
      ¬ ∃ ranges, (overlongSpan.divide overlongSpan.width).result = .ok ranges) ∧
    1 * remoteSpan.parallelism < remoteSpan.max - remoteSpan.min ∧
      ¬ ∃ n d, (remoteSpan.divide 1).result = .error (.tooMany n d) := by
  have hlong := isWritable_pow_digitLimit
  have hlarge := one_lt_pow_digitLimit
  have hwidth : overlongSpan.width = Nat.pow 10 digitLimit := by
    have hspan : overlongSpan.max - overlongSpan.min = Nat.pow 10 digitLimit := by
      simp only [overlongSpan]
      omega
    rw [overlongSpan.width_undivided rfl (Int.sub_pos.mp (by omega)), hspan]
  have hremote : 1 * remoteSpan.parallelism < remoteSpan.max - remoteSpan.min := by
    simp only [remoteSpan]
    omega
  have hunwritten : remoteSpan.isWritten = false := by
    show (_ && isWritable (Nat.pow 10 digitLimit : Int) && _) = false
    rw [hlong, Bool.and_false, Bool.false_and]
  refine ⟨⟨overlongSpan.span_le_width_mul, ?_⟩, hremote, ?_⟩
  · rintro ⟨ranges, htold⟩
    rw [overlongSpan.divide_admitted overlongSpan.one_le_width overlongSpan.span_le_width_mul, hwidth, hlong,
      if_neg Bool.false_ne_true] at htold
    cases htold
  · rintro ⟨n, d, htold⟩
    rw [remoteSpan.divide_refused Int.one_pos hremote, Except.error.injEq, Chunking.refusal_eq_tooMany_iff,
      hunwritten] at htold
    exact Bool.false_ne_true htold.1

end SplitExport
