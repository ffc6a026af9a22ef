import Mathlib.Data.Multiset.Filter
import Mathlib.Order.Bounds.Basic
import SplitExport.Proofs.Building
import SplitExport.Proofs.FilterReading
import SplitExport.Proofs.ProbeOutcomes
import SplitExport.Proofs.RangeLayout

/-!
# Coverage — a split export reads every row of its window once

An export is judged on a table whose rows may have a split value each, with a window that stands for the
base query and its condition:

* `Table.Selects` says which rows a query gives: those of the window whose value meets the filter behind
  the source; a row without a value meets none;
* `Table.Answers` says what a truthful answer to the probe is: one row with the least and the greatest
  value in the window, or nulls if there is none;
* the ranges between these take each value once, and the filters say what the ranges are;
* a build gives the queries of the ranges if the parallelism, the two values and the width of the ranges
  can be written, and is refused for a wrong value else. In columns of integers the values have at most 128
  bits, so that nothing but the parallelism can be too long.
-/

namespace SplitExport

open SplitExport.Number SplitExport.Probe SplitExport.Results SplitExport.Sql

/-! ## Tables -/

/-- The rows of a table, the split values of those that have one, and the rows in the window of an
    export. -/
structure Table (Row : Type) where
  rows : Multiset Row
  value : Row → Option Int
  InWindow : Row → Prop

namespace Table

variable {Row : Type} (t : Table Row)

/-- The split values in the window. -/
def values : Set Int :=
  {x | ∃ row ∈ t.rows, t.InWindow row ∧ t.value row = some x}

/-- A row is among those that a query gives: it is one of the source, and its split value meets the
    filter behind the source. -/
def Selects (source column query : String) (row : Row) : Prop :=
  t.InWindow row ∧ ∃ filter x, query = source ++ filter ∧ t.value row = some x ∧
    FilterHolds column filter x

open Classical in
/-- Some queries give each row of the window that has a split value once, and no other row. -/
def ExportedOnce (source column : String) (queries : List String) : Prop :=
  ∀ row ∈ t.rows, queries.countP (fun query => t.Selects source column query row) =
    if t.InWindow row ∧ (t.value row).isSome then 1 else 0

/-- A datum that stands for an extreme of some values: the value that has a property, or null if there
    are no values. -/
inductive IsExtreme (values : Set Int) (P : Int → Prop) : Datum → Prop where
  | none : values = ∅ → IsExtreme values P .null
  | some {x : Int} : P x → IsExtreme values P (.int x)

/-- A truthful answer to a probe: one row, which can be read, and the least and the greatest value of the
    window under the two names, the least one in a column of integers. -/
structure Answers (settings : Settings) (frame : Frame) : Prop where
  oneRow : frame.height = 1
  readable : frame.unreadable? 0 = none
  least : ∃ c, frame.column? settings.minColumn = some c ∧ c.kind.isIntegral = true ∧
    IsExtreme t.values (IsLeast t.values) (firstValue c)
  greatest : ∃ c, frame.column? settings.maxColumn = some c ∧
    IsExtreme t.values (IsGreatest t.values) (firstValue c)

/-- The least and the greatest value of the window; without any value both are 0. -/
structure BoundedBy (min max : Int) : Prop where
  extremes : t.values.Nonempty → IsLeast t.values min ∧ IsGreatest t.values max
  blank : t.values = ∅ → min = 0 ∧ max = 0

end Table

/-! ## Bounds in an answer -/

/-- An integer in the first row of a sound frame of word columns has at most 128 bits. -/
theorem Probe.natAbs_firstValue_le {frame : Frame} (hsound : frame.IsSound)
    (hwords : ∀ c ∈ frame.columns, IsWordKind c.kind) {name : String} {c : Column}
    (hcolumn : frame.column? name = some c) {x : Int} (h : firstValue c = .int x) :
    x.natAbs ≤ 2 ^ 128 := by
  have hmem : c ∈ frame.columns := List.mem_of_find?_eq_some hcolumn
  have hword := isWord_firstValue (hsound c hmem) (hwords c hmem).isIntegral
  rw [h] at hword
  exact (hwords c hmem).natAbs_le hword

namespace Table

variable {Row : Type} {t : Table Row} {settings : Settings} {frame : Frame}

/-- No values lie between the bounds 0 and 0. -/
theorem boundedBy_blank (h : t.values = ∅) : t.BoundedBy 0 0 :=
  ⟨fun hsome => absurd h hsome.ne_empty, fun _ => ⟨rfl, rfl⟩⟩

/-- The extremes bound the values. -/
theorem boundedBy_extremes {m n : Int} (hm : IsLeast t.values m) (hn : IsGreatest t.values n) :
    t.BoundedBy m n :=
  ⟨fun _ => ⟨hm, hn⟩, fun hnone => absurd hnone (Set.nonempty_of_mem hm.1).ne_empty⟩

/-- All values lie between those that bound them. -/
theorem BoundedBy.between {min max x : Int} (h : t.BoundedBy min max) (hx : x ∈ t.values) :
    min ≤ x ∧ x ≤ max := by
  obtain ⟨hmin, hmax⟩ := h.extremes ⟨x, hx⟩
  exact ⟨hmin.2 hx, hmax.2 hx⟩

/-- A truthful answer has both columns, with nulls in them or with the values that bound the others. -/
theorem Answers.exists_bounds (h : t.Answers settings frame) :
    ∃ least greatest min max, HasBoth settings frame least greatest ∧ t.BoundedBy min max ∧
      ((firstValue least = .null ∨ firstValue greatest = .null) ∧ min = 0 ∧ max = 0 ∨
        firstValue least = .int min ∧ firstValue greatest = .int max) := by
  obtain ⟨least, hleast, hkind, hlow⟩ := h.least
  obtain ⟨greatest, hgreatest, hhigh⟩ := h.greatest
  have hrow : frame.height ≠ 0 := by
    rw [h.oneRow]
    decide
  have hboth : HasBoth settings frame least greatest := ⟨⟨hrow, hleast, hkind⟩, h.readable, hgreatest⟩
  -- the two columns are judged by themselves, so that a null may stand on one side alone
  generalize hx : firstValue least = x at hlow
  generalize hy : firstValue greatest = y at hhigh
  cases hlow with
  | none hnone =>
      exact ⟨least, greatest, 0, 0, hboth, boundedBy_blank hnone, .inl ⟨.inl hx, rfl, rfl⟩⟩
  | @some m hm =>
      cases hhigh with
      | none hnone =>
          exact ⟨least, greatest, 0, 0, hboth, boundedBy_blank hnone, .inl ⟨.inr hy, rfl, rfl⟩⟩
      | @some n hn => exact ⟨least, greatest, m, n, hboth, boundedBy_extremes hm hn, .inr ⟨hx, hy⟩⟩

/-- What bounds the values is found in a truthful answer if it can be told, and refused else. In columns of
    words it has at most 128 bits. -/
theorem Answers.exists_classified (h : t.Answers settings frame) (hsound : frame.IsSound) (column : String) :
    ∃ b : Bounds, t.BoundedBy b.min b.max ∧
      Classified settings column (.ok frame)
        (if isWritable b.min && isWritable b.max then .ok (.bounds b) else .error (.oversize {})) ∧
      ((∀ c ∈ frame.columns, IsWordKind c.kind) → b.min.natAbs ≤ 2 ^ 128 ∧ b.max.natAbs ≤ 2 ^ 128) := by
  obtain ⟨least, greatest, min, max, hboth, hbounded, ⟨hnull, rfl, rfl⟩ | ⟨hmin, hmax⟩⟩ := h.exists_bounds
  · refine ⟨⟨0, 0⟩, hbounded, ?_, fun _ => ⟨by decide, by decide⟩⟩
    rw [if_pos (by decide +kernel)]
    exact .null hboth hnull
  · refine ⟨⟨min, max⟩, hbounded, ?_, fun hwords =>
      ⟨natAbs_firstValue_le hsound hwords hboth.hasLeast hmin,
        natAbs_firstValue_le hsound hwords hboth.hasGreatest hmax⟩⟩
    have hfilled : firstValue greatest ≠ .null := by
      rw [hmax]
      exact Datum.noConfusion
    have hwritten : (firstValue greatest).isWritten = isWritable max := by
      rw [hmax, isWritten_int]
    split
    · rename_i hshort
      obtain ⟨hlow, hhigh⟩ := (Bool.and_eq_true _ _).mp hshort
      exact .bounds ⟨hboth, hmin, hfilled, hlow, hwritten.trans hhigh⟩ (by rw [hmax]; rfl)
    · rename_i hlong
      have hside := Bool.and_eq_false_iff.mp (Bool.eq_false_iff.mpr hlong)
      exact .oversize hboth hmin hfilled (hside.imp_right hwritten.trans)

end Table

/-! ## Sizes -/

namespace Chunking

variable {c : Chunking}

/-- Between ends that can be written the ends of all ranges can. -/
theorem isWritable_ends (hmin : isWritable c.min = true) (hmax : isWritable c.max = true) :
    ∀ r ∈ SplitRange.cut c.width c.min c.max,
      isWritable r.lower = true ∧ isWritable r.upper = true := by
  intro r hr
  have hends := (Tiling.of_cut c.one_le_width c.min c.max).ends_between c.one_le_width r hr
  rcases Nat.le_total c.min.natAbs c.max.natAbs with hle | hle
  · exact ⟨isWritable_of_natAbs_le (by omega) hmax, isWritable_of_natAbs_le (by omega) hmax⟩
  · exact ⟨isWritable_of_natAbs_le (by omega) hmin, isWritable_of_natAbs_le (by omega) hmin⟩

/-- Between ends of at most 128 bits the width can be written. -/
theorem isWritable_width (hmin : c.min.natAbs ≤ 2 ^ 128) (hmax : c.max.natAbs ≤ 2 ^ 128) :
    isWritable c.width = true := by
  have hmul : (2 ^ 130 : Int) ≤ 2 ^ 130 * c.parallelism :=
    le_mul_of_one_le_right (by decide) c.parallelism_pos
  have hwidth : c.width ≤ 2 ^ 130 := c.width_le_of_span_le (by decide) (by omega)
  have hpos := c.one_le_width
  exact isWritable_of_le_two_pow (by omega)

end Chunking

/-! ## Builds without a limit -/

namespace ExportSpec

variable {settings : Settings} {s : ExportSpec} {plan : SplitPlan} {condition : String} {e : Executor}
  {b : Bounds}

/-- What is told of the chunking between bounds. -/
theorem isWritten_chunkingOf : (chunkingOf plan b).isWritten =
    (isWritable plan.parallelism && (isWritable b.min && isWritable b.max)) :=
  Bool.and_assoc (isWritable plan.parallelism) (isWritable b.min) (isWritable b.max)

/-- Bounds that can be told lead to the queries of their ranges, if parallelism and width can be written. -/
theorem build_eq_queries (hplan : splitPlan s.splitColumn s.parallelism = .ok (some plan))
    (hlimit : s.limit = none) (hcondition : s.partitionCondition = .ok condition)
    (hrun : (Probe.run settings e s.base condition plan.column).outcome =
      if isWritable b.min && isWritable b.max then .ok (.bounds b) else .error (.oversize {}))
    (hwritten : (chunkingOf plan b).isWritten = true) (hwidth : isWritable (chunkingOf plan b).width = true) :
    (s.build settings (some e)).result =
      .ok ((SplitRange.cut (chunkingOf plan b).width b.min b.max).map
        (queryForRange plan.column s.base.text condition "")) := by
  rw [isWritten_chunkingOf] at hwritten
  obtain ⟨hstart, hsides⟩ := (Bool.and_eq_true _ _).mp hwritten
  obtain ⟨hmin, hmax⟩ := (Bool.and_eq_true _ _).mp hsides
  rw [if_pos hsides] at hrun
  rw [build_eq_buildSplit hplan hstart hcondition, buildSplit_of_bounds hrun]
  exact splitQueries_eq_ok.mpr ⟨"", _, shareCondition_unlimited hlimit _,
    Chunking.ranges_eq_ok_iff.mpr ⟨hwidth, rfl⟩,
    Chunking.isWritable_ends (c := chunkingOf plan b) hmin hmax, rfl⟩

/-- Parallelism, bounds or a width that cannot be written are a wrong value. -/
theorem build_refuses_unwritten (hplan : splitPlan s.splitColumn s.parallelism = .ok (some plan))
    (hlimit : s.limit = none) (hcondition : s.partitionCondition = .ok condition)
    (hrun : (Probe.run settings e s.base condition plan.column).outcome =
      if isWritable b.min && isWritable b.max then .ok (.bounds b) else .error (.oversize {}))
    (hlong : ((chunkingOf plan b).isWritten && isWritable (chunkingOf plan b).width) = false) :
    ∃ cause, (s.build settings (some e)).result = .error cause ∧ cause.kind = "ValueError" := by
  cases hstart : isWritable plan.parallelism with
  | false =>
      rw [build_of_unwritten ((isWritten_started_of_plan hplan).trans hstart)]
      exact ⟨_, rfl, rfl⟩
  | true =>
      rw [build_eq_buildSplit hplan hstart hcondition]
      cases hsides : isWritable b.min && isWritable b.max with
      | false =>
          rw [hsides] at hrun
          rw [buildSplit_of_fault hrun]
          exact ⟨_, rfl, rfl⟩
      | true =>
          rw [hsides] at hrun
          have hwidth : isWritable (chunkingOf plan b).width = false := by
            rw [isWritten_chunkingOf, hstart, hsides, Bool.true_and, Bool.true_and] at hlong
            exact hlong
          have hranges : (chunkingOf plan b).ranges = .error (.oversize {}) := by
            rw [Chunking.ranges_eq, hwidth, if_neg Bool.false_ne_true]
          rw [buildSplit_of_bounds hrun,
            splitQueries_of_refused (shareCondition_unlimited hlimit _) hranges]
          exact ⟨_, rfl, rfl⟩

end ExportSpec

/-! ## Selection -/

namespace Table

variable {Row : Type} {t : Table Row} {column base condition : String}

/-- The query of a range gives the rows of the window whose value lies in the range. -/
theorem selects_queryForRange_iff {r : SplitRange} {row : Row} :
    t.Selects (base ++ condition) column (queryForRange column base condition "" r) row ↔
      t.InWindow row ∧ ∃ x, t.value row = some x ∧ r.Contains x := by
  have htext : queryForRange column base condition "" r = base ++ condition ++ rangeClause column r := by
    rw [queryForRange, assemble, String.append_empty]
  constructor
  · rintro ⟨hwindow, filter, x, hquery, hx, hholds⟩
    obtain rfl : rangeClause column r = filter := (String.append_right_inj _).mp (htext.symm.trans hquery)
    exact ⟨hwindow, x, hx, (filterHolds_rangeClause_iff column r x).mp hholds⟩
  · rintro ⟨hwindow, x, hx, hcontains⟩
    exact ⟨hwindow, _, x, htext, hx, (filterHolds_rangeClause_iff column r x).mpr hcontains⟩

/-- Ranges that take each value of the window once make queries that give each row once. -/
theorem exportedOnce_of_countP {ranges : List SplitRange}
    (h : ∀ x ∈ t.values, ranges.countP (fun r => r.Contains x) = 1) :
    t.ExportedOnce (base ++ condition) column (ranges.map (queryForRange column base condition "")) := by
  intro row hrow
  rw [List.countP_map]
  split
  · rename_i hselected
    obtain ⟨hwindow, hsome⟩ := hselected
    obtain ⟨x, hx⟩ := Option.isSome_iff_exists.mp hsome
    rw [← h x ⟨row, hrow, hwindow, hx⟩]
    refine List.countP_congr fun r _ => ?_
    simp [selects_queryForRange_iff, hwindow, hx]
  · rename_i hother
    refine List.countP_eq_zero.mpr fun r _ => ?_
    simp only [Function.comp_apply, decide_eq_true_eq, selects_queryForRange_iff]
    rintro ⟨hwindow, x, hx, -⟩
    exact hother ⟨hwindow, Option.isSome_iff_exists.mpr ⟨x, hx⟩⟩

end Table

/-! ## Main result -/

/-- **A split export reads every row once, if what it writes is not too long.** Where the condition of the
    partition can be made and the probe is answered truthfully, the least and the greatest value of the
    window are what is divided. If these, the parallelism and the width of the ranges can be written, a
    build gives queries, at least one, and each row of the window that has a split value is given by one of
    them, and no other row by any; if there is no such row, the one query is that of the range from 0 to 0.
    If one of them cannot be written, there are no queries but a wrong value. In an answer of words nothing
    but the parallelism can be too long. -/
theorem split_export_reads_each_row_once {Row : Type} (t : Table Row) (settings : Settings)
    (s : ExportSpec) (e : Executor) {column condition : String} {parallelism : Int} {frame : Frame}
    (hcolumn : s.splitColumn = some column) (hparallelism : s.parallelism = some parallelism)
    (hpos : 0 < parallelism) (hlimit : s.limit = none)
    (hcondition : s.partitionCondition = .ok condition)
    (hexecute : (e.execute (Probe.query settings s.base column condition)).1 = .ok frame)
    (hanswer : t.Answers settings frame) :
    ∃ c : Chunking, c.parallelism = parallelism ∧ t.BoundedBy c.min c.max ∧
      (c.isWritten = true → isWritable c.width = true →
        ∃ queries, (s.build settings (some e)).result = .ok queries ∧ queries ≠ [] ∧
          t.ExportedOnce (s.base.text ++ condition) column queries ∧
          (t.values = ∅ → queries = [s.base.text ++ condition ++ rangeClause column ⟨0, 0, true⟩])) ∧
      ((c.isWritten && isWritable c.width) = false →
        ∃ cause, (s.build settings (some e)).result = .error cause ∧ cause.kind = "ValueError") ∧
      ((∀ d ∈ frame.columns, IsWordKind d.kind) →
        c.isWritten = isWritable parallelism ∧ isWritable c.width = true) := by
  obtain ⟨b, hbounded, hclassified, hwords⟩ :=
    hanswer.exists_classified (e.isSound_execute _ frame hexecute) column
  have hplan : splitPlan s.splitColumn s.parallelism = .ok (some ⟨column, parallelism, hpos⟩) := by
    rw [hcolumn, hparallelism, splitPlan_eq_plan hpos]
  rw [← hexecute] at hclassified
  have hrun := run_of_classified hclassified
  refine ⟨ExportSpec.chunkingOf ⟨column, parallelism, hpos⟩ b, rfl, hbounded, fun hwritten hwidth => ?_,
    ExportSpec.build_refuses_unwritten hplan hlimit hcondition hrun, fun hkinds => ?_⟩
  · have hbuild := ExportSpec.build_eq_queries hplan hlimit hcondition hrun hwritten hwidth
    have hpositive := (ExportSpec.chunkingOf ⟨column, parallelism, hpos⟩ b).one_le_width
    generalize (ExportSpec.chunkingOf ⟨column, parallelism, hpos⟩ b).width = width at hbuild hpositive
    have tiling := Tiling.of_cut hpositive b.min b.max
    refine ⟨_, hbuild, ?_, Table.exportedOnce_of_countP fun x hx => ?_, fun hnone => ?_⟩
    · obtain ⟨r, rest, hcut, -⟩ := tiling.exists_cons
      rw [hcut]
      exact List.cons_ne_nil _ _
    · rw [tiling.countP_contains hpositive]
      exact if_pos (hbounded.between hx)
    · obtain ⟨hmin, hmax⟩ := hbounded.blank hnone
      have hdone : ¬(0 < width ∧ (0 : Int) + width < 0) := by omega
      rw [hmin, hmax, SplitRange.cut, if_neg hdone, List.map_singleton, queryForRange, assemble,
        String.append_empty]
  · obtain ⟨hmin, hmax⟩ := hwords hkinds
    refine ⟨?_, Chunking.isWritable_width hmin hmax⟩
    rw [ExportSpec.isWritten_chunkingOf, isWritable_of_le_two_pow (i := b.min) (by omega),
      isWritable_of_le_two_pow (i := b.max) (by omega)]
    exact Bool.and_true _

/-- Rows that are their split values: one occurs twice, one has none, and 9 lies outside the window. -/
def sampleTable : Table (Option Int) where
  rows := {some 4, some 1, none, some 4, some 9}
  value := id
  InWindow row := row ≠ some 9

/-- The bounds 1 and 4 are a truthful answer for that table. -/
theorem sampleTable_answers : sampleTable.Answers {}
    ⟨[⟨"min_s", .signed 64, [.int 1]⟩, ⟨"max_s", .signed 64, [.int 4]⟩]⟩ := by
  have hvalues : ∀ x ∈ sampleTable.values, x = 4 ∨ x = 1 := by
    rintro x ⟨row, hrow, hwindow, hx⟩
    obtain rfl : row = some x := hx
    have hlisted : x = 4 ∨ x = 1 ∨ x = 4 ∨ x = 9 := by simpa [sampleTable] using hrow
    have hinside : x ≠ 9 := fun h => hwindow (congrArg some h)
    omega
  refine ⟨rfl, rfl, ⟨_, rfl, rfl, .some ⟨?_, ?_⟩⟩, ⟨_, rfl, .some ⟨?_, ?_⟩⟩⟩
  · exact ⟨some 1, by decide, by simp [sampleTable], rfl⟩
  · intro x hx
    have := hvalues x hx
    omega
  · exact ⟨some 4, by decide, by simp [sampleTable], rfl⟩
  · intro x hx
    have := hvalues x hx
    omega

/-- A day of a table without a limit is exported once, as its source answers with 1 and 4. -/
theorem usersExport_reads_each_row_once :
    ∃ queries, ({ usersExport with limit := none }.build {} (some oneToFour)).result = .ok queries ∧
      queries ≠ [] ∧ sampleTable.ExportedOnce usersSource "id" queries := by
  have hcondition : { usersExport with limit := none }.partitionCondition =
      .ok " AND created >= '2027-01-01' AND created < '2027-01-02'" := partitionCondition_usersExport
  obtain ⟨c, hparallelism, -, hqueries, -, hwords⟩ :=
    split_export_reads_each_row_once sampleTable {} { usersExport with limit := none } oneToFour rfl rfl
      (by decide) rfl hcondition rfl sampleTable_answers
  obtain ⟨hwritten, hwidth⟩ := hwords fun d hd => by
    rcases List.mem_pair.mp hd with rfl | rfl <;> exact .signed (by decide)
  obtain ⟨queries, hbuild, hnonempty, honce, -⟩ := hqueries (hwritten.trans (by decide +kernel)) hwidth
  refine ⟨queries, hbuild, hnonempty, ?_⟩
  have hsource : usersSource = "SELECT * FROM users WHERE 1=1" ++
      " AND created >= '2027-01-01' AND created < '2027-01-02'" := by decide +kernel
  rw [hsource]
  exact honce

/-- Rows with the values -1 and another. -/
def distantTable (n : Nat) : Table Int where
  rows := {-1, (n : Int)}
  value := some
  InWindow _ := True

/-- The answer for these, with the greatest value in a column of any objects. -/
def distantAnswer (n : Nat) : Frame :=
  ⟨[⟨"min_s", .signed 64, [.int (-1)]⟩, ⟨"max_s", .object, [.int n]⟩]⟩

/-- A source that answers so. -/
def distantSource (n : Nat) : Executor :=
  .direct { replies := [.columns [
    ⟨.text "min_s", .signed 64, [.int (-1)]⟩, ⟨.text "max_s", .object, [.int n]⟩]] }

/-- That is a truthful answer. -/
theorem distantTable_answers (n : Nat) : (distantTable n).Answers {} (distantAnswer n) := by
  have hvalues : ∀ x ∈ (distantTable n).values, x = -1 ∨ x = n := by
    rintro x ⟨row, hrow, -, hx⟩
    obtain rfl : row = x := Option.some.inj hx
    simpa [distantTable] using hrow
  refine ⟨rfl, rfl, ⟨_, rfl, rfl, .some ⟨?_, ?_⟩⟩, ⟨_, rfl, .some ⟨?_, ?_⟩⟩⟩
  · exact ⟨-1, by simp [distantTable], trivial, rfl⟩
  · intro x hx
    have := hvalues x hx
    omega
  · exact ⟨n, by simp [distantTable], trivial, rfl⟩
  · intro x hx
    have := hvalues x hx
    omega

/-- A day of a table without a limit, and with another parallelism. -/
def unlimitedExport (parallelism : Int) : ExportSpec :=
  { usersExport with limit := none, parallelism := some parallelism }

/-- The plan of such an export in one query. -/
def singlePlan : SplitPlan :=
  ⟨"id", 1, Int.one_pos⟩

/-- **What is too long to be told is not exported**: the sample with a parallelism of 4301 digits, and two
    rows that lie so far apart. -/
theorem overlong_numbers_export_no_row :
    sampleTable.Answers {} ⟨[⟨"min_s", .signed 64, [.int 1]⟩, ⟨"max_s", .signed 64, [.int 4]⟩]⟩ ∧
      ((unlimitedExport (Nat.pow 10 digitLimit : Nat)).build {} (some oneToFour)).result =
        .error (.start {}) ∧
      (distantTable (Nat.pow 10 digitLimit - 1)).Answers {} (distantAnswer (Nat.pow 10 digitLimit - 1)) ∧
      ((unlimitedExport 1).build {} (some (distantSource (Nat.pow 10 digitLimit - 1)))).result =
        .error (.chunking (.oversize {})) := by
  refine ⟨sampleTable_answers, ?_, distantTable_answers _, ?_⟩
  · have hstart : (unlimitedExport (Nat.pow 10 digitLimit : Nat)).started.isWritten = false := by
      rw [ExportSpec.isWritten_started, unlimitedExport, Option.all_some, isWritable_pow_digitLimit]
    rw [ExportSpec.build_of_unwritten hstart, BuildRun.result_finish]
  · have hlarge := one_lt_pow_digitLimit
    have hgreatest : isWritable (Nat.pow 10 digitLimit - 1 : Nat) = true := isWritable_natCast.mpr (by omega)
    have hspan : (Nat.pow 10 digitLimit : Int) ≤ (Nat.pow 10 digitLimit - 1 : Nat) - (-1) := by omega
    generalize Nat.pow 10 digitLimit - 1 = n at hgreatest hspan ⊢
    have hplan : splitPlan (unlimitedExport 1).splitColumn (unlimitedExport 1).parallelism =
        .ok (some singlePlan) := splitPlan_eq_plan _
    have hcondition : (unlimitedExport 1).partitionCondition =
        .ok " AND created >= '2027-01-01' AND created < '2027-01-02'" := partitionCondition_usersExport
    have hshown : ShowsBounds {} (distantAnswer n) ⟨-1, n⟩ :=
      ⟨Nat.one_ne_zero, rfl, _, _, rfl, rfl, rfl,
        .integers rfl rfl (by decide +kernel) ((isWritten_int _).trans hgreatest) rfl rfl⟩
    have hrun : (Probe.run {} (distantSource n) (unlimitedExport 1).base
        " AND created >= '2027-01-01' AND created < '2027-01-02'" singlePlan.column).outcome =
        .ok (.bounds ⟨-1, n⟩) :=
      Probe.run_eq_bounds_iff.mpr ⟨distantAnswer n, rfl, hshown⟩
    have hshare : (unlimitedExport 1).shareCondition singlePlan.parallelism = .ok "" :=
      ExportSpec.shareCondition_unlimited rfl _
    have hranges : (ExportSpec.chunkingOf singlePlan ⟨-1, n⟩).ranges = .error (.oversize {}) :=
      Chunking.ranges_undivided_long _ rfl hspan
    rw [ExportSpec.build_eq_buildSplit hplan (by decide +kernel) hcondition,
      ExportSpec.buildSplit_of_bounds hrun, ExportSpec.splitQueries_of_refused hshare hranges]

end SplitExport
