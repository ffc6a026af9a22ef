import Mathlib.Data.List.Forall2
import SplitExport.Proofs.Building
import SplitExport.Proofs.RangeLayout

/-!
# Shares — the queries of a split export stay within its limit together

Each query of a split export is limited to the same share, the limit over the parallelism, rounded down.

* As many shares as the parallelism says stay within the limit, and leave less of it than the parallelism
  (`share_mul_bounds`).
* There are no more queries than that, since the width of the ranges is rounded up
  (`ExportSpec.SplitsInto.length_le_parallelism`).
* `Sql.RespectsLimit` says what a source owes to a query that ends in a limit. Sources that respect the
  limits of some queries give no more rows together than there are shares (`Sql.length_flatten_le`).

Both roundings go the safe way: fewer ranges, and smaller shares.
-/

namespace SplitExport

open SplitExport.Number SplitExport.Sql SplitExport.Text

/-! ## Shares -/

/-- Shares that are rounded down stay within what is shared out, and leave less than one for each. -/
theorem share_mul_bounds (limit : Int) {parallelism : Int} (h : 0 < parallelism) :
    parallelism * (limit / parallelism) ≤ limit ∧
      limit - parallelism < parallelism * (limit / parallelism) := by
  have hbelow := Int.mul_ediv_self_le (x := limit) (Int.ne_of_gt h)
  have habove := Int.lt_mul_ediv_self_add (x := limit) h
  exact ⟨hbelow, by omega⟩

/-- Fewer shares than there may be stay within what is shared out. -/
theorem count_mul_share_le {limit parallelism count : Int} (h : 0 < parallelism) (hlimit : 0 ≤ limit)
    (hcount : count ≤ parallelism) : count * (limit / parallelism) ≤ limit :=
  calc count * (limit / parallelism)
    _ ≤ parallelism * (limit / parallelism) :=
        Int.mul_le_mul_of_nonneg_right hcount (Int.ediv_nonneg hlimit (Int.le_of_lt h))
    _ ≤ limit := (share_mul_bounds limit h).1

/-! ## Limited queries -/

namespace Sql

/-- A source gives no more rows for a query than the limit says that the query ends in. -/
def RespectsLimit {Row : Type} (query : String) (rows : List Row) : Prop :=
  ∀ front limit, query = front ++ (" LIMIT " ++ intText limit) → (rows.length : Int) ≤ limit

/-- Sources that respect one limit in several queries give at most so many rows for each of them. -/
theorem length_flatten_le {Row : Type} {limit : Int} {queries : List String} {answers : List (List Row)}
    (hqueries : ∀ query ∈ queries, ∃ front, query = front ++ (" LIMIT " ++ intText limit))
    (hanswers : List.Forall₂ RespectsLimit queries answers) :
    (answers.flatten.length : Int) ≤ queries.length * limit := by
  induction hanswers with
  | nil => simp
  | @cons query rows queries answers hrows _ ih =>
      obtain ⟨front, hfront⟩ := hqueries query List.mem_cons_self
      have hfirst : (rows.length : Int) ≤ limit := hrows front limit hfront
      have hrest := ih fun other hother => hqueries other (List.mem_cons_of_mem _ hother)
      rw [List.flatten_cons, List.length_append, List.length_cons, Nat.cast_add, Nat.cast_succ, Int.add_mul,
        Int.one_mul]
      omega

end Sql

/-! ## Builds -/

namespace ExportSpec

variable {settings : Settings} {s : ExportSpec} {plan : SplitPlan} {condition : String} {e : Executor}
  {frame : Frame} {b : Probe.Bounds} {share : String} {ranges : List SplitRange} {queries : List String}

/-- A build with a split gives no more queries than its parallelism says. -/
theorem SplitsInto.length_le_parallelism
    (h : s.SplitsInto settings plan condition e frame b share ranges queries) :
    (queries.length : Int) ≤ plan.parallelism := by
  rw [h.written, List.length_map]
  exact (Chunking.length_of_ranges_eq_ok h.divided).2

/-- The queries of a build with a split end in the share of the limit. -/
theorem SplitsInto.exists_front (h : s.SplitsInto settings plan condition e frame b share ranges queries)
    {limit : Int} (hlimit : s.limit = some limit) :
    ∀ query ∈ queries, ∃ front,
      query = front ++ (" LIMIT " ++ intText (limit / plan.parallelism)) := by
  have hshare := h.shared
  rw [shareCondition_of_limit hlimit, limitClause_eq_ok,
    Int.fdiv_eq_ediv_of_nonneg limit (Int.le_of_lt plan.parallelism_pos)] at hshare
  rw [h.written, hshare.2]
  intro query hquery
  obtain ⟨r, -, rfl⟩ := List.mem_map.mp hquery
  exact ⟨_, rfl⟩

end ExportSpec

/-! ## Main result -/

/-- **A split export stays within its limit.** Where a build with a split and a limit gives queries, all
    of them end in one share of the limit. As many shares as there are queries stay within the limit, and
    so do the rows that any sources give for the queries, one source or several, if they respect the limits
    that the queries end in. If there are as many queries as the parallelism says, their shares leave less
    of the limit than the parallelism. -/
theorem split_export_stays_within_limit {settings : Settings} {s : ExportSpec} {executor : Option Executor}
    {column : String} {parallelism limit : Int} {queries : List String}
    (hcolumn : s.splitColumn = some column) (hparallelism : s.parallelism = some parallelism)
    (hlimit : s.limit = some limit) (hnonneg : 0 ≤ limit)
    (hbuild : (s.build settings executor).result = .ok queries) :
    ∃ share : Int, 0 ≤ share ∧
      (∀ query ∈ queries, ∃ front, query = front ++ (" LIMIT " ++ intText share)) ∧
      queries.length * share ≤ limit ∧
      (∀ (Row : Type) (answers : List (List Row)), List.Forall₂ RespectsLimit queries answers →
        (answers.flatten.length : Int) ≤ limit) ∧
      (queries.length = parallelism → limit - parallelism < parallelism * share) := by
  obtain ⟨hpos, hplan⟩ := s.exists_plan_of_build_eq_ok hcolumn hparallelism hbuild
  obtain ⟨e, condition, frame, b, share, ranges, rfl, hsplits⟩ := (ExportSpec.build_eq_ok_iff hplan).mp hbuild
  have hfronts := hsplits.exists_front hlimit
  have hwithin := count_mul_share_le hpos hnonneg hsplits.length_le_parallelism
  refine ⟨limit / parallelism, Int.ediv_nonneg hnonneg (Int.le_of_lt hpos), hfronts, hwithin, ?_,
    fun _ => (share_mul_bounds limit hpos).2⟩
  intro Row answers hanswers
  exact (length_flatten_le hfronts hanswers).trans hwithin

/-- Three queries of at most three rows each: nine of ten rows. -/
theorem usersExport_stays_within_limit : ∃ queries share,
    (usersExport.build {} (some oneToFour)).result = .ok queries ∧ queries.length = 3 ∧
      (∀ query ∈ queries, ∃ front, query = front ++ (" LIMIT " ++ intText share)) ∧
      3 * share ≤ 10 ∧ 10 - 3 < 3 * share := by
  have hbuild : (usersExport.build {} (some oneToFour)).result =
      .ok [usersSource ++ " AND id >= 1 AND id < 2 LIMIT 3",
        usersSource ++ " AND id >= 2 AND id < 3 LIMIT 3",
        usersSource ++ " AND id >= 3 AND id <= 4 LIMIT 3"] := by decide +kernel
  obtain ⟨share, -, hends, hwithin, -, hleft⟩ :=
    split_export_stays_within_limit rfl rfl rfl (by decide) hbuild
  exact ⟨_, share, hbuild, rfl, hends, hwithin, hleft rfl⟩

end SplitExport
