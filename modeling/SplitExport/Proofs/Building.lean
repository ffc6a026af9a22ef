import SplitExport.Proofs.Digits
import SplitExport.Proofs.Probing
import SplitExport.Spec.Build

/-!
# Building — one row source for the probe and the queries of an export

What a build of an export comes to, in as few equations as it has ends:

* split arguments make a plan, and a plan is a column with a positive parallelism;
* `SplitsInto` says of a specification, an executor and queries all that a build with a split goes
  through: the condition, the answer to the one statement, the bounds in it, their ranges, and a query for
  each;
* a build with a split gives queries if and only if it goes through that, and a build without a split
  gives one query.

All texts start from the base query and the condition of the partition, so that the probe and the queries
read the same rows.
-/

namespace SplitExport

open SplitExport.Number SplitExport.Partition SplitExport.Probe SplitExport.Results SplitExport.Sql
open SplitExport.Text

/-! ## Plans -/

/-- A column and a parallelism that is positive make a plan. -/
theorem splitPlan_eq_plan {column : String} {parallelism : Int} (h : 0 < parallelism) :
    splitPlan (some column) (some parallelism) = .ok (some ⟨column, parallelism, h⟩) := by
  rw [splitPlan, dif_pos h]

/-- A plan is a column and a parallelism. -/
theorem splitPlan_eq_ok_some {column : Option String} {parallelism : Option Int} {plan : SplitPlan}
    (h : splitPlan column parallelism = .ok (some plan)) :
    column = some plan.column ∧ parallelism = some plan.parallelism := by
  unfold splitPlan at h
  split at h
  · exact nomatch h
  · exact nomatch h
  · exact nomatch h
  · split at h
    · obtain rfl := Option.some.inj (Except.ok.inj h)
      exact ⟨rfl, rfl⟩
    · exact nomatch h

/-! ## Queries -/

namespace Sql

/-- There is a query for each range if the ends of all can be written, and else none. -/
theorem queriesForRanges_eq_ok {column base partition limit : String} {ranges : List SplitRange}
    {queries : List String} :
    queriesForRanges column base partition limit ranges = .ok queries ↔
      (∀ r ∈ ranges, isWritable r.lower = true ∧ isWritable r.upper = true) ∧
        queries = ranges.map (queryForRange column base partition limit) := by
  unfold queriesForRanges
  simp only [List.all_eq_true, Bool.and_eq_true]
  split
  · rename_i hall
    constructor
    · intro h
      exact ⟨hall, (Except.ok.inj h).symm⟩
    · rintro ⟨-, rfl⟩
      rfl
  · rename_i hall
    exact ⟨fun h => (nomatch h), fun h => absurd h.1 hall⟩

/-- The clause of a limit writes the limit, if that can be done. -/
theorem limitClause_eq_ok {limit : Int} {clause : String} :
    limitClause limit = .ok clause ↔ isWritable limit = true ∧ clause = " LIMIT " ++ intText limit := by
  unfold limitClause
  exact ite_eq_ok

end Sql

/-- The result of a build that is finished is the one it is finished with. -/
@[simp] theorem BuildRun.result_finish (events : List Log.Event) (executor : Option Executor)
    (result : Except BuildError (List String)) : (finish events executor result).result = result :=
  rfl

namespace ExportSpec

variable {settings : Settings} {s : ExportSpec} {plan : SplitPlan} {condition : String}
  {executor : Option Executor} {queries : List String}

/-- Without a limit there is no share of it. -/
theorem shareCondition_unlimited (hlimit : s.limit = none) (parallelism : Int) :
    s.shareCondition parallelism = .ok "" := by
  rw [shareCondition, hlimit, Option.elim_none]

/-- With a limit, its share is its clause over the parallelism. -/
theorem shareCondition_of_limit {limit parallelism : Int} (hlimit : s.limit = some limit) :
    s.shareCondition parallelism = limitClause (limit.fdiv parallelism) := by
  rw [shareCondition, hlimit, Option.elim_some]

/-- The share of the limit that each of several queries ends in: none without a limit, and else the limit
    over the parallelism, if that can be written. -/
theorem shareCondition_eq_ok {parallelism : Int} {share : String} :
    s.shareCondition parallelism = .ok share ↔
      s.limit.all (fun n => isWritable (n.fdiv parallelism)) = true ∧
        share = s.limit.elim "" fun n => " LIMIT " ++ intText (n.fdiv parallelism) := by
  cases hlimit : s.limit with
  | none =>
      rw [shareCondition_unlimited hlimit]
      exact ⟨fun h => ⟨rfl, (Except.ok.inj h).symm⟩, fun h => congrArg Except.ok h.2.symm⟩
  | some n =>
      rw [shareCondition_of_limit hlimit, Option.all_some, Option.elim_some]
      exact limitClause_eq_ok

/-- A share with too many digits is refused. -/
theorem shareCondition_eq_error {parallelism : Int}
    (h : s.limit.all (fun n => isWritable (n.fdiv parallelism)) = false) :
    s.shareCondition parallelism = .error {} := by
  cases hlimit : s.limit with
  | none =>
      rw [hlimit] at h
      exact nomatch h
  | some n =>
      rw [hlimit, Option.all_some] at h
      rw [shareCondition_of_limit hlimit, limitClause, if_neg (Bool.eq_false_iff.mp h)]

/-- The one query of an export that is not split ends in its limit, if that can be written. -/
theorem wholeQueries_eq (s : ExportSpec) (condition : String) :
    s.wholeQueries condition =
      if s.limit.all isWritable then
        .ok [s.base.text ++ condition ++ s.limit.elim "" fun n => " LIMIT " ++ intText n]
      else .error (.limit {}) := by
  unfold wholeQueries limitCondition
  cases s.limit with
  | none =>
      rw [Option.elim_none, Except.map, assemble, String.append_empty]
      rfl
  | some n =>
      rw [Option.elim_some, limitClause, Option.all_some]
      split
      · rw [Except.map, assemble, String.append_empty]
        rfl
      · rfl

/-- The queries between bounds: the share of the limit and the ends of the ranges of the chunking can be
    written, and there is a query for each range. -/
theorem splitQueries_eq_ok {b : Bounds} :
    (s.splitQueries plan condition b).2 = .ok queries ↔
      ∃ share ranges, s.shareCondition plan.parallelism = .ok share ∧
        (chunkingOf plan b).ranges = .ok ranges ∧
        (∀ r ∈ ranges, isWritable r.lower = true ∧ isWritable r.upper = true) ∧
        queries = ranges.map (queryForRange plan.column s.base.text condition share) := by
  unfold splitQueries
  dsimp only
  split
  · rename_i e hshare
    rw [hshare]
    exact ⟨fun h => (nomatch h), fun ⟨_, _, h, _⟩ => nomatch h⟩
  · rename_i share e hshare hranges
    rw [hranges]
    exact ⟨fun h => (nomatch h), fun ⟨_, _, _, h, _⟩ => nomatch h⟩
  · rename_i share ranges hshare hranges
    rw [hshare, hranges]
    dsimp only
    rw [mapError_eq_ok, queriesForRanges_eq_ok]
    constructor
    · intro h
      exact ⟨share, ranges, rfl, rfl, h⟩
    · rintro ⟨share', ranges', hshare', hranges', hqueries⟩
      obtain rfl := Except.ok.inj hshare'
      obtain rfl := Except.ok.inj hranges'
      exact hqueries

/-- Ranges that are refused are the cause that there are no queries, if the share can be written. -/
theorem splitQueries_of_refused {b : Bounds} {share : String} {cause : ChunkingError}
    (hshare : s.shareCondition plan.parallelism = .ok share)
    (hranges : (chunkingOf plan b).ranges = .error cause) :
    s.splitQueries plan condition b = ([], .error (.chunking cause)) := by
  unfold splitQueries
  dsimp only
  rw [hshare, hranges]

/-! ## Builds -/

/-- What a build with a split goes through. -/
structure SplitsInto (settings : Settings) (s : ExportSpec) (plan : SplitPlan) (condition : String)
    (e : Executor) (frame : Frame) (b : Bounds) (share : String) (ranges : List SplitRange)
    (queries : List String) : Prop where
  started : isWritable plan.parallelism = true
  conditioned : s.partitionCondition = .ok condition
  answered : (e.execute (Probe.query settings s.base plan.column condition)).1 = .ok frame
  shown : ShowsBounds settings frame b
  shared : s.shareCondition plan.parallelism = .ok share
  divided : (chunkingOf plan b).ranges = .ok ranges
  writable : ∀ r ∈ ranges, isWritable r.lower = true ∧ isWritable r.upper = true
  written : queries = ranges.map (queryForRange plan.column s.base.text condition share)

/-- A fault of its probe ends a build with a split. -/
theorem buildSplit_of_fault {started : Log.Event} {e : Executor} {cause : ProbeFault}
    (hrun : (Probe.run settings e s.base condition plan.column).outcome = .error cause) :
    (s.buildSplit settings plan condition started e).result = .error (.answer cause) := by
  unfold buildSplit
  dsimp only
  rw [hrun]
  rfl

/-- A failure of its probe ends a build with a split, too. -/
theorem buildSplit_of_failure {started : Log.Event} {e : Executor} {cause : Failure}
    (hrun : (Probe.run settings e s.base condition plan.column).outcome = .ok (.failure cause)) :
    (s.buildSplit settings plan condition started e).result = .error (.probe cause) := by
  unfold buildSplit
  dsimp only
  rw [hrun]
  rfl

/-- Bounds that its probe finds lead a build with a split to the queries between them. -/
theorem buildSplit_of_bounds {started : Log.Event} {e : Executor} {b : Bounds}
    (hrun : (Probe.run settings e s.base condition plan.column).outcome = .ok (.bounds b)) :
    (s.buildSplit settings plan condition started e).result = (s.splitQueries plan condition b).2 := by
  unfold buildSplit
  dsimp only
  rw [hrun]
  rfl

/-- The queries of a build with a split are those between the bounds that its probe finds. -/
theorem buildSplit_eq_ok {started : Log.Event} {e : Executor} :
    (s.buildSplit settings plan condition started e).result = .ok queries ↔
      ∃ b, (Probe.run settings e s.base condition plan.column).outcome = .ok (.bounds b) ∧
        (s.splitQueries plan condition b).2 = .ok queries := by
  constructor
  · intro h
    cases hrun : (Probe.run settings e s.base condition plan.column).outcome with
    | error fault =>
        rw [buildSplit_of_fault hrun] at h
        exact nomatch h
    | ok outcome =>
        cases outcome with
        | failure cause =>
            rw [buildSplit_of_failure hrun] at h
            exact nomatch h
        | bounds b =>
            rw [buildSplit_of_bounds hrun] at h
            exact ⟨b, rfl, h⟩
  · rintro ⟨b, hrun, h⟩
    rw [buildSplit_of_bounds hrun]
    exact h

/-- A build with a split leaves the executor that ran the statement of its probe. -/
theorem buildSplit_executor {started : Log.Event} {e : Executor} :
    (s.buildSplit settings plan condition started e).executor =
      some (e.execute (Probe.query settings s.base plan.column condition)).2 := by
  rw [← Probe.run_executor]
  unfold buildSplit
  dsimp only
  split
  · rfl
  · split <;> rfl

/-- The start of a build is told unless its parallelism has too many digits. -/
theorem isWritten_started (s : ExportSpec) : s.started.isWritten = s.parallelism.all isWritable :=
  rfl

/-- The start of a build with a plan is told if the parallelism of the plan can be written. -/
theorem isWritten_started_of_plan (hplan : splitPlan s.splitColumn s.parallelism = .ok (some plan)) :
    s.started.isWritten = isWritable plan.parallelism := by
  rw [isWritten_started, (splitPlan_eq_ok_some hplan).2, Option.all_some]

/-- A build whose start has been told goes on. -/
theorem build_of_written (hstart : s.started.isWritten = true) :
    s.build settings executor = s.buildStarted settings s.started executor := by
  rw [build, if_pos hstart]

/-- A build whose start cannot be told ends there. -/
theorem build_of_unwritten (hstart : s.started.isWritten = false) :
    s.build settings executor = .finish [.contextSet (s.context 0)] executor (.error (.start {})) := by
  rw [build, if_neg (Bool.eq_false_iff.mp hstart)]

section Started

variable {started : Log.Event}

/-- Split arguments that do not fit each other end a build at once. -/
theorem buildStarted_refused {cause : SplitError}
    (hplan : splitPlan s.splitColumn s.parallelism = .error cause) :
    s.buildStarted settings started executor = .finish [started] executor (.error (.split cause)) := by
  unfold buildStarted
  rw [hplan]

/-- A partition without a condition ends a build before it asks. -/
theorem buildStarted_unconditioned {plan : Option SplitPlan} {cause : WindowError}
    (hplan : splitPlan s.splitColumn s.parallelism = .ok plan)
    (hcondition : s.partitionCondition = .error cause) :
    s.buildStarted settings started executor =
      .finish [started] executor (.error (.window s.period cause)) := by
  unfold buildStarted
  rw [hplan, hcondition]

/-- A build without a split has one query, and asks nothing. -/
theorem buildStarted_whole (hplan : splitPlan s.splitColumn s.parallelism = .ok none)
    (hcondition : s.partitionCondition = .ok condition) :
    s.buildStarted settings started executor = .finish [started] executor (s.wholeQueries condition) := by
  unfold buildStarted
  rw [hplan, hcondition]

/-- A build with a split needs somebody to ask. -/
theorem buildStarted_unasked (hplan : splitPlan s.splitColumn s.parallelism = .ok (some plan))
    (hcondition : s.partitionCondition = .ok condition) :
    s.buildStarted settings started none = .finish [started] none (.error .executorMissing) := by
  unfold buildStarted
  rw [hplan, hcondition]

/-- A build with a plan, an executor and a condition is the one that splits. -/
theorem buildStarted_eq_buildSplit (hplan : splitPlan s.splitColumn s.parallelism = .ok (some plan))
    (hcondition : s.partitionCondition = .ok condition) (e : Executor) :
    s.buildStarted settings started (some e) = s.buildSplit settings plan condition started e := by
  unfold buildStarted
  rw [hplan, hcondition]

/-- Behind its start a build with a split gives queries if the one that splits does. -/
theorem buildStarted_eq_ok (hplan : splitPlan s.splitColumn s.parallelism = .ok (some plan)) :
    (s.buildStarted settings started executor).result = .ok queries ↔
      ∃ e condition, executor = some e ∧ s.partitionCondition = .ok condition ∧
        (s.buildSplit settings plan condition started e).result = .ok queries := by
  constructor
  · intro h
    cases hcondition : s.partitionCondition with
    | error cause =>
        rw [buildStarted_unconditioned hplan hcondition] at h
        exact nomatch h
    | ok condition =>
        cases executor with
        | none =>
            rw [buildStarted_unasked hplan hcondition] at h
            exact nomatch h
        | some e =>
            rw [buildStarted_eq_buildSplit hplan hcondition] at h
            exact ⟨e, condition, rfl, rfl, h⟩
  · rintro ⟨e, condition, rfl, hcondition, h⟩
    rw [buildStarted_eq_buildSplit hplan hcondition]
    exact h

end Started

/-- **A build with a split gives queries if and only if it goes through all that leads to them.** -/
theorem build_eq_ok_iff (hplan : splitPlan s.splitColumn s.parallelism = .ok (some plan))
    {executor : Option Executor} :
    (s.build settings executor).result = .ok queries ↔
      ∃ e condition frame b share ranges, executor = some e ∧
        s.SplitsInto settings plan condition e frame b share ranges queries := by
  have hstart := isWritten_started_of_plan hplan
  constructor
  · intro h
    cases hwritten : s.started.isWritten with
    | false =>
        rw [build_of_unwritten hwritten] at h
        exact nomatch h
    | true =>
        rw [build_of_written hwritten] at h
        obtain ⟨e, condition, rfl, hcondition, h⟩ := (buildStarted_eq_ok hplan).mp h
        obtain ⟨b, hrun, hqueries⟩ := buildSplit_eq_ok.mp h
        obtain ⟨frame, hanswer, hbounds⟩ := Probe.run_eq_bounds_iff.mp hrun
        obtain ⟨share, ranges, hshare, hranges, hwritable, rfl⟩ := splitQueries_eq_ok.mp hqueries
        exact ⟨e, condition, frame, b, share, ranges, rfl, hstart.symm.trans hwritten, hcondition, hanswer,
          hbounds, hshare, hranges, hwritable, rfl⟩
  · rintro ⟨e, condition, frame, b, share, ranges, rfl, hsplits⟩
    rw [build_of_written (hstart.trans hsplits.started)]
    refine (buildStarted_eq_ok hplan).mpr ⟨e, condition, rfl, hsplits.conditioned, ?_⟩
    refine buildSplit_eq_ok.mpr ⟨b, Probe.run_eq_bounds_iff.mpr ⟨frame, hsplits.answered, hsplits.shown⟩, ?_⟩
    exact splitQueries_eq_ok.mpr
      ⟨share, ranges, hsplits.shared, hsplits.divided, hsplits.writable, hsplits.written⟩

/-- Behind a start that was told, a build with a plan, an executor and a condition is the one that
    splits. -/
theorem build_eq_buildSplit (hplan : splitPlan s.splitColumn s.parallelism = .ok (some plan))
    (hstart : isWritable plan.parallelism = true) (hcondition : s.partitionCondition = .ok condition)
    (e : Executor) :
    s.build settings (some e) = s.buildSplit settings plan condition s.started e := by
  rw [build_of_written ((isWritten_started_of_plan hplan).trans hstart),
    buildStarted_eq_buildSplit hplan hcondition]

/-- A build with split arguments that gives queries had a plan. -/
theorem exists_plan_of_build_eq_ok {column : String} {parallelism : Int} {executor : Option Executor}
    (hcolumn : s.splitColumn = some column) (hparallelism : s.parallelism = some parallelism)
    (h : (s.build settings executor).result = .ok queries) :
    ∃ hpos : 0 < parallelism,
      splitPlan s.splitColumn s.parallelism = .ok (some ⟨column, parallelism, hpos⟩) := by
  rw [hcolumn, hparallelism]
  by_cases hpos : 0 < parallelism
  · exact ⟨hpos, splitPlan_eq_plan hpos⟩
  · have hrefused : splitPlan s.splitColumn s.parallelism = .error (.notPositive parallelism) := by
      rw [hcolumn, hparallelism, splitPlan, dif_neg hpos]
    cases hwritten : s.started.isWritten with
    | false =>
        rw [build_of_unwritten hwritten] at h
        exact nomatch h
    | true =>
        rw [build_of_written hwritten, buildStarted_refused hrefused] at h
        exact nomatch h

/-- A build without a split asks nothing, and gives its one query if its limit can be written. -/
theorem build_unsplit (hcolumn : s.splitColumn = none) (hparallelism : s.parallelism = none)
    (hcondition : s.partitionCondition = .ok condition) (executor : Option Executor) :
    s.build settings executor = .finish [s.started] executor (s.wholeQueries condition) := by
  have hplan : splitPlan s.splitColumn s.parallelism = .ok none := by
    rw [hcolumn, hparallelism]
    rfl
  have hstart : s.started.isWritten = true := by
    rw [isWritten_started, hparallelism]
    rfl
  rw [build_of_written hstart, buildStarted_whole hplan hcondition]

end ExportSpec

/-! ## Main result -/

/-- **Probe and queries read one source.** Where a build with a split gives queries, there is one text of
    the base query and its condition such that the only statement that the executor was sent asks for the
    bounds of the column in it, and each query is this text, the clause of a range and the share of the
    limit. The ranges are those of the bounds in the answer. Without its split the same specification
    gives that text alone, with the whole limit, unless the limit has too many digits: the share may be
    written where the whole is not. -/
theorem probe_and_queries_read_one_source {settings : Settings} {s : ExportSpec}
    {executor : Option Executor} {column : String} {parallelism : Int} {queries : List String}
    (hcolumn : s.splitColumn = some column) (hparallelism : s.parallelism = some parallelism)
    (hbuild : (s.build settings executor).result = .ok queries) :
    ∃ (source statement : String) (e after : Executor) (frame : Frame) (b : Bounds)
      (ranges : List SplitRange),
      (∃ condition, s.partitionCondition = .ok condition ∧ source = s.base.text ++ condition) ∧
      statement = "SELECT MIN(" ++ column ++ ") as " ++ settings.minColumn ++ ", MAX(" ++ column ++
        ") as " ++ settings.maxColumn ++ " FROM (" ++ source ++ ") as " ++ settings.boundsAlias ∧
      executor = some e ∧ e.execute statement = (.ok frame, after) ∧
      (s.build settings executor).executor = some after ∧
      after.source.executed = e.source.executed ++ [statement] ∧
      ShowsBounds settings frame b ∧
      (Chunking.ofBounds b.min b.max parallelism >>= Chunking.ranges) = .ok ranges ∧
      queries = ranges.map (fun r => source ++ rangeClause column r ++
        s.limit.elim "" fun n => " LIMIT " ++ intText (n.fdiv parallelism)) ∧
      ∀ other, ({ s with splitColumn := none, parallelism := none }.build settings other).result =
        if s.limit.all isWritable then .ok [source ++ s.limit.elim "" fun n => " LIMIT " ++ intText n]
        else .error (.limit {}) := by
  obtain ⟨hpos, hplan⟩ := s.exists_plan_of_build_eq_ok hcolumn hparallelism hbuild
  obtain ⟨e, condition, frame, b, share, ranges, rfl, hsplits⟩ := (ExportSpec.build_eq_ok_iff hplan).mp hbuild
  refine ⟨s.base.text ++ condition, _, e, (e.execute (Probe.query settings s.base column condition)).2,
    frame, b, ranges, ⟨condition, hsplits.conditioned, rfl⟩, Probe.query_text .., rfl, ?_, ?_, ?_,
    hsplits.shown, ?_, ?_, ?_⟩
  · rw [← hsplits.answered]
  · rw [ExportSpec.build_eq_buildSplit hplan hsplits.started hsplits.conditioned,
      ExportSpec.buildSplit_executor]
  · exact e.executed_execute _
  · rw [Chunking.ofBounds, dif_pos hpos]
    exact hsplits.divided
  · rw [hsplits.written, (ExportSpec.shareCondition_eq_ok.mp hsplits.shared).2]
    exact List.map_congr_left fun r _ => rfl
  · intro other
    have hconditioned : { s with splitColumn := none, parallelism := none }.partitionCondition =
        .ok condition := hsplits.conditioned
    rw [ExportSpec.build_unsplit rfl rfl hconditioned, BuildRun.result_finish]
    exact ExportSpec.wholeQueries_eq _ condition

/-- An export of a day of a table: ten rows, in up to three queries. -/
def usersExport : ExportSpec where
  table := some "users"
  base := ⟨"SELECT * FROM users WHERE 1=1"⟩
  limit := some 10
  partitionColumn := some "created"
  partition := some ⟨2027, 1, 1, by decide⟩
  period := "1d"
  splitColumn := some "id"
  parallelism := some 3

/-- A source that answers every statement with the bounds 1 and 4. -/
def oneToFour : Executor :=
  .direct { replies := [.columns [
    ⟨.text "min_s", .signed 64, [.int 1]⟩, ⟨.text "max_s", .signed 64, [.int 4]⟩]] }

/-- What the probe and the queries of that export read. -/
def usersSource : String :=
  "SELECT * FROM users WHERE 1=1 AND created >= '2027-01-01' AND created < '2027-01-02'"

/-- The condition of the day of that export. -/
theorem partitionCondition_usersExport :
    usersExport.partitionCondition = .ok " AND created >= '2027-01-01' AND created < '2027-01-02'" := by
  decide +kernel

/-- The probe of that export reads the same rows as its three queries. -/
theorem usersExport_reads_one_source :
    (usersExport.build {} (some oneToFour)).result =
        .ok [usersSource ++ " AND id >= 1 AND id < 2 LIMIT 3",
          usersSource ++ " AND id >= 2 AND id < 3 LIMIT 3",
          usersSource ++ " AND id >= 3 AND id <= 4 LIMIT 3"] ∧
      ∃ after, (usersExport.build {} (some oneToFour)).executor = some after ∧
        after.source.executed =
          ["SELECT MIN(id) as min_s, MAX(id) as max_s FROM (" ++ usersSource ++ ") as limits_query"] := by
  have hbuild : (usersExport.build {} (some oneToFour)).result =
      .ok [usersSource ++ " AND id >= 1 AND id < 2 LIMIT 3",
        usersSource ++ " AND id >= 2 AND id < 3 LIMIT 3",
        usersSource ++ " AND id >= 3 AND id <= 4 LIMIT 3"] := by decide +kernel
  obtain ⟨source, statement, e, after, -, -, -, ⟨condition, hcondition, hsource⟩, hstatement, he, -, hafter,
    hexecuted, -⟩ := probe_and_queries_read_one_source rfl rfl hbuild
  obtain rfl : " AND created >= '2027-01-01' AND created < '2027-01-02'" = condition :=
    Except.ok.inj (partitionCondition_usersExport.symm.trans hcondition)
  obtain rfl : oneToFour = e := Option.some.inj he
  refine ⟨hbuild, after, hafter, ?_⟩
  rw [hexecuted, hstatement, hsource]
  decide +kernel

/-- That export with another limit, in up to ten queries. -/
def limitedExport (limit : Int) : ExportSpec :=
  { usersExport with limit := some limit, parallelism := some 10 }

/-- The same in one query. -/
def undividedExport (limit : Int) : ExportSpec :=
  { limitedExport limit with splitColumn := none, parallelism := none }

/-- Several queries share a limit of 4301 digits, a tenth of which has 4300; one query alone would have to
    write it whole. -/
theorem long_limit_is_shared_and_not_whole :
    (∃ queries, ((limitedExport (Nat.pow 10 digitLimit : Nat)).build {} (some oneToFour)).result =
      .ok queries) ∧
    ∀ executor, ((undividedExport (Nat.pow 10 digitLimit : Nat)).build {} executor).result =
      .error (.limit {}) := by
  have hshare : isWritable (Int.fdiv (Nat.pow 10 digitLimit : Nat) 10) = true := by decide +kernel
  have hwhole := isWritable_pow_digitLimit
  -- nothing else matters of the limit, which is not to be computed
  generalize ((Nat.pow 10 digitLimit : Nat) : Int) = limit at hshare hwhole ⊢
  constructor
  · have hplan : splitPlan (limitedExport limit).splitColumn (limitedExport limit).parallelism =
        .ok (some ⟨"id", 10, by decide⟩) := splitPlan_eq_plan _
    have hshared : (limitedExport limit).shareCondition 10 = .ok (" LIMIT " ++ intText (limit.fdiv 10)) := by
      rw [ExportSpec.shareCondition_of_limit rfl]
      exact limitClause_eq_ok.mpr ⟨hshare, rfl⟩
    have hshown : ShowsBounds {}
        ⟨[⟨"min_s", .signed 64, [.int 1]⟩, ⟨"max_s", .signed 64, [.int 4]⟩]⟩ ⟨1, 4⟩ :=
      ⟨by decide, rfl, _, _, rfl, rfl, rfl, .integers rfl rfl (by decide +kernel) (by decide +kernel) rfl rfl⟩
    exact ⟨_, (ExportSpec.build_eq_ok_iff hplan).mpr ⟨oneToFour, _, _, _, _,
      [⟨1, 2, false⟩, ⟨2, 3, false⟩, ⟨3, 4, true⟩], rfl, by decide +kernel, partitionCondition_usersExport, rfl,
      hshown, hshared, by decide +kernel, by decide +kernel, rfl⟩⟩
  · intro executor
    have hmade : (undividedExport limit).partitionCondition =
        .ok " AND created >= '2027-01-01' AND created < '2027-01-02'" := partitionCondition_usersExport
    have hlimit : (undividedExport limit).limit = some limit := rfl
    rw [ExportSpec.build_unsplit rfl rfl hmade, BuildRun.result_finish, ExportSpec.wholeQueries_eq, hlimit,
      Option.all_some, hwhole]
    exact if_neg Bool.false_ne_true

end SplitExport
