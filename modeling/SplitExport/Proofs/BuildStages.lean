import SplitExport.Proofs.Building
import SplitExport.Spec.Session

/-!
# Build stages — how far a build comes, and what it has asked by then

A build tells of its start, checks its split arguments, makes the condition of its partition, and only then
asks for bounds.

* `Event.IsQuiet` says of an event that it changes neither the context of the messages nor the counts;
  all that a probe tells is quiet.
* `ExportSpec.Probed` lists what can come of a probe, and `ExportSpec.Ends` what can come of a build whose
  start was told, with a constructor for each stage. Every such build ends in one of these ways
  (`ends_build`), so that a fact about all builds is a case for each stage, and one for a build without a
  start.

The main result: whatever its fields are, a specification that cannot be built is refused before its executor
is asked, and no build asks more than once. A parallelism that cannot be told ends a build before all that,
and a limit that cannot be written is found out only where it is written.
-/

namespace SplitExport

open SplitExport.Log SplitExport.Number SplitExport.Partition SplitExport.Probe

/-! ## Quiet events -/

/-- An event that changes neither the context of the messages nor the counts. -/
def Log.Event.IsQuiet (event : Event) : Prop :=
  ∀ state : State, state.after event = state

namespace Probe

/-- All that taking bounds tells is quiet. -/
theorem isQuiet_of_mem_takeBounds {seconds : Number.Binary64} {column : String} {least greatest : Datum}
    {event : Event} (h : event ∈ (takeBounds seconds column least greatest).events) : event.IsQuiet := by
  unfold takeBounds at h
  split at h
  · rcases List.mem_pair.mp h with rfl | rfl
    · exact fun _ => rfl
    · exact fun _ => rfl
  · split at h
    · exact nomatch h
    · obtain rfl := List.mem_singleton.mp h
      exact fun _ => rfl

/-- All that reading an answer tells is quiet. -/
theorem isQuiet_of_mem_judge {settings : Settings} {seconds : Number.Binary64} {column : String}
    {frame : Frame} {event : Event} (h : event ∈ (judge settings seconds column frame).events) :
    event.IsQuiet := by
  -- only the branch that takes bounds tells anything
  unfold judge at h
  split at h
  · exact nomatch h
  · split at h
    · exact nomatch h
    · split at h
      · exact nomatch h
      · split at h
        · exact nomatch h
        · exact nomatch h
        · exact isQuiet_of_mem_takeBounds h

/-- All that a probe tells is quiet. -/
theorem isQuiet_of_mem_run {settings : Settings} {e : Executor} {base : Sql.BaseQuery}
    {condition column : String} {event : Event}
    (h : event ∈ (run settings e base condition column).events) : event.IsQuiet := by
  unfold run at h
  dsimp only at h
  split at h
  · obtain rfl := List.mem_singleton.mp h
    exact fun _ => rfl
  · rcases List.mem_cons.mp h with rfl | h
    · exact fun _ => rfl
    · exact isQuiet_of_mem_judge h

end Probe

/-! ## Stages -/

namespace ExportSpec

variable {settings : Settings} {s : ExportSpec} {plan : SplitPlan} {condition : String}
  {executor : Option Executor}

/-- What can come of the probe of a build: a fault, a failure, or bounds and the queries between them. -/
inductive Probed (settings : Settings) (s : ExportSpec) (plan : SplitPlan) (condition : String)
    (e : Executor) : Except BuildError (List String) → Prop where
  | fault {cause : ProbeFault} :
      (Probe.run settings e s.base condition plan.column).outcome = .error cause →
      Probed settings s plan condition e (.error (.answer cause))
  | failure {cause : Failure} :
      (Probe.run settings e s.base condition plan.column).outcome = .ok (.failure cause) →
      Probed settings s plan condition e (.error (.probe cause))
  | bounds {b : Bounds} :
      (Probe.run settings e s.base condition plan.column).outcome = .ok (.bounds b) →
      Probed settings s plan condition e (s.splitQueries plan condition b).2

/-- What can come of a build whose start was told. -/
inductive Ends (settings : Settings) (s : ExportSpec) (executor : Option Executor) : BuildRun → Prop where
  /-- The split arguments do not fit each other. -/
  | refused {cause : SplitError} : splitPlan s.splitColumn s.parallelism = .error cause →
      Ends settings s executor (.finish [s.started] executor (.error (.split cause)))
  /-- There is no condition of the partition. -/
  | unconditioned {plan : Option SplitPlan} {cause : WindowError} :
      splitPlan s.splitColumn s.parallelism = .ok plan → s.partitionCondition = .error cause →
      Ends settings s executor (.finish [s.started] executor (.error (.window s.period cause)))
  /-- The export is not split. -/
  | whole {condition : String} : splitPlan s.splitColumn s.parallelism = .ok none →
      s.partitionCondition = .ok condition →
      Ends settings s executor (.finish [s.started] executor (s.wholeQueries condition))
  /-- There is nobody to ask for bounds. -/
  | unasked {plan : SplitPlan} {condition : String} :
      splitPlan s.splitColumn s.parallelism = .ok (some plan) → s.partitionCondition = .ok condition →
      executor = none → Ends settings s executor (.finish [s.started] none (.error .executorMissing))
  /-- The executor was asked for bounds. -/
  | asked {plan : SplitPlan} {condition : String} {e : Executor} {told : List Event}
      {result : Except BuildError (List String)} :
      splitPlan s.splitColumn s.parallelism = .ok (some plan) → s.partitionCondition = .ok condition →
      executor = some e → (∀ event ∈ told, event.IsQuiet) → Probed settings s plan condition e result →
      Ends settings s executor (.finish (s.started :: told)
        (some (e.execute (Probe.query settings s.base plan.column condition)).2) result)

/-- What dividing bounds tells is quiet. -/
theorem isQuiet_of_mem_splitQueries {b : Bounds} {event : Event}
    (h : event ∈ (s.splitQueries plan condition b).1) : event.IsQuiet := by
  unfold splitQueries at h
  dsimp only at h
  split at h
  · exact nomatch h
  · exact nomatch h
  · obtain rfl := List.mem_singleton.mp h
    exact fun _ => rfl

/-- A build with a split asks for bounds, and ends in what comes of that. -/
theorem ends_buildSplit {e : Executor} (hplan : splitPlan s.splitColumn s.parallelism = .ok (some plan))
    (hcondition : s.partitionCondition = .ok condition) :
    Ends settings s (some e) (s.buildSplit settings plan condition s.started e) := by
  unfold buildSplit
  dsimp only
  rw [Probe.run_executor]
  split
  · rename_i cause hrun
    exact .asked hplan hcondition rfl (fun _ => isQuiet_of_mem_run) (.fault hrun)
  · rename_i outcome hrun
    cases outcome with
    | failure cause => exact .asked hplan hcondition rfl (fun _ => isQuiet_of_mem_run) (.failure hrun)
    | bounds b =>
        refine .asked hplan hcondition rfl (fun event hmem => ?_) (.bounds hrun)
        rcases List.mem_append.mp hmem with hprobe | hdivided
        · exact isQuiet_of_mem_run hprobe
        · exact isQuiet_of_mem_splitQueries hdivided

/-- Every build whose start was told ends in one of the listed ways. -/
theorem ends_build (settings : Settings) (executor : Option Executor)
    (hstart : s.started.isWritten = true) : Ends settings s executor (s.build settings executor) := by
  rw [build_of_written hstart]
  cases hplan : splitPlan s.splitColumn s.parallelism with
  | error cause =>
      rw [buildStarted_refused hplan]
      exact .refused hplan
  | ok plan =>
      cases hcondition : s.partitionCondition with
      | error cause =>
          rw [buildStarted_unconditioned hplan hcondition]
          exact .unconditioned hplan hcondition
      | ok condition =>
          cases plan with
          | none =>
              rw [buildStarted_whole hplan hcondition]
              exact .whole hplan hcondition
          | some plan =>
              cases executor with
              | none =>
                  rw [buildStarted_unasked hplan hcondition]
                  exact .unasked hplan hcondition rfl
              | some e =>
                  rw [buildStarted_eq_buildSplit hplan hcondition]
                  exact ends_buildSplit hplan hcondition

end ExportSpec

/-! ## Split arguments -/

/-- Split arguments are refused if one stands without the other, or the parallelism is not positive, and
    else never. -/
theorem splitPlan_eq_error_iff {column : Option String} {parallelism : Option Int} :
    (∃ cause, splitPlan column parallelism = .error cause) ↔
      column.isSome ≠ parallelism.isSome ∨ ∃ p, parallelism = some p ∧ p ≤ 0 := by
  cases column with
  | none =>
      cases parallelism with
      | none => simp [splitPlan]
      | some p => simp [splitPlan]
  | some column =>
      cases parallelism with
      | none => simp [splitPlan]
      | some p =>
          by_cases hpos : 0 < p
          · simp [splitPlan, hpos]
          · simp [splitPlan, hpos, Int.not_lt.mp hpos]

/-! ## Main result -/

/-- **A build is checked before it asks.** Split arguments that do not fit each other are a wrong value,
    whatever the other fields are. Without a split there is one query if the partition has a condition, or
    a refusal of a limit with too many digits. In neither case is the executor asked, nor if a split has no
    such condition, or a parallelism with too many digits. Any other split needs an executor and runs one
    statement on it, whatever the answer is. A build, failed or not, leaves the specification as it was. -/
theorem build_checks_before_it_asks (settings : Settings) (s : ExportSpec) (executor : Option Executor)
    (journal : Journal) (level : Level) :
    (s.splitColumn.isSome ≠ s.parallelism.isSome ∨ (∃ p, s.parallelism = some p ∧ p ≤ 0) →
      (s.build settings executor).executor = executor ∧
      ∃ cause, (s.build settings executor).result = .error cause ∧ cause.kind = "ValueError") ∧
    (s.splitColumn = none → s.parallelism = none →
      (s.build settings executor).executor = executor ∧
      ∀ condition, s.partitionCondition = .ok condition →
        (s.limit.all isWritable = true → ∃ query, (s.build settings executor).result = .ok [query]) ∧
        (s.limit.all isWritable = false → (s.build settings executor).result = .error (.limit {}))) ∧
    (∀ column p, s.splitColumn = some column → s.parallelism = some p → 0 < p →
      (isWritable p = false →
        (s.build settings executor).executor = executor ∧
        (s.build settings executor).result = .error (.start {})) ∧
      (isWritable p = true →
        (∀ cause, s.partitionCondition = .error cause →
          (s.build settings executor).executor = executor ∧
          (s.build settings executor).result = .error (.window s.period cause)) ∧
        ∀ condition, s.partitionCondition = .ok condition →
          (executor = none → ∃ cause, (s.build settings executor).result = .error cause ∧
            cause.kind = "ValueError") ∧
          ∀ e, executor = some e → ∃ statement,
            (s.build settings executor).executor = some (e.execute statement).2 ∧
            (e.execute statement).2.source.executed = e.source.executed ++ [statement])) ∧
    (({ spec := s, journal } : Session).step settings (.build executor level)).1 =
        some (s.build settings executor) ∧
      (({ spec := s, journal } : Session).step settings (.build executor level)).2.spec = s := by
  refine ⟨fun hmisfit => ?_, fun hcolumn hparallelism => ?_, fun column p hcolumn hparallelism hpos => ?_,
    rfl, rfl⟩
  · obtain ⟨cause, hplan⟩ := splitPlan_eq_error_iff.mpr hmisfit
    cases hstart : s.started.isWritten with
    | false =>
        rw [ExportSpec.build_of_unwritten hstart]
        exact ⟨rfl, _, rfl, rfl⟩
    | true =>
        rw [ExportSpec.build_of_written hstart, ExportSpec.buildStarted_refused hplan]
        exact ⟨rfl, _, rfl, rfl⟩
  · have hplan : splitPlan s.splitColumn s.parallelism = .ok none := by
      rw [hcolumn, hparallelism]
      rfl
    have hstart : s.started.isWritten = true := by
      rw [ExportSpec.isWritten_started, hparallelism, Option.all_none]
    rw [ExportSpec.build_of_written hstart]
    cases hcondition : s.partitionCondition with
    | error cause =>
        rw [ExportSpec.buildStarted_unconditioned hplan hcondition]
        exact ⟨rfl, fun condition h => nomatch h⟩
    | ok condition =>
        rw [ExportSpec.buildStarted_whole hplan hcondition]
        refine ⟨rfl, fun _ _ => ?_⟩
        rw [BuildRun.result_finish, ExportSpec.wholeQueries_eq]
        exact ⟨fun hshort => ⟨_, if_pos hshort⟩, fun hlong => if_neg (Bool.eq_false_iff.mp hlong)⟩
  · have hplan : splitPlan s.splitColumn s.parallelism = .ok (some ⟨column, p, hpos⟩) := by
      rw [hcolumn, hparallelism]
      exact splitPlan_eq_plan hpos
    have hwritten := ExportSpec.isWritten_started_of_plan hplan
    refine ⟨fun hlong => ?_, fun hshort => ?_⟩
    · rw [ExportSpec.build_of_unwritten (hwritten.trans hlong)]
      exact ⟨rfl, rfl⟩
    · rw [ExportSpec.build_of_written (hwritten.trans hshort)]
      refine ⟨fun cause hcondition => ?_, fun condition hcondition => ⟨?_, ?_⟩⟩
      · rw [ExportSpec.buildStarted_unconditioned hplan hcondition]
        exact ⟨rfl, rfl⟩
      · rintro rfl
        rw [ExportSpec.buildStarted_unasked hplan hcondition]
        exact ⟨_, rfl, rfl⟩
      · rintro e rfl
        rw [ExportSpec.buildStarted_eq_buildSplit hplan hcondition, ExportSpec.buildSplit_executor]
        exact ⟨_, rfl, e.executed_execute _⟩

/-- A split into a number of queries of 4301 digits has a condition and an executor, and asks nothing; a
    limit of 4301 digits leaves an export that is not split without its query. -/
theorem overlong_numbers_end_build :
    ({ usersExport with parallelism := some (Nat.pow 10 digitLimit : Nat) }.partitionCondition =
        .ok " AND created >= '2027-01-01' AND created < '2027-01-02'" ∧
      ({ usersExport with parallelism := some (Nat.pow 10 digitLimit : Nat) }.build {}
        (some oneToFour)).executor = some oneToFour) ∧
    (undividedExport (Nat.pow 10 digitLimit : Nat)).partitionCondition =
        .ok " AND created >= '2027-01-01' AND created < '2027-01-02'" ∧
      ((undividedExport (Nat.pow 10 digitLimit : Nat)).build {} none).result = .error (.limit {}) := by
  have hlong := isWritable_pow_digitLimit
  generalize ((Nat.pow 10 digitLimit : Nat) : Int) = n at hlong ⊢
  have hmade : (undividedExport n).partitionCondition =
      .ok " AND created >= '2027-01-01' AND created < '2027-01-02'" := partitionCondition_usersExport
  refine ⟨⟨partitionCondition_usersExport, ?_⟩, hmade, ?_⟩
  · have hstart : { usersExport with parallelism := some n }.started.isWritten = false := by
      rw [ExportSpec.isWritten_started, Option.all_some, hlong]
    rw [ExportSpec.build_of_unwritten hstart]
    rfl
  · have hlimit : (undividedExport n).limit = some n := rfl
    rw [ExportSpec.build_unsplit rfl rfl hmade, BuildRun.result_finish, ExportSpec.wholeQueries_eq, hlimit,
      Option.all_some, hlong]
    exact if_neg Bool.false_ne_true

end SplitExport
