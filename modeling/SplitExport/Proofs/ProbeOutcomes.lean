import SplitExport.Probe.Find
import SplitExport.Proofs.ProbeFaults

/-!
# Probe outcomes — what a probe makes of every answer

* `Classified` lists the answers to a probe, with a constructor for each and the outcome that it leads to. No
  two of them fit one answer, so that a probe comes to the outcome of its answer and to no other
  (`run_outcome_iff`).
* `find` gives the bounds of a probe and raises what else the probe comes to, a failure with the families, the
  fault and the message of this failure.

Two answers lead out of the list of failures: a fault that nobody handles is not taken for a failed statement,
and a first row that cannot be read is a fault, whatever the two values in it are.
-/

namespace SplitExport

open SplitExport.Results

namespace Probe

variable {settings : Settings} {seconds : Number.Binary64} {column : String} {answer : Except Fault Frame}
  {frame : Frame} {least greatest : Column} {o : Except ProbeFault Outcome}

/-! ## Answers -/

/-- A frame with a row and a column of least values, which are integers. -/
structure HasLeast (settings : Settings) (frame : Frame) (least : Column) : Prop where
  hasRow : frame.height ≠ 0
  hasLeast : frame.column? settings.minColumn = some least
  integral : least.kind.isIntegral = true

/-- A frame that has a column of greatest values as well, and a first row that can be read. -/
structure HasBoth (settings : Settings) (frame : Frame) (least greatest : Column) : Prop extends
    HasLeast settings frame least where
  readable : frame.unreadable? 0 = none
  hasGreatest : frame.column? settings.maxColumn = some greatest

/-- A frame with two first values that can be told: an integer, and a value that is not null. -/
structure HasTold (settings : Settings) (frame : Frame) (least greatest : Column) (m : Int) : Prop extends
    HasBoth settings frame least greatest where
  isInt : firstValue least = .int m
  notNull : firstValue greatest ≠ .null
  leastWritten : Number.isWritable m = true
  greatestWritten : (firstValue greatest).isWritten = true

/-- What a probe of a column makes of an answer. -/
inductive Classified (settings : Settings) (column : String) :
    Except Fault Frame → Except ProbeFault Outcome → Prop where
  /-- A fault that nobody handles ends the probe. -/
  | ended {fault : Fault} : fault.isFatal = true →
      Classified settings column (.error fault) (.error (.escaped fault))
  | executionFailed {fault : Fault} : fault.isFatal = false →
      Classified settings column (.error fault) (.ok (.failure (.executionFailed column fault)))
  /-- Nothing is asked of the columns of a frame without rows. -/
  | noRows {frame : Frame} : frame.height = 0 → Classified settings column (.ok frame) (.ok (.failure .noRows))
  | noLeast {frame : Frame} : frame.height ≠ 0 → frame.column? settings.minColumn = none →
      Classified settings column (.ok frame) (.error (.missingColumn settings.minColumn))
  /-- The column of greatest values may be missing here. -/
  | notIntegral {frame : Frame} {least : Column} : frame.height ≠ 0 →
      frame.column? settings.minColumn = some least → least.kind.isIntegral = false →
      Classified settings column (.ok frame) (.ok (.failure (.notIntegral column least.kind)))
  | unreadable {frame : Frame} {least : Column} {fault : Fault} : HasLeast settings frame least →
      frame.unreadable? 0 = some fault → Classified settings column (.ok frame) (.error (.escaped fault))
  | noGreatest {frame : Frame} {least : Column} : HasLeast settings frame least →
      frame.unreadable? 0 = none → frame.column? settings.maxColumn = none →
      Classified settings column (.ok frame) (.error (.missingColumn settings.maxColumn))
  /-- A null on either side makes both bounds 0. -/
  | null {frame : Frame} {least greatest : Column} : HasBoth settings frame least greatest →
      firstValue least = .null ∨ firstValue greatest = .null →
      Classified settings column (.ok frame) (.ok (.bounds ⟨0, 0⟩))
  /-- Values that are not null are told before the second one is converted. -/
  | oversize {frame : Frame} {least greatest : Column} {m : Int} : HasBoth settings frame least greatest →
      firstValue least = .int m → firstValue greatest ≠ .null →
      Number.isWritable m = false ∨ (firstValue greatest).isWritten = false →
      Classified settings column (.ok frame) (.error (.oversize {}))
  | bounds {frame : Frame} {least greatest : Column} {m n : Int} : HasTold settings frame least greatest m →
      (firstValue greatest).toInteger = .ok n → Classified settings column (.ok frame) (.ok (.bounds ⟨m, n⟩))
  | conversion {frame : Frame} {least greatest : Column} {m : Int} {cause : Datum.ConversionError} :
      HasTold settings frame least greatest m → (firstValue greatest).toInteger = .error cause →
      Classified settings column (.ok frame) (.error (.conversion cause))

/-! ## Reading frames -/

/-- A column that is not there cannot be asked for. -/
theorem columnOf_eq_error {name : String} (h : frame.column? name = none) :
    columnOf frame name = .error (.missingColumn name) := by
  unfold columnOf
  rw [h]
  rfl

/-- Behind the column of least values come the first row and the column of greatest values. -/
theorem judge_of_hasLeast (h : HasLeast settings frame least) :
    judge settings seconds column frame =
      match frame.unreadable? 0, columnOf frame settings.maxColumn with
      | some fault, _ => { outcome := .error (.escaped fault) }
      | none, .error fault => { outcome := .error fault }
      | none, .ok greatest => takeBounds seconds column (firstValue least) (firstValue greatest) := by
  unfold judge
  rw [if_neg h.hasRow, columnOf_eq_ok.mpr h.hasLeast]
  dsimp only
  rw [h.integral]
  rfl

/-- With both columns and a first row that can be read, the two first values are taken for bounds. -/
theorem judge_of_hasBoth (h : HasBoth settings frame least greatest) :
    judge settings seconds column frame =
      takeBounds seconds column (firstValue least) (firstValue greatest) := by
  rw [judge_of_hasLeast h.toHasLeast, h.readable, columnOf_eq_ok.mpr h.hasGreatest]

/-- An integer and a value that is not null are read one after the other, once they are told. -/
theorem takeBounds_int {m : Int} {value : Datum} (hvalue : value ≠ .null)
    (hleast : Number.isWritable m = true) (hgreatest : value.isWritten = true) :
    (takeBounds seconds column (.int m) value).outcome =
      ((value.toInteger.map fun n => Outcome.bounds ⟨m, n⟩).mapError .conversion) := by
  have hnull : ¬ ((Datum.int m).isNull || value.isNull) = true := fun h => hvalue (eq_null_of_isNull h)
  have hwritten : ¬ (!((Datum.int m).isWritten && value.isWritten)) = true := by
    rw [isWritten_int, hleast, hgreatest]
    decide
  unfold takeBounds
  rw [if_neg hnull, if_neg hwritten]
  show (((do return Bounds.mk m (← value.toInteger)) : Except _ Bounds).map Outcome.bounds).mapError _ = _
  cases value.toInteger <;> rfl

/-- Two values that can be told are read one after the other. -/
theorem judge_of_hasTold {m : Int} (h : HasTold settings frame least greatest m) :
    (judge settings seconds column frame).outcome =
      (((firstValue greatest).toInteger.map fun n => Outcome.bounds ⟨m, n⟩).mapError .conversion) := by
  rw [judge_of_hasBoth h.toHasBoth, h.isInt, takeBounds_int h.notNull h.leastWritten h.greatestWritten]

/-- A classified frame is judged so. -/
theorem judge_of_classified (h : Classified settings column (.ok frame) o) :
    (judge settings seconds column frame).outcome = o := by
  cases h with
  | noRows hrow =>
      unfold judge
      rw [if_pos hrow]
  | noLeast hrow hleast =>
      unfold judge
      rw [if_neg hrow, columnOf_eq_error hleast]
  | notIntegral hrow hleast hkind =>
      unfold judge
      rw [if_neg hrow, columnOf_eq_ok.mpr hleast]
      dsimp only
      rw [hkind]
      rfl
  | unreadable hleast hfault =>
      rw [judge_of_hasLeast hleast, hfault]
  | noGreatest hleast hreadable hgreatest =>
      rw [judge_of_hasLeast hleast, hreadable, columnOf_eq_error hgreatest]
  | null hboth hnull =>
      rw [judge_of_hasBoth hboth, takeBounds_eq_bounds_iff]
      rcases hnull with hleast | hgreatest
      · rw [hleast]
        exact .noLeast
      · rw [hgreatest]
        exact .noGreatest
  | oversize hboth hm hvalue hlong =>
      rw [← isWritten_int, ← Bool.and_eq_false_iff] at hlong
      rw [judge_of_hasBoth hboth, hm, takeBounds_of_unwritten Datum.noConfusion hvalue hlong]
  | bounds htold hn =>
      rw [judge_of_hasTold htold, hn]
      rfl
  | conversion htold hcause =>
      rw [judge_of_hasTold htold, hcause]
      rfl

/-- The first values of both columns are classified, of which the first one is null or an integer. -/
theorem classified_of_hasBoth (hsound : frame.IsSound) (h : HasBoth settings frame least greatest) :
    ∃ o, Classified settings column (.ok frame) o := by
  have hword : IsWord least.kind (firstValue least) :=
    isWord_firstValue (hsound least (List.mem_of_find?_eq_some h.hasLeast)) h.integral
  by_cases hnull : firstValue least = .null ∨ firstValue greatest = .null
  · exact ⟨_, .null h hnull⟩
  · obtain ⟨hleast, hgreatest⟩ := not_or.mp hnull
    obtain ⟨-, m, hm⟩ := hword.exists_int hleast
    by_cases hlong : Number.isWritable m = false ∨ (firstValue greatest).isWritten = false
    · exact ⟨_, .oversize h hm hgreatest hlong⟩
    · obtain ⟨hlow, hhigh⟩ := not_or.mp hlong
      have htold : HasTold settings frame least greatest m :=
        ⟨h, hm, hgreatest, (Bool.not_eq_false _).mp hlow, (Bool.not_eq_false _).mp hhigh⟩
      cases hn : (firstValue greatest).toInteger with
      | ok n => exact ⟨_, .bounds htold hn⟩
      | error cause => exact ⟨_, .conversion htold hn⟩

/-- Every sound frame is classified. -/
theorem exists_classified (settings : Settings) (column : String) (hsound : frame.IsSound) :
    ∃ o, Classified settings column (.ok frame) o := by
  by_cases hrow : frame.height = 0
  · exact ⟨_, .noRows hrow⟩
  · cases hleast : frame.column? settings.minColumn with
    | none => exact ⟨_, .noLeast hrow hleast⟩
    | some least =>
        cases hkind : least.kind.isIntegral with
        | false => exact ⟨_, .notIntegral hrow hleast hkind⟩
        | true =>
            have hfront : HasLeast settings frame least := ⟨hrow, hleast, hkind⟩
            cases hreadable : frame.unreadable? 0 with
            | some fault => exact ⟨_, .unreadable hfront hreadable⟩
            | none =>
                cases hgreatest : frame.column? settings.maxColumn with
                | none => exact ⟨_, .noGreatest hfront hreadable hgreatest⟩
                | some greatest => exact classified_of_hasBoth hsound ⟨hfront, hreadable, hgreatest⟩

/-! ## Probes -/

/-- A probe comes to what its answer is classified as. -/
theorem run_of_classified {e : Executor} {base : Sql.BaseQuery} {condition : String}
    (h : Classified settings column (e.execute (query settings base column condition)).1 o) :
    (run settings e base condition column).outcome = o := by
  unfold run
  dsimp only
  split
  · rename_i fault after heq
    rw [heq] at h
    cases h with
    | ended hfatal => exact if_pos hfatal
    | executionFailed hfatal => exact if_neg (Bool.eq_false_iff.mp hfatal)
  · rename_i frame after heq
    rw [heq] at h
    exact judge_of_classified h

/-- **A probe comes to the outcome of its answer, and to no other.** -/
theorem run_outcome_iff {e : Executor} {base : Sql.BaseQuery} {condition : String} :
    (run settings e base condition column).outcome = o ↔
      Classified settings column (e.execute (query settings base column condition)).1 o := by
  refine ⟨?_, run_of_classified⟩
  rintro rfl
  -- every answer is classified somehow, and what it is classified as is the outcome
  have hclassified : ∃ o, Classified settings column (e.execute (query settings base column condition)).1 o := by
    cases hanswer : (e.execute (query settings base column condition)).1 with
    | ok frame => exact exists_classified settings column (e.isSound_execute _ frame hanswer)
    | error fault =>
        cases hfatal : fault.isFatal with
        | true => exact ⟨_, .ended hfatal⟩
        | false => exact ⟨_, .executionFailed hfatal⟩
  obtain ⟨o, ho⟩ := hclassified
  rwa [run_of_classified ho]

/-! ## Raising -/

/-- How a failure is raised: as an error of a probe with the message of the failure, which is a runtime error
    for an answer without rows, a wrong value for a column of no integers, and has a fault behind it for a
    statement that failed. -/
structure Failure.RaisedAs (f : Failure) (error : FindError) : Prop where
  message : error.message = f.message
  isProbeError : "BoundsProbeError" ∈ error.families
  isRuntimeError : "RuntimeError" ∈ error.families ↔ f = .noRows
  isValueError : "ValueError" ∈ error.families ↔ ∃ column kind, f = .notIntegral column kind
  cause : ∀ fault, error.cause? = some fault ↔ ∃ column, f = .executionFailed column fault

/-- What is found where a probe comes to an outcome: its bounds, its failure as an error, or its fault. -/
inductive Found : Except ProbeFault Outcome → Except FindError Bounds → Prop where
  | bounds {b : Bounds} : Found (.ok (.bounds b)) (.ok b)
  | failure {f : Failure} {error : FindError} : f.RaisedAs error → Found (.ok (.failure f)) (.error error)
  | fault {cause : ProbeFault} : Found (.error cause) (.error (.fault cause))

/-- Every failure is raised in its way. -/
theorem Failure.raisedAs (f : Failure) : f.RaisedAs (.failure f) where
  message := rfl
  isProbeError := by cases f <;> simp [FindError.families, families]
  isRuntimeError := by cases f <;> simp [FindError.families, families]
  isValueError := by cases f <;> simp [FindError.families, families]
  cause fault := by cases f <;> simp [FindError.cause?, cause?]

/-- What is found is what the probe comes to. -/
theorem found_find (settings : Settings) (e : Executor) (base : Sql.BaseQuery) (condition column : String) :
    Found (run settings e base condition column).outcome (find settings e base condition column) := by
  unfold find
  cases (run settings e base condition column).outcome with
  | error cause => exact .fault
  | ok outcome =>
      cases outcome with
      | bounds b => exact .bounds
      | failure f => exact .failure f.raisedAs

/-! ## Main result -/

/-- **A probe comes to the outcome of its answer.** It sends its statement and nothing else, and whatever the
    answer is, comes to the outcome that the answer is classified as: to bounds, to a failure, or to a fault,
    which may be that two values are too long to be told.
    A caller that asks for the bounds alone finds them, or gets the failure as an error of its families, with
    its message and the fault behind it, or the fault. -/
theorem probe_comes_to_outcome_of_answer (settings : Settings) (e : Executor) (base : Sql.BaseQuery)
    (condition column : String) :
    (run settings e base condition column).executor =
        (e.execute (query settings base column condition)).2 ∧
      (run settings e base condition column).executor.source.executed =
        e.source.executed ++ [query settings base column condition] ∧
      (∀ o, (run settings e base condition column).outcome = o ↔
        Classified settings column (e.execute (query settings base column condition)).1 o) ∧
      Found (run settings e base condition column).outcome (find settings e base condition column) := by
  refine ⟨run_executor settings e base condition column, ?_, fun o => run_outcome_iff,
    found_find settings e base condition column⟩
  rw [run_executor]
  exact e.executed_execute _

/-- All rows of a table. -/
def wholeTable : Sql.BaseQuery := ⟨"SELECT * FROM t WHERE 1=1"⟩

/-- An answer whose least value, a decimal that is no number, ends the making of its column. -/
def unmadeColumn : Executor :=
  .direct { replies := [.columns [⟨.text "min_s", .signed 64, [.special (.notANumber false false 0)]⟩,
    ⟨.text "max_s", .signed 64, [.int 3]⟩]] }

/-- An answer with the bounds 1 and 4 beside a day that is no date. -/
def uncountedDay : Executor :=
  .direct { replies := [.columns [⟨.text "min_s", .signed 64, [.int 1]⟩, ⟨.text "max_s", .signed 64, [.int 4]⟩,
    ⟨.text "day", .date, [.int 100000000]⟩]] }

/-- A fault that nobody handles is not taken for a failed statement, and two integers in a row that cannot be
    read are not taken for bounds. -/
theorem unhandled_fault_and_unreadable_row_escape :
    (¬ ∀ (e : Executor) (base : Sql.BaseQuery) (fault : Fault),
      (e.execute (query {} base "id" "")).1 = .error fault →
        (run {} e base "" "id").outcome = .ok (.failure (.executionFailed "id" fault))) ∧
    ¬ ∀ (e : Executor) (base : Sql.BaseQuery) (frame : Frame) (least greatest : Column) (m n : Int),
      (e.execute (query {} base "id" "")).1 = .ok frame → HasLeast {} frame least →
        frame.column? "max_s" = some greatest → firstValue least = .int m → firstValue greatest = .int n →
          (run {} e base "" "id").outcome = .ok (.bounds ⟨m, n⟩) := by
  constructor
  · intro h
    have hescapes : (run {} unmadeColumn wholeTable "" "id").outcome.toOption = none := by
      decide +kernel
    cases hanswer : (unmadeColumn.execute (query {} wholeTable "id" "")).1 with
    | error fault =>
        rw [h unmadeColumn _ fault hanswer] at hescapes
        exact nomatch hescapes
    | ok frame =>
        have hfault : (unmadeColumn.execute (query {} wholeTable "id" "")).1.toOption = none := by
          decide +kernel
        rw [hanswer] at hfault
        exact nomatch hfault
  · intro h
    have hescapes : (run {} uncountedDay wholeTable "" "id").outcome.toOption = none := by
      decide +kernel
    have hanswer : ∃ frame least greatest,
        (uncountedDay.execute (query {} wholeTable "id" "")).1 = .ok frame ∧
          HasLeast {} frame least ∧ frame.column? "max_s" = some greatest ∧ firstValue least = .int 1 ∧
          firstValue greatest = .int 4 := by
      refine ⟨_, _, _, rfl, ⟨?_, rfl, rfl⟩, rfl, rfl, rfl⟩
      decide
    obtain ⟨frame, least, greatest, hframe, hleast, hgreatest, hm, hn⟩ := hanswer
    rw [h uncountedDay _ frame least greatest 1 4 hframe hleast hgreatest hm hn] at hescapes
    exact nomatch hescapes

end Probe

end SplitExport
