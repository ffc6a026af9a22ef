import SplitExport.Proofs.Building
import SplitExport.Spec.Basic

/-!
# Specifying — what the fields of a specification go through

The fields of a specification are checked one after the other (`ExportSpec.ofFields_eq`).

* Fields that pass make a specification of just these fields, and one that is split has a plan.
* As long as the units of periods make a pattern, whatever does not pass is a wrong value.
-/

namespace SplitExport

open SplitExport.Calendar SplitExport.Partition SplitExport.Results SplitExport.Sql

/-! ## Periods -/

/-- The units of an installation that changes nothing make a pattern. -/
theorem Partition.exists_offsetPattern_default :
    ∃ pattern, offsetPattern ({} : Settings).periodUnits = .ok pattern := by
  have hread : (offsetPattern ({} : Settings).periodUnits).isOk = true := by decide +kernel
  cases hpattern : offsetPattern ({} : Settings).periodUnits with
  | ok pattern => exact ⟨pattern, rfl⟩
  | error cause =>
      rw [hpattern] at hread
      exact nomatch hread

/-- With units that make a pattern, whatever is no period is a wrong value. -/
theorem Partition.failsWith_normalizePeriod {units period : Datum} {pattern : Pattern}
    (hunits : offsetPattern units = .ok pattern) :
    FailsWith (fun cause : PeriodError => cause.kind = "ValueError") (normalizePeriod units period) := by
  -- what follows once the offset is there is the same for both forms of a period
  have hrest : ∀ offset : String, FailsWith (fun cause : PeriodError => cause.kind = "ValueError")
      (if !pattern.fitsFront offset.toList then Except.error (PeriodError.invalid (.text offset))
        else do
          if ← (allZero (digitRuns offset.toList)).mapError .unreadable then .error (.notPositive offset)
          else return offset) := by
    intro offset
    split
    · exact failsWith_error rfl
    · refine failsWith_bind (failsWith_mapError fun _ _ => rfl) fun isZero _ => ?_
      split
      · exact failsWith_error rfl
      · exact failsWith_ok offset
  unfold normalizePeriod
  split
  · split
    · exact failsWith_error rfl
    · dsimp only
      rw [hunits]
      split
      · exact failsWith_bind (failsWith_mapError fun _ _ => rfl) fun offset _ => hrest offset
      · exact hrest _
  · exact failsWith_error rfl

/-! ## Fields -/

namespace ExportSpec

/-- Checks a limit. -/
def checkLimit : Option Int → Except SpecError Unit
  | some n => if n < 0 then .error (.negativeLimit n) else .ok ()
  | none => .ok ()

/-- The first day of a partition, none for null. -/
def startOf : Datum → Except SpecError (Option Date)
  | .null => .ok none
  | given => ((startDate given).map some).mapError .date

variable {settings : Settings} {table : Option String} {base : BaseQuery} {limit : Option Int}
  {partitionColumn splitColumn : Option String} {partition period : Datum} {parallelism : Option Int}
  {spec : ExportSpec}

/-- The fields are checked one after the other. -/
theorem ofFields_eq (settings : Settings) (table : Option String) (base : BaseQuery) (limit : Option Int)
    (partitionColumn : Option String) (partition period : Datum) (splitColumn : Option String)
    (parallelism : Option Int) :
    ofFields settings table base limit partitionColumn partition period splitColumn parallelism = (do
      let _ ← (splitPlan splitColumn parallelism).mapError .split
      checkLimit limit
      let period ← (normalizePeriod settings.periodUnits period).mapError .period
      let partition ← startOf partition
      return { table, base, limit, partitionColumn, partition, period, splitColumn, parallelism }) := by
  unfold ofFields checkLimit
  refine congrArg _ (funext fun plan => ?_)
  cases limit with
  | none =>
      refine congrArg _ (funext fun offset => ?_)
      cases partition with
      | null => rfl
      | _ => rfl
  | some n =>
      dsimp only
      split
      · rfl
      · refine congrArg _ (funext fun offset => ?_)
        cases partition with
        | null => rfl
        | _ => rfl

/-- Fields that pass make a specification of these fields. -/
theorem ofFields_eq_ok (h : ofFields settings table base limit partitionColumn partition period splitColumn
      parallelism = .ok spec) :
    ∃ plan offset start, splitPlan splitColumn parallelism = .ok plan ∧ checkLimit limit = .ok () ∧
      normalizePeriod settings.periodUnits period = .ok offset ∧ startOf partition = .ok start ∧
      spec = ⟨table, base, limit, partitionColumn, start, offset, splitColumn, parallelism⟩ := by
  rw [ofFields_eq] at h
  obtain ⟨plan, hplan, h⟩ := bind_eq_ok.mp h
  obtain ⟨⟨⟩, hlimit, h⟩ := bind_eq_ok.mp h
  obtain ⟨offset, hoffset, h⟩ := bind_eq_ok.mp h
  obtain ⟨start, hstart, h⟩ := bind_eq_ok.mp h
  exact ⟨plan, offset, start, mapError_eq_ok.mp hplan, hlimit, mapError_eq_ok.mp hoffset, hstart,
    (Except.ok.inj h).symm⟩

/-- A specification that is made from its fields and is split has a plan. -/
theorem exists_plan_of_ofFields (h : ofFields settings table base limit partitionColumn partition period
      splitColumn parallelism = .ok spec) (hsplit : spec.isSplit = true) :
    ∃ plan, splitPlan spec.splitColumn spec.parallelism = .ok (some plan) := by
  obtain ⟨plan, offset, start, hplan, -, -, -, rfl⟩ := ofFields_eq_ok h
  cases splitColumn with
  | none => exact absurd hsplit Bool.false_ne_true
  | some column =>
      cases parallelism with
      | none => exact absurd hsplit Bool.false_ne_true
      | some p =>
          by_cases hpos : 0 < p
          · exact ⟨_, splitPlan_eq_plan hpos⟩
          · rw [splitPlan, dif_neg hpos] at hplan
            cases hplan

/-- A specification that is created and is split has a plan. -/
theorem exists_plan_of_create {arguments : SpecArguments} (h : create settings arguments = .ok spec)
    (hsplit : spec.isSplit = true) :
    ∃ plan, splitPlan spec.splitColumn spec.parallelism = .ok (some plan) := by
  obtain ⟨base, -, h⟩ := bind_eq_ok.mp h
  exact exists_plan_of_ofFields h hsplit

/-- With units that make a pattern, whatever stands in the way of a specification is a wrong value. -/
theorem failsWith_ofFields {pattern : Pattern} (hunits : offsetPattern settings.periodUnits = .ok pattern) :
    FailsWith (fun cause : SpecError => cause.kind = "ValueError")
      (ofFields settings table base limit partitionColumn partition period splitColumn parallelism) := by
  rw [ofFields_eq]
  refine failsWith_bind (failsWith_mapError fun _ _ => rfl) fun plan _ => ?_
  refine failsWith_bind ?_ fun _ _ => ?_
  · unfold checkLimit
    split
    · split
      · exact failsWith_error rfl
      · exact failsWith_ok ()
    · exact failsWith_ok ()
  · refine failsWith_bind (failsWith_mapError (failsWith_normalizePeriod hunits)) fun offset _ => ?_
    refine failsWith_bind ?_ fun start _ => failsWith_ok _
    unfold startOf
    split
    · exact failsWith_ok none
    · exact failsWith_mapError fun _ _ => rfl

/-- Whatever stands in the way of a base query is a wrong value. -/
theorem failsWith_baseOf (settings : Settings) (table rawSql : Option String) :
    FailsWith (fun cause : SpecError => cause.kind = "ValueError") (baseOf settings table rawSql) := by
  unfold baseOf
  split
  · refine failsWith_bind (failsWith_mapError fun _ _ => rfl) fun whole _ => ?_
    split
    · exact failsWith_mapError fun _ _ => rfl
    · exact failsWith_ok whole
  · exact failsWith_error rfl

end ExportSpec

end SplitExport
