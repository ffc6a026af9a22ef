import SplitExport.Proofs.Specifying

/-!
# Specification checks — which of them names the cause

* `SpecCheck` lists the checks that the arguments of a specification go through, in their order.
* `Passes` says what each of them asks for, and `Complaint` what it says of arguments that do not pass. A
  check passes or complains, and one that complains does not pass (`passes_or_complains`,
  `Complaint.not_passes`).
* A complaint of a check whose forerunners all pass is the cause that a specification is refused for
  (`create_eq_error_of_complaint`), and arguments that pass all checks make one.

Of the checks that fail there is a first one, so that these two cases are all there are.
-/

namespace SplitExport

open SplitExport.Calendar SplitExport.Partition SplitExport.Results SplitExport.Sql

/-! ## Checks -/

/-- The checks of a specification, in the order in which they are made. -/
inductive SpecCheck where
  | table
  | query
  | split
  | limit
  | period
  | partition
deriving DecidableEq, Repr

namespace SpecCheck

variable {settings : Settings} {a : SpecArguments} {cause : SpecError}

/-- The number of checks that come before one. -/
def place : SpecCheck → Nat
  | .table => 0
  | .query => 1
  | .split => 2
  | .limit => 3
  | .period => 4
  | .partition => 5

/-- What a check asks of the arguments. -/
def Passes (settings : Settings) (a : SpecArguments) : SpecCheck → Prop
  | .table => ∃ name, a.table = some name ∧ isTableName name = true
  | .query => ∀ source, a.rawSql = some source → isSelect source = true
  | .split => (a.splitColumn = none ∧ a.parallelism = none) ∨
      ∃ column parallelism, a.splitColumn = some column ∧ a.parallelism = some parallelism ∧ 0 < parallelism
  | .limit => ∀ limit, a.limit = some limit → 0 ≤ limit
  | .period => ∃ offset,
      normalizePeriod settings.periodUnits (ExportSpec.periodOr settings a.period) = .ok offset
  | .partition => a.partition = .null ∨ ∃ start, startDate a.partition = .ok start

/-- What a check says of arguments that do not pass. -/
inductive Complaint (settings : Settings) (a : SpecArguments) : SpecCheck → SpecError → Prop where
  | tableMissing : a.table = none → Complaint settings a .table .tableMissing
  | tableName {name : String} : a.table = some name → isTableName name = false →
      Complaint settings a .table (.query .tableName)
  | notSelect {source : String} : a.rawSql = some source → isSelect source = false →
      Complaint settings a .query (.query .notSelect)
  | columnMissing {parallelism : Int} : a.splitColumn = none → a.parallelism = some parallelism →
      Complaint settings a .split (.split .columnMissing)
  | parallelismMissing {column : String} : a.splitColumn = some column → a.parallelism = none →
      Complaint settings a .split (.split .parallelismMissing)
  | notPositive {column : String} {parallelism : Int} : a.splitColumn = some column →
      a.parallelism = some parallelism → parallelism ≤ 0 →
      Complaint settings a .split (.split (.notPositive parallelism))
  | negativeLimit {limit : Int} : a.limit = some limit → limit < 0 →
      Complaint settings a .limit (.negativeLimit limit)
  | period {cause : PeriodError} :
      normalizePeriod settings.periodUnits (ExportSpec.periodOr settings a.period) = .error cause →
      Complaint settings a .period (.period cause)
  | partition {cause : DateError} : a.partition ≠ .null → startDate a.partition = .error cause →
      Complaint settings a .partition (.date cause)

/-- A check passes or complains. -/
theorem passes_or_complains (settings : Settings) (a : SpecArguments) (check : SpecCheck) :
    check.Passes settings a ∨ ∃ cause, Complaint settings a check cause := by
  cases check with
  | table =>
      cases htable : a.table with
      | none => exact Or.inr ⟨_, .tableMissing htable⟩
      | some name =>
          cases hname : isTableName name with
          | true => exact Or.inl ⟨name, htable, hname⟩
          | false => exact Or.inr ⟨_, .tableName htable hname⟩
  | query =>
      cases hsql : a.rawSql with
      | none => exact Or.inl fun source hsource => nomatch hsql.symm.trans hsource
      | some source =>
          cases hselect : isSelect source with
          | true =>
              refine Or.inl fun other hother => ?_
              obtain rfl := Option.some.inj (hsql.symm.trans hother)
              exact hselect
          | false => exact Or.inr ⟨_, .notSelect hsql hselect⟩
  | split =>
      cases hcolumn : a.splitColumn with
      | none =>
          cases hparallelism : a.parallelism with
          | none => exact Or.inl (Or.inl ⟨hcolumn, hparallelism⟩)
          | some parallelism => exact Or.inr ⟨_, .columnMissing hcolumn hparallelism⟩
      | some column =>
          cases hparallelism : a.parallelism with
          | none => exact Or.inr ⟨_, .parallelismMissing hcolumn hparallelism⟩
          | some parallelism =>
              by_cases hpos : 0 < parallelism
              · exact Or.inl (Or.inr ⟨column, parallelism, hcolumn, hparallelism, hpos⟩)
              · exact Or.inr ⟨_, .notPositive hcolumn hparallelism (Int.not_lt.mp hpos)⟩
  | limit =>
      cases hlimit : a.limit with
      | none => exact Or.inl fun limit hsome => nomatch hlimit.symm.trans hsome
      | some limit =>
          by_cases hnegative : limit < 0
          · exact Or.inr ⟨_, .negativeLimit hlimit hnegative⟩
          · refine Or.inl fun other hother => ?_
            obtain rfl := Option.some.inj (hlimit.symm.trans hother)
            exact Int.not_lt.mp hnegative
  | period =>
      cases hperiod : normalizePeriod settings.periodUnits (ExportSpec.periodOr settings a.period) with
      | ok offset => exact Or.inl ⟨offset, hperiod⟩
      | error cause => exact Or.inr ⟨_, .period hperiod⟩
  | partition =>
      by_cases hnull : a.partition = .null
      · exact Or.inl (Or.inl hnull)
      · cases hstart : startDate a.partition with
        | ok start => exact Or.inl (Or.inr ⟨start, hstart⟩)
        | error cause => exact Or.inr ⟨_, .partition hnull hstart⟩

/-- A check that complains does not pass. -/
theorem Complaint.not_passes {check : SpecCheck} (h : Complaint settings a check cause) :
    ¬ check.Passes settings a := by
  intro hpasses
  cases h with
  | tableMissing htable =>
      obtain ⟨name, hname, -⟩ := hpasses
      exact nomatch htable.symm.trans hname
  | tableName htable hbad =>
      obtain ⟨name, hname, hgood⟩ := hpasses
      obtain rfl := Option.some.inj (htable.symm.trans hname)
      exact Bool.false_ne_true (hbad.symm.trans hgood)
  | notSelect hsql hbad => exact Bool.false_ne_true (hbad.symm.trans (hpasses _ hsql))
  | columnMissing hcolumn hparallelism =>
      rcases hpasses with ⟨-, hnone⟩ | ⟨column, -, hsome, -⟩
      · exact nomatch hparallelism.symm.trans hnone
      · exact nomatch hcolumn.symm.trans hsome
  | parallelismMissing hcolumn hparallelism =>
      rcases hpasses with ⟨hnone, -⟩ | ⟨-, parallelism, -, hsome, -⟩
      · exact nomatch hcolumn.symm.trans hnone
      · exact nomatch hparallelism.symm.trans hsome
  | notPositive hcolumn hparallelism hbad =>
      rcases hpasses with ⟨hnone, -⟩ | ⟨-, parallelism, -, hsome, hpos⟩
      · exact nomatch hcolumn.symm.trans hnone
      · obtain rfl := Option.some.inj (hparallelism.symm.trans hsome)
        exact absurd hpos (Int.not_lt.mpr hbad)
  | negativeLimit hlimit hbad => exact absurd hbad (Int.not_lt.mpr (hpasses _ hlimit))
  | period hperiod =>
      obtain ⟨offset, hoffset⟩ := hpasses
      exact nomatch hperiod.symm.trans hoffset
  | partition hgiven hstart =>
      rcases hpasses with hnull | ⟨start, hsome⟩
      · exact hgiven hnull
      · exact nomatch hstart.symm.trans hsome

/-- Among the checks up to one that does not pass, there is a first one that does not. -/
theorem exists_first {P : SpecCheck → Prop} {check : SpecCheck} (h : ¬ P check) :
    ∃ first, ¬ P first ∧ ∀ earlier : SpecCheck, earlier.place < first.place → P earlier := by
  by_cases hall : ∀ earlier : SpecCheck, earlier.place < check.place → P earlier
  · exact ⟨check, h, hall⟩
  · simp only [Classical.not_forall] at hall
    obtain ⟨earlier, hearlier, hbad⟩ := hall
    exact exists_first hbad
termination_by check.place

end SpecCheck

/-! ## Stages -/

namespace ExportSpec

open SpecCheck

variable {settings : Settings} {a : SpecArguments} {cause : SpecError}

/-- The checks of a specification one after the other. -/
theorem create_eq (settings : Settings) (a : SpecArguments) :
    create settings a = (do
      let base ← baseOf settings a.table a.rawSql
      let _ ← (splitPlan a.splitColumn a.parallelism).mapError .split
      checkLimit a.limit
      let period ← (normalizePeriod settings.periodUnits (periodOr settings a.period)).mapError .period
      let partition ← startOf a.partition
      return ⟨a.table, base, a.limit, a.partitionColumn, partition, period, a.splitColumn,
        a.parallelism⟩) := by
  unfold create
  simp only [ofFields_eq]

/-- With the name of a table the base query is the one of the query given as text, or the table's. -/
theorem baseOf_of_passes (htable : SpecCheck.table.Passes settings a) :
    ∃ whole, baseOf settings a.table a.rawSql = match a.rawSql with
      | some source => (BaseQuery.ofRaw settings.rawAlias source).mapError .query
      | none => .ok whole := by
  obtain ⟨name, hname, hgood⟩ := htable
  refine ⟨⟨"SELECT * FROM " ++ name ++ " WHERE 1=1"⟩, ?_⟩
  unfold baseOf BaseQuery.ofTable
  rw [hname]
  dsimp only
  rw [if_pos hgood]
  rfl

/-- A table and a query that pass make a base query. -/
theorem exists_baseOf (htable : SpecCheck.table.Passes settings a) (hquery : SpecCheck.query.Passes settings a) :
    ∃ base, baseOf settings a.table a.rawSql = .ok base := by
  obtain ⟨whole, hbase⟩ := baseOf_of_passes htable
  rw [hbase]
  cases hsql : a.rawSql with
  | none => exact ⟨whole, rfl⟩
  | some source =>
      unfold BaseQuery.ofRaw
      dsimp only
      rw [if_pos (hquery source hsql)]
      exact ⟨_, rfl⟩

/-- Split arguments that pass have a plan, or none is needed. -/
theorem exists_splitPlan (hsplit : SpecCheck.split.Passes settings a) :
    ∃ plan, splitPlan a.splitColumn a.parallelism = .ok plan := by
  rcases hsplit with ⟨hcolumn, hparallelism⟩ | ⟨column, parallelism, hcolumn, hparallelism, hpos⟩
  · rw [hcolumn, hparallelism]
    exact ⟨none, rfl⟩
  · rw [hcolumn, hparallelism]
    exact ⟨_, splitPlan_eq_plan hpos⟩

/-- A limit that passes is let through. -/
theorem checkLimit_of_passes (hlimit : SpecCheck.limit.Passes settings a) : checkLimit a.limit = .ok () := by
  cases hgiven : a.limit with
  | none => rfl
  | some limit =>
      show (if limit < 0 then _ else _) = _
      rw [if_neg (Int.not_lt.mpr (hlimit limit hgiven))]

/-- A partition that passes starts somewhere, or there is none. -/
theorem exists_startOf (hpartition : SpecCheck.partition.Passes settings a) :
    ∃ start, startOf a.partition = .ok start := by
  rcases hpartition with hnull | ⟨start, hstart⟩
  · rw [hnull]
    exact ⟨none, rfl⟩
  · unfold startOf
    split
    · exact ⟨none, rfl⟩
    · rw [hstart]
      exact ⟨some start, rfl⟩

/-- Arguments that pass all checks make a specification. -/
theorem exists_create (h : ∀ check : SpecCheck, check.Passes settings a) :
    ∃ spec, create settings a = .ok spec := by
  obtain ⟨base, hbase⟩ := exists_baseOf (h .table) (h .query)
  obtain ⟨plan, hplan⟩ := exists_splitPlan (h .split)
  obtain ⟨offset, hoffset⟩ := h .period
  obtain ⟨start, hstart⟩ := exists_startOf (h .partition)
  rw [create_eq, hbase, hplan, checkLimit_of_passes (h .limit), hoffset, hstart]
  exact ⟨_, rfl⟩

/-- **A complaint of a check whose forerunners pass is what a specification is refused for.** -/
theorem create_eq_error_of_complaint {check : SpecCheck} (hcomplaint : Complaint settings a check cause)
    (hpassed : ∀ earlier : SpecCheck, earlier.place < check.place → earlier.Passes settings a) :
    create settings a = .error cause := by
  -- what the stages in front of the check have come to
  have hbase : 1 < check.place → ∃ base, baseOf settings a.table a.rawSql = .ok base := by
    intro hplace
    exact exists_baseOf (hpassed .table (Nat.zero_lt_of_lt hplace)) (hpassed .query hplace)
  have hplan : 2 < check.place → ∃ plan, splitPlan a.splitColumn a.parallelism = .ok plan :=
    fun hplace => exists_splitPlan (hpassed .split hplace)
  have hlimit : 3 < check.place → checkLimit a.limit = .ok () :=
    fun hplace => checkLimit_of_passes (hpassed .limit hplace)
  rw [create_eq]
  cases hcomplaint with
  | tableMissing htable =>
      rw [htable]
      rfl
  | tableName htable hbad =>
      have hrefused : baseOf settings a.table a.rawSql = .error (.query .tableName) := by
        unfold baseOf BaseQuery.ofTable
        rw [htable]
        dsimp only
        rw [if_neg (Bool.eq_false_iff.mp hbad)]
        rfl
      rw [hrefused]
      rfl
  | notSelect hsql hbad =>
      obtain ⟨whole, hraw⟩ := baseOf_of_passes (hpassed .table (by decide))
      rw [hraw, hsql]
      unfold BaseQuery.ofRaw
      dsimp only
      rw [if_neg (Bool.eq_false_iff.mp hbad)]
      rfl
  | columnMissing hcolumn hparallelism =>
      obtain ⟨base, hbase⟩ := hbase (by decide)
      rw [hbase, hcolumn, hparallelism]
      rfl
  | parallelismMissing hcolumn hparallelism =>
      obtain ⟨base, hbase⟩ := hbase (by decide)
      rw [hbase, hcolumn, hparallelism]
      rfl
  | notPositive hcolumn hparallelism hbad =>
      obtain ⟨base, hbase⟩ := hbase (by decide)
      rw [hbase, hcolumn, hparallelism, splitPlan, dif_neg (Int.not_lt.mpr hbad)]
      rfl
  | @negativeLimit limit hgiven hbad =>
      obtain ⟨base, hbase⟩ := hbase (by decide)
      obtain ⟨plan, hplan⟩ := hplan (by decide)
      have hrefused : checkLimit a.limit = .error (.negativeLimit limit) := by
        rw [hgiven, checkLimit, if_pos hbad]
      rw [hbase, hplan, hrefused]
      rfl
  | period hperiod =>
      obtain ⟨base, hbase⟩ := hbase (by decide)
      obtain ⟨plan, hplan⟩ := hplan (by decide)
      rw [hbase, hplan, hlimit (by decide), hperiod]
      rfl
  | @partition cause hgiven hstart =>
      obtain ⟨base, hbase⟩ := hbase (by decide)
      obtain ⟨plan, hplan⟩ := hplan (by decide)
      obtain ⟨offset, hoffset⟩ := hpassed .period (by decide)
      have hrefused : startOf a.partition = .error (.date cause) := by
        unfold startOf
        split
        · exact absurd ‹_› hgiven
        · rw [hstart]
          rfl
      rw [hbase, hplan, hlimit (by decide), hoffset, hrefused]
      rfl

/-- Whatever stands in the way of a specification is a wrong value, with units that make a pattern. -/
theorem failsWith_create {pattern : Pattern} (hunits : offsetPattern settings.periodUnits = .ok pattern) :
    FailsWith (fun cause : SpecError => cause.kind = "ValueError") (create settings a) :=
  failsWith_bind (failsWith_baseOf settings a.table a.rawSql) fun _ _ => failsWith_ofFields hunits

/-! ## Main result -/

/-- **The first check that fails names the cause.** Arguments make a specification if they pass all six
    checks. Otherwise the specification is refused for the complaint of the first check that they do not
    pass, and for nothing else; and this is a wrong value, as long as the units of periods make a pattern,
    which those of an installation that changes nothing do. -/
theorem first_failing_check_names_cause (settings : Settings) (a : SpecArguments) :
    ((∃ spec, create settings a = .ok spec) ↔ ∀ check : SpecCheck, check.Passes settings a) ∧
    (∀ cause, create settings a = .error cause ↔ ∃ check : SpecCheck,
      ¬ check.Passes settings a ∧ Complaint settings a check cause ∧
        ∀ earlier : SpecCheck, earlier.place < check.place → earlier.Passes settings a) ∧
    (∀ pattern cause, offsetPattern settings.periodUnits = .ok pattern →
      create settings a = .error cause → cause.kind = "ValueError") ∧
    ∃ pattern, offsetPattern ({} : Settings).periodUnits = .ok pattern := by
  -- either all checks pass, or the first that does not has a complaint
  have hcases : (∀ check : SpecCheck, check.Passes settings a) ∨
      ∃ cause check, Complaint settings a check cause ∧
        ∀ earlier : SpecCheck, earlier.place < check.place → earlier.Passes settings a := by
    by_cases hall : ∀ check : SpecCheck, check.Passes settings a
    · exact Or.inl hall
    · obtain ⟨failing, hfailing⟩ := Classical.not_forall.mp hall
      obtain ⟨check, hcheck, hpassed⟩ := exists_first hfailing
      obtain ⟨cause, hcomplaint⟩ := (passes_or_complains settings a check).resolve_left hcheck
      exact Or.inr ⟨cause, check, hcomplaint, hpassed⟩
  refine ⟨⟨?_, exists_create⟩, ?_, fun pattern cause hunits hcause => failsWith_create hunits cause hcause,
    exists_offsetPattern_default⟩
  · rintro ⟨spec, hspec⟩
    rcases hcases with hall | ⟨cause, check, hcomplaint, hpassed⟩
    · exact hall
    · exact nomatch hspec.symm.trans (create_eq_error_of_complaint hcomplaint hpassed)
  · intro cause
    constructor
    · intro hcause
      rcases hcases with hall | ⟨named, check, hcomplaint, hpassed⟩
      · obtain ⟨spec, hspec⟩ := exists_create hall
        exact nomatch hspec.symm.trans hcause
      · have hnamed := create_eq_error_of_complaint hcomplaint hpassed
        obtain rfl := Except.error.inj (hnamed.symm.trans hcause)
        exact ⟨check, hcomplaint.not_passes, hcomplaint, hpassed⟩
    · rintro ⟨check, -, hcomplaint, hpassed⟩
      exact create_eq_error_of_complaint hcomplaint hpassed

/-- Arguments that four checks are against: a column without a parallelism, a negative limit, a period of
    nothing and a partition that is no date. -/
def misfits : SpecArguments where
  table := some "users"
  limit := some (-1)
  partition := .int 20270131
  period := .text "0d"
  splitColumn := some "id"

/-- The split arguments are checked before the limit, the period and the partition. -/
theorem split_of_misfits_is_named :
    create {} misfits = .error (.split .parallelismMissing) ∧
      SpecError.kind (.split .parallelismMissing) = "ValueError" := by
  obtain ⟨-, hfirst, hkind, pattern, hunits⟩ := first_failing_check_names_cause {} misfits
  have hrefused : create {} misfits = .error (.split .parallelismMissing) := by
    have hcomplaint : Complaint {} misfits .split (.split .parallelismMissing) := .parallelismMissing rfl rfl
    refine (hfirst _).mpr ⟨.split, hcomplaint.not_passes, hcomplaint, fun earlier hearlier => ?_⟩
    cases earlier with
    | table => exact ⟨"users", rfl, by decide⟩
    | query => exact fun source hsource => nomatch hsource
    | _ => exact absurd hearlier (by decide)
  exact ⟨hrefused, hkind pattern _ hunits hrefused⟩

end ExportSpec

end SplitExport
