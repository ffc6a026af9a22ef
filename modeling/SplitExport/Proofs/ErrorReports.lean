import SplitExport.Proofs.CommandLines
import SplitExport.Proofs.Connections
import SplitExport.Proofs.ProbeFaults
import SplitExport.Proofs.RangeCount

/-!
# Error reports — which errors the command reports, and which leave it

* `Surroundings.IsOrdinary` says that an installation changes nothing, that connecting fails in the ways that
  are known of drivers, and that every connection gives answers that a probe may count on.
* `Unhandled` lists what the command does not report even there: a flag without the value that it needs, a
  partition that has no end for another reason than a wrong value, and a day in an answer that no year has.
* Each step of the command fails with an error that is reported or with one of these. A run goes through the
  steps of its course, so that it prints queries, reports an error, or meets what it does not handle.
-/

namespace SplitExport

open SplitExport.Partition SplitExport.Probe SplitExport.Results

namespace Command

variable {w : Surroundings} {line : List String} {a : Arguments}

/-! ## Errors that are reported, and others -/

/-- An error has a text that it is reported with. -/
def CommandError.IsReported (e : CommandError) : Prop :=
  ∃ text, e.report? = some text

/-- An error that is not reported does not end the command with a code. -/
theorem CommandError.ending_ne_finished (e : CommandError) (code : Nat) : e.ending ≠ .finished code := by
  intro h
  unfold ending at h
  split at h
  · exact nomatch h
  · exact nomatch h

/-- What the command does not handle. -/
inductive Unhandled (w : Surroundings) (a : Arguments) : CommandError → Prop where
  /-- A flag is given without the value that it needs. -/
  | valueless {flag : Flag} : a.LacksValue flag → Unhandled w a (.valueless flag)
  /-- The partition has no end, and its start or its period is not called a wrong value for it. -/
  | endless {spec : ExportSpec} {cause : WindowError} : specOf w a = .ok spec →
      spec.partitionCondition = .error cause → cause.kind ≠ "ValueError" →
      Unhandled w a (.build (.window spec.period cause))
  /-- The answer to the probe has a day that is beyond all years. -/
  | unreadable {spec : ExportSpec} {call : ConnectCall} {opened : Source} {sql : String} {frame : Frame}
      {fault : Fault} : specOf w a = .ok spec → w.connect call = .ok opened →
      (Executor.execute ⟨some call.driver, opened⟩ sql).1 = .ok frame →
      frame.unreadable? 0 = some fault → fault.isFatal = true →
      Unhandled w a (.build (.answer (.escaped fault)))

/-- Surroundings in which nothing is changed and connections fail and answer as they should. -/
structure Surroundings.IsOrdinary (w : Surroundings) : Prop where
  settings : w.settings = {}
  refusals : ∀ call fault, w.connect call = .error fault →
    fault.family = .value ∨ fault.family = .system ∨ fault.family = .database
  answers : ∀ call opened, w.connect call = .ok opened → ∀ sql,
    IsAnswer w.settings (Executor.execute ⟨some call.driver, opened⟩ sql).1

/-- The executor that is there for a build after some calls: none without a call, and with one the executor
    of the connection that it opens. -/
inductive Surroundings.Lends (w : Surroundings) : List ConnectCall → Option Executor → Prop where
  | nobody : Lends w [] none
  | connection {call : ConnectCall} {opened : Source} : w.connect call = .ok opened →
      Lends w [call] (some ⟨some call.driver, opened⟩)

/-! ## Specifications -/

/-- A wrong value in a specification is reported. -/
theorem isReported_spec {cause : SpecError} (h : cause.kind = "ValueError") :
    (CommandError.spec cause).IsReported :=
  ⟨cause.message, if_pos h⟩

/-- Whatever is wrong with the file of the query is reported. -/
theorem failsWith_sqlOf (w : Surroundings) (a : Arguments) :
    FailsWith CommandError.IsReported (sqlOf w a) := by
  unfold sqlOf
  split
  · exact failsWith_ok none
  · refine failsWith_bind (failsWith_mapError fun cause _ => ⟨cause.message, rfl⟩) fun octets _ => ?_
    exact failsWith_bind (failsWith_mapError fun cause _ => ⟨cause.message, rfl⟩) fun _ _ => failsWith_ok _

/-- A flag that may not be empty is refused if it is. -/
theorem Given.failsWith_required {α : Type} (flag : Flag) (given : Given α) :
    FailsWith (fun e => given = .empty ∧ e = .valueless flag) (given.required flag) := by
  cases given with
  | absent => exact failsWith_ok none
  | empty => exact failsWith_error ⟨rfl, rfl⟩
  | value value => exact failsWith_ok (some value)

/-- Arguments that make no specification are reported, unless a flag lacks its value. -/
theorem failsWith_specOf (hsettings : w.settings = {}) :
    FailsWith (fun e => e.IsReported ∨ Unhandled w a e) (specOf w a) := by
  obtain ⟨pattern, hunits⟩ := exists_offsetPattern_default
  rw [← hsettings] at hunits
  have hrequired : ∀ {α : Type} {flag : Flag} {given : Given α}, (given = .empty → a.LacksValue flag) →
      FailsWith (fun e => e.IsReported ∨ Unhandled w a e) (given.required flag) := by
    intro α flag given hlacks e he
    obtain ⟨hempty, rfl⟩ := given.failsWith_required flag e he
    exact Or.inr (.valueless (hlacks hempty))
  unfold specOf
  refine failsWith_bind (fun e he => Or.inl (failsWith_sqlOf w a e he)) fun rawSql _ => ?_
  refine failsWith_bind (hrequired id) fun table _ => ?_
  refine failsWith_bind (failsWith_mapError fun cause hcause =>
    Or.inl (isReported_spec (ExportSpec.failsWith_baseOf _ _ _ cause hcause))) fun base _ => ?_
  refine failsWith_bind ?_ fun parallelism _ => ?_
  · unfold parallelismOf
    split
    · exact failsWith_error (Or.inl (isReported_spec rfl))
    · exact hrequired id
  · refine failsWith_bind (failsWith_mapError fun cause _ => Or.inl (isReported_spec rfl)) fun plan _ => ?_
    refine failsWith_bind (hrequired id) fun limit _ => ?_
    exact failsWith_mapError fun cause hcause =>
      Or.inl (isReported_spec (ExportSpec.failsWith_ofFields hunits cause hcause))

/-! ## Connections -/

/-- All parts of the database that the arguments name are known, so that only a port may be missing. -/
theorem failsWith_callOf (w : Surroundings) (a : Arguments) (settings : Settings) (driver : Driver)
    (database : String) :
    FailsWith (fun cause => cause.kind = "ValueError")
      ((endpointOf w a).callOf settings driver database) := by
  unfold Endpoint.callOf
  split
  · split
    · exact failsWith_ok _
    · exact failsWith_ok _
  · refine failsWith_bind ?_ fun options _ => failsWith_ok _
    unfold Endpoint.networkOptions
    refine failsWith_bind (failsWith_ok _) fun host _ => ?_
    dsimp only
    split
    · exact failsWith_bind (failsWith_ok _) fun port _ => failsWith_ok _
    · refine failsWith_bind ?_ fun port _ => failsWith_ok _
      unfold Settings.portOf
      split
      · exact failsWith_ok _
      · exact failsWith_error rfl

/-- That nothing can be asked for is reported. -/
theorem isReported_of_connect_eq_error {settings : Settings} {reach : ConnectCall → Except Fault Source}
    {database : String} {cause : EndpointError}
    (h : ((endpointOf w a).connect settings reach database).result = .error (.endpoint cause)) :
    (CommandError.connection (.endpoint cause)).IsReported := by
  have hkind : cause.kind = "ValueError" := by
    unfold Endpoint.connect at h
    split at h
    · obtain rfl := ConnectionError.endpoint.inj (Except.error.inj h)
      rfl
    · dsimp only at h
      split at h
      · rename_i hcall
        obtain rfl := ConnectionError.endpoint.inj (Except.error.inj h)
        exact failsWith_callOf w a settings _ database _ hcall
      · obtain ⟨fault, -, heq⟩ := mapError_eq_error.mp h
        exact nomatch heq
  cases cause with
  | missing part => exact absurd (show "KeyError" = "ValueError" from hkind) (by decide)
  | unsupported name => exact ⟨_, rfl⟩
  | noPort name => exact ⟨_, rfl⟩

/-- A call that fails as drivers fail is reported. -/
theorem isReported_refused {fault : Fault}
    (h : fault.family = .value ∨ fault.family = .system ∨ fault.family = .database) :
    (CommandError.connection (.refused fault)).IsReported := by
  rcases h with h | h | h
  · exact ⟨fault.text, by simp only [CommandError.report?, h]⟩
  · exact ⟨fault.text, by simp only [CommandError.report?, h]⟩
  · exact ⟨fault.name ++ ": " ++ fault.text, by simp only [CommandError.report?, h]⟩

/-! ## Builds -/

/-- A wrong value that a build meets is reported. -/
theorem isReported_build {cause : BuildError} (h : cause.kind = "ValueError") :
    (CommandError.build cause).IsReported := by
  cases cause with
  | start | split | limit | executorMissing | probe => exact ⟨_, rfl⟩
  | window | answer | chunking => exact ⟨_, if_pos h⟩

/-- A fault of a probe is reported, unless the answer cannot be read for a reason that is no wrong value. -/
theorem isReported_or_unhandled_of_run {spec : ExportSpec} {call : ConnectCall} {opened : Source}
    {condition column : String} {cause : ProbeFault} (hw : w.IsOrdinary) (hspec : specOf w a = .ok spec)
    (hconnect : w.connect call = .ok opened)
    (hrun : (Probe.run w.settings ⟨some call.driver, opened⟩ spec.base condition column).outcome =
      .error cause) :
    CommandError.IsReported (.build (.answer cause)) ∨ Unhandled w a (.build (.answer cause)) := by
  rcases run_eq_error (hw.answers call opened hconnect _) hrun with
    ⟨frame, fault, hframe, hunreadable, rfl⟩ | rfl
  · rcases Frame.isReadingFault_of_unreadable? hunreadable with hname | hfatal
    · exact Or.inl (isReported_build hname)
    · exact Or.inr (.unreadable hspec hconnect hframe hunreadable hfatal)
  · exact Or.inl (isReported_build rfl)

/-- What stands in the way of a build is reported, unless its partition has no end, or the answer to its
    probe cannot be read, for a reason that is no wrong value. -/
theorem failsWith_build {spec : ExportSpec} {calls : List ConnectCall} {executor : Option Executor}
    (hw : w.IsOrdinary) (hspec : specOf w a = .ok spec) (hlends : w.Lends calls executor) :
    FailsWith (fun cause => CommandError.IsReported (.build cause) ∨ Unhandled w a (.build cause))
      (spec.build w.settings executor).result := by
  cases hstart : spec.started.isWritten with
  | false =>
      rw [ExportSpec.build_of_unwritten hstart]
      exact failsWith_error (Or.inl (isReported_build rfl))
  | true =>
      have hends := ExportSpec.ends_build w.settings executor hstart
      generalize spec.build w.settings executor = built at hends ⊢
      cases hends with
      | refused hplan => exact failsWith_error (Or.inl (isReported_build rfl))
      | @unconditioned plan cause hplan hcondition =>
          refine failsWith_error ?_
          by_cases hkind : cause.kind = "ValueError"
          · exact Or.inl (isReported_build hkind)
          · exact Or.inr (.endless hspec hcondition hkind)
      | whole hplan hcondition =>
          intro cause hcause
          obtain rfl := ExportSpec.cause_of_wholeQueries_eq_error hcause
          exact Or.inl (isReported_build rfl)
      | unasked hplan hcondition hnone => exact failsWith_error (Or.inl (isReported_build rfl))
      | @asked plan condition e told result hplan hcondition hsome hquiet hprobed =>
          obtain ⟨call, opened, hconnect, rfl⟩ : ∃ call opened, w.connect call = .ok opened ∧
              e = ⟨some call.driver, opened⟩ := by
            cases hlends with
            | nobody => exact nomatch hsome
            | @connection call opened hconnect =>
                exact ⟨call, opened, hconnect, (Option.some.inj hsome).symm⟩
          show FailsWith _ result
          cases hprobed with
          | fault hrun => exact failsWith_error (isReported_or_unhandled_of_run hw hspec hconnect hrun)
          | failure hrun => exact failsWith_error (Or.inl ⟨_, rfl⟩)
          | bounds hrun =>
              intro cause hcause
              rcases ExportSpec.cause_of_splitQueries_eq_error hcause with rfl | rfl
              · exact Or.inl (isReported_build rfl)
              · exact Or.inl (isReported_build rfl)

/-! ## Courses -/

variable {calls : List ConnectCall} {source : Option Source} {result : Except CommandError (List String)}

/-- Whatever course the command takes, it fails with an error that is reported or with one that it does not
    handle. -/
theorem Course.failsWith (hw : w.IsOrdinary) (hline : Request.read line = .ok (.run a))
    (h : Course w a calls source result) : FailsWith (fun e => e.IsReported ∨ Unhandled w a e) result := by
  cases h with
  | unspecified hspec => exact failsWith_error (failsWith_specOf hw.settings _ hspec)
  | whole hspec hsplit => exact failsWith_mapError (failsWith_build hw hspec .nobody)
  | nameless hspec hsplit hname =>
      have hpresent := isPresent_dbType_of_read hline
      refine failsWith_error (Or.inr (.valueless ?_))
      show a.dbType = .empty
      cases hgiven : a.dbType with
      | absent =>
          rw [hgiven] at hpresent
          exact nomatch hpresent
      | empty => rfl
      | value name =>
          rw [hgiven] at hname
          exact nomatch hname
  | uncalled hspec hsplit hresult => exact failsWith_error (Or.inl (isReported_of_connect_eq_error hresult))
  | unconnected hspec hsplit hconnect =>
      exact failsWith_error (Or.inl (isReported_refused (hw.refusals _ _ hconnect)))
  | connected hspec hsplit hconnect =>
      exact failsWith_mapError (failsWith_build hw hspec (.connection hconnect))

/-- The queries of a course are those of the build that it makes. -/
theorem Course.exists_build {queries : List String} (h : Course w a calls source (.ok queries)) :
    ∃ spec executor, specOf w a = .ok spec ∧ w.Lends calls executor ∧
      (spec.build w.settings executor).result = .ok queries := by
  generalize hresult : Except.ok queries = result at h
  cases h with
  | whole hspec hsplit => exact ⟨_, none, hspec, .nobody, mapError_eq_ok.mp hresult.symm⟩
  | connected hspec hsplit hconnect =>
      exact ⟨_, _, hspec, .connection hconnect, mapError_eq_ok.mp hresult.symm⟩
  | _ => exact nomatch hresult

/-! ## Main result -/

/-- **The command prints the queries of a build, or reports why there are none, and else meets one of three
    things that it does not handle.** In ordinary surroundings, and for every command line that can be read,
    it ends with 0 and has printed the queries that a build gives for the specification of its arguments; or
    it ends with 1, has printed nothing, and has reported its error; or a flag lacks a value, the partition
    has no end, or the answer to the probe has a day beyond all years. -/
theorem run_prints_or_reports_or_meets_unhandled (hw : w.IsOrdinary)
    (hline : Request.read line = .ok (.run a)) :
    (∃ rawSql spec executor queries, sqlOf w a = .ok rawSql ∧
      ExportSpec.create w.settings (a.specArguments rawSql) = .ok spec ∧
      w.Lends (run w line).calls executor ∧ (spec.build w.settings executor).result = .ok queries ∧
      (run w line).ending = .finished 0 ∧ (run w line).stdout = printed a.printFormat queries) ∨
    (∃ text, (run w line).ending = .finished 1 ∧ (run w line).stdout = "" ∧
      (run w line).stderr = "Error: " ++ text ++ "\n") ∨
    ∃ e, Unhandled w a e ∧ (run w line).ending = e.ending := by
  obtain ⟨calls, source, result, hcourse, hshows⟩ := run_takes_course (w := w) hline
  rw [hshows.ending, hshows.stdout, hshows.stderr, hshows.calls]
  cases result with
  | ok queries =>
      obtain ⟨spec, executor, hspec, hlends, hbuilt⟩ := hcourse.exists_build
      obtain ⟨rawSql, hsql, hcreate⟩ := create_of_specOf_eq_ok hspec
      exact Or.inl ⟨rawSql, spec, executor, queries, hsql, hcreate, hlends, hbuilt, rfl, rfl⟩
  | error e =>
      have haccounted := hcourse.failsWith hw hline e rfl
      unfold CommandRun.ofResult
      dsimp only
      cases hreport : e.report? with
      | some text => exact Or.inr (Or.inl ⟨text, rfl, rfl, rfl⟩)
      | none =>
          rcases haccounted with ⟨text, htext⟩ | hunhandled
          · rw [hreport] at htext
            exact nomatch htext
          · exact Or.inr (Or.inr ⟨e, hunhandled, rfl⟩)

/-- Surroundings without files, whose databases answer every statement with the bounds 1 and 4 if they are
    asked for columns, and else refuse it. -/
def answering : Surroundings where
  files path := .error ⟨.missing, path⟩
  connect _ := .ok oneToFour.source

theorem isOrdinary_answering : answering.IsOrdinary where
  settings := rfl
  refusals call fault hfault := nomatch hfault
  answers := by
    rintro ⟨driver, arguments, options⟩ opened hopened sql
    obtain rfl := Except.ok.inj hopened
    cases driver with
    | postgres => exact .fault rfl
    | vertica => exact .fault rfl
    | duckdb => exact .frame rfl rfl rfl

/-- A command line for a table that is split in three. -/
def usersLine : List String :=
  ["--db-type", "duckdb", "--table", "users", "--split-column", "id", "--query-parallelism", "3"]

/-- The arguments that it is read to. -/
def usersArguments : Arguments where
  dbType := .value "duckdb"
  table := .value "users"
  splitColumn := .value "id"
  queryParallelism := .value 3

/-- That command line prints the queries of a build on the connection that it makes. -/
theorem usersLine_prints_queries :
    answering.IsOrdinary ∧ Request.read usersLine = .ok (.run usersArguments) ∧
      ∃ spec executor queries, ExportSpec.create {} (usersArguments.specArguments none) = .ok spec ∧
        answering.Lends (run answering usersLine).calls executor ∧
        (spec.build {} executor).result = .ok queries ∧
        (run answering usersLine).ending = .finished 0 ∧
        (run answering usersLine).stdout = printed .text queries := by
  have hline : Request.read usersLine = .ok (.run usersArguments) := by decide +kernel
  have hending : (run answering usersLine).ending = .finished 0 := by decide +kernel
  refine ⟨isOrdinary_answering, hline, ?_⟩
  rcases run_prints_or_reports_or_meets_unhandled isOrdinary_answering hline with
    ⟨rawSql, spec, executor, queries, hsql, hcreate, hlends, hbuilt, -, hstdout⟩ | ⟨text, hone, -, -⟩ |
    ⟨e, -, he⟩
  · obtain rfl := Except.ok.inj hsql
    exact ⟨spec, executor, queries, hcreate, hlends, hbuilt, hending, hstdout⟩
  · rw [hending] at hone
    exact nomatch hone
  · exact absurd (he.symm.trans hending) (e.ending_ne_finished 0)

/-- Surroundings without files, whose databases cannot be reached. -/
def unreachable : Surroundings where
  files path := .error ⟨.missing, path⟩
  connect _ := .error ⟨"OperationalError", "connection refused", .database⟩

theorem isOrdinary_unreachable : unreachable.IsOrdinary where
  settings := rfl
  refusals call fault hfault := by
    obtain rfl := Except.error.inj hfault
    exact Or.inr (Or.inr rfl)
  answers call opened hopened := nomatch hopened

/-- A period that leads from a valid date out of the calendar leaves the command as an error that nobody
    handled: it ends with neither 0 nor 1. -/
theorem overlong_period_is_not_reported :
    ¬ ∀ (w : Surroundings) (line : List String) (a : Arguments), w.IsOrdinary →
      Request.read line = .ok (.run a) →
      (run w line).ending = .finished 0 ∨ (run w line).ending = .finished 1 := by
  intro h
  have hending := h unreachable
    ["--table", "users", "--partition-column", "created", "--partition", "2027-01-01",
      "--partition-period", "300000y"]
    { table := .value "users", partitionColumn := .value "created", partition := .value "2027-01-01",
      partitionPeriod := .value "300000y" }
    isOrdinary_unreachable (by decide +kernel)
  revert hending
  decide +kernel

end Command

end SplitExport
