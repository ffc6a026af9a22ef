import SplitExport.Command.Run
import SplitExport.Proofs.BuildStages
import SplitExport.Proofs.Specifying

/-!
# Connections — what the command does to a database

* `Course` lists how far the command comes with its arguments, one constructor for each stage, with the
  calls that it made, the connection as it is left, and the result that it prints. Every run takes one of
  these courses (`run_takes_course`).
* `Source.UsedOnce` says of a connection that at most one statement ran on it, that each of its cursors was
  closed, and that it was closed once itself.

The main result is read off the courses: a connection is made for a split export only, by one call, and
is used once, however the command ends.
-/

namespace SplitExport

open SplitExport.Results

/-! ## Use of a source -/

/-- A connection as it was opened and as it is left: at most one statement ran on it, each cursor that was
    opened was closed, and it was closed once. -/
structure Source.UsedOnce (opened left : Source) : Prop where
  statements : ∃ statements : List String,
    statements.length ≤ 1 ∧ left.executed = opened.executed ++ statements
  cursors : ∃ cursors : Nat, left.cursorsOpened = opened.cursorsOpened + cursors ∧
    left.cursorsClosed = opened.cursorsClosed + cursors
  closed : left.closed = opened.closed + 1

namespace Executor

/-- Closing an executor that ran nothing uses its source once. -/
theorem usedOnce_close (e : Executor) : e.source.UsedOnce e.close.source where
  statements := ⟨[], Nat.zero_le 1, (List.append_nil _).symm⟩
  cursors := ⟨0, rfl, rfl⟩
  closed := rfl

/-- Closing an executor after one statement uses its source once: a cursor is opened for the statement by
    the drivers that work with cursors, and closed behind it. -/
theorem usedOnce_close_execute (e : Executor) (sql : String) :
    e.source.UsedOnce (e.execute sql).2.close.source := by
  refine ⟨⟨[sql], Nat.le_refl 1, e.executed_execute sql⟩, ?_, ?_⟩
  · unfold execute
    cases e.catalog? with
    | none => exact ⟨0, rfl, rfl⟩
    | some catalog => exact ⟨1, rfl, rfl⟩
  · unfold execute
    cases e.catalog? <;> rfl

end Executor

/-- A build leaves its executor as it was, or as one statement leaves it. -/
theorem ExportSpec.executor_build (settings : Settings) (s : ExportSpec) (e : Executor) :
    (s.build settings (some e)).executor = some e ∨
      ∃ sql, (s.build settings (some e)).executor = some (e.execute sql).2 := by
  cases hstart : s.started.isWritten with
  | false =>
      rw [build_of_unwritten hstart]
      exact Or.inl rfl
  | true =>
      have hends := ends_build settings (some e) hstart
      generalize s.build settings (some e) = built at hends ⊢
      cases hends with
      | refused => exact Or.inl rfl
      | unconditioned => exact Or.inl rfl
      | whole => exact Or.inl rfl
      | unasked _ _ hnone => exact nomatch hnone
      | asked _ _ hsome =>
          obtain rfl := Option.some.inj hsome
          exact Or.inr ⟨_, rfl⟩

/-! ## Connecting -/

namespace Endpoint

variable {settings : Settings} {reach : ConnectCall → Except Fault Source} {database : String} {e : Endpoint}

/-- The call that connects to a database is one of its driver. -/
theorem driver_of_callOf_eq_ok {driver : Driver} {call : ConnectCall}
    (h : e.callOf settings driver database = .ok call) : call.driver = driver := by
  unfold callOf at h
  split at h
  · split at h
    · obtain rfl := Except.ok.inj h
      rfl
    · obtain rfl := Except.ok.inj h
      rfl
  · obtain ⟨options, -, h⟩ := bind_eq_ok.mp h
    obtain rfl := Except.ok.inj h
    rfl

/-- Connecting makes no call and names the cause, or makes one call of the driver of the database. -/
theorem connect_cases (settings : Settings) (reach : ConnectCall → Except Fault Source) (database : String)
    (e : Endpoint) :
    (∃ cause, (e.connect settings reach database).calls = [] ∧
      (e.connect settings reach database).result = .error (.endpoint cause)) ∨
    ∃ call, Driver.ofDatabase? database = some call.driver ∧
      (e.connect settings reach database).calls = [call] ∧
      (e.connect settings reach database).result = (reach call).mapError .refused := by
  unfold connect
  split
  · exact Or.inl ⟨_, rfl, rfl⟩
  · rename_i driver hdriver
    dsimp only
    split
    · exact Or.inl ⟨_, rfl, rfl⟩
    · rename_i call hcall
      obtain rfl := driver_of_callOf_eq_ok hcall
      exact Or.inr ⟨call, hdriver, rfl, rfl⟩

/-- Every connection that can be made gets an executor. -/
theorem exists_executor_of_connect_eq_ok {source : Source}
    (h : (e.connect settings reach database).result = .ok source) :
    ∃ executor, Executor.ofConnection database source = .ok executor := by
  rcases connect_cases settings reach database e with ⟨cause, -, hresult⟩ | ⟨call, hdriver, -, -⟩
  · rw [hresult] at h
    exact nomatch h
  · unfold Executor.ofConnection
    rw [hdriver]
    exact ⟨_, rfl⟩

end Endpoint

/-! ## Courses -/

namespace Command

/-- The arguments of the specification that a command line asks for. -/
def Arguments.specArguments (a : Arguments) (rawSql : Option String) : SpecArguments where
  table := a.table.value?
  rawSql
  limit := a.limit.value?
  partitionColumn := a.partitionColumn.columnName
  partition := a.partition.datum .text
  period := a.partitionPeriod.datum .text
  splitColumn := a.splitColumn.columnName
  parallelism := a.queryParallelism.value?

/-- A flag that may not be empty has the value that it was given. -/
theorem Given.required_eq_ok {α : Type} {flag : Flag} {given : Given α} {value : Option α}
    (h : given.required flag = .ok value) : value = given.value? := by
  cases given with
  | absent => exact (Except.ok.inj h).symm
  | empty => exact nomatch h
  | value a => exact (Except.ok.inj h).symm

/-- The specification of a command line is the one that its arguments create. -/
theorem create_of_specOf_eq_ok {w : Surroundings} {a : Arguments} {spec : ExportSpec}
    (h : specOf w a = .ok spec) :
    ∃ rawSql, sqlOf w a = .ok rawSql ∧
      ExportSpec.create w.settings (a.specArguments rawSql) = .ok spec := by
  unfold specOf at h
  obtain ⟨rawSql, hsql, h⟩ := bind_eq_ok.mp h
  obtain ⟨table, htable, h⟩ := bind_eq_ok.mp h
  obtain ⟨base, hbase, h⟩ := bind_eq_ok.mp h
  obtain ⟨parallelism, hparallelism, h⟩ := bind_eq_ok.mp h
  obtain ⟨plan, -, h⟩ := bind_eq_ok.mp h
  obtain ⟨limit, hlimit, h⟩ := bind_eq_ok.mp h
  refine ⟨rawSql, hsql, ?_⟩
  obtain rfl := Given.required_eq_ok htable
  obtain rfl := Given.required_eq_ok hlimit
  unfold parallelismOf at hparallelism
  split at hparallelism
  · exact nomatch hparallelism
  · obtain rfl := Given.required_eq_ok hparallelism
    exact bind_eq_ok.mpr ⟨base, mapError_eq_ok.mp hbase, mapError_eq_ok.mp h⟩

/-- How far the command comes with its arguments: the calls that it made, the connection as it is left, and
    the queries that it prints or the error that it ends with. -/
inductive Course (w : Surroundings) (a : Arguments) :
    List ConnectCall → Option Source → Except CommandError (List String) → Prop where
  /-- The arguments make no specification. -/
  | unspecified {cause : CommandError} : specOf w a = .error cause → Course w a [] none (.error cause)
  /-- The export is not split. -/
  | whole {spec : ExportSpec} : specOf w a = .ok spec → spec.isSplit = false →
      Course w a [] none ((spec.build w.settings none).result.mapError .build)
  /-- The database has no name. -/
  | nameless {spec : ExportSpec} : specOf w a = .ok spec → spec.isSplit = true → a.dbType.value? = none →
      Course w a [] none (.error (.valueless .dbType))
  /-- There is no call that connects. -/
  | uncalled {spec : ExportSpec} {database : String} {cause : EndpointError} : specOf w a = .ok spec →
      spec.isSplit = true →
      ((endpointOf w a).connect w.settings w.connect database).result = .error (.endpoint cause) →
      Course w a [] none (.error (.connection (.endpoint cause)))
  /-- The call that connects fails. -/
  | unconnected {spec : ExportSpec} {call : ConnectCall} {fault : Fault} : specOf w a = .ok spec →
      spec.isSplit = true → w.connect call = .error fault →
      Course w a [call] none (.error (.connection (.refused fault)))
  /-- The command has a connection. -/
  | connected {spec : ExportSpec} {call : ConnectCall} {opened : Source} : specOf w a = .ok spec →
      spec.isSplit = true → w.connect call = .ok opened →
      Course w a [call]
        ((spec.build w.settings (some ⟨some call.driver, opened⟩)).executor.map (·.close.source))
        ((spec.build w.settings (some ⟨some call.driver, opened⟩)).result.mapError .build)

variable {w : Surroundings} {line : List String} {a : Arguments}

/-- What can be seen of a run: the calls, the connection as it is left, and the result in the format that
    the arguments ask for. -/
structure CommandRun.Shows (r : CommandRun) (a : Arguments) (calls : List ConnectCall)
    (source : Option Source) (result : Except CommandError (List String)) : Prop where
  calls : r.calls = calls
  source : r.source = source
  ending : r.ending = (CommandRun.ofResult a.printFormat result).ending
  stdout : r.stdout = (CommandRun.ofResult a.printFormat result).stdout
  stderr : r.stderr = (CommandRun.ofResult a.printFormat result).stderr

/-- A result alone shows neither calls nor a connection. -/
theorem CommandRun.shows_ofResult (a : Arguments) (result : Except CommandError (List String)) :
    (CommandRun.ofResult a.printFormat result).Shows a [] none result := by
  have hplain : (CommandRun.ofResult a.printFormat result).calls = [] ∧
      (CommandRun.ofResult a.printFormat result).source = none := by
    unfold CommandRun.ofResult
    split
    · exact ⟨rfl, rfl⟩
    · split
      · exact ⟨rfl, rfl⟩
      · exact ⟨rfl, rfl⟩
  exact ⟨hplain.1, hplain.2, rfl, rfl, rfl⟩

/-- With a split export the command connects once, or ends before that. -/
theorem buildFrom_takes_course {spec : ExportSpec} (hspec : specOf w a = .ok spec)
    (hsplit : spec.isSplit = true) (database : String) :
    ∃ calls source result, Course w a calls source result ∧
      (buildFrom w a spec database).Shows a calls source result := by
  unfold buildFrom
  dsimp only
  rcases (endpointOf w a).connect_cases w.settings w.connect database with
    ⟨cause, hcalls, hresult⟩ | ⟨call, hdriver, hcalls, hresult⟩
  · rw [hcalls, hresult]
    exact ⟨_, _, _, .uncalled hspec hsplit hresult, rfl, (CommandRun.shows_ofResult a _).source, rfl, rfl, rfl⟩
  · rw [hcalls, hresult]
    cases hconnect : w.connect call with
    | error fault =>
        exact ⟨_, _, _, .unconnected hspec hsplit hconnect, rfl, (CommandRun.shows_ofResult a _).source, rfl,
          rfl, rfl⟩
    | ok opened =>
        dsimp only [Except.mapError]
        unfold Executor.ofConnection
        rw [hdriver]
        exact ⟨_, _, _, .connected hspec hsplit hconnect, rfl, rfl, rfl, rfl, rfl⟩

/-- Every run of the command with arguments takes a course, and shows what comes of it. -/
theorem run_takes_course (hline : Request.read line = .ok (.run a)) :
    ∃ calls source result, Course w a calls source result ∧ (run w line).Shows a calls source result := by
  unfold run
  rw [hline]
  dsimp only
  cases hspec : specOf w a with
  | error cause => exact ⟨_, _, _, .unspecified hspec, CommandRun.shows_ofResult a _⟩
  | ok spec =>
      dsimp only
      unfold buildWith
      split
      · rename_i hsplit
        split
        · rename_i hname
          exact ⟨_, _, _, .nameless hspec hsplit hname, CommandRun.shows_ofResult a _⟩
        · exact buildFrom_takes_course hspec hsplit _
      · rename_i hsplit
        have hshows := CommandRun.shows_ofResult a ((spec.build w.settings none).result.mapError .build)
        exact ⟨_, _, _, .whole hspec (Bool.eq_false_iff.mpr hsplit), hshows.calls, hshows.source, rfl, rfl,
          rfl⟩

/-- The calls and the connection of a course: without a call there is no connection, and with one the
    arguments made a specification with a split, and the connection that the call opens, if it does, is
    used once. -/
theorem Course.cases_calls {calls : List ConnectCall} {source : Option Source}
    {result : Except CommandError (List String)} (h : Course w a calls source result) :
    (calls = [] ∧ source = none) ∨
    ∃ call spec, calls = [call] ∧ specOf w a = .ok spec ∧ spec.isSplit = true ∧
      ((∃ fault, w.connect call = .error fault ∧ source = none) ∨
        ∃ opened left, w.connect call = .ok opened ∧ source = some left ∧ opened.UsedOnce left) := by
  cases h with
  | unspecified => exact Or.inl ⟨rfl, rfl⟩
  | whole => exact Or.inl ⟨rfl, rfl⟩
  | nameless => exact Or.inl ⟨rfl, rfl⟩
  | uncalled => exact Or.inl ⟨rfl, rfl⟩
  | unconnected hspec hsplit hconnect =>
      exact Or.inr ⟨_, _, rfl, hspec, hsplit, Or.inl ⟨_, hconnect, rfl⟩⟩
  | @connected spec call opened hspec hsplit hconnect =>
      refine Or.inr ⟨call, spec, rfl, hspec, hsplit, Or.inr ⟨opened, ?_⟩⟩
      rcases spec.executor_build w.settings ⟨some call.driver, opened⟩ with hleft | ⟨sql, hleft⟩
      · rw [hleft]
        exact ⟨_, hconnect, rfl, Executor.usedOnce_close ⟨some call.driver, opened⟩⟩
      · rw [hleft]
        exact ⟨_, hconnect, rfl, Executor.usedOnce_close_execute ⟨some call.driver, opened⟩ sql⟩

/-- The calls and the connection of any run. A command line that is refused, or asks for help, comes to
    neither. -/
theorem run_cases_calls (w : Surroundings) (line : List String) :
    ((run w line).calls = [] ∧ (run w line).source = none) ∨
    ∃ a call spec, Request.read line = .ok (.run a) ∧ (run w line).calls = [call] ∧
      specOf w a = .ok spec ∧ spec.isSplit = true ∧
      ((∃ fault, w.connect call = .error fault ∧ (run w line).source = none) ∨
        ∃ opened left, w.connect call = .ok opened ∧ (run w line).source = some left ∧
          opened.UsedOnce left) := by
  cases hline : Request.read line with
  | error cause =>
      unfold run
      rw [hline]
      exact Or.inl ⟨rfl, rfl⟩
  | ok request =>
      cases request with
      | help =>
          unfold run
          rw [hline]
          exact Or.inl ⟨rfl, rfl⟩
      | run a =>
          obtain ⟨calls, source, result, hcourse, hshows⟩ := run_takes_course (w := w) hline
          rw [hshows.calls, hshows.source]
          rcases hcourse.cases_calls with hnone | ⟨call, spec, hcalls, hrest⟩
          · exact Or.inl hnone
          · exact Or.inr ⟨a, call, spec, rfl, hcalls, hrest⟩

/-! ## Main result -/

/-- **A connection is used once.** A run of the command makes at most one call to connect, and only for
    arguments that make a specification with a split. The connection that it opens is closed once, as is
    each cursor on it, and at most one statement runs on it, whichever way the run ends; a run without a
    connection leaves none. An executor is there for every database that a connection can be made to. -/
theorem connection_is_used_once (w : Surroundings) (line : List String) :
    (run w line).calls.length ≤ 1 ∧
    ((run w line).calls ≠ [] → ∃ a rawSql spec plan, Request.read line = .ok (.run a) ∧
      sqlOf w a = .ok rawSql ∧ ExportSpec.create w.settings (a.specArguments rawSql) = .ok spec ∧
      splitPlan spec.splitColumn spec.parallelism = .ok (some plan)) ∧
    (∀ call ∈ (run w line).calls, ∀ opened, w.connect call = .ok opened →
      ∃ left, (run w line).source = some left ∧ opened.UsedOnce left) ∧
    (∀ left, (run w line).source = some left →
      ∃ call ∈ (run w line).calls, ∃ opened, w.connect call = .ok opened ∧ opened.UsedOnce left) ∧
    ∀ (endpoint : Endpoint) (database : String) (source : Source),
      (endpoint.connect w.settings w.connect database).result = .ok source →
        ∃ executor, Executor.ofConnection database source = .ok executor := by
  refine ⟨?_, ?_, ?_, ?_, fun endpoint database source => Endpoint.exists_executor_of_connect_eq_ok⟩
  all_goals
    rcases run_cases_calls w line with
      ⟨hcalls, hsource⟩ | ⟨a, call, spec, hline, hcalls, hspec, hsplit, hconnect⟩
  · rw [hcalls]
    exact Nat.zero_le 1
  · rw [hcalls]
    exact Nat.le_refl 1
  · exact fun hne => absurd hcalls hne
  · intro _
    obtain ⟨rawSql, hsql, hcreate⟩ := create_of_specOf_eq_ok hspec
    obtain ⟨plan, hplan⟩ := ExportSpec.exists_plan_of_create hcreate hsplit
    exact ⟨a, rawSql, spec, plan, hline, hsql, hcreate, hplan⟩
  · rw [hcalls]
    exact fun call hmem => nomatch hmem
  · rw [hcalls]
    intro called hmem opened hopened
    obtain rfl := List.mem_singleton.mp hmem
    rcases hconnect with ⟨fault, hfault, -⟩ | ⟨opened', left, hopened', hsource, hused⟩
    · rw [hfault] at hopened
      exact nomatch hopened
    · rw [hopened'] at hopened
      obtain rfl := Except.ok.inj hopened
      exact ⟨left, hsource, hused⟩
  · rw [hsource]
    exact fun left hleft => nomatch hleft
  · intro left hleft
    rw [hcalls]
    rcases hconnect with ⟨fault, -, hsource⟩ | ⟨opened, left', hopened, hsource, hused⟩
    · rw [hsource] at hleft
      exact nomatch hleft
    · rw [hsource] at hleft
      obtain rfl := Option.some.inj hleft
      exact ⟨call, List.mem_singleton_self call, opened, hopened, hused⟩

end Command

end SplitExport
