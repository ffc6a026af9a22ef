import SplitExport.Proofs.BuildStages
import SplitExport.Proofs.RangeCount

/-!
# Accounting — what a logger knows after any history of builds

Specifications are built one after the other in one thread, and share its journal.

* A `Desk` holds specifications by their numbers and the journal of the thread. A `Task` is a step on one
  of them under the settings of its time; `Desk.run` carries out one task after the other.
* The events of a build change the state of a journal in one way (`after_build`): the context is the one
  of the build's specification, and the count of its end goes up. What a build told in between is quiet.
* By induction on the tasks the counts are those of the builds that were made (`run_counts`).

A build that ends with an error that nobody handles has no end event, so that it is in neither count
(`panicking_build_is_not_counted`). Neither is a build whose start cannot be told, since its parallelism has
too many digits; its context is set all the same.
-/

namespace SplitExport

open SplitExport.Log SplitExport.Number

/-! ## Ends of builds -/

namespace BuildRun

/-- Whether a build gave queries. -/
def hasReturned (built : BuildRun) : Bool :=
  match built.result with
  | .ok _ => true
  | .error _ => false

/-- Whether a build ended with an error that is told: it can be handled, and the start was told. -/
def hasFailed (built : BuildRun) : Bool :=
  match built.result with
  | .ok _ => false
  | .error cause => cause.isTold

/-- Whether a build ended with an error that nobody handles. -/
def wasAborted (built : BuildRun) : Bool :=
  match built.result with
  | .ok _ => false
  | .error cause => cause.isFatal

/-- Whether a build ended before its start was told. -/
def wasUnstarted (built : BuildRun) : Bool :=
  match built.result with
  | .error (.start _) => true
  | _ => false

/-- The number of the queries of a build, none if it failed. -/
def queryCount (built : BuildRun) : Int :=
  match built.result with
  | .ok queries => queries.length
  | .error _ => 0

/-- Every build ends in one of the four ways. -/
theorem one_end (built : BuildRun) :
    built.hasReturned.toNat + built.hasFailed.toNat + built.wasAborted.toNat +
      built.wasUnstarted.toNat = 1 := by
  unfold hasReturned hasFailed wasAborted wasUnstarted
  cases built.result with
  | ok queries => rfl
  | error cause =>
      cases cause with
      | start _ => rfl
      | window _ reason =>
          cases hfatal : reason.isFatal <;> simp [BuildError.isTold, BuildError.isFatal, hfatal]
      | answer fault =>
          cases hfatal : fault.isFatal <;> simp [BuildError.isTold, BuildError.isFatal, hfatal]
      | _ => rfl

/-- The four ways divide any builds. -/
theorem length_eq_ends (builds : List BuildRun) :
    builds.length = builds.countP hasReturned + builds.countP hasFailed + builds.countP wasAborted +
      builds.countP wasUnstarted := by
  induction builds with
  | nil => rfl
  | cons built builds ih =>
      have hone := built.one_end
      simp only [List.length_cons, List.countP_cons, ih]
      cases hreturned : built.hasReturned <;> cases hfailed : built.hasFailed <;>
        cases haborted : built.wasAborted <;> cases hunstarted : built.wasUnstarted <;> simp_all <;> omega

end BuildRun

/-! ## Events of builds -/

namespace Log

/-- Quiet events leave a state as it is. -/
theorem foldl_after_of_quiet {events : List Event} (h : ∀ event ∈ events, event.IsQuiet) (state : State) :
    events.foldl State.after state = state := by
  induction events with
  | nil => rfl
  | cons event events ih =>
      rw [List.foldl_cons, h event (List.mem_cons_self ..)]
      exact ih fun later hlater => h later (List.mem_cons_of_mem _ hlater)

/-- A journal goes through the states of the events that it is told of, whatever it writes. -/
theorem Journal.state_logAll (journal : Journal) (events : List Event) :
    (journal.logAll events).state = events.foldl State.after journal.state := by
  induction events generalizing journal with
  | nil => rfl
  | cons event events ih => exact ih (journal.log event)

end Log

namespace ExportSpec

variable {settings : Settings} {s : ExportSpec} {executor : Option Executor}

/-- A build sets its context, with its start or without, and tells of quiet events and of its end. -/
theorem exists_quiet_of_build (settings : Settings) (s : ExportSpec) (executor : Option Executor) :
    ∃ (first : Event) (told : List Event),
      (∀ state : State, state.after first = { state with context := some (s.context 0) }) ∧
      (∀ event ∈ told, event.IsQuiet) ∧
      (s.build settings executor).events =
        first :: told ++ BuildRun.endEvents (s.build settings executor).result := by
  have hnone : ∀ event ∈ ([] : List Event), event.IsQuiet := fun _ h => nomatch h
  cases hstart : s.started.isWritten with
  | false =>
      rw [build_of_unwritten hstart]
      exact ⟨.contextSet (s.context 0), [], fun _ => rfl, hnone, rfl⟩
  | true =>
      have hends := ends_build settings executor hstart
      generalize s.build settings executor = built at hends ⊢
      refine ⟨s.started, ?_⟩
      cases hends with
      | refused => exact ⟨[], fun _ => rfl, hnone, rfl⟩
      | unconditioned => exact ⟨[], fun _ => rfl, hnone, rfl⟩
      | whole => exact ⟨[], fun _ => rfl, hnone, rfl⟩
      | unasked => exact ⟨[], fun _ => rfl, hnone, rfl⟩
      | asked _ _ _ hquiet _ => exact ⟨_, fun _ => rfl, hquiet, rfl⟩

/-- The state after a build: the context is about its specification, and the count of its end is one more
    than it was. -/
theorem after_build (settings : Settings) (s : ExportSpec) (executor : Option Executor) (state : State) :
    (s.build settings executor).events.foldl State.after state =
      { context := some (s.context (s.build settings executor).queryCount)
        built := state.built + (s.build settings executor).hasReturned.toNat
        failed := state.failed + (s.build settings executor).hasFailed.toNat } := by
  obtain ⟨first, told, hfirst, hquiet, hevents⟩ := exists_quiet_of_build settings s executor
  rw [hevents, List.cons_append, List.foldl_cons, List.foldl_append, foldl_after_of_quiet hquiet, hfirst]
  unfold BuildRun.queryCount BuildRun.hasReturned BuildRun.hasFailed BuildRun.endEvents
  cases (s.build settings executor).result with
  | ok queries => rfl
  | error cause => cases htold : cause.isTold <;> simp [htold, State.after, BuildError.event]

/-- A build whose start was told does not end there. -/
theorem Ends.ne_start {built : BuildRun} (h : Ends settings s executor built) (e : OversizeInteger) :
    built.result ≠ .error (.start e) := by
  cases h with
  | refused => exact fun h => nomatch h
  | unconditioned => exact fun h => nomatch h
  | whole => exact fun h => nomatch cause_of_wholeQueries_eq_error h
  | unasked => exact fun h => nomatch h
  | asked _ _ _ _ hprobed =>
      cases hprobed with
      | fault => exact fun h => nomatch h
      | failure => exact fun h => nomatch h
      | bounds =>
          intro h
          rcases cause_of_splitQueries_eq_error h with hcause | hcause
          · exact nomatch hcause
          · exact nomatch hcause

/-- A build ends before its start is told if its parallelism has too many digits. -/
theorem wasUnstarted_build (settings : Settings) (s : ExportSpec) (executor : Option Executor) :
    (s.build settings executor).wasUnstarted = !s.parallelism.all isWritable := by
  rw [← isWritten_started]
  cases hstart : s.started.isWritten with
  | false =>
      rw [build_of_unwritten hstart]
      rfl
  | true =>
      have hgoes := (ends_build settings executor hstart).ne_start
      unfold BuildRun.wasUnstarted
      split
      · rename_i e heq
        exact absurd heq (hgoes e)
      · rfl

end ExportSpec

/-! ## Desks -/

/-- Specifications by their numbers, and the journal of the thread that works on them. -/
structure Desk where
  specs : Nat → ExportSpec
  journal : Journal := {}

/-- A step on a specification, under the settings of its time. -/
structure Task where
  settings : Settings := {}
  /-- The number of the specification. -/
  number : Nat
  step : Step

/-- Whether a task makes a build. -/
def Task.isBuild (task : Task) : Bool :=
  match task.step with
  | .build .. => true
  | _ => false

namespace Desk

/-- Carries out a task: the build, if the task makes one, and the desk afterwards. -/
def step (d : Desk) (task : Task) : Option BuildRun × Desk :=
  let (built, session) :=
    ({ spec := d.specs task.number, journal := d.journal } : Session).step task.settings task.step
  (built, { specs := Function.update d.specs task.number session.spec, journal := session.journal })

/-- Carries out tasks: the builds that they make, and the desk afterwards. -/
def run (d : Desk) : List Task → List BuildRun × Desk
  | [] => ([], d)
  | first :: rest =>
    let (built, next) := d.step first
    let (more, last) := next.run rest
    (built.toList ++ more, last)

/-- Tasks that follow others are carried out on the desk that these leave. -/
theorem run_append (d : Desk) (first rest : List Task) :
    d.run (first ++ rest) =
      ((d.run first).1 ++ ((d.run first).2.run rest).1, ((d.run first).2.run rest).2) := by
  induction first generalizing d with
  | nil => rfl
  | cons task first ih =>
      rw [List.cons_append]
      simp only [run, ih, List.append_assoc]

/-- A task makes a build or none, as it says. -/
theorem length_step (d : Desk) (task : Task) : (d.step task).1.toList.length = task.isBuild.toNat := by
  cases htask : task.step <;> simp [step, Session.step, Task.isBuild, htask]

/-- A task adds its build to the counts of the journal, and nothing else. -/
theorem step_counts (d : Desk) (task : Task) :
    (d.step task).2.journal.state.built =
        d.journal.state.built + (d.step task).1.toList.countP (·.hasReturned) ∧
      (d.step task).2.journal.state.failed =
        d.journal.state.failed + (d.step task).1.toList.countP (·.hasFailed) := by
  cases htask : task.step with
  | build executor level =>
      simp only [step, Session.step, htask, Journal.state_logAll, ExportSpec.after_build,
        Option.toList_some, List.countP_singleton]
      constructor <;> split <;> simp_all
  | overwrite value => simp [step, Session.step, htask]
  | clearContext => simp [step, Session.step, htask, Journal.log, State.after]

/-- After any tasks the counts of the journal are those of the builds that were made. -/
theorem run_counts (d : Desk) (tasks : List Task) :
    (d.run tasks).1.length = tasks.countP (·.isBuild) ∧
      (d.run tasks).2.journal.state.built =
        d.journal.state.built + (d.run tasks).1.countP (·.hasReturned) ∧
      (d.run tasks).2.journal.state.failed =
        d.journal.state.failed + (d.run tasks).1.countP (·.hasFailed) := by
  induction tasks generalizing d with
  | nil => exact ⟨rfl, rfl, rfl⟩
  | cons task tasks ih =>
      obtain ⟨hlength, hbuilt, hfailed⟩ := ih (d.step task).2
      obtain ⟨hone, hother⟩ := d.step_counts task
      have hmade := d.length_step task
      refine ⟨?_, ?_, ?_⟩
      · simp only [run, List.length_append, List.countP_cons, hlength, hmade]
        cases task.isBuild <;> simp [Nat.add_comm]
      · simp only [run, List.countP_append]
        omega
      · simp only [run, List.countP_append]
        omega

end Desk

/-! ## Main result -/

/-- **The logger accounts for every build, and no build depends on those before it.** After any tasks,
    whoever they ask and however they end, the builds that the logger counts as built are those that
    returned queries, and those that it counts as failed are those that ended with an error that can be
    handled, once their start was told; with the builds that an error nobody handles has ended, and those
    whose start could not be told, these are all. Whatever task comes next, its build is the one that a fresh
    journal would see; after a build the context is about its specification and counts its queries, none if
    it failed, and after a clearing there is no context. -/
theorem logger_accounts_for_every_build (d : Desk) (tasks : List Task) :
    (d.run tasks).2.journal.state.built =
        d.journal.state.built + (d.run tasks).1.countP (·.hasReturned) ∧
      (d.run tasks).2.journal.state.failed =
        d.journal.state.failed + (d.run tasks).1.countP (·.hasFailed) ∧
      (d.run tasks).1.countP (·.hasReturned) + (d.run tasks).1.countP (·.hasFailed) +
        (d.run tasks).1.countP (·.wasAborted) + (d.run tasks).1.countP (·.wasUnstarted) =
          tasks.countP (·.isBuild) ∧
      ∀ task : Task,
        d.run (tasks ++ [task]) =
          ((d.run tasks).1 ++ ((d.run tasks).2.step task).1.toList, ((d.run tasks).2.step task).2) ∧
        ((d.run tasks).2.step task).1 = (({ specs := (d.run tasks).2.specs } : Desk).step task).1 ∧
        (∀ executor level, task.step = .build executor level →
          ∃ built, ((d.run tasks).2.step task).1 = some built ∧
            built.wasUnstarted = !((d.run tasks).2.specs task.number).parallelism.all isWritable ∧
            ((d.run tasks).2.step task).2.journal.state.context = some
              { table := ((d.run tasks).2.specs task.number).table
                splitColumn := ((d.run tasks).2.specs task.number).splitColumn
                parallelism := ((d.run tasks).2.specs task.number).parallelism
                queryCount := built.queryCount }) ∧
        (task.step = .clearContext → ((d.run tasks).2.step task).2.journal.state.context = none) := by
  obtain ⟨hlength, hbuilt, hfailed⟩ := d.run_counts tasks
  refine ⟨hbuilt, hfailed, ?_, fun task => ⟨?_, ?_, ?_, ?_⟩⟩
  · rw [← BuildRun.length_eq_ends, hlength]
  · rw [Desk.run_append]
    simp only [Desk.run, List.append_nil]
  · cases htask : task.step <;> simp only [Desk.step, Session.step, htask]
  · intro executor level htask
    simp only [Desk.step, Session.step, htask, Journal.state_logAll, ExportSpec.after_build]
    exact ⟨_, rfl, ExportSpec.wasUnstarted_build .., rfl⟩
  · intro htask
    simp only [Desk.step, Session.step, htask, Journal.log, State.after]

/-- A partition that is longer than all years together ends the build that meets it, with an error that
    nobody handles: the one build has not returned, and yet the logger counts none as failed. -/
theorem panicking_build_is_not_counted :
    ¬ ∀ (d : Desk) (tasks : List Task), (d.run tasks).2.journal.state.failed =
      d.journal.state.failed + (d.run tasks).1.countP (!·.hasReturned) := by
  intro h
  have hcount := h { specs := fun _ => { usersExport with period := "100000000d" } }
    [{ number := 0, step := .build (some oneToFour) .info }]
  revert hcount
  decide +kernel

end SplitExport
