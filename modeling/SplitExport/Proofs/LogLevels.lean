import SplitExport.Proofs.Accounting

/-!
# Log levels — what a level changes, and what it does not

* `recordsOf` are the records of events whatever their levels. A journal keeps those of them that its
  level admits, in their order (`Journal.records_logAll`), so that it keeps what a journal of level `debug`
  keeps and its own level admits.
* Tasks that differ in their levels only are carried out alike, one by one (`Desk.Alike.step_atLevel`) and
  all together (`Desk.Alike.run_atLevels`): the same builds, specifications and states.

A level admits the records of its own severity and above, except for `notSet`: a logger without a level of
its own writes warnings and what is worse, although `notSet` has no severity
(`unset_level_hides_records`).
-/

namespace SplitExport

open SplitExport.Log

/-! ## Records -/

namespace Log

/-- The records of events that follow one another, whatever their levels. -/
def recordsOf (memory : Option Nat) : State → List Event → List Record
  | _, [] => []
  | s, event :: rest => (s.record? memory event).toList ++ recordsOf memory (s.after event) rest

namespace Journal

/-- A journal keeps the records that its level admits, in their order. -/
theorem records_logAll (journal : Journal) (events : List Event) :
    (journal.logAll events).records = journal.records ++
      (recordsOf journal.memory journal.state events).filter fun r => journal.level.admits r.level := by
  induction events generalizing journal with
  | nil => exact (List.append_nil _).symm
  | cons event events ih =>
      have hkept : (journal.log event).records = journal.records ++
          ((journal.state.record? journal.memory event).toList.filter
            fun r => journal.level.admits r.level) := by
        rw [log]
        cases journal.state.record? journal.memory event with
        | none => rfl
        | some record => cases hadmits : journal.level.admits record.level <;> simp [hadmits]
      rw [recordsOf, List.filter_append, ← List.append_assoc, ← hkept]
      exact ih (journal.log event)

/-- A journal measures the memory in the same way throughout. -/
theorem memory_logAll (journal : Journal) (events : List Event) :
    (journal.logAll events).memory = journal.memory := by
  induction events generalizing journal with
  | nil => rfl
  | cons event events ih => exact ih (journal.log event)

end Journal

namespace Level

/-- A level that is set admits the records of its own severity and above. -/
theorem admits_of_ne_notSet {own : Level} (h : own ≠ .notSet) (level : Level) :
    own.admits level = decide (own.severity ≤ level.severity) := by
  cases own with
  | notSet => exact absurd rfl h
  | _ => rfl

/-- What any level admits is admitted by `debug`. -/
theorem admits_debug_of_admits {own level : Level} (h : own.admits level = true) :
    debug.admits level = true := by
  revert h
  cases own <;> cases level <;> decide

end Level

end Log

/-! ## Desks -/

/-- The task that writes from another level on. -/
def Task.atLevel (task : Task) (level : Level) : Task :=
  match task.step with
  | .build executor _ => { task with step := .build executor level }
  | _ => task

/-- The tasks that write from other levels on, each from one of its own. -/
def atLevels (levels : Nat → Level) (tasks : List Task) : List Task :=
  tasks.mapIdx fun i task => task.atLevel (levels i)

namespace Desk

/-- Desks that differ in nothing but the level of the journal and what it has kept. -/
structure Alike (d other : Desk) : Prop where
  specs : d.specs = other.specs
  memory : d.journal.memory = other.journal.memory
  state : d.journal.state = other.journal.state

namespace Alike

variable {d other : Desk}

/-- A task and the same task at another level are carried out alike. -/
theorem step_atLevel (h : d.Alike other) (task : Task) (level : Level) :
    (d.step (task.atLevel level)).1 = (other.step task).1 ∧
      (d.step (task.atLevel level)).2.Alike (other.step task).2 := by
  obtain ⟨settings, number, step⟩ := task
  have hspec : d.specs number = other.specs number := congrFun h.specs number
  cases step with
  | build executor level' =>
      refine ⟨?_, ?_, ?_, ?_⟩
      · simp only [Task.atLevel, Desk.step, Session.step, hspec]
      · simp only [Task.atLevel, Desk.step, Session.step, hspec, h.specs]
      · simp only [Task.atLevel, Desk.step, Session.step, Journal.memory_logAll, h.memory]
      · simp only [Task.atLevel, Desk.step, Session.step, Journal.state_logAll, hspec, h.state]
  | overwrite value =>
      refine ⟨rfl, ?_, h.memory, h.state⟩
      simp only [Task.atLevel, Desk.step, Session.step, hspec, h.specs]
  | clearContext =>
      refine ⟨rfl, ?_, h.memory, ?_⟩
      · simp only [Task.atLevel, Desk.step, Session.step, hspec, h.specs]
      · simp only [Task.atLevel, Desk.step, Session.step, Journal.log, h.state]

/-- Tasks and the same tasks at other levels are carried out alike. -/
theorem run_atLevels (h : d.Alike other) (tasks : List Task) (levels : Nat → Level) :
    (d.run (atLevels levels tasks)).1 = (other.run tasks).1 ∧
      (d.run (atLevels levels tasks)).2.Alike (other.run tasks).2 := by
  induction tasks generalizing d other levels with
  | nil => exact ⟨rfl, h⟩
  | cons task tasks ih =>
      obtain ⟨hbuilt, halike⟩ := h.step_atLevel task (levels 0)
      obtain ⟨hmore, hlast⟩ := ih halike fun i => levels (i + 1)
      have htasks : atLevels levels (task :: tasks) =
          task.atLevel (levels 0) :: atLevels (fun i => levels (i + 1)) tasks := List.mapIdx_cons
      rw [htasks]
      simp only [run, hbuilt, hmore]
      exact ⟨trivial, hlast⟩

end Alike

/-- What a build of a specification writes from a level on. -/
def written (d : Desk) (settings : Settings) (number : Nat) (executor : Option Executor) (level : Level) :
    List Record :=
  (d.step { settings, number, step := .build executor level }).2.journal.records

/-- A build writes the records of its events that the level admits. -/
theorem written_eq (d : Desk) (settings : Settings) (number : Nat) (executor : Option Executor)
    (level : Level) :
    d.written settings number executor level =
      (recordsOf d.journal.memory d.journal.state
        ((d.specs number).build settings executor).events).filter fun r => level.admits r.level := by
  simp only [written, Desk.step, Session.step, Journal.records_logAll, List.nil_append]

/-- A build writes what it writes from `debug` on, as far as the level admits it. -/
theorem written_eq_filter (d : Desk) (settings : Settings) (number : Nat) (executor : Option Executor)
    (level : Level) :
    d.written settings number executor level =
      (d.written settings number executor .debug).filter fun r => level.admits r.level := by
  rw [written_eq, written_eq, List.filter_filter]
  refine List.filter_congr fun r _ => ?_
  cases hadmits : level.admits r.level with
  | false => rfl
  | true => rw [Level.admits_debug_of_admits hadmits]; rfl

end Desk

/-! ## Main result -/

/-- **Levels do not interfere.** Tasks that are carried out at any levels whatever make the same builds,
    with the same results, errors and statements, and leave the same specifications, counts and context.
    What a build writes behind them from a level on is what it writes from `debug` on, less the records
    that are below the severity of the level; without a level of its own, less those below a warning. -/
theorem levels_do_not_interfere (d : Desk) (tasks : List Task) (levels : Nat → Level) :
    (d.run (atLevels levels tasks)).1 = (d.run tasks).1 ∧
    (d.run (atLevels levels tasks)).2.specs = (d.run tasks).2.specs ∧
    (d.run (atLevels levels tasks)).2.journal.state = (d.run tasks).2.journal.state ∧
    ∀ (settings : Settings) (number : Nat) (executor : Option Executor),
      (∀ level, level ≠ .notSet →
        (d.run (atLevels levels tasks)).2.written settings number executor level =
          ((d.run tasks).2.written settings number executor .debug).filter fun r =>
            level.severity ≤ r.level.severity) ∧
      (d.run (atLevels levels tasks)).2.written settings number executor .notSet =
        ((d.run tasks).2.written settings number executor .debug).filter fun r =>
          Level.warning.severity ≤ r.level.severity := by
  have hrefl : d.Alike d := ⟨rfl, rfl, rfl⟩
  obtain ⟨hbuilds, halike⟩ := hrefl.run_atLevels tasks levels
  refine ⟨hbuilds, halike.specs, halike.state, fun settings number executor => ?_⟩
  -- whatever the levels were, the next build writes the same
  have hsame : ∀ level, (d.run (atLevels levels tasks)).2.written settings number executor level =
      (d.run tasks).2.written settings number executor level := by
    intro level
    rw [Desk.written_eq, Desk.written_eq, halike.memory, halike.state, halike.specs]
  refine ⟨fun level hlevel => ?_, ?_⟩
  · rw [hsame, Desk.written_eq_filter]
    exact List.filter_congr fun r _ => Level.admits_of_ne_notSet hlevel r.level
  · rw [hsame, Desk.written_eq_filter]
    rfl

/-- **A logger without a level of its own hides records of its severity**: `notSet` has the least severity
    of all, and yet the two records of a build that succeeds are not written. -/
theorem unset_level_hides_records :
    ¬ ∀ (d : Desk) (settings : Settings) (number : Nat) (executor : Option Executor) (level : Level),
      d.written settings number executor level =
        (d.written settings number executor .debug).filter fun r => level.severity ≤ r.level.severity := by
  intro h
  have hlength := congrArg List.length (h
    { specs := fun _ => { usersExport with splitColumn := none, parallelism := none } } {} 0 none .notSet)
  revert hlength
  decide +kernel

end SplitExport
