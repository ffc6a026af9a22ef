import SplitExport.Source.Cursor

/-!
# Cursor accounts — every cursor that is opened is closed

* `Source.Use` adds up what is done to a source, and `Source.UsedBy` says of two moments of a source that it
  was used so in between.
* `SourceAction.Uses` says that an action uses a source in one way, whether it gives a result or meets a
  fault. A fault skips what comes behind it, so uses do not add up along a row of actions in general. They do
  behind an action that meets no fault, and they do for an action with another one finally behind it: this
  is where the cursor is closed.
* An `Executor.Call` runs a statement or closes the connection. One call uses the source in its own way, and
  by induction a run of calls uses it by their sum.
-/

namespace SplitExport

namespace Source

/-! ## Uses -/

/-- What is done to a source: the statements that it is sent, the cursors that are opened and closed on it,
    and how often it is closed. -/
structure Use where
  statements : List String := []
  cursorsOpened : Nat := 0
  cursorsClosed : Nat := 0
  closed : Nat := 0

/-- One use after the other. -/
def Use.then (first second : Use) : Use where
  statements := first.statements ++ second.statements
  cursorsOpened := first.cursorsOpened + second.cursorsOpened
  cursorsClosed := first.cursorsClosed + second.cursorsClosed
  closed := first.closed + second.closed

/-- A source at two moments, between which it was used. -/
structure UsedBy (use : Use) (before after : Source) : Prop where
  executed : after.executed = before.executed ++ use.statements
  cursorsOpened : after.cursorsOpened = before.cursorsOpened + use.cursorsOpened
  cursorsClosed : after.cursorsClosed = before.cursorsClosed + use.cursorsClosed
  closed : after.closed = before.closed + use.closed

variable {before between after : Source} {use first second : Use}

/-- A source that is left alone is used for nothing. -/
theorem UsedBy.unused (source : Source) : UsedBy {} source source where
  executed := (List.append_nil _).symm
  cursorsOpened := rfl
  cursorsClosed := rfl
  closed := rfl

/-- Uses add up. -/
theorem UsedBy.trans (hfirst : UsedBy first before between) (hsecond : UsedBy second between after) :
    UsedBy (first.then second) before after where
  executed := by
    rw [hsecond.executed, hfirst.executed]
    exact List.append_assoc _ _ _
  cursorsOpened := by
    rw [hsecond.cursorsOpened, hfirst.cursorsOpened]
    exact Nat.add_assoc _ _ _
  cursorsClosed := by
    rw [hsecond.cursorsClosed, hfirst.cursorsClosed]
    exact Nat.add_assoc _ _ _
  closed := by
    rw [hsecond.closed, hfirst.closed]
    exact Nat.add_assoc _ _ _

/-- To do nothing further is no further use. -/
theorem Use.then_nothing (use : Use) : use.then {} = use := by
  unfold Use.then
  rw [List.append_nil]
  rfl

end Source

/-! ## Actions -/

namespace SourceAction

open Source

variable {α β : Type} {action : SourceAction α} {next : α → SourceAction β} {use first second : Use}

/-- A result that is there, or a fault, leaves the source alone. -/
theorem on_ofExcept (result : Except Fault α) (source : Source) :
    (MonadExcept.ofExcept result : SourceAction α).on source = (result, source) := by
  cases result <;> rfl

/-- The second of two actions is done on what the first one left, unless a fault skips it. -/
theorem on_bind (action : SourceAction α) (next : α → SourceAction β) (source : Source) :
    (action >>= next).on source = match action.on source with
      | (.ok a, left) => (next a).on left
      | (.error fault, left) => (.error fault, left) := by
  unfold SourceAction.on
  rw [ExceptT.run_bind, StateT.run_bind]
  generalize action.run.run source = left
  obtain ⟨result, between⟩ := left
  cases result <;> rfl

/-- An action that comes finally is done on what the other one left, behind a result as behind a fault. -/
theorem on_finally (action : SourceAction α) (last : SourceAction β) (source : Source) :
    (tryFinally action last).on source = match last.on (action.on source).2 with
      | (.ok _, left) => ((action.on source).1, left)
      | (.error fault, left) => (.error fault, left) := by
  unfold SourceAction.on tryFinally
  rw [ExceptT.run_map, StateT.run_map]
  simp only [tryFinally', ExceptT.run, ExceptT.mk, StateT.run, bind, StateT.bind, pure]
  generalize action source = left
  obtain ⟨result, between⟩ := left
  -- an action that comes finally could ask whether there is a result; this one does not
  cases result with
  | ok a =>
      dsimp only
      generalize last between = left
      obtain ⟨result, after⟩ := left
      cases result <;> rfl
  | error fault =>
      dsimp only
      generalize last between = left
      obtain ⟨result, after⟩ := left
      cases result <;> rfl

/-! ## Uses of actions -/

/-- An action uses a source in one way, whatever it comes to. -/
def Uses (action : SourceAction α) (use : Use) : Prop :=
  ∀ source, UsedBy use source (action.on source).2

/-- A result that is there, or a fault, uses nothing. -/
theorem uses_ofExcept (result : Except Fault α) : Uses (MonadExcept.ofExcept result : SourceAction α) {} := by
  intro source
  rw [on_ofExcept]
  exact .unused source

/-- Actions that use nothing add nothing to what comes before them, whether or not a fault skips them. -/
theorem uses_bind (hfirst : action.Uses use) (hnext : ∀ a, (next a).Uses {}) :
    Uses (action >>= next) use := by
  intro source
  have hused := hfirst source
  rw [on_bind]
  generalize action.on source = left at hused ⊢
  obtain ⟨result, between⟩ := left
  cases result with
  | error fault => exact hused
  | ok a =>
      -- only here is the second action done, and it adds nothing
      have hrest := hused.trans (hnext a between)
      rwa [Use.then_nothing] at hrest

/-- Behind an action that meets no fault, the uses add up. -/
theorem uses_bind_of_succeeds (hfirst : action.Uses first) (hok : ∀ source, ∃ a, (action.on source).1 = .ok a)
    (hnext : ∀ a, (next a).Uses second) : Uses (action >>= next) (first.then second) := by
  intro source
  have hused := hfirst source
  obtain ⟨a, ha⟩ := hok source
  rw [on_bind]
  generalize action.on source = left at hused ha ⊢
  obtain ⟨result, between⟩ := left
  obtain rfl : result = .ok a := ha
  exact hused.trans (hnext a between)

/-- With an action finally behind another one, the uses add up whatever the first one came to. -/
theorem uses_finally {last : SourceAction β} (hfirst : action.Uses first) (hlast : last.Uses second) :
    Uses (tryFinally action last) (first.then second) := by
  intro source
  have hused := (hfirst source).trans (hlast (action.on source).2)
  rw [on_finally]
  generalize last.on (action.on source).2 = left at hused ⊢
  obtain ⟨result, after⟩ := left
  cases result <;> exact hused

end SourceAction

/-! ## Statements -/

namespace Cursor

open SourceAction

/-- Opening the cursor meets no fault. -/
theorem openAction_succeeds (source : Source) : ∃ a, (openAction.on source).1 = .ok a :=
  ⟨(), rfl⟩

theorem uses_openAction : openAction.Uses { cursorsOpened := 1 } :=
  fun _ => ⟨(List.append_nil _).symm, rfl, rfl, rfl⟩

theorem uses_closeAction : closeAction.Uses { cursorsClosed := 1 } :=
  fun _ => ⟨(List.append_nil _).symm, rfl, rfl, rfl⟩

/-- Sending gives the reply, or the fault of a refusal, and leaves the source as it is behind the statement. -/
theorem on_send (sql : String) (source : Source) :
    (send sql).on source = (match source.nextReply with
      | .refusal fault => .error fault
      | reply => .ok reply, source.send sql) := by
  show (match source.nextReply with
    | .refusal fault => throw fault
    | reply => return reply : SourceAction Reply).on (source.send sql) = _
  cases source.nextReply <;> rfl

theorem uses_send (sql : String) : (send sql).Uses { statements := [sql] } := by
  intro source
  rw [on_send]
  exact ⟨rfl, rfl, rfl, rfl⟩

theorem uses_describe (catalog : Catalog) (reply : Reply) : (describe catalog reply).Uses {} := by
  unfold describe
  split
  · exact uses_ofExcept _
  · exact uses_ofExcept (.error _)

theorem uses_fetchRows (reply : Reply) : (fetchRows reply).Uses {} := by
  unfold fetchRows
  split
  · exact uses_ofExcept (.error _)
  · exact uses_ofExcept (.ok _)
  · exact uses_ofExcept (.ok _)

/-- While its cursor is open a statement is sent once, and nothing else is done to the source. -/
theorem uses_exchange (catalog : Catalog) (sql : String) :
    (exchange catalog sql).Uses { statements := [sql] } := by
  refine uses_bind (uses_send sql) fun reply => ?_
  refine uses_bind (uses_describe catalog reply) fun schema => ?_
  exact uses_bind (uses_fetchRows reply) fun rows => uses_ofExcept (.ok _)

/-- **A statement is sent once, and the one cursor that it opens is closed**, whatever meets a fault: the
    statement, its description, the rows or the frame. -/
theorem uses_statement (catalog : Catalog) (sql : String) :
    (statement catalog sql).Uses { statements := [sql], cursorsOpened := 1, cursorsClosed := 1 } := by
  -- the frame is built when the cursor is closed, and whether it can be built uses nothing
  have hprotected := uses_finally (uses_exchange catalog sql) uses_closeAction
  have hbuilt := fun answer : Schema × List (List Datum) =>
    uses_ofExcept ((Frame.ofRows answer.1 answer.2).mapError ColumnDefect.fault)
  exact uses_bind_of_succeeds uses_openAction openAction_succeeds fun _ => uses_bind hprotected hbuilt

/-- The result of a statement and the source behind it, as executors have them. -/
theorem on_statement (catalog : Catalog) (sql : String) (source : Source) :
    (statement catalog sql).on source =
      (Executor.fetch catalog source.nextReply, (source.openCursor.send sql).closeCursor) := by
  show (tryFinally (exchange catalog sql) closeAction >>= fun answer =>
    MonadExcept.ofExcept ((Frame.ofRows answer.1 answer.2).mapError ColumnDefect.fault)).on
      source.openCursor = _
  unfold exchange
  rw [on_bind, on_finally, on_bind, on_send]
  show _ = (Executor.fetch catalog source.openCursor.nextReply, _)
  cases source.openCursor.nextReply with
  | refusal fault => rfl
  | columns columns => rfl
  | rows description rows fetchFault =>
      cases description with
      | none => rfl
      | some description =>
          dsimp only
          rw [on_bind]
          unfold describe Executor.fetch
          dsimp only
          rw [on_ofExcept]
          cases schemaOf catalog description with
          | error cause => rfl
          | ok schema =>
              cases fetchFault with
              | some fault => rfl
              | none => exact on_ofExcept _ _

end Cursor

namespace Executor

/-! ## Calls -/

/-- An executor that works with cursors takes a statement through the actions of a cursor. -/
theorem execute_eq_statement {e : Executor} {catalog : Catalog} (h : e.catalog? = some catalog) (sql : String) :
    e.execute sql = (((Cursor.statement catalog sql).on e.source).1,
      { e with source := ((Cursor.statement catalog sql).on e.source).2 }) := by
  unfold execute
  rw [h, Cursor.on_statement]

/-- A call of an executor. -/
inductive Call where
  | execute (sql : String)
  | close
deriving DecidableEq, Repr

/-- The statement that a call sends. -/
def Call.statement? : Call → Option String
  | .execute sql => some sql
  | .close => none

/-- What a call does to a source, through a cursor. -/
def Call.use : Call → Source.Use
  | .execute sql => { statements := [sql], cursorsOpened := 1, cursorsClosed := 1 }
  | .close => { closed := 1 }

/-- The executor after a call, whatever the call gave. -/
def perform (e : Executor) : Call → Executor
  | .execute sql => (e.execute sql).2
  | .close => e.close

/-- The executor after each of a row of calls. -/
def afterEach (e : Executor) : List Call → List Executor
  | [] => []
  | call :: calls => e.perform call :: (e.perform call).afterEach calls

/-- What a row of calls does to a source, through cursors. -/
def useOf : List Call → Source.Use
  | [] => {}
  | call :: calls => call.use.then (useOf calls)

variable {e left : Executor} {catalog : Catalog} {calls : List Call}

/-- A call changes nothing about how the executor talks to its source. -/
theorem catalog?_perform (e : Executor) (call : Call) : (e.perform call).catalog? = e.catalog? := by
  cases call with
  | close => rfl
  | execute sql =>
      show (e.execute sql).2.catalog? = e.catalog?
      unfold execute
      split <;> rfl

/-- One call of an executor that works with cursors uses the source as the call does. -/
theorem usedBy_perform (h : e.catalog? = some catalog) (call : Call) :
    Source.UsedBy call.use e.source (e.perform call).source := by
  cases call with
  | close => exact ⟨(List.append_nil _).symm, rfl, rfl, rfl⟩
  | execute sql =>
      show Source.UsedBy _ _ (e.execute sql).2.source
      rw [execute_eq_statement h]
      exact Cursor.uses_statement catalog sql e.source

/-- After each of a row of calls, the source was used by the calls up to there. -/
theorem usedBy_afterEach (h : e.catalog? = some catalog) {i : Nat} (hleft : (e.afterEach calls)[i]? = some left) :
    Source.UsedBy (useOf (calls.take (i + 1))) e.source left.source := by
  -- by induction for all executors, since each call starts from the one that the call before it left
  induction calls generalizing e i with
  | nil => exact nomatch hleft
  | cons call calls ih =>
      have hcall := usedBy_perform h call
      cases i with
      | zero =>
          obtain rfl := Option.some.inj hleft
          exact hcall.trans (.unused _)
      | succ i => exact hcall.trans (ih ((catalog?_perform e call).trans h) hleft)

/-- There is one executor after each call. -/
theorem length_afterEach (e : Executor) (calls : List Call) : (e.afterEach calls).length = calls.length := by
  induction calls generalizing e with
  | nil => rfl
  | cons call calls ih => exact congrArg (· + 1) (ih (e.perform call))

/-- A row of calls sends the statements in it in their order, opens and closes a cursor for each of them, and
    closes the source as often as it is told to. -/
theorem useOf_eq (calls : List Call) : useOf calls =
    { statements := calls.filterMap Call.statement?
      cursorsOpened := (calls.filterMap Call.statement?).length
      cursorsClosed := (calls.filterMap Call.statement?).length
      closed := calls.count .close } := by
  induction calls with
  | nil => rfl
  | cons call calls ih =>
      unfold useOf
      rw [ih, Source.Use.mk.injEq]
      cases call with
      | execute sql =>
          have hne : Call.execute sql ≠ .close := fun h => nomatch h
          refine ⟨rfl, Nat.add_comm 1 _, Nat.add_comm 1 _, ?_⟩
          exact (Nat.zero_add _).trans (List.count_cons_of_ne hne).symm
      | close =>
          refine ⟨rfl, Nat.zero_add _, Nat.zero_add _, ?_⟩
          exact (Nat.add_comm 1 _).trans List.count_cons_self.symm

/-! ## Main result -/

/-- **No cursor is left open.** Whatever a source answers to the statements of a row of calls, and whichever
    of them meet a fault, there are as many cursors closed as opened after each call, one for each statement
    so far. The source was sent just these statements, in their order, and was closed as often as it was told
    to. -/
theorem no_cursor_is_left_open {driver : Driver} {catalog : Catalog} (h : driver.catalog? = some catalog)
    (replies : List Reply) (seconds : Number.Binary64) (calls : List Call) :
    (afterEach ⟨some driver, { replies, seconds }⟩ calls).length = calls.length ∧
    ∀ i left, (afterEach ⟨some driver, { replies, seconds }⟩ calls)[i]? = some left →
      left.source.cursorsOpened = left.source.cursorsClosed ∧
      left.source.cursorsOpened = ((calls.take (i + 1)).filterMap Call.statement?).length ∧
      left.source.closed = (calls.take (i + 1)).count .close ∧
      left.source.executed = (calls.take (i + 1)).filterMap Call.statement? := by
  refine ⟨length_afterEach _ calls, fun i left hleft => ?_⟩
  have hcatalog : (⟨some driver, { replies, seconds }⟩ : Executor).catalog? = some catalog := h
  have hused := usedBy_afterEach hcatalog hleft
  rw [useOf_eq] at hused
  obtain ⟨hexecuted, hopened, hcursors, hclosed⟩ := hused
  rw [Nat.zero_add] at hopened hcursors hclosed
  exact ⟨hopened.trans hcursors.symm, hopened, hclosed, hexecuted⟩

/-- Answers that fail in five ways: the statement, the description twice, the rows and the frame. -/
def troubledReplies : List Reply :=
  [.refusal ⟨"UndefinedTable", "relation users does not exist", .database⟩,
    .rows (some [.positional [.text "id"]]) [[.int 7]] none,
    .rows (some [.positional [.text "id", .list []]]) [[.int 7]] none,
    .rows (some [.positional [.text "id", .int 20]]) [] (some ⟨"OperationalError", "gone", .database⟩),
    .rows (some [.positional [.text "id", .int 20]]) [[.special (.notANumber false false 0)]] none]

/-- A close between five statements, none of which gets a frame. -/
def troubledCalls : List Call :=
  [.execute "SELECT 1", .execute "SELECT 2", .close, .execute "SELECT 3", .execute "SELECT 4", .execute "SELECT 5"]

example : troubledReplies.map (fun reply => (fetch .postgresql reply).toBool) =
    [false, false, false, false, false] := by
  decide

/-- All of these statements fail, and none of them leaves its cursor open. -/
theorem troubled_calls_leave_no_cursor_open : Driver.postgres.catalog? = some Catalog.postgresql ∧
    ∃ left, (afterEach ⟨some .postgres, { replies := troubledReplies }⟩ troubledCalls)[5]? = some left ∧
      left.source.cursorsOpened = left.source.cursorsClosed ∧ left.source.cursorsOpened = 5 ∧
      left.source.closed = 1 ∧
      left.source.executed = ["SELECT 1", "SELECT 2", "SELECT 3", "SELECT 4", "SELECT 5"] := by
  have hcatalog : Driver.postgres.catalog? = some Catalog.postgresql := rfl
  have hclosed := no_cursor_is_left_open hcatalog troubledReplies (.finite false 0 0) troubledCalls
  exact ⟨hcatalog, _, rfl, hclosed.2 5 _ rfl⟩

end Executor

end SplitExport
