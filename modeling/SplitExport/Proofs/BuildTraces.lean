import SplitExport.Proofs.Coverage
import SplitExport.Proofs.LogLevels
import SplitExport.Proofs.ProbeOutcomes
import SplitExport.Proofs.TableNames

/-!
# Build traces — what a build writes, record by record

A build writes a record of its start, records of its probe if it makes one, and a record of its end.

* `Context.recordOf` is the record of a message, with the parts of a context in front. While the context
  stays as it is, the records of events are those of their messages (`recordsOf_of_quiet`).
* `Probe.IsExpected` is what an executor may answer: a fault, no rows, or both columns of a probe in one kind.
  Such an answer gives no bounds, or two words are taken for bounds of at most 128 bits (`Probe.told_run`),
  between which the ranges can always be told of.
* `ExportSpec.Tells` lists what a build may tell between its start and its end, beside the statements that it
  sends, and `ExportSpec.Closes` how its records end. Both are read off the stages of a build
  (`ExportSpec.exists_tells`, `ExportSpec.exists_closes`).

The context is set at the start and counts queries at the end only, so that neither the build before nor a
number of queries shows in front of any other record. An error that nobody handles leaves no last record
(`panicking_build_leaves_no_last_record`).
-/

namespace SplitExport

open SplitExport.Log SplitExport.Number SplitExport.Probe SplitExport.Results SplitExport.Text

/-! ## Records -/

namespace Log

/-- The parts in front of a message. -/
def Context.headParts (context : Context) (memory : Option Nat) : List String :=
  context.parts ++ ["MEM:" ++ memoryText memory]

/-- The record of a message about a context. -/
def Context.recordOf (context : Context) (memory : Option Nat) (message : Level × String) : Record :=
  ⟨message.1, "[" ++ "] [".intercalate (context.headParts memory) ++ "] " ++ message.2⟩

variable {memory : Option Nat} {state : State} {context : Context} {event : Event} {events : List Event}

/-- An event whose numbers are written has its words for a message. -/
theorem Event.message?_of_written (h : event.isWritten = true) : event.message? = event.words? := by
  rw [message?, if_pos h]

/-- An event that leaves a context behind is written with this context, if the context can be written. -/
theorem State.record?_eq (h : (state.after event).context = some context)
    (hwritten : context.isWritten = true) :
    state.record? memory event = event.message?.map (context.recordOf memory) := by
  have hhead : head (some context) memory = .ok (headText (some context) memory) := by
    rw [head, Option.all_some, if_pos hwritten]
  have htext : headText (some context) memory ++ " " =
      "[" ++ "] [".intercalate (context.headParts memory) ++ "] " := by
    rw [headText, String.append_assoc, show "]" ++ " " = "] " from rfl]
    rfl
  rw [record?, h, hhead]
  cases event.message? with
  | none => rfl
  | some message =>
      show some (Record.mk message.1 (headText (some context) memory ++ " " ++ message.2)) = _
      rw [htext]
      rfl

/-- The records of events behind others are those that the state behind these gives. -/
theorem recordsOf_append (memory : Option Nat) (state : State) (first rest : List Event) :
    recordsOf memory state (first ++ rest) =
      recordsOf memory state first ++ recordsOf memory (first.foldl State.after state) rest := by
  induction first generalizing state with
  | nil => rfl
  | cons event first ih => rw [List.cons_append, recordsOf, recordsOf, ih, List.append_assoc, List.foldl_cons]

/-- Quiet events are written with the context that there is. -/
theorem recordsOf_of_quiet (hcontext : state.context = some context) (hwritten : context.isWritten = true)
    (hquiet : ∀ event ∈ events, event.IsQuiet) :
    recordsOf memory state events = (events.filterMap Event.message?).map (context.recordOf memory) := by
  induction events with
  | nil => rfl
  | cons event events ih =>
      have hsame : state.after event = state := hquiet event List.mem_cons_self state
      have hrest := ih fun later hlater => hquiet later (List.mem_cons_of_mem _ hlater)
      have hshown : (state.after event).context = some context := by rw [hsame, hcontext]
      rw [recordsOf, State.record?_eq hshown hwritten, hsame, hrest]
      cases hmessage : event.message? with
      | none => rw [List.filterMap_cons_none hmessage]; rfl
      | some message => rw [List.filterMap_cons_some hmessage]; rfl

/-- The parts of a context are those of its export and, if there are queries to count, their number. -/
theorem Context.parts_eq (context : Context) :
    ∃ rest, (∀ part ∈ rest, part.toList.head? ≠ some 'Q') ∧ context.parts =
      rest ++ if 0 < context.queryCount then ["QUERIES:" ++ intText context.queryCount] else [] := by
  -- the parts in front start with a `T`, an `S` and a `P`, of which the last two may be missing
  refine ⟨_, fun part hpart => ?_, rfl⟩
  rcases List.mem_cons.mp hpart with rfl | hpart
  · simp [String.toList_append]
  · rcases List.mem_append.mp hpart with hsplit | hparallelism
    · split at hsplit
      · split at hsplit
        · exact nomatch hsplit
        · obtain rfl := List.mem_singleton.mp hsplit
          simp [String.toList_append]
      · exact nomatch hsplit
    · split at hparallelism
      · split at hparallelism
        · exact nomatch hparallelism
        · obtain rfl := List.mem_singleton.mp hparallelism
          simp [String.toList_append]
      · exact nomatch hparallelism

/-- What follows `QUERIES:` in the head of a message is the number of queries, if there are any to show. -/
theorem Context.queries_mem_headParts_iff {text : String} :
    "QUERIES:" ++ text ∈ context.headParts memory ↔
      0 < context.queryCount ∧ text = intText context.queryCount := by
  obtain ⟨rest, hother, hparts⟩ := context.parts_eq
  have hfirst : ("QUERIES:" ++ text).toList.head? = some 'Q' := by simp [String.toList_append]
  have hrest : "QUERIES:" ++ text ∉ rest := fun hmem => hother _ hmem hfirst
  have hmemory : "QUERIES:" ++ text ≠ "MEM:" ++ memoryText memory := by
    intro heq
    rw [heq] at hfirst
    simp [String.toList_append] at hfirst
  rw [headParts, hparts, List.append_assoc, List.mem_append, or_iff_right hrest, List.mem_append,
    List.mem_singleton, or_iff_left hmemory]
  split
  · rename_i hpos
    rw [List.mem_singleton, String.append_right_inj, and_iff_right hpos]
  · rename_i hnone
    exact ⟨fun h => (nomatch h), fun h => absurd h.1 hnone⟩

/-- A record begins with the table that it is about. -/
theorem Context.text_recordOf (context : Context) (memory : Option Nat) (message : Level × String) :
    ∃ rest, (context.recordOf memory message).text = "[TABLE:" ++ orNone context.table ++ "]" ++ rest := by
  -- a missing table is shown as the name that stands for it would be
  have htable : { context with table := some (orNone context.table) }.table = some (orNone context.table) := rfl
  obtain ⟨rest, hrest⟩ := headText_of_table htable memory
  have hhead : "[" ++ "] [".intercalate (context.headParts memory) ++ "]" =
      "[TABLE:" ++ orNone context.table ++ "]" ++ rest := hrest
  refine ⟨rest ++ " " ++ message.2, ?_⟩
  rw [recordOf, show "] " = "]" ++ " " from rfl, ← String.append_assoc, hhead]
  simp only [String.append_assoc]

end Log

/-! ## Answers -/

namespace Probe

/-- An answer that an executor may give: a fault, whoever handles it, a frame without rows, or one that has
    both columns of a probe, of one kind. A kind of integers is one of at most 128 bits. -/
inductive IsExpected (settings : Settings) : Except Fault Frame → Prop where
  | fault {fault : Fault} : IsExpected settings (.error fault)
  | noRows {frame : Frame} : frame.height = 0 → IsExpected settings (.ok frame)
  | columns {frame : Frame} {least greatest : Column} : frame.column? settings.minColumn = some least →
      frame.column? settings.maxColumn = some greatest → least.kind = greatest.kind →
      (least.kind.isIntegral = true → IsWordKind least.kind) → IsExpected settings (.ok frame)

variable {settings : Settings} {column : String} {frame : Frame} {kind : ColumnKind} {least greatest : Datum}
  {low high : Column}

/-- What there is to tell of bounds, with a warning in front if one of the two values that were read is null. -/
def boundsEvents (seconds : Binary64) (column : String) (least greatest : Datum) (b : Bounds) : List Event :=
  (if least.isNull || greatest.isNull then [.nullBounds (some column)] else []) ++
    [.boundsProbed (.int b.min) (.int b.max) seconds]

/-- What is written of bounds. -/
def boundsMessages (seconds : Binary64) (column : String) (least greatest : Datum) (b : Bounds) :
    List (Level × String) :=
  (if least.isNull || greatest.isNull then
    [(.warning, "Bounds probe on '" ++ column ++ "' returned NULL (empty window), using [0, 0]")]
  else []) ++
  [(.info, "Split column bounds: min=" ++ intText b.min ++ ", max=" ++ intText b.max ++
    " (probe took " ++ seconds.fixedText 2 ++ "s)")]

/-- Bounds of at most 128 bits are written as they are told. -/
theorem filterMap_boundsEvents (seconds : Binary64) (column : String) (least greatest : Datum) {b : Bounds}
    (hmin : b.min.natAbs ≤ 2 ^ 128) (hmax : b.max.natAbs ≤ 2 ^ 128) :
    (boundsEvents seconds column least greatest b).filterMap Event.message? =
      boundsMessages seconds column least greatest b := by
  have hwritten : (Event.boundsProbed (.int b.min) (.int b.max) seconds).isWritten = true := by
    rw [Event.isWritten, isWritten_int, isWritten_int, isWritable_of_le_two_pow (i := b.min) (by omega),
      isWritable_of_le_two_pow (i := b.max) (by omega)]
    rfl
  rw [boundsEvents, boundsMessages, List.filterMap_append,
    List.filterMap_cons_some (Event.message?_of_written hwritten)]
  split <;> rfl

/-- Two words of one kind are taken for bounds of at most 128 bits. -/
theorem takeBounds_of_words (seconds : Binary64) (column : String) (hkind : IsWordKind kind)
    (hleast : IsWord kind least) (hgreatest : IsWord kind greatest) :
    ∃ b : Bounds, b.min.natAbs ≤ 2 ^ 128 ∧ b.max.natAbs ≤ 2 ^ 128 ∧
      takeBounds seconds column least greatest =
        { outcome := .ok (.bounds b), events := boundsEvents seconds column least greatest b } := by
  by_cases hnull : (least.isNull || greatest.isNull) = true
  · -- a null makes both bounds 0, whatever the other word is
    refine ⟨⟨0, 0⟩, by decide, by decide, ?_⟩
    rw [takeBounds, if_pos hnull, boundsEvents, if_pos hnull]
    rfl
  · obtain ⟨hsome, hother⟩ := not_or.mp fun h => hnull (Bool.or_eq_true_iff.mpr h)
    have hshort : ¬ (!(least.isWritten && greatest.isWritten)) = true := by
      rw [isWritten_of_isWord hkind hleast, isWritten_of_isWord hkind hgreatest]
      decide
    obtain ⟨-, m, rfl⟩ := hleast.exists_int fun h => hsome (h ▸ rfl)
    obtain ⟨-, n, rfl⟩ := hgreatest.exists_int fun h => hother (h ▸ rfl)
    refine ⟨⟨m, n⟩, hkind.natAbs_le hleast, hkind.natAbs_le hgreatest, ?_⟩
    rw [takeBounds, if_neg hnull, if_neg hshort]
    rfl

/-- Without both columns to read there are no bounds, and nothing to tell. -/
theorem judge_of_not_hasBoth (seconds : Binary64) (column : String)
    (h : ∀ low high, ¬ HasBoth settings frame low high) :
    (∀ b, (judge settings seconds column frame).outcome ≠ .ok (.bounds b)) ∧
      (judge settings seconds column frame).events = [] := by
  unfold judge
  split
  · exact ⟨fun _ => nofun, rfl⟩
  · rename_i hrow
    split
    · exact ⟨fun _ => nofun, rfl⟩
    · rename_i low hlow
      split
      · exact ⟨fun _ => nofun, rfl⟩
      · rename_i hkind
        split
        · exact ⟨fun _ => nofun, rfl⟩
        · exact ⟨fun _ => nofun, rfl⟩
        · rename_i high hreadable hhigh
          have hintegral : low.kind.isIntegral = true := by simpa using hkind
          have hleast : HasLeast settings frame low := ⟨hrow, columnOf_eq_ok.mp hlow, hintegral⟩
          exact absurd ⟨hleast, hreadable, columnOf_eq_ok.mp hhigh⟩ (h low high)

/-- Where both columns can be read, an expected answer has two words in front. -/
theorem IsExpected.words (h : IsExpected settings (.ok frame)) (hsound : frame.IsSound)
    (hboth : HasBoth settings frame low high) :
    IsWordKind low.kind ∧ IsWord low.kind (firstValue low) ∧ IsWord low.kind (firstValue high) := by
  have hlow : IsWord low.kind (firstValue low) :=
    isWord_firstValue (hsound low (List.mem_of_find?_eq_some hboth.hasLeast)) hboth.integral
  cases h with
  | noRows hrow => exact absurd hrow hboth.hasRow
  | columns hleast hgreatest hkinds hword =>
      obtain rfl := Option.some.inj (hboth.hasLeast.symm.trans hleast)
      obtain rfl := Option.some.inj (hboth.hasGreatest.symm.trans hgreatest)
      refine ⟨hword hboth.integral, hlow, ?_⟩
      rw [hkinds]
      exact isWord_firstValue (hsound high (List.mem_of_find?_eq_some hgreatest)) (hkinds ▸ hboth.integral)

/-- What a probe tells, beside the outcome that it comes to. -/
inductive Told (settings : Settings) (e : Executor) (column statement : String) :
    Except ProbeFault Outcome → List Event → Prop where
  /-- There are no bounds. -/
  | silent {o : Except ProbeFault Outcome} : (∀ b, o ≠ .ok (.bounds b)) →
      Told settings e column statement o [.note .debug ("Probing bounds: " ++ statement)]
  /-- Both columns were read. -/
  | bounds {frame : Frame} {low high : Column} {b : Bounds} : (e.execute statement).1 = .ok frame →
      HasBoth settings frame low high → b.min.natAbs ≤ 2 ^ 128 → b.max.natAbs ≤ 2 ^ 128 →
      Told settings e column statement (.ok (.bounds b))
        (.note .debug ("Probing bounds: " ++ statement) ::
          boundsEvents (e.execute statement).2.source.seconds column (firstValue low) (firstValue high) b)

/-- A probe whose answer is expected tells of its statement, and of the bounds that it comes to. -/
theorem told_run {e : Executor} {base : Sql.BaseQuery} {condition : String}
    (hexpected : IsExpected settings (e.execute (query settings base column condition)).1) :
    Told settings e column (query settings base column condition)
      (run settings e base condition column).outcome (run settings e base condition column).events := by
  unfold run
  dsimp only
  split
  · rename_i fault after heq
    refine .silent fun b => ?_
    dsimp only
    split <;> exact nofun
  · rename_i frame after heq
    have hanswer : (e.execute (query settings base column condition)).1 = .ok frame := by rw [heq]
    have hafter : (e.execute (query settings base column condition)).2 = after := by rw [heq]
    by_cases hboth : ∃ low high, HasBoth settings frame low high
    · obtain ⟨low, high, hboth⟩ := hboth
      obtain ⟨hkind, hlow, hhigh⟩ := (hanswer ▸ hexpected).words (e.isSound_execute _ frame hanswer) hboth
      obtain ⟨b, hmin, hmax, htaken⟩ := takeBounds_of_words after.source.seconds column hkind hlow hhigh
      rw [judge_of_hasBoth hboth, htaken, ← hafter]
      exact .bounds hanswer hboth hmin hmax
    · have hneither : ∀ low high, ¬ HasBoth settings frame low high :=
        fun low high h => hboth ⟨low, high, h⟩
      obtain ⟨hnone, hsilent⟩ := judge_of_not_hasBoth after.source.seconds column hneither
      rw [hsilent]
      exact .silent hnone

end Probe

/-! ## Builds -/

/-- The statements that an executor was sent, none if there is no executor. -/
def account (executor : Option Executor) : List String :=
  executor.elim [] fun e => e.source.executed

namespace ExportSpec

variable {settings : Settings} {s : ExportSpec} {executor : Option Executor} {plan : SplitPlan}
  {condition : String} {e : Executor} {statement : String}

/-- A build comes to ask its executor for the bounds of a split column. -/
structure Asks (settings : Settings) (s : ExportSpec) (executor : Option Executor) (plan : SplitPlan)
    (condition : String) (e : Executor) (statement : String) : Prop where
  planned : splitPlan s.splitColumn s.parallelism = .ok (some plan)
  conditioned : s.partitionCondition = .ok condition
  given : executor = some e
  stated : statement = Probe.query settings s.base plan.column condition

/-- What a build tells between its start and its end, beside the statements that it sends. -/
inductive Tells (settings : Settings) (s : ExportSpec) (executor : Option Executor) :
    List String → List (Level × String) → Prop where
  /-- Nobody was asked. -/
  | nothing : Tells settings s executor [] []
  /-- A statement was sent, and no bounds came of it. -/
  | probing {plan : SplitPlan} {condition : String} {e : Executor} {statement : String} :
      s.Asks settings executor plan condition e statement →
      (∀ b, (Probe.run settings e s.base condition plan.column).outcome ≠ .ok (.bounds b)) →
      Tells settings s executor [statement] [(.debug, "Probing bounds: " ++ statement)]
  /-- The statement was answered with bounds, but the share of the limit has too many digits. -/
  | unshared {plan : SplitPlan} {condition : String} {e : Executor} {statement : String} {frame : Frame}
      {low high : Column} {b : Bounds} :
      s.Asks settings executor plan condition e statement →
      (Probe.run settings e s.base condition plan.column).outcome = .ok (.bounds b) →
      (e.execute statement).1 = .ok frame → HasBoth settings frame low high →
      s.limit.all (fun n => isWritable (n.fdiv plan.parallelism)) = false →
      Tells settings s executor [statement]
        ((.debug, "Probing bounds: " ++ statement) ::
          boundsMessages (e.execute statement).2.source.seconds plan.column (firstValue low)
            (firstValue high) b)
  /-- The statement was answered with bounds, and the span between them was divided. -/
  | bounds {plan : SplitPlan} {condition : String} {e : Executor} {statement : String} {frame : Frame}
      {low high : Column} {b : Bounds} {ranges : List SplitRange} :
      s.Asks settings executor plan condition e statement →
      (Probe.run settings e s.base condition plan.column).outcome = .ok (.bounds b) →
      (e.execute statement).1 = .ok frame → HasBoth settings frame low high →
      s.limit.all (fun n => isWritable (n.fdiv plan.parallelism)) = true →
      (chunkingOf plan b).ranges = .ok ranges →
      Tells settings s executor [statement]
        ((.debug, "Probing bounds: " ++ statement) ::
          boundsMessages (e.execute statement).2.source.seconds plan.column (firstValue low)
            (firstValue high) b ++
          [(.debug, "Calculated " ++ intText ranges.length ++ " ranges (bucket size: " ++
            intText (chunkingOf plan b).width ++ ")")])

/-- Without bounds a build ends behind its probe. -/
theorem buildSplit_events_of_silent {started : Event}
    (h : ∀ b, (Probe.run settings e s.base condition plan.column).outcome ≠ .ok (.bounds b)) :
    (s.buildSplit settings plan condition started e).events =
      started :: (Probe.run settings e s.base condition plan.column).events ++
        BuildRun.endEvents (s.buildSplit settings plan condition started e).result := by
  unfold buildSplit
  dsimp only
  split
  · rfl
  · rename_i outcome hrun
    cases outcome with
    | failure cause => rfl
    | bounds b => exact absurd hrun (h b)

/-- Behind bounds a build tells what there is to tell of the queries between them. -/
theorem buildSplit_events_of_bounds {started : Event} {b : Bounds}
    (h : (Probe.run settings e s.base condition plan.column).outcome = .ok (.bounds b)) :
    (s.buildSplit settings plan condition started e).events =
      started :: ((Probe.run settings e s.base condition plan.column).events ++
          (s.splitQueries plan condition b).1) ++
        BuildRun.endEvents (s.buildSplit settings plan condition started e).result := by
  unfold buildSplit
  dsimp only
  rw [h]
  rfl

/-- The ranges that the queries are made for are told of. -/
theorem splitQueries_events {b : Bounds} {share : String} {ranges : List SplitRange}
    (hshare : s.shareCondition plan.parallelism = .ok share)
    (hranges : (chunkingOf plan b).ranges = .ok ranges) :
    (s.splitQueries plan condition b).1 = [.rangesCalculated ranges.length (chunkingOf plan b).width] := by
  unfold splitQueries
  dsimp only
  rw [hshare, hranges]

/-- Without a share there is nothing to tell of ranges. -/
theorem splitQueries_events_of_unshared {b : Bounds} {cause : OversizeInteger}
    (hshare : s.shareCondition plan.parallelism = .error cause) :
    (s.splitQueries plan condition b).1 = [] := by
  unfold splitQueries
  dsimp only
  rw [hshare]

/-- What is counted and is no more than the parallelism of a build that was started can be written. -/
theorem isWritable_count {count : Nat} (hstart : isWritable plan.parallelism = true)
    (hle : (count : Int) ≤ plan.parallelism) : isWritable count = true :=
  isWritable_of_natAbs_le (by omega) hstart

/-- A build that asks, and whose answer is expected, tells of its probe and of the ranges. -/
theorem exists_tells_of_asks (h : s.Asks settings executor plan condition e statement)
    (hstart : isWritable plan.parallelism = true) (hexpected : IsExpected settings (e.execute statement).1) :
    ∃ events, s.Tells settings executor [statement] (events.filterMap Event.message?) ∧
      (s.build settings executor).events =
        s.started :: events ++ BuildRun.endEvents (s.build settings executor).result := by
  obtain ⟨hplan, hcondition, rfl, rfl⟩ := h
  have hasks :
      s.Asks settings (some e) plan condition e (Probe.query settings s.base plan.column condition) :=
    ⟨hplan, hcondition, rfl, rfl⟩
  have htold := told_run hexpected
  rw [build_eq_buildSplit hplan hstart hcondition]
  generalize houtcome : (Probe.run settings e s.base condition plan.column).outcome = o at htold
  generalize hevents : (Probe.run settings e s.base condition plan.column).events = events at htold
  cases htold with
  | silent hnone =>
      refine ⟨[.note .debug _], .probing hasks (houtcome ▸ hnone), ?_⟩
      rw [buildSplit_events_of_silent (houtcome ▸ hnone), hevents]
  | @bounds frame low high b hanswer hboth hmin hmax =>
      refine ⟨_, ?_, buildSplit_events_of_bounds houtcome⟩
      have hprobed := filterMap_boundsEvents
        (e.execute (Probe.query settings s.base plan.column condition)).2.source.seconds plan.column
        (firstValue low) (firstValue high) hmin hmax
      rw [hevents, List.cons_append, List.filterMap_cons_some (Event.message?_of_written rfl),
        List.filterMap_append, hprobed]
      cases hshare : s.limit.all (fun n => isWritable (n.fdiv plan.parallelism)) with
      | false =>
          rw [splitQueries_events_of_unshared (shareCondition_eq_error hshare), List.filterMap_nil,
            List.append_nil]
          exact .unshared hasks houtcome hanswer hboth hshare
      | true =>
          -- the ends have at most 128 bits, so that no width between them is too long to be told
          have hwidth := Chunking.isWritable_width (c := chunkingOf plan b) hmin hmax
          have hranges :
              (chunkingOf plan b).ranges = .ok (SplitRange.cut (chunkingOf plan b).width b.min b.max) :=
            Chunking.ranges_eq_ok_iff.mpr ⟨hwidth, rfl⟩
          have hcount := isWritable_count hstart (chunkingOf plan b).length_cut_le_parallelism
          have hwritten : (Event.rangesCalculated
              (SplitRange.cut (chunkingOf plan b).width b.min b.max).length
              (chunkingOf plan b).width).isWritten = true := by
            rw [Event.isWritten, hwidth, Bool.and_true]
            exact hcount
          rw [splitQueries_events (shareCondition_eq_ok.mpr ⟨hshare, rfl⟩) hranges,
            List.filterMap_cons_some (Event.message?_of_written hwritten), List.filterMap_nil]
          exact .bounds hasks houtcome hanswer hboth hshare hranges

/-- What a build whose start was told tells between its start and its end is what its stages tell. -/
theorem exists_tells (hstart : s.started.isWritten = true)
    (hexpected : ∀ e, executor = some e → ∀ statement, IsExpected settings (e.execute statement).1) :
    ∃ statements events, s.Tells settings executor statements (events.filterMap Event.message?) ∧
      account (s.build settings executor).executor = account executor ++ statements ∧
      (s.build settings executor).events =
        s.started :: events ++ BuildRun.endEvents (s.build settings executor).result := by
  have hends := ends_build settings executor hstart
  generalize hbuilt : s.build settings executor = built at hends
  have hunasked : account executor = account executor ++ [] := (List.append_nil _).symm
  cases hends with
  | refused => exact ⟨[], [], .nothing, hunasked, rfl⟩
  | unconditioned => exact ⟨[], [], .nothing, hunasked, rfl⟩
  | whole => exact ⟨[], [], .nothing, hunasked, rfl⟩
  | unasked _ _ hnone => exact ⟨[], [], .nothing, hnone ▸ hunasked, rfl⟩
  | @asked plan condition e _ _ hplan hcondition hgiven =>
      obtain ⟨events, htells, hevents⟩ := exists_tells_of_asks ⟨hplan, hcondition, hgiven, rfl⟩
        ((isWritten_started_of_plan hplan).symm.trans hstart) (hexpected e hgiven _)
      rw [hbuilt] at hevents
      refine ⟨_, events, htells, ?_, hevents⟩
      rw [hgiven]
      exact e.executed_execute _

/-- The queries between bounds are at least one, and no more than the parallelism says. -/
theorem length_of_splitQueries_eq_ok {b : Bounds} {queries : List String}
    (h : (s.splitQueries plan condition b).2 = .ok queries) :
    queries ≠ [] ∧ (queries.length : Int) ≤ plan.parallelism := by
  obtain ⟨share, ranges, -, hranges, -, rfl⟩ := splitQueries_eq_ok.mp h
  obtain ⟨hsome, hle⟩ := Chunking.length_of_ranges_eq_ok hranges
  rw [List.length_map]
  exact ⟨fun h => hsome (List.map_eq_nil_iff.mp h), hle⟩

/-- A build that gives queries gives at least one, and their number can be told. -/
theorem length_of_build_eq_ok {queries : List String} (hstart : s.started.isWritten = true)
    (h : (s.build settings executor).result = .ok queries) :
    queries ≠ [] ∧ isWritable queries.length = true := by
  have hends := ends_build settings executor hstart
  generalize s.build settings executor = built at h hends
  cases hends with
  | refused => exact nomatch h
  | unconditioned => exact nomatch h
  | whole =>
      rw [BuildRun.result_finish, wholeQueries_eq, ite_eq_ok] at h
      have hone : isWritable (1 : Nat) = true := by decide +kernel
      rw [h.2]
      exact ⟨List.cons_ne_nil _ _, hone⟩
  | unasked => exact nomatch h
  | asked hplan _ _ _ hprobed =>
      cases hprobed with
      | fault => exact nomatch h
      | failure => exact nomatch h
      | bounds =>
          obtain ⟨hsome, hle⟩ := length_of_splitQueries_eq_ok h
          exact ⟨hsome, isWritable_count ((isWritten_started_of_plan hplan).symm.trans hstart) hle⟩

/-- How the records of a build end, by its result: with one that counts its queries, with one that tells its
    error, or, behind an error that nobody handles, with none. -/
inductive Closes (s : ExportSpec) (memory : Option Nat) :
    Except BuildError (List String) → List Record → Prop where
  | built {queries : List String} : queries ≠ [] →
      Closes s memory (.ok queries) [(s.context queries.length).recordOf memory
        (.info, "Built " ++ intText queries.length ++ " export " ++
          if queries.length = 1 then "query" else "queries")]
  | failed {cause : BuildError} : cause.isFatal = false →
      Closes s memory (.error cause) [(s.context 0).recordOf memory
        (.error, "Query building failed: " ++ cause.kind ++ ": " ++ cause.message)]
  | aborted {cause : BuildError} : cause.isFatal = true → Closes s memory (.error cause) []

variable {memory : Option Nat} {state : State} {result : Except BuildError (List String)}
  {records : List Record}

/-- The context of a specification is written if the parallelism and the number of queries are. -/
theorem isWritten_context (hstart : s.started.isWritten = true) {count : Nat}
    (hcount : isWritable count = true) : (s.context count).isWritten = true := by
  show (s.parallelism.all isWritable && (_ || isWritable count)) = true
  rw [hcount, Bool.or_true, Bool.and_true]
  exact hstart

/-- Before there are queries to count, the parallelism is enough. -/
theorem isWritten_context_zero (hstart : s.started.isWritten = true) : (s.context 0).isWritten = true := by
  have hzero : isWritable (0 : Nat) = true := by decide +kernel
  exact isWritten_context hstart hzero

/-- A cause that comes behind the start is told unless nobody handles it. -/
theorem isTold_of_ne_start {cause : BuildError} (h : ∀ e, cause ≠ .start e) :
    cause.isTold = !cause.isFatal := by
  cases cause with
  | start e => exact absurd rfl (h e)
  | _ => rfl

/-- The events of an end are written as its records. -/
theorem closes_endEvents (hstart : s.started.isWritten = true) (hcontext : state.context = some (s.context 0))
    (hqueries : ∀ queries, result = .ok queries → queries ≠ [] ∧ isWritable queries.length = true)
    (hgoes : ∀ e, result ≠ .error (.start e)) :
    s.Closes memory result (recordsOf memory state (BuildRun.endEvents result)) := by
  cases result with
  | ok queries =>
      obtain ⟨hsome, hcount⟩ := hqueries queries rfl
      have hshown : (state.after (.built queries.length)).context = some (s.context queries.length) := by
        rw [State.after, hcontext]
        rfl
      have hone : (queries.length : Int) = 1 ↔ queries.length = 1 := by omega
      have hwritten : (Event.built queries.length).isWritten = true := hcount
      rw [BuildRun.endEvents, recordsOf, State.record?_eq hshown (isWritten_context hstart hcount),
        Event.message?_of_written hwritten]
      simp only [Event.words?, hone]
      exact .built hsome
  | error cause =>
      rw [BuildRun.endEvents, isTold_of_ne_start fun e he => hgoes e (he ▸ rfl)]
      cases hfatal : cause.isFatal with
      | true => exact .aborted hfatal
      | false =>
          have hshown : (state.after cause.event).context = some (s.context 0) := hcontext
          rw [if_pos (by rfl), recordsOf, State.record?_eq hshown (isWritten_context_zero hstart)]
          exact .failed hfatal

/-- The number of queries is counted behind all that a build tells. -/
theorem exists_closes {events : List Event} (hwritten : s.started.isWritten = true) (memory : Option Nat)
    (state : State) (hevents : (s.build settings executor).events =
      s.started :: events ++ BuildRun.endEvents (s.build settings executor).result) :
    ∃ final, s.Closes memory (s.build settings executor).result final ∧
      recordsOf memory state (s.build settings executor).events =
        (s.started.message?.toList ++ events.filterMap Event.message?).map ((s.context 0).recordOf memory) ++
          final := by
  -- the events between start and end are those that are known to be quiet
  have hquiet : ∀ event ∈ events, event.IsQuiet := by
    obtain ⟨first, told, -, hquiet, htold⟩ := exists_quiet_of_build settings s executor
    have hsame := List.append_cancel_right (hevents.symm.trans htold)
    exact (List.cons.inj hsame).2 ▸ hquiet
  have hstart : (state.after s.started).context = some (s.context 0) := rfl
  have hcontext := isWritten_context_zero hwritten
  refine ⟨_, closes_endEvents hwritten hstart (fun _ => length_of_build_eq_ok hwritten)
    (ends_build settings executor hwritten).ne_start, ?_⟩
  rw [hevents, List.cons_append, recordsOf, State.record?_eq hstart hcontext, recordsOf_append,
    recordsOf_of_quiet hstart hcontext hquiet, foldl_after_of_quiet hquiet, List.map_append, List.append_assoc]
  cases s.started.message? <;> rfl

/-- A start that is told is told as an information. -/
theorem exists_start (hstart : s.started.isWritten = true) :
    ∃ start, s.started.message? = some (.info, start) := by
  rw [Event.message?_of_written hstart]
  unfold started Event.words?
  dsimp only
  split
  · split
    · exact ⟨_, rfl⟩
    · exact ⟨_, rfl⟩
  · exact ⟨_, rfl⟩

/-- Whatever a build tells on its way is written from `debug` on. -/
theorem Tells.debug_admits {statements : List String} {told : List (Level × String)}
    (h : s.Tells settings executor statements told) :
    ∀ message ∈ told, Level.debug.admits message.1 = true := by
  cases h with
  | nothing => exact fun _ h => nomatch h
  | probing => simp [Level.admits, Level.threshold, Level.severity]
  | unshared =>
      unfold boundsMessages
      split <;> simp [Level.admits, Level.threshold, Level.severity]
  | bounds =>
      unfold boundsMessages
      split <;> simp [Level.admits, Level.threshold, Level.severity]

/-- The end of a build is told with a context of its specification, and written from `debug` on. -/
theorem Closes.exists_recordOf (h : s.Closes memory result records) :
    ∀ record ∈ records, ∃ count message, record = (s.context count).recordOf memory message ∧
      Level.debug.admits message.1 = true := by
  intro record hrecord
  cases h with
  | built =>
      obtain rfl := List.mem_singleton.mp hrecord
      exact ⟨_, _, rfl, rfl⟩
  | failed =>
      obtain rfl := List.mem_singleton.mp hrecord
      exact ⟨_, _, rfl, rfl⟩
  | aborted => exact nomatch hrecord

end ExportSpec

/-! ## Main result -/

/-- The records that a build of a session leaves, from `debug` on. -/
def Session.trace (settings : Settings) (s : Session) (executor : Option Executor) : List Record :=
  (s.step settings (.build executor .debug)).2.journal.records

/-- From `debug` on, a build leaves all the records of its events if these are of the level `debug` or above. -/
theorem Session.trace_eq {settings : Settings} {s : Session} {executor : Option Executor}
    {records : List Record}
    (h : recordsOf s.journal.memory s.journal.state (s.spec.build settings executor).events = records)
    (hadmitted : ∀ record ∈ records, Level.debug.admits record.level = true) :
    s.trace settings executor = records := by
  rw [trace, step]
  dsimp only
  rw [Journal.records_logAll, List.nil_append, h]
  exact List.filter_eq_self.mpr hadmitted

/-- **A build leaves its trace.** Whatever was built before, and whoever is asked, provided that the answer
    is expected, a build whose parallelism can be written leaves the record of its start, then what it tells
    beside the statements that it sends, and then one record of its end: the number of its queries, or the
    class and the words of its error. An error that nobody handles has no such record. Every record begins
    with the table of the specification, and the number of queries is shown in front of the record that tells
    it and of no other. A build whose parallelism has too many digits leaves no record, and asks nothing. -/
theorem build_leaves_its_trace {settings : Settings} {executor : Option Executor} (s : Session)
    (hexpected : ∀ e, executor = some e → ∀ statement, IsExpected settings (e.execute statement).1) :
    (s.spec.parallelism.all isWritable = true →
      ∃ (built : BuildRun) (start : String) (statements : List String) (told : List (Level × String))
        (final : List Record),
        (s.step settings (.build executor .debug)).1 = some built ∧
        s.trace settings executor =
          ((.info, start) :: told).map ((s.spec.context 0).recordOf s.journal.memory) ++ final ∧
        s.spec.started.message? = some (.info, start) ∧
        account built.executor = account executor ++ statements ∧
        s.spec.Tells settings executor statements told ∧
        s.spec.Closes s.journal.memory built.result final ∧
        (∀ record ∈ s.trace settings executor, ∃ rest,
          record.text = "[TABLE:" ++ orNone s.spec.table ++ "]" ++ rest) ∧
        ∀ count text, "QUERIES:" ++ text ∈ (s.spec.context count).headParts s.journal.memory ↔
          0 < count ∧ text = intText count) ∧
    (s.spec.parallelism.all isWritable = false →
      s.trace settings executor = [] ∧
        (s.spec.build settings executor).result = .error (.start {}) ∧
        (s.spec.build settings executor).executor = executor) := by
  refine ⟨fun hwritten => ?_, fun hlong => ?_⟩
  · obtain ⟨statements, events, htells, haccount, hevents⟩ :=
      ExportSpec.exists_tells (s := s.spec) hwritten hexpected
    obtain ⟨start, hstart⟩ := ExportSpec.exists_start (s := s.spec) hwritten
    obtain ⟨final, hcloses, hrecords⟩ :=
      ExportSpec.exists_closes hwritten s.journal.memory s.journal.state hevents
    rw [hstart] at hrecords
    -- every record is one of the specification, of the level `debug` or above
    have hshape : ∀ record ∈ ((Level.info, start) :: events.filterMap Event.message?).map
          ((s.spec.context 0).recordOf s.journal.memory) ++ final,
        ∃ count message, record = (s.spec.context count).recordOf s.journal.memory message ∧
          Level.debug.admits message.1 = true := by
      intro record hrecord
      rcases List.mem_append.mp hrecord with hfront | hend
      · obtain ⟨message, hmessage, rfl⟩ := List.mem_map.mp hfront
        refine ⟨0, message, rfl, ?_⟩
        rcases List.mem_cons.mp hmessage with rfl | htold
        · rfl
        · exact htells.debug_admits message htold
      · exact hcloses.exists_recordOf record hend
    have htrace := Session.trace_eq hrecords fun record hrecord => by
      obtain ⟨count, message, rfl, hadmitted⟩ := hshape record hrecord
      exact hadmitted
    refine ⟨s.spec.build settings executor, start, statements, _, final, rfl, htrace, hstart, haccount,
      htells, hcloses, fun record hrecord => ?_, fun count text => Context.queries_mem_headParts_iff⟩
    rw [htrace] at hrecord
    obtain ⟨count, message, rfl, -⟩ := hshape record hrecord
    exact (s.spec.context count).text_recordOf _ message
  · have hbuild : s.spec.build settings executor =
        .finish [.contextSet (s.spec.context 0)] executor (.error (.start {})) :=
      ExportSpec.build_of_unwritten hlong
    refine ⟨?_, ?_, ?_⟩
    · refine Session.trace_eq ?_ fun _ h => nomatch h
      rw [hbuild]
      rfl
    · rw [hbuild, BuildRun.result_finish]
    · rw [hbuild]
      rfl

/-- The source that answers with 1 and 4 answers every statement as expected. -/
theorem isExpected_oneToFour :
    ∀ e, some oneToFour = some e → ∀ statement, IsExpected {} (e.execute statement).1 := by
  rintro e he statement
  obtain rfl := Option.some.inj he
  have hanswer : (oneToFour.execute statement).1 =
      .ok ⟨[⟨"min_s", .signed 64, [.int 1]⟩, ⟨"max_s", .signed 64, [.int 4]⟩]⟩ := rfl
  rw [hanswer]
  exact .columns rfl rfl rfl fun _ => .signed (by decide)

/-- The export of a day of a table, behind a build of another table that had seven queries. -/
def afterOrders : Session where
  spec := usersExport
  journal := { state := { context := some { table := some "orders", queryCount := 7 } } }

/-- Five records of that export show its table, and the last one its three queries. -/
theorem afterOrders_leaves_its_trace :
    (afterOrders.trace {} (some oneToFour)).map Record.level = [.info, .debug, .info, .debug, .info] ∧
      (∀ record ∈ afterOrders.trace {} (some oneToFour), ∃ rest, record.text = "[TABLE:users]" ++ rest) ∧
      (afterOrders.trace {} (some oneToFour)).getLast? =
        some ((usersExport.context 3).recordOf (some 0) (.info, "Built 3 export queries")) := by
  obtain ⟨-, -, -, -, -, -, -, -, -, -, -, htable, -⟩ :=
    (build_leaves_its_trace afterOrders isExpected_oneToFour).1 (by decide +kernel)
  exact ⟨by decide +kernel, htable, by decide +kernel⟩

/-- **An error that nobody handles has no record**: a partition that is longer than all years together ends
    the build that meets it, and nothing is written of this. -/
theorem panicking_build_leaves_no_last_record :
    ¬ ∀ (s : Session) (executor : Option Executor) (cause : BuildError),
      (∀ e, executor = some e → ∀ statement, IsExpected {} (e.execute statement).1) →
        (s.spec.build {} executor).result = .error cause →
        (s.trace {} executor).getLast? = some ((s.spec.context 0).recordOf s.journal.memory
          (.error, "Query building failed: " ++ cause.kind ++ ": " ++ cause.message)) := by
  intro h
  have hlast := h { spec := { usersExport with period := "100000000d" } } (some oneToFour)
    (.window "100000000d" (.day .beyondYears)) isExpected_oneToFour (by decide +kernel)
  revert hlast
  decide +kernel

end SplitExport
