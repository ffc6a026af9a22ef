import SplitExport.Probe.Run
import SplitExport.Proofs.Results

/-!
# Probing — one statement, and the bounds that its answer shows

* Running a statement adds it to the account of the source, and a probe runs one statement whatever comes
  of it.
* `ReadAs` reads a pair of values for bounds, and `ShowsBounds` says what a frame has to be for that: it
  has a row, a readable one, and both columns, the first of which holds integers.
* A probe finds bounds if and only if its statement is answered by a frame that shows them.
-/

namespace SplitExport

open SplitExport.Results

/-! ## Statements -/

/-- Running a statement adds it to the account of the source, and no other. -/
theorem Executor.executed_execute (e : Executor) (sql : String) :
    (e.execute sql).2.source.executed = e.source.executed ++ [sql] := by
  unfold execute
  cases e.catalog? <;> rfl

namespace Probe

/-- The statement of a probe asks for both values of its column, over the base query with the
    condition. -/
theorem query_text (settings : Settings) (base : Sql.BaseQuery) (column condition : String) :
    query settings base column condition =
      "SELECT MIN(" ++ column ++ ") as " ++ settings.minColumn ++ ", MAX(" ++ column ++ ") as " ++
        settings.maxColumn ++ " FROM (" ++ (base.text ++ condition) ++ ") as " ++
        settings.boundsAlias := by
  unfold query Sql.BaseQuery.boundsQuery
  simp only [String.append_assoc]

/-- The executor after a probe is the one after the probe's statement. -/
theorem run_executor (settings : Settings) (e : Executor) (base : Sql.BaseQuery)
    (condition column : String) :
    (run settings e base condition column).executor =
      (e.execute (query settings base column condition)).2 := by
  unfold run
  dsimp only
  split
  · rename_i heq
    rw [heq]
  · rename_i heq
    rw [heq]

/-! ## Values -/

/-- How a pair of values is read: a null on either side makes both bounds 0, and anything else must have
    a text and an integer value. -/
inductive ReadAs : Datum → Datum → Bounds → Prop where
  | noLeast {greatest : Datum} : ReadAs .null greatest ⟨0, 0⟩
  | noGreatest {least : Datum} : ReadAs least .null ⟨0, 0⟩
  | integers {least greatest : Datum} {b : Bounds} : least.isNull = false → greatest.isNull = false →
      least.isWritten = true → greatest.isWritten = true →
      least.toInteger = .ok b.min → greatest.toInteger = .ok b.max → ReadAs least greatest b

/-- The only datum that stands for no value is null. -/
theorem eq_null_of_isNull {value : Datum} (h : value.isNull = true) : value = .null := by
  cases value with
  | null => rfl
  | _ => exact nomatch h

/-- The bounds of two integers are these integers. -/
theorem toInteger_pair_eq_ok {least greatest : Datum} {b : Bounds} :
    (do return Bounds.mk (← least.toInteger) (← greatest.toInteger)) = Except.ok b ↔
      least.toInteger = .ok b.min ∧ greatest.toInteger = .ok b.max := by
  constructor
  · intro h
    obtain ⟨m, hm, h⟩ := bind_eq_ok.mp h
    obtain ⟨n, hn, h⟩ := bind_eq_ok.mp h
    obtain rfl := Except.ok.inj h
    exact ⟨hm, hn⟩
  · rintro ⟨hm, hn⟩
    rw [hm, hn]
    rfl

/-- Two values are taken for the bounds that they are read as. -/
theorem takeBounds_eq_bounds_iff {seconds : Number.Binary64} {column : String} {least greatest : Datum}
    {b : Bounds} :
    (takeBounds seconds column least greatest).outcome = .ok (.bounds b) ↔ ReadAs least greatest b := by
  -- a null on either side is read before any value is told, and that before it is converted
  unfold takeBounds
  split
  · rename_i hnull
    constructor
    · intro h
      obtain rfl : (⟨0, 0⟩ : Bounds) = b := Outcome.bounds.inj (Except.ok.inj h)
      rcases (Bool.or_eq_true _ _).mp hnull with hleast | hgreatest
      · rw [eq_null_of_isNull hleast]
        exact .noLeast
      · rw [eq_null_of_isNull hgreatest]
        exact .noGreatest
    · intro h
      cases h with
      | noLeast => rfl
      | noGreatest => rfl
      | integers hleast hgreatest =>
          rw [hleast, hgreatest] at hnull
          exact nomatch hnull
  · rename_i hnull
    split
    · rename_i hlong
      constructor
      · exact fun h => nomatch h
      · intro h
        cases h with
        | noLeast => exact absurd rfl hnull
        | noGreatest => exact absurd (Bool.or_true _) hnull
        | integers _ _ hleast hgreatest =>
            rw [hleast, hgreatest] at hlong
            exact nomatch hlong
    · rename_i hshort
      dsimp only
      rw [mapError_eq_ok, map_eq_ok]
      constructor
      · rintro ⟨b', hb', heq⟩
        obtain rfl := Outcome.bounds.inj heq
        obtain ⟨hmin, hmax⟩ := toInteger_pair_eq_ok.mp hb'
        obtain ⟨hleast, hgreatest⟩ := Bool.or_eq_false_iff.mp (Bool.eq_false_iff.mpr hnull)
        obtain ⟨hlow, hhigh⟩ := (Bool.and_eq_true _ _).mp (by simpa using hshort)
        exact .integers hleast hgreatest hlow hhigh hmin hmax
      · intro h
        cases h with
        | noLeast => exact absurd rfl hnull
        | noGreatest => exact absurd (Bool.or_true _) hnull
        | integers _ _ _ _ hmin hmax => exact ⟨b, toInteger_pair_eq_ok.mpr ⟨hmin, hmax⟩, rfl⟩

/-- An integer is told as it is written. -/
theorem isWritten_int (i : Int) : (Datum.int i).isWritten = Number.isWritable i := by
  rw [Datum.isWritten]

/-- Values that cannot be told are not taken for bounds. -/
theorem takeBounds_of_unwritten {seconds : Number.Binary64} {column : String} {least greatest : Datum}
    (hleast : least ≠ .null) (hgreatest : greatest ≠ .null)
    (hlong : (least.isWritten && greatest.isWritten) = false) :
    takeBounds seconds column least greatest = { outcome := .error (.oversize {}) } := by
  have hnull : ¬ (least.isNull || greatest.isNull) = true := fun h =>
    ((Bool.or_eq_true _ _).mp h).elim (fun h => hleast (eq_null_of_isNull h))
      fun h => hgreatest (eq_null_of_isNull h)
  rw [takeBounds, if_neg hnull, hlong]
  rfl

/-! ## Frames -/

/-- A frame that shows bounds under the two names of a probe. -/
structure ShowsBounds (settings : Settings) (frame : Frame) (b : Bounds) : Prop where
  hasRow : frame.height ≠ 0
  readable : frame.unreadable? 0 = none
  columns : ∃ least greatest, frame.column? settings.minColumn = some least ∧
    least.kind.isIntegral = true ∧ frame.column? settings.maxColumn = some greatest ∧
    ReadAs (firstValue least) (firstValue greatest) b

/-- A column that is asked for is the one with the name. -/
theorem columnOf_eq_ok {frame : Frame} {name : String} {c : Column} :
    columnOf frame name = .ok c ↔ frame.column? name = some c := by
  unfold columnOf
  cases frame.column? name with
  | none => exact ⟨fun h => (nomatch h), fun h => (nomatch h)⟩
  | some d => exact ⟨fun h => congrArg some (Except.ok.inj h), fun h => congrArg Except.ok (Option.some.inj h)⟩

/-- A frame is judged to give the bounds that it shows, and no others. -/
theorem judge_eq_bounds_iff {settings : Settings} {seconds : Number.Binary64} {column : String}
    {frame : Frame} {b : Bounds} :
    (judge settings seconds column frame).outcome = .ok (.bounds b) ↔ ShowsBounds settings frame b := by
  constructor
  · intro h
    unfold judge at h
    split at h
    · exact nomatch h
    · rename_i hrow
      split at h
      · exact nomatch h
      · rename_i least hleast
        split at h
        · exact nomatch h
        · rename_i hkind
          split at h
          · exact nomatch h
          · exact nomatch h
          · rename_i greatest hreadable hgreatest
            refine ⟨hrow, hreadable, least, greatest, columnOf_eq_ok.mp hleast, ?_,
              columnOf_eq_ok.mp hgreatest, takeBounds_eq_bounds_iff.mp h⟩
            simpa using hkind
  · rintro ⟨hrow, hreadable, least, greatest, hleast, hkind, hgreatest, hread⟩
    unfold judge
    rw [if_neg hrow, columnOf_eq_ok.mpr hleast]
    dsimp only
    rw [hkind, hreadable, columnOf_eq_ok.mpr hgreatest]
    exact takeBounds_eq_bounds_iff.mpr hread

/-! ## Probes -/

/-- **A probe finds bounds if its statement is answered by a frame that shows them, and else none.** -/
theorem run_eq_bounds_iff {settings : Settings} {e : Executor} {base : Sql.BaseQuery}
    {condition column : String} {b : Bounds} :
    (run settings e base condition column).outcome = .ok (.bounds b) ↔
      ∃ frame, (e.execute (query settings base column condition)).1 = .ok frame ∧
        ShowsBounds settings frame b := by
  unfold run
  dsimp only
  split
  · rename_i fault after heq
    rw [heq]
    constructor
    · intro h
      split at h <;> exact nomatch h
    · rintro ⟨frame, h, -⟩
      exact nomatch h
  · rename_i frame after heq
    rw [heq]
    constructor
    · intro h
      exact ⟨frame, rfl, judge_eq_bounds_iff.mp h⟩
    · rintro ⟨frame', h, hshows⟩
      obtain rfl := Except.ok.inj h
      exact judge_eq_bounds_iff.mpr hshows

end Probe

end SplitExport
