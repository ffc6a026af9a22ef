import SplitExport.Proofs.Digits
import SplitExport.Proofs.HeldValues
import SplitExport.Proofs.Probing

/-!
# Probe faults — what goes wrong beside the failures of a probe

A probe fails for reasons that its caller may look at, and beside these there are faults.

* `IsAnswer` says of an answer that it is a fault that can be handled, or a frame that has both columns of a
  probe, of one kind.
* Such a frame gives bounds whenever its first row can be read and told, since columns of integers hold
  nothing but nulls and integers. So a row that cannot be read and values that cannot be told are the faults
  that are left.
-/

namespace SplitExport

open SplitExport.Probe SplitExport.Results

/-! ## Rows that cannot be read -/

namespace Frame

/-- What is said of a fault of reading: it is a wrong value, or nobody handles it. -/
def IsReadingFault (fault : Fault) : Prop :=
  fault.name = "ValueError" ∨ fault.isFatal = true

/-- A day has no date because its year has none, or because nobody counts so far. -/
theorem isReadingFault_of_dayFault? {day : Int} {fault : Fault} (h : dayFault? day = some fault) :
    IsReadingFault fault := by
  unfold dayFault? at h
  split at h
  · exact nomatch h
  · rename_i cause _
    obtain rfl := Option.some.inj h
    cases cause with
    | beyondYears => exact Or.inr rfl
    | yearOutOfRange year => exact Or.inl rfl

/-- A value cannot be read because of a day, on its own or in a list. -/
theorem isReadingFault_of_valueFault? {kind : ColumnKind} {value : Datum} {fault : Fault}
    (h : valueFault? kind value = some fault) : IsReadingFault fault := by
  unfold valueFault? at h
  split at h
  · exact isReadingFault_of_dayFault? h
  · exact isReadingFault_of_dayFault? h
  · -- the items of a list are read by a smaller kind
    obtain ⟨item, -, hitem⟩ := List.exists_of_findSome?_eq_some h
    exact isReadingFault_of_valueFault? hitem
  · exact nomatch h
termination_by kind

/-- A row cannot be read because of one of its values. -/
theorem isReadingFault_of_unreadable? {frame : Frame} {row : Nat} {fault : Fault}
    (h : frame.unreadable? row = some fault) : IsReadingFault fault := by
  obtain ⟨c, -, hvalue⟩ := List.exists_of_findSome?_eq_some h
  exact isReadingFault_of_valueFault? hvalue

end Frame

/-! ## Answers -/

namespace Probe

variable {settings : Settings} {frame : Frame} {kind : ColumnKind} {least greatest : Datum}

/-- An answer that a probe may count on: a fault that can be handled, or a frame that has both columns of a
    probe, of one kind. -/
inductive IsAnswer (settings : Settings) : Except Fault Frame → Prop where
  | fault {fault : Fault} : fault.isFatal = false → IsAnswer settings (.error fault)
  | frame {frame : Frame} {least greatest : Column} : frame.column? settings.minColumn = some least →
      frame.column? settings.maxColumn = some greatest → least.kind = greatest.kind →
      IsAnswer settings (.ok frame)

/-- Two words are read for bounds, or one of them is too long to be told. -/
theorem readAs_or_unwritten {other : ColumnKind} (hleast : IsWord kind least)
    (hgreatest : IsWord other greatest) :
    (∃ b, ReadAs least greatest b) ∨
      least ≠ .null ∧ greatest ≠ .null ∧ (least.isWritten && greatest.isWritten) = false := by
  by_cases hlow : least = .null
  · rw [hlow]
    exact Or.inl ⟨_, .noLeast⟩
  · by_cases hhigh : greatest = .null
    · rw [hhigh]
      exact Or.inl ⟨_, .noGreatest⟩
    · obtain ⟨-, m, rfl⟩ := hleast.exists_int hlow
      obtain ⟨-, n, rfl⟩ := hgreatest.exists_int hhigh
      cases hwritten : (Datum.int m).isWritten && (Datum.int n).isWritten with
      | false => exact Or.inr ⟨hlow, hhigh, rfl⟩
      | true =>
          obtain ⟨hm, hn⟩ := (Bool.and_eq_true _ _).mp hwritten
          exact Or.inl ⟨⟨m, n⟩, .integers rfl rfl hm hn rfl rfl⟩

/-- A word of at most 128 bits can be told. -/
theorem isWritten_of_isWord (hkind : IsWordKind kind) {value : Datum} (h : IsWord kind value) :
    value.isWritten = true := by
  by_cases hnull : value = .null
  · rw [hnull]
    simp only [Datum.isWritten]
  · obtain ⟨-, i, rfl⟩ := h.exists_int hnull
    have hsize := hkind.natAbs_le h
    rw [isWritten_int]
    exact Number.isWritable_of_le_two_pow (by omega)

/-- Two words of at most 128 bits are read for bounds. -/
theorem exists_readAs {other : ColumnKind} (hkind : IsWordKind kind) (hother : IsWordKind other)
    (hleast : IsWord kind least) (hgreatest : IsWord other greatest) : ∃ b, ReadAs least greatest b := by
  rcases readAs_or_unwritten hleast hgreatest with hread | ⟨-, -, hlong⟩
  · exact hread
  · rw [isWritten_of_isWord hkind hleast, isWritten_of_isWord hother hgreatest] at hlong
    exact nomatch hlong

/-- The first value of a sound column of integers is a word. -/
theorem isWord_firstValue {c : Column} (hsound : c.IsSound) (hkind : c.kind.isIntegral = true) :
    IsWord c.kind (firstValue c) := by
  unfold firstValue
  cases hvalues : c.values with
  | nil => exact .null
  | cons value rest =>
      refine hsound hkind value ?_
      show value ∈ c.values
      rw [hvalues]
      exact List.mem_cons_self

/-- A sound frame that has both columns, of one kind, is refused for a row that cannot be read or told, and for
    nothing else. -/
theorem judge_eq_error {seconds : Number.Binary64} {column : String} {low high : Column}
    {cause : ProbeFault} (hsound : frame.IsSound) (hlow : frame.column? settings.minColumn = some low)
    (hhigh : frame.column? settings.maxColumn = some high) (hkinds : low.kind = high.kind)
    (h : (judge settings seconds column frame).outcome = .error cause) :
    (∃ fault, frame.unreadable? 0 = some fault ∧ cause = .escaped fault) ∨ cause = .oversize {} := by
  unfold judge at h
  rw [columnOf_eq_ok.mpr hlow, columnOf_eq_ok.mpr hhigh] at h
  dsimp only at h
  split at h
  · exact nomatch h
  · split at h
    · exact nomatch h
    · rename_i hkind
      split at h
      · rename_i fault hfault
        exact Or.inl ⟨fault, hfault, (Except.error.inj h).symm⟩
      · rename_i heq
        exact nomatch heq
      · rename_i greatest _ heq
        obtain rfl := Except.ok.inj heq
        have hintegral : low.kind.isIntegral = true := by simpa using hkind
        have hleast : IsWord low.kind (firstValue low) :=
          isWord_firstValue (hsound low (List.mem_of_find?_eq_some hlow)) hintegral
        have hgreatest : IsWord low.kind (firstValue high) := by
          rw [hkinds] at hintegral ⊢
          exact isWord_firstValue (hsound high (List.mem_of_find?_eq_some hhigh)) hintegral
        rcases readAs_or_unwritten hleast hgreatest with ⟨b, hread⟩ | ⟨hlow, hhigh, hlong⟩
        · rw [takeBounds_eq_bounds_iff.mpr hread] at h
          exact nomatch h
        · rw [takeBounds_of_unwritten hlow hhigh hlong] at h
          exact Or.inr (Except.error.inj h).symm

/-- **A probe that gets an answer it may count on meets no fault but a row that cannot be read or told.** -/
theorem run_eq_error {e : Executor} {base : Sql.BaseQuery} {condition column : String}
    {cause : ProbeFault} (hanswer : IsAnswer settings (e.execute (query settings base column condition)).1)
    (h : (run settings e base condition column).outcome = .error cause) :
    (∃ frame fault, (e.execute (query settings base column condition)).1 = .ok frame ∧
      frame.unreadable? 0 = some fault ∧ cause = .escaped fault) ∨ cause = .oversize {} := by
  unfold run at h
  dsimp only at h
  split at h
  · rename_i fault after heq
    rw [heq] at hanswer
    cases hanswer with
    | fault hfatal =>
        dsimp only at h
        rw [hfatal] at h
        exact nomatch h
  · rename_i frame after heq
    have hsound : frame.IsSound := e.isSound_execute _ frame (by rw [heq])
    rw [heq] at hanswer
    cases hanswer with
    | frame hlow hhigh hkinds =>
        rcases judge_eq_error hsound hlow hhigh hkinds h with ⟨fault, hfault, hcause⟩ | hcause
        · exact Or.inl ⟨frame, fault, by rw [heq], hfault, hcause⟩
        · exact Or.inr hcause

end Probe

end SplitExport
