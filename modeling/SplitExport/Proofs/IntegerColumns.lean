import Mathlib.Algebra.Group.Nat.Defs
import SplitExport.Proofs.MadeCells
import SplitExport.Source.Executor

/-!
# Integer columns — what stands in a column of integers fits its words

However a column comes about, a kind of integers holds nulls and integers of its width:

* `IsWord kind value` is what such a kind admits, and `ColumnKind.hold` gives nothing else;
* every way of making the cells of a column ends in `hold` or in a kind of another sort, so that
  `Cells.IsSound` holds of whatever `Cells.ofValues` gives;
* naming columns and putting them together keeps it, and so it holds of every column of a frame that an
  executor gives.
-/

namespace SplitExport

open SplitExport.Number SplitExport.Results

/-! ## Words -/

/-- A value that a column of integers can hold. -/
inductive IsWord : ColumnKind → Datum → Prop where
  | null {kind : ColumnKind} : IsWord kind .null
  | signed {bits : Nat} {i : Int} : fitsSigned bits i = true → IsWord (.signed bits) (.int i)
  | unsigned {bits : Nat} {i : Int} : fitsUnsigned bits i = true → IsWord (.unsigned bits) (.int i)

/-- If a kind is one of integers, its values are words. -/
def ColumnKind.Admits (kind : ColumnKind) (values : List Datum) : Prop :=
  kind.isIntegral = true → ∀ value ∈ values, IsWord kind value

/-- Cells whose kind admits their values. -/
def Cells.IsSound (cells : Cells) : Prop :=
  cells.kind.Admits cells.values

namespace ColumnKind

/-- A kind that is not one of integers admits everything. -/
theorem admits_of_not_isIntegral {kind : ColumnKind} (h : kind.isIntegral = false) (values : List Datum) :
    kind.Admits values := by
  intro hint
  rw [h] at hint
  exact nomatch hint

/-- A word is null or an integer that fits. -/
theorem wordOf_cases (fits : Nat → Int → Bool) (bits : Nat) (value : Datum) :
    wordOf fits bits value = .null ∨ ∃ i, fits bits i = true ∧ wordOf fits bits value = .int i := by
  unfold wordOf
  split
  · rename_i i _
    split
    · rename_i hfits
      exact Or.inr ⟨i, hfits, rfl⟩
    · exact Or.inl rfl
  · exact Or.inl rfl

/-- What a kind of integers holds for a value is a word. -/
theorem isWord_hold {kind : ColumnKind} (h : kind.isIntegral = true) (value : Datum) :
    IsWord kind (kind.hold value) := by
  -- null is held before the kind is looked at, so the values are split as well
  cases kind with
  | signed bits =>
      have hhold : hold (.signed bits) value = wordOf fitsSigned bits value := by
        cases value with
        | null => rfl
        | _ => rw [hold]; exact fun h => nomatch h
      rw [hhold]
      rcases wordOf_cases fitsSigned bits value with hword | ⟨i, hfits, hword⟩
      · rw [hword]
        exact .null
      · rw [hword]
        exact .signed hfits
  | unsigned bits =>
      have hhold : hold (.unsigned bits) value = wordOf fitsUnsigned bits value := by
        cases value with
        | null => rfl
        | _ => rw [hold]; exact fun h => nomatch h
      rw [hhold]
      rcases wordOf_cases fitsUnsigned bits value with hword | ⟨i, hfits, hword⟩
      · rw [hword]
        exact .null
      · rw [hword]
        exact .unsigned hfits
  | _ => exact nomatch h

/-- Values that a kind holds are admitted by it. -/
theorem admits_map_hold (kind : ColumnKind) (values : List Datum) :
    kind.Admits (values.map kind.hold) := by
  intro h value hmem
  obtain ⟨x, -, rfl⟩ := List.mem_map.mp hmem
  exact isWord_hold h x

end ColumnKind

/-! ## Cells -/

/-- Cells that are made of values are sound: they hold values one by one, or are no integers. -/
theorem Cells.MadeOf.isSound {values : List Datum} {cells : Cells} (h : cells.MadeOf values) :
    cells.IsSound := by
  cases h with
  | held kind _ => exact kind.admits_map_hold _
  | other hkind _ => exact ColumnKind.admits_of_not_isIntegral hkind _

/-! ## Frames -/

/-- The kind of a column admits its values. -/
def Column.IsSound (c : Column) : Prop :=
  c.kind.Admits c.values

/-- All columns of a frame are sound. -/
def Frame.IsSound (f : Frame) : Prop :=
  ∀ c ∈ f.columns, c.IsSound

theorem Column.isSound_ofValues (name : String) (kind : ColumnKind) (values : List Datum) :
    Yields IsSound (Column.ofValues name kind values) :=
  yields_bind (Cells.madeOf_ofValues kind values) fun _ hcells => yields_ok hcells.isSound

theorem RawColumn.isSound_build (c : RawColumn) : Yields Column.IsSound c.build := by
  unfold build
  split
  · exact Column.isSound_ofValues _ _ _
  · exact Column.isSound_ofValues _ _ _
  · exact yields_error _

namespace Frame

/-- Names do not count. -/
theorem isSound_named {columns : List Column} (h : ∀ c ∈ columns, c.IsSound) :
    ∀ c ∈ named columns, c.IsSound := by
  intro c hc
  obtain ⟨⟨d, i⟩, hmem, rfl⟩ := List.mem_map.mp hc
  have hd : d.IsSound := h d (List.fst_mem_of_mem_zipIdx hmem)
  dsimp only
  split
  · exact hd
  · exact hd

theorem isSound_ofColumns (columns : List RawColumn) : Yields IsSound (ofColumns columns) := by
  refine yields_bind (yields_mapM RawColumn.isSound_build columns) fun built hbuilt => ?_
  dsimp only
  split
  · exact yields_error _
  · exact yields_ok (isSound_named hbuilt)

end Frame

/-- **Whatever an executor answers, its columns of integers hold nulls and integers of their width.** -/
theorem Executor.isSound_execute (e : Executor) (sql : String) :
    Yields Frame.IsSound (e.execute sql).1 := by
  unfold execute
  split
  · show Yields Frame.IsSound (frameOf e.source.nextReply)
    unfold frameOf
    split
    · exact yields_mapError (Frame.isSound_ofColumns _)
    · exact yields_error _
    · exact yields_error _
  · show Yields Frame.IsSound (fetch _ e.source.nextReply)
    unfold fetch
    split
    · exact yields_error _
    · exact yields_error _
    · exact yields_error _
    · refine yields_after fun schema => ?_
      split
      · exact yields_error _
      · exact yields_mapError (Frame.isSound_ofColumns _)

/-! ## Kinds of integers -/

/-- A kind of integers of at most 128 bits, the widest ones that there are. -/
inductive IsWordKind : ColumnKind → Prop where
  | signed {bits : Nat} : bits ≤ 128 → IsWordKind (.signed bits)
  | unsigned {bits : Nat} : bits ≤ 128 → IsWordKind (.unsigned bits)

theorem IsWordKind.isIntegral {kind : ColumnKind} (h : IsWordKind kind) : kind.isIntegral = true := by
  cases h <;> rfl

/-- Integers in such a kind fit the widest words that there are. -/
theorem IsWordKind.fits_widest {kind : ColumnKind} (h : IsWordKind kind) {i : Int}
    (hi : IsWord kind (.int i)) : fitsSigned 128 i = true ∨ fitsUnsigned 128 i = true := by
  cases h with
  | @signed bits hbits =>
      cases hi with
      | signed hfits =>
          have hpow : 2 ^ (bits - 1) ≤ 2 ^ 127 := Nat.pow_le_pow_right (by decide) (by omega)
          simp only [fitsSigned, Nat.pow_eq, Bool.and_eq_true, decide_eq_true_eq] at hfits ⊢
          omega
  | @unsigned bits hbits =>
      cases hi with
      | unsigned hfits =>
          have hpow : 2 ^ bits ≤ 2 ^ 128 := Nat.pow_le_pow_right (by decide) hbits
          simp only [fitsUnsigned, Nat.pow_eq, Bool.and_eq_true, decide_eq_true_eq] at hfits ⊢
          omega

/-- Integers in such a kind are of at most 128 bits. -/
theorem IsWordKind.natAbs_le {kind : ColumnKind} (h : IsWordKind kind) {i : Int}
    (hi : IsWord kind (.int i)) : i.natAbs ≤ 2 ^ 128 := by
  rcases h.fits_widest hi with hfits | hfits
  · simp only [fitsSigned, Nat.pow_eq, Bool.and_eq_true, decide_eq_true_eq] at hfits
    omega
  · simp only [fitsUnsigned, Nat.pow_eq, Bool.and_eq_true, decide_eq_true_eq] at hfits
    omega

/-- An integer can be read. -/
theorem Frame.valueFault?_eq_none {kind : ColumnKind} (h : IsWordKind kind) (value : Datum) :
    valueFault? kind value = none := by
  cases h with
  | signed _ => rfl
  | unsigned _ => rfl

/-- A row of integers can be read. -/
theorem Frame.unreadable?_eq_none {frame : Frame} (h : ∀ c ∈ frame.columns, IsWordKind c.kind)
    (row : Nat) : frame.unreadable? row = none :=
  List.findSome?_eq_none_iff.mpr fun c hc => valueFault?_eq_none (h c hc) _

end SplitExport
