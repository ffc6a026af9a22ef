import SplitExport.Proofs.IntegerColumns

/-!
# Held values — words that a column of integers keeps as they are

A column of integers keeps the words of its width: all of them (`Cells.ofValues_words`), and the one in
front also where the values behind it are no words (`Cells.head?_ofValues_word`).
-/

namespace SplitExport

open SplitExport.Results

/-! ## Words -/

variable {kind : ColumnKind} {value : Datum} {values : List Datum}

/-- A word is null or an integer, of a kind of integers. -/
theorem IsWord.exists_int (h : IsWord kind value) (hvalue : value ≠ .null) :
    kind.isIntegral = true ∧ ∃ i, value = .int i := by
  cases h with
  | null => exact absurd rfl hvalue
  | signed _ => exact ⟨rfl, _, rfl⟩
  | unsigned _ => exact ⟨rfl, _, rfl⟩

/-- A kind of integers holds its words as they are. -/
theorem ColumnKind.hold_word (hvalue : IsWord kind value) : kind.hold value = value := by
  cases hvalue with
  | null => exact kind.hold_null
  | @signed bits i hfits =>
      show (if fitsSigned bits i then Datum.int i else .null) = .int i
      rw [if_pos hfits]
  | @unsigned bits i hfits =>
      show (if fitsUnsigned bits i then Datum.int i else .null) = .int i
      rw [if_pos hfits]

namespace Cells

/-- A word is settled as it is. -/
theorem settled_word (hkind : IsWordKind kind) (hvalue : IsWord kind value) :
    settled value = .ok value := by
  by_cases hnull : value = .null
  · rw [hnull]
    rfl
  · obtain ⟨-, i, rfl⟩ := hvalue.exists_int hnull
    have hwidest := hkind.fits_widest hvalue
    have hsettle : (Datum.int i).settle = .ok (.int i) := by
      rw [Datum.settle, if_pos (Bool.or_eq_true_iff.mpr hwidest)]
    -- the kind of the integer alone is the narrowest of three that it fits
    have hkindOf : ∃ narrow, (Datum.int i).kind = .ok narrow ∧ IsWord narrow (.int i) := by
      rw [Datum.kind]
      split
      · rename_i hfits
        exact ⟨_, rfl, .signed hfits⟩
      · split
        · rename_i hfits
          exact ⟨_, rfl, .signed hfits⟩
        · rename_i hunfit
          exact ⟨_, rfl, .unsigned (hwidest.resolve_left hunfit)⟩
    obtain ⟨narrow, hnarrow, hword⟩ := hkindOf
    rw [settled, hsettle]
    show (do return (← (Datum.int i).kind).hold (.int i)) = _
    rw [hnarrow]
    exact congrArg Except.ok (ColumnKind.hold_word hword)

/-- A column of integers holds its values one by one. -/
theorem ofValues_eq_holding (hkind : IsWordKind kind) (values : List Datum) :
    ofValues kind values = holding kind values := by
  cases hkind with
  | signed _ => rfl
  | unsigned _ => rfl

/-- **A column of integers keeps words as they are.** -/
theorem ofValues_words (hkind : IsWordKind kind) (hwords : ∀ v ∈ values, IsWord kind v) :
    ofValues kind values = .ok ⟨kind, values⟩ := by
  have hsettled : values.mapM settled = .ok values :=
    mapM_eq_ok_self fun v hv => settled_word hkind (hwords v hv)
  have hheld : values.map kind.hold = values := by
    conv => rhs; rw [← List.map_id values]
    exact List.map_congr_left fun v hv => ColumnKind.hold_word (hwords v hv)
  rw [ofValues_eq_holding hkind, holding, hsettled]
  show Except.ok (⟨kind, values.map kind.hold⟩ : Cells) = _
  rw [hheld]

/-- **A column of integers keeps a word in front**, whatever is behind it. -/
theorem head?_ofValues_word {cells : Cells} (hkind : IsWordKind kind) (hvalue : IsWord kind value)
    (hfirst : values.head? = some value) (hcells : ofValues kind values = .ok cells) :
    cells.kind = kind ∧ cells.values.head? = some value := by
  rw [ofValues_eq_holding hkind, holding] at hcells
  obtain ⟨held, hheld, hcells⟩ := bind_eq_ok.mp hcells
  obtain rfl := Except.ok.inj hcells
  refine ⟨rfl, ?_⟩
  cases values with
  | nil => exact nomatch hfirst
  | cons v rest =>
      obtain rfl := Option.some.inj hfirst
      obtain ⟨first, others, hsettled, -, rfl⟩ := mapM_cons_eq_ok.mp hheld
      rw [settled_word hkind hvalue] at hsettled
      obtain rfl := Except.ok.inj hsettled
      exact congrArg some (ColumnKind.hold_word hvalue)

end Cells

end SplitExport
