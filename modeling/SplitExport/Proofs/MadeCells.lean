import SplitExport.Column.Build
import SplitExport.Proofs.Results

/-!
# Made cells — how the cells of a column come about

Cells are made of the values that were sent in many ways, but all of them end in one of two (`Cells.MadeOf`):

* the cells hold some values one by one, by what their kind holds for each;
* or their kind is not one of integers.

The values behind them are others than those that were sent, but each of them comes from the one that was
sent in its place, in one way for the whole column, and null comes from null (`EachFrom`). In particular
null in front stays in front (`NullKept`). What is said of the cells of a column is read off these two
cases (`Cells.madeOf_ofValues`).
-/

namespace SplitExport

open SplitExport.Results

/-! ## Values in their places -/

/-- Values that come from others one by one, null from null. -/
def EachFrom (values held : List Datum) : Prop :=
  ∃ f : Datum → Datum, f .null = .null ∧ held = values.map f

/-- If there was null in front, there is null in front. -/
def NullKept (values held : List Datum) : Prop :=
  values.head? = some .null → held.head? = some .null

namespace EachFrom

variable {values held : List Datum} {g : Datum → Datum}

theorem refl (values : List Datum) : EachFrom values values :=
  ⟨id, rfl, (List.map_id values).symm⟩

/-- What leaves null alone may be done to each of them once more. -/
theorem map (h : EachFrom values held) (hg : g .null = .null) : EachFrom values (held.map g) := by
  obtain ⟨f, hf, rfl⟩ := h
  refine ⟨g ∘ f, ?_, List.map_map⟩
  rw [Function.comp_apply, hf, hg]

theorem nullKept (h : EachFrom values held) : NullKept values held := by
  obtain ⟨f, hf, rfl⟩ := h
  intro hnull
  rw [List.head?_map, hnull]
  exact congrArg some hf

theorem length_eq (h : EachFrom values held) : held.length = values.length := by
  obtain ⟨f, -, rfl⟩ := h
  exact List.length_map f

/-- Steps that leave null alone give each value from the one in its place. -/
theorem yields_mapM {ε : Type} {step : Datum → Except ε Datum} (hstep : step .null = .ok .null)
    (values : List Datum) : Yields (EachFrom values) (values.mapM step) := by
  intro held hheld
  have hnull : (step .null).toOption.getD .null = .null := by
    rw [hstep]
    rfl
  refine ⟨fun value => (step value).toOption.getD .null, hnull, ?_⟩
  induction values generalizing held with
  | nil => exact (Except.ok.inj hheld).symm
  | cons value rest ih =>
      obtain ⟨first, others, hfirst, hothers, rfl⟩ := mapM_cons_eq_ok.mp hheld
      rw [List.map_cons, ← ih others hothers, hfirst]
      rfl

end EachFrom

/-- Every kind holds null as null. -/
theorem ColumnKind.hold_null (kind : ColumnKind) : kind.hold .null = .null := by
  cases kind <;> rfl

namespace Cells

/-! ## Two cases -/

/-- Cells that are made of values. -/
inductive MadeOf (values : List Datum) : Cells → Prop where
  | held {held : List Datum} (kind : ColumnKind) : EachFrom values held →
      MadeOf values ⟨kind, held.map kind.hold⟩
  | other {held : List Datum} {kind : ColumnKind} : kind.isIntegral = false → EachFrom values held →
      MadeOf values ⟨kind, held⟩

variable {values : List Datum} {cells : Cells}

/-- Cells that are made of values come from them one by one. -/
theorem MadeOf.eachFrom (h : cells.MadeOf values) : EachFrom values cells.values := by
  cases h with
  | held kind hheld => exact hheld.map kind.hold_null
  | other _ hheld => exact hheld

/-- Cells that are made of values have null in front if these had. -/
theorem MadeOf.nullKept (h : cells.MadeOf values) : NullKept values cells.values :=
  h.eachFrom.nullKept

/-- Cells that are brought to another kind are made of the same values. -/
theorem MadeOf.cast (h : cells.MadeOf values) (kind : ColumnKind) : (cells.cast kind).MadeOf values :=
  .held kind h.eachFrom

/-! ## Ways of making cells -/

theorem madeOf_holding (kind : ColumnKind) (values : List Datum) :
    Yields (MadeOf values) (holding kind values) := by
  have hsettle : settled .null = .ok .null := rfl
  exact yields_bind (EachFrom.yields_mapM hsettle values) fun _ hheld => yields_ok (.held kind hheld)

theorem madeOf_inferred (values : List Datum) : Yields (MadeOf values) (inferred values) := by
  have hsettle : Datum.settle .null = .ok .null := rfl
  refine yields_bind (EachFrom.yields_mapM hsettle values) fun _ hheld => ?_
  exact yields_after fun kind => yields_ok (.held kind hheld)

theorem eachFrom_plainReals? (values : List Datum) :
    Yields (fun reals? => ∀ reals, reals? = some reals → EachFrom values reals)
      (plainReals? values) := by
  rintro reals? hreals? reals rfl
  refine ⟨fun value => ((plainReal? value).toOption.bind id).getD .null, rfl, ?_⟩
  induction values generalizing reals with
  | nil => exact (Option.some.inj (Except.ok.inj hreals?)).symm
  | cons value rest ih =>
      obtain ⟨first?, hfirst, hrest⟩ := bind_eq_ok.mp hreals?
      cases first? with
      | none => exact nomatch Except.ok.inj hrest
      | some first =>
          obtain ⟨others?, hothers?, hothers⟩ := bind_eq_ok.mp hrest
          obtain ⟨others, rfl, rfl⟩ := Option.map_eq_some_iff.mp (Except.ok.inj hothers)
          rw [List.map_cons, ← ih others hothers?, hfirst]
          rfl

theorem madeOf_floats (kind : ColumnKind) (values : List Datum) :
    Yields (MadeOf values) (floats kind values) := by
  refine yields_bind (eachFrom_plainReals? values) fun reals? hreals => ?_
  cases reals? with
  | none => exact madeOf_holding kind values
  | some reals => exact yields_ok (.held kind (hreals reals rfl))

theorem madeOf_decimals (digits scale : Nat) (values : List Datum) :
    Yields (MadeOf values) (decimals digits scale values) := by
  refine yields_bind (madeOf_inferred values) fun cells hcells => ?_
  split
  · exact yields_ok (hcells.cast _)
  · split
    · exact yields_ok (.held _ (hcells.eachFrom.map rfl))
    · exact yields_error _

theorem madeOf_anyDecimals (values : List Datum) : Yields (MadeOf values) (anyDecimals values) := by
  refine yields_bind (madeOf_inferred values) fun cells hcells => ?_
  split
  · exact yields_ok hcells
  · exact yields_ok (hcells.cast _)
  · exact yields_ok (hcells.cast _)
  · exact yields_ok (hcells.cast _)
  · exact yields_ok (.held _ (hcells.eachFrom.map rfl))
  · -- floats are written as texts before they are read as decimals
    exact yields_ok (.held _ ((hcells.eachFrom.map rfl).map rfl))
  · exact yields_error _

theorem madeOf_countedIn (h : cells.MadeOf values) (unit : TimeUnit) :
    Yields (MadeOf values) (cells.countedIn unit) := by
  rw [countedIn]
  split
  · exact yields_ok (h.cast _)
  · exact yields_ok (h.cast _)
  · exact yields_error _

/-- What is in front decides whether a zone is one more cast, or the cells stay, or are refused. -/
theorem madeOf_inZone (h : cells.MadeOf values) (kind : ColumnKind) (first : Datum) :
    Yields (MadeOf values) (match first with
      | .moment _ | .time _ =>
        match kind with
        | .moment _ (some _) => pure (cells.cast kind)
        | _ => pure cells
      | other => if isMoment kind then .error (ColumnDefect.zoneless other.typeName) else pure cells) := by
  split
  · split
    · exact yields_ok (h.cast _)
    · exact yields_ok h
  · split
    · exact yields_ok (h.cast _)
    · exact yields_ok h
  · split
    · exact yields_error _
    · exact yields_ok h

theorem madeOf_asTheyAre (kind : ColumnKind) (first : Datum) (values : List Datum) :
    Yields (MadeOf values) (asTheyAre kind first values) := by
  refine yields_bind (madeOf_inferred values) fun cells hcells => ?_
  split
  · split
    · exact yields_ok (hcells.cast _)
    · exact yields_ok hcells
  · dsimp only
    split
    · exact yields_bind (madeOf_countedIn hcells _) fun _ hcounted => madeOf_inZone hcounted kind first
    · exact yields_bind (yields_ok hcells) fun _ hcounted => madeOf_inZone hcounted kind first

theorem madeOf_temporals {kind : ColumnKind} (hkind : (closed kind).isIntegral = false)
    (values : List Datum) : Yields (MadeOf values) (temporals kind values) := by
  rw [temporals]
  split
  · exact yields_ok (.other hkind (EachFrom.refl values))
  · exact madeOf_holding _ values
  · exact madeOf_holding _ values
  · exact yields_error _
  · split
    · exact madeOf_asTheyAre kind _ values
    · refine yields_bind (madeOf_inferred values) fun cells hcells => yields_ok ?_
      exact .held _ (hcells.eachFrom.map rfl)
  · exact madeOf_asTheyAre kind _ values

theorem madeOf_compounds {blank : ColumnKind} (hblank : blank.isIntegral = false)
    (values : List Datum) : Yields (MadeOf values) (compounds blank values) := by
  refine yields_bind (madeOf_inferred values) fun cells hcells => yields_ok ?_
  split
  · exact .other hblank hcells.eachFrom
  · exact hcells

/-- **Whatever kind a column is asked to have, its cells are made of its values.** -/
theorem madeOf_ofValues (kind : ColumnKind) (values : List Datum) :
    Yields (MadeOf values) (ofValues kind values) := by
  rw [ofValues.eq_def]
  split
  · exact yields_ok (.other rfl (EachFrom.refl values))
  · exact yields_ok (.other rfl ((EachFrom.refl values).map rfl))
  · exact madeOf_floats .float32 values
  · exact madeOf_floats .float64 values
  · exact madeOf_decimals _ _ values
  · exact madeOf_temporals rfl values
  · exact madeOf_temporals rfl values
  · exact madeOf_temporals rfl values
  · exact madeOf_temporals rfl values
  · refine yields_bind (EachFrom.yields_mapM ?_ values) fun _ hlists => yields_ok (.other rfl hlists)
    rfl
  · split
    · exact madeOf_anyDecimals values
    · exact madeOf_temporals rfl values
    · exact madeOf_temporals rfl values
    · exact madeOf_compounds rfl values
    · exact madeOf_compounds rfl values
    · exact yields_ok (.other rfl (EachFrom.refl values))
  · exact madeOf_holding _ values

end Cells

end SplitExport
