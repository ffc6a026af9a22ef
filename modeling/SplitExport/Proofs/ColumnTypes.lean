import SplitExport.Proofs.MadeCells
import SplitExport.Source.Executor

/-!
# Column types — the kind that a described column comes to have

A database asks for columns of the kinds in its catalog. Most of them are the kinds that the columns get,
whatever their values are (`ColumnKind.isFixed`). Dates, times and moments are not:

* the first value that is not null decides whether the column has the kind that was asked for, or goes by
  its values alone (`Cells.goesByValues`);
* a column that goes by its values is the one that is made of them when nothing is asked for
  (`Cells.kind_ofValues`);
* values of the kind that was asked for lead to this kind in either way (`Cells.kind_ofValues_own`).

Moments are asked for by their family, which stands for moments in microseconds (`Cells.closed`).
-/

namespace SplitExport

open SplitExport.Results

/-! ## Kinds in catalogs -/

namespace ColumnKind

/-- Whether a column that is asked to have a kind has it, whatever its values are. -/
def isFixed : ColumnKind → Bool
  | .date | .time | .moment .. | .duration _ | .family _ => false
  | _ => true

/-- The kinds in the catalogs that depend on the values. -/
def instants : List ColumnKind :=
  [.date, .time, .anyMoment]

theorem mem_instants {kind : ColumnKind} :
    kind ∈ instants ↔ kind = .date ∨ kind = .time ∨ kind = .anyMoment := by
  simp [instants]

end ColumnKind

/-- The kind of a type is in the catalog, unless it is the one of objects. -/
theorem Catalog.mem_kinds_or_kindOf_eq (catalog : Catalog) (typeName : String) :
    (typeName, catalog.kindOf typeName) ∈ catalog.kinds ∨ catalog.kindOf typeName = .object := by
  rw [kindOf]
  cases hlookup : catalog.kinds.lookup typeName with
  | none => exact Or.inr rfl
  | some kind =>
      obtain ⟨before, behind, heq, -⟩ := List.lookup_eq_some_iff.mp hlookup
      rw [heq]
      exact Or.inl (List.mem_append_right _ List.mem_cons_self)

/-- The kinds of a database's types do not depend on values, except for dates, times and moments. -/
theorem Catalog.isFixed_kindOf {driver : Driver} {catalog : Catalog} (h : driver.catalog? = some catalog)
    (typeName : String) : (catalog.kindOf typeName).isFixed = true ∨
      catalog.kindOf typeName ∈ ColumnKind.instants := by
  have hkinds : ∀ entry ∈ catalog.kinds, entry.2.isFixed = true ∨ entry.2 ∈ ColumnKind.instants := by
    cases driver with
    | postgres =>
        obtain rfl := Option.some.inj h
        decide
    | vertica =>
        obtain rfl := Option.some.inj h
        decide
    | duckdb => exact nomatch h
  rcases catalog.mem_kinds_or_kindOf_eq typeName with hmem | hobject
  · exact hkinds _ hmem
  · rw [hobject]
    exact Or.inl rfl

/-- A value that a column of dates, times or moments is described to have. -/
inductive IsInstant : ColumnKind → Datum → Prop where
  | null {kind : ColumnKind} : IsInstant kind .null
  | date (d : Calendar.Date) : IsInstant .date (.date d)
  | time (t : Calendar.TimeOfDay) : IsInstant .time (.time t)
  | moment (m : Calendar.Moment) : IsInstant .anyMoment (.moment m)

namespace Cells

variable {kind : ColumnKind} {values : List Datum} {first : Datum} {cells : Cells}

/-! ## Fixed kinds -/

theorem kind_holding (kind : ColumnKind) (values : List Datum) :
    Yields (fun cells => cells.kind = kind) (holding kind values) :=
  yields_after fun _ => yields_ok rfl

theorem kind_floats (kind : ColumnKind) (values : List Datum) :
    Yields (fun cells => cells.kind = kind) (floats kind values) := by
  refine yields_after fun reals? => ?_
  cases reals? with
  | none => exact kind_holding kind values
  | some reals => exact yields_ok rfl

theorem kind_decimals (digits scale : Nat) (values : List Datum) :
    Yields (fun cells => cells.kind = .decimal digits scale) (decimals digits scale values) := by
  refine yields_after fun cells => ?_
  split
  · exact yields_ok rfl
  · split
    · exact yields_ok rfl
    · exact yields_error _

/-- A fixed kind is the one that the column has. -/
theorem kind_ofValues_fixed (h : kind.isFixed = true) (values : List Datum) :
    Yields (fun cells => cells.kind = kind) (ofValues kind values) := by
  rw [ofValues.eq_def]
  split
  · exact yields_ok rfl
  · exact yields_ok rfl
  · exact kind_floats .float32 values
  · exact kind_floats .float64 values
  · exact kind_decimals _ _ values
  · exact nomatch h
  · exact nomatch h
  · exact nomatch h
  · exact nomatch h
  · exact yields_after fun _ => yields_ok rfl
  · exact nomatch h
  · exact kind_holding _ values

/-- Only families are closed. -/
theorem closed_fixed (h : kind.isFixed = true) : closed kind = kind := by
  cases kind with
  | family name => exact nomatch h
  | _ => rfl

/-! ## Dates, times and moments -/

/-- Whether a column of dates, times or moments is taken as it is if a value is its first one: numbers
    count units, texts are read, and a date stands for the moment at its beginning. -/
def isTakenAsItIs (kind : ColumnKind) : Datum → Bool
  | .null | .bool _ | .int _ | .float _ | .text _ => false
  | .date _ => !isMoment kind
  | _ => true

/-- Whether a column of a catalog's kind goes by its values alone. -/
def goesByValues (kind : ColumnKind) (values : List Datum) : Bool :=
  ColumnKind.instants.contains kind && (values.find? (!·.isNull)).any (isTakenAsItIs kind)

/-- What is taken as it is is what its values make. -/
theorem inferred_of_asTheyAre (hkind : kind ∈ ColumnKind.instants) (hfirst : isTakenAsItIs kind first = true)
    (h : asTheyAre kind first values = .ok cells) : inferred values = .ok cells := by
  obtain ⟨own, hown, h⟩ := bind_eq_ok.mp h
  rw [hown]
  rcases ColumnKind.mem_instants.mp hkind with rfl | rfl | rfl
  · cases first with
    | null | bool _ | int _ | float _ | text _ => exact nomatch hfirst
    | _ => exact h
  · cases first with
    | null | bool _ | int _ | float _ | text _ => exact nomatch hfirst
    | _ => exact h
  · -- moments know of time zones, so that nothing but a moment or a time may be in front
    cases first with
    | moment _ | time _ => exact h
    | null | bool _ | int _ | float _ | text _ | date _ => exact nomatch hfirst
    | _ => exact nomatch h

/-- A column with a date in front is one of moments if moments were asked for. -/
theorem kind_asTheyAre_date {d : Calendar.Date} (hmoment : isMoment kind = true)
    (h : asTheyAre kind (.date d) values = .ok cells) : cells.kind = closed kind := by
  obtain ⟨own, -, h⟩ := bind_eq_ok.mp h
  have hcast : Except.ok (if isMoment kind then own.cast (closed kind) else own) = Except.ok cells := h
  rw [if_pos hmoment] at hcast
  obtain rfl := Except.ok.inj hcast
  rfl

/-- A column of dates, times or moments goes by its values, or has the kind that was asked for. -/
theorem kind_temporals (hkind : kind ∈ ColumnKind.instants) (h : temporals kind values = .ok cells) :
    if goesByValues kind values then inferred values = .ok cells else cells.kind = closed kind := by
  have hcontains : ColumnKind.instants.contains kind = true := List.contains_iff_mem.mpr hkind
  have hduration : ∀ unit, closed kind ≠ .duration unit := by
    rcases ColumnKind.mem_instants.mp hkind with rfl | rfl | rfl <;> exact fun _ => nofun
  rw [goesByValues, hcontains, Bool.true_and]
  unfold temporals at h
  split at h
  · rename_i hnone
    rw [hnone]
    obtain rfl := Except.ok.inj h
    rfl
  · rename_i i hfirst
    rw [hfirst]
    exact kind_holding _ values cells h
  · rename_i b hfirst
    rw [hfirst]
    exact kind_holding _ values cells h
  · exact nomatch h
  · rename_i s hfirst
    rw [hfirst]
    split at h
    · rename_i unit hclosed
      exact absurd hclosed (hduration unit)
    · obtain ⟨own, -, h⟩ := bind_eq_ok.mp h
      obtain rfl := Except.ok.inj h
      rfl
  · rename_i first hint hbool hfloat htext hfirst
    rw [hfirst, Option.any_some]
    split
    · rename_i htaken
      exact inferred_of_asTheyAre hkind htaken h
    · rename_i htaken
      have hnull : first ≠ .null := by
        rintro rfl
        exact nomatch List.find?_some hfirst
      cases first with
      | null => exact absurd rfl hnull
      | bool b => exact (hbool b rfl).elim
      | int i => exact (hint i rfl).elim
      | float x => exact (hfloat x rfl).elim
      | text s => exact (htext s rfl).elim
      | date d =>
          rw [isTakenAsItIs, Bool.not_eq_true', Bool.not_eq_false] at htaken
          exact kind_asTheyAre_date htaken h
      | _ => exact absurd rfl htaken

/-- **The kind of a described column**: the one that was asked for, unless the column goes by its values. -/
theorem kind_ofValues (hkind : kind.isFixed = true ∨ kind ∈ ColumnKind.instants)
    (h : ofValues kind values = .ok cells) :
    if goesByValues kind values then inferred values = .ok cells else cells.kind = closed kind := by
  rcases hkind with hfixed | hinstant
  · have hother : ColumnKind.instants.contains kind = false := by
      refine Bool.eq_false_iff.mpr fun hcontains => ?_
      rcases ColumnKind.mem_instants.mp (List.contains_iff_mem.mp hcontains) with rfl | rfl | rfl <;>
        exact nomatch hfixed
    rw [goesByValues, hother, Bool.false_and, closed_fixed hfixed]
    exact kind_ofValues_fixed hfixed values cells h
  · have htemporals : ofValues kind values = temporals kind values := by
      rcases ColumnKind.mem_instants.mp hinstant with rfl | rfl | rfl <;> rfl
    exact kind_temporals hinstant (htemporals.symm.trans h)

/-! ## Values of the kind that was asked for -/

/-- Such a value is settled as it is, and alone it makes a column of nulls, or of the kind that was asked
    for. -/
theorem kind_of_isInstant {value : Datum} (h : IsInstant kind value) :
    value.settle = .ok value ∧ value.kind = .ok (if value.isNull then .null else closed kind) := by
  cases h <;> exact ⟨rfl, rfl⟩

/-- More such values leave the kind as it is. -/
theorem joinKinds_closed (hkind : kind ∈ ColumnKind.instants) (h : ∀ value ∈ values, IsInstant kind value) :
    joinKinds (closed kind) values = .ok (closed kind) := by
  induction values with
  | nil => rfl
  | cons value rest ih =>
      obtain ⟨-, hvalue⟩ := kind_of_isInstant (h value List.mem_cons_self)
      have hjoin : (closed kind).join (if value.isNull then .null else closed kind) = .ok (closed kind) := by
        rcases ColumnKind.mem_instants.mp hkind with rfl | rfl | rfl <;> cases value.isNull <;> rfl
      rw [joinKinds, hvalue]
      show (closed kind).join _ >>= _ = _
      rw [hjoin]
      exact ih fun other hother => h other (List.mem_cons_of_mem _ hother)

/-- Such values are all null, or make a column of the kind that was asked for. -/
theorem inferKind_instants (hkind : kind ∈ ColumnKind.instants) (h : ∀ value ∈ values, IsInstant kind value) :
    inferKind values = .ok (if (values.find? (!·.isNull)).isSome then closed kind else .null) := by
  unfold inferKind
  induction values with
  | nil => rfl
  | cons value rest ih =>
      obtain ⟨-, hvalue⟩ := kind_of_isInstant (h value List.mem_cons_self)
      have hrest : ∀ other ∈ rest, IsInstant kind other :=
        fun other hother => h other (List.mem_cons_of_mem _ hother)
      rw [joinKinds, hvalue, List.find?_cons]
      cases hnull : value.isNull with
      | true => exact ih hrest
      | false =>
          have hjoin : ColumnKind.null.join (closed kind) = .ok (closed kind) := by
            rcases ColumnKind.mem_instants.mp hkind with rfl | rfl | rfl <;> rfl
          show ColumnKind.null.join (closed kind) >>= _ = _
          rw [hjoin]
          exact joinKinds_closed hkind hrest

/-- **Values of the kind that was asked for make a column of it.** -/
theorem kind_ofValues_own (hkind : kind ∈ ColumnKind.instants) (hvalues : ∀ value ∈ values, IsInstant kind value)
    (h : ofValues kind values = .ok cells) : cells.kind = closed kind := by
  have hcells := kind_ofValues (Or.inr hkind) h
  split at hcells
  · rename_i hgoes
    have hsome : (values.find? (!·.isNull)).isSome = true :=
      Option.isSome_of_any (Bool.and_eq_true_iff.mp hgoes).2
    obtain ⟨settled, hsettled, hcells⟩ := bind_eq_ok.mp hcells
    have hself : values.mapM Datum.settle = .ok values :=
      mapM_eq_ok_self fun value hvalue => (kind_of_isInstant (hvalues value hvalue)).1
    obtain rfl : values = settled := Except.ok.inj (hself.symm.trans hsettled)
    obtain ⟨own, hown, hcells⟩ := bind_eq_ok.mp hcells
    rw [inferKind_instants hkind hvalues, if_pos hsome] at hown
    obtain rfl := Except.ok.inj hown
    obtain rfl := Except.ok.inj hcells
    rfl
  · exact hcells

end Cells

end SplitExport
