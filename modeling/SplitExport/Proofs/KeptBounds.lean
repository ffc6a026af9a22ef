import SplitExport.Proofs.ColumnTypes
import SplitExport.Proofs.DescribedPairs
import SplitExport.Proofs.Probing

/-!
# Kept bounds — what a probe makes of the two values that a database sends

A database answers a probe by rows under two descriptions, the least value and the greatest one in front.

* The frame of such an answer has the cells that the two columns hold, if it has both columns
  (`Executor.fetch_pair`).
* If the probe finds bounds, a null among the two values makes them 0 and 0, whatever the types of the
  columns are, and two whole numbers that the columns keep are the bounds themselves
  (`probe_keeps_values`). Columns of integers keep the integers of their width.
* A value that does not fit its column, and a fraction, are not kept.
-/

namespace SplitExport

open SplitExport.Probe SplitExport.Results

/-! ## Types of integers -/

/-- The integers of the databases have at most 64 bits. -/
theorem Catalog.isWordKind_kindOf {driver : Driver} {catalog : Catalog} (h : driver.catalog? = some catalog)
    {typeName : String} (hint : (catalog.kindOf typeName).isIntegral = true) :
    IsWordKind (catalog.kindOf typeName) := by
  have hkinds : ∀ entry ∈ catalog.kinds, entry.2.isIntegral = true →
      entry.2 = .signed 16 ∨ entry.2 = .signed 32 ∨ entry.2 = .signed 64 := by
    cases driver with
    | postgres =>
        obtain rfl := Option.some.inj h
        decide
    | vertica =>
        obtain rfl := Option.some.inj h
        decide
    | duckdb => exact nomatch h
  rcases catalog.mem_kinds_or_kindOf_eq typeName with hmem | hobject
  · have hword := hkinds _ hmem hint
    dsimp only at hword
    rcases hword with hkind | hkind | hkind <;> rw [hkind]
    · exact .signed (by decide)
    · exact .signed (by decide)
    · exact .signed (by decide)
  · rw [hobject] at hint
    exact nomatch hint

/-- A description that gives a kind of integers gives one of the databases' integers. -/
theorem Executor.isWordKind_of_read {executor : Executor} {catalog : Catalog}
    (hcatalog : executor.catalog? = some catalog) {d : ColumnDescription} {name : String} {kind : ColumnKind}
    (hname : d.name = .ok (.text name)) (hread : d.read catalog = .ok (.text name, kind))
    (hint : kind.isIntegral = true) : IsWordKind kind := by
  obtain ⟨driver, -, hdriver⟩ := Option.bind_eq_some_iff.mp hcatalog
  obtain ⟨code, typeName, -, -, heq⟩ := (ColumnDescription.read_eq_ok_iff hname).mp hread
  obtain rfl : kind = catalog.kindOf typeName := congrArg Prod.snd heq
  exact Catalog.isWordKind_kindOf hdriver hint

/-! ## Answers -/

section Answers

variable {catalog : Catalog} {low high : String} {least greatest : ColumnDescription} {a b : Datum}
  {more : List (List Datum)} {fetchFault : Option Fault} {frame : Frame}

/-- The frame of rows under two descriptions has the cells that the two columns hold, if it has the
    second of them. -/
theorem Executor.fetch_pair (hlow : low ≠ "") (hhigh : high ≠ "") (hne : low ≠ high)
    (hleast : least.name = .ok (.text low)) (hgreatest : greatest.name = .ok (.text high))
    (hfetch : fetch catalog (.rows (some [least, greatest]) ([a, b] :: more) fetchFault) = .ok frame)
    {c : Column} (hc : frame.column? high = some c) :
    ∃ lowKind highKind x y, least.read catalog = .ok (.text low, lowKind) ∧
      greatest.read catalog = .ok (.text high, highKind) ∧
      Cells.ofValues lowKind (Frame.valuesAt 0 ([a, b] :: more)) = .ok x ∧
      Cells.ofValues highKind (Frame.valuesAt 1 ([a, b] :: more)) = .ok y ∧
      frame = ⟨[⟨low, x.kind, x.values⟩, ⟨high, y.kind, y.values⟩]⟩ := by
  obtain ⟨schema, hschema, hframe⟩ := bind_eq_ok.mp hfetch
  obtain ⟨lowKind, highKind, hlowRead, hhighRead, rfl⟩ :=
    (schemaOf_pair_eq_ok_iff hleast hgreatest hne).mp (mapError_eq_ok.mp hschema)
  cases fetchFault with
  | some fault => exact nomatch hframe
  | none =>
      have hcolumns := mapError_eq_ok.mp hframe
      rw [Frame.ofRows, Frame.describedColumns_pair (List.cons_ne_nil _ _)] at hcolumns
      match hwidth : Frame.commonWidth ([a, b] :: more) with
      | 0 =>
        rw [hwidth] at hcolumns
        obtain rfl := Except.ok.inj hcolumns
        exact nomatch hc
      | 1 =>
        -- a frame of the first column alone
        rw [hwidth] at hcolumns
        obtain ⟨built, hbuilt, -⟩ := bind_eq_ok.mp hcolumns
        obtain ⟨first, others, hfirst, hothers, rfl⟩ := mapM_cons_eq_ok.mp hbuilt
        obtain rfl := Except.ok.inj hothers
        obtain ⟨x, -, rfl⟩ := RawColumn.build_eq_ok_iff.mp hfirst
        have hnamed : ∀ d ∈ [Column.mk low x.kind x.values], d.name ≠ "" := by simp [hlow]
        obtain ⟨-, rfl⟩ := (Frame.ofColumns_eq_ok_iff hbuilt hnamed).mp hcolumns
        simp [Frame.column?, hne] at hc
      | width + 2 =>
        have hwhole : 2 ≤ width + 2 := Nat.le_add_left ..
        rw [hwidth, List.take_of_length_le hwhole] at hcolumns
        obtain ⟨x, y, hx, hy, -, rfl⟩ := (Frame.ofColumns_pair_eq_ok_iff hlow hhigh hne).mp hcolumns
        exact ⟨lowKind, highKind, x, y, hlowRead, hhighRead, hx, hy, rfl⟩

end Answers

/-! ## Whole numbers -/

/-- The denominator of a power is positive. -/
theorem Number.powDen_pos {base : Nat} (hbase : 0 < base) (e : Int) : 0 < powDen base e := by
  rw [powDen]
  split
  · exact Nat.pow_pos hbase
  · exact Nat.one_pos

namespace Datum

/-- A datum is a number with an integer value. -/
def HasValue (value : Datum) (n : Int) : Prop :=
  ∃ m d, value.quotient? = some (m, d) ∧ m = n * d

variable {value : Datum} {n : Int}

/-- The value of a number is its numerator, if that is counted in its denominator. -/
theorem hasValue_iff {m : Int} {d : Nat} (h : value.quotient? = some (m, d)) :
    value.HasValue n ↔ m = n * d := by
  simp [HasValue, h]

/-- Null is no number. -/
theorem HasValue.ne_null (h : value.HasValue n) : value ≠ .null := by
  rintro rfl
  obtain ⟨m, d, hquotient, -⟩ := h
  exact nomatch hquotient

/-- The value of an integer is the integer. -/
theorem hasValue_int (i : Int) : (Datum.int i).HasValue i :=
  ⟨i, 1, rfl, (Int.mul_one i).symm⟩

/-- A size that is counted in whole parts is cut to their number. -/
theorem cut_eq_of_whole {negative : Bool} {size parts : Nat} (hparts : 0 < parts)
    (h : (if negative then -(size : Int) else size) = n * parts) :
    (if negative then -((size / parts : Nat) : Int) else (size / parts : Nat)) = n := by
  have hpositive : (parts : Int) ≠ 0 := Int.natCast_ne_zero.mpr (Nat.pos_iff_ne_zero.mp hparts)
  rw [Int.natCast_ediv]
  cases negative with
  | false =>
      rw [if_neg Bool.false_ne_true] at h ⊢
      rw [h, Int.mul_ediv_cancel n hpositive]
  | true =>
      rw [if_pos rfl] at h ⊢
      have hsize : (size : Int) = -n * parts := by
        rw [Int.neg_mul, ← h, Int.neg_neg]
      rw [hsize, Int.mul_ediv_cancel (-n) hpositive, Int.neg_neg]

/-- A number with an integer value is converted to this value. -/
theorem HasValue.toInteger_eq (h : value.HasValue n) : value.toInteger = .ok n := by
  obtain ⟨m, d, hquotient, hvalue⟩ := h
  match value with
  | .bool b =>
    obtain ⟨rfl, rfl⟩ := Prod.mk.inj (Option.some.inj hquotient)
    exact congrArg Except.ok (hvalue.trans (Int.mul_one n))
  | .int i =>
    obtain ⟨rfl, rfl⟩ := Prod.mk.inj (Option.some.inj hquotient)
    exact congrArg Except.ok (hvalue.trans (Int.mul_one n))
  | .float (.finite negative size q) =>
    obtain ⟨rfl, rfl⟩ := Prod.mk.inj (Option.some.inj hquotient)
    exact congrArg Except.ok (cut_eq_of_whole (Number.powDen_pos (by decide) q) hvalue)
  | .decimal x =>
    obtain ⟨rfl, rfl⟩ := Prod.mk.inj (Option.some.inj hquotient)
    exact congrArg Except.ok (cut_eq_of_whole (Number.powDen_pos (by decide) x.exponent) hvalue)

end Datum

/-! ## Kept values -/

/-- A column of a kind keeps the value in front of some: this is a number with an integer value, and the
    column holds a number of the same value for it. -/
def ColumnKind.KeepsFront (kind : ColumnKind) (values : List Datum) : Prop :=
  ∃ cells n, Cells.ofValues kind values = .ok cells ∧ (values.headD .null).HasValue n ∧
    (cells.values.headD .null).HasValue n

/-- A column of integers keeps an integer of its width in front, if it can be built at all. -/
theorem IsWordKind.keepsFront {kind : ColumnKind} {value : Datum} {values : List Datum} {cells : Cells}
    (hkind : IsWordKind kind) (hvalue : IsWord kind value) (hne : value ≠ .null)
    (hfirst : values.head? = some value) (hcells : Cells.ofValues kind values = .ok cells) :
    kind.KeepsFront values := by
  obtain ⟨-, i, rfl⟩ := hvalue.exists_int hne
  obtain ⟨-, hheld⟩ := Cells.head?_ofValues_word hkind hvalue hfirst hcells
  refine ⟨cells, i, hcells, ?_, ?_⟩
  · rw [List.headD_eq_head?_getD, hfirst]
    exact Datum.hasValue_int i
  · rw [List.headD_eq_head?_getD, hheld]
    exact Datum.hasValue_int i

namespace Probe

/-- Bounds keep two values: they are 0 and 0 if one of the values is null, and else they are the values. -/
def Keeps (a b : Datum) (bounds : Bounds) : Prop :=
  (a = .null ∨ b = .null) ∧ bounds = ⟨0, 0⟩ ∨
    a ≠ .null ∧ b ≠ .null ∧ a.HasValue bounds.min ∧ b.HasValue bounds.max

section Keeping

variable {a b x y : Datum} {bounds : Bounds}

/-- Bounds that keep two values, none of them null, end with the second one. -/
theorem Keeps.hasValue_max (h : Keeps a b bounds) (ha : a ≠ .null) (hb : b ≠ .null) :
    b.HasValue bounds.max := by
  rcases h with ⟨hnull | hnull, -⟩ | ⟨-, -, -, hmax⟩
  · exact absurd hnull ha
  · exact absurd hnull hb
  · exact hmax

/-- A null on either side is read as 0 and 0. -/
theorem ReadAs.eq_zero (h : ReadAs a b bounds) (hnull : a = .null ∨ b = .null) : bounds = ⟨0, 0⟩ := by
  cases h with
  | noLeast => rfl
  | noGreatest => rfl
  | integers hleast hgreatest _ _ _ _ =>
      rcases hnull with rfl | rfl
      · exact nomatch hleast
      · exact nomatch hgreatest

/-- Two values that have the values of two others are read as bounds that keep these. -/
theorem ReadAs.keeps_of_hasValue {m n : Int} (h : ReadAs x y bounds) (hx : x.HasValue m)
    (hy : y.HasValue n) (ha : a.HasValue m) (hb : b.HasValue n) : Keeps a b bounds := by
  cases h with
  | noLeast => exact absurd rfl hx.ne_null
  | noGreatest => exact absurd rfl hy.ne_null
  | integers _ _ _ _ hmin hmax =>
      have hmin' : m = bounds.min := Except.ok.inj (hx.toInteger_eq.symm.trans hmin)
      have hmax' : n = bounds.max := Except.ok.inj (hy.toInteger_eq.symm.trans hmax)
      exact Or.inr ⟨ha.ne_null, hb.ne_null, hmin' ▸ ha, hmax' ▸ hb⟩

/-- Bounds that two words are read as keep them. -/
theorem ReadAs.keeps {leastKind greatestKind : ColumnKind} (h : ReadAs a b bounds)
    (ha : IsWord leastKind a) (hb : IsWord greatestKind b) : Keeps a b bounds := by
  by_cases hnull : a = .null ∨ b = .null
  · exact Or.inl ⟨hnull, h.eq_zero hnull⟩
  · obtain ⟨hane, hbne⟩ := not_or.mp hnull
    obtain ⟨-, i, rfl⟩ := ha.exists_int hane
    obtain ⟨-, j, rfl⟩ := hb.exists_int hbne
    exact h.keeps_of_hasValue (Datum.hasValue_int i) (Datum.hasValue_int j) (Datum.hasValue_int i)
      (Datum.hasValue_int j)

/-- The first value of a column is the one in front. -/
theorem firstValue_of_head? {c : Column} (h : c.values.head? = some x) : firstValue c = x := by
  rw [firstValue, List.headD_eq_head?_getD, h]
  rfl

end Keeping

end Probe

/-- **A probe keeps the values that it finds.** Let a database that works with cursors answer by rows
    under two descriptions, of any types, with the probe's names, the first row being `a` and `b`. If the
    probe finds bounds, then these keep `a` and `b`, if one of the two is null, or if the columns keep
    both. A column of integers keeps those that fit it. -/
theorem probe_keeps_values {settings : Settings} {executor : Executor} {catalog : Catalog}
    {base : Sql.BaseQuery} {condition column : String} {least greatest : ColumnDescription} {a b : Datum}
    {more : List (List Datum)} {fetchFault : Option Fault} {bounds : Bounds}
    (hminColumn : settings.minColumn ≠ "") (hmaxColumn : settings.maxColumn ≠ "")
    (hne : settings.minColumn ≠ settings.maxColumn) (hcatalog : executor.catalog? = some catalog)
    (hleast : least.name = .ok (.text settings.minColumn))
    (hgreatest : greatest.name = .ok (.text settings.maxColumn))
    (hreply : executor.source.nextReply = .rows (some [least, greatest]) ([a, b] :: more) fetchFault)
    (hbounds : (run settings executor base condition column).outcome = .ok (.bounds bounds)) :
    ∃ leastKind greatestKind, least.read catalog = .ok (.text settings.minColumn, leastKind) ∧
      greatest.read catalog = .ok (.text settings.maxColumn, greatestKind) ∧
      (a = .null ∨ b = .null ∨ leastKind.KeepsFront (Frame.valuesAt 0 ([a, b] :: more)) ∧
        greatestKind.KeepsFront (Frame.valuesAt 1 ([a, b] :: more)) → Keeps a b bounds) ∧
      (IsWord leastKind a → IsWord greatestKind b → Keeps a b bounds) := by
  obtain ⟨frame, hframe, hshows⟩ := run_eq_bounds_iff.mp hbounds
  obtain ⟨low, high, hlow, -, hhigh, hread⟩ := hshows.columns
  rw [Executor.execute, hcatalog, hreply] at hframe
  obtain ⟨leastKind, greatestKind, x, y, hleastRead, hgreatestRead, hx, hy, rfl⟩ :=
    Executor.fetch_pair hminColumn hmaxColumn hne hleast hgreatest hframe hhigh
  obtain rfl : ⟨settings.minColumn, x.kind, x.values⟩ = low := by
    simpa [Frame.column?] using hlow
  obtain rfl : ⟨settings.maxColumn, y.kind, y.values⟩ = high := by
    simpa [Frame.column?, hne] using hhigh
  -- a null is null in a column of any kind
  have hnull : a = .null ∨ b = .null → Keeps a b bounds := by
    intro hnull
    refine Or.inl ⟨hnull, hread.eq_zero ?_⟩
    rcases hnull with ha | hb
    · exact Or.inl (firstValue_of_head? ((Cells.madeOf_ofValues _ _ x hx).nullKept (congrArg some ha)))
    · exact Or.inr (firstValue_of_head? ((Cells.madeOf_ofValues _ _ y hy).nullKept (congrArg some hb)))
  have hkept : leastKind.KeepsFront (Frame.valuesAt 0 ([a, b] :: more)) →
      greatestKind.KeepsFront (Frame.valuesAt 1 ([a, b] :: more)) → Keeps a b bounds := by
    rintro ⟨x', m, hx', ha, hheldA⟩ ⟨y', n, hy', hb, hheldB⟩
    obtain rfl : x = x' := Except.ok.inj (hx.symm.trans hx')
    obtain rfl : y = y' := Except.ok.inj (hy.symm.trans hy')
    exact hread.keeps_of_hasValue hheldA hheldB ha hb
  refine ⟨leastKind, greatestKind, hleastRead, hgreatestRead, ?_, fun hwordA hwordB => ?_⟩
  · rintro (ha | hb | ⟨hfrontA, hfrontB⟩)
    · exact hnull (Or.inl ha)
    · exact hnull (Or.inr hb)
    · exact hkept hfrontA hfrontB
  · by_cases hnone : a = .null ∨ b = .null
    · exact hnull hnone
    · obtain ⟨ha, hb⟩ := not_or.mp hnone
      have hleastKind := Executor.isWordKind_of_read hcatalog hleast hleastRead (hwordA.exists_int ha).1
      have hgreatestKind :=
        Executor.isWordKind_of_read hcatalog hgreatest hgreatestRead (hwordB.exists_int hb).1
      exact hkept (hleastKind.keepsFront hwordA ha rfl hx) (hgreatestKind.keepsFront hwordB hb rfl hy)

/-- A source that answers a probe by rows under two type codes. -/
def answering (leastCode greatestCode : Int) (rows : List (List Datum)) : Source where
  replies := [.rows (some [.positional [.text "min_s", .int leastCode],
    .positional [.text "max_s", .int greatestCode]]) rows none]

/-- A probe of users that works with cursors. -/
def probeOfUsers (source : Source) : ProbeRun :=
  run {} ⟨some .postgres, source⟩ ⟨"SELECT * FROM users WHERE 1=1"⟩ "" "id"

/-- Integers of two widths are kept, whatever the second row is. -/
theorem probeOfUsers_keeps_values :
    (probeOfUsers (answering 21 20 [[.int 7, .int 50000], [.null, .int 1]])).outcome =
        .ok (.bounds ⟨7, 50000⟩) ∧
      Keeps (.int 7) (.int 50000) ⟨7, 50000⟩ := by
  have hbounds : (probeOfUsers (answering 21 20 [[.int 7, .int 50000], [.null, .int 1]])).outcome =
      .ok (.bounds ⟨7, 50000⟩) := by decide +kernel
  obtain ⟨leastKind, greatestKind, hleast, hgreatest, -, hkeeps⟩ :=
    probe_keeps_values (by decide) (by decide) (by decide) rfl rfl rfl rfl hbounds
  obtain rfl : ColumnKind.signed 16 = leastKind := congrArg Prod.snd (Except.ok.inj hleast)
  obtain rfl : ColumnKind.signed 64 = greatestKind := congrArg Prod.snd (Except.ok.inj hgreatest)
  exact ⟨hbounds, hkeeps (.signed (by decide)) (.signed (by decide))⟩

/-- **A value that does not fit its column, and a fraction, are not kept**: a greatest value beyond a
    column of 16 bits leads to the bounds of no values, and one of a column of numbers is cut at its
    point. -/
theorem unfit_values_are_not_kept :
    ((probeOfUsers (answering 21 21 [[.int 1, .int 50000]])).outcome = .ok (.bounds ⟨0, 0⟩) ∧
      ¬ Keeps (.int 1) (.int 50000) ⟨0, 0⟩) ∧
      (probeOfUsers (answering 23 1700 [[.int 1, .decimal ⟨false, 975, -2⟩]])).outcome =
        .ok (.bounds ⟨1, 9⟩) ∧
      ¬ Keeps (.int 1) (.decimal ⟨false, 975, -2⟩) ⟨1, 9⟩ := by
  refine ⟨⟨by decide +kernel, fun hkeeps => ?_⟩, by decide +kernel, fun hkeeps => ?_⟩
  · have hvalue : (Datum.int 50000).HasValue 0 := hkeeps.hasValue_max nofun nofun
    exact absurd ((Datum.hasValue_iff rfl).mp hvalue) (by decide)
  · have hvalue : (Datum.decimal ⟨false, 975, -2⟩).HasValue 9 := hkeeps.hasValue_max nofun nofun
    exact absurd ((Datum.hasValue_iff rfl).mp hvalue) (by decide)

end SplitExport
