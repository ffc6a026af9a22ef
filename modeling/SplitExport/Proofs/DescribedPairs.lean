import SplitExport.Proofs.HeldValues

/-!
# Described pairs — results of two columns

A probe is answered by two columns: handed over as they are, or as rows under two descriptions.

* Two columns with names make a frame of the cells that each of them holds
  (`Frame.ofColumns_pair_eq_ok_iff`).
* Two descriptions make a schema of two columns (`schemaOf_pair_eq_ok_iff`), and rows under it are handed
  over as two columns, or fewer if a row is too short (`Frame.describedColumns_pair`).
-/

namespace SplitExport

open SplitExport.Results

variable {low high : String} {lowKind highKind : ColumnKind}

/-! ## Frames of two columns -/

/-- A column with a name is built from the cells that it holds. -/
theorem RawColumn.build_eq_ok_iff {name : String} {kind : ColumnKind} {values : List Datum} {c : Column} :
    (⟨.text name, kind, values⟩ : RawColumn).build = .ok c ↔
      ∃ cells, Cells.ofValues kind values = .ok cells ∧ c = ⟨name, cells.kind, cells.values⟩ := by
  show Column.ofValues name kind values = .ok c ↔ _
  rw [Column.ofValues, bind_eq_ok]
  constructor
  · rintro ⟨cells, hcells, hc⟩
    exact ⟨cells, hcells, (Except.ok.inj hc).symm⟩
  · rintro ⟨cells, hcells, rfl⟩
    exact ⟨cells, hcells, rfl⟩

namespace Frame

/-- Columns with names keep them. -/
theorem named_eq_self {columns : List Column} (h : ∀ c ∈ columns, c.name ≠ "") : named columns = columns := by
  have hkept : ∀ entry ∈ columns.zipIdx,
      (if entry.1.name = "" then { entry.1 with name := "column_" ++ Text.natText entry.2 } else entry.1) =
        entry.1 := by
    intro entry hentry
    exact if_neg (h entry.1 (List.fst_mem_of_mem_zipIdx hentry))
  calc named columns = columns.zipIdx.map Prod.fst := List.map_congr_left hkept
    _ = columns := List.zipIdx_map_fst 0 columns

/-- Columns are put together as they were built, if they have names and no two of them clash. -/
theorem ofColumns_eq_ok_iff {raw : List RawColumn} {frame : Frame} {built : List Column}
    (hbuilt : raw.mapM RawColumn.build = .ok built) (hnames : ∀ c ∈ built, c.name ≠ "") :
    ofColumns raw = .ok frame ↔ firstClash? built = none ∧ frame = ⟨built⟩ := by
  simp only [ofColumns, hbuilt, bind, Except.bind, named_eq_self hnames]
  cases firstClash? built with
  | none =>
      constructor
      · intro h
        exact ⟨rfl, (Except.ok.inj h).symm⟩
      · rintro ⟨-, rfl⟩
        rfl
  | some defect =>
      constructor
      · intro h
        cases h
      · rintro ⟨hnone, -⟩
        cases hnone

/-- Two columns with names of their own make a frame if both are built, of one height. -/
theorem ofColumns_pair_eq_ok_iff (hlow : low ≠ "") (hhigh : high ≠ "") (hne : low ≠ high)
    {lows highs : List Datum} {frame : Frame} :
    ofColumns [⟨.text low, lowKind, lows⟩, ⟨.text high, highKind, highs⟩] = .ok frame ↔
      ∃ x y, Cells.ofValues lowKind lows = .ok x ∧ Cells.ofValues highKind highs = .ok y ∧
        x.values.length = y.values.length ∧
        frame = ⟨[⟨low, x.kind, x.values⟩, ⟨high, y.kind, y.values⟩]⟩ := by
  have hclash : ∀ x y : Cells,
      firstClash? [⟨low, x.kind, x.values⟩, ⟨high, y.kind, y.values⟩] = none ↔
        x.values.length = y.values.length := by
    intro x y
    simp [firstClash?, clash?, hne]
  have hnames : ∀ x y : Cells, ∀ c ∈ [Column.mk low x.kind x.values, ⟨high, y.kind, y.values⟩],
      c.name ≠ "" := by
    intro x y
    simp [hlow, hhigh]
  have hbuilt : ∀ {x y : Cells}, Cells.ofValues lowKind lows = .ok x → Cells.ofValues highKind highs = .ok y →
      List.mapM RawColumn.build [⟨.text low, lowKind, lows⟩, ⟨.text high, highKind, highs⟩] =
        .ok [⟨low, x.kind, x.values⟩, ⟨high, y.kind, y.values⟩] := by
    intro x y hx hy
    refine mapM_cons_eq_ok.mpr ⟨_, _, RawColumn.build_eq_ok_iff.mpr ⟨x, hx, rfl⟩, ?_, rfl⟩
    exact mapM_cons_eq_ok.mpr ⟨_, _, RawColumn.build_eq_ok_iff.mpr ⟨y, hy, rfl⟩, rfl, rfl⟩
  constructor
  · intro h
    obtain ⟨built, hmap, -⟩ := bind_eq_ok.mp h
    obtain ⟨c, rest, hc, hrest, -⟩ := mapM_cons_eq_ok.mp hmap
    obtain ⟨d, rest, hd, -, -⟩ := mapM_cons_eq_ok.mp hrest
    obtain ⟨x, hx, -⟩ := RawColumn.build_eq_ok_iff.mp hc
    obtain ⟨y, hy, -⟩ := RawColumn.build_eq_ok_iff.mp hd
    obtain ⟨hnone, hframe⟩ := (ofColumns_eq_ok_iff (hbuilt hx hy) (hnames x y)).mp h
    exact ⟨x, y, hx, hy, (hclash x y).mp hnone, hframe⟩
  · rintro ⟨x, y, hx, hy, hheight, rfl⟩
    exact (ofColumns_eq_ok_iff (hbuilt hx hy) (hnames x y)).mpr ⟨(hclash x y).mpr hheight, rfl⟩

/-! ## Rows under two descriptions -/

/-- The values of rows at a place. -/
def valuesAt (place : Nat) (rows : List (List Datum)) : List Datum :=
  rows.map fun row => row.getD place .null

/-- Rows of one length have this length in common. -/
theorem commonWidth_eq {rows : List (List Datum)} {width : Nat} (hrows : rows ≠ [])
    (hwidth : ∀ row ∈ rows, row.length = width) : commonWidth rows = width := by
  induction rows with
  | nil => exact absurd rfl hrows
  | cons row rest ih =>
      have hrow := hwidth row List.mem_cons_self
      cases rest with
      | nil => exact hrow
      | cons next more =>
          have hrest := ih (List.cons_ne_nil _ _) fun other hother => hwidth other (List.mem_cons_of_mem _ hother)
          show min row.length (commonWidth (next :: more)) = width
          rw [hrow, hrest, Nat.min_self]

/-- Rows are handed over as two columns, or fewer if a row is too short. -/
theorem describedColumns_pair {rows : List (List Datum)} (hrows : rows ≠ []) :
    describedColumns [(.text low, lowKind), (.text high, highKind)] rows =
      [⟨.text low, lowKind, valuesAt 0 rows⟩, ⟨.text high, highKind, valuesAt 1 rows⟩].take
        (commonWidth rows) := by
  have hsome : rows.isEmpty = false := List.isEmpty_eq_false_iff.mpr hrows
  rw [describedColumns, hsome]
  show (List.zip _ (columnsOf rows)).map _ = _
  rw [columnsOf]
  match commonWidth rows with
  | 0 => rfl
  | 1 => rfl
  | width + 2 =>
    rw [List.range_succ_eq_map, List.range_succ_eq_map]
    simp [valuesAt, Function.comp_def]

end Frame

/-! ## Descriptions -/

/-- A description that is read under a name has that name. -/
theorem ColumnDescription.read_eq_ok_iff {catalog : Catalog} {d : ColumnDescription} {name : String}
    (hname : d.name = .ok (.text name)) {entry : Datum × ColumnKind} :
    d.read catalog = .ok entry ↔
      ∃ code typeName, d.typeCode = .ok code ∧ typeNameOfCode catalog code = .ok typeName ∧
        entry = (.text name, catalog.kindOf typeName) := by
  rw [read, hname]
  constructor
  · intro h
    obtain ⟨given, hgiven, h⟩ := bind_eq_ok.mp h
    obtain rfl := Except.ok.inj hgiven
    obtain ⟨code, hcode, h⟩ := bind_eq_ok.mp h
    obtain ⟨typeName, htype, h⟩ := bind_eq_ok.mp h
    exact ⟨code, typeName, hcode, htype, (Except.ok.inj h).symm⟩
  · rintro ⟨code, typeName, hcode, htype, rfl⟩
    rw [hcode]
    show (typeNameOfCode catalog code >>= fun typeName => _) = _
    rw [htype]
    rfl

/-- Two descriptions with names of their own make a schema of two columns. -/
theorem schemaOf_pair_eq_ok_iff {catalog : Catalog} {least greatest : ColumnDescription}
    (hleast : least.name = .ok (.text low)) (hgreatest : greatest.name = .ok (.text high)) (hne : low ≠ high)
    {schema : Schema} :
    schemaOf catalog [least, greatest] = .ok schema ↔
      ∃ lowKind highKind, least.read catalog = .ok (.text low, lowKind) ∧
        greatest.read catalog = .ok (.text high, highKind) ∧
        schema = [(.text low, lowKind), (.text high, highKind)] := by
  -- the second name is not the first one again, and so it is put behind it
  have hinsert : ∀ lowKind highKind : ColumnKind,
      (Schema.insert [] (.text low) lowKind).insert (.text high) highKind =
        [(.text low, lowKind), (.text high, highKind)] := by
    intro lowKind highKind
    have hother : (Datum.text low).isSameName (.text high) = false := by
      simp [Datum.isSameName, Datum.quotient?, hne]
    simp [Schema.insert, hother]
  have hread : ∀ {d : ColumnDescription} {name : String} {entry : Datum × ColumnKind},
      d.name = .ok (.text name) → d.read catalog = .ok entry → entry.1 = .text name := by
    intro d name entry hname hentry
    obtain ⟨code, typeName, -, -, rfl⟩ := (ColumnDescription.read_eq_ok_iff hname).mp hentry
    rfl
  constructor
  · intro h
    obtain ⟨one, hone, h⟩ := bind_eq_ok.mp h
    obtain ⟨⟨name, lowKind⟩, hlow, hone⟩ := bind_eq_ok.mp hone
    obtain ⟨two, htwo, h⟩ := bind_eq_ok.mp h
    obtain ⟨⟨other, highKind⟩, hhigh, htwo⟩ := bind_eq_ok.mp htwo
    obtain rfl : name = .text low := hread hleast hlow
    obtain rfl : other = .text high := hread hgreatest hhigh
    obtain rfl := Except.ok.inj hone
    obtain rfl := Except.ok.inj htwo
    exact ⟨lowKind, highKind, hlow, hhigh, (Except.ok.inj h).symm.trans (hinsert lowKind highKind)⟩
  · rintro ⟨lowKind, highKind, hlow, hhigh, rfl⟩
    rw [schemaOf, List.foldlM_cons]
    refine bind_eq_ok.mpr ⟨_, bind_eq_ok.mpr ⟨_, hlow, rfl⟩, ?_⟩
    rw [List.foldlM_cons]
    refine bind_eq_ok.mpr ⟨_, bind_eq_ok.mpr ⟨_, hhigh, rfl⟩, ?_⟩
    exact congrArg Except.ok (hinsert lowKind highKind)

end SplitExport
