import Mathlib.Data.List.Nodup
import SplitExport.Proofs.ColumnTypes
import SplitExport.Proofs.DescribedPairs

/-!
# Described columns — what is shown under a name is what was described by it

A result that is fetched through a cursor is put together from two lists: a schema, which gives each name
once, and the rows, which have a value for each description. They meet by place:

* the schema of descriptions with different names is their list (`Schema.insertAll_eq_append`); a name
  that comes again closes up the names behind it, and so moves them away from their values;
* the column at a place of a frame has the name and the kind at this place of the schema, and the values at
  this place of the rows (`Frame.exists_entry_of_ofRows`);
* the values of a column come from these one by one (`EachFrom`), and its kind is the one that was asked for,
  unless the column goes by its values (`Cells.kind_ofValues`).

Columns without a name are named by their places.
-/

namespace SplitExport

open SplitExport.Results

/-! ## Names -/

/-- The text of a name that a column can have; null is no name. -/
def Datum.nameText? : Datum → Option String
  | .text s => some s
  | .null => some ""
  | _ => none

/-- The name that a column is shown under, at a place. -/
def Frame.shownName (place : Nat) (name : String) : String :=
  if name = "" then "column_" ++ Text.natText place else name

/-- A name that a column can have is the same as itself and no other. -/
theorem Datum.isSameName_iff {a b : Datum} (h : a.nameText?.isSome = true) : a.isSameName b = true ↔ a = b := by
  cases a with
  | text s =>
      cases b with
      | text t => simp [isSameName, quotient?]
      | float x => cases x <;> simp [isSameName, quotient?, infinite?]
      | _ => simp [isSameName, quotient?, infinite?]
  | null =>
      cases b with
      | float x => cases x <;> simp [isSameName, quotient?, infinite?]
      | _ => simp [isSameName, quotient?, infinite?]
  | _ => exact absurd h Bool.false_ne_true

/-- A column is built under a name that it can have, of the cells that its kind makes of its values. -/
theorem RawColumn.exists_of_build {raw : RawColumn} {c : Column} (h : raw.build = .ok c) :
    raw.name.nameText? = some c.name ∧ Cells.ofValues raw.kind raw.values = .ok ⟨c.kind, c.values⟩ := by
  obtain ⟨name, kind, values⟩ := raw
  have hcells : ∀ {s : String}, Column.ofValues s kind values = .ok c →
      s = c.name ∧ Cells.ofValues kind values = .ok ⟨c.kind, c.values⟩ := by
    intro s hs
    obtain ⟨cells, hcells, hs⟩ := bind_eq_ok.mp hs
    obtain rfl := Except.ok.inj hs
    exact ⟨rfl, hcells⟩
  cases name with
  | text s =>
      obtain ⟨rfl, hvalues⟩ := hcells h
      exact ⟨rfl, hvalues⟩
  | null =>
      obtain ⟨hname, hvalues⟩ := hcells h
      exact ⟨congrArg some hname, hvalues⟩
  | _ => exact nomatch h

/-! ## Schemas -/

namespace Schema

variable {schema : Schema} {entries : List (Datum × ColumnKind)}

/-- A schema with some more described columns. -/
def insertAll (schema : Schema) (entries : List (Datum × ColumnKind)) : Schema :=
  entries.foldl (fun known entry => known.insert entry.1 entry.2) schema

/-- One more column keeps the names and may put one behind them. -/
theorem keys_insert (schema : Schema) (name : Datum) (kind : ColumnKind) :
    (schema.insert name kind).map Prod.fst = schema.map Prod.fst ∧
        (∃ known ∈ schema.map Prod.fst, known.isSameName name = true) ∨
      (schema.insert name kind).map Prod.fst = schema.map Prod.fst ++ [name] := by
  unfold insert
  split
  · rename_i hany
    obtain ⟨entry, hentry, hsame⟩ := List.any_eq_true.mp hany
    refine Or.inl ⟨?_, entry.1, List.mem_map_of_mem hentry, hsame⟩
    rw [List.map_map]
    refine List.map_congr_left fun other _ => ?_
    rw [Function.comp_apply]
    split <;> rfl
  · exact Or.inr List.map_append

/-- Names that are once in a schema stay there, in front. -/
theorem keys_isPrefix_insertAll (schema : Schema) (entries : List (Datum × ColumnKind)) :
    schema.map Prod.fst <+: (schema.insertAll entries).map Prod.fst := by
  induction entries generalizing schema with
  | nil => exact List.prefix_rfl
  | cons entry rest ih =>
      have hrest := ih (schema.insert entry.1 entry.2)
      rcases schema.keys_insert entry.1 entry.2 with ⟨hkeys, -⟩ | hkeys
      · exact hkeys ▸ hrest
      · exact (List.prefix_append _ _).trans (hkeys ▸ hrest)

/-- There are no more columns than were described. -/
theorem length_insertAll_le (schema : Schema) (entries : List (Datum × ColumnKind)) :
    (schema.insertAll entries).length ≤ schema.length + entries.length := by
  induction entries generalizing schema with
  | nil => exact Nat.le_refl _
  | cons entry rest ih =>
      have hrest := ih (schema.insert entry.1 entry.2)
      have hone : (schema.insert entry.1 entry.2).length ≤ schema.length + 1 := by
        rcases schema.keys_insert entry.1 entry.2 with ⟨hkeys, -⟩ | hkeys
        · have := congrArg List.length hkeys
          simp only [List.length_map] at this
          omega
        · have := congrArg List.length hkeys
          simp only [List.length_map, List.length_append, List.length_singleton] at this
          omega
      rw [List.length_cons]
      show ((schema.insert entry.1 entry.2).insertAll rest).length ≤ _
      omega

/-- Where columns were described there is one. -/
theorem insertAll_ne_nil (h : entries ≠ []) : schema.insertAll entries ≠ [] := by
  obtain ⟨entry, rest, rfl⟩ := List.exists_cons_of_ne_nil h
  intro hnil
  have hfront := keys_isPrefix_insertAll (schema.insert entry.1 entry.2) rest
  have hkeys : ((schema.insert entry.1 entry.2).insertAll rest).map Prod.fst = [] := congrArg _ hnil
  have hempty := List.prefix_nil.mp (hkeys ▸ hfront)
  rcases schema.keys_insert entry.1 entry.2 with ⟨hsame, known, hknown, -⟩ | happended
  · rw [← hsame, hempty] at hknown
    exact nomatch hknown
  · rw [hempty] at happended
    exact List.append_ne_nil_of_right_ne_nil _ (List.cons_ne_nil _ _) happended.symm

/-- If all names of a schema are names that columns can have, then so were all that were described. -/
theorem isSome_nameText?_of_insertAll
    (h : ∀ name ∈ (schema.insertAll entries).map Prod.fst, name.nameText?.isSome = true) :
    ∀ name ∈ entries.map Prod.fst, name.nameText?.isSome = true := by
  induction entries generalizing schema with
  | nil => exact fun name hname => nomatch hname
  | cons entry rest ih =>
      intro name hname
      rcases List.mem_cons.mp hname with rfl | hrest
      · have hfront := keys_isPrefix_insertAll (schema.insert entry.1 entry.2) rest
        rcases schema.keys_insert entry.1 entry.2 with ⟨hkeys, known, hknown, hsame⟩ | hkeys
        · have hplain : known.nameText?.isSome = true := h known (hfront.subset (hkeys ▸ hknown))
          exact (Datum.isSameName_iff hplain).mp hsame ▸ hplain
        · refine h entry.1 (hfront.subset ?_)
          rw [hkeys]
          exact List.mem_append_right _ List.mem_cons_self
      · exact ih h name hrest

/-- **Columns with different names are described one behind the other.** -/
theorem insertAll_eq_append (hplain : ∀ entry ∈ schema ++ entries, entry.1.nameText?.isSome = true)
    (hnodup : ((schema ++ entries).map Prod.fst).Nodup) : schema.insertAll entries = schema ++ entries := by
  induction entries generalizing schema with
  | nil => exact (List.append_nil schema).symm
  | cons entry rest ih =>
      have hnew : schema.insert entry.1 entry.2 = schema ++ [entry] := by
        refine if_neg fun hany => ?_
        obtain ⟨known, hknown, hsame⟩ := List.any_eq_true.mp hany
        have heq : known.1 = entry.1 :=
          (Datum.isSameName_iff (hplain known (List.mem_append_left _ hknown))).mp hsame
        rw [List.map_append] at hnodup
        exact (List.nodup_append.mp hnodup).2.2 known.1 (List.mem_map_of_mem hknown) entry.1
          List.mem_cons_self heq
      rw [List.append_cons] at hplain hnodup ⊢
      show (schema.insert entry.1 entry.2).insertAll rest = _
      rw [hnew]
      exact ih hplain hnodup

end Schema

/-- The schema of some descriptions has what is read from each of them. -/
theorem schemaOf_eq_ok_iff {catalog : Catalog} {description : List ColumnDescription} {schema : Schema} :
    schemaOf catalog description = .ok schema ↔
      ∃ entries, description.mapM (ColumnDescription.read catalog) = .ok entries ∧
        schema = Schema.insertAll [] entries := by
  unfold schemaOf
  generalize [] = known
  induction description generalizing known with
  | nil =>
      constructor
      · intro h
        exact ⟨[], rfl, (Except.ok.inj h).symm⟩
      · rintro ⟨entries, hentries, rfl⟩
        obtain rfl := Except.ok.inj hentries
        rfl
  | cons d rest ih =>
      rw [List.foldlM_cons, bind_eq_ok]
      constructor
      · rintro ⟨next, hnext, hrest⟩
        obtain ⟨entry, hentry, hnext⟩ := bind_eq_ok.mp hnext
        obtain rfl := Except.ok.inj hnext
        obtain ⟨entries, hentries, rfl⟩ := (ih _).mp hrest
        exact ⟨entry :: entries, mapM_cons_eq_ok.mpr ⟨entry, entries, hentry, hentries, rfl⟩, rfl⟩
      · rintro ⟨entries, hentries, rfl⟩
        obtain ⟨entry, others, hentry, hothers, rfl⟩ := mapM_cons_eq_ok.mp hentries
        exact ⟨_, bind_eq_ok.mpr ⟨entry, hentry, rfl⟩, (ih _).mpr ⟨others, hothers, rfl⟩⟩

/-! ## Places -/

namespace Frame

variable {rows : List (List Datum)} {schema : Schema} {frame : Frame}

/-- Rows that are long enough are handed over in as many columns as the schema has, each with the values at
    its place. -/
theorem describedColumns_eq (hrows : rows ≠ []) (hwidth : schema.length ≤ commonWidth rows) :
    describedColumns schema rows =
      schema.zipIdx.map fun (entry, place) => ⟨entry.1, entry.2, valuesAt place rows⟩ := by
  have hsome : rows.isEmpty = false := List.isEmpty_eq_false_iff.mpr hrows
  have hcount : (columnsOf rows).length = commonWidth rows := by
    rw [columnsOf, List.length_map, List.length_range]
  rw [describedColumns, hsome]
  refine List.ext_getElem ?_ fun i hi hi' => ?_
  · simp [hcount, hwidth]
  · simp [columnsOf, valuesAt]

/-- The column at a place is shown under its name, or one for its place. -/
theorem getElem?_named (columns : List Column) (place : Nat) :
    (named columns)[place]? = columns[place]?.map fun c => { c with name := shownName place c.name } := by
  rw [named, List.getElem?_map, List.getElem?_zipIdx, Option.map_map, Nat.zero_add]
  congr 1
  funext c
  show (if c.name = "" then { c with name := "column_" ++ Text.natText place } else c) = _
  rw [shownName]
  split <;> rfl

/-- The columns of a frame are those that were built, under the names that they are shown under. -/
theorem exists_built_of_ofColumns {raw : List RawColumn} (h : ofColumns raw = .ok frame) :
    frame.columns.length = raw.length ∧ ∀ (place : Nat) (c : Column), frame.columns[place]? = some c →
      ∃ r d, raw[place]? = some r ∧ r.build = .ok d ∧ c = { d with name := shownName place d.name } := by
  obtain ⟨built, hbuilt, h⟩ := bind_eq_ok.mp h
  obtain ⟨hlength, hplaces⟩ := exists_of_mapM_eq_ok hbuilt
  dsimp only at h
  split at h
  · exact nomatch h
  · obtain rfl := Except.ok.inj h
    refine ⟨by simp [named, hlength], fun place c hc => ?_⟩
    rw [getElem?_named] at hc
    obtain ⟨d, hd, rfl⟩ := Option.map_eq_some_iff.mp hc
    obtain ⟨r, hr, hbuild⟩ := hplaces place d hd
    exact ⟨r, d, hr, hbuild, rfl⟩

/-- **The column at a place** of a frame of rows is made of the values at this place, and has the name and
    the kind at this place of the schema. -/
theorem exists_entry_of_ofRows (hrows : rows ≠ []) (hwidth : schema.length ≤ commonWidth rows)
    (h : ofRows schema rows = .ok frame) :
    frame.columns.length = schema.length ∧ ∀ (place : Nat) (c : Column), frame.columns[place]? = some c →
      ∃ name kind given, schema[place]? = some (name, kind) ∧ name.nameText? = some given ∧
        c.name = shownName place given ∧
        Cells.ofValues kind (valuesAt place rows) = .ok ⟨c.kind, c.values⟩ := by
  rw [ofRows, describedColumns_eq hrows hwidth] at h
  obtain ⟨hlength, hplaces⟩ := exists_built_of_ofColumns h
  rw [List.length_map, List.length_zipIdx] at hlength
  refine ⟨hlength, fun place c hc => ?_⟩
  obtain ⟨r, d, hr, hbuild, rfl⟩ := hplaces place c hc
  obtain ⟨hname, hcells⟩ := RawColumn.exists_of_build hbuild
  rw [List.getElem?_map, List.getElem?_zipIdx, Option.map_map, Nat.zero_add] at hr
  obtain ⟨⟨name, kind⟩, hentry, rfl⟩ := Option.map_eq_some_iff.mp hr
  exact ⟨name, kind, d.name, hentry, hname, rfl, hcells⟩

/-- The names of a schema whose columns are built are names that columns can have. -/
theorem isSome_nameText?_of_ofRows (hrows : rows ≠ []) (hwidth : schema.length ≤ commonWidth rows)
    (h : ofRows schema rows = .ok frame) :
    ∀ name ∈ schema.map Prod.fst, name.nameText?.isSome = true := by
  obtain ⟨hlength, hplaces⟩ := exists_entry_of_ofRows hrows hwidth h
  intro name hname
  obtain ⟨place, hplace, rfl⟩ := List.getElem_of_mem hname
  rw [List.length_map, ← hlength] at hplace
  obtain ⟨name, kind, given, hentry, hgiven, -⟩ := hplaces place _ (List.getElem?_eq_getElem hplace)
  rw [List.getElem_map, (List.getElem?_eq_some_iff.mp hentry).2, hgiven]
  rfl

/-- A frame of rows is as high as there are rows. -/
theorem height_of_ofRows (hrows : rows ≠ []) (hschema : schema ≠ []) (hwidth : schema.length ≤ commonWidth rows)
    (h : ofRows schema rows = .ok frame) : frame.height = rows.length := by
  obtain ⟨hlength, hplaces⟩ := exists_entry_of_ofRows hrows hwidth h
  obtain ⟨first, others, hcolumns⟩ :=
    List.exists_cons_of_length_pos (hlength ▸ List.length_pos_iff.mpr hschema : 0 < frame.columns.length)
  have hfirst : frame.columns[0]? = some first := by
    rw [hcolumns]
    rfl
  obtain ⟨name, kind, given, -, -, -, hcells⟩ := hplaces 0 first hfirst
  rw [height, hcolumns]
  exact (Cells.madeOf_ofValues _ _ _ hcells).eachFrom.length_eq.trans (List.length_map _)

end Frame

/-! ## Results -/

/-- What a column that was asked to be of a kind holds of some values. -/
structure Column.Holds (kind : ColumnKind) (values : List Datum) (c : Column) : Prop where
  coerced : Cells.ofValues kind values = .ok ⟨c.kind, c.values⟩
  oneByOne : EachFrom values c.values
  /-- The column has the kind that was asked for, unless it goes by its values. -/
  typed : if Cells.goesByValues kind values then Cells.inferred values = .ok ⟨c.kind, c.values⟩
    else c.kind = Cells.closed kind
  typedByOwn : (∀ value ∈ values, IsInstant kind value) → c.kind = Cells.closed kind

/-- A column of a database's type holds what is made of its values. -/
theorem Column.holds_of_ofValues {driver : Driver} {catalog : Catalog} (h : driver.catalog? = some catalog)
    {typeName : String} {values : List Datum} {c : Column}
    (hcells : Cells.ofValues (catalog.kindOf typeName) values = .ok ⟨c.kind, c.values⟩) :
    c.Holds (catalog.kindOf typeName) values := by
  have htyped := Cells.kind_ofValues (Catalog.isFixed_kindOf h typeName) hcells
  refine ⟨hcells, (Cells.madeOf_ofValues _ _ _ hcells).eachFrom, htyped, fun hown => ?_⟩
  rcases Catalog.isFixed_kindOf h typeName with hfixed | hinstant
  · rw [Cells.closed_fixed hfixed]
    exact Cells.kind_ofValues_fixed hfixed values _ hcells
  · exact Cells.kind_ofValues_own hinstant hown hcells

/-- What can be looked up is looked up as it is. -/
theorem lookedUp_eq_ok {given known : Datum} (h : lookedUp given = .ok known) : given = known := by
  unfold lookedUp at h
  split at h
  · exact nomatch h
  · exact nomatch h
  · split at h
    · exact nomatch h
    · exact Except.ok.inj h
  · exact Except.ok.inj h

/-- A description is read as its name and the kind of its type code. -/
theorem ColumnDescription.exists_of_read {catalog : Catalog} {d : ColumnDescription} {name : Datum}
    {kind : ColumnKind} (h : d.read catalog = .ok (name, kind)) :
    d.name = .ok name ∧ ∃ code, d.typeCode = .ok code ∧ kind = catalog.kindOf (catalog.typeName code) := by
  obtain ⟨given, hgiven, h⟩ := bind_eq_ok.mp h
  obtain ⟨code, hcode, h⟩ := bind_eq_ok.mp h
  obtain ⟨typeName, htype, h⟩ := bind_eq_ok.mp h
  obtain ⟨known, hknown, h⟩ := bind_eq_ok.mp h
  obtain ⟨rfl, rfl⟩ := Prod.mk.inj (Except.ok.inj h)
  obtain ⟨seen, hseen, rfl⟩ := map_eq_ok.mp htype
  obtain rfl := lookedUp_eq_ok hknown
  obtain rfl := lookedUp_eq_ok hseen
  exact ⟨hgiven, _, hcode, rfl⟩

/-- The names of descriptions are those that are read. -/
theorem names_of_read {catalog : Catalog} {description : List ColumnDescription}
    {entries : List (Datum × ColumnKind)}
    (h : description.mapM (ColumnDescription.read catalog) = .ok entries) :
    description.map ColumnDescription.name = (entries.map Prod.fst).map .ok := by
  induction description generalizing entries with
  | nil =>
      obtain rfl := Except.ok.inj h
      rfl
  | cons d rest ih =>
      obtain ⟨entry, others, hentry, hothers, rfl⟩ := mapM_cons_eq_ok.mp h
      rw [List.map_cons, (ColumnDescription.exists_of_read hentry).1, ih hothers]
      rfl

section Described

variable {e : Executor} {catalog : Catalog} {description : List ColumnDescription} {rows : List (List Datum)}
  {fetchFault : Option Fault} {sql : String} {frame : Frame} {entries : List (Datum × ColumnKind)}

/-- A frame that is built of rows under descriptions is one of the schema of what is read from these. -/
theorem Executor.exists_entries_of_execute (hcatalog : e.catalog? = some catalog)
    (hreply : e.source.nextReply = .rows (some description) rows fetchFault)
    (hframe : (e.execute sql).1 = .ok frame) :
    ∃ entries, description.mapM (ColumnDescription.read catalog) = .ok entries ∧
      Frame.ofRows (Schema.insertAll [] entries) rows = .ok frame := by
  rw [execute, hcatalog, hreply] at hframe
  obtain ⟨schema, hschema, hframe⟩ := bind_eq_ok.mp hframe
  obtain ⟨entries, hentries, rfl⟩ := schemaOf_eq_ok_iff.mp (mapError_eq_ok.mp hschema)
  cases fetchFault with
  | some fault => exact nomatch hframe
  | none => exact ⟨entries, hentries, mapError_eq_ok.mp hframe⟩

/-- The schema of descriptions with different names has what is read from each of them, in order, if a frame
    is built of it. -/
theorem Schema.insertAll_eq_self (hentries : description.mapM (ColumnDescription.read catalog) = .ok entries)
    (hnodup : (description.map ColumnDescription.name).Nodup)
    (hplain : ∀ name ∈ (Schema.insertAll [] entries).map Prod.fst, name.nameText?.isSome = true) :
    Schema.insertAll [] entries = entries := by
  have hdistinct : (entries.map Prod.fst).Nodup := by
    rw [names_of_read hentries] at hnodup
    exact hnodup.of_map
  have hnames := isSome_nameText?_of_insertAll hplain
  exact insertAll_eq_append (fun entry hentry => hnames entry.1 (List.mem_map_of_mem hentry)) hdistinct

/-- Different names are those of different places. -/
theorem ColumnDescription.place_unique (hnodup : (description.map name).Nodup) {place other : Nat}
    {d d' : ColumnDescription} (hd : description[place]? = some d) (hd' : description[other]? = some d')
    (hname : d'.name = d.name) : other = place := by
  have hnamed : ∀ {i : Nat} {d : ColumnDescription}, description[i]? = some d →
      (description.map name)[i]? = some d.name := by
    intro i d hd
    rw [List.getElem?_map, hd, Option.map_some]
  have hother := hnamed hd'
  have hsame := hother.trans ((congrArg some hname).trans (hnamed hd).symm)
  exact (List.getElem?_inj (List.getElem?_eq_some_iff.mp hother).1 hnodup).mp hsame

/-- **Columns keep their names.** Let a database that works with cursors answer a statement with rows under
    as many descriptions as each row has values, and let a frame be built of them. The frame is as high as
    there are rows. If the descriptions have different names, there is one column for each of them, in
    order: it has the name of the description, or a name for its place if that is empty or null, and no
    other description has this name; it holds what the kind of the type code makes of the values at its
    place, row by row; and it has this kind, unless it is a column of dates, times or moments that goes by
    its values, and even then if these are of the kind. -/
theorem columns_keep_names (hcatalog : e.catalog? = some catalog)
    (hreply : e.source.nextReply = .rows (some description) rows fetchFault)
    (hdescribed : description ≠ []) (hrows : rows ≠ [])
    (hwidth : ∀ row ∈ rows, row.length = description.length)
    (hframe : (e.execute sql).1 = .ok frame) :
    frame.height = rows.length ∧
      ((description.map ColumnDescription.name).Nodup →
        frame.columns.length = description.length ∧
        ∀ (place : Nat) (c : Column), frame.columns[place]? = some c →
          ∃ d name given code, description[place]? = some d ∧ d.name = .ok name ∧ d.typeCode = .ok code ∧
            name.nameText? = some given ∧ c.name = Frame.shownName place given ∧
            (∀ (other : Nat) (d' : ColumnDescription), description[other]? = some d' →
              d'.name = .ok name → other = place) ∧
            c.Holds (catalog.kindOf (catalog.typeName code)) (Frame.valuesAt place rows)) := by
  obtain ⟨entries, hentries, hofRows⟩ := Executor.exists_entries_of_execute hcatalog hreply hframe
  obtain ⟨hcount, hread⟩ := exists_of_mapM_eq_ok hentries
  have hne : entries ≠ [] := by
    rintro rfl
    exact hdescribed (List.eq_nil_of_length_eq_zero hcount.symm)
  have hfits : (Schema.insertAll [] entries).length ≤ Frame.commonWidth rows := by
    have hle := Schema.length_insertAll_le [] entries
    rw [List.length_nil, Nat.zero_add] at hle
    rw [Frame.commonWidth_eq hrows hwidth, ← hcount]
    exact hle
  refine ⟨Frame.height_of_ofRows hrows (Schema.insertAll_ne_nil hne) hfits hofRows, fun hnodup => ?_⟩
  obtain ⟨hlength, hplaces⟩ := Frame.exists_entry_of_ofRows hrows hfits hofRows
  have hplain := Frame.isSome_nameText?_of_ofRows hrows hfits hofRows
  rw [Schema.insertAll_eq_self hentries hnodup hplain] at hlength hplaces
  refine ⟨hlength.trans hcount, fun place c hc => ?_⟩
  -- the entry at a place of the schema is read from the description at this place
  obtain ⟨name, kind, given, hentry, hgiven, hshown, hcells⟩ := hplaces place c hc
  obtain ⟨d, hd, hdread⟩ := hread place (name, kind) hentry
  obtain ⟨hname, code, hcode, rfl⟩ := ColumnDescription.exists_of_read hdread
  obtain ⟨driver, -, hdriver⟩ := Option.bind_eq_some_iff.mp hcatalog
  refine ⟨d, name, given, code, hd, hname, hcode, hgiven, hshown, fun other d' hd' hname' => ?_,
    Column.holds_of_ofValues hdriver hcells⟩
  exact ColumnDescription.place_unique hnodup hd hd' (hname'.trans hname.symm)

end Described

/-- A database that works with cursors, and answers with rows under descriptions. -/
def describing (description : List ColumnDescription) (rows : List (List Datum)) : Executor :=
  ⟨some .postgres, { replies := [.rows (some description) rows none] }⟩

/-- The descriptions of two integers, the second one without a name, and a date. -/
def twoIntegersAndDay : List ColumnDescription :=
  [.positional [.text "id", .int 23], .positional [.null, .int 20], .positional [.text "day", .int 1082]]

/-- Two rows of two integers and a date. -/
def twoRows : List (List Datum) :=
  [[.int 7, .null, .null], [.null, .int 50000, .date ⟨2026, 7, 9, by decide⟩]]

/-- Three columns of two rows keep their names, and one that has none is named by its place. -/
theorem twoIntegersAndDay_keep_names :
    (twoIntegersAndDay.map ColumnDescription.name).Nodup ∧
      ∃ frame c, ((describing twoIntegersAndDay twoRows).execute "SELECT 1").1 = .ok frame ∧
        frame.height = 2 ∧ frame.columns.map Column.name = ["id", "column_1", "day"] ∧
        frame.columns[2]? = some c ∧
        c.Holds .date [.null, .date ⟨2026, 7, 9, by decide⟩] := by
  have hnodup : (twoIntegersAndDay.map ColumnDescription.name).Nodup := by
    simp [twoIntegersAndDay, ColumnDescription.name]
  have hexecute : ((describing twoIntegersAndDay twoRows).execute "SELECT 1").1 =
      .ok ⟨[⟨"id", .signed 32, [.int 7, .null]⟩, ⟨"column_1", .signed 64, [.null, .int 50000]⟩,
        ⟨"day", .date, [.null, .date ⟨2026, 7, 9, by decide⟩]⟩]⟩ := rfl
  obtain ⟨hheight, hkeeps⟩ := columns_keep_names (e := describing twoIntegersAndDay twoRows) rfl rfl
    (by decide) (by decide) (by decide) hexecute
  obtain ⟨d, name, given, code, hd, -, hcode, -, -, -, hholds⟩ := (hkeeps hnodup).2 2 _ rfl
  obtain rfl := Option.some.inj hd
  obtain rfl := Except.ok.inj hcode
  exact ⟨hnodup, _, _, hexecute, hheight, rfl, rfl, hholds⟩

/-- Each column of a frame shows a described column of its name: it has the kind that the type code asks
    for, and what this makes of the values at the place. -/
def Frame.KeepsNames (catalog : Catalog) (description : List ColumnDescription) (rows : List (List Datum))
    (frame : Frame) : Prop :=
  ∀ c ∈ frame.columns, ∃ (place : Nat) (d : ColumnDescription) (code : Datum),
    description[place]? = some d ∧ d.name = .ok (.text c.name) ∧ d.typeCode = .ok code ∧
      c.kind = Cells.closed (catalog.kindOf (catalog.typeName code)) ∧
      Cells.ofValues (catalog.kindOf (catalog.typeName code)) (valuesAt place rows) = .ok ⟨c.kind, c.values⟩

/-- A result that is built although a column of it does not show a described column of its name. -/
def LosesName (description : List ColumnDescription) (rows : List (List Datum)) : Prop :=
  ∃ frame, ((describing description rows).execute "SELECT 1").1 = .ok frame ∧
    ¬ frame.KeepsNames .postgresql description rows

/-- **Columns that do not keep their names**: one behind a repeated name shows the values of the repetition;
    one without a name has a name of its own; and a column of dates is one of moments if its values are. -/
theorem some_columns_lose_names :
    LosesName [.positional [.text "a", .int 23], .positional [.text "a", .int 23],
      .positional [.text "b", .int 20]] [[.int 1, .int 1, .int 5]] ∧
    LosesName [.positional [.text "", .int 23]] [[.int 1]] ∧
    LosesName [.positional [.text "d", .int 1082]] [[.moment ⟨⟨2026, 7, 9, by decide⟩, .midnight⟩]] := by
  refine ⟨⟨⟨[⟨"a", .signed 32, [.int 1]⟩, ⟨"b", .signed 64, [.int 1]⟩]⟩, rfl, fun h => ?_⟩,
    ⟨⟨[⟨"column_0", .signed 32, [.int 1]⟩]⟩, rfl, fun h => ?_⟩,
    ⟨⟨[⟨"d", .plainMoment, [.moment ⟨⟨2026, 7, 9, by decide⟩, .midnight⟩]⟩]⟩, rfl, fun h => ?_⟩⟩
  · obtain ⟨place, d, code, hd, hname, hcode, -, hcells⟩ := h _ (List.mem_cons_of_mem _ List.mem_cons_self)
    match place with
    | 0 | 1 =>
      obtain rfl := Option.some.inj hd
      simp [ColumnDescription.name] at hname
    | 2 =>
      obtain rfl := Option.some.inj hd
      obtain rfl := Except.ok.inj hcode
      have hvalues : [Datum.int 5] = [Datum.int 1] := congrArg Cells.values (Except.ok.inj hcells)
      simp at hvalues
    | _ + 3 => exact nomatch hd
  · obtain ⟨place, d, code, hd, hname, -⟩ := h _ List.mem_cons_self
    match place with
    | 0 =>
      obtain rfl := Option.some.inj hd
      simp [ColumnDescription.name] at hname
    | _ + 1 => exact nomatch hd
  · obtain ⟨place, d, code, hd, -, hcode, hkind, -⟩ := h _ List.mem_cons_self
    match place with
    | 0 =>
      obtain rfl := Option.some.inj hd
      obtain rfl := Except.ok.inj hcode
      exact absurd hkind (by decide)
    | _ + 1 => exact nomatch hd

end SplitExport
