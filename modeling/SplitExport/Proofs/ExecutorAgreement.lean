import SplitExport.Proofs.Building
import SplitExport.Proofs.DescribedPairs
import SplitExport.Proofs.KeptBounds
import SplitExport.Proofs.ProbeFaults

/-!
# Agreement of executors — one answer, by a cursor or as a frame

* A probe looks at no more of a frame than its columns' names and kinds and their first values
  (`Frame.IsLike`, `judge_outcome_congr`), and a build looks at no more than the outcome of its probe. So
  executors that answer in frames that are alike agree (`Executor.agree_of_execute`).
* Integers that fit their columns come through a cursor as they are, whichever way their columns are
  described, and stand in the same frame as if they had been handed over in columns. So an executor that
  works with cursors agrees with one that gets frames (`executors_agree_on_integers`).
-/

namespace SplitExport

open SplitExport.Partition SplitExport.Probe SplitExport.Results SplitExport.Text

/-! ## Frames that are alike -/

/-- Two columns differ behind their first values at most. -/
structure Column.IsLike (c d : Column) : Prop where
  name : c.name = d.name
  kind : c.kind = d.kind
  first : c.values.head? = d.values.head?

namespace Frame

variable {f g : Frame}

/-- Two frames have columns that differ behind their first values at most. -/
def IsLike (f g : Frame) : Prop :=
  List.Forall₂ Column.IsLike f.columns g.columns

/-- Frames that are alike have rows together. -/
theorem IsLike.height_eq_zero_iff (h : f.IsLike g) : f.height = 0 ↔ g.height = 0 := by
  obtain ⟨columns⟩ := f
  obtain ⟨others⟩ := g
  cases h with
  | nil => exact Iff.rfl
  | @cons c d columns others hfirst hrest =>
      have hempty : ∀ values : List Datum, values.length = 0 ↔ values.head? = none := by
        intro values
        rw [List.length_eq_zero_iff, List.head?_eq_none_iff]
      show c.values.length = 0 ↔ d.values.length = 0
      rw [hempty, hempty, hfirst.first]

/-- Frames that are alike have columns of the same names. -/
theorem IsLike.column? (h : f.IsLike g) (name : String) :
    Option.Rel Column.IsLike (f.column? name) (g.column? name) := by
  obtain ⟨columns⟩ := f
  obtain ⟨others⟩ := g
  show Option.Rel _ (columns.find? _) (others.find? _)
  replace h : List.Forall₂ Column.IsLike columns others := h
  induction h with
  | nil => exact .none
  | @cons c d columns others hfirst hrest ih =>
      rw [List.find?_cons, List.find?_cons, hfirst.name]
      cases d.name == name with
      | true => exact .some hfirst
      | false => exact ih

/-- The first rows of frames that are alike can be read together. -/
theorem IsLike.unreadable? (h : f.IsLike g) : f.unreadable? 0 = g.unreadable? 0 := by
  obtain ⟨columns⟩ := f
  obtain ⟨others⟩ := g
  show columns.findSome? _ = others.findSome? _
  replace h : List.Forall₂ Column.IsLike columns others := h
  induction h with
  | nil => rfl
  | @cons c d columns others hfirst hrest ih =>
      have hvalue : c.values.getD 0 .null = d.values.getD 0 .null := by
        rw [List.getD_eq_getElem?_getD, List.getD_eq_getElem?_getD, ← List.head?_eq_getElem?,
          ← List.head?_eq_getElem?, hfirst.first]
      rw [List.findSome?_cons, List.findSome?_cons, hfirst.kind, hvalue, ih]

end Frame

namespace Probe

/-- How long an answer takes is told, and changes nothing. -/
theorem takeBounds_outcome (seconds seconds' : Number.Binary64) (column : String) (least greatest : Datum) :
    (takeBounds seconds column least greatest).outcome =
      (takeBounds seconds' column least greatest).outcome := by
  rw [takeBounds, takeBounds]
  split
  · rfl
  · split <;> rfl

/-- The first values of columns that are alike are the same. -/
theorem firstValue_congr {c d : Column} (h : c.IsLike d) : firstValue c = firstValue d := by
  rw [firstValue, firstValue, List.headD_eq_head?_getD, List.headD_eq_head?_getD, h.first]

/-- **A probe judges frames that are alike in the same way.** -/
theorem judge_outcome_congr {f g : Frame} (h : f.IsLike g) (settings : Settings)
    (seconds seconds' : Number.Binary64) (column : String) :
    (judge settings seconds column f).outcome = (judge settings seconds' column g).outcome := by
  have hleast := h.column? settings.minColumn
  have hgreatest := h.column? settings.maxColumn
  rw [judge, judge]
  by_cases hrow : f.height = 0
  · rw [if_pos hrow, if_pos (h.height_eq_zero_iff.mp hrow)]
  · rw [if_neg hrow, if_neg (mt h.height_eq_zero_iff.mpr hrow)]
    simp only [columnOf, h.unreadable?]
    -- both frames have a column of a name, or neither has
    generalize f.column? settings.minColumn = low, g.column? settings.minColumn = low' at hleast
    generalize f.column? settings.maxColumn = high, g.column? settings.maxColumn = high' at hgreatest
    cases hleast with
    | none => rfl
    | @some c d hfirst =>
        dsimp only [Option.elim]
        rw [hfirst.kind]
        split
        · rfl
        · cases g.unreadable? 0 with
          | some fault => rfl
          | none =>
              cases hgreatest with
              | none => rfl
              | @some c' d' hfirst' =>
                  show (takeBounds _ _ (firstValue c) (firstValue c')).outcome =
                    (takeBounds _ _ (firstValue d) (firstValue d')).outcome
                  rw [firstValue_congr hfirst, firstValue_congr hfirst']
                  exact takeBounds_outcome ..

/-- The outcome of a probe is the judgement of the frame that answers it. -/
theorem run_outcome_of_execute {settings : Settings} {e : Executor} {base : Sql.BaseQuery}
    {condition column : String} {frame : Frame}
    (h : (e.execute (query settings base column condition)).1 = .ok frame) :
    (run settings e base condition column).outcome =
      (judge settings (e.execute (query settings base column condition)).2.source.seconds column
        frame).outcome := by
  rw [run]
  generalize e.execute (query settings base column condition) = answered at h ⊢
  obtain ⟨answer, after⟩ := answered
  obtain rfl : answer = .ok frame := h
  rfl

end Probe

/-! ## Executors that agree -/

/-- The statements that an executor's source was sent grow by the same ones as another's. -/
def Executor.AskedAlike (e d e' d' : Executor) : Prop :=
  ∃ asked : List String, e'.source.executed = e.source.executed ++ asked ∧
    d'.source.executed = d.source.executed ++ asked

/-- Two executors agree: whoever probes or builds with the one or the other gets the same, and has asked
    the same. -/
structure Executor.Agree (e d : Executor) : Prop where
  outcome : ∀ settings base condition column,
    (run settings e base condition column).outcome = (run settings d base condition column).outcome
  probe_asks : ∀ settings base condition column,
    e.AskedAlike d (run settings e base condition column).executor
      (run settings d base condition column).executor
  result : ∀ settings (spec : ExportSpec),
    (spec.build settings (some e)).result = (spec.build settings (some d)).result
  build_asks : ∀ settings (spec : ExportSpec), ∃ e' d',
    (spec.build settings (some e)).executor = some e' ∧
      (spec.build settings (some d)).executor = some d' ∧ e.AskedAlike d e' d'

namespace ExportSpec

variable {settings : Settings} {s : ExportSpec} {e d : Executor}

/-- The ends of a build with an executor: it stops before it asks, or its result is made of what its probe
    finds out. -/
theorem build_congr
    (houtcome : ∀ condition column, (run settings e s.base condition column).outcome =
      (run settings d s.base condition column).outcome) :
    (s.build settings (some e)).result = (s.build settings (some d)).result ∧
      ∃ e' d', (s.build settings (some e)).executor = some e' ∧
        (s.build settings (some d)).executor = some d' ∧ e.AskedAlike d e' d' := by
  have hunasked : e.AskedAlike d e d := ⟨[], (List.append_nil _).symm, (List.append_nil _).symm⟩
  -- what is checked before the probe is the specification's own, whichever executor is asked
  cases hstart : s.started.isWritten with
  | false =>
      rw [build_of_unwritten hstart, build_of_unwritten hstart]
      exact ⟨rfl, e, d, rfl, rfl, hunasked⟩
  | true =>
      rw [build_of_written hstart, build_of_written hstart]
      cases hplan : splitPlan s.splitColumn s.parallelism with
      | error cause =>
          rw [buildStarted_refused hplan, buildStarted_refused hplan]
          exact ⟨rfl, e, d, rfl, rfl, hunasked⟩
      | ok plan =>
          cases hcondition : s.partitionCondition with
          | error cause =>
              rw [buildStarted_unconditioned hplan hcondition, buildStarted_unconditioned hplan hcondition]
              exact ⟨rfl, e, d, rfl, rfl, hunasked⟩
          | ok condition =>
              cases plan with
              | none =>
                  rw [buildStarted_whole hplan hcondition, buildStarted_whole hplan hcondition]
                  exact ⟨rfl, e, d, rfl, rfl, hunasked⟩
              | some plan =>
                  rw [buildStarted_eq_buildSplit hplan hcondition,
                    buildStarted_eq_buildSplit hplan hcondition]
                  refine ⟨?_, _, _, buildSplit_executor, buildSplit_executor, ?_⟩
                  · rw [buildSplit, buildSplit, houtcome]
                    dsimp only
                    split
                    · rfl
                    · split <;> rfl
                  · exact ⟨[query settings s.base plan.column condition], e.executed_execute _,
                      d.executed_execute _⟩

end ExportSpec

/-- **Executors that answer every statement by frames that are alike agree.** -/
theorem Executor.agree_of_execute {e d : Executor} {f g : Frame} (hlike : f.IsLike g)
    (hf : ∀ sql, (e.execute sql).1 = .ok f) (hg : ∀ sql, (d.execute sql).1 = .ok g) : e.Agree d := by
  have houtcome : ∀ settings base condition column,
      (run settings e base condition column).outcome = (run settings d base condition column).outcome := by
    intro settings base condition column
    rw [run_outcome_of_execute (hf _), run_outcome_of_execute (hg _)]
    exact judge_outcome_congr hlike ..
  refine ⟨houtcome, ?_, ?_, ?_⟩
  · intro settings base condition column
    rw [run_executor, run_executor]
    exact ⟨[query settings base column condition], e.executed_execute _, d.executed_execute _⟩
  · intro settings spec
    exact (ExportSpec.build_congr fun condition column => houtcome settings spec.base condition column).1
  · intro settings spec
    exact (ExportSpec.build_congr fun condition column => houtcome settings spec.base condition column).2

/-! ## Databases -/

section Databases

variable {database : String}

/-- The names of the databases that are described as PostgreSQL is, in any case. -/
def IsPostgres (database : String) : Prop :=
  lower database = "postgresql" ∨ lower database = "greenplum"

theorem Driver.ofDatabase?_postgres (h : IsPostgres database) : ofDatabase? database = some .postgres := by
  rcases h with hname | hname
  · simp [ofDatabase?, hname]
  · simp [ofDatabase?, hname]

theorem Driver.ofDatabase?_vertica (h : lower database = "vertica") :
    ofDatabase? database = some .vertica := by
  simp [ofDatabase?, h]

theorem Driver.ofDatabase?_duckdb (h : lower database = "duckdb") : ofDatabase? database = some .duckdb := by
  simp [ofDatabase?, h]

/-- An executor gets frames from a source: it is used as it is, or it is connected to DuckDB, whose name may
    be written in any case. -/
inductive GetsFrames (source : Source) : Executor → Prop where
  | direct : GetsFrames source (.direct source)
  | duckdb {database : String} {e : Executor} : lower database = "duckdb" →
      Executor.ofConnection database source = .ok e → GetsFrames source e

/-- An executor that gets frames has no catalog. -/
theorem GetsFrames.catalog?_eq_none {source : Source} {e : Executor} (h : GetsFrames source e) :
    e.catalog? = none ∧ e.source = source := by
  cases h with
  | direct => exact ⟨rfl, rfl⟩
  | duckdb hname he =>
      rw [Executor.ofConnection, Driver.ofDatabase?_duckdb hname] at he
      obtain rfl := Except.ok.inj he
      exact ⟨rfl, rfl⟩

end Databases

/-! ## Integers under a description -/

/-- A description gives a column a name and a type code: a tuple has both in front, and an object has both
    as its attributes, whatever else they have. -/
inductive ColumnDescription.Gives (name : String) (code : Int) : ColumnDescription → Prop where
  | positional (rest : List Datum) : Gives name code (.positional (.text name :: .int code :: rest))
  | named (items : List Datum) : Gives name code (.named (.text name) (.int code) items)

/-- A type code of integers of a number of bits, for the name of a database. -/
inductive IntegerCode (database : String) : Int → Nat → Prop where
  | bigint : IsPostgres database → IntegerCode database 20 64
  | smallint : IsPostgres database → IntegerCode database 21 16
  | integer : IsPostgres database → IntegerCode database 23 32
  | vertica : lower database = "vertica" → IntegerCode database 6 64

section Integers

variable {database low high : String} {lowCode highCode : Int} {lowBits highBits : Nat}

/-- The integers of a database have a kind in its catalog. -/
theorem IntegerCode.exists_catalog (h : IntegerCode database lowCode lowBits) :
    lowCode ≠ 0 ∧ IsWordKind (.signed lowBits) ∧
      ∃ driver catalog, Driver.ofDatabase? database = some driver ∧ driver.catalog? = some catalog ∧
        catalog.kindOf (catalog.typeName (.int lowCode)) = .signed lowBits := by
  cases h with
  | bigint hname =>
      have hdriver := Driver.ofDatabase?_postgres hname
      exact ⟨by decide, .signed (by decide), .postgres, .postgresql, hdriver, rfl, by decide⟩
  | smallint hname =>
      have hdriver := Driver.ofDatabase?_postgres hname
      exact ⟨by decide, .signed (by decide), .postgres, .postgresql, hdriver, rfl, by decide⟩
  | integer hname =>
      have hdriver := Driver.ofDatabase?_postgres hname
      exact ⟨by decide, .signed (by decide), .postgres, .postgresql, hdriver, rfl, by decide⟩
  | vertica hname =>
      have hdriver := Driver.ofDatabase?_vertica hname
      exact ⟨by decide, .signed (by decide), .vertica, .vertica, hdriver, rfl, by decide⟩

/-- A description that gives a name and a code is read with both, whether it is a tuple or an object. -/
theorem ColumnDescription.Gives.read_eq {d : ColumnDescription} (h : d.Gives low lowCode) (hlow : low ≠ "")
    (hcode : lowCode ≠ 0) (catalog : Catalog) :
    d.name = .ok (.text low) ∧
      d.read catalog = .ok (.text low, catalog.kindOf (catalog.typeName (.int lowCode))) := by
  have hparts : d.name = .ok (.text low) ∧ d.typeCode = .ok (.int lowCode) := by
    cases h with
    | positional rest => exact ⟨rfl, rfl⟩
    | named items =>
        have hname : (Datum.text low).isTruthy = true := by simp [Datum.isTruthy, hlow]
        have htype : (Datum.int lowCode).isTruthy = true := by simp [Datum.isTruthy, hcode]
        exact ⟨if_pos hname, if_pos htype⟩
  exact ⟨hparts.1, (read_eq_ok_iff hparts.1).mpr ⟨_, _, hparts.2, rfl, rfl⟩⟩

/-! ## Pairs of integers -/

/-- Pairs of nulls and integers that fit two columns. -/
def PairsFit (lowBits highBits : Nat) (pairs : List (Datum × Datum)) : Prop :=
  ∀ pair ∈ pairs, IsWord (.signed lowBits) pair.1 ∧ IsWord (.signed highBits) pair.2

/-- Pairs as rows. -/
def pairRows (pairs : List (Datum × Datum)) : List (List Datum) :=
  pairs.map fun pair => [pair.1, pair.2]

/-- Pairs as columns. -/
def pairColumns (low high : String) (lowBits highBits : Nat) (pairs : List (Datum × Datum)) :
    List RawColumn :=
  [⟨.text low, .signed lowBits, pairs.map Prod.fst⟩, ⟨.text high, .signed highBits, pairs.map Prod.snd⟩]

/-- The frame of pairs. -/
def pairFrame (low high : String) (lowBits highBits : Nat) (pairs : List (Datum × Datum)) : Frame :=
  ⟨[⟨low, .signed lowBits, pairs.map Prod.fst⟩, ⟨high, .signed highBits, pairs.map Prod.snd⟩]⟩

variable {pairs : List (Datum × Datum)}

/-- Pairs that fit make their frame when they are handed over in columns. -/
theorem ofColumns_pairColumns (hlow : low ≠ "") (hhigh : high ≠ "") (hne : low ≠ high)
    (hlowKind : IsWordKind (.signed lowBits)) (hhighKind : IsWordKind (.signed highBits))
    (hfit : PairsFit lowBits highBits pairs) :
    Frame.ofColumns (pairColumns low high lowBits highBits pairs) =
      .ok (pairFrame low high lowBits highBits pairs) := by
  have hlows : ∀ v ∈ pairs.map Prod.fst, IsWord (.signed lowBits) v := by
    intro v hv
    obtain ⟨pair, hpair, rfl⟩ := List.mem_map.mp hv
    exact (hfit pair hpair).1
  have hhighs : ∀ v ∈ pairs.map Prod.snd, IsWord (.signed highBits) v := by
    intro v hv
    obtain ⟨pair, hpair, rfl⟩ := List.mem_map.mp hv
    exact (hfit pair hpair).2
  have hheight : (pairs.map Prod.fst).length = (pairs.map Prod.snd).length := by
    rw [List.length_map, List.length_map]
  exact (Frame.ofColumns_pair_eq_ok_iff hlow hhigh hne).mpr ⟨_, _, Cells.ofValues_words hlowKind hlows,
    Cells.ofValues_words hhighKind hhighs, hheight, rfl⟩

/-- Pairs that fit make the same frame when they come as rows under a description. -/
theorem ofRows_pairRows (hlow : low ≠ "") (hhigh : high ≠ "") (hne : low ≠ high)
    (hlowKind : IsWordKind (.signed lowBits)) (hhighKind : IsWordKind (.signed highBits))
    (hfit : PairsFit lowBits highBits pairs) (hpairs : pairs ≠ []) :
    Frame.ofRows [(.text low, .signed lowBits), (.text high, .signed highBits)] (pairRows pairs) =
      .ok (pairFrame low high lowBits highBits pairs) := by
  have hrows : pairRows pairs ≠ [] := fun hnil => hpairs (List.map_eq_nil_iff.mp hnil)
  have hlows : Frame.valuesAt 0 (pairRows pairs) = pairs.map Prod.fst := List.map_map ..
  have hhighs : Frame.valuesAt 1 (pairRows pairs) = pairs.map Prod.snd := List.map_map ..
  have hwidth : ∀ row ∈ pairRows pairs, row.length = 2 := by
    intro row hrow
    obtain ⟨pair, -, rfl⟩ := List.mem_map.mp hrow
    rfl
  rw [Frame.ofRows, Frame.describedColumns_pair hrows, Frame.commonWidth_eq hrows hwidth, hlows, hhighs]
  exact ofColumns_pairColumns hlow hhigh hne hlowKind hhighKind hfit

end Integers

/-- A frame of integers shows the bounds that keep the first pair, under the names of a probe. -/
theorem exists_showsBounds {settings : Settings} {lowBits highBits : Nat} {a b : Datum}
    {pairs : List (Datum × Datum)} (hne : settings.minColumn ≠ settings.maxColumn)
    (hlowKind : IsWordKind (.signed lowBits)) (hhighKind : IsWordKind (.signed highBits))
    (hfit : PairsFit lowBits highBits ((a, b) :: pairs)) :
    ∃ bounds, ShowsBounds settings
        (pairFrame settings.minColumn settings.maxColumn lowBits highBits ((a, b) :: pairs)) bounds ∧
      Keeps a b bounds := by
  obtain ⟨ha, hb⟩ := hfit (a, b) List.mem_cons_self
  obtain ⟨bounds, hread⟩ := exists_readAs hlowKind hhighKind ha hb
  have hleast : (pairFrame settings.minColumn settings.maxColumn lowBits highBits ((a, b) :: pairs)).column?
      settings.minColumn = some ⟨settings.minColumn, .signed lowBits, ((a, b) :: pairs).map Prod.fst⟩ := by
    simp [Frame.column?, pairFrame]
  have hgreatest : (pairFrame settings.minColumn settings.maxColumn lowBits highBits
      ((a, b) :: pairs)).column? settings.maxColumn =
        some ⟨settings.maxColumn, .signed highBits, ((a, b) :: pairs).map Prod.snd⟩ := by
    simp [Frame.column?, pairFrame, hne]
  refine ⟨bounds, ⟨Nat.succ_ne_zero _, ?_, _, _, hleast, rfl, hgreatest, hread⟩, hread.keeps ha hb⟩
  refine Frame.unreadable?_eq_none (fun c hc => ?_) 0
  rcases List.mem_pair.mp hc with rfl | rfl
  · exact hlowKind
  · exact hhighKind

/-! ## Main result -/

/-- **Executors agree on integers.** Let one source answer by rows of integers of the width of their columns,
    or nulls, to a connection of a database that describes the columns by codes of integers, as tuples or as
    objects, and another one by columns of these integers to an executor that gets frames. If the first pair
    is the same, then the connection has an executor, which agrees with the other one: every probe has the
    same outcome, every build the same result, and both sources are asked the same. Under the names of a
    probe, it finds bounds that keep the first pair. -/
theorem executors_agree_on_integers {database : String} {source other : Source} {direct : Executor}
    {low high : String} {lowCode highCode : Int} {lowBits highBits : Nat}
    {least greatest : ColumnDescription} {a b : Datum} {more others : List (Datum × Datum)}
    (hlow : low ≠ "") (hhigh : high ≠ "") (hne : low ≠ high)
    (hlowCode : IntegerCode database lowCode lowBits) (hhighCode : IntegerCode database highCode highBits)
    (hleast : least.Gives low lowCode) (hgreatest : greatest.Gives high highCode)
    (hmore : PairsFit lowBits highBits ((a, b) :: more))
    (hothers : PairsFit lowBits highBits ((a, b) :: others))
    (hrows : source.nextReply = .rows (some [least, greatest]) (pairRows ((a, b) :: more)) none)
    (hcolumns : other.nextReply = .columns (pairColumns low high lowBits highBits ((a, b) :: others)))
    (hdirect : GetsFrames other direct) :
    ∃ executor, Executor.ofConnection database source = .ok executor ∧ executor.Agree direct ∧
      ∀ settings base condition column, settings.minColumn = low → settings.maxColumn = high →
        ∃ bounds, (run settings executor base condition column).outcome = .ok (.bounds bounds) ∧
          Keeps a b bounds := by
  obtain ⟨hlowSome, hlowKind, driver, catalog, hdriver, hcatalog, hlowOf⟩ := hlowCode.exists_catalog
  obtain ⟨hhighSome, hhighKind, driver', catalog', hdriver', hcatalog', hhighOf⟩ := hhighCode.exists_catalog
  -- both codes are of one database, which has one catalog
  obtain rfl : driver = driver' := Option.some.inj (hdriver.symm.trans hdriver')
  obtain rfl : catalog = catalog' := Option.some.inj (hcatalog.symm.trans hcatalog')
  have hfetched : ∀ sql, (Executor.execute ⟨some driver, source⟩ sql).1 =
      .ok (pairFrame low high lowBits highBits ((a, b) :: more)) := by
    intro sql
    obtain ⟨hleastName, hleastRead⟩ := hleast.read_eq hlow hlowSome catalog
    obtain ⟨hgreatestName, hgreatestRead⟩ := hgreatest.read_eq hhigh hhighSome catalog
    rw [hlowOf] at hleastRead
    rw [hhighOf] at hgreatestRead
    have hschema := (schemaOf_pair_eq_ok_iff hleastName hgreatestName hne).mpr
      ⟨_, _, hleastRead, hgreatestRead, rfl⟩
    have hframe := ofRows_pairRows hlow hhigh hne hlowKind hhighKind hmore (List.cons_ne_nil _ _)
    have hcatalogOf : Executor.catalog? ⟨some driver, source⟩ = some catalog := hcatalog
    rw [Executor.execute, hcatalogOf]
    show Executor.fetch catalog source.nextReply = _
    rw [hrows]
    exact bind_eq_ok.mpr ⟨_, mapError_eq_ok.mpr hschema, mapError_eq_ok.mpr hframe⟩
  have hgiven : ∀ sql, (direct.execute sql).1 =
      .ok (pairFrame low high lowBits highBits ((a, b) :: others)) := by
    intro sql
    obtain ⟨hnone, rfl⟩ := hdirect.catalog?_eq_none
    rw [Executor.execute, hnone]
    show Executor.frameOf direct.source.nextReply = _
    rw [hcolumns]
    exact mapError_eq_ok.mpr (ofColumns_pairColumns hlow hhigh hne hlowKind hhighKind hothers)
  have hlike : (pairFrame low high lowBits highBits ((a, b) :: more)).IsLike
      (pairFrame low high lowBits highBits ((a, b) :: others)) :=
    .cons ⟨rfl, rfl, rfl⟩ (.cons ⟨rfl, rfl, rfl⟩ .nil)
  refine ⟨⟨some driver, source⟩, ?_, Executor.agree_of_execute hlike hfetched hgiven, ?_⟩
  · rw [Executor.ofConnection, hdriver]
  · rintro settings base condition column rfl rfl
    obtain ⟨bounds, hshows, hkeeps⟩ := exists_showsBounds hne hlowKind hhighKind hmore
    exact ⟨bounds, run_eq_bounds_iff.mpr ⟨_, hfetched _, hshows⟩, hkeeps⟩

/-- A Greenplum connection whose columns are described by an object and by a tuple, of two widths. -/
def describedBounds : Source where
  replies := [.rows (some [.named (.text "min_s") (.int 23) [], .positional [.text "max_s", .int 20, .null]])
    [[.int 1, .int 5000000000], [.null, .int 2]] none]

/-- A DuckDB connection with the same first row. -/
def framedBounds : Source where
  replies := [.columns [⟨.text "min_s", .signed 32, [.int 1]⟩,
    ⟨.text "max_s", .signed 64, [.int 5000000000]⟩]]

/-- These two connections agree. -/
theorem described_and_framed_bounds_agree :
    ∃ executor direct, Executor.ofConnection "GreenPlum" describedBounds = .ok executor ∧
      Executor.ofConnection "DuckDB" framedBounds = .ok direct ∧ executor.Agree direct := by
  have hpostgres : IsPostgres "GreenPlum" := Or.inr (by decide +kernel)
  have hfirst : IsWord (.signed 32) (.int 1) ∧ IsWord (.signed 64) (.int 5000000000) :=
    ⟨.signed (by decide), .signed (by decide)⟩
  have hmore : PairsFit 32 64 [(.int 1, .int 5000000000), (.null, .int 2)] := by
    intro pair hpair
    rcases List.mem_pair.mp hpair with rfl | rfl
    · exact hfirst
    · exact ⟨.null, .signed (by decide)⟩
  have hothers : PairsFit 32 64 [(.int 1, .int 5000000000)] := by
    intro pair hpair
    obtain rfl := List.mem_singleton.mp hpair
    exact hfirst
  have hduckdb : Executor.ofConnection "DuckDB" framedBounds = .ok ⟨some .duckdb, framedBounds⟩ := by
    rw [Executor.ofConnection, Driver.ofDatabase?_duckdb (by decide +kernel)]
  have hrows : describedBounds.nextReply = .rows
      (some [.named (.text "min_s") (.int 23) [], .positional [.text "max_s", .int 20, .null]])
      (pairRows [(.int 1, .int 5000000000), (.null, .int 2)]) none := rfl
  have hcolumns : framedBounds.nextReply =
      .columns (pairColumns "min_s" "max_s" 32 64 [(.int 1, .int 5000000000)]) := rfl
  obtain ⟨executor, hexecutor, hagree, -⟩ := executors_agree_on_integers (by decide) (by decide) (by decide)
    (.integer hpostgres) (.bigint hpostgres) (.named []) (.positional [.null]) hmore hothers hrows hcolumns
    (.duckdb (by decide +kernel) hduckdb)
  exact ⟨executor, _, hexecutor, hduckdb, hagree⟩

end SplitExport
