import SplitExport.Log.Event
import SplitExport.Proofs.Letters
import SplitExport.Proofs.SpecChecks

/-!
# Table names — which names are taken, and where they are shown

A name of a table is written into the base query and into the front of every message as it is given.

* `IsPlainName` says what a name looks like: a letter or an underscore, and then letters, digits and
  underscores. Such a name holds no blank (`IsPlainName.isBlank`).
* What is taken for a name is a plain name, or one with a line feed behind it (`isTableName_iff`): a line
  feed that ends a text is dropped before its characters are looked at.
* Nothing else refuses a specification for the name of its table
  (`ExportSpec.create_eq_tableName_iff`), and what is taken is shown, the line feed included.
-/

namespace SplitExport

open SplitExport.Log SplitExport.Results SplitExport.Sql SplitExport.Text

/-! ## Plain names -/

namespace Sql

/-- The ASCII letters and the underscore. -/
def IsNameStart (c : Char) : Prop :=
  ('a' ≤ c ∧ c ≤ 'z') ∨ ('A' ≤ c ∧ c ≤ 'Z') ∨ c = '_'

/-- One letter or underscore, and then letters, digits and underscores. -/
def IsPlainName (cs : List Char) : Prop :=
  ∃ first rest, cs = first :: rest ∧ IsNameStart first ∧
    ∀ c ∈ rest, IsNameStart c ∨ ('0' ≤ c ∧ c ≤ '9')

variable {cs : List Char} {c : Char} {name : String}

/-- Names start with the characters that identifiers start with. -/
theorem startsIdentifier_iff : startsIdentifier c = true ↔ IsNameStart c := by
  simp [startsIdentifier, isAsciiLetter, IsNameStart, or_assoc]

/-- Plain names are the identifiers. -/
theorem isIdentifier_iff : isIdentifier cs = true ↔ IsPlainName cs := by
  cases cs with
  | nil => simp [isIdentifier, IsPlainName]
  | cons first rest =>
      simp only [isIdentifier, isIdentifierChar, isAsciiDigit, IsPlainName, Bool.and_eq_true, Bool.or_eq_true,
        List.all_eq_true, startsIdentifier_iff, decide_eq_true_eq, List.cons.injEq]
      constructor
      · rintro ⟨hfirst, hrest⟩
        exact ⟨first, rest, ⟨rfl, rfl⟩, hfirst, hrest⟩
      · rintro ⟨_, _, ⟨rfl, rfl⟩, hfirst, hrest⟩
        exact ⟨hfirst, hrest⟩

/-- The characters of a plain name lie between the blanks of ASCII and those above. -/
theorem IsPlainName.toNat_mem (h : IsPlainName cs) : ∀ c ∈ cs, 48 ≤ c.toNat ∧ c.toNat ≤ 122 := by
  have hcode : ∀ c d : Char, c ≤ d ↔ c.toNat ≤ d.toNat := fun _ _ => UInt32.le_iff_toNat_le
  have hstart : ∀ c : Char, IsNameStart c → 48 ≤ c.toNat ∧ c.toNat ≤ 122 := by
    rintro c (⟨hlow, hhigh⟩ | ⟨hlow, hhigh⟩ | rfl)
    · exact ⟨Nat.le_trans (by decide) ((hcode _ _).mp hlow), (hcode _ _).mp hhigh⟩
    · exact ⟨Nat.le_trans (by decide) ((hcode _ _).mp hlow), Nat.le_trans ((hcode _ _).mp hhigh) (by decide)⟩
    · decide
  obtain ⟨first, rest, rfl, hfirst, hrest⟩ := h
  intro c hc
  rcases List.mem_cons.mp hc with rfl | hmem
  · exact hstart c hfirst
  · rcases hrest c hmem with hletter | ⟨hlow, hhigh⟩
    · exact hstart c hletter
    · exact ⟨(hcode _ _).mp hlow, Nat.le_trans ((hcode _ _).mp hhigh) (by decide)⟩

/-- A plain name holds no blank. -/
theorem IsPlainName.isBlank (h : IsPlainName cs) : ∀ c ∈ cs, isBlank c = false := by
  intro c hc
  have hrange := h.toNat_mem c hc
  simp [Text.isBlank]
  omega

/-! ## Names that are taken -/

/-- A text that does not end in a line feed is looked at as it is. -/
theorem dropLineFeed_of_getLast? (h : cs.getLast? ≠ some '\n') : dropLineFeed cs = cs := by
  rw [dropLineFeed, if_neg h]

/-- A plain name does not end in a line feed. -/
theorem IsPlainName.getLast? (h : IsPlainName cs) : cs.getLast? ≠ some '\n' := by
  intro hlast
  have hblank := h.isBlank '\n' (List.mem_of_getLast? hlast)
  exact absurd hblank (by decide)

/-- What is taken for a name is a plain name, or one with a line feed behind it. -/
theorem isTableName_iff : isTableName name = true ↔
    ∃ word, IsPlainName word ∧ (name.toList = word ∨ name.toList = word ++ ['\n']) := by
  rw [isTableName, isIdentifier_iff]
  constructor
  · intro h
    refine ⟨_, h, ?_⟩
    by_cases hlast : name.toList.getLast? = some '\n'
    · rw [dropLineFeed, if_pos hlast]
      exact Or.inr (List.dropLast_append_getLast? _ hlast).symm
    · exact Or.inl (dropLineFeed_of_getLast? hlast).symm
  · rintro ⟨word, hword, hname | hname⟩
    · rwa [hname, dropLineFeed_of_getLast? hword.getLast?]
    · rwa [hname, dropLineFeed, if_pos List.getLast?_concat, List.dropLast_concat]

/-- Without a line feed at its end, what is taken for a name is a plain name. -/
theorem isTableName_iff_isPlainName (h : name.toList.getLast? ≠ some '\n') :
    isTableName name = true ↔ IsPlainName name.toList := by
  rw [isTableName, isIdentifier_iff, dropLineFeed_of_getLast? h]

/-- The base query of a table is made for the names that are taken, and holds the name as it is. -/
theorem ofTable_eq_ok_iff {base : BaseQuery} : BaseQuery.ofTable name = .ok base ↔
    isTableName name = true ∧ base.text = "SELECT * FROM " ++ name ++ " WHERE 1=1" := by
  obtain ⟨text⟩ := base
  rw [BaseQuery.ofTable, ite_eq_ok, BaseQuery.mk.injEq]

/-- A name that may be missing names a table if and only if a base query is made of it. -/
theorem namesTable_iff {name : Option String} :
    namesTable name = true ↔ ∃ base, BaseQuery.ofNamed name = .ok base := by
  cases name with
  | none => exact ⟨fun h => (nomatch h), fun ⟨_, h⟩ => nomatch h⟩
  | some name =>
      constructor
      · intro h
        exact ⟨_, ofTable_eq_ok_iff.mpr ⟨h, rfl⟩⟩
      · rintro ⟨base, h⟩
        exact (ofTable_eq_ok_iff.mp h).1

end Sql

/-! ## Specifications -/

namespace ExportSpec

variable {settings : Settings} {a : SpecArguments} {name : String} {spec : ExportSpec}

/-- A query that is refused is not refused for the name of a table. -/
theorem failsWith_ofRaw (asName source : String) :
    FailsWith (fun cause : QueryError => cause ≠ .tableName) (BaseQuery.ofRaw asName source) := by
  unfold BaseQuery.ofRaw
  split
  · exact failsWith_ok _
  · exact failsWith_error QueryError.noConfusion

/-- Behind the base query nothing is refused for the name of a table. -/
theorem failsWith_fields (partition period : Datum) (base : BaseQuery) :
    FailsWith (fun cause : SpecError => cause ≠ .query .tableName)
      (ofFields settings a.table base a.limit a.partitionColumn partition period a.splitColumn
        a.parallelism) := by
  rw [ofFields_eq]
  refine failsWith_bind (failsWith_mapError fun _ _ => SpecError.noConfusion) fun plan _ => ?_
  refine failsWith_bind ?_ fun _ _ => ?_
  · unfold checkLimit
    split
    · split
      · exact failsWith_error SpecError.noConfusion
      · exact failsWith_ok ()
    · exact failsWith_ok ()
  · refine failsWith_bind (failsWith_mapError fun _ _ => SpecError.noConfusion) fun offset _ => ?_
    refine failsWith_bind ?_ fun start _ => failsWith_ok _
    unfold startOf
    split
    · exact failsWith_ok none
    · exact failsWith_mapError fun _ _ => SpecError.noConfusion

/-- **A specification is refused for the name of its table** if and only if the name is not taken. -/
theorem create_eq_tableName_iff (htable : a.table = some name) :
    create settings a = .error (.query .tableName) ↔ isTableName name = false := by
  constructor
  · intro hrefused
    by_contra hname
    rw [Bool.not_eq_false] at hname
    have hbase : FailsWith (fun cause : SpecError => cause ≠ .query .tableName)
        (baseOf settings a.table a.rawSql) := by
      have hpasses : SpecCheck.table.Passes settings a := ⟨name, htable, hname⟩
      obtain ⟨whole, hwhole⟩ := baseOf_of_passes hpasses
      rw [hwhole]
      split
      · refine failsWith_mapError fun cause hcause hname => ?_
        exact failsWith_ofRaw _ _ cause hcause (SpecError.query.inj hname)
      · exact failsWith_ok whole
    exact failsWith_bind hbase (fun base _ => failsWith_fields _ _ base) _ hrefused rfl
  · intro hname
    exact create_eq_error_of_complaint (.tableName htable hname) fun earlier hearlier => nomatch hearlier

/-- A specification of a table keeps its name, which is taken; its base query, if none is given as text, is
    the one of the table. -/
theorem table_of_create (htable : a.table = some name) (h : create settings a = .ok spec) :
    isTableName name = true ∧ spec.table = some name ∧
      (a.rawSql = none → BaseQuery.ofTable name = .ok spec.base) := by
  obtain ⟨base, hbase, hfields⟩ := bind_eq_ok.mp h
  obtain ⟨plan, offset, start, -, -, -, -, rfl⟩ := ofFields_eq_ok hfields
  unfold baseOf at hbase
  rw [htable] at hbase
  dsimp only at hbase
  obtain ⟨whole, hwhole, hbase⟩ := bind_eq_ok.mp hbase
  rw [mapError_eq_ok] at hwhole
  refine ⟨(ofTable_eq_ok_iff.mp hwhole).1, htable, fun hnone => ?_⟩
  rw [hnone] at hbase
  rw [hwhole, Except.ok.inj hbase]

end ExportSpec

/-! ## Messages -/

/-- The front of a message begins with the table that it is about. -/
theorem Log.headText_of_table {context : Context} {name : String} (h : context.table = some name)
    (memory : Option Nat) : ∃ rest, headText (some context) memory = "[TABLE:" ++ name ++ "]" ++ rest := by
  obtain ⟨more, hmore⟩ : ∃ more, context.parts = ("TABLE:" ++ name) :: more := by
    rw [Context.parts, h]
    exact ⟨_, rfl⟩
  have hparts : ((some context).map Context.parts).getD [] = ("TABLE:" ++ name) :: more := hmore
  refine ⟨" [" ++ "] [".intercalate (more ++ ["MEM:" ++ memoryText memory]) ++ "]", ?_⟩
  rw [headText, hparts, List.cons_append, String.intercalate_cons_of_ne_nil (by simp)]
  rw [show "[TABLE:" = "[" ++ "TABLE:" from rfl, show "] [" = "]" ++ " [" from rfl]
  simp only [String.append_assoc]

/-! ## Main result -/

/-- **The names of tables.** A text is taken for the name of a table if and only if it is a plain name or
    one with a line feed behind it, thus exactly if it is a plain name, as far as it does not end in a line
    feed. The base query of a table is made, and a specification is not refused for its table, if and only
    if the name is taken. A name that is taken stands as it is in the base query and in the front of the
    messages on its export, and no blanks get there with a plain name. -/
theorem table_names_are_identifiers (name : String) :
    (isTableName name = true ↔
      ∃ word, IsPlainName word ∧ (name.toList = word ∨ name.toList = word ++ ['\n'])) ∧
    (name.toList.getLast? ≠ some '\n' → (isTableName name = true ↔ IsPlainName name.toList)) ∧
    (∀ word, IsPlainName word → ∀ c ∈ word, isBlank c = false) ∧
    (∀ base, BaseQuery.ofTable name = .ok base ↔
      isTableName name = true ∧ base.text = "SELECT * FROM " ++ name ++ " WHERE 1=1") ∧
    ∀ (settings : Settings) (a : SpecArguments), a.table = some name →
      (ExportSpec.create settings a ≠ .error (.query .tableName) ↔ isTableName name = true) ∧
      ∀ spec, ExportSpec.create settings a = .ok spec →
        (a.rawSql = none → spec.base.text = "SELECT * FROM " ++ name ++ " WHERE 1=1") ∧
        ∀ (s : State) (memory : Option Nat), ∃ rest,
          headText (s.after (.started spec.table spec.splitColumn spec.parallelism)).context memory =
            "[TABLE:" ++ name ++ "]" ++ rest := by
  refine ⟨isTableName_iff, isTableName_iff_isPlainName, fun _ => IsPlainName.isBlank,
    fun _ => ofTable_eq_ok_iff, fun settings a htable => ⟨?_, fun spec hspec => ?_⟩⟩
  · rw [Ne, ExportSpec.create_eq_tableName_iff htable, Bool.not_eq_false]
  · obtain ⟨-, hname, hbase⟩ := ExportSpec.table_of_create htable hspec
    exact ⟨fun hnone => (ofTable_eq_ok_iff.mp (hbase hnone)).2, fun s memory => headText_of_table hname memory⟩

/-- **A line feed behind a name is taken**, and gets into the base query. -/
theorem line_feed_gets_into_query :
    isTableName "users\n" = true ∧ ¬ IsPlainName "users\n".toList ∧
      BaseQuery.ofTable "users\n" = .ok ⟨"SELECT * FROM users\n WHERE 1=1"⟩ := by
  refine ⟨by decide, fun hplain => ?_, by decide +kernel⟩
  exact hplain.getLast? (by decide)

end SplitExport
