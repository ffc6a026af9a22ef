import SplitExport.Proofs.BuildStages
import SplitExport.Proofs.OffsetTexts
import SplitExport.Proofs.Specifying
import SplitExport.Proofs.Trimming

/-!
# Normal forms — a specification that was made is made again from its own fields

Making a specification brings its period and its partition to normal forms.

* A period is brought to the text of an offset, either its own text without blanks or what its ISO form
  stands for (`OffsetOf`). With the units that nothing changes this is a row of components, and such a row
  is its own normal form.
* A date is its own normal form, and the other fields are only checked.

So the fields of a specification pass the checks that they came from, unchanged.
-/

namespace SplitExport

open SplitExport.Number SplitExport.Partition SplitExport.Results SplitExport.Sql SplitExport.Text

namespace Partition

/-! ## Stages of a period -/

/-- The offset that the text of a period stands for: its own text, unless it is an ISO period. -/
inductive OffsetOf (body : List Char) : String → Prop where
  | plain : readIso? body = none → OffsetOf body (String.ofList body)
  | iso {components : List (List Char × String)} {offset : String} : readIso? body = some components →
      offsetOfIso components = .ok offset → OffsetOf body offset

/-- Brings the text of a period to an offset. -/
def offsetOfBody (body : List Char) : Except PeriodError String :=
  match readIso? body with
  | some components => (offsetOfIso components).mapError .unreadable
  | none => .ok (String.ofList body)

/-- Checks that a pattern fits an offset, which adds something. -/
def checkOffset (pattern : Pattern) (offset : String) : Except PeriodError String :=
  if !pattern.fitsFront offset.toList then .error (.invalid (.text offset))
  else do
    if ← (allZero (digitRuns offset.toList)).mapError .unreadable then .error (.notPositive offset)
    else return offset

/-- A text that is not empty is brought to an offset, and this is checked. -/
theorem normalizePeriod_eq {units : Datum} {pattern : Pattern} (hunits : offsetPattern units = .ok pattern)
    {source : String} (hsource : source.isEmpty = false) :
    normalizePeriod units (.text source) = offsetOfBody (trim source.toList) >>= checkOffset pattern := by
  rw [normalizePeriod, offsetOfBody]
  dsimp only
  rw [hunits, hsource]
  cases readIso? (trim source.toList) with
  | some components => rfl
  | none => rfl

theorem offsetOfBody_eq_ok_iff {body : List Char} {offset : String} :
    offsetOfBody body = .ok offset ↔ OffsetOf body offset := by
  rw [offsetOfBody]
  constructor
  · intro h
    split at h
    · rename_i components hiso
      exact .iso hiso (mapError_eq_ok.mp h)
    · rename_i hiso
      obtain rfl := Except.ok.inj h
      exact .plain hiso
  · intro h
    cases h with
    | plain hiso => rw [hiso]
    | iso hiso hoffset =>
        rw [hiso]
        exact mapError_eq_ok.mpr hoffset

theorem checkOffset_eq_ok_iff {pattern : Pattern} {text offset : String} :
    checkOffset pattern text = .ok offset ↔
      text = offset ∧ pattern.fitsFront offset.toList = true ∧
        allZero (digitRuns offset.toList) = .ok false := by
  rw [checkOffset]
  cases hfits : pattern.fitsFront text.toList with
  | false =>
      constructor
      · exact fun h => nomatch h
      · rintro ⟨rfl, hfits', -⟩
        rw [hfits] at hfits'
        exact nomatch hfits'
  | true =>
      show ((allZero (digitRuns text.toList)).mapError PeriodError.unreadable >>= fun isZero =>
        if isZero then .error (.notPositive text) else return text) = .ok offset ↔ _
      rw [bind_eq_ok]
      constructor
      · rintro ⟨isZero, hzero, h⟩
        cases isZero with
        | true => exact nomatch h
        | false =>
            obtain rfl := Except.ok.inj h
            exact ⟨rfl, hfits, mapError_eq_ok.mp hzero⟩
      · rintro ⟨rfl, -, hzero⟩
        exact ⟨false, mapError_eq_ok.mpr hzero, rfl⟩

/-- A text is brought to the offset that it stands for, if the pattern of the units fits it and it adds
    something. -/
theorem normalizePeriod_eq_ok_iff {units : Datum} {pattern : Pattern}
    (hunits : offsetPattern units = .ok pattern) {source offset : String} :
    normalizePeriod units (.text source) = .ok offset ↔
      source.isEmpty = false ∧ OffsetOf (trim source.toList) offset ∧
        pattern.fitsFront offset.toList = true ∧ allZero (digitRuns offset.toList) = .ok false := by
  cases hsource : source.isEmpty with
  | true =>
      have hrefused : normalizePeriod units (.text source) = .error (.invalid (.text source)) := by
        rw [normalizePeriod, hsource]
        rfl
      rw [hrefused]
      exact ⟨fun h => (nomatch h), fun h => nomatch h.1⟩
  | false =>
      rw [normalizePeriod_eq hunits hsource, bind_eq_ok]
      constructor
      · rintro ⟨text, htext, h⟩
        obtain ⟨rfl, hfits, hzero⟩ := checkOffset_eq_ok_iff.mp h
        exact ⟨rfl, offsetOfBody_eq_ok_iff.mp htext, hfits, hzero⟩
      · rintro ⟨-, hoffset, hfits, hzero⟩
        exact ⟨offset, offsetOfBody_eq_ok_iff.mpr hoffset, checkOffset_eq_ok_iff.mpr ⟨rfl, hfits, hzero⟩⟩

/-- Only texts are periods. -/
theorem exists_text_of_normalizePeriod {units period : Datum} {offset : String}
    (h : normalizePeriod units period = .ok offset) : ∃ source, period = .text source := by
  cases period with
  | text source => exact ⟨source, rfl⟩
  | _ => exact nomatch h

/-! ## Rows of components -/

/-- A row of components is no ISO period, since it starts with a digit. -/
theorem readIso?_offsetText (first : Component) (rest : List Component) :
    readIso? (offsetText (first :: rest)) = none := by
  have hstart : ∀ c : Char, isDigit c = true → c.toUpper ≠ 'P' :=
    fun c => forall_digit (P := fun c => c.toUpper ≠ 'P') (by decide +kernel)
  obtain ⟨c, more, hamount, htext⟩ := first.exists_amount_eq_cons
  have hdigit : isDigit c = true := by
    refine first.isDigit_of_mem c ?_
    rw [hamount]
    exact List.mem_cons_self
  rw [offsetText, List.flatMap_cons, htext, readIso?, if_neg (hstart c hdigit)]

/-- The amount that is taken off a text is digits, and there are some. -/
theorem digits_of_takeComponent? {letter : Char} {cs amount rest : List Char}
    (h : takeComponent? letter cs = some (amount, rest)) :
    amount ≠ [] ∧ ∀ c ∈ amount, isDigit c = true := by
  rw [takeComponent?] at h
  split at h
  · rename_i amount' first more c rest' htake hdrop
    split at h
    · obtain ⟨rfl, -⟩ := Prod.mk.inj (Option.some.inj h)
      refine ⟨List.cons_ne_nil _ _, fun c hc => ?_⟩
      rw [← htake] at hc
      exact List.mem_takeWhile_imp hc
    · exact nomatch h
  · exact nomatch h

/-- A component of an ISO period is digits with one of the units of its order. -/
theorem mem_readComponents? {order : List (Char × String)} {cs : List Char}
    {components : List (List Char × String)} (h : readComponents? order cs = some components) :
    ∀ p ∈ components, p.1 ≠ [] ∧ (∀ c ∈ p.1, isDigit c = true) ∧ p.2 ∈ order.map (·.2) := by
  induction order generalizing cs components with
  | nil =>
      cases cs with
      | nil =>
          obtain rfl := Option.some.inj h
          exact fun p hp => nomatch hp
      | cons c cs => exact nomatch h
  | cons entry more ih =>
      obtain ⟨letter, unit⟩ := entry
      rw [readComponents?] at h
      split at h
      · rename_i amount rest htake
        obtain ⟨others, hothers, rfl⟩ := Option.map_eq_some_iff.mp h
        intro p hp
        rcases List.mem_cons.mp hp with rfl | hmem
        · obtain ⟨hne, hdigits⟩ := digits_of_takeComponent? htake
          exact ⟨hne, hdigits, List.mem_cons_self⟩
        · obtain ⟨hne, hdigits, hunit⟩ := ih hothers p hmem
          exact ⟨hne, hdigits, List.mem_cons_of_mem _ hunit⟩
      · intro p hp
        obtain ⟨hne, hdigits, hunit⟩ := ih h p hp
        exact ⟨hne, hdigits, List.mem_cons_of_mem _ hunit⟩

/-- The units of ISO periods are units of periods. -/
theorem exists_unit_of_mem_isoComponents {unit : String} (h : unit ∈ isoComponents.map (·.2)) :
    ∃ u : PeriodUnit, unit.toList = u.text := by
  simp only [isoComponents, List.map_cons, List.map_nil, List.mem_cons, List.not_mem_nil, or_false] at h
  rcases h with rfl | rfl | rfl | rfl
  · exact ⟨.year, rfl⟩
  · exact ⟨.month, rfl⟩
  · exact ⟨.week, rfl⟩
  · exact ⟨.day, rfl⟩

/-- The components of an ISO period: there are some, each with digits and a unit. -/
theorem mem_readIso? {body : List Char} {components : List (List Char × String)}
    (h : readIso? body = some components) :
    components ≠ [] ∧ ∀ p ∈ components, p.1 ≠ [] ∧ (∀ c ∈ p.1, isDigit c = true) ∧
      ∃ u : PeriodUnit, p.2.toList = u.text := by
  cases body with
  | nil => exact nomatch h
  | cons c cs =>
      rw [readIso?] at h
      split at h
      · obtain ⟨hread, hsome⟩ := Option.filter_eq_some_iff.mp h
        refine ⟨fun hnone => ?_, fun p hp => ?_⟩
        · rw [hnone] at hsome
          exact nomatch hsome
        · obtain ⟨hne, hdigits, hunit⟩ := mem_readComponents? hread p hp
          exact ⟨hne, hdigits, exists_unit_of_mem_isoComponents hunit⟩
      · exact nomatch h

/-- The offset of an ISO period is a row of as many components. -/
theorem exists_row_of_offsetOfIso {components : List (List Char × String)} {offset : String}
    (hcomponents : ∀ p ∈ components, p.1 ≠ [] ∧ (∀ c ∈ p.1, isDigit c = true) ∧
      ∃ u : PeriodUnit, p.2.toList = u.text)
    (hoffset : offsetOfIso components = .ok offset) :
    ∃ row : List Component, row.length = components.length ∧ offset.toList = offsetText row := by
  obtain ⟨parts, hparts, hjoin⟩ := bind_eq_ok.mp hoffset
  clear hoffset
  obtain rfl := Except.ok.inj hjoin
  rw [String.toList_join]
  induction components generalizing parts with
  | nil =>
      obtain rfl := Except.ok.inj hparts
      exact ⟨[], rfl, rfl⟩
  | cons p components ih =>
      rw [List.mapM_cons] at hparts
      obtain ⟨part, hpart, hparts⟩ := bind_eq_ok.mp hparts
      obtain ⟨others, hothers, hparts⟩ := bind_eq_ok.mp hparts
      obtain rfl := Except.ok.inj hparts
      obtain ⟨value, hvalue, hpart⟩ := bind_eq_ok.mp hpart
      obtain rfl := Except.ok.inj hpart
      obtain ⟨hne, hdigits, u, hu⟩ := hcomponents p List.mem_cons_self
      rw [readInteger_of_digits hne hdigits] at hvalue
      split at hvalue
      · exact nomatch hvalue
      · obtain rfl := Except.ok.inj hvalue
        obtain ⟨row, hlength, hrow⟩ :=
          ih (fun q hq => hcomponents q (List.mem_cons_of_mem _ hq)) others hothers rfl
        -- the amount of the component is written anew, as the number that it was read as
        obtain ⟨hsome, hwritten⟩ := toDigits_digits (digitsValue p.1)
        refine ⟨⟨_, u, hsome, hwritten⟩ :: row, congrArg Nat.succ hlength, ?_⟩
        have hpart : (intText (digitsValue p.1) ++ p.2).toList =
            Nat.toDigits 10 (digitsValue p.1) ++ u.text := by
          rw [String.toList_append, hu]
          show (String.ofList (Nat.toDigits 10 (digitsValue p.1))).toList ++ u.text = _
          rw [String.toList_ofList]
        rw [List.flatMap_cons, hrow, hpart]
        rfl

/-! ## Normal forms of periods -/

variable {period : Datum} {offset : String}

/-- The normal form of a period is a row of components, not all of them zero. -/
theorem exists_row_of_normalizePeriod
    (h : normalizePeriod ({} : Settings).periodUnits period = .ok offset) :
    (∃ first rest, offset.toList = offsetText (first :: rest)) ∧
      allZero (digitRuns offset.toList) = .ok false := by
  obtain ⟨source, rfl⟩ := exists_text_of_normalizePeriod h
  obtain ⟨-, hoffset, hfits, hzero⟩ := (normalizePeriod_eq_ok_iff offsetPattern_default).mp h
  refine ⟨?_, hzero⟩
  cases hoffset with
  | iso hiso hoffset =>
      obtain ⟨hne, hcomponents⟩ := mem_readIso? hiso
      obtain ⟨row, hlength, hrow⟩ := exists_row_of_offsetOfIso hcomponents hoffset
      cases row with
      | nil => exact absurd (List.length_eq_zero_iff.mp hlength.symm) hne
      | cons first rest => exact ⟨first, rest, hrow⟩
  | plain =>
      rw [String.toList_ofList] at hfits ⊢
      obtain ⟨first, rest, hrow | hfeed⟩ := fitsFront_periodPattern_iff.mp hfits
      · exact ⟨first, rest, hrow⟩
      · -- a line feed behind the row would have been trimmed
        have hlast : (trim source.toList).getLast? = some '\n' := by rw [hfeed, List.getLast?_concat]
        exact absurd (isBlank_getLast?_trim hlast) (by decide)

/-- A row of components that are not all zero is its own normal form. -/
theorem normalizePeriod_of_row {first : Component} {rest : List Component}
    (hrow : offset.toList = offsetText (first :: rest))
    (hzero : allZero (digitRuns offset.toList) = .ok false) :
    normalizePeriod ({} : Settings).periodUnits (.text offset) = .ok offset := by
  have htrim : trim offset.toList = offset.toList := by
    rw [hrow]
    exact trim_eq_self fun c hc => isBlank_of_mem_offsetText hc
  have hsome : offset.isEmpty = false := by
    refine String.isEmpty_eq_false_iff.mpr fun hempty => ?_
    rw [hempty, offsetText, List.flatMap_cons, Component.text] at hrow
    exact first.amount_ne_nil (List.append_eq_nil_iff.mp (List.append_eq_nil_iff.mp hrow.symm).1).1
  refine (normalizePeriod_eq_ok_iff offsetPattern_default).mpr ⟨hsome, ?_, ?_, hzero⟩
  · have hplain : OffsetOf offset.toList (String.ofList offset.toList) :=
      .plain (by rw [hrow]; exact readIso?_offsetText first rest)
    rw [htrim]
    rw [String.ofList_toList] at hplain
    exact hplain
  · exact fitsFront_periodPattern_iff.mpr ⟨first, rest, Or.inl hrow⟩

/-- **Normal forms are kept.** -/
theorem normalizePeriod_normal (h : normalizePeriod ({} : Settings).periodUnits period = .ok offset) :
    normalizePeriod ({} : Settings).periodUnits (.text offset) = .ok offset := by
  obtain ⟨⟨first, rest, hrow⟩, hzero⟩ := exists_row_of_normalizePeriod h
  exact normalizePeriod_of_row hrow hzero

end Partition

/-! ## Specifications -/

namespace ExportSpec

variable {settings : Settings} {spec : ExportSpec}

/-- A specification that was made: from arguments, or from its fields. -/
inductive IsMade (settings : Settings) : ExportSpec → Prop where
  | created {arguments : SpecArguments} {spec : ExportSpec} : create settings arguments = .ok spec →
      IsMade settings spec
  | ofFields {table : Option String} {base : BaseQuery} {limit : Option Int}
      {partitionColumn splitColumn : Option String} {partition period : Datum} {parallelism : Option Int}
      {spec : ExportSpec} : ofFields settings table base limit partitionColumn partition period splitColumn
        parallelism = .ok spec → IsMade settings spec

/-- Whatever a specification is made from, it has passed the checks of its fields. -/
theorem IsMade.exists_fields (h : IsMade settings spec) :
    ∃ partition period, ExportSpec.ofFields settings spec.table spec.base spec.limit spec.partitionColumn
      partition period spec.splitColumn spec.parallelism = .ok spec := by
  -- the period and the partition are the only fields that are not kept as they were given
  cases h with
  | created hmade =>
      obtain ⟨base, -, hmade⟩ := bind_eq_ok.mp hmade
      obtain ⟨plan, offset, start, -, -, -, -, rfl⟩ := ofFields_eq_ok hmade
      exact ⟨_, _, hmade⟩
  | ofFields hmade =>
      obtain ⟨plan, offset, start, -, -, -, -, rfl⟩ := ofFields_eq_ok hmade
      exact ⟨_, _, hmade⟩

/-- The fields of a specification are in their normal forms. -/
structure IsNormal (settings : Settings) (s : ExportSpec) : Prop where
  paired : s.splitColumn.isSome = s.parallelism.isSome
  parallelism_pos : ∀ p, s.parallelism = some p → 0 < p
  limit_nonneg : ∀ n, s.limit = some n → 0 ≤ n
  period_normal : normalizePeriod settings.periodUnits (.text s.period) = .ok s.period

/-- The partition of a specification as a value of its own, null for none. -/
def partitionDatum (s : ExportSpec) : Datum :=
  s.partition.elim .null .date

/-- Makes a specification from the fields of one. -/
def remake (settings : Settings) (s : ExportSpec) : Except SpecError ExportSpec :=
  ofFields settings s.table s.base s.limit s.partitionColumn s.partitionDatum (.text s.period)
    s.splitColumn s.parallelism

/-- A limit that passes is not negative. -/
theorem nonneg_of_checkLimit {limit : Option Int} (h : checkLimit limit = .ok ()) {n : Int}
    (hn : limit = some n) : 0 ≤ n := by
  subst hn
  by_cases hneg : n < 0
  · rw [checkLimit, if_pos hneg] at h
    exact nomatch h
  · exact Int.not_lt.mp hneg

/-- A date is the first day that it names. -/
theorem startOf_partitionDatum (s : ExportSpec) : startOf s.partitionDatum = .ok s.partition := by
  rw [partitionDatum]
  cases s.partition with
  | none => rfl
  | some d => rfl

/-- What was made is normal. -/
theorem IsMade.isNormal (hunits : settings.periodUnits = ({} : Settings).periodUnits)
    (h : IsMade settings spec) : spec.IsNormal settings := by
  obtain ⟨partition, period, hmade⟩ := h.exists_fields
  obtain ⟨plan, offset, start, hplan, hlimit, hperiod, -, hspec⟩ := ofFields_eq_ok hmade
  have hoffset : spec.period = offset := by rw [hspec]
  have haccepted : ¬(spec.splitColumn.isSome ≠ spec.parallelism.isSome ∨
      ∃ p, spec.parallelism = some p ∧ p ≤ 0) := by
    intro hmisfit
    obtain ⟨cause, hrefused⟩ := splitPlan_eq_error_iff.mpr hmisfit
    rw [hplan] at hrefused
    exact nomatch hrefused
  refine ⟨?_, ?_, fun n hn => nonneg_of_checkLimit hlimit hn, ?_⟩
  · by_contra hne
    exact haccepted (Or.inl hne)
  · intro p hp
    by_contra hneg
    exact haccepted (Or.inr ⟨p, hp, Int.not_lt.mp hneg⟩)
  · rw [hoffset, hunits]
    rw [hunits] at hperiod
    exact normalizePeriod_normal hperiod

/-- A specification that was made is made again from its own fields. -/
theorem IsMade.remake_eq (hunits : settings.periodUnits = ({} : Settings).periodUnits)
    (h : IsMade settings spec) : spec.remake settings = .ok spec := by
  obtain ⟨partition, period, hmade⟩ := h.exists_fields
  obtain ⟨plan, offset, start, hplan, hlimit, -, -, -⟩ := ofFields_eq_ok hmade
  rw [remake, ofFields_eq, hplan, hlimit, startOf_partitionDatum, (h.isNormal hunits).period_normal]
  rfl

end ExportSpec

/-! ## Main result -/

/-- **A specification that was made is normal, and is made again from its own fields.** With the units of
    an installation that changes nothing, whatever it was made from: its split arguments stand together,
    its parallelism is positive, its limit not negative, its period its own normal form. Making it again
    from its eight fields gives an equal one, which has the same condition and builds the same queries. -/
theorem made_spec_is_made_again {settings : Settings} {spec : ExportSpec}
    (hunits : settings.periodUnits = ({} : Settings).periodUnits) (hmade : spec.IsMade settings) :
    spec.IsNormal settings ∧
      ∃ again, spec.remake settings = .ok again ∧ again = spec ∧
        again.partitionCondition = spec.partitionCondition ∧
        ∀ executor, (again.build settings executor).result = (spec.build settings executor).result :=
  ⟨hmade.isNormal hunits, spec, hmade.remake_eq hunits, rfl, rfl, fun _ => rfl⟩

/-- Arguments with an ISO period in small letters and a moment between blanks. -/
def monthlyArguments : SpecArguments where
  table := some "users"
  limit := some 10
  partitionColumn := some "created"
  partition := .text " 2027-01-31T10:30 "
  period := .text "\tp1y02m "
  splitColumn := some "id"
  parallelism := some 3

/-- What these arguments make. -/
def monthlyExport : ExportSpec where
  table := some "users"
  base := ⟨"SELECT * FROM users WHERE 1=1"⟩
  limit := some 10
  partitionColumn := some "created"
  partition := some ⟨2027, 1, 31, by decide⟩
  period := "1y2mo"
  splitColumn := some "id"
  parallelism := some 3

/-- That export is made again from its own fields. -/
theorem monthlyExport_is_made_again :
    ExportSpec.create {} monthlyArguments = .ok monthlyExport ∧ monthlyExport.IsNormal {} ∧
      monthlyExport.remake {} = .ok monthlyExport := by
  have hmade : ExportSpec.create {} monthlyArguments = .ok monthlyExport :=
    eq_ok_of_toOption (by decide +kernel)
  obtain ⟨hnormal, again, hagain, rfl, -⟩ := made_spec_is_made_again rfl (.created hmade)
  exact ⟨hmade, hnormal, hagain⟩

end SplitExport
