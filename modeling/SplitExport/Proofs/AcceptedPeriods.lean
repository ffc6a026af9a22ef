import SplitExport.Partition.Window
import SplitExport.Proofs.NormalForms
import SplitExport.Proofs.OffsetSums

/-!
# Accepted periods — what a period may look like

* A period that is accepted stands for a row of components, one of them not zero, and every such row is
  accepted with blanks around it and with amounts that are not too long (`normalizePeriod_between`).
* The calendar reads a row if its amounts are plain, written in digits of ASCII
  (`offset_of_nextStart_iff`); a row with a digit of another script fails whatever date it is added to.
* An ISO period is written anew in plain amounts. Every other period keeps the digits it was given, so
  that it is read if and only if these are plain (`accepted_periods_are_rows`).
-/

namespace SplitExport.Partition

open SplitExport.Calendar SplitExport.Number SplitExport.Results SplitExport.Text

variable {components : List Component}

/-! ## Rows that are accepted -/

/-- Amounts that are not too long and not all zero are found not to be all zero. -/
theorem allZero_of_value_ne_zero (hshort : ∀ c ∈ components, c.amount.length ≤ digitLimit)
    (hvalue : ∃ c ∈ components, c.value ≠ 0) :
    allZero (components.map Component.amount) = .ok false := by
  induction components with
  | nil =>
      obtain ⟨c, hmem, -⟩ := hvalue
      exact nomatch hmem
  | cons first components ih =>
      rw [List.map_cons, allZero, readInteger_of_digits first.amount_ne_nil first.isDigit_of_mem,
        if_neg (Nat.not_lt.mpr (hshort first List.mem_cons_self))]
      show (if (digitsValue first.amount : Int) = 0 then allZero (components.map Component.amount)
        else .ok false) = .ok false
      -- a first amount that is zero leaves the answer to the others
      split
      · rename_i hzero
        obtain ⟨c, hmem, hc⟩ := hvalue
        rcases List.mem_cons.mp hmem with rfl | hmem
        · exact absurd (Int.natCast_eq_zero.mp hzero) hc
        · exact ih (fun d hd => hshort d (List.mem_cons_of_mem _ hd)) ⟨c, hmem, hc⟩
      · rfl

/-- **A row with blanks around it is accepted, and only the blanks are lost**, if its amounts are not too
    long and not all zero. -/
theorem normalizePeriod_between {source : String} {before after : List Char} (hsome : components ≠ [])
    (hbefore : ∀ c ∈ before, isBlank c = true) (hafter : ∀ c ∈ after, isBlank c = true)
    (hshort : ∀ c ∈ components, c.amount.length ≤ digitLimit) (hvalue : ∃ c ∈ components, c.value ≠ 0)
    (hsource : source.toList = before ++ offsetText components ++ after) :
    normalizePeriod ({} : Settings).periodUnits (.text source) =
      .ok (String.ofList (offsetText components)) := by
  obtain ⟨first, rest, rfl⟩ := List.exists_cons_of_ne_nil hsome
  have htrim : trim source.toList = offsetText (first :: rest) := by
    rw [hsource]
    exact trim_between hbefore (fun c hc => isBlank_of_mem_offsetText hc) hafter
  have hnonempty : source.isEmpty = false := by
    refine String.isEmpty_eq_false_iff.mpr fun hempty => ?_
    obtain ⟨a, as, -, htext⟩ := first.exists_amount_eq_cons
    have hnone : trim "".toList = [] := rfl
    rw [hempty, hnone, offsetText, List.flatMap_cons, htext] at htrim
    exact List.cons_ne_nil _ _ htrim.symm
  refine (normalizePeriod_eq_ok_iff offsetPattern_default).mpr ⟨hnonempty, ?_, ?_, ?_⟩
  · rw [htrim]
    exact .plain (readIso?_offsetText first rest)
  · rw [String.toList_ofList]
    exact fitsFront_periodPattern_iff.mpr ⟨first, rest, Or.inl rfl⟩
  · rw [String.toList_ofList, digitRuns_offsetText]
    exact allZero_of_value_ne_zero hshort hvalue

/-! ## Plain digits -/

/-- The digits of a text are those of ASCII. -/
def HasPlainDigits (cs : List Char) : Prop :=
  ∀ c ∈ cs, isDigit c = true → isAsciiDigit c = true

instance (cs : List Char) : Decidable (HasPlainDigits cs) :=
  decidable_of_iff (cs.all (fun c => decide (isDigit c = true → isAsciiDigit c = true)) = true) <| by
    simp only [List.all_eq_true, decide_eq_true_eq, HasPlainDigits]

theorem hasPlainDigits_append {xs ys : List Char} :
    HasPlainDigits (xs ++ ys) ↔ HasPlainDigits xs ∧ HasPlainDigits ys :=
  List.forall_mem_append

/-- The letters of a unit have no digits at all. -/
theorem PeriodUnit.hasPlainDigits (u : PeriodUnit) : HasPlainDigits u.text := by
  intro c hc hdigit
  rw [u.isDigit_of_mem_text c hc] at hdigit
  exact nomatch hdigit

/-- A component is plain if its text has plain digits. -/
theorem Component.isPlain_iff (c : Component) : c.IsPlain ↔ HasPlainDigits c.text := by
  rw [Component.text, hasPlainDigits_append]
  constructor
  · exact fun h => ⟨fun x hx _ => h x hx, c.unit.hasPlainDigits⟩
  · exact fun h x hx => h.1 x hx (c.isDigit_of_mem x hx)

/-- The components of a row are plain if the row has plain digits. -/
theorem forall_isPlain_iff : (∀ c ∈ components, c.IsPlain) ↔ HasPlainDigits (offsetText components) := by
  simp only [Component.isPlain_iff, HasPlainDigits, offsetText, List.mem_flatMap]
  constructor
  · rintro h x ⟨c, hc, hx⟩
    exact h c hc x hx
  · exact fun h c hc x hx => h x ⟨c, hc, hx⟩

/-- Trimming loses no digits. -/
theorem hasPlainDigits_trim {cs : List Char} : HasPlainDigits (trim cs) ↔ HasPlainDigits cs := by
  constructor
  · exact fun h c hc hdigit => h c ((mem_trim_iff (isBlank_of_isDigit hdigit)).mpr hc) hdigit
  · exact fun h c hc hdigit => h c ((mem_trim_iff (isBlank_of_isDigit hdigit)).mp hc) hdigit

/-- Integers are written in plain digits. -/
theorem hasPlainDigits_intText (i : Int) : HasPlainDigits (intText i).toList := by
  have hnat : ∀ n : Nat, HasPlainDigits (natText n).toList := by
    intro n c hc _
    rw [natText, String.toList_ofList] at hc
    exact Nat.isDigit_of_mem_toDigits (by decide) (by decide) hc
  have hsign : HasPlainDigits "-".toList := by
    have hchars : "-".toList = ['-'] := rfl
    intro c hc hdigit
    rw [hchars] at hc
    obtain rfl := List.mem_singleton.mp hc
    exact absurd hdigit (by decide)
  cases i with
  | ofNat n => exact hnat n
  | negSucc n =>
      rw [intText, String.toList_append, hasPlainDigits_append]
      exact ⟨hsign, hnat (n + 1)⟩

/-- The offset of an ISO period has plain digits. -/
theorem hasPlainDigits_offsetOfIso {parts : List (List Char × String)} {offset : String}
    (hunits : ∀ p ∈ parts, ∃ u : PeriodUnit, p.2.toList = u.text) (h : offsetOfIso parts = .ok offset) :
    HasPlainDigits offset.toList := by
  obtain ⟨texts, htexts, hjoin⟩ := bind_eq_ok.mp h
  clear h
  obtain rfl := Except.ok.inj hjoin
  rw [String.toList_join]
  induction parts generalizing texts with
  | nil =>
      obtain rfl := Except.ok.inj htexts
      exact fun c hc => nomatch hc
  | cons p parts ih =>
      obtain ⟨text, rest, htext, hrest, rfl⟩ := mapM_cons_eq_ok.mp htexts
      obtain ⟨amount, -, htext⟩ := bind_eq_ok.mp htext
      obtain rfl := Except.ok.inj htext
      obtain ⟨u, hu⟩ := hunits p List.mem_cons_self
      rw [List.flatMap_cons, hasPlainDigits_append, String.toList_append, hasPlainDigits_append, hu]
      exact ⟨⟨hasPlainDigits_intText amount, u.hasPlainDigits⟩,
        ih (fun q hq => hunits q (List.mem_cons_of_mem _ hq)) rest hrest rfl⟩

/-- The offset of a period has plain digits if the period is in the ISO form or has plain digits. -/
theorem OffsetOf.hasPlainDigits_iff {source : List Char} {offset : String}
    (h : OffsetOf (trim source) offset) :
    HasPlainDigits offset.toList ↔ (readIso? (trim source)).isSome = true ∨ HasPlainDigits source := by
  cases h with
  | plain hiso =>
      rw [String.toList_ofList, hasPlainDigits_trim, hiso]
      exact ⟨Or.inr, fun h => h.resolve_left Bool.false_ne_true⟩
  | iso hiso hoffset =>
      rw [hiso]
      refine ⟨fun _ => Or.inl rfl, fun _ => hasPlainDigits_offsetOfIso (fun p hp => ?_) hoffset⟩
      exact ((mem_readIso? hiso).2 p hp).2.2

/-! ## What the calendar reads -/

/-- Moving a date never fails for the text of an offset. -/
theorem moveBy_ne_offset (start : Date) (sums : Offset) :
    FailsWith (fun cause => ∀ reading, cause ≠ WindowError.offset reading) (moveBy start sums) := by
  have hday : ∀ (cause : DayError) (reading : OffsetError), WindowError.day cause ≠ .offset reading := by
    intro cause reading h
    cases h
  have hcalendar : ∀ (months : Int) (reading : OffsetError),
      WindowError.beyondCalendar start months ≠ .offset reading := by
    intro months reading h
    cases h
  rw [moveBy_eq]
  refine failsWith_bind ?_ fun moved _ => failsWith_mapError fun cause _ => hday cause
  split
  · rw [moveByMonths]
    split
    · exact failsWith_error (hcalendar _)
    · exact failsWith_ok _
  · exact failsWith_ok _

/-- A row of plain components moves by their sum. -/
theorem nextStart_of_plain {offset : String} (hrow : offset.toList = offsetText components)
    (hplain : ∀ c ∈ components, c.IsPlain) (start : Date) :
    nextStart start offset = moveBy start (sumOf components) := by
  rw [nextStart, readOffset_of_row hrow, readComponents_offsetText_eq_ok_iff.mpr ⟨hplain, rfl⟩]
  exact pure_bind (sumOf components) (moveBy start)

/-- A row with a digit of another script is not read, whatever date it is added to. -/
theorem nextStart_of_not_plain {offset : String} (hrow : offset.toList = offsetText components)
    (hplain : ¬ ∀ c ∈ components, c.IsPlain) :
    ∃ reading, ∀ start, nextStart start offset = .error (.offset reading) := by
  cases hread : readOffset offset with
  | ok sums =>
      rw [readOffset_of_row hrow] at hread
      exact absurd (readComponents_offsetText_eq_ok_iff.mp hread).1 hplain
  | error reading =>
      refine ⟨reading, fun start => ?_⟩
      rw [nextStart, hread]
      rfl

/-! ## Main result -/

/-- **Periods that are accepted are rows of components**, of which one is not zero. The calendar reads
    the row as the sum of its components if the period is in the ISO form or has digits of ASCII only, and
    otherwise fails whatever the start is. The other way round every row of components that are not all
    zero is accepted if its amounts are not too long, and loses just the blanks around it. Whatever is not
    accepted is a wrong value. -/
theorem accepted_periods_are_rows (source : String) :
    (∀ offset, normalizePeriod ({} : Settings).periodUnits (.text source) = .ok offset →
      ∃ components : List Component, components ≠ [] ∧ offset.toList = offsetText components ∧
        (∃ c ∈ components, c.value ≠ 0) ∧
        ((readIso? (trim source.toList)).isSome = true ∨ HasPlainDigits source.toList →
          (∀ c ∈ components, c.IsPlain) ∧ ∀ start : Date,
            nextStart start offset = moveBy start (sumOf components) ∧
              ∀ reading, nextStart start offset ≠ .error (.offset reading)) ∧
        (¬ ((readIso? (trim source.toList)).isSome = true ∨ HasPlainDigits source.toList) →
          (∃ c ∈ components, ¬ c.IsPlain) ∧
            ∃ reading, ∀ start, nextStart start offset = .error (.offset reading))) ∧
    (∀ (components : List Component) (before after : List Char), components ≠ [] →
      (∀ c ∈ before, isBlank c = true) → (∀ c ∈ after, isBlank c = true) →
      (∀ c ∈ components, c.amount.length ≤ digitLimit) → (∃ c ∈ components, c.value ≠ 0) →
      source.toList = before ++ offsetText components ++ after →
      normalizePeriod ({} : Settings).periodUnits (.text source) =
        .ok (String.ofList (offsetText components))) ∧
    ∀ cause, normalizePeriod ({} : Settings).periodUnits (.text source) = .error cause →
      cause.kind = "ValueError" := by
  refine ⟨fun offset h => ?_, fun components before after hsome hbefore hafter hshort hvalue hsource => ?_,
    failsWith_normalizePeriod offsetPattern_default⟩
  · obtain ⟨⟨first, rest, hrow⟩, hzero⟩ := exists_row_of_normalizePeriod h
    obtain ⟨-, hoffset, -, -⟩ := (normalizePeriod_eq_ok_iff offsetPattern_default).mp h
    rw [hrow, digitRuns_offsetText] at hzero
    -- whether the row is plain shows in the period that was given
    have hplain : (∀ c ∈ first :: rest, c.IsPlain) ↔
        (readIso? (trim source.toList)).isSome = true ∨ HasPlainDigits source.toList := by
      rw [forall_isPlain_iff, ← hrow]
      exact hoffset.hasPlainDigits_iff
    refine ⟨first :: rest, List.cons_ne_nil _ _, hrow, exists_value_ne_zero_of_allZero hzero, ?_, ?_⟩
    · intro hform
      have hall := hplain.mpr hform
      refine ⟨hall, fun start => ⟨nextStart_of_plain hrow hall start, fun reading hfails => ?_⟩⟩
      rw [nextStart_of_plain hrow hall] at hfails
      exact moveBy_ne_offset _ _ _ hfails reading rfl
    · intro hform
      have hother := mt hplain.mp hform
      refine ⟨?_, nextStart_of_not_plain hrow hother⟩
      push Not at hother
      exact hother
  · exact normalizePeriod_between hsome hbefore hafter hshort hvalue hsource

/-- A day, written with the one of the Arabic script. -/
def foreignDay : String := "\u0661d"

/-- **A digit of another script is accepted**, and then fails on every date. -/
theorem foreign_digit_is_accepted :
    normalizePeriod ({} : Settings).periodUnits (.text foreignDay) = .ok foreignDay ∧
      (∃ reading, ∀ start, nextStart start foreignDay = .error (.offset reading)) ∧
      ¬ ∀ source offset : String,
        normalizePeriod ({} : Settings).periodUnits (.text source) = .ok offset →
        ∃ components : List Component, offset.toList = offsetText components ∧
          ∀ c ∈ components, c.IsPlain := by
  have haccepted : normalizePeriod ({} : Settings).periodUnits (.text foreignDay) = .ok foreignDay :=
    eq_ok_of_toOption (by decide +kernel)
  have hforeign : ∀ components : List Component, foreignDay.toList = offsetText components →
      ¬ ∀ c ∈ components, c.IsPlain := by
    intro components hrow hplain
    rw [forall_isPlain_iff, ← hrow] at hplain
    exact absurd (hplain '\u0661' (by decide +kernel) (by decide +kernel)) (by decide)
  refine ⟨haccepted, ?_, fun hclaim => ?_⟩
  · obtain ⟨⟨first, rest, hrow⟩, -⟩ := exists_row_of_normalizePeriod haccepted
    exact nextStart_of_not_plain hrow (hforeign _ hrow)
  · obtain ⟨components, hrow, hplain⟩ := hclaim _ _ haccepted
    exact hforeign components hrow hplain

end SplitExport.Partition
