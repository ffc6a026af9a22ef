import SplitExport.Proofs.Letters
import SplitExport.Proofs.PeriodSums

/-!
# ISO periods — the ISO form of a period is translated without loss

An ISO period chooses some of the units year, month, week and day and writes them in this order, each
behind its amount.

* `isoText` writes chosen components in the ISO form, in capitals; `directOffset` writes them as an offset,
  their amounts without leading zeros.
* Reading the ISO form, in any letter case, gives back the chosen components (`readComponents?_written`): a
  component that is not chosen is passed over, since the letter behind the next amount is another one.
* So an ISO period is brought to the offset of its components, which adds up to their months and their days
  (`iso_periods_keep_meaning`).
-/

namespace SplitExport

open SplitExport.Calendar SplitExport.Number SplitExport.Results SplitExport.Text

namespace Partition

/-! ## The ISO form -/

/-- The units of ISO periods, in their order. -/
def isoUnits : List PeriodUnit := [.year, .month, .week, .day]

/-- The capital that a unit begins with. -/
def PeriodUnit.capital : PeriodUnit → Char
  | .day => 'D'
  | .week => 'W'
  | .month => 'M'
  | .quarter => 'Q'
  | .year => 'Y'

/-- The units of ISO periods are read by their capitals. -/
theorem isoComponents_eq : isoComponents = isoUnits.map fun u => (u.capital, String.ofList u.text) := by
  decide

/-- Units are told apart by their capitals, which are letters. -/
theorem PeriodUnit.capital_injective : Function.Injective PeriodUnit.capital := by
  intro u v h
  cases u <;> cases v <;> simp [PeriodUnit.capital] at h ⊢

theorem PeriodUnit.isAlpha_capital (u : PeriodUnit) : u.capital.isAlpha = true := by
  cases u <;> rfl

/-- Components in the ISO form, in capitals, without the mark in front. -/
def isoFields (chosen : List Component) : List Char :=
  chosen.flatMap fun c => c.amount ++ [c.unit.capital]

/-- Components in the ISO form, in capitals. -/
def isoText (chosen : List Component) : List Char :=
  'P' :: isoFields chosen

/-- Components as an offset, their amounts without leading zeros. -/
def directOffset (chosen : List Component) : String :=
  String.join (chosen.map fun c => natText c.value ++ String.ofList c.unit.text)

variable {chosen : List Component}

/-! ## Reading the ISO form -/

/-- An amount is taken off a text if the letter behind it is the one that is looked for. -/
theorem takeComponent?_append {letter x : Char} {rest : List Char} (c : Component)
    (hx : isDigit x = false) :
    takeComponent? letter (c.amount ++ x :: rest) = if x.toUpper = letter then some (c.amount, rest) else none := by
  obtain ⟨a, as, hamount⟩ := List.exists_cons_of_ne_nil c.amount_ne_nil
  have hstop : ∀ y ∈ (x :: rest).head?, isDigit y = false := by
    intro y hy
    rw [← Option.some.inj hy]
    exact hx
  obtain ⟨htake, hdrop⟩ := takeWhile_dropWhile_append c.isDigit_of_mem hstop
  rw [takeComponent?, htake, hdrop, hamount]

/-- The front of a text that writes components in the ISO form is the amount of the first. -/
theorem exists_of_map_isoFields_cons {c : Component} {cs : List Char}
    (h : cs.map Char.toUpper = isoFields (c :: chosen)) :
    ∃ x rest, cs = c.amount ++ x :: rest ∧ isDigit x = false ∧ x.toUpper = c.unit.capital ∧
      rest.map Char.toUpper = isoFields chosen := by
  rw [isoFields, List.flatMap_cons, List.append_assoc] at h
  obtain ⟨amount, behind, rfl, hamount, hbehind⟩ := List.map_eq_append_iff.mp h
  obtain ⟨x, rest, rfl, hx, hrest⟩ := List.map_eq_cons_iff.mp hbehind
  refine ⟨x, rest, ?_, ?_, hx, hrest⟩
  · rw [eq_of_map_toUpper c.isDigit_of_mem hamount]
  · -- no digit is a letter in either case
    by_contra hdigit
    have hletter := c.unit.isAlpha_capital
    rw [← hx, forall_digit (P := fun c => c.toUpper.isAlpha = false) (by decide +kernel)
      (Bool.not_eq_false _ ▸ hdigit)] at hletter
    exact nomatch hletter

/-- **The ISO form is read as its components**, each in the place of its unit. -/
theorem readComponents?_written {units : List PeriodUnit} {cs : List Char}
    (horder : (chosen.map Component.unit).Sublist units) (hcs : cs.map Char.toUpper = isoFields chosen) :
    readComponents? (units.map fun u => (u.capital, String.ofList u.text)) cs =
      some (chosen.map fun c => (c.amount, String.ofList c.unit.text)) := by
  induction units generalizing chosen cs with
  | nil =>
      obtain rfl := List.map_eq_nil_iff.mp (List.sublist_nil.mp horder)
      obtain rfl := List.map_eq_nil_iff.mp hcs
      rfl
  | cons u units ih =>
      cases chosen with
      | nil =>
          obtain rfl := List.map_eq_nil_iff.mp hcs
          exact ih (List.nil_sublist _) hcs
      | cons c chosen =>
          obtain ⟨x, rest, rfl, hdigit, hx, hrest⟩ := exists_of_map_isoFields_cons hcs
          rw [List.map_cons, readComponents?, takeComponent?_append c hdigit, hx]
          by_cases hunit : c.unit = u
          · -- the first of the components that are left stands in the place of this unit
            rw [List.map_cons, hunit] at horder
            rw [if_pos (congrArg _ hunit)]
            dsimp only
            rw [ih (List.cons_sublist_cons.mp horder) hrest, List.map_cons, hunit]
            rfl
          · have hlater : ((c :: chosen).map Component.unit).Sublist units := by
              rcases List.sublist_cons_iff.mp horder with hlater | ⟨_, hfirst, -⟩
              · exact hlater
              · exact absurd (List.cons.inj hfirst).1 hunit
            rw [if_neg fun hletter => hunit (PeriodUnit.capital_injective hletter)]
            exact ih hlater hcs

/-- An ISO period is read in any letter case. -/
theorem readIso?_written {body : List Char} (horder : (chosen.map Component.unit).Sublist isoUnits)
    (hsome : chosen ≠ []) (hbody : body.map Char.toUpper = isoText chosen) :
    readIso? body = some (chosen.map fun c => (c.amount, String.ofList c.unit.text)) := by
  obtain ⟨p, cs, rfl, hp, hcs⟩ := List.map_eq_cons_iff.mp hbody
  have hkept : (!(chosen.map fun c => (c.amount, String.ofList c.unit.text)).isEmpty) = true := by
    simp [hsome]
  rw [readIso?, if_pos hp, isoComponents_eq, readComponents?_written horder hcs, Option.filter_some,
    if_pos hkept]

/-- No character of an ISO period is a blank. -/
theorem isBlank_of_mem_written {body : List Char} (hbody : body.map Char.toUpper = isoText chosen) {x : Char}
    (hx : x ∈ body) : isBlank x = false := by
  have hupper : x.toUpper ∈ isoText chosen := by
    rw [← hbody]
    exact List.mem_map_of_mem hx
  rcases List.mem_cons.mp hupper with hmark | hfield
  · exact isBlank_of_isAlpha_toUpper (by rw [hmark]; rfl)
  · obtain ⟨c, -, hmem⟩ := List.mem_flatMap.mp hfield
    rcases List.mem_append.mp hmem with hamount | hletter
    · have hdigit := c.isDigit_of_mem _ hamount
      rw [toUpper_eq_self_of_isDigit hdigit] at hdigit
      exact isBlank_of_isDigit hdigit
    · refine isBlank_of_isAlpha_toUpper ?_
      rw [List.mem_singleton.mp hletter]
      exact c.unit.isAlpha_capital

/-! ## Writing the offset -/

namespace Component

/-- The component with its amount written without leading zeros. -/
def canonical (c : Component) : Component where
  amount := Nat.toDigits 10 c.value
  unit := c.unit
  amount_ne_nil := (toDigits_digits c.value).1
  isDigit_of_mem := (toDigits_digits c.value).2

/-- Leading zeros do not count. -/
theorem value_canonical (c : Component) : c.canonical.value = c.value :=
  digitsValue_toDigits c.value

/-- Without leading zeros an amount is in digits of ASCII. -/
theorem isPlain_canonical (c : Component) : c.canonical.IsPlain :=
  fun _ hx => Nat.isDigit_of_mem_toDigits (by decide) (by decide) hx

end Component

/-- The offset of components spells them, without leading zeros. -/
theorem spells_directOffset (chosen : List Component) :
    Spells (directOffset chosen) (chosen.map Component.canonical) := by
  constructor
  · rw [directOffset, String.toList_join, List.flatMap_map, offsetText, List.flatMap_map]
    refine List.flatMap_congr fun c _ => ?_
    rw [String.toList_append, natText, String.toList_ofList, String.toList_ofList]
    rfl
  · intro c hc
    obtain ⟨d, -, rfl⟩ := List.mem_map.mp hc
    exact d.isPlain_canonical

/-- Leading zeros do not count in the sums. -/
theorem sums_canonical (chosen : List Component) :
    monthSum (chosen.map Component.canonical) = monthSum chosen ∧
      daySum (chosen.map Component.canonical) = daySum chosen := by
  simp only [monthSum, daySum, List.map_map, Function.comp_def, Component.value_canonical]
  exact ⟨rfl, rfl⟩

/-- An ISO period is written as the offset of its components, if its amounts are not too long. -/
theorem offsetOfIso_eq (hshort : ∀ c ∈ chosen, c.amount.length ≤ digitLimit) :
    offsetOfIso (chosen.map fun c => (c.amount, String.ofList c.unit.text)) = .ok (directOffset chosen) := by
  rw [offsetOfIso, directOffset, List.mapM_map]
  refine bind_eq_ok.mpr ⟨_, ?_, rfl⟩
  refine mapM_eq_ok_map fun c hc => ?_
  have hread := readInteger_of_digits c.amount_ne_nil c.isDigit_of_mem
  rw [if_neg (Nat.not_lt.mpr (hshort c hc))] at hread
  dsimp only [Function.comp_apply]
  rw [hread]
  rfl

/-- The offset of components is taken as it is, if their amounts are neither too long nor all zero. -/
theorem directOffset_accepted (hshort : ∀ c ∈ chosen, c.amount.length ≤ digitLimit)
    (hvalue : ∃ c ∈ chosen, c.value ≠ 0) :
    periodPattern.fitsFront (directOffset chosen).toList = true ∧
      allZero (digitRuns (directOffset chosen).toList) = .ok false := by
  obtain ⟨c, hmem, hc⟩ := hvalue
  obtain ⟨first, rest, rfl⟩ := List.exists_cons_of_ne_nil (List.ne_nil_of_mem hmem)
  rw [(spells_directOffset (first :: rest)).row]
  constructor
  · exact fitsFront_periodPattern_iff.mpr ⟨first.canonical, rest.map Component.canonical, Or.inl rfl⟩
  · rw [digitRuns_offsetText]
    refine allZero_of_value_ne_zero ?_ ⟨c.canonical, List.mem_map_of_mem hmem, c.value_canonical.trans_ne hc⟩
    intro written hwritten
    obtain ⟨d, hd, rfl⟩ := List.mem_map.mp hwritten
    exact Nat.le_trans (length_toDigits_digitsValue d.amount_ne_nil) (hshort d hd)

/-- **An ISO period is brought to the offset of its components**, in any letter case and with blanks around
    it. -/
theorem normalizePeriod_written {source : String} {before body after : List Char}
    (horder : (chosen.map Component.unit).Sublist isoUnits)
    (hshort : ∀ c ∈ chosen, c.amount.length ≤ digitLimit) (hvalue : ∃ c ∈ chosen, c.value ≠ 0)
    (hbody : body.map Char.toUpper = isoText chosen) (hbefore : ∀ c ∈ before, isBlank c = true)
    (hafter : ∀ c ∈ after, isBlank c = true) (hsource : source.toList = before ++ body ++ after) :
    normalizePeriod ({} : Settings).periodUnits (.text source) = .ok (directOffset chosen) := by
  have hsome : chosen ≠ [] := by
    obtain ⟨c, hmem, -⟩ := hvalue
    exact List.ne_nil_of_mem hmem
  have htrim : trim source.toList = body := by
    rw [hsource]
    exact trim_between hbefore (fun x hx => isBlank_of_mem_written hbody hx) hafter
  have hnonempty : source.isEmpty = false := by
    refine String.isEmpty_eq_false_iff.mpr fun hempty => ?_
    have hnone : trim "".toList = [] := rfl
    rw [hempty, hnone] at htrim
    rw [← htrim] at hbody
    exact nomatch hbody
  refine (normalizePeriod_eq_ok_iff offsetPattern_default).mpr
    ⟨hnonempty, ?_, directOffset_accepted hshort hvalue⟩
  rw [htrim]
  exact .iso (readIso?_written horder hsome hbody) (offsetOfIso_eq hshort)

/-! ## Main result -/

/-- **ISO periods keep their meaning.** Whatever components are chosen in the order of the ISO form, with
    amounts that are neither too long nor all zero: their ISO form in any letter case and with blanks around
    it is accepted and brought to the offset of the same components without leading zeros. That offset is
    accepted as it stands, and it is read as the months and the days that the components have together, by
    which it moves every date. -/
theorem iso_periods_keep_meaning {chosen : List Component} {source : String} {before body after : List Char}
    (horder : (chosen.map Component.unit).Sublist isoUnits)
    (hshort : ∀ c ∈ chosen, c.amount.length ≤ digitLimit) (hvalue : ∃ c ∈ chosen, c.value ≠ 0)
    (hbody : body.map Char.toUpper = isoText chosen) (hbefore : ∀ c ∈ before, isBlank c = true)
    (hafter : ∀ c ∈ after, isBlank c = true) (hsource : source.toList = before ++ body ++ after) :
    normalizePeriod ({} : Settings).periodUnits (.text source) = .ok (directOffset chosen) ∧
      normalizePeriod ({} : Settings).periodUnits (.text (directOffset chosen)) = .ok (directOffset chosen) ∧
      ∃ sums : Offset, readOffset (directOffset chosen) = .ok sums ∧ sums.IsOnward ∧
        sums.months = monthSum chosen ∧ 7 * sums.weeks + sums.days = daySum chosen ∧
        ∀ start, nextStart start (directOffset chosen) = moveBy start sums := by
  have hperiod := normalizePeriod_written horder hshort hvalue hbody hbefore hafter hsource
  have hspells : Spells (directOffset chosen) (chosen.map Component.canonical) := spells_directOffset chosen
  obtain ⟨hmonths, hdays⟩ := sumOf_counts (chosen.map Component.canonical)
  obtain ⟨hmonthsKept, hdaysKept⟩ := sums_canonical chosen
  refine ⟨hperiod, normalizePeriod_normal hperiod, sumOf (chosen.map Component.canonical), ?_⟩
  exact ⟨hspells.readOffset_eq, isOnward_sumOf _, hmonths.trans hmonthsKept, hdays.trans hdaysKept,
    nextStart_of_plain hspells.row hspells.plain⟩

/-- No years, as a component. -/
def noYears : Component := ⟨['0'], .year, by decide, List.all_eq_true.mp (by decide)⟩

/-- Two months, as a component with a leading zero. -/
def twoMonths : Component := ⟨['0', '2'], .month, by decide, List.all_eq_true.mp (by decide)⟩

/-- An amount of zero is kept and a leading zero is not: no years and two months are two months. -/
theorem two_months_keep_meaning :
    normalizePeriod ({} : Settings).periodUnits (.text "\tp0y02M ") = .ok "0y2mo" ∧
      ∃ sums : Offset, readOffset "0y2mo" = .ok sums ∧ sums.months = 2 ∧ 7 * sums.weeks + sums.days = 0 := by
  have hbody : "p0y02M".toList.map Char.toUpper = isoText [noYears, twoMonths] := by decide +kernel
  have hdirect : directOffset [noYears, twoMonths] = "0y2mo" := by decide +kernel
  have hshort : ∀ c ∈ [noYears, twoMonths], c.amount.length ≤ digitLimit := by decide
  have hvalue : ∃ c ∈ [noYears, twoMonths], c.value ≠ 0 :=
    ⟨twoMonths, List.mem_cons_of_mem _ List.mem_cons_self, by decide +kernel⟩
  have hsource : "\tp0y02M ".toList = ['\t'] ++ "p0y02M".toList ++ [' '] := by decide +kernel
  have hbefore : ∀ c ∈ ['\t'], isBlank c = true := List.all_eq_true.mp rfl
  have hafter : ∀ c ∈ [' '], isBlank c = true := List.all_eq_true.mp rfl
  obtain ⟨hperiod, -, sums, hsums, -, hmonths, hdays, -⟩ :=
    iso_periods_keep_meaning (by decide) hshort hvalue hbody hbefore hafter hsource
  rw [hdirect] at hperiod hsums
  exact ⟨hperiod, sums, hsums, hmonths, hdays⟩

end Partition

end SplitExport
