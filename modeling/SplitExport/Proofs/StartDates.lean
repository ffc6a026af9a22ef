import SplitExport.Proofs.MomentTexts
import SplitExport.Proofs.PartitionWindows

/-!
# Start dates — whatever names a day is brought to that day

A partition may be given as a moment, as a date or as the text of either (`Named`), and a specification
writes the dates of its window between quotes.

* The text of a date or of a moment is read as its day, with blanks around it or without
  (`startDate_of_named`).
* Texts without quotes are told apart by what is written around them, so that the dates can be taken out of
  a window's condition again (`windowClause_inj`).
-/

namespace SplitExport

open SplitExport.Calendar SplitExport.Partition SplitExport.Results SplitExport.Sql SplitExport.Text

/-! ## Quoted texts -/

namespace Text

variable {quote : Char} {mid xs ys us vs : List Char}

/-- A text without quotes is no longer than what stands in front of a quote. -/
theorem length_le_of_not_mem (hus : quote ∉ us) (h : xs ++ quote :: ys = us ++ quote :: vs) :
    us.length ≤ xs.length := by
  refine Nat.not_lt.mp fun hshort => hus ?_
  have hfound : (xs ++ quote :: ys)[xs.length]? = some quote := by
    rw [List.getElem?_append_right (Nat.le_refl _), Nat.sub_self]
    rfl
  rw [h, List.getElem?_append_left hshort] at hfound
  exact List.mem_of_getElem? hfound

/-- Two texts without quotes are told apart by what stands between them, if that starts and ends with a
    quote. -/
theorem append_between_inj (hus : quote ∉ us) (hvs : quote ∉ vs)
    (h : xs ++ quote :: (mid ++ quote :: ys) = us ++ quote :: (mid ++ quote :: vs)) :
    xs = us ∧ ys = vs := by
  have hfront : us.length ≤ xs.length := length_le_of_not_mem hus h
  -- read backwards, the texts have changed places
  have hback : vs.reverse.length ≤ ys.reverse.length := by
    have hreversed := congrArg List.reverse h
    simp only [List.reverse_append, List.reverse_cons, List.append_assoc, List.singleton_append] at hreversed
    exact length_le_of_not_mem (fun hmem => hvs (List.mem_reverse.mp hmem)) hreversed
  have hlengths := congrArg List.length h
  simp only [List.length_append, List.length_cons, List.length_reverse] at hlengths hback
  obtain ⟨hxs, hrest⟩ := List.append_inj h (by omega)
  exact ⟨hxs, (List.cons.inj (List.append_cancel_left (List.cons.inj hrest).2)).2⟩

end Text

namespace Sql

/-- The text of a window: what stands in front of the first date, the dates with all that stands between
    them, and the closing quote. -/
theorem toList_windowClause (column start stop : String) :
    (windowClause column start stop).toList = " AND ".toList ++ column.toList ++ " >= '".toList ++
      (start.toList ++ '\'' :: (" AND ".toList ++ column.toList ++ " < ".toList ++ '\'' :: stop.toList)) ++
        ['\''] := by
  rw [windowClause]
  simp only [String.toList_append, List.append_assoc, List.cons_append]
  rfl

/-- **The dates of a window are told from its condition**, whatever its column is called. -/
theorem windowClause_inj {column first last start stop : String} (hstart : '\'' ∉ start.toList)
    (hstop : '\'' ∉ stop.toList) (h : windowClause column first last = windowClause column start stop) :
    first = start ∧ last = stop := by
  have hquoted := congrArg String.toList h
  rw [toList_windowClause, toList_windowClause] at hquoted
  obtain ⟨hfirst, hlast⟩ :=
    append_between_inj hstart hstop (List.append_cancel_left (List.append_cancel_right hquoted))
  exact ⟨String.toList_inj.mp hfirst, String.toList_inj.mp hlast⟩

end Sql

namespace Partition

/-! ## Forms of a day -/

/-- A text with blanks around it. -/
def Surrounded (cs : List Char) (source : String) : Prop :=
  ∃ before after, (∀ c ∈ before, isBlank c = true) ∧ (∀ c ∈ after, isBlank c = true) ∧
    source.toList = before ++ cs ++ after

/-- The values that name the day of a moment. -/
inductive Named (m : Moment) : Datum → Prop where
  | moment : Named m (.moment m)
  | universal : Named m (.universal m)
  | date : Named m (.date m.date)
  /-- The text of the date. -/
  | dateText {source : String} : Surrounded m.date.iso.toList source → Named m (.text source)
  /-- The text of the moment, with the offset of its zone if it has one. -/
  | momentText {source : String} (zone : Option Zone) :
      Surrounded (m.iso.toList ++ zoneText zone) source → Named m (.text source)

/-- A text is read without the blanks around it. -/
theorem startDate_of_surrounded {cs : List Char} {source : String} {m : Moment} (h : Surrounded cs source)
    (hcs : ∀ c ∈ cs, isBlank c = false) (hread : readMoment? cs = some m) :
    startDate (.text source) = .ok m.date := by
  obtain ⟨before, after, hbefore, hafter, hsource⟩ := h
  rw [startDate, hsource, trim_between hbefore hcs hafter, hread]

/-- **Whatever names a day is brought to that day.** -/
theorem startDate_of_named {m : Moment} {value : Datum} (hyear : m.date.year ≤ Date.lastYear)
    (h : Named m value) : startDate value = .ok m.date := by
  cases h with
  | moment => rfl
  | universal => rfl
  | date => rfl
  | dateText hsource =>
      have hnoBlanks := m.date.writtenWith_iso.isBlank_eq_false rfl
      have hread := startDate_of_surrounded hsource hnoBlanks (readMoment?_date hyear)
      exact hread
  | momentText zone hsource =>
      have hnoBlanks := (m.writtenWith_iso zone).isBlank_eq_false rfl
      exact startDate_of_surrounded hsource hnoBlanks (readMoment?_moment hyear zone)

end Partition

/-! ## Dates of a condition -/

/-- The text of a date has no quotes. -/
theorem quote_not_mem_iso (d : Date) : '\'' ∉ d.iso.toList := by
  intro hmem
  have hother : ∀ c ∈ d.iso.toList, c ≠ '\'' := by
    refine d.writtenWith_iso.forall_mem ?_ (by simp)
    rintro c hdigit rfl
    exact absurd hdigit (by decide)
  exact hother _ hmem rfl

/-- The text of a date names it. -/
theorem startDate_iso {d : Date} (hyear : d.year ≤ Date.lastYear) : startDate (.text d.iso) = .ok d := by
  have hnamed : Named ⟨d, .midnight⟩ (.text d.iso) := .dateText ⟨[], [], by simp⟩
  have hstart := startDate_of_named hyear hnamed
  exact hstart

/-- A condition compares the column with the dates of the window. -/
theorem ExportSpec.partitionCondition_eq_ok {spec : ExportSpec} {column condition : String} {start : Date}
    (hcolumn : spec.partitionColumn = some column) (hstart : spec.partition = some start)
    (h : spec.partitionCondition = .ok condition) :
    ∃ stop, nextStart start spec.period = .ok stop ∧ condition = windowClause column start.iso stop.iso := by
  rw [partitionCondition, hcolumn, hstart] at h
  obtain ⟨stop, hstop, hclause⟩ := bind_eq_ok.mp h
  exact ⟨stop, hstop, (Except.ok.inj hclause).symm⟩

/-! ## Main result -/

/-- **The forms of a partition agree.** A moment in the years 1 to 9999, its date, and the text of either with
    blanks around it, all name its day. The condition of a specification with a partition column and a start
    compares the column with the start and the end of its window; and any two texts that stand between the
    quotes of that condition are dates that are brought to this start and this end. -/
theorem partition_forms_agree :
    (∀ (m : Moment) (value : Datum), m.date.year ≤ Date.lastYear → Named m value →
        startDate value = .ok m.date) ∧
      ∀ (spec : ExportSpec) (column condition : String) (start : Date),
        spec.partitionColumn = some column → spec.partition = some start → start.year ≤ Date.lastYear →
        spec.partitionCondition = .ok condition →
        ∃ stop, nextStart start spec.period = .ok stop ∧ condition = windowClause column start.iso stop.iso ∧
          ∀ first last, condition = windowClause column first last →
            startDate (.text first) = .ok start ∧ startDate (.text last) = .ok stop := by
  constructor
  · intro m value hyear hvalue
    exact startDate_of_named hyear hvalue
  · intro spec column condition start hcolumn hstart hyear hcondition
    obtain ⟨stop, hstop, hclause⟩ := ExportSpec.partitionCondition_eq_ok hcolumn hstart hcondition
    refine ⟨stop, hstop, hclause, fun first last hquoted => ?_⟩
    obtain ⟨rfl, rfl⟩ := windowClause_inj (quote_not_mem_iso start) (quote_not_mem_iso stop)
      (hquoted.symm.trans hclause)
    exact ⟨startDate_iso hyear, startDate_iso (year_le_of_nextStart hstop)⟩

/-- A moment of a small year, and a little after a second. -/
def earlyMoment : Moment where
  date := ⟨7, 2, 3, by decide⟩
  time := { hour := 4, minute := 5, second := 6, microsecond := 7 }

/-- Half past five hours behind universal time. -/
def behindUniversal : Zone := ⟨false, { hour := 5, minute := 30, second := 0, microsecond := 0 }⟩

/-- The text of an early moment, between blanks, and the condition of an export by the month name their
    days. -/
theorem early_moment_and_monthly_window_agree :
    startDate (.text " 0007-02-03T04:05:06.000007-05:30\n") = .ok ⟨7, 2, 3, by decide⟩ ∧
      monthlyExport.partitionCondition = .ok " AND created >= '2027-01-31' AND created < '2028-03-31'" ∧
      startDate (.text "2027-01-31") = .ok ⟨2027, 1, 31, by decide⟩ ∧
      startDate (.text "2028-03-31") = .ok ⟨2028, 3, 31, by decide⟩ := by
  have hnamed : Named earlyMoment (.text " 0007-02-03T04:05:06.000007-05:30\n") :=
    .momentText (some behindUniversal)
      ⟨[' '], ['\n'], List.all_eq_true.mp rfl, List.all_eq_true.mp rfl, by decide +kernel⟩
  have hcondition : monthlyExport.partitionCondition =
      .ok " AND created >= '2027-01-31' AND created < '2028-03-31'" := eq_ok_of_toOption (by decide +kernel)
  have hstop : nextStart ⟨2027, 1, 31, by decide⟩ "1y2mo" = .ok ⟨2028, 3, 31, by decide⟩ :=
    eq_ok_of_toOption (by decide +kernel)
  obtain ⟨hforms, hconditions⟩ := partition_forms_agree
  obtain ⟨stop, hstop', -, hdates⟩ :=
    hconditions monthlyExport "created" _ _ rfl rfl (by decide) hcondition
  obtain rfl := Except.ok.inj (hstop.symm.trans hstop')
  obtain ⟨hfirst, hlast⟩ := hdates "2027-01-31" "2028-03-31" (by decide +kernel)
  exact ⟨hforms earlyMoment _ (by decide) hnamed, hcondition, hfirst, hlast⟩

end SplitExport
