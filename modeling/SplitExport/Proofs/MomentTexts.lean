import SplitExport.Calendar.IsoText
import SplitExport.Proofs.DateTexts
import SplitExport.Proofs.Digits
import SplitExport.Proofs.Trimming

/-!
# Moment texts — what is written of a moment is read back

The text of a moment is its date, a `T` and its time, and an offset from universal time may follow.

* A padded number is read back off the front of a text (`readDigits?_paddedNat`), so that each part of a
  date or of a time is.
* A time is read back whatever follows it (`readClock?_iso`), and an offset is found well formed
  (`isOffset_text`).
* So the text of a date is read as its midnight (`readMoment?_date`), and that of a moment as the moment
  (`readMoment?_moment`).
-/

namespace SplitExport.Calendar

open SplitExport.Text

/-! ## Numbers -/

/-- A padded number is read back off the front of a text. -/
theorem readDigits?_paddedNat {width n : Nat} (hwidth : 1 ≤ width) (hn : n < 10 ^ width)
    (rest : List Char) : readDigits? width ((paddedNat width n).toList ++ rest) = some (n, rest) := by
  obtain ⟨hvalue, hdigits⟩ := paddedNat_digits width n
  have hlength : (paddedNat width n).toList.length = width := length_paddedNat hwidth hn
  rw [readDigits?, List.take_left' hlength, List.drop_left' hlength,
    if_pos ⟨hlength, List.all_eq_true.mpr hdigits⟩, hvalue]

/-- A padded number has a digit. -/
theorem paddedNat_ne_nil (width n : Nat) : (paddedNat width n).toList ≠ [] := by
  rw [paddedNat, String.toList_ofList]
  exact List.append_ne_nil_of_right_ne_nil _ Nat.toDigits_ne_nil

/-- Two digits write what is less than a hundred. -/
theorem exists_two_digits {n : Nat} (hn : n < 100) :
    ∃ a b, (paddedNat 2 n).toList = [a, b] ∧ isAsciiDigit a = true := by
  obtain ⟨a, b, hpair⟩ := List.length_eq_two.mp (length_paddedNat (show 1 ≤ 2 by decide) hn)
  have hdigits := (paddedNat_digits 2 n).2
  rw [hpair] at hdigits
  exact ⟨a, b, hpair, hdigits a List.mem_cons_self⟩

/-! ## Times -/

namespace TimeOfDay

/-- The digits of a second's fraction, with the point in front of them, unless it is zero. -/
def fractionText (t : TimeOfDay) : List Char :=
  if t.microsecond = 0 then [] else '.' :: (paddedNat 6 t.microsecond).toList

/-- The text of a time: its parts with colons between them, and the fraction. -/
theorem toList_iso (t : TimeOfDay) :
    t.iso.toList = (paddedNat 2 t.hour).toList ++ ':' :: ((paddedNat 2 t.minute).toList ++
      ':' :: ((paddedNat 2 t.second).toList ++ t.fractionText)) := by
  rw [iso, fractionText]
  split <;> simp [String.toList_append]

end TimeOfDay

section Clock

variable {next : Char} {rest : List Char} {n : Nat}

/-- Behind a colon another pair of digits is looked for. -/
theorem afterPair?_colon (hrest : rest ≠ []) :
    afterPair? true (':' :: rest) next = some (.pair rest) := by
  have hsome : rest.isEmpty = false := List.isEmpty_eq_false_iff.mpr hrest
  simp [afterPair?, hsome]

/-- Behind a point a fraction is looked for. -/
theorem afterPair?_point (hrest : rest ≠ []) :
    afterPair? true ('.' :: rest) next = some (.fraction rest) := by
  have hsome : rest.isEmpty = false := List.isEmpty_eq_false_iff.mpr hrest
  simp [afterPair?, hsome]

/-- Six digits of a fraction are microseconds. -/
theorem readFraction?_six (hn : n < 1000000) :
    readFraction? (paddedNat 6 n).toList next = some (n, next != '\x00') := by
  obtain ⟨hvalue, hdigits⟩ := paddedNat_digits 6 n
  have hlength : (paddedNat 6 n).toList.length = 6 := length_paddedNat (by decide) hn
  have htake : (paddedNat 6 n).toList.take 6 = (paddedNat 6 n).toList :=
    List.take_of_length_le (Nat.le_of_eq hlength)
  have hdrop : (paddedNat 6 n).toList.drop 6 = [] := List.drop_of_length_le (Nat.le_of_eq hlength)
  rw [readFraction?, htake, hdrop, List.all_eq_true.mpr hdigits, hvalue, hlength]
  simp

/-- Hours and minutes alone are read back. -/
theorem readClock?_minutes {hour minute : Nat} (hhour : hour < 24) (hminute : minute < 60) :
    readClock? ((paddedNat 2 hour).toList ++ ':' :: (paddedNat 2 minute).toList) next =
      some { hour, minute, more := next != '\x00' } := by
  have hread : readDigits? 2 (paddedNat 2 minute).toList = some (minute, []) := by
    have hread := readDigits?_paddedNat (show 1 ≤ 2 by decide) (show minute < 10 ^ 2 by omega) []
    rwa [List.append_nil] at hread
  rw [readClock?, readDigits?_paddedNat (by decide) (show hour < 10 ^ 2 by omega)]
  simp only [Option.bind_eq_bind, Option.bind_some, List.headD_cons, beq_self_eq_true]
  rw [afterPair?_colon (paddedNat_ne_nil 2 minute)]
  simp only [Option.bind_some, hread]
  rfl

/-- **A time is read back**, and whether something follows it. -/
theorem readClock?_iso (t : TimeOfDay) (next : Char) :
    readClock? t.iso.toList next =
      some ⟨t.hour, t.minute, t.second, t.microsecond, next != '\x00'⟩ := by
  obtain ⟨hhour, hminute, hsecond, hmicrosecond⟩ := t.on_clock
  rw [t.toList_iso, readClock?, readDigits?_paddedNat (by decide) (show t.hour < 10 ^ 2 by omega)]
  simp only [Option.bind_eq_bind, Option.bind_some, List.headD_cons, beq_self_eq_true]
  rw [afterPair?_colon (List.append_ne_nil_of_left_ne_nil (paddedNat_ne_nil _ _) _)]
  simp only [Option.bind_some]
  rw [readDigits?_paddedNat (by decide) (show t.minute < 10 ^ 2 by omega)]
  simp only [Option.bind_some]
  rw [afterPair?_colon (List.append_ne_nil_of_left_ne_nil (paddedNat_ne_nil _ _) _)]
  simp only [Option.bind_some]
  rw [readDigits?_paddedNat (by decide) (show t.second < 10 ^ 2 by omega)]
  simp only [Option.bind_some]
  -- the text ends behind the seconds, or goes on with a point and six digits
  by_cases hwhole : t.microsecond = 0
  · rw [TimeOfDay.fractionText, if_pos hwhole, hwhole]
    rfl
  · rw [TimeOfDay.fractionText, if_neg hwhole, afterPair?_point (paddedNat_ne_nil 6 t.microsecond)]
    simp only [Option.bind_some, ClockReading.withFraction?, readFraction?_six hmicrosecond, Option.map_some]

end Clock

/-! ## Offsets from universal time -/

/-- How far a clock is ahead of universal time, or behind it. -/
structure Zone where
  ahead : Bool
  difference : TimeOfDay

/-- The text of a zone: a sign and the difference, without seconds if there are none. -/
def Zone.text (z : Zone) : List Char :=
  (if z.ahead then '+' else '-') ::
    if z.difference.second = 0 ∧ z.difference.microsecond = 0 then
      (paddedNat 2 z.difference.hour).toList ++ ':' :: (paddedNat 2 z.difference.minute).toList
    else z.difference.iso.toList

/-- The text of a zone is a well formed offset. -/
theorem isOffset_text (z : Zone) : isOffset z.text = true := by
  obtain ⟨hhour, hminute, hsecond, hmicrosecond⟩ := z.difference.on_clock
  have hday : (z.difference.hour * 60 + z.difference.minute) * 60 + z.difference.second < 86400 := by omega
  have hsigned : ∀ (ahead : Bool) (rest : List Char) (r : ClockReading), readClock? rest '\x00' = some r →
      isOffset ((if ahead then '+' else '-') :: rest) =
        (!r.more && (r.hour * 60 + r.minute) * 60 + r.second < 86400) := by
    intro ahead rest r hread
    cases ahead <;> simp [isOffset, hread]
  rw [Zone.text]
  by_cases hwhole : z.difference.second = 0 ∧ z.difference.microsecond = 0
  · rw [if_pos hwhole, hsigned _ _ _ (readClock?_minutes hhour hminute)]
    simp
    omega
  · rw [if_neg hwhole, hsigned _ _ _ (readClock?_iso z.difference '\x00')]
    simp [hday]

/-- The text of a zone that may be missing. -/
def zoneText (zone : Option Zone) : List Char :=
  zone.elim [] Zone.text

/-! ## Characters -/

/-- A text holds digits of ASCII and some marks only. -/
def WrittenWith (marks cs : List Char) : Prop :=
  ∀ c ∈ cs, isAsciiDigit c = true ∨ c ∈ marks

namespace WrittenWith

variable {marks others xs ys : List Char} {mark : Char}

theorem paddedNat (marks : List Char) (width n : Nat) : WrittenWith marks (paddedNat width n).toList :=
  fun c hc => Or.inl ((paddedNat_digits width n).2 c hc)

theorem append (hxs : WrittenWith marks xs) (hys : WrittenWith marks ys) : WrittenWith marks (xs ++ ys) :=
  List.forall_mem_append.mpr ⟨hxs, hys⟩

theorem cons (hmark : mark ∈ marks) (hxs : WrittenWith marks xs) : WrittenWith marks (mark :: xs) :=
  List.forall_mem_cons.mpr ⟨Or.inr hmark, hxs⟩

theorem mono (hmarks : marks ⊆ others) (hxs : WrittenWith marks xs) : WrittenWith others xs :=
  fun c hc => (hxs c hc).imp_right fun hmark => hmarks hmark

/-- What holds of the digits and of the marks holds of all characters of the text. -/
theorem forall_mem {P : Char → Prop} (hxs : WrittenWith marks xs) (hdigits : ∀ c, isDigit c = true → P c)
    (hmarks : ∀ m ∈ marks, P m) : ∀ c ∈ xs, P c := by
  intro c hc
  rcases hxs c hc with hdigit | hmark
  · exact hdigits c (isDigit_of_isAsciiDigit hdigit)
  · exact hmarks c hmark

/-- A text has no blanks if the marks are none. -/
theorem isBlank_eq_false (hxs : WrittenWith marks xs) (hmarks : marks.any isBlank = false) :
    ∀ c ∈ xs, isBlank c = false :=
  hxs.forall_mem (fun _ => isBlank_of_isDigit) fun m hm => Bool.eq_false_iff.mpr (List.any_eq_false.mp hmarks m hm)

end WrittenWith

/-- A date is written in digits and dashes. -/
theorem Date.writtenWith_iso (d : Date) : WrittenWith ['-'] d.iso.toList := by
  rw [d.toList_iso, List.singleton_append, List.singleton_append]
  refine (WrittenWith.paddedNat _ _ _).append (.cons List.mem_cons_self ?_)
  exact (WrittenWith.paddedNat _ _ _).append (.cons List.mem_cons_self (.paddedNat _ _ _))

/-- A time is written in digits, colons and points. -/
theorem TimeOfDay.writtenWith_iso (t : TimeOfDay) : WrittenWith [':', '.'] t.iso.toList := by
  have hfraction : WrittenWith [':', '.'] t.fractionText := by
    rw [fractionText]
    split
    · exact fun c hc => nomatch hc
    · exact .cons (by decide) (.paddedNat _ _ _)
  rw [t.toList_iso]
  refine (WrittenWith.paddedNat _ _ _).append (.cons List.mem_cons_self ?_)
  refine (WrittenWith.paddedNat _ _ _).append (.cons List.mem_cons_self ?_)
  exact (WrittenWith.paddedNat _ _ _).append hfraction

/-- A zone is written with a sign as well. -/
theorem writtenWith_zoneText (zone : Option Zone) : WrittenWith ['+', '-', ':', '.'] (zoneText zone) := by
  cases zone with
  | none => exact fun c hc => nomatch hc
  | some z =>
      refine .cons ?_ ?_
      · cases z.ahead <;> decide
      · split
        · exact (WrittenWith.paddedNat _ _ _).append (.cons (by decide) (.paddedNat _ _ _))
        · exact z.difference.writtenWith_iso.mono (by decide)

/-- A moment is written with a `T` as well. -/
theorem Moment.writtenWith_iso (m : Moment) (zone : Option Zone) :
    WrittenWith ['T', '+', '-', ':', '.'] (m.iso.toList ++ zoneText zone) := by
  rw [Moment.iso, Moment.isoWith, String.toList_append, String.toList_append]
  refine WrittenWith.append (WrittenWith.append (WrittenWith.append ?_ ?_) ?_) ?_
  · exact m.date.writtenWith_iso.mono (by decide)
  · exact .cons (by decide) fun c hc => nomatch hc
  · exact m.time.writtenWith_iso.mono (by decide)
  · exact (writtenWith_zoneText zone).mono (by decide)

/-! ## Moments -/

/-- No digit starts an offset. -/
theorem startsOffset_of_isDigit {c : Char} (h : isDigit c = true) : startsOffset c = false := by
  by_contra hstart
  rw [Bool.not_eq_false, startsOffset, Bool.or_eq_true, Bool.or_eq_true, beq_iff_eq, beq_iff_eq,
    beq_iff_eq] at hstart
  rcases hstart with (rfl | rfl) | rfl <;> exact absurd h (by decide)

/-- **A time is read back** in front of a zone. -/
theorem readTime?_iso (t : TimeOfDay) (zone : Option Zone) :
    readTime? (t.iso.toList ++ zoneText zone) = some t := by
  have hbody : ∀ c ∈ t.iso.toList, (!startsOffset c) = true :=
    t.writtenWith_iso.forall_mem (fun _ hdigit => by rw [startsOffset_of_isDigit hdigit, Bool.not_false])
      (List.all_eq_true.mp rfl)
  have hzone : ∀ c ∈ (zoneText zone).head?, (!startsOffset c) = false := by
    cases zone with
    | none => exact fun c hc => nomatch hc
    | some z =>
        intro c hc
        rw [← Option.some.inj hc]
        cases z.ahead <;> rfl
  obtain ⟨htake, hdrop⟩ := takeWhile_dropWhile_append hbody hzone
  have hparts : TimeOfDay.ofParts? t.hour t.minute t.second t.microsecond = some t := dif_pos t.on_clock
  have hend : ¬ (if (zoneText zone).isEmpty then (zoneText zone).headD '\x00' != '\x00'
      else !isOffset (zoneText zone)) = true := by
    cases zone with
    | none => decide
    | some z =>
        have hoffset : isOffset (zoneText (some z)) = true := isOffset_text z
        rw [hoffset]
        exact Bool.false_ne_true
  rw [readTime?, htake, hdrop, readClock?_iso]
  dsimp only
  rw [hparts, if_neg hend]

section Front

variable {d : Date}

/-- The text of a date that can be written has ten characters. -/
theorem Date.length_iso (hyear : d.year ≤ Date.lastYear) : d.iso.toList.length = 10 := by
  have hmonth := d.exists_day.2.2.1
  have hday := d.day_lt
  rw [d.toList_iso]
  simp only [List.length_append, List.length_cons, List.length_nil]
  rw [length_paddedNat (by decide) (Nat.lt_succ_of_le hyear), length_paddedNat (by decide) (by omega),
    length_paddedNat (by decide) hday]

/-- The separator behind a date with dashes is its eleventh character. -/
theorem separatorPosition?_iso (hyear : d.year ≤ Date.lastYear) (tail : List Char) :
    separatorPosition? (d.iso.toList ++ tail) = some 10 := by
  have hmonth := d.exists_day.2.2.1
  have hlength := Date.length_iso hyear
  obtain ⟨a, b, hpair, ha⟩ := exists_two_digits (show d.month < 100 by omega)
  have hyearLength : (paddedNat 4 d.year).toList.length = 4 :=
    length_paddedNat (by decide) (Nat.lt_succ_of_le hyear)
  have hdash : (d.iso.toList ++ tail)[4]? = some '-' := by
    rw [d.toList_iso, List.append_assoc, List.getElem?_append_right (by omega), hyearLength]
    rfl
  have hweek : (d.iso.toList ++ tail)[5]? ≠ some 'W' := by
    rw [d.toList_iso, List.append_assoc, List.getElem?_append_right (by omega), hyearLength, hpair]
    intro hfound
    obtain rfl := Option.some.inj hfound
    exact absurd ha (by decide)
  have hlong : (d.iso.toList ++ tail).length ≠ 7 := by
    rw [List.length_append]
    omega
  rw [separatorPosition?, if_neg hlong, if_pos hdash, if_neg hweek]

/-- **A date is read back** off the front of a text. -/
theorem readDateOf?_iso (hyear : d.year ≤ Date.lastYear) (tail : List Char) :
    readDateOf? 10 (d.iso.toList ++ tail) = some d := by
  obtain ⟨-, -, hmonth, -, -⟩ := d.exists_day
  have hlength := Date.length_iso hyear
  have hparts : Date.ofParts? d.year d.month d.day = some d := dif_pos d.exists_day
  obtain ⟨a, b, hpair, ha⟩ := exists_two_digits (show d.month < 100 by omega)
  have hnoWeek : a ≠ 'W' := by
    rintro rfl
    exact absurd ha (by decide)
  have hcounted : (d.iso.toList ++ tail).length - tail.length = 10 := by
    rw [List.length_append, hlength, Nat.add_sub_cancel]
  have htext : d.iso.toList ++ tail = (paddedNat 4 d.year).toList ++
      '-' :: a :: b :: '-' :: ((paddedNat 2 d.day).toList ++ tail) := by
    rw [d.toList_iso, hpair]
    simp
  have hmonthRead : readDigits? 2 (a :: b :: '-' :: ((paddedNat 2 d.day).toList ++ tail)) =
      some (d.month, '-' :: ((paddedNat 2 d.day).toList ++ tail)) := by
    have hread := readDigits?_paddedNat (show 1 ≤ 2 by decide) (show d.month < 10 ^ 2 by omega)
      ('-' :: ((paddedNat 2 d.day).toList ++ tail))
    rwa [hpair] at hread
  rw [readDateOf?]
  simp only [Option.bind_eq_bind]
  rw [htext, readDigits?_paddedNat (by decide) (show d.year < 10 ^ 4 from Nat.lt_succ_of_le hyear),
    ← htext]
  simp only [Option.bind_some, List.head?_cons, List.tail_cons, if_true, decide_true]
  -- behind the year stands the month, since its first digit is not the letter of a week
  split
  · rename_i heq
    exact absurd (List.cons.inj heq).1 hnoWeek
  · rw [hmonthRead]
    simp only [Option.bind_some, takeHyphen?, if_true]
    rw [readDigits?_paddedNat (by decide) d.day_lt]
    simp only [Option.bind_some]
    rw [if_pos ⟨hcounted, hyear⟩, hparts]

/-- What is read of a text that starts with a date is the date and what is read behind it. -/
theorem readMoment?_front (hyear : d.year ≤ Date.lastYear) (tail : List Char) :
    readMoment? (d.iso.toList ++ tail) =
      match tail with
      | [] => some ⟨d, .midnight⟩
      | _ :: time => (readTime? time).map (Moment.mk d) := by
  have hlength := Date.length_iso hyear
  have hlong : ¬ (d.iso.toList ++ tail).length < 7 := by
    rw [List.length_append]
    omega
  rw [readMoment?, if_neg hlong, separatorPosition?_iso hyear]
  simp only [Option.bind_eq_bind, Option.bind_some]
  rw [readDateOf?_iso hyear, List.drop_left' hlength]
  cases tail with
  | nil => rfl
  | cons c time =>
      simp only [Option.bind_some, Option.map_eq_bind]
      rfl

/-- **The text of a date is read as its midnight.** -/
theorem readMoment?_date (hyear : d.year ≤ Date.lastYear) :
    readMoment? d.iso.toList = some ⟨d, .midnight⟩ := by
  have hread := readMoment?_front hyear []
  rwa [List.append_nil] at hread

/-- **The text of a moment is read as the moment**, with a zone behind it or without. -/
theorem readMoment?_moment {m : Moment} (hyear : m.date.year ≤ Date.lastYear) (zone : Option Zone) :
    readMoment? (m.iso.toList ++ zoneText zone) = some m := by
  have htext : m.iso.toList ++ zoneText zone =
      m.date.iso.toList ++ 'T' :: (m.time.iso.toList ++ zoneText zone) := by
    rw [Moment.iso, Moment.isoWith, String.toList_append, String.toList_append]
    simp
  rw [htext, readMoment?_front hyear]
  dsimp only
  rw [readTime?_iso]
  rfl

end Front

end SplitExport.Calendar
