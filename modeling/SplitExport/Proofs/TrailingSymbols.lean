import SplitExport.Proofs.Trimming
import SplitExport.Sql.BaseQuery

/-!
# Trailing symbols — what is cleaned off the end of a query

A query that is given as text loses the blanks at its front, and blanks, semicolons and blanks, in this
order, at its end.

* `bare` is the text without any blanks and semicolons at its end, in whatever order they stand, and
  `symbolsBehind` is what that removes.
* `HasOneRun` says that the semicolons there stand side by side. Exactly then is the text cleaned to its
  bare form, does it not end in a semicolon, and is it not changed by cleaning it again
  (`cleaned_removes_one_run`).
* A blank between two semicolons keeps the one in front of it.
-/

namespace SplitExport.Sql

open SplitExport.Text

/-! ## Bare texts -/

/-- The characters that may stand behind a query. -/
def isSymbol (c : Char) : Bool :=
  isBlank c || c == ';'

/-- A text without the blanks at its front and the blanks and semicolons at its end. -/
def bare (cs : List Char) : List Char :=
  (trimLeft cs).rdropWhile isSymbol

/-- The blanks and semicolons at the end of a text. -/
def symbolsBehind (cs : List Char) : List Char :=
  (trimLeft cs).rtakeWhile isSymbol

/-- The semicolons at the end of a text stand side by side, with blanks before and behind them. -/
def HasOneRun (cs : List Char) : Prop :=
  ∃ before semicolons after : List Char, symbolsBehind cs = before ++ semicolons ++ after ∧
    (∀ c ∈ before, isBlank c = true) ∧ (∀ c ∈ semicolons, c = ';') ∧ ∀ c ∈ after, isBlank c = true

/-- The cleaned characters of a text. -/
def cleanedChars (cs : List Char) : List Char :=
  trimRight (dropRightWhile (· == ';') (trim cs))

theorem toList_cleaned (source : String) : (cleaned source).toList = cleanedChars source.toList :=
  String.toList_ofList

/-- A text is its bare form with blanks before and symbols behind it. -/
theorem trimLeft_eq_bare_append (cs : List Char) : trimLeft cs = bare cs ++ symbolsBehind cs :=
  List.rdropWhile_append_rtakeWhile.symm

/-! ## Cleaning -/

variable {cs : List Char}

/-- Cleaning takes one run of semicolons off the end, with the blanks before and behind it. -/
theorem exists_trimLeft_eq_cleanedChars_append (cs : List Char) :
    ∃ before semicolons after : List Char,
      trimLeft cs = cleanedChars cs ++ (before ++ semicolons ++ after) ∧
      (∀ c ∈ before, isBlank c = true) ∧ (∀ c ∈ semicolons, c = ';') ∧ ∀ c ∈ after, isBlank c = true := by
  obtain ⟨after, hafter, hblanks⟩ := exists_eq_rdropWhile_append isBlank (trimLeft cs)
  obtain ⟨semicolons, hsemicolons, hall⟩ := exists_eq_rdropWhile_append (· == ';') (trim cs)
  obtain ⟨before, hbefore, hblanks'⟩ :=
    exists_eq_rdropWhile_append isBlank (dropRightWhile (· == ';') (trim cs))
  refine ⟨before, semicolons, after, ?_, hblanks', fun c hc => eq_of_beq (hall c hc), hblanks⟩
  calc
    trimLeft cs = trim cs ++ after := hafter
    _ = dropRightWhile (· == ';') (trim cs) ++ semicolons ++ after := congrArg (· ++ after) hsemicolons
    _ = cleanedChars cs ++ before ++ semicolons ++ after :=
      congrArg (fun front => front ++ semicolons ++ after) hbefore
    _ = cleanedChars cs ++ (before ++ semicolons ++ after) := by simp only [List.append_assoc]

/-- One run of semicolons and the blanks around it are symbols. -/
theorem isSymbol_of_mem_run {before semicolons after : List Char} (hbefore : ∀ c ∈ before, isBlank c = true)
    (hsemicolons : ∀ c ∈ semicolons, c = ';') (hafter : ∀ c ∈ after, isBlank c = true) :
    ∀ c ∈ before ++ semicolons ++ after, isSymbol c = true := by
  intro c hc
  rw [isSymbol, Bool.or_eq_true]
  rcases List.mem_append.mp hc with hfront | hlast
  · rcases List.mem_append.mp hfront with hfirst | hmiddle
    · exact Or.inl (hbefore c hfirst)
    · exact Or.inr (beq_iff_eq.mpr (hsemicolons c hmiddle))
  · exact Or.inl (hafter c hlast)

/-- The bare form of a text is that of its cleaned characters. -/
theorem rdropWhile_cleanedChars (cs : List Char) : (cleanedChars cs).rdropWhile isSymbol = bare cs := by
  obtain ⟨before, semicolons, after, hcs, hbefore, hsemicolons, hafter⟩ :=
    exists_trimLeft_eq_cleanedChars_append cs
  rw [bare, hcs, rdropWhile_append_of_all (isSymbol_of_mem_run hbefore hsemicolons hafter)]

/-- Cleaned characters do not end in a blank. -/
theorem isBlank_getLast?_cleanedChars {c : Char} (h : c ∈ (cleanedChars cs).getLast?) : isBlank c = false :=
  getLast?_rdropWhile h

/-- Cleaned characters do not begin with a blank. -/
theorem isBlank_head?_cleanedChars {c : Char} (h : c ∈ (cleanedChars cs).head?) : isBlank c = false := by
  obtain ⟨before, semicolons, after, hcs, -, -, -⟩ := exists_trimLeft_eq_cleanedChars_append cs
  have hfirst : (trimLeft cs).head? = some c := by
    rw [hcs, List.head?_append, h]
    rfl
  have hhead := List.head?_dropWhile_not isBlank cs
  rw [show cs.dropWhile isBlank = trimLeft cs from rfl, hfirst] at hhead
  simpa using hhead

/-- **A text is cleaned to its bare form if and only if it is not left with a semicolon at its end.** -/
theorem cleanedChars_eq_bare_iff : cleanedChars cs = bare cs ↔ (cleanedChars cs).getLast? ≠ some ';' := by
  constructor
  · intro h hlast
    rw [h] at hlast
    exact absurd (getLast?_rdropWhile hlast) (by decide)
  · intro hlast
    rw [← rdropWhile_cleanedChars, rdropWhile_eq_self_of_getLast?]
    intro c hc
    rw [isSymbol, isBlank_getLast?_cleanedChars hc, Bool.false_or, beq_eq_false_iff_ne]
    rintro rfl
    exact hlast hc

/-- What stands in front of one run of semicolons is left by cleaning. -/
theorem trimRight_run {front before semicolons after : List Char}
    (hfront : ∀ c ∈ front.getLast?, isSymbol c = false) (hbefore : ∀ c ∈ before, isBlank c = true)
    (hsemicolons : ∀ c ∈ semicolons, c = ';') (hafter : ∀ c ∈ after, isBlank c = true) :
    trimRight (dropRightWhile (· == ';') (trimRight (front ++ (before ++ semicolons ++ after)))) =
      front := by
  have hblank : trimRight front = front := by
    refine rdropWhile_eq_self_of_getLast? fun c hc => ?_
    exact (Bool.or_eq_false_iff.mp (hfront c hc)).1
  have hsemicolon : dropRightWhile (· == ';') front = front := by
    refine rdropWhile_eq_self_of_getLast? fun c hc => ?_
    exact (Bool.or_eq_false_iff.mp (hfront c hc)).2
  have houter : trimRight (front ++ before) = front := (rdropWhile_append_of_all hbefore).trans hblank
  have hlast : trimRight (front ++ (before ++ semicolons ++ after)) =
      trimRight (front ++ before ++ semicolons) := by
    rw [← List.append_assoc, ← List.append_assoc]
    exact rdropWhile_append_of_all hafter
  rw [hlast]
  rcases List.eq_nil_or_concat' semicolons with rfl | ⟨others, last, rfl⟩
  · -- without semicolons the blanks are gone at once
    rw [List.append_nil, houter, hsemicolon, hblank]
  · have hnotBlank : trimRight (front ++ before ++ (others ++ [last])) =
        front ++ before ++ (others ++ [last]) := by
      refine rdropWhile_eq_self_of_getLast? fun c hc => ?_
      rw [← List.append_assoc, List.getLast?_concat] at hc
      obtain rfl := Option.some.inj hc
      rw [hsemicolons last (List.mem_append_right _ List.mem_cons_self)]
      decide
    have hdropped : dropRightWhile (· == ';') (front ++ before ++ (others ++ [last])) =
        dropRightWhile (· == ';') (front ++ before) :=
      rdropWhile_append_of_all fun c hc => beq_iff_eq.mpr (hsemicolons c hc)
    have hkept : dropRightWhile (· == ';') (front ++ before) = front ++ before := by
      refine rdropWhile_eq_self_of_getLast? fun c hc => ?_
      rw [List.getLast?_append, Option.mem_def, Option.or_eq_some_iff] at hc
      rcases hc with hlast | ⟨-, hlast⟩
      · rw [beq_eq_false_iff_ne]
        rintro rfl
        exact absurd (hbefore _ (List.mem_of_getLast? hlast)) (by decide)
      · exact (Bool.or_eq_false_iff.mp (hfront c hlast)).2
    rw [hnotBlank, hdropped, hkept, houter]

/-- **A text is cleaned to its bare form if and only if its semicolons stand side by side.** -/
theorem hasOneRun_iff : HasOneRun cs ↔ cleanedChars cs = bare cs := by
  constructor
  · rintro ⟨before, semicolons, after, hsymbols, hbefore, hsemicolons, hafter⟩
    have hcs : trimLeft cs = bare cs ++ (before ++ semicolons ++ after) := by
      rw [← hsymbols]
      exact trimLeft_eq_bare_append cs
    rw [cleanedChars, trim, hcs]
    exact trimRight_run (fun _ => getLast?_rdropWhile) hbefore hsemicolons hafter
  · intro h
    obtain ⟨before, semicolons, after, hcs, hbefore, hsemicolons, hafter⟩ :=
      exists_trimLeft_eq_cleanedChars_append cs
    refine ⟨before, semicolons, after, ?_, hbefore, hsemicolons, hafter⟩
    rw [h, trimLeft_eq_bare_append] at hcs
    exact List.append_cancel_left hcs

/-- Cleaned characters are cleaned as they are, without their semicolons. -/
theorem cleanedChars_cleanedChars (cs : List Char) :
    cleanedChars (cleanedChars cs) = trimRight (dropRightWhile (· == ';') (cleanedChars cs)) := by
  have hfront : trimLeft (cleanedChars cs) = cleanedChars cs := by
    refine List.dropWhile_eq_self_iff.mpr fun hpos => ?_
    rw [isBlank_head?_cleanedChars (List.head?_eq_getElem? ▸ List.getElem?_eq_getElem hpos)]
    exact Bool.false_ne_true
  have hend : trimRight (cleanedChars cs) = cleanedChars cs :=
    rdropWhile_eq_self_of_getLast? fun _ => isBlank_getLast?_cleanedChars
  rw [cleanedChars, trim, hfront, hend]

/-- **Cleaning again changes nothing if and only if no semicolon was left at the end.** -/
theorem cleanedChars_idempotent_iff :
    cleanedChars (cleanedChars cs) = cleanedChars cs ↔ (cleanedChars cs).getLast? ≠ some ';' := by
  rw [cleanedChars_cleanedChars]
  constructor
  · intro h hlast
    -- what is cleaned again lies in what is left without semicolons
    have houter := (List.rdropWhile_prefix isBlank (dropRightWhile (· == ';') (cleanedChars cs))).length_le
    have hinner : dropRightWhile (· == ';') (cleanedChars cs) <+: cleanedChars cs :=
      List.rdropWhile_prefix _ _
    have hkept : dropRightWhile (· == ';') (cleanedChars cs) = cleanedChars cs := by
      refine hinner.eq_of_length (Nat.le_antisymm hinner.length_le ?_)
      exact (congrArg List.length h).symm.le.trans houter
    rw [← hkept] at hlast
    exact absurd (getLast?_rdropWhile hlast) (by decide)
  · intro hlast
    have hkept : dropRightWhile (· == ';') (cleanedChars cs) = cleanedChars cs := by
      refine rdropWhile_eq_self_of_getLast? fun c hc => ?_
      rw [beq_eq_false_iff_ne]
      rintro rfl
      exact hlast hc
    rw [hkept]
    exact rdropWhile_eq_self_of_getLast? fun _ => isBlank_getLast?_cleanedChars

/-! ## Main result -/

/-- **Cleaning removes one run of semicolons.** A cleaned query has lost nothing but blanks at its front,
    and one run of semicolons with blanks around it at its end, and it neither starts nor ends with a
    blank. If the semicolons at the end of the source stand side by side, and only then, all the symbols
    there are gone; no semicolon is left at the end, as it is none in the brackets of a base query; and
    cleaning again changes nothing. -/
theorem cleaned_removes_one_run (source : String) :
    (∃ lead before semicolons after : List Char,
      source.toList = lead ++ (cleaned source).toList ++ (before ++ semicolons ++ after) ∧
      (∀ c ∈ lead, isBlank c = true) ∧ (∀ c ∈ before, isBlank c = true) ∧
      (∀ c ∈ semicolons, c = ';') ∧ ∀ c ∈ after, isBlank c = true) ∧
    (∀ c ∈ (cleaned source).toList.head?, isBlank c = false) ∧
    (∀ c ∈ (cleaned source).toList.getLast?, isBlank c = false) ∧
    (HasOneRun source.toList ↔ (cleaned source).toList = bare source.toList) ∧
    (HasOneRun source.toList ↔ (cleaned source).toList.getLast? ≠ some ';') ∧
    (HasOneRun source.toList ↔ cleaned (cleaned source) = cleaned source) ∧
    ∀ (asName : String) (base : BaseQuery), BaseQuery.ofRaw asName source = .ok base →
      ∃ inner : String, base.text = "SELECT * FROM (" ++ inner ++ ") as " ++ asName ++ " WHERE 1=1" ∧
        (HasOneRun source.toList ↔ inner.toList.getLast? ≠ some ';') := by
  have hend : HasOneRun source.toList ↔ (cleaned source).toList.getLast? ≠ some ';' := by
    rw [toList_cleaned]
    exact hasOneRun_iff.trans cleanedChars_eq_bare_iff
  refine ⟨?_, ?_, ?_, ?_, hend, ?_, ?_⟩
  · obtain ⟨before, semicolons, after, hcs, hbefore, hsemicolons, hafter⟩ :=
      exists_trimLeft_eq_cleanedChars_append source.toList
    refine ⟨source.toList.takeWhile isBlank, before, semicolons, after, ?_, fun _ => List.mem_takeWhile_imp,
      hbefore, hsemicolons, hafter⟩
    rw [toList_cleaned, List.append_assoc, ← hcs]
    exact List.takeWhile_append_dropWhile.symm
  · rw [toList_cleaned]
    exact fun _ => isBlank_head?_cleanedChars
  · rw [toList_cleaned]
    exact fun _ => isBlank_getLast?_cleanedChars
  · rw [toList_cleaned]
    exact hasOneRun_iff
  · rw [hend, ← String.toList_inj, toList_cleaned, toList_cleaned, toList_cleaned]
    exact cleanedChars_idempotent_iff.symm
  · intro asName base hbase
    rw [BaseQuery.ofRaw] at hbase
    split at hbase
    · obtain rfl := Except.ok.inj hbase
      exact ⟨cleaned source, rfl, hend⟩
    · exact nomatch hbase

/-- **A semicolon in front of a blank and another semicolon is kept**, so that a query may still end in a
    semicolon, and is changed by cleaning it again. -/
theorem separated_semicolon_is_kept :
    cleaned "a; ;" = "a;" ∧ cleaned "a;" = "a" ∧
      ¬ ∀ source : String, (cleaned source).toList.getLast? ≠ some ';' := by
  have hkept : cleaned "a; ;" = "a;" := by decide +kernel
  refine ⟨hkept, by decide +kernel, fun hclaim => hclaim "a; ;" ?_⟩
  rw [hkept]
  decide +kernel

end SplitExport.Sql
