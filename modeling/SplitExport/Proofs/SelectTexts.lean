import Mathlib.Data.List.Forall2
import SplitExport.Proofs.Letters
import SplitExport.Proofs.Results
import SplitExport.Proofs.TrailingSymbols

/-!
# Select texts — which texts are taken for queries, and what cleaning leaves of them

A text is taken for a query if it reads as blanks, the word `SELECT`, and a blank with anything behind it.

* `SpellsSelect` says which texts spell the word: its six letters in either case, and also the long s in
  place of the first one. The table of the letters holds these spellings and no other
  (`spells_iff_forall₂`).
* `IsSelectText` takes a text apart, and a text is a query if and only if it can be taken apart
  (`isSelect_iff`).
* Cleaning takes a run of symbols off the end, which never reaches into the word, since no letter is a
  symbol (`IsSelectText.exists_cleaned`). It reaches the blank behind the word if and only if there is
  nothing else behind the word.

So a query stays a query, unless it is nothing but the word with one run of symbols behind it.
-/

namespace SplitExport.Sql

open SplitExport.Results SplitExport.Text

/-! ## Runs of symbols -/

/-- Blanks, semicolons and blanks, in this order. -/
def IsRun (cs : List Char) : Prop :=
  ∃ before semicolons after : List Char, cs = before ++ semicolons ++ after ∧
    (∀ c ∈ before, isBlank c = true) ∧ (∀ c ∈ semicolons, c = ';') ∧ ∀ c ∈ after, isBlank c = true

/-- A run consists of symbols. -/
theorem IsRun.forall_isSymbol {cs : List Char} (h : IsRun cs) : ∀ c ∈ cs, isSymbol c = true := by
  obtain ⟨before, semicolons, after, rfl, hbefore, hsemicolons, hafter⟩ := h
  exact isSymbol_of_mem_run hbefore hsemicolons hafter

/-- Cleaning takes blanks off the front and a run off the end. -/
theorem exists_run_behind_cleanedChars (cs : List Char) :
    ∃ run, trimLeft cs = cleanedChars cs ++ run ∧ IsRun run := by
  obtain ⟨before, semicolons, after, hcs, hbefore, hsemicolons, hafter⟩ :=
    exists_trimLeft_eq_cleanedChars_append cs
  exact ⟨_, hcs, before, semicolons, after, rfl, hbefore, hsemicolons, hafter⟩

/-! ## The word -/

/-- A text spells the word `SELECT` in ASCII letters of either case. -/
def SpellsPlainly (word : List Char) : Prop :=
  word.map Char.toUpper = ['S', 'E', 'L', 'E', 'C', 'T']

/-- A text spells the word `SELECT` in letters of either case, where the long s stands for the first
    letter, too. -/
def SpellsSelect (word : List Char) : Prop :=
  SpellsPlainly word ∨ ∃ more, word = 'ſ' :: more ∧ more.map Char.toUpper = ['E', 'L', 'E', 'C', 'T']

variable {cs lead word behind : List Char}

/-- Letters are looked up among a capital and its small letter as they are compared by their capitals. -/
theorem forall₂_mem_cases_iff {capitals : List Char} (h : ∀ u ∈ capitals, u.isUpper = true) :
    List.Forall₂ (fun c forms => c ∈ forms) word (capitals.map fun u => [u, u.toLower]) ↔
      word.map Char.toUpper = capitals := by
  induction capitals generalizing word with
  | nil => rw [List.map_nil, List.forall₂_nil_right_iff, List.map_eq_nil_iff]
  | cons u us ih =>
      cases word with
      | nil => simp
      | cons c cs =>
          have hfirst : c ∈ [u, u.toLower] ↔ c.toUpper = u := by
            rw [toUpper_eq_iff (h u List.mem_cons_self), List.mem_pair]
          rw [List.map_cons, List.forall₂_cons, hfirst, ih fun v hv => h v (List.mem_cons_of_mem _ hv),
            List.map_cons, List.cons.injEq]

/-- The table of letters holds the spellings of the word. -/
theorem spells_iff_forall₂ :
    SpellsSelect word ↔ List.Forall₂ (fun c forms => c ∈ forms) word selectLetters := by
  have hmore : ∀ more : List Char, List.Forall₂ (fun c forms => c ∈ forms) more selectLetters.tail ↔
      more.map Char.toUpper = ['E', 'L', 'E', 'C', 'T'] := by
    have hcapitals : ∀ u ∈ ['E', 'L', 'E', 'C', 'T'], u.isUpper = true := List.all_eq_true.mp rfl
    exact fun more => forall₂_mem_cases_iff hcapitals
  cases word with
  | nil => simp [SpellsSelect, SpellsPlainly, selectLetters]
  | cons c more =>
      have hfirst : c ∈ ['S', 's', 'ſ'] ↔ c.toUpper = 'S' ∨ c = 'ſ' := by
        rw [toUpper_eq_iff (by decide), show 'S'.toLower = 's' by decide, List.mem_cons, List.mem_pair, or_assoc]
      show _ ↔ List.Forall₂ _ (c :: more) (['S', 's', 'ſ'] :: selectLetters.tail)
      rw [List.forall₂_cons, hmore, hfirst, SpellsSelect, SpellsPlainly, List.map_cons, List.cons.injEq,
        or_and_right]
      refine or_congr_right ⟨?_, ?_⟩
      · rintro ⟨_, hcons, hspelled⟩
        obtain ⟨rfl, rfl⟩ := List.cons.inj hcons
        exact ⟨rfl, hspelled⟩
      · rintro ⟨rfl, hspelled⟩
        exact ⟨more, rfl, hspelled⟩

/-- The word has six letters. -/
theorem SpellsSelect.length_eq (h : SpellsSelect word) : word.length = 6 := by
  rcases h with h | ⟨more, rfl, h⟩
  · rw [← List.length_map (f := Char.toUpper), h]
    rfl
  · rw [List.length_cons, ← List.length_map (f := Char.toUpper), h]
    rfl

/-- No letter of the word is a symbol. -/
theorem SpellsSelect.forall_isSymbol (h : SpellsSelect word) : ∀ c ∈ word, isSymbol c = false := by
  -- a symbol is no letter in either case
  have hletter : ∀ c : Char, c.toUpper.isAlpha = true → isSymbol c = false := by
    intro c hc
    rw [isSymbol, isBlank_of_isAlpha_toUpper hc, Bool.false_or, beq_eq_false_iff_ne]
    rintro rfl
    exact absurd hc (by decide)
  have hspelled : ∀ {cs capitals : List Char}, cs.map Char.toUpper = capitals →
      (∀ u ∈ capitals, u.isAlpha = true) → ∀ c ∈ cs, isSymbol c = false := by
    rintro cs _ rfl hcapitals c hc
    exact hletter c (hcapitals _ (List.mem_map_of_mem hc))
  rcases h with h | ⟨more, rfl, h⟩
  · exact hspelled h (List.all_eq_true.mp rfl)
  · intro c hc
    rcases List.mem_cons.mp hc with rfl | hmem
    · decide
    · exact hspelled h (List.all_eq_true.mp rfl) c hmem

/-! ## Taking a text apart -/

/-- A text reads as blanks, the word, and a blank with anything behind it. -/
structure IsSelectText (cs lead word behind : List Char) : Prop where
  split : cs = lead ++ word ++ behind
  blanks : ∀ c ∈ lead, isBlank c = true
  word : SpellsSelect word
  /-- There is something behind the word, and it begins with a blank. -/
  behind : ∃ c ∈ behind.head?, isBlank c = true

/-- Letters, one from each entry of a table, and a blank behind them. -/
theorem startsWithSelect_iff {table : List (List Char)} :
    startsWithSelect table cs = true ↔ ∃ word behind, cs = word ++ behind ∧
      List.Forall₂ (fun c forms => c ∈ forms) word table ∧ ∃ c ∈ behind.head?, isBlank c = true := by
  induction table generalizing cs with
  | nil =>
      cases cs with
      | nil => simp [startsWithSelect]
      | cons c cs => simp [startsWithSelect]
  | cons forms more ih =>
      cases cs with
      | nil => simp [startsWithSelect]
      | cons c cs =>
          rw [startsWithSelect, Bool.and_eq_true, List.contains_iff_mem, ih]
          constructor
          · rintro ⟨hc, word, behind, rfl, hword, hbehind⟩
            exact ⟨c :: word, behind, rfl, .cons hc hword, hbehind⟩
          · rintro ⟨word, behind, hcs, hword, hbehind⟩
            obtain ⟨d, word, hd, hmore, rfl⟩ := List.forall₂_cons_right_iff.mp hword
            obtain ⟨rfl, rfl⟩ := List.cons.inj hcs
            exact ⟨hd, word, behind, rfl, hmore, hbehind⟩

/-- The word begins with no blank. -/
theorem SpellsSelect.isBlank_head? (h : SpellsSelect word) : ∀ c ∈ (word ++ behind).head?, isBlank c = false := by
  obtain ⟨c, more, rfl⟩ := List.exists_cons_of_length_eq_add_one h.length_eq
  intro d hd
  obtain rfl := Option.some.inj hd
  exact (Bool.or_eq_false_iff.mp (h.forall_isSymbol c List.mem_cons_self)).1

/-- The blanks in front of the word are all that trimming takes off the front. -/
theorem IsSelectText.trimLeft_eq (h : IsSelectText cs lead word behind) : trimLeft cs = word ++ behind := by
  rw [h.split, List.append_assoc]
  exact (takeWhile_dropWhile_append h.blanks h.word.isBlank_head?).2

/-- **A text is a query if and only if it reads as blanks, the word and a blank.** -/
theorem isSelect_iff {source : String} :
    isSelect source = true ↔ ∃ lead word behind, IsSelectText source.toList lead word behind := by
  rw [isSelect, startsWithSelect_iff]
  constructor
  · rintro ⟨word, behind, hsource, hword, hbehind⟩
    refine ⟨source.toList.takeWhile isBlank, word, behind, ?_, fun _ => List.mem_takeWhile_imp,
      spells_iff_forall₂.mpr hword, hbehind⟩
    rw [List.append_assoc, ← hsource]
    exact List.takeWhile_append_dropWhile.symm
  · rintro ⟨lead, word, behind, h⟩
    exact ⟨word, behind, h.trimLeft_eq, spells_iff_forall₂.mp h.word, h.behind⟩

/-- The base query of a text is made for queries, and holds the cleaned text. -/
theorem ofRaw_eq_ok_iff {asName source : String} {base : BaseQuery} :
    BaseQuery.ofRaw asName source = .ok base ↔ isSelect source = true ∧
      base.text = "SELECT * FROM (" ++ cleaned source ++ ") as " ++ asName ++ " WHERE 1=1" := by
  obtain ⟨text⟩ := base
  rw [BaseQuery.ofRaw, ite_eq_ok, BaseQuery.mk.injEq]

/-- A text that may be missing is a query if and only if a base query is made of it, whatever its name. -/
theorem givesSelect_iff (asName : String) {source : Option String} :
    givesSelect source = true ↔ ∃ base, BaseQuery.ofGiven asName source = .ok base := by
  cases source with
  | none => exact ⟨fun h => (nomatch h), fun ⟨_, h⟩ => nomatch h⟩
  | some source =>
      constructor
      · intro h
        exact ⟨_, ofRaw_eq_ok_iff.mpr ⟨h, rfl⟩⟩
      · rintro ⟨base, h⟩
        exact (ofRaw_eq_ok_iff.mp h).1

/-! ## Cleaning -/

/-- Cleaning leaves the word, and takes a run off what stands behind it. -/
theorem IsSelectText.exists_cleaned (h : IsSelectText cs lead word behind) :
    ∃ left run, cleanedChars cs = word ++ left ∧ behind = left ++ run ∧ IsRun run := by
  obtain ⟨run, hrun, hisRun⟩ := exists_run_behind_cleanedChars cs
  rw [h.trimLeft_eq] at hrun
  rcases List.append_eq_append_iff.mp hrun with ⟨left, hcleaned, hbehind⟩ | ⟨cut, hword, hcut⟩
  · exact ⟨left, run, hcleaned, hbehind, hisRun⟩
  · -- what is taken off the word would be letters and symbols at once
    have hnil : cut = [] := by
      refine List.eq_nil_iff_forall_not_mem.mpr fun c hc => ?_
      have hletter := h.word.forall_isSymbol c (hword ▸ List.mem_append_right _ hc)
      have hsymbol := hisRun.forall_isSymbol c (hcut ▸ List.mem_append_left _ hc)
      exact Bool.false_ne_true (hletter.symm.trans hsymbol)
    subst hnil
    rw [List.append_nil] at hword
    exact ⟨[], run, by rw [hword, List.append_nil], hcut.symm, hisRun⟩

/-- Cleaning leaves the word alone if and only if a run is all that stands behind it. -/
theorem IsSelectText.cleanedChars_eq_word_iff (h : IsSelectText cs lead word behind) :
    cleanedChars cs = word ↔ IsRun behind := by
  constructor
  · intro hcleaned
    obtain ⟨left, run, hleft, rfl, hrun⟩ := h.exists_cleaned
    obtain rfl : left = [] := List.append_cancel_left (hleft.symm.trans (hcleaned.trans (List.append_nil _).symm))
    exact hrun
  · rintro ⟨before, semicolons, after, hbehind, hbefore, hsemicolons, hafter⟩
    rw [cleanedChars, trim, h.trimLeft_eq, hbehind]
    exact trimRight_run (fun c hc => h.word.forall_isSymbol c (List.mem_of_mem_getLast? hc)) hbefore hsemicolons hafter

/-- The word alone is no query. -/
theorem SpellsSelect.not_isSelectText (h : SpellsSelect word) {lead other behind : List Char} :
    ¬ IsSelectText word lead other behind := by
  intro htext
  obtain ⟨c, hc, -⟩ := htext.behind
  have hlength := congrArg List.length htext.split
  have hbehind := List.length_pos_of_mem (List.mem_of_mem_head? hc)
  rw [List.length_append, List.length_append, h.length_eq, htext.word.length_eq] at hlength
  omega

/-- **A query stays a query** if and only if more than a run of symbols stands behind the word. -/
theorem IsSelectText.isSelect_cleaned_iff {source : String}
    (h : IsSelectText source.toList lead word behind) :
    isSelect (cleaned source) = true ↔ ¬ IsRun behind := by
  rw [← h.cleanedChars_eq_word_iff, isSelect_iff, toList_cleaned]
  constructor
  · rintro ⟨_, _, _, hcleaned⟩ hword
    rw [hword] at hcleaned
    exact h.word.not_isSelectText hcleaned
  · intro hword
    obtain ⟨left, run, hleft, hbehind, -⟩ := h.exists_cleaned
    obtain ⟨c, hc, hblank⟩ := h.behind
    cases left with
    | nil => exact absurd (hleft.trans (List.append_nil _)) hword
    | cons d left =>
        rw [hbehind] at hc
        exact ⟨[], word, d :: left,
          { split := hleft, blanks := fun _ hmem => (nomatch hmem), word := h.word, behind := ⟨c, hc, hblank⟩ }⟩

/-! ## Main result -/

/-- **Which texts are queries, and which stay queries.** A text is taken for a query, and makes a base
    query of its cleaned form, if and only if it reads as blanks, the word `SELECT` in letters of either
    case, and a blank with anything behind it. The long s stands for the first letter of the word, and only
    a text that begins with it is taken without having the word in ASCII letters. The cleaned form begins
    with the word, too. It is taken for a query again if and only if there is more behind the word than one
    run of symbols, and is the word alone otherwise. -/
theorem select_texts_are_spelled (source : String) :
    (isSelect source = true ↔ ∃ lead word behind, IsSelectText source.toList lead word behind) ∧
    ((trimLeft source.toList).head? ≠ some 'ſ' → (isSelect source = true ↔
      ∃ lead word behind, IsSelectText source.toList lead word behind ∧ SpellsPlainly word)) ∧
    (∀ asName base, BaseQuery.ofRaw asName source = .ok base ↔ isSelect source = true ∧
      base.text = "SELECT * FROM (" ++ cleaned source ++ ") as " ++ asName ++ " WHERE 1=1") ∧
    ∀ lead word behind, IsSelectText source.toList lead word behind →
      word <+: (cleaned source).toList ∧
      (isSelect (cleaned source) = true ↔ ¬ IsRun behind) ∧
      ((cleaned source).toList = word ↔ IsRun behind) := by
  refine ⟨isSelect_iff, fun hshort => ?_, fun asName base => ?_, fun lead word behind h => ?_⟩
  · rw [isSelect_iff]
    constructor
    · rintro ⟨lead, word, behind, h⟩
      refine ⟨lead, word, behind, h, h.word.resolve_right ?_⟩
      rintro ⟨more, rfl, -⟩
      exact hshort (congrArg List.head? h.trimLeft_eq)
    · rintro ⟨lead, word, behind, h, -⟩
      exact ⟨lead, word, behind, h⟩
  · exact ofRaw_eq_ok_iff
  · obtain ⟨left, run, hleft, -, -⟩ := h.exists_cleaned
    rw [toList_cleaned]
    exact ⟨⟨left, hleft.symm⟩, h.isSelect_cleaned_iff, h.cleanedChars_eq_word_iff⟩

/-- A text that begins with the long s is not spelled plainly, whatever stands in front of it. -/
theorem IsSelectText.not_spellsPlainly (h : IsSelectText cs lead word behind)
    (hlong : (trimLeft cs).head? = some 'ſ') : ¬ SpellsPlainly word := by
  intro hplain
  obtain ⟨c, more, rfl⟩ := List.exists_cons_of_length_eq_add_one h.word.length_eq
  rw [h.trimLeft_eq] at hlong
  obtain rfl : c = 'ſ' := Option.some.inj hlong
  exact absurd (List.cons.inj hplain).1 (by decide)

/-- **A text without the word is taken for a query, and a query is cleaned to the word alone**: the long s
    is no letter of the word, and the blank between the word and a semicolon is cleaned off with it. -/
theorem long_s_and_lone_word_are_taken :
    (isSelect "ſELECT 1" = true ∧
      ¬ ∃ lead word behind, IsSelectText "ſELECT 1".toList lead word behind ∧ SpellsPlainly word) ∧
    isSelect "SELECT ;" = true ∧ cleaned "SELECT ;" = "SELECT" ∧ isSelect (cleaned "SELECT ;") = false := by
  refine ⟨⟨by decide +kernel, ?_⟩, by decide +kernel, by decide +kernel, by decide +kernel⟩
  rintro ⟨lead, word, behind, h, hplain⟩
  exact h.not_spellsPlainly (by decide +kernel) hplain

end SplitExport.Sql
