import SplitExport.Proofs.SelectTexts
import SplitExport.Sql.ExportQuery

/-!
# Enclosed texts — which queries stay in the brackets around them

A query that is given as text is cleaned and put in brackets, and conditions are added behind the closing
one. Nothing reads it but for its first word, so that it may close the bracket itself, or take the closing
one into a literal or a comment.

* A `Place` says where in a text a character stands: outside of everything, in a literal, a quoted name or
  a comment. `scan` reads a text from a place on.
* `IsEnclosed` texts end in a plain place, and there is no semicolon and no bracket without its partner
  among the characters in plain places. The bracket behind a text closes the one in front of it exactly if
  the text ends in a plain place with its brackets balanced (`behindClosing_eq_iff`).
* Cleaning takes off what has no meaning in a plain place (`cleanedChars_prefix`), and so it keeps enclosed
  texts enclosed. The exception is a comment at the end of the last line, whose line feed it takes off.

The heart is `behindClosing_append`: looking for the closing bracket across a text comes to the place and
the depth at its end.
-/

namespace SplitExport.Sql

open SplitExport.Text

/-! ## Places -/

/-- Where in a text a character stands. -/
inductive Place where
  | plain
  /-- A plain place behind a dash, where another dash begins a comment. -/
  | dash
  /-- A plain place behind a slash, where a star begins a comment. -/
  | slash
  | literal
  | name
  | lineComment
  | blockComment
  /-- In a block comment behind a star, where a slash ends the comment. -/
  | star
deriving DecidableEq, Repr

namespace Place

/-- The places outside of literals, quoted names and comments. -/
def isPlain : Place → Bool
  | .plain | .dash | .slash => true
  | _ => false

/-- The place behind a character in a plain place that goes with nothing in front of it. -/
def entered (c : Char) : Place :=
  if c = '\'' then .literal else if c = '"' then .name else if c = '-' then .dash
  else if c = '/' then .slash else .plain

/-- The place behind a character. Two quotes in a literal leave it and enter it again. -/
def next : Place → Char → Place
  | .plain, c => entered c
  | .dash, c => if c = '-' then .lineComment else entered c
  | .slash, c => if c = '*' then .blockComment else entered c
  | .literal, c => if c = '\'' then .plain else .literal
  | .name, c => if c = '"' then .plain else .name
  | .lineComment, c => if c = '\n' then .plain else .lineComment
  | .blockComment, c => if c = '*' then .star else .blockComment
  | .star, c => if c = '/' then .plain else if c = '*' then .star else .blockComment

end Place

/-- The place behind a text. -/
def scan (p : Place) (cs : List Char) : Place :=
  cs.foldl Place.next p

/-- The characters of a text that stand in plain places. -/
def plainChars : Place → List Char → List Char
  | _, [] => []
  | p, c :: cs => if p.isPlain then c :: plainChars (p.next c) cs else plainChars (p.next c) cs

/-- How many brackets are open behind a character; nothing if it closes one that is not. -/
def bracketDepth (depth : Nat) (c : Char) : Option Nat :=
  if c = '(' then some (depth + 1)
  else if c = ')' then
    match depth with
    | 0 => none
    | depth + 1 => some depth
  else some depth

/-- How many brackets are open behind some characters. -/
def depthBehind (depth : Nat) (cs : List Char) : Option Nat :=
  cs.foldlM bracketDepth depth

/-- A text that can stand in brackets. -/
structure IsEnclosed (cs : List Char) : Prop where
  endsPlain : (scan .plain cs).isPlain = true
  noSemicolon : ';' ∉ plainChars .plain cs
  balanced : depthBehind 0 (plainChars .plain cs) = some 0

instance (cs : List Char) : Decidable (IsEnclosed cs) :=
  decidable_of_iff ((scan .plain cs).isPlain = true ∧ ';' ∉ plainChars .plain cs ∧
      depthBehind 0 (plainChars .plain cs) = some 0)
    ⟨fun h => ⟨h.1, h.2.1, h.2.2⟩, fun h => ⟨h.endsPlain, h.noSemicolon, h.balanced⟩⟩

variable {p : Place} {depth : Nat} {c : Char} {cs xs ys : List Char}

/-! ## One text behind another -/

theorem scan_append : scan p (xs ++ ys) = scan (scan p xs) ys :=
  List.foldl_append

theorem plainChars_append : plainChars p (xs ++ ys) = plainChars p xs ++ plainChars (scan p xs) ys := by
  induction xs generalizing p with
  | nil => rfl
  | cons x xs ih =>
      rw [List.cons_append, plainChars, plainChars, ih]
      split
      · rfl
      · rfl

theorem depthBehind_append :
    depthBehind depth (xs ++ ys) = (depthBehind depth xs).bind (depthBehind · ys) :=
  List.foldlM_append

/-! ## Symbols -/

theorem ne_of_isSymbol {d : Char} (hc : isSymbol c = true) (hd : isSymbol d = false) : c ≠ d := by
  rintro rfl
  exact Bool.false_ne_true (hd.symm.trans hc)

/-- Symbols lead nowhere from a plain place. -/
theorem Place.next_of_isSymbol (hp : p.isPlain = true) (hc : isSymbol c = true) : p.next c = .plain := by
  have hentered : entered c = .plain := by
    rw [entered, if_neg (ne_of_isSymbol hc (by decide)), if_neg (ne_of_isSymbol hc (by decide)),
      if_neg (ne_of_isSymbol hc (by decide)), if_neg (ne_of_isSymbol hc (by decide))]
  cases p with
  | plain => exact hentered
  | dash => rwa [next, if_neg (ne_of_isSymbol hc (by decide))]
  | slash => rwa [next, if_neg (ne_of_isSymbol hc (by decide))]
  | _ => exact absurd hp (by decide)

/-- Symbols do not lead out of literals, quoted names and block comments. -/
theorem Place.isPlain_next_of_isSymbol (hp : p.isPlain = false) (hline : p ≠ .lineComment)
    (hc : isSymbol c = true) : (p.next c).isPlain = false ∧ p.next c ≠ .lineComment := by
  cases p with
  | literal => rw [next, if_neg (ne_of_isSymbol hc (by decide))]; decide
  | name => rw [next, if_neg (ne_of_isSymbol hc (by decide))]; decide
  | lineComment => exact absurd rfl hline
  | blockComment => rw [next, if_neg (ne_of_isSymbol hc (by decide))]; decide
  | star =>
      rw [next, if_neg (ne_of_isSymbol hc (by decide)), if_neg (ne_of_isSymbol hc (by decide))]
      decide
  | _ => exact absurd hp (by decide)

/-- Behind symbols a plain place is plain. -/
theorem scan_of_isSymbol (hcs : ∀ c ∈ cs, isSymbol c = true) : scan .plain cs = .plain := by
  induction cs with
  | nil => rfl
  | cons c cs ih =>
      rw [scan, List.foldl_cons, Place.next_of_isSymbol rfl (hcs c List.mem_cons_self)]
      exact ih fun d hd => hcs d (List.mem_cons_of_mem _ hd)

/-- Behind symbols a literal, a quoted name or a block comment has not ended. -/
theorem isPlain_scan_of_isSymbol (hp : p.isPlain = false) (hline : p ≠ .lineComment)
    (hcs : ∀ c ∈ cs, isSymbol c = true) : (scan p cs).isPlain = false := by
  induction cs generalizing p with
  | nil => exact hp
  | cons c cs ih =>
      obtain ⟨hnext, hnextLine⟩ := Place.isPlain_next_of_isSymbol hp hline (hcs c List.mem_cons_self)
      exact ih hnext hnextLine fun d hd => hcs d (List.mem_cons_of_mem _ hd)

/-- Symbols in a plain place are all in plain places. -/
theorem plainChars_of_isSymbol (hp : p.isPlain = true) (hcs : ∀ c ∈ cs, isSymbol c = true) :
    plainChars p cs = cs := by
  induction cs generalizing p with
  | nil => rfl
  | cons c cs ih =>
      have hnext : (p.next c).isPlain = true := by
        rw [Place.next_of_isSymbol hp (hcs c List.mem_cons_self)]
        rfl
      rw [plainChars, if_pos hp, ih hnext fun d hd => hcs d (List.mem_cons_of_mem _ hd)]

/-- Symbols are no brackets. -/
theorem depthBehind_of_isSymbol (hcs : ∀ c ∈ cs, isSymbol c = true) : depthBehind depth cs = some depth := by
  induction cs with
  | nil => rfl
  | cons c cs ih =>
      have hc := hcs c List.mem_cons_self
      have hfirst : bracketDepth depth c = some depth := by
        unfold bracketDepth
        rw [if_neg (ne_of_isSymbol hc (by decide)), if_neg (ne_of_isSymbol hc (by decide))]
      rw [depthBehind, List.foldlM_cons, hfirst]
      exact ih fun d hd => hcs d (List.mem_cons_of_mem _ hd)

/-- Blanks in front of a text do not matter to whether it is enclosed. -/
theorem isEnclosed_append_iff {lead : List Char} (hlead : ∀ c ∈ lead, isBlank c = true) :
    IsEnclosed (lead ++ cs) ↔ IsEnclosed cs := by
  have hsymbols : ∀ c ∈ lead, isSymbol c = true := fun c hc => Bool.or_eq_true_iff.mpr (Or.inl (hlead c hc))
  have hscan : scan .plain (lead ++ cs) = scan .plain cs := by rw [scan_append, scan_of_isSymbol hsymbols]
  have hchars : plainChars .plain (lead ++ cs) = lead ++ plainChars .plain cs := by
    rw [plainChars_append, plainChars_of_isSymbol rfl hsymbols, scan_of_isSymbol hsymbols]
  have hsemicolon : ';' ∉ lead := fun hmem => absurd (hlead ';' hmem) (by decide)
  have hdepth : depthBehind 0 (lead ++ plainChars .plain cs) = depthBehind 0 (plainChars .plain cs) := by
    rw [depthBehind_append, depthBehind_of_isSymbol hsymbols]
    rfl
  constructor
  · rintro ⟨hends, hno, hbalanced⟩
    rw [hscan] at hends
    rw [hchars] at hno hbalanced
    exact ⟨hends, fun hmem => hno (List.mem_append_right _ hmem), hdepth.symm.trans hbalanced⟩
  · rintro ⟨hends, hno, hbalanced⟩
    refine ⟨by rwa [hscan], ?_, by rwa [hchars, hdepth]⟩
    rw [hchars, List.mem_append, not_or]
    exact ⟨hsemicolon, hno⟩

/-- Without the symbols at its end an enclosed text is enclosed, as far as it does not end in a comment
    that a line feed among them ends. -/
theorem IsEnclosed.of_append (h : IsEnclosed (xs ++ ys)) (hys : ∀ c ∈ ys, isSymbol c = true)
    (hline : scan .plain xs ≠ .lineComment) : IsEnclosed xs := by
  obtain ⟨hends, hno, hbalanced⟩ := h
  have hplain : (scan .plain xs).isPlain = true := by
    -- symbols end nothing but a line comment
    by_contra hp
    rw [Bool.not_eq_true] at hp
    rw [scan_append, isPlain_scan_of_isSymbol hp hline hys] at hends
    exact Bool.false_ne_true hends
  rw [plainChars_append, plainChars_of_isSymbol hplain hys] at hno hbalanced
  refine ⟨hplain, fun hmem => hno (List.mem_append_left _ hmem), ?_⟩
  rw [depthBehind_append] at hbalanced
  obtain ⟨d, hd, hzero⟩ := Option.bind_eq_some_iff.mp hbalanced
  rwa [depthBehind_of_isSymbol hys, ← hd] at hzero

/-! ## The closing bracket -/

/-- What stands behind the bracket that closes one in front of the text, read from a place where some more
    brackets are open. -/
def behindClosing : Place → Nat → List Char → Option (List Char)
  | _, _, [] => none
  | p, depth, c :: cs =>
      if p.isPlain then
        match bracketDepth depth c with
        | none => some cs
        | some depth => behindClosing (p.next c) depth cs
      else behindClosing (p.next c) depth cs

/-- What stands behind the bracket that closes the first one of a query. -/
def behindBrackets (query : String) : Option (List Char) :=
  behindClosing .plain 0 (query.toList.dropWhile (· != '(')).tail

/-- The closing bracket does not stand behind itself. -/
theorem length_lt_of_behindClosing {rest : List Char} (h : behindClosing p depth cs = some rest) :
    rest.length < cs.length := by
  induction cs generalizing p depth with
  | nil => exact nomatch h
  | cons c cs ih =>
      rw [behindClosing] at h
      split at h
      · split at h
        · obtain rfl := Option.some.inj h
          exact Nat.lt_succ_self _
        · exact Nat.lt_succ_of_lt (ih h)
      · exact Nat.lt_succ_of_lt (ih h)

/-- Across a text that closes no bracket in front of it, the closing one is looked for from the place and
    the depth at its end. -/
theorem behindClosing_append {depth' : Nat} (h : depthBehind depth (plainChars p xs) = some depth') :
    behindClosing p depth (xs ++ ys) = behindClosing (scan p xs) depth' ys := by
  induction xs generalizing p depth with
  | nil =>
      obtain rfl := Option.some.inj h
      rfl
  | cons x xs ih =>
      rw [List.cons_append, behindClosing]
      rw [plainChars] at h
      split at h
      · rename_i hp
        -- a bracket that closed the one in front of the text would leave no depth
        rw [depthBehind, List.foldlM_cons] at h
        obtain ⟨depth₁, hfirst, hmore⟩ := Option.bind_eq_some_iff.mp h
        rw [if_pos hp, hfirst]
        exact ih hmore
      · rename_i hp
        rw [if_neg hp]
        exact ih h

/-- A text that closes a bracket in front of it has the closing one inside of it. -/
theorem behindClosing_append_of_none (h : depthBehind depth (plainChars p xs) = none) (ys : List Char) :
    ∃ rest, behindClosing p depth (xs ++ ys) = some (rest ++ ys) := by
  induction xs generalizing p depth with
  | nil => exact nomatch h
  | cons x xs ih =>
      rw [List.cons_append, behindClosing]
      rw [plainChars] at h
      split at h
      · rename_i hp
        rw [if_pos hp]
        cases hfirst : bracketDepth depth x with
        | none => exact ⟨xs, rfl⟩
        | some depth₁ =>
            rw [depthBehind, List.foldlM_cons, hfirst] at h
            exact ih h
      · rename_i hp
        rw [if_neg hp]
        exact ih h

/-- **The bracket behind a text closes the one in front of it** if and only if the text ends in a plain
    place and its brackets are balanced. -/
theorem behindClosing_eq_iff : behindClosing .plain 0 (xs ++ ')' :: ys) = some ys ↔
    (scan .plain xs).isPlain = true ∧ depthBehind 0 (plainChars .plain xs) = some 0 := by
  constructor
  · intro h
    cases hdepth : depthBehind 0 (plainChars .plain xs) with
    | none =>
        obtain ⟨rest, hrest⟩ := behindClosing_append_of_none hdepth (')' :: ys)
        have hlength := congrArg List.length (Option.some.inj (hrest.symm.trans h))
        rw [List.length_append, List.length_cons] at hlength
        omega
    | some depth =>
        rw [behindClosing_append hdepth, behindClosing] at h
        -- a bracket that is found later leaves less behind it
        split at h
        · rename_i hplain
          cases depth with
          | zero => exact ⟨hplain, rfl⟩
          | succ depth => exact absurd (length_lt_of_behindClosing h) (Nat.lt_irrefl _)
        · exact absurd (length_lt_of_behindClosing h) (Nat.lt_irrefl _)
  · rintro ⟨hplain, hdepth⟩
    rw [behindClosing_append hdepth, behindClosing, if_pos hplain]
    rfl

/-! ## Cleaning -/

variable {front run : List Char}

/-- Dropping a class of characters leaves nothing of those behind a text. -/
theorem rdropWhile_prefix_of_prefix {q : Char → Bool} (h : cs <+: front ++ ys) (hys : ∀ c ∈ ys, q c = true) :
    cs.rdropWhile q <+: front := by
  obtain ⟨more, hmore⟩ := h
  rcases List.append_eq_append_iff.mp hmore with ⟨left, hfront, -⟩ | ⟨left, hcs, hleft⟩
  · rw [hfront]
    exact (List.rdropWhile_prefix _ _).trans (List.prefix_append _ _)
  · rw [hcs, rdropWhile_append_of_all fun c hc => hys c (hleft ▸ List.mem_append_left _ hc)]
    exact List.rdropWhile_prefix _ _

/-- Cleaning leaves nothing of a run behind a text. -/
theorem cleanedChars_prefix (hrun : IsRun run) (h : trimLeft cs = front ++ run) : cleanedChars cs <+: front := by
  obtain ⟨before, semicolons, after, rfl, hbefore, hsemicolons, hafter⟩ := hrun
  have hwhole : trimLeft cs = front ++ before ++ semicolons ++ after := by
    rw [h]
    simp only [List.append_assoc]
  -- one class of characters after the other, from the end
  have htrimmed : trim cs <+: front ++ before ++ semicolons :=
    rdropWhile_prefix_of_prefix (hwhole ▸ List.prefix_rfl) hafter
  have hdropped : dropRightWhile (· == ';') (trim cs) <+: front ++ before :=
    rdropWhile_prefix_of_prefix htrimmed fun c hc => beq_iff_eq.mpr (hsemicolons c hc)
  exact rdropWhile_prefix_of_prefix hdropped hbefore

/-- The blanks in front of a query are in front of any run at its end. -/
theorem trimLeft_append_of_isSelect {source : String} (hselect : isSelect source = true)
    (hsource : source.toList = front ++ run) (hrun : IsRun run) :
    trimLeft source.toList = trimLeft front ++ run := by
  obtain ⟨lead, word, behind, h⟩ := isSelect_iff.mp hselect
  have hword := h.trimLeft_eq
  rw [hsource, trimLeft, List.dropWhile_append] at hword ⊢
  split
  · rename_i hempty
    -- the word would stand in the run
    rw [if_pos hempty] at hword
    obtain ⟨c, more, rfl⟩ := List.exists_cons_of_length_eq_add_one h.word.length_eq
    have hc : c ∈ run := (List.dropWhile_sublist isBlank).mem (hword ▸ List.mem_cons_self)
    have hletter := h.word.forall_isSymbol c List.mem_cons_self
    exact absurd (hletter.symm.trans (hrun.forall_isSymbol c hc)) Bool.false_ne_true
  · rfl

/-- Whether a text is enclosed, apart from a run at its end. -/
def IsEnclosedBeforeRun (cs : List Char) : Prop :=
  ∃ front run, cs = front ++ run ∧ IsRun run ∧ IsEnclosed front

/-- **A query that is cleaned is enclosed** if and only if it is enclosed apart from a run at its end, and
    it is not cleaned to a text that ends in a line comment. -/
theorem isEnclosed_cleaned_iff {source : String} (hselect : isSelect source = true) :
    IsEnclosed (cleaned source).toList ↔
      IsEnclosedBeforeRun source.toList ∧ scan .plain (cleaned source).toList ≠ .lineComment := by
  rw [toList_cleaned]
  have hblanks : ∀ cs : List Char, ∀ c ∈ cs.takeWhile isBlank, isBlank c = true :=
    fun _ _ => List.mem_takeWhile_imp
  constructor
  · intro h
    obtain ⟨run, hrun, hisRun⟩ := exists_run_behind_cleanedChars source.toList
    refine ⟨⟨source.toList.takeWhile isBlank ++ cleanedChars source.toList, run, ?_, hisRun, ?_⟩, ?_⟩
    · rw [List.append_assoc, ← hrun]
      exact List.takeWhile_append_dropWhile.symm
    · exact (isEnclosed_append_iff (hblanks _)).mpr h
    · intro hline
      have hends := h.endsPlain
      rw [hline] at hends
      exact Bool.false_ne_true hends
  · rintro ⟨⟨front, run, hsource, hrun, henclosed⟩, hline⟩
    have htrimmed := trimLeft_append_of_isSelect hselect hsource hrun
    -- no semicolon of the run is left, or it would be in the brackets
    obtain ⟨more, hmore⟩ := cleanedChars_prefix hrun htrimmed
    -- what cleaning takes off the enclosed text belongs to the run that it takes off
    have hsymbols : ∀ c ∈ more, isSymbol c = true := by
      obtain ⟨run', hrun', hisRun'⟩ := exists_run_behind_cleanedChars source.toList
      rw [htrimmed, ← hmore, List.append_assoc] at hrun'
      intro c hc
      refine hisRun'.forall_isSymbol c ?_
      rw [← List.append_cancel_left hrun']
      exact List.mem_append_left _ hc
    refine IsEnclosed.of_append ?_ hsymbols hline
    rw [hmore]
    refine (isEnclosed_append_iff (hblanks front)).mp ?_
    rwa [show front.takeWhile isBlank ++ trimLeft front = front from List.takeWhile_append_dropWhile]

/-! ## Main result -/

/-- The text of the first brackets of a query, and what stands behind them. -/
theorem behindBrackets_assemble (inner : String) (asName partition range limit : String) :
    behindBrackets (assemble ("SELECT * FROM (" ++ inner ++ ") as " ++ asName ++ " WHERE 1=1") partition range limit) =
      behindClosing .plain 0
        (inner.toList ++ ')' :: (" as " ++ asName ++ " WHERE 1=1" ++ partition ++ range ++ limit).toList) := by
  have hopening : "SELECT * FROM (".toList = "SELECT * FROM ".toList ++ ['('] := by decide
  have hclosing : ") as ".toList = ')' :: " as ".toList := by decide
  rw [behindBrackets, assemble]
  simp only [String.toList_append, List.append_assoc]
  rw [hopening, hclosing, List.append_assoc, List.dropWhile_append_of_pos (List.all_eq_true.mp rfl)]
  rfl

/-- **When a query stays in the brackets around it.** A text that is taken for a query is put in brackets,
    which are opened in a plain place. The text in them is enclosed if and only if the query itself is,
    apart from a run of blanks, semicolons and blanks at its end, and the line feed of a comment at its end
    is not cleaned off with them. Exactly then there is no semicolon in a plain place in the brackets, and
    whatever clauses follow, the bracket behind the text is the one that closes the bracket in front of it,
    so that the clauses apply to all that the brackets hold. -/
theorem query_is_enclosed_iff {source : String} (hselect : isSelect source = true) (asName : String) :
    ∃ base, BaseQuery.ofRaw asName source = .ok base ∧
      base.text = "SELECT * FROM (" ++ cleaned source ++ ") as " ++ asName ++ " WHERE 1=1" ∧
      scan .plain "SELECT * FROM (".toList = .plain ∧
      (IsEnclosed (cleaned source).toList ↔
        IsEnclosedBeforeRun source.toList ∧ scan .plain (cleaned source).toList ≠ .lineComment) ∧
      ∀ partition range limit : String, IsEnclosed (cleaned source).toList ↔
        ';' ∉ plainChars .plain (cleaned source).toList ∧
        behindBrackets (assemble base.text partition range limit) =
          some (" as " ++ asName ++ " WHERE 1=1" ++ partition ++ range ++ limit).toList := by
  refine ⟨_, if_pos hselect, rfl, by decide, isEnclosed_cleaned_iff hselect, fun partition range limit => ?_⟩
  rw [behindBrackets_assemble, behindClosing_eq_iff]
  constructor
  · rintro ⟨hends, hno, hbalanced⟩
    exact ⟨hno, hends, hbalanced⟩
  · rintro ⟨hno, hends, hbalanced⟩
    exact ⟨hends, hno, hbalanced⟩

/-- A bracket in a literal and a semicolon behind a query do not matter. -/
theorem quoted_bracket_is_enclosed :
    isSelect "SELECT (')') ;" = true ∧ cleaned "SELECT (')') ;" = "SELECT (')')" ∧
      IsEnclosed (cleaned "SELECT (')') ;").toList ∧
      behindBrackets (assemble "SELECT * FROM (SELECT (')')) as q WHERE 1=1" "" " AND id >= 0" "") =
        some " as q WHERE 1=1 AND id >= 0".toList := by
  have hselect : isSelect "SELECT (')') ;" = true := by decide +kernel
  have hcleaned : cleaned "SELECT (')') ;" = "SELECT (')')" := by decide +kernel
  obtain ⟨base, -, htext, -, henclosed, hclauses⟩ := query_is_enclosed_iff hselect "q"
  have hinner : IsEnclosed (cleaned "SELECT (')') ;").toList := by
    refine henclosed.mpr ⟨⟨"SELECT (')')".toList, " ;".toList, by decide, ?_, by decide +kernel⟩, ?_⟩
    · exact ⟨[' '], [';'], [], rfl, List.all_eq_true.mp rfl, fun _ => List.mem_singleton.mp, fun _ hc => nomatch hc⟩
    · rw [hcleaned]
      decide +kernel
  refine ⟨hselect, hcleaned, hinner, ?_⟩
  have hbehind := ((hclauses "" " AND id >= 0" "").mp hinner).2
  rw [htext, hcleaned] at hbehind
  exact hbehind

/-- **A query may leave the brackets around it**: one that closes the bracket itself, one with another
    statement behind a semicolon, and one whose comment ended in front of the line feed that is cleaned
    off. -/
theorem queries_leave_their_brackets :
    (isSelect "SELECT 1)" = true ∧ ¬ IsEnclosed (cleaned "SELECT 1)").toList) ∧
      (isSelect "SELECT 1; SELECT 2" = true ∧ ¬ IsEnclosed (cleaned "SELECT 1; SELECT 2").toList) ∧
      (isSelect "SELECT 1 --\n" = true ∧ IsEnclosed "SELECT 1 --\n".toList ∧
        ¬ IsEnclosed (cleaned "SELECT 1 --\n").toList) ∧
      ¬ ∀ source : String, isSelect source = true → IsEnclosed (cleaned source).toList := by
  have hselect : isSelect "SELECT 1)" = true := by decide +kernel
  have hopen : ¬ IsEnclosed (cleaned "SELECT 1)").toList := by decide +kernel
  refine ⟨⟨hselect, hopen⟩, ⟨by decide +kernel, by decide +kernel⟩,
    ⟨by decide +kernel, by decide +kernel, by decide +kernel⟩, fun hclaim => ?_⟩
  exact hopen (hclaim _ hselect)

end SplitExport.Sql
