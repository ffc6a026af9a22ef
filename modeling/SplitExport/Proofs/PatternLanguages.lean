import Mathlib.Computability.Language
import SplitExport.Pattern.Matching

/-!
# Pattern languages — the words that a pattern takes off a text

A pattern is matched with what follows it given as a function. For the patterns that depend on nothing but
the characters in front of them, all that matters is which words they take:

* `Ways.Take` says that ways lead on exactly where a word of a language stands and what follows fits behind
  it;
* characters, sequences, choices and repetitions take the words that one expects, a repetition because none
  of its rounds is empty, so that its fuel suffices;
* a pattern between the two ends of a text fits the words of its language, and these words with a line
  feed behind them (`Pattern.fitsFront_ends_iff`).
-/

namespace SplitExport

open scoped Computability

variable {cs : List Char} {l m : Language Char}

/-! ## Ways -/

/-- One of two ways leads on if the first one does, or else the second. -/
theorem isSome_orElse {α : Type} {x : Option α} {other : Unit → Option α} :
    (x.orElse other).isSome = true ↔ x.isSome = true ∨ (other ()).isSome = true := by
  cases x with
  | none => exact ⟨Or.inr, fun h => h.resolve_left Bool.false_ne_true⟩
  | some a => exact ⟨fun _ => Or.inl rfl, fun _ => rfl⟩

/-- Behind a word stands what is left of the text. -/
theorem drop_add_length {i : Nat} {word rest : List Char} (h : cs.drop i = word ++ rest) :
    cs.drop (i + word.length) = rest := by
  rw [← List.drop_drop, h, List.drop_left]

namespace Ways

variable {ways others : Ways}

/-- Ways that lead on exactly where a word of a language stands and what follows fits behind it. -/
def Take (cs : List Char) (ways : Ways) (l : Language Char) : Prop :=
  ∀ (c : Cursor) (next : Next), (ways c next).isSome = true ↔
    ∃ word ∈ l, ∃ rest, cs.drop c.position = word ++ rest ∧
      (next { c with position := c.position + word.length }).isSome = true

/-- Ways behind ways take a word of the first and behind it a word of the second. -/
theorem take_then (h : Take cs ways l) (hothers : Take cs others m) :
    Take cs (fun c next => ways c fun c => others c next) (l * m) := by
  intro c next
  show (ways c fun c => others c next).isSome = true ↔ _
  rw [h]
  constructor
  · rintro ⟨u, hu, rest, hdrop, hmore⟩
    obtain ⟨v, hv, tail, hdrop', hnext⟩ := (hothers _ _).mp hmore
    rw [show cs.drop (c.position + u.length) = rest from drop_add_length hdrop] at hdrop'
    refine ⟨u ++ v, Language.append_mem_mul hu hv, tail, by rw [hdrop, hdrop', List.append_assoc], ?_⟩
    rw [List.length_append, ← Nat.add_assoc]
    exact hnext
  · rintro ⟨word, hword, rest, hdrop, hnext⟩
    obtain ⟨u, hu, v, hv, rfl⟩ := Language.mem_mul.mp hword
    rw [List.append_assoc] at hdrop
    rw [List.length_append, ← Nat.add_assoc] at hnext
    exact ⟨u, hu, v ++ rest, hdrop, (hothers _ _).mpr ⟨v, hv, rest, drop_add_length hdrop, hnext⟩⟩

/-- Repeated ways take any number of words, if none of them is empty and the fuel lasts to the end of the
    text. -/
theorem mostOf_take (h : Take cs ways l) (hl : [] ∉ l) (next : Next) (fuel : Nat) (last : Option Nat)
    (c : Cursor) (hfuel : cs.length ≤ fuel + c.position) (hlast : last ≠ some c.position) :
    (mostOf ways fuel none last c next).isSome = true ↔
      ∃ word ∈ l∗, ∃ rest, cs.drop c.position = word ++ rest ∧
        (next { c with position := c.position + word.length }).isSome = true := by
  -- each round moves the cursor on, so that it is never the place of the round before
  induction fuel generalizing last c with
  | zero =>
      have hend : cs.drop c.position = [] := List.drop_eq_nil_of_le (by omega)
      rw [hend]
      constructor
      · intro hnext
        exact ⟨[], Language.nil_mem_kstar l, [], rfl, hnext⟩
      · rintro ⟨word, -, rest, hword, hnext⟩
        obtain rfl : word = [] := (List.append_eq_nil_iff.mp hword.symm).1
        exact hnext
  | succ fuel ih =>
      have hmay : mayRepeat none last c = true := by simp [mayRepeat, hlast]
      have hround : ∀ word ∈ l, cs.length ≤ fuel + (c.position + word.length) ∧
          some c.position ≠ some (c.position + word.length) := by
        intro word hword
        have hpos : 0 < word.length := by
          cases word with
          | nil => exact absurd hword hl
          | cons => exact Nat.succ_pos _
        refine ⟨by omega, fun hsame => ?_⟩
        have hplace := Option.some.inj hsame
        omega
      rw [mostOf, if_pos hmay, isSome_orElse, h, Option.map_none]
      constructor
      · rintro (⟨u, hu, rest, hdrop, hmore⟩ | hnext)
        · obtain ⟨hleft, hmoved⟩ := hround u hu
          obtain ⟨v, hv, tail, hdrop', hnext⟩ := (ih _ _ hleft hmoved).mp hmore
          rw [show cs.drop (c.position + u.length) = rest from drop_add_length hdrop] at hdrop'
          refine ⟨u ++ v, ?_, tail, by rw [hdrop, hdrop', List.append_assoc], ?_⟩
          · rw [← Language.one_add_self_mul_kstar_eq_kstar l]
            exact Or.inr (Language.append_mem_mul hu hv)
          · rw [List.length_append, ← Nat.add_assoc]
            exact hnext
        · exact ⟨[], Language.nil_mem_kstar l, _, rfl, hnext⟩
      · rintro ⟨word, hword, rest, hdrop, hnext⟩
        rw [← Language.one_add_self_mul_kstar_eq_kstar l] at hword
        rcases hword with hnil | hmore
        · obtain rfl : word = [] := hnil
          exact Or.inr hnext
        · obtain ⟨u, hu, v, hv, rfl⟩ := Language.mem_mul.mp hmore
          rw [List.append_assoc] at hdrop
          obtain ⟨hleft, hmoved⟩ := hround u hu
          refine Or.inl ⟨u, hu, v ++ rest, hdrop, (ih _ _ hleft hmoved).mpr ?_⟩
          rw [List.length_append, ← Nat.add_assoc] at hnext
          exact ⟨v, hv, rest, drop_add_length hdrop, hnext⟩

end Ways

/-! ## Patterns -/

/-- The words of one character of a set. -/
def CharTest.words (test : CharTest) : Language Char :=
  {word | ∃ x, word = [x] ∧ test.holds x = true}

namespace Pattern

variable {p q : Pattern}

/-- A pattern that takes the words of a language off a text. -/
def Takes (cs : List Char) (p : Pattern) (l : Language Char) : Prop :=
  Ways.Take cs (p.run cs.toArray) l

/-- A set of characters takes one of them. -/
theorem takes_char (cs : List Char) (test : CharTest) : Takes cs (.char test) test.words := by
  intro c next
  simp only [run, List.getElem?_toArray]
  constructor
  · intro h
    split at h
    · rename_i x hx
      split at h
      · rename_i hholds
        obtain ⟨hlt, rfl⟩ := List.getElem?_eq_some_iff.mp hx
        exact ⟨[cs[c.position]], ⟨_, rfl, hholds⟩, _, List.drop_eq_getElem_cons hlt, h⟩
      · exact nomatch h
    · exact nomatch h
  · rintro ⟨_, ⟨x, rfl, hholds⟩, rest, hdrop, hnext⟩
    have hx : cs[c.position]? = some x := by
      rw [← List.head?_drop, hdrop]
      rfl
    rw [hx]
    dsimp only
    rw [if_pos hholds]
    exact hnext

/-- A sequence takes a word of either part, one behind the other. -/
theorem takes_sequence (hp : Takes cs p l) (hq : Takes cs q m) : Takes cs (.sequence p q) (l * m) := by
  show Ways.Take cs (fun c next => p.run cs.toArray c fun c => q.run cs.toArray c next) (l * m)
  exact Ways.take_then hp hq

/-- A choice takes the words of both parts. -/
theorem takes_choice (hp : Takes cs p l) (hq : Takes cs q m) : Takes cs (.choice p q) (l + m) := by
  intro c next
  show ((p.run cs.toArray c next).orElse fun _ => q.run cs.toArray c next).isSome = true ↔ _
  rw [isSome_orElse, hp, hq]
  constructor
  · rintro (⟨word, hword, h⟩ | ⟨word, hword, h⟩)
    · exact ⟨word, Or.inl hword, h⟩
    · exact ⟨word, Or.inr hword, h⟩
  · rintro ⟨word, hword | hword, h⟩
    · exact Or.inl ⟨word, hword, h⟩
    · exact Or.inr ⟨word, hword, h⟩

/-- A part that is repeated at least once takes one word and any number of others behind it. -/
theorem takes_repeated (hp : Takes cs p l) (hl : [] ∉ l) :
    Takes cs (.repeated .greedy 1 none p) (l * l∗) := by
  have hmore : Ways.Take cs
      (fun c next => mostOf (p.run cs.toArray) (cs.toArray.size + 2) none none c next) l∗ := by
    intro c next
    have hsize : cs.toArray.size = cs.length := List.size_toArray
    exact Ways.mostOf_take hp hl next _ none c (by omega) (by simp)
  show Ways.Take cs (fun c next => p.run cs.toArray c fun c =>
    mostOf (p.run cs.toArray) (cs.toArray.size + 2) none none c next) (l * l∗)
  exact Ways.take_then hp hmore

/-- **Between the ends of a text** a pattern fits the words of its language, and these words with a line
    feed behind them, since a line feed at the very end does not count. -/
theorem fitsFront_ends_iff (hp : Takes cs p l) :
    (sequence (.place .start) (.sequence p (.place .finish))).fitsFront cs = true ↔
      cs ∈ l ∨ ∃ word ∈ l, cs = word ++ ['\n'] := by
  have hrun : (sequence (.place .start) (.sequence p (.place .finish))).fitsFront cs =
      (p.run cs.toArray {} fun c =>
        if Place.finish.holds cs.toArray c.position then some c else none).isSome := rfl
  rw [hrun, hp]
  -- the place of the end lies behind the text, and in front of a line feed that ends it
  have hfinish : ∀ word rest : List Char, cs = word ++ rest →
      (Place.finish.holds cs.toArray word.length = true ↔ rest = [] ∨ rest = ['\n']) := by
    rintro word rest rfl
    match rest with
    | [] => simp [Place.holds]
    | [x] => simp [Place.holds]
    | x :: y :: rest => simp [Place.holds]
  constructor
  · rintro ⟨word, hword, rest, hdrop, hnext⟩
    obtain rfl : cs = word ++ rest := hdrop
    rw [show (({} : Cursor).position + word.length) = word.length from Nat.zero_add _] at hnext
    split at hnext
    · rename_i hholds
      rcases (hfinish word rest rfl).mp hholds with rfl | rfl
      · exact Or.inl (by rw [List.append_nil]; exact hword)
      · exact Or.inr ⟨word, hword, rfl⟩
    · exact nomatch hnext
  · intro h
    obtain ⟨word, rest, hword, hcs, hrest⟩ : ∃ word rest, word ∈ l ∧ cs = word ++ rest ∧
        (rest = [] ∨ rest = ['\n']) := by
      rcases h with hword | ⟨word, hword, hcs⟩
      · exact ⟨cs, [], hword, (List.append_nil _).symm, Or.inl rfl⟩
      · exact ⟨word, ['\n'], hword, hcs, Or.inr rfl⟩
    refine ⟨word, hword, rest, hcs, ?_⟩
    rw [show (({} : Cursor).position + word.length) = word.length from Nat.zero_add _,
      if_pos ((hfinish word rest hcs).mpr hrest)]
    rfl

end Pattern

end SplitExport
