import Mathlib.Data.List.Basic

/-!
# Results — what a computation that succeeded went through

A computation in steps succeeds if each step does, on what the step before it gave.

* The inversions take such a computation apart, one for each way of joining steps.
* `Yields` says of every result that a computation may give that it has a property, and `FailsWith` says
  it of every cause; both are closed under the same ways of joining.
-/

namespace SplitExport.Results

variable {ε δ α β : Type} {x : Except ε α} {a a' : α} {b : β}

/-! ## Inversions -/

/-- Two steps succeed if the first does and the second does on what the first gave. -/
theorem bind_eq_ok {f : α → Except ε β} : x >>= f = .ok b ↔ ∃ a, x = .ok a ∧ f a = .ok b := by
  constructor
  · intro h
    cases x with
    | error e => exact nomatch h
    | ok a => exact ⟨a, rfl, h⟩
  · rintro ⟨a, rfl, h⟩
    exact h

/-- Two steps fail if the first does, or the second does on what the first gave. -/
theorem bind_eq_error {f : α → Except ε β} {e : ε} :
    x >>= f = .error e ↔ x = .error e ∨ ∃ a, x = .ok a ∧ f a = .error e := by
  constructor
  · intro h
    cases x with
    | error e' => exact Or.inl (congrArg Except.error (Except.error.inj h))
    | ok a => exact Or.inr ⟨a, rfl, h⟩
  · rintro (rfl | ⟨a, rfl, h⟩)
    · rfl
    · exact h

/-- Two second steps that agree on what the first step gives agree behind it. -/
theorem bind_congr_ok {f g : α → Except ε β} (h : ∀ a, x = .ok a → f a = g a) : x >>= f = x >>= g := by
  cases x with
  | error e => rfl
  | ok a => exact h a rfl

/-- A result that is only rewritten is there if what is rewritten is. -/
theorem map_eq_ok {f : α → β} : x.map f = .ok b ↔ ∃ a, x = .ok a ∧ f a = b := by
  constructor
  · intro h
    cases x with
    | error e => exact nomatch h
    | ok a => exact ⟨a, rfl, Except.ok.inj h⟩
  · rintro ⟨a, rfl, rfl⟩
    rfl

/-- What succeeds on a condition alone succeeds if the condition holds. -/
theorem ite_eq_ok {p : Prop} [Decidable p] {e : ε} :
    (if p then .ok a else .error e : Except ε α) = .ok a' ↔ p ∧ a' = a := by
  by_cases hp : p
  · rw [if_pos hp]
    exact ⟨fun h => ⟨hp, (Except.ok.inj h).symm⟩, fun h => congrArg Except.ok h.2.symm⟩
  · rw [if_neg hp]
    constructor
    · intro h
      cases h
    · exact fun h => absurd h.1 hp

/-- A list of computations succeeds if the first does and the others do. -/
theorem mapM_cons_eq_ok {f : β → Except ε α} {x : β} {xs : List β} {ys : List α} :
    (x :: xs).mapM f = .ok ys ↔ ∃ z zs, f x = .ok z ∧ xs.mapM f = .ok zs ∧ ys = z :: zs := by
  rw [List.mapM_cons]
  constructor
  · intro h
    obtain ⟨z, hz, h⟩ := bind_eq_ok.mp h
    obtain ⟨zs, hzs, h⟩ := bind_eq_ok.mp h
    exact ⟨z, zs, hz, hzs, (Except.ok.inj h).symm⟩
  · rintro ⟨z, zs, hz, hzs, rfl⟩
    rw [hz, hzs]
    rfl

/-- A list of computations that all succeed gives the list of their values. -/
theorem mapM_eq_ok_map {f : β → Except ε α} {value : β → α} {xs : List β}
    (h : ∀ x ∈ xs, f x = .ok (value x)) : xs.mapM f = .ok (xs.map value) := by
  induction xs with
  | nil => rfl
  | cons x xs ih =>
      have hrest := ih fun y hy => h y (List.mem_cons_of_mem _ hy)
      exact mapM_cons_eq_ok.mpr ⟨value x, xs.map value, h x List.mem_cons_self, hrest, rfl⟩

/-- A list of computations that give back what they are given gives back the list. -/
theorem mapM_eq_ok_self {f : α → Except ε α} {xs : List α} (h : ∀ x ∈ xs, f x = .ok x) :
    xs.mapM f = .ok xs := by
  have hvalues := mapM_eq_ok_map h
  rwa [List.map_id'] at hvalues

/-- Each result of a list of computations is that of the computation in its place. -/
theorem exists_of_mapM_eq_ok {f : β → Except ε α} {xs : List β} {ys : List α} (h : xs.mapM f = .ok ys) :
    ys.length = xs.length ∧
      ∀ (i : Nat) (y : α), ys[i]? = some y → ∃ x, xs[i]? = some x ∧ f x = .ok y := by
  induction xs generalizing ys with
  | nil =>
      obtain rfl := Except.ok.inj h
      exact ⟨rfl, fun i y hy => nomatch hy⟩
  | cons x xs ih =>
      obtain ⟨z, zs, hz, hzs, rfl⟩ := mapM_cons_eq_ok.mp h
      obtain ⟨hlength, hrest⟩ := ih hzs
      refine ⟨congrArg (· + 1) hlength, fun i y hy => ?_⟩
      cases i with
      | zero => exact ⟨x, rfl, Option.some.inj hy ▸ hz⟩
      | succ i => exact hrest i y hy

/-- Renaming causes changes no success. -/
theorem mapError_eq_ok {f : ε → δ} : x.mapError f = .ok a ↔ x = .ok a := by
  cases x with
  | error e => exact ⟨fun h => (nomatch h), fun h => (nomatch h)⟩
  | ok a' => exact ⟨fun h => by rw [Except.ok.inj h], fun h => by rw [Except.ok.inj h]; rfl⟩

/-- A renamed cause is the name of a cause. -/
theorem mapError_eq_error {f : ε → δ} {d : δ} :
    x.mapError f = .error d ↔ ∃ e, x = .error e ∧ f e = d := by
  constructor
  · intro h
    cases x with
    | error e => exact ⟨e, rfl, Except.error.inj h⟩
    | ok a => exact nomatch h
  · rintro ⟨e, rfl, rfl⟩
    rfl

/-- A computation that is there once its causes are forgotten gave a result. -/
theorem eq_ok_of_toOption (h : x.toOption = some a) : x = .ok a := by
  cases x with
  | error e => exact nomatch h
  | ok a' => exact congrArg Except.ok (Option.some.inj h)

/-! ## Properties of results -/

/-- Every result of a computation has a property. -/
def Yields (P : α → Prop) (x : Except ε α) : Prop :=
  ∀ a, x = .ok a → P a

variable {P : α → Prop} {Q : β → Prop}

theorem yields_ok (h : P a) : Yields P (.ok a : Except ε α) := by
  intro a' ha
  obtain rfl := Except.ok.inj ha
  exact h

theorem yields_error (e : ε) : Yields P (.error e : Except ε α) :=
  fun _ ha => nomatch ha

/-- A second step may count on what the first one yields. -/
theorem yields_bind {f : α → Except ε β} (hx : Yields P x) (hf : ∀ a, P a → Yields Q (f a)) :
    Yields Q (x >>= f) := by
  intro b hb
  obtain ⟨a, ha, hb⟩ := bind_eq_ok.mp hb
  exact hf a (hx a ha) b hb

/-- A second step that yields a property whatever it is given yields it behind any step. -/
theorem yields_after {f : α → Except ε β} (hf : ∀ a, Yields Q (f a)) : Yields Q (x >>= f) := by
  intro b hb
  obtain ⟨a, -, hb⟩ := bind_eq_ok.mp hb
  exact hf a b hb

theorem yields_mapError {f : ε → δ} (hx : Yields P x) : Yields P (x.mapError f) :=
  fun a ha => hx a (mapError_eq_ok.mp ha)

/-- What each of a list of computations yields holds of all their results. -/
theorem yields_mapM {f : β → Except ε α} (hf : ∀ b, Yields P (f b)) (xs : List β) :
    Yields (fun ys => ∀ y ∈ ys, P y) (xs.mapM f) := by
  induction xs with
  | nil => exact yields_ok fun y hy => nomatch hy
  | cons x xs ih =>
      rw [List.mapM_cons]
      refine yields_bind (hf x) fun z hz => yields_bind ih fun zs hzs => yields_ok ?_
      intro y hy
      rcases List.mem_cons.mp hy with rfl | hmem
      · exact hz
      · exact hzs y hmem

/-! ## Properties of causes -/

/-- Every cause that a computation may fail with has a property. -/
def FailsWith (R : ε → Prop) (x : Except ε α) : Prop :=
  ∀ e, x = .error e → R e

variable {R : ε → Prop}

theorem failsWith_ok (a : α) : FailsWith R (.ok a : Except ε α) :=
  fun _ he => nomatch he

theorem failsWith_error {e : ε} (h : R e) : FailsWith R (.error e : Except ε α) := by
  intro e' he
  obtain rfl := Except.error.inj he
  exact h

/-- A second step is only asked for its causes on what the first one gave. -/
theorem failsWith_bind {f : α → Except ε β} (hx : FailsWith R x)
    (hf : ∀ a, x = .ok a → FailsWith R (f a)) : FailsWith R (x >>= f) := by
  intro e he
  rcases bind_eq_error.mp he with hfirst | ⟨a, ha, hsecond⟩
  · exact hx e hfirst
  · exact hf a ha e hsecond

theorem failsWith_mapError {f : δ → ε} {y : Except δ α} (hy : FailsWith (fun d => R (f d)) y) :
    FailsWith R (y.mapError f) := by
  intro e he
  obtain ⟨d, hd, rfl⟩ := mapError_eq_error.mp he
  exact hy d hd

end SplitExport.Results
