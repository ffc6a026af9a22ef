import SplitExport.Command.Arguments
import SplitExport.Proofs.Results

/-!
# Command lines — what reading one leaves true of the arguments

The arguments are set flag by flag while the tokens are gone through. So what holds of the arguments that
nothing was set in, and is kept by every flag, holds of all arguments that a command line is read to
(`holds_of_read`). That a database is named is kept in this way; a flag that needs a value may still be
given none (`Arguments.LacksValue`).
-/

namespace SplitExport.Command

open SplitExport.Results

variable {line : List String} {a : Arguments}

/-! ## Reading -/

/-- What every flag leaves true of arguments is true of those that tokens are read to. -/
theorem yields_readFrom {P : Arguments → Prop}
    (hset : ∀ a, P a → ∀ flag text, Yields P (Arguments.set a flag text)) (tokens : List Token) (ha : P a) :
    Yields (fun read => ∀ b rest, read = some (b, rest) → P b) (readFrom a tokens) := by
  induction a, tokens using readFrom.induct with
  | case1 a =>
      rw [readFrom]
      refine yields_ok fun b rest hread => ?_
      obtain ⟨rfl, -⟩ := Prod.mk.inj (Option.some.inj hread)
      exact ha
  | case2 a rest =>
      rw [readFrom]
      exact yields_ok fun b rest hread => nomatch hread
  | case3 a carried rest =>
      rw [readFrom]
      exact yields_error _
  | case4 a tail rest =>
      rw [readFrom]
      exact yields_after fun _ => yields_ok fun b rest hread => nomatch hread
  | case5 a flag carried rest hflag ih =>
      rw [readFrom]
      · exact yields_bind (hset a ha flag carried) ih
      · exact hflag
  | case6 a flag value rest hflag ih =>
      rw [readFrom]
      · exact yields_bind (hset a ha flag value) ih
      · exact hflag
  | case7 a flag rest hflag hvalue =>
      rw [readFrom]
      · exact yields_error _
      · exact hflag
      · exact hvalue
  | case8 a other rest h₁ h₂ h₃ h₄ h₅ h₆ ih =>
      rw [readFrom]
      · refine yields_bind (ih ha) fun read hread => ?_
        cases read with
        | none => exact yields_ok fun b rest h => nomatch h
        | some pair =>
            refine yields_ok fun b rest h => ?_
            obtain ⟨rfl, -⟩ := Prod.mk.inj (Option.some.inj h)
            exact hread pair.1 pair.2 rfl
      all_goals assumption

/-- A command line asks for a run with arguments that its tokens are read to, if nothing is left over and
    the table is named. -/
theorem read_eq_run_iff :
    Request.read line = .ok (.run a) ↔ ∃ tokens, readTokens line = .ok tokens ∧
      readFrom {} tokens = .ok (some (a, [])) ∧ a.table.isPresent = true := by
  rw [Request.read, bind_eq_ok]
  constructor
  · rintro ⟨tokens, htokens, h⟩
    obtain ⟨read, hread, h⟩ := bind_eq_ok.mp h
    cases read with
    | none => exact nomatch h
    | some pair =>
        dsimp only at h
        split at h
        · exact nomatch h
        · rename_i htable
          split at h
          · exact nomatch h
          · rename_i hleftover
            obtain rfl := Request.run.inj (Except.ok.inj h)
            have hnone : pair.2 = [] := by simpa using hleftover
            refine ⟨tokens, mapError_eq_ok.mp htokens, ?_, by simpa using htable⟩
            rw [← hnone]
            exact hread
  · rintro ⟨tokens, htokens, hread, htable⟩
    refine ⟨tokens, mapError_eq_ok.mpr htokens, ?_⟩
    rw [hread]
    show (if !a.table.isPresent then Except.error UsageError.tableMissing else .ok (Request.run a)) = _
    rw [htable]
    rfl

/-- What holds at the start, and is kept by every flag, holds of what a command line is read to. -/
theorem holds_of_read {P : Arguments → Prop} (hstart : P {})
    (hset : ∀ a, P a → ∀ flag text, Yields P (Arguments.set a flag text))
    (hline : Request.read line = .ok (.run a)) : P a := by
  obtain ⟨tokens, -, hread, -⟩ := read_eq_run_iff.mp hline
  exact yields_readFrom hset tokens hstart _ hread a [] rfl

/-! ## Flags without a value -/

/-- A flag that needs a value is given none. -/
def Arguments.LacksValue (a : Arguments) : Flag → Prop
  | .dbType => a.dbType = .empty
  | .table => a.table = .empty
  | .limit => a.limit = .empty
  | .queryParallelism => a.queryParallelism = .empty
  | _ => False

/-- Setting a flag leaves the database named. -/
theorem Arguments.isPresent_dbType_set (ha : a.dbType.isPresent = true) (flag : Flag) (text : String) :
    Yields (fun b => b.dbType.isPresent = true) (a.set flag text) := by
  cases flag with
  | help => exact yields_ok ha
  | dbType =>
      have hgiven : Yields (fun name => Given.isPresent name = true) (given databaseOf .dbType text) := by
        unfold given
        split
        · exact yields_ok rfl
        · intro name hname
          obtain ⟨database, -, rfl⟩ := map_eq_ok.mp hname
          rfl
      exact yields_bind hgiven fun name hname => yields_ok hname
  | _ => exact yields_after fun _ => yields_ok ha

/-- The arguments of a command line name a database, or are given the flag without a name. -/
theorem isPresent_dbType_of_read (hline : Request.read line = .ok (.run a)) : a.dbType.isPresent = true :=
  holds_of_read (P := fun b => b.dbType.isPresent = true) rfl (fun _ => Arguments.isPresent_dbType_set) hline

end SplitExport.Command
