import SplitExport.Proofs.ErrorReports
import SplitExport.Proofs.JsonReading

/-!
# Output formats — the format changes nothing but how queries are printed

* Every command line with arguments may be followed by a format, which replaces the one that it had
  (`read_append_format`).
* `Renders` says of runs in the two formats that they are one run but for what they print, and that they
  print one result. Each step of the command keeps this, since none of them looks at the format.
* What is printed as JSON is read back as the queries that are printed line by line, whatever characters
  they have (`format_changes_rendering_only`).
-/

namespace SplitExport.Command

open SplitExport.Log SplitExport.Results

variable {w : Surroundings} {line : List String} {a b : Arguments}

/-! ## Lines with a format -/

/-- The name of a format. -/
def Format.name : Format → String
  | .text => "text"
  | .json => "json"

/-- The arguments with another format. -/
def Arguments.inFormat (a : Arguments) (f : Format) : Arguments :=
  { a with format := .value f }

/-- Tokens that leave nothing over have no divider, and may be followed by others. -/
theorem readFrom_append {tokens : List Token} (h : readFrom a tokens = .ok (some (b, []))) :
    .divider ∉ tokens ∧ ∀ more, readFrom a (tokens ++ more) = readFrom b more := by
  induction a, tokens using readFrom.induct with
  | case1 a =>
      rw [readFrom] at h
      obtain ⟨rfl, -⟩ := Prod.mk.inj (Option.some.inj (Except.ok.inj h))
      exact ⟨List.not_mem_nil, fun more => rfl⟩
  | case2 a rest =>
      rw [readFrom] at h
      cases h
  | case3 a carried rest =>
      rw [readFrom] at h
      cases h
  | case4 a tail rest =>
      rw [readFrom] at h
      obtain ⟨-, -, h⟩ := bind_eq_ok.mp h
      cases h
  | case5 a flag carried rest hflag ih =>
      rw [readFrom.eq_5 _ _ _ _ hflag] at h
      obtain ⟨a', hset, h⟩ := bind_eq_ok.mp h
      obtain ⟨hdivider, hrest⟩ := ih a' h
      refine ⟨?_, fun more => ?_⟩
      · simpa using hdivider
      · rw [List.cons_append, readFrom.eq_5 _ _ _ _ hflag, hset, ← hrest]
        rfl
  | case6 a flag value rest hflag ih =>
      rw [readFrom.eq_6 _ _ _ _ hflag] at h
      obtain ⟨a', hset, h⟩ := bind_eq_ok.mp h
      obtain ⟨hdivider, hrest⟩ := ih a' h
      refine ⟨?_, fun more => ?_⟩
      · simpa using hdivider
      · rw [List.cons_append, List.cons_append, readFrom.eq_6 _ _ _ _ hflag, hset, ← hrest]
        rfl
  | case7 a flag rest hflag hvalue =>
      rw [readFrom] at h
      · cases h
      · exact hflag
      · exact hvalue
  | case8 a other rest h₁ h₂ h₃ h₄ h₅ h₆ ih =>
      rw [readFrom] at h
      · obtain ⟨read, -, h⟩ := bind_eq_ok.mp h
        cases read with
        | none => cases h
        | some pair =>
            obtain ⟨-, hnone⟩ := Prod.mk.inj (Option.some.inj (Except.ok.inj h))
            obtain ⟨hleftover, -⟩ := List.append_eq_nil_iff.mp hnone
            -- a token that is no flag is left over
            cases other with
            | flag flag carried =>
                cases carried with
                | none => exact absurd rfl (h₆ flag)
                | some carried => exact absurd rfl (h₄ flag carried)
            | letters tail => exact absurd rfl (h₃ tail)
            | value text => cases hleftover
            | divider => cases hleftover
            | unknown text => cases hleftover
      all_goals assumption

/-- Arguments behind a line without a divider are read on their own. -/
theorem readTokens_append {tokens : List Token} (h : readTokens line = .ok tokens)
    (hdivider : .divider ∉ tokens) (more : List String) :
    readTokens (line ++ more) = (readTokens more).map (tokens ++ ·) := by
  induction line generalizing tokens with
  | nil =>
      obtain rfl := Except.ok.inj h
      rw [List.nil_append]
      cases readTokens more <;> rfl
  | cons text line ih =>
      rw [readTokens] at h
      split at h
      · obtain rfl := Except.ok.inj h
        exact absurd List.mem_cons_self hdivider
      · rename_i hplain
        obtain ⟨token, htoken, h⟩ := bind_eq_ok.mp h
        obtain ⟨others, hothers, h⟩ := bind_eq_ok.mp h
        obtain rfl := Except.ok.inj h
        have hmore := ih hothers fun hmem => hdivider (List.mem_cons_of_mem _ hmem)
        rw [List.cons_append, readTokens, if_neg hplain, htoken, hmore]
        cases readTokens more <;> rfl

/-- **A format behind a command line replaces the one that it had.** -/
theorem read_append_format (hline : Request.read line = .ok (.run a)) (f : Format) :
    Request.read (line ++ ["--format", f.name]) = .ok (.run (a.inFormat f)) := by
  obtain ⟨tokens, htokens, hread, htable⟩ := read_eq_run_iff.mp hline
  obtain ⟨hdivider, hmore⟩ := readFrom_append hread
  have hformat : readTokens ["--format", f.name] = .ok [.flag .format none, .value f.name] := by
    cases f <;> decide +kernel
  have hset : a.set .format f.name = .ok (a.inFormat f) := by
    cases f <;> rfl
  refine read_eq_run_iff.mpr ⟨tokens ++ [.flag .format none, .value f.name], ?_, ?_, htable⟩
  · rw [readTokens_append htokens hdivider, hformat]
    rfl
  · rw [hmore, readFrom, hset]
    · rfl
    · intro h
      cases h

/-! ## Runs in two formats -/

/-- What a result prints in a format: nothing if it is an error. -/
def outputOf (f : Format) : Except CommandError (List String) → String
  | .ok queries => printed f queries
  | .error _ => ""

/-- Runs in each format that are one run but for what they print of a result. -/
structure Renders (runIn : Format → CommandRun) (result : Except CommandError (List String)) : Prop where
  stdout : ∀ f, (runIn f).stdout = outputOf f result
  ending : ∀ f, (runIn f).ending = .finished 0 ↔ result.isOk = true
  others : ∀ f g, { runIn f with stdout := "" } = { runIn g with stdout := "" }

/-- A result alone is rendered. -/
theorem renders_ofResult (result : Except CommandError (List String)) :
    Renders (fun f => CommandRun.ofResult f result) result := by
  cases result with
  | ok queries => exact ⟨fun f => rfl, fun f => ⟨fun _ => rfl, fun _ => rfl⟩, fun f g => rfl⟩
  | error e =>
      have hprints : (CommandRun.ofResult .text (.error e)).stdout = "" ∧
          (CommandRun.ofResult .text (.error e)).ending ≠ .finished 0 := by
        unfold CommandRun.ofResult
        dsimp only
        split
        · exact ⟨rfl, fun h => nomatch h⟩
        · exact ⟨rfl, e.ending_ne_finished 0⟩
      exact ⟨fun f => hprints.1, fun f => ⟨fun h => absurd h hprints.2, fun h => nomatch h⟩, fun f g => rfl⟩

/-- What else can be seen of the runs may be changed, as long as every run is changed alike. -/
theorem Renders.around {runIn : Format → CommandRun} {result : Except CommandError (List String)}
    (h : Renders runIn result) (calls : List ConnectCall → List ConnectCall)
    (source : Option Source → Option Source) (events : List Event → List Event) :
    Renders (fun f =>
      { runIn f with
        calls := calls (runIn f).calls
        source := source (runIn f).source
        events := events (runIn f).events }) result where
  stdout := h.stdout
  ending := h.ending
  others f g := congrArg
    (fun r : CommandRun =>
      { r with calls := calls r.calls, source := source r.source, events := events r.events })
    (h.others f g)

/-- A build that has an executor is rendered. -/
theorem renders_buildOn (w : Surroundings) (a : Arguments) (spec : ExportSpec) (executor : Executor) :
    Renders (fun f => buildOn w (a.inFormat f) spec executor)
      ((spec.build w.settings (some executor)).result.mapError .build) :=
  let built := spec.build w.settings (some executor)
  (renders_ofResult (built.result.mapError .build)).around id
    (fun _ => built.executor.map fun left : Executor => left.close.source)
    (fun _ => if a.splitColumn = .empty then built.events.flatMap namelessEvents else built.events)

/-- A build that has to connect is rendered. -/
theorem exists_renders_buildFrom (w : Surroundings) (a : Arguments) (spec : ExportSpec) (database : String) :
    ∃ result, Renders (fun f => buildFrom w (a.inFormat f) spec database) result := by
  have hendpoint : ∀ f, endpointOf w (a.inFormat f) = endpointOf w a := fun _ => rfl
  simp only [buildFrom, hendpoint]
  generalize (endpointOf w a).connect w.settings w.connect database = connection
  obtain ⟨calls, events, connected⟩ := connection
  cases connected with
  | error e => exact ⟨_, (renders_ofResult (.error (.connection e))).around (fun _ => calls) id (events ++ ·)⟩
  | ok source =>
      dsimp only
      cases Executor.ofConnection database source with
      | error e =>
          exact ⟨_, (renders_ofResult (.error (.wrapping e))).around (fun _ => calls) (fun _ => some source)
            (events ++ ·)⟩
      | ok executor => exact ⟨_, (renders_buildOn w a spec executor).around (fun _ => calls) id (events ++ ·)⟩

/-- A build is rendered, with a connection or without. -/
theorem exists_renders_buildWith (w : Surroundings) (a : Arguments) (spec : ExportSpec) :
    ∃ result, Renders (fun f => buildWith w (a.inFormat f) spec) result := by
  have hname : ∀ f, (a.inFormat f).dbType.value? = a.dbType.value? := fun _ => rfl
  simp only [buildWith, hname]
  split
  · cases a.dbType.value? with
    | none => exact ⟨_, renders_ofResult _⟩
    | some database => exact exists_renders_buildFrom w a spec database
  · exact ⟨_, (renders_ofResult _).around id id fun _ => (spec.build w.settings none).events⟩

/-- **The runs of two command lines that differ in their format render one result.** -/
theorem exists_renders_run (w : Surroundings) (a : Arguments) {lineIn : Format → List String}
    (hlines : ∀ f, Request.read (lineIn f) = .ok (.run (a.inFormat f))) :
    ∃ result, Renders (fun f => run w (lineIn f)) result := by
  have hspec : ∀ f, specOf w (a.inFormat f) = specOf w a := fun _ => rfl
  simp only [run, hlines, hspec]
  cases specOf w a with
  | error e => exact ⟨_, renders_ofResult _⟩
  | ok spec => exact exists_renders_buildWith w a spec

/-- What a run that finishes in JSON prints is the queries of the build that it makes. -/
theorem exists_build_of_stdout_json {queries : List String}
    (hline : Request.read line = .ok (.run (a.inFormat .json)))
    (hending : (run w line).ending = .finished 0) (hstdout : (run w line).stdout = printed .json queries) :
    ∃ spec executor, specOf w a = .ok spec ∧ w.Lends (run w line).calls executor ∧
      (spec.build w.settings executor).result = .ok queries := by
  obtain ⟨calls, source, result, hcourse, hshows⟩ := run_takes_course (w := w) hline
  rw [hshows.ending] at hending
  rw [hshows.stdout] at hstdout
  rw [hshows.calls]
  cases result with
  | error e => exact nomatch ((renders_ofResult (.error e)).ending .json).mp hending
  | ok given =>
      -- a JSON text is that of one list of queries only
      have hread : Json.readStrings? (printed .json given) = Json.readStrings? (printed .json queries) :=
        congrArg Json.readStrings? hstdout
      obtain rfl : given = queries := Option.some.inj
        ((Json.readStrings?_jsonArray given).symm.trans (hread.trans (Json.readStrings?_jsonArray queries)))
      exact hcourse.exists_build

/-! ## Main result -/

/-- **The format changes nothing but how queries are printed.** Every command line with arguments may be
    followed by either format, which replaces its own. Whatever the command finds around it, the runs in
    the two formats end in the same way, with the same complaint, calls, connection and events. Either
    they finish, and the queries that the build of the arguments' specification gives are what one prints as
    lines and the other as a JSON text, which is read back as just these queries; or they end otherwise, and
    print nothing. -/
theorem format_changes_rendering_only (w : Surroundings) (hline : Request.read line = .ok (.run a)) :
    (∀ f : Format, Request.read (line ++ ["--format", f.name]) = .ok (.run (a.inFormat f))) ∧
    ∀ lineIn : Format → List String,
      (∀ f, Request.read (lineIn f) = .ok (.run (a.inFormat f))) →
      { run w (lineIn .text) with stdout := "" } = { run w (lineIn .json) with stdout := "" } ∧
      ((∃ (queries : List String) (spec : ExportSpec) (executor : Option Executor),
          specOf w a = .ok spec ∧ w.Lends (run w (lineIn .text)).calls executor ∧
          (spec.build w.settings executor).result = .ok queries ∧
          (run w (lineIn .text)).ending = .finished 0 ∧
          (run w (lineIn .text)).stdout = String.join (queries.map (· ++ "\n")) ∧
          Json.readStrings? (run w (lineIn .json)).stdout = some queries) ∨
        (run w (lineIn .text)).ending ≠ .finished 0 ∧
          (run w (lineIn .text)).stdout = "" ∧ (run w (lineIn .json)).stdout = "") := by
  refine ⟨read_append_format hline, fun lineIn hlines => ?_⟩
  obtain ⟨result, hrenders⟩ := exists_renders_run w a hlines
  refine ⟨hrenders.others .text .json, ?_⟩
  cases result with
  | ok queries =>
      obtain ⟨spec, executor, hspec, hlends, hbuilt⟩ := exists_build_of_stdout_json (hlines .json)
        ((hrenders.ending .json).mpr rfl) (hrenders.stdout .json)
      have hcalls := congrArg CommandRun.calls (hrenders.others .text .json)
      refine Or.inl ⟨queries, spec, executor, hspec, hcalls ▸ hlends, hbuilt, (hrenders.ending .text).mpr rfl,
        hrenders.stdout .text, ?_⟩
      rw [hrenders.stdout .json]
      exact Json.readStrings?_jsonArray queries
  | error e =>
      have hunfinished : (run w (lineIn .text)).ending ≠ .finished 0 :=
        fun h => nomatch (hrenders.ending .text).mp h
      exact Or.inr ⟨hunfinished, hrenders.stdout .text, hrenders.stdout .json⟩

/-- A query in a file, with quotes, a backslash, a line feed and characters above sixteen bits. -/
def quotedQuery : String := "SELECT '\"\\' AS a,\n'😀é' AS b"

/-- Surroundings with this file and no databases. -/
def quotedFile : Surroundings where
  files _ := .ok quotedQuery.toUTF8.toList
  connect _ := .error ⟨"OperationalError", "connection refused", .database⟩

/-- A command line for the query in that file. -/
def quotedLine : List String := ["--table", "quoted", "--sql-file", "quoted.sql"]

/-- The arguments that it is read to. -/
def quotedArguments : Arguments where
  table := .value "quoted"
  sqlFile := .value "quoted.sql"

/-- That command line prints the query of its build in both formats. -/
theorem quotedLine_prints_in_both_formats :
    Request.read quotedLine = .ok (.run quotedArguments) ∧
      ∃ (queries : List String) (spec : ExportSpec) (executor : Option Executor),
        specOf quotedFile quotedArguments = .ok spec ∧ (spec.build {} executor).result = .ok queries ∧
        (run quotedFile (quotedLine ++ ["--format", "text"])).stdout =
          String.join (queries.map (· ++ "\n")) ∧
        Json.readStrings? (run quotedFile (quotedLine ++ ["--format", "json"])).stdout = some queries := by
  have hline : Request.read quotedLine = .ok (.run quotedArguments) := by decide +kernel
  have hending : (run quotedFile (quotedLine ++ ["--format", Format.text.name])).ending = .finished 0 := by
    decide +kernel
  obtain ⟨hread, hrenders⟩ := format_changes_rendering_only quotedFile hline
  obtain ⟨-, ⟨queries, spec, executor, hspec, -, hbuilt, -, htext, hjson⟩ | ⟨hunfinished, -, -⟩⟩ :=
    hrenders _ hread
  · exact ⟨hline, queries, spec, executor, hspec, hbuilt, htext, hjson⟩
  · exact absurd hending hunfinished

end SplitExport.Command
