/-
# How the program ends

The program can fail in its settings, in its expression and in its input, and it reports the first
of these (`execute_refines`): with bad settings neither the expression nor the input counts, and
with a mistake in the expression the input does not.  Only a list of records brings it to an output,
which holds the records that the prepared expression keeps, in one line or with line breaks; both
are read as the same value, since a record that was read nests no deeper than JSON is read
(`exists_ofJson_outputOf`).

Which arguments ask for what is said in `Proofs.CommandLine.Arguments`, and what settings a file
holds in `Proofs.Engine.Settings`.  The program starts from these settings or from the default ones
(`StartsFrom`), and a number of levels among the arguments goes before theirs.
-/

import Mathlib
import RecordFilter.CommandLine.Run
import RecordFilter.Proofs.CommandLine.Arguments
import RecordFilter.Proofs.Engine.Settings
import RecordFilter.Proofs.Json.Indented

namespace RecordFilter
namespace CommandLine

/-- The settings that the arguments start from: those that a file holds, or the default ones. -/
def StartsFrom (sources : Sources Id) (a : Arguments) (s : Settings) : Prop :=
  match a.settings with
  | none => s = ⟨256, 512⟩
  | some file =>
    ∃ text, (sources.file file : Option String) = some text ∧ s.IsStoredIn text ∧ 0 < s.maxDepth

/-- The text with the records, or none if it cannot be read. -/
def inputText (sources : Sources Id) (a : Arguments) : Option String :=
  match a.input with
  | some file => sources.file file
  | none => sources.standardInput

/-- Settings as the arguments change them. -/
def changed (a : Arguments) (s : Settings) : Settings :=
  { s with maxDepth := a.maxDepth.getD s.maxDepth }

variable {sources : Sources Id} {a : Arguments} {arguments : List String} {items : List Item}
  {environment : String → Option String} {records : List Value} {text : Option String}
  {s : Settings} {f : Failure} {e : SyntaxError} {expr : Expr}

/-! ### Settings -/

/-- The settings that the program goes on with, if they are good. -/
theorem settingsFor_of_startsFrom (h : StartsFrom sources a s) :
    settingsFor a (a.settings.map sources.file) =
      match (changed a s).validated with
      | .ok s => .ok s
      | .error e => .error (.settings e) := by
  obtain ⟨expression, input, settings, maxDepth, pretty⟩ := a
  cases settings with
  | none =>
    obtain rfl := h
    cases maxDepth <;> rfl
  | some file =>
    obtain ⟨text, hfile, hstored⟩ := h
    have htext := Settings.ofJson_eq_ok_iff.2 hstored
    rw [Option.map_some, hfile]
    simp only [settingsFor, htext]
    cases maxDepth <;> rfl

/-- Settings that cannot be read, or make no sense, end the program. -/
theorem settingsFor_of_not_startsFrom (h : ∀ s, ¬ StartsFrom sources a s) :
    ∃ f, settingsFor a (a.settings.map sources.file) = .error f ∧ f.exitCode = 1 := by
  obtain ⟨expression, input, settings, maxDepth, pretty⟩ := a
  cases settings with
  | none => exact absurd rfl (h ⟨256, 512⟩)
  | some file =>
    rw [Option.map_some]
    cases hfile : (sources.file file : Option String) with
    | none => exact ⟨_, rfl, rfl⟩
    | some text =>
      cases htext : Settings.ofJson text with
      | ok s => exact absurd ⟨text, hfile, Settings.ofJson_eq_ok_iff.1 htext⟩ (h s)
      | error e =>
        simp only [settingsFor, htext]
        exact ⟨_, rfl, rfl⟩

/-! ### Expression -/

/-- A new engine prepares the filter of the expression, whatever number of filters it keeps. -/
theorem filterFor_eq (a : Arguments) (s : Settings) :
    filterFor a s = Filter.ofText s.maxDepth a.expression := by
  simp only [filterFor, Engine.compile, Engine.ofSettings, Cache.ask, Cache.get?, Cache.empty,
    List.lookup_nil]
  cases Filter.ofText s.maxDepth a.expression <;> rfl

/-! ### Records -/

/-- A list is taken as the records. -/
theorem recordsOf_list (file : Option String)
    (h : text.map Value.ofJson = some (.ok (.list records))) :
    recordsOf file text = .ok records := by
  rw [recordsOf, h]

/-- Anything else ends the program. -/
theorem recordsOf_other (file : Option String)
    (h : ∀ records, text.map Value.ofJson ≠ some (.ok (.list records))) :
    ∃ f, recordsOf file text = .error f ∧ f.exitCode = 1 := by
  rw [recordsOf]
  split
  · exact ⟨_, rfl, rfl⟩
  · exact ⟨_, rfl, rfl⟩
  · next records hlist => exact absurd hlist (h records)
  · exact ⟨_, rfl, rfl⟩

/-- Both forms of the output are read as one value. -/
theorem exists_ofJson_outputOf (h : text.map Value.ofJson = some (.ok (.list records)))
    (keeps : Value → Bool) :
    ∃ w, Value.ofJson (outputOf false (records.filter keeps)) = .ok w ∧
      Value.ofJson (outputOf true (records.filter keeps)) = .ok w := by
  obtain ⟨text, -, hread⟩ := Option.map_eq_some_iff.1 h
  have hdepth := Value.depth_le_of_ofJson hread
  have hkept : (Value.list (records.filter keeps)).depth ≤ 127 := by
    rw [Value.depth, Nat.succ_le_iff, Nat.lt_succ_iff, Value.depthOfItems_le] at hdepth ⊢
    exact fun v hv => hdepth v (List.mem_filter.1 hv).1
  exact Value.ofJson_toIndentedJson hkept (Json.isBlanks_singleton rfl)

/-! ### Reports -/

/-- What is reported of a run, in the order in which things can go wrong. -/
theorem report_eq (sources : Sources Id) (a : Arguments) :
    report sources a =
      match settingsFor a (a.settings.map sources.file) with
      | .error f => (⟨[.failed f], .error f⟩ : Report)
      | .ok s =>
        match filterFor a s with
        | .error e => ⟨[.settings s, .rejected a.expression e], .error (.syntaxError e)⟩
        | .ok filter =>
          match recordsOf a.input (inputText sources a) with
          | .error f => ⟨[.settings s, .prepared a.expression, .failed f], .error f⟩
          | .ok records =>
            let kept := filter.apply records
            ⟨[.settings s, .prepared a.expression, .loaded records.length,
              .filtered records.length kept.length, .done kept.length],
              .ok (outputOf a.pretty kept)⟩ := by
  obtain ⟨expression, input, settings, maxDepth, pretty⟩ := a
  cases settings <;> cases input <;> rfl

/-- The program reports on what its arguments ask for. -/
theorem execute_eq (sources : Sources Id) (w : Wording) (hitems : Spells arguments items)
    (hasks : Asks items environment a) :
    execute sources w arguments environment = Outcome.ofReport w (report sources a) := by
  rw [execute, ofList?_eq_some_iff.2 ⟨items, hitems, hasks⟩]
  rfl

/-- Whoever fails writes no output. -/
theorem output_ofReport (w : Wording) (r : Report) (h : (Outcome.ofReport w r).exitCode ≠ 0) :
    (Outcome.ofReport w r).output = "" := by
  obtain ⟨events, result⟩ := r
  cases result with
  | ok output => exact absurd rfl h
  | error f => rfl

/-- What goes wrong with the settings counts first. -/
theorem report_of_badSettings (h : settingsFor a (a.settings.map sources.file) = .error f) :
    report sources a = (⟨[.failed f], .error f⟩ : Report) := by
  simp only [report_eq, h]

/-- Settings without a level are refused. -/
theorem settingsFor_of_zero (hstarts : StartsFrom sources a s)
    (hzero : a.maxDepth.getD s.maxDepth = 0) :
    settingsFor a (a.settings.map sources.file) = .error (.settings .zeroMaxDepth) := by
  rw [settingsFor_of_startsFrom hstarts, Settings.validated, changed, if_pos hzero]

/-- Settings with a level are good. -/
theorem settingsFor_of_pos (hstarts : StartsFrom sources a s)
    (hpos : 0 < a.maxDepth.getD s.maxDepth) :
    settingsFor a (a.settings.map sources.file) = .ok (changed a s) := by
  rw [settingsFor_of_startsFrom hstarts, Settings.validated,
    if_neg (show (changed a s).maxDepth ≠ 0 from Nat.ne_of_gt hpos)]

/-- What is reported of a mistake in the expression. -/
theorem report_of_rejected (hs : settingsFor a (a.settings.map sources.file) = .ok s)
    (he : Expr.parse s.maxDepth a.expression = .error e) :
    report sources a =
      (⟨[.settings s, .rejected a.expression e], .error (.syntaxError e)⟩ : Report) := by
  simp only [report_eq, hs, filterFor_eq, Filter.ofText, he, Except.map]

/-- What is reported of an input that is no list of records. -/
theorem report_of_other (hs : settingsFor a (a.settings.map sources.file) = .ok s)
    (he : Expr.parse s.maxDepth a.expression = .ok expr)
    (hrecords : recordsOf a.input (inputText sources a) = .error f) :
    report sources a =
      (⟨[.settings s, .prepared a.expression, .failed f], .error f⟩ : Report) := by
  simp only [report_eq, hs, filterFor_eq, Filter.ofText, he, Except.map, hrecords]

/-- What is reported of a list of records. -/
theorem report_of_list (hs : settingsFor a (a.settings.map sources.file) = .ok s)
    (he : Expr.parse s.maxDepth a.expression = .ok expr)
    (hrecords : recordsOf a.input (inputText sources a) = .ok records) :
    (report sources a : Report).result = .ok (outputOf a.pretty
      (records.filter fun record => (expr.compile.value record).isTruthy)) := by
  simp only [report_eq, hs, filterFor_eq, Filter.ofText, he, Except.map, hrecords]
  rfl

/-- The line about a mistake in the expression. -/
theorem fullLine_syntaxError (w : Wording) (e : SyntaxError) :
    (Failure.syntaxError e).fullLine w = "histfilter: syntax error: " ++ e.message ++ "\n" := by
  change "histfilter: " ++ ("syntax error: " ++ e.message) ++ "\n" = _
  rw [← String.append_assoc]
  rfl

/-- What the log is told of a mistake in the expression, and the line about it. -/
theorem errorOutput_rejected (w : Wording) (s : Settings) (expression : String) (e : SyntaxError) :
    (Outcome.ofReport w
        ⟨[.settings s, .rejected expression e], .error (.syntaxError e)⟩).errorOutput =
      w.log (.settings s) ++ w.log (.rejected expression e) ++
        ("histfilter: syntax error: " ++ e.message ++ "\n") := by
  rw [← fullLine_syntaxError w]
  change "" ++ w.log (.settings s) ++ w.log (.rejected expression e) ++ _ = _
  rw [String.empty_append]

/-- **The program refines the library, and what goes wrong first counts.**  The arguments write
items, and these and the environment ask for something.  The program starts from the settings of a
file or from the default ones; a number of levels that was asked for goes before theirs.  If there
are no settings to start from, or no level is left, the program ends with 1; with a mistake in the
expression it ends with 2 and the message, whatever the input is; with an input that is no list of
records it ends with 1.  Otherwise it ends with 0 and writes the JSON of the records that the
prepared expression keeps, in order, which is read alike in both forms.  It writes no output if it
fails. -/
theorem execute_refines (sources : Sources Id) (w : Wording) (hitems : Spells arguments items)
    (hasks : Asks items environment a) :
    let outcome : Outcome := execute sources w arguments environment
    ((∀ s, ¬ StartsFrom sources a s) → outcome.exitCode = 1) ∧
    (∀ s, StartsFrom sources a s →
      (a.maxDepth.getD s.maxDepth = 0 → outcome.exitCode = 1) ∧
      ∀ n, a.maxDepth.getD s.maxDepth = n → 0 < n →
        (∀ e, Expr.parse n a.expression = .error e →
          let line := "histfilter: syntax error: " ++ e.message ++ "\n"
          outcome.exitCode = 2 ∧
            outcome.errorOutput = w.log (.settings ⟨n, s.cacheCapacity⟩) ++
              w.log (.rejected a.expression e) ++ line ∧
            (w.IsQuiet → outcome.errorOutput = line)) ∧
        ∀ e, Expr.parse n a.expression = .ok e →
          ((∀ records, (inputText sources a).map Value.ofJson ≠ some (.ok (.list records))) →
            outcome.exitCode = 1) ∧
          ∀ records, (inputText sources a).map Value.ofJson = some (.ok (.list records)) →
            let kept := Value.list (records.filter fun record => (e.compile.value record).isTruthy)
            outcome.exitCode = 0 ∧
              outcome.output = (if a.pretty then kept.toIndentedJson else kept.toJson) ++ "\n" ∧
              ∃ w, Value.ofJson (kept.toJson ++ "\n") = .ok w ∧
                Value.ofJson (kept.toIndentedJson ++ "\n") = .ok w) ∧
    (outcome.exitCode ≠ 0 → outcome.output = "") := by
  simp only [execute_eq sources w hitems hasks]
  refine ⟨fun hnone => ?_, fun s hstarts => ⟨fun hzero => ?_, ?_⟩, output_ofReport w _⟩
  · obtain ⟨f, hf, hcode⟩ := settingsFor_of_not_startsFrom hnone
    rw [report_of_badSettings hf]
    exact hcode
  · rw [report_of_badSettings (settingsFor_of_zero hstarts hzero)]
    rfl
  · rintro n rfl hpos
    have hs := settingsFor_of_pos hstarts hpos
    refine ⟨fun e he => ?_, fun e he => ⟨fun hother => ?_, fun records hlist => ?_⟩⟩
    · have houtput := errorOutput_rejected w (changed a s) a.expression e
      rw [report_of_rejected hs he]
      refine ⟨rfl, houtput, fun hquiet => houtput.trans ?_⟩
      rw [hquiet _ rfl, hquiet _ rfl, String.empty_append, String.empty_append]
    · obtain ⟨f, hf, hcode⟩ := recordsOf_other a.input hother
      rw [report_of_other hs he hf]
      exact hcode
    · have hresult := report_of_list hs he (recordsOf_list a.input hlist)
      rw [Outcome.ofReport, hresult]
      exact ⟨rfl, rfl, exists_ofJson_outputOf hlist _⟩

/-- Two levels are taken from a file, which are enough for one expression and not for another; a
file that leaves no level is refused even if a number of levels is given. -/
theorem execute_refines_levels :
    let sources : Sources Id :=
      ⟨fun file => some
          (if file = "two" then "\x7b\"max_depth\":2\x7d" else "\x7b\"max_depth\":0\x7d"),
        some "[\x7b\"x\":true\x7d,null]"⟩
    let w : Wording := ⟨fun _ => "", fun _ => "", fun _ => "", fun _ => ""⟩
    let outcome (arguments : List String) : Outcome := execute sources w arguments fun _ => none
    ((outcome ["-pctwo", "x"]).exitCode = 0 ∧
      (outcome ["-pctwo", "x"]).output = "[\n  \x7b\n    \"x\": true\n  \x7d\n]\n") ∧
    ((outcome ["--config=two", "!!x"]).exitCode = 2 ∧
      (outcome ["--config=two", "!!x"]).errorOutput =
        "histfilter: syntax error: Expression nesting exceeds 2 levels at position 2\n") ∧
    (outcome ["-c", "none", "--max-depth", "5", "x"]).exitCode = 1 := by
  intro sources w outcome
  have htwo (a : Arguments) (ha : a.settings = some "two") : StartsFrom sources a ⟨2, 512⟩ := by
    rw [StartsFrom, ha]
    exact ⟨_, rfl, Settings.ofJson_eq_ok_iff.1 (by decide +kernel)⟩
  have hnone (a : Arguments) (ha : a.settings = some "none") (s : Settings) :
      ¬ StartsFrom sources a s := by
    rw [StartsFrom, ha]
    rintro ⟨text, hfile, hstored⟩
    obtain rfl := Option.some.inj hfile
    have hread := Settings.ofJson_eq_ok_iff.2 hstored
    have hrefused : Settings.ofJson "\x7b\"max_depth\":0\x7d" = .error .zeroMaxDepth := by
      decide +kernel
    exact nomatch hrefused.symm.trans hread
  refine ⟨?_, ?_, ?_⟩
  · have ha : Arguments.ofList? ["-pctwo", "x"] (fun _ => none) =
        some ⟨"x", none, some "two", none, true⟩ := by decide +kernel
    obtain ⟨items, hitems, hasks⟩ := ofList?_eq_some_iff.1 ha
    obtain ⟨-, hstarts, -⟩ := execute_refines sources w hitems hasks
    have hparse : Expr.parse 2 "x" = .ok (.name "x") := by cbv
    have hinput : (inputText sources ⟨"x", none, some "two", none, true⟩).map Value.ofJson =
        some (.ok (.list [.map [("x", .bool true)], .null])) := by cbv
    obtain ⟨hcode, houtput, -⟩ :=
      (((hstarts _ (htwo _ rfl)).2 2 rfl (by decide)).2 _ hparse).2 _ hinput
    exact ⟨hcode, houtput.trans (by decide +kernel)⟩
  · have ha : Arguments.ofList? ["--config=two", "!!x"] (fun _ => none) =
        some ⟨"!!x", none, some "two", none, false⟩ := by decide +kernel
    obtain ⟨items, hitems, hasks⟩ := ofList?_eq_some_iff.1 ha
    obtain ⟨-, hstarts, -⟩ := execute_refines sources w hitems hasks
    have hparse : Expr.parse 2 "!!x" = .error (.tooDeep 2 2) := by cbv
    obtain ⟨hcode, -, houtput⟩ :=
      ((hstarts _ (htwo _ rfl)).2 2 rfl (by decide)).1 _ hparse
    exact ⟨hcode, (houtput fun _ _ => rfl).trans (by decide +kernel)⟩
  · have ha : Arguments.ofList? ["-c", "none", "--max-depth", "5", "x"] (fun _ => none) =
        some ⟨"x", none, some "none", some 5, false⟩ := by decide +kernel
    obtain ⟨items, hitems, hasks⟩ := ofList?_eq_some_iff.1 ha
    exact (execute_refines sources w hitems hasks).1 (hnone _ rfl)

end CommandLine
end RecordFilter
