import MemoryProbe.Proofs.FailingSink
import MemoryProbe.Proofs.HelpText
import MemoryProbe.Proofs.Log.Date
import MemoryProbe.Proofs.LogPath
import MemoryProbe.Proofs.Probe.Course

namespace MemoryProbe

/-! ## Where a report stands

A report begins a line of the output, and no line of a help text begins like one. -/

namespace Report

def lead : Format → UInt8
  | .text => 115
  | .json => 123

private theorem alone_eq_cons (format : Format) (snapshot : Snapshot) :
    ∃ rest, alone format snapshot = lead format :: rest := by
  rw [alone_eq_bytes]
  cases format with
  | text =>
      rw [bytes_text, Snapshot.textPieces]
      exact ⟨_, rfl⟩
  | json =>
      rw [bytes_json, Snapshot.jsonPieces]
      exact ⟨_, rfl⟩

def BeginsLine (output report : Bytes) : Prop :=
  ∃ before after, output = before ++ report ++ after ∧
    ∀ last ∈ before.getLast?, last = Bytes.newline

private theorem not_beginsLine_nil (format : Format) (snapshot : Snapshot) :
    ¬BeginsLine [] (alone format snapshot) := by
  rintro ⟨before, after, split, _⟩
  rcases alone_eq_cons format snapshot with ⟨rest, begins⟩
  simp [begins] at split

theorem not_beginsLine {text : String} {first : Char}
    (margined : CommandLine.Margined first text) (format : Format)
    (different : (String.utf8EncodeChar first).head? ≠ some (lead format))
    (snapshot : Snapshot) : ¬BeginsLine (Bytes.ofString text) (alone format snapshot) := by
  rintro ⟨before, after, split, ends⟩
  rcases alone_eq_cons format snapshot with ⟨rest, begins⟩
  have chain := Bytes.isChain_of_keepsMargin margined.2
  rw [begins, List.append_assoc, List.cons_append] at split
  rw [← Bytes.ofString, split] at chain
  cases last : before.getLast? with
  | none =>
      rw [List.getLast?_eq_none_iff] at last
      rw [← Bytes.head?_ofChars margined.1, ← Bytes.ofString, split, last] at different
      exact different rfl
  | some byte =>
      rw [List.isChain_append] at chain
      have starts := chain.2.2 byte last (lead format) rfl (ends byte last)
      cases format <;> exact absurd starts (by decide)

end Report

namespace Probe

/-! ## Refused runs -/

/-- A run is refused with an exit code and with what it prints all the same. -/
inductive Refused (around : Surroundings) : Nat → Bytes → Prop where
  | unparsed {refusal : CommandLine.Refusal}
      (refused : CommandLine.parse around.environment around.arguments =
        .error (.refused refusal)) : Refused around 2 []
  | longHelp
      (asked : CommandLine.parse around.environment around.arguments = .error .longHelp) :
      Refused around 0 (Bytes.ofString (CommandLine.longHelp around.environment))
  | shortHelp
      (asked : CommandLine.parse around.environment around.arguments = .error .shortHelp) :
      Refused around 0 (Bytes.ofString (CommandLine.shortHelp around.environment))
  | version
      (asked : CommandLine.parse around.environment around.arguments = .error .version) :
      Refused around 0 (Bytes.ofString CommandLine.versionText)
  | unnamed {options : CommandLine.Options} {written : Bytes}
      (parsed : CommandLine.parse around.environment around.arguments = .ok options)
      (given : options.logFile = some written)
      (nameless : ¬∃ name, LogPath.HasFileName written name) : Refused around 1 []

/-- A run leaves no trace when it does nothing to the files, and neither calls the
library nor depends on the machine. -/
structure NoTrace (around : Surroundings) : Prop where
  tree : (run around).tree = around.tree
  calls : (run around).calls = []
  logged : (run around).logged = []
  machine : ∀ machine, run { around with machine } = run around

def SetUp (around : Surroundings) : Prop :=
  ∃ options tree logFile filter,
    CommandLine.parse around.environment around.arguments = .ok options ∧
      LogOpens around options tree logFile ∧
      (Log.Filter.ofVariable around.logVariable).filter = some filter

variable {around : Surroundings}

theorem run_of_nameless {options : CommandLine.Options} {written : Bytes}
    (parsed : CommandLine.parse around.environment around.arguments = .ok options)
    (given : options.logFile = some written)
    (nameless : ¬∃ name, LogPath.HasFileName written name) :
    run around = failed (LogPath.refusal written) around.tree := by
  rw [← LogPath.split_eq_refusal_iff] at nameless
  exact run_of_unnamed around parsed given nameless

/-- The machine is not among what these runs are made of. -/
theorem ends_of_run {result : Result}
    (everywhere : ∀ machine, run { around with machine } = result)
    (kept : result.tree = around.tree) (silent : result.calls = [])
    (unlogged : result.logged = []) :
    (run around).exitCode = result.exitCode ∧ (run around).output = result.output ∧
      NoTrace around := by
  have here : run around = result := everywhere around.machine
  refine ⟨by rw [here], by rw [here], ?_⟩
  constructor
  case machine =>
    intro machine
    rw [everywhere machine, here]
  all_goals rw [here]; assumption

theorem ends_of_stop {stop : CommandLine.Stop}
    (unparsed : CommandLine.parse around.environment around.arguments = .error stop) :
    (run around).exitCode = (stopped around.environment around.tree stop).exitCode ∧
      (run around).output = (stopped around.environment around.tree stop).output ∧
      NoTrace around := by
  have everywhere : ∀ machine,
      run { around with machine } = stopped around.environment around.tree stop :=
    fun machine => run_of_stop { around with machine } unparsed
  refine ends_of_run everywhere ?_ ?_ ?_
  all_goals cases stop <;> rfl

theorem Refused.ends {code : Nat} {text : Bytes} (refused : Refused around code text) :
    (run around).exitCode = code ∧ (run around).output = text ∧ NoTrace around := by
  cases refused with
  | unparsed refused => simpa only [stopped] using ends_of_stop refused
  | longHelp asked => simpa only [stopped, answered] using ends_of_stop asked
  | shortHelp asked => simpa only [stopped, answered] using ends_of_stop asked
  | version asked => simpa only [stopped, answered] using ends_of_stop asked
  | @unnamed options written parsed given nameless =>
      have everywhere : ∀ machine,
          run { around with machine } = failed (LogPath.refusal written) around.tree :=
        fun machine => @run_of_nameless { around with machine } _ _ parsed given nameless
      exact ends_of_run everywhere rfl rfl rfl

/-! ## What stands in the output -/

/-- Whatever is printed comes from a run that is set up, or is a text that was asked
for. -/
theorem setUp_or_refused (printed : (run around).output ≠ []) :
    SetUp around ∨ Refused around 0 (run around).output := by
  cases course around with
  | @stopped stop unparsed =>
      right
      rw [run_of_stop around unparsed] at printed ⊢
      cases stop with
      | longHelp => simpa only [stopped, answered] using Refused.longHelp unparsed
      | shortHelp => simpa only [stopped, answered] using Refused.shortHelp unparsed
      | version => simpa only [stopped, answered] using Refused.version unparsed
      | refused refusal => exact absurd rfl printed
  | unnamed parsed given unusable =>
      rw [run_of_unnamed around parsed given unusable] at printed
      exact absurd rfl printed
  | unopened parsed given accepted closed =>
      rw [run_of_unopened around parsed given accepted closed] at printed
      exact absurd rfl printed
  | @sampling options tree logFile parsed opens =>
      left
      by_cases breaks : Log.Filter.Breaks around.logVariable
      · rw [run_of_breaks around parsed opens breaks] at printed
        exact absurd rfl printed
      · rw [← Log.Filter.filter_ofVariable_eq_none] at breaks
        rcases Option.ne_none_iff_exists'.mp breaks with ⟨filter, found⟩
        exact ⟨options, tree, logFile, filter, parsed, opens, found⟩

theorem Refused.not_beginsLine {text : Bytes} (refused : Refused around 0 text)
    (format : Report.Format) (snapshot : Snapshot) :
    ¬Report.BeginsLine text (Report.alone format snapshot) := by
  have help : (String.utf8EncodeChar 'P').head? ≠ some (Report.lead format) := by
    cases format <;> decide
  cases refused with
  | longHelp asked =>
      exact Report.not_beginsLine (CommandLine.margined_longHelp _) format help snapshot
  | shortHelp asked =>
      exact Report.not_beginsLine (CommandLine.margined_shortHelp _) format help snapshot
  | version asked =>
      have version : (String.utf8EncodeChar 'h').head? ≠ some (Report.lead format) := by
        cases format <;> decide
      exact Report.not_beginsLine CommandLine.margined_versionText format version snapshot

/-- A run that is refused ends with the exit code of its refusal, prints nothing but the
help or the version it was asked for, and leaves no trace. Where a report begins a line of
the output the command line was read and the log was set up, and so it was whenever there
is any output but a text that was asked for. -/
theorem refused_runs_leave_no_trace (around : Surroundings) :
    (∀ code text, Refused around code text →
      (run around).exitCode = code ∧ (run around).output = text ∧ NoTrace around) ∧
    (∀ format snapshot,
      Report.BeginsLine (run around).output (Report.alone format snapshot) → SetUp around) ∧
    ((run around).output ≠ [] → SetUp around ∨ Refused around 0 (run around).output) := by
  refine ⟨fun code text refused => refused.ends, fun format snapshot begins => ?_,
    setUp_or_refused⟩
  have printed : (run around).output ≠ [] := fun empty =>
    Report.not_beginsLine_nil format snapshot (empty ▸ begins)
  rcases setUp_or_refused printed with ready | refused
  · exact ready
  · exact absurd begins (refused.not_beginsLine format snapshot)

/-- The root is a directory without a name of its own. -/
def rootLog : Surroundings where
  arguments := []
  environment
    | .logFile => some (Bytes.ofString "/")
    | _ => none
  logVariable := none
  tree := {
    entries := [⟨[], Bytes.ofString "kept", .file []⟩]
    distinct := by decide
    standing := by decide }
  here := []
  isHere := by decide
  machine := ⟨none, .missing⟩
  today := Log.Date.newYear

private theorem rootLog_refused : Refused rootLog 1 [] := by
  have parsed : CommandLine.parse rootLog.environment rootLog.arguments =
      .ok ⟨.text, 1, 1000, some (Bytes.ofString "/")⟩ := rfl
  have refused : LogPath.split (Bytes.ofString "/") =
      .error (LogPath.refusal (Bytes.ofString "/")) := rfl
  exact .unnamed parsed rfl ((LogPath.split_eq_refusal_iff _).mp refused)

theorem refused_runs_leave_no_trace_root :
    Refused rootLog 1 [] ∧ (run rootLog).exitCode = 1 ∧ (run rootLog).output = [] ∧
      NoTrace rootLog :=
  ⟨rootLog_refused, (refused_runs_leave_no_trace rootLog).1 1 [] rootLog_refused⟩

end Probe

end MemoryProbe
