import MemoryProbe.Probe
import MemoryProbe.Proofs.FileTree
import MemoryProbe.Proofs.Log.Filter

namespace MemoryProbe.Probe

variable (around : Surroundings) {options : CommandLine.Options} {tree : FileTree}
  {logFile : Option (List Bytes)}

/-- A log that goes to standard error alone is open from the start. One with a file is open
once the old files are gone and the file of the day is found or made. -/
inductive LogOpens (options : CommandLine.Options) : FileTree → Option (List Bytes) → Prop where
  | unfiled (given : options.logFile = none) : LogOpens options around.tree none
  | filed {written : Bytes} {path : LogPath} {tree : FileTree} {file : List Bytes}
      (given : options.logFile = some written) (accepted : LogPath.split written = .ok path)
      (opened : Log.Rotation.openLog around.here around.today around.tree path =
        (tree, some file)) : LogOpens options tree (some file)

/-! ## The steps of a run -/

/-- What is noted goes to standard error, and to the log file if there is one. -/
def noted (lines : List String) (logFile : Option (List Bytes)) : List Effect :=
  .complained lines :: (logFile.map fun _ => .logged lines).toList

def written (tree : FileTree) (logFile : Option (List Bytes)) (lines : List String) : FileTree :=
  logFile.elim tree fun file => tree.append file lines

theorem written_written (first second : List String) :
    written (written tree logFile first) logFile second =
      written tree logFile (first ++ second) := by
  cases logFile with
  | none => rfl
  | some file => exact tree.append_append file first second

private theorem note_apply (filter : Log.Filter) (events : List Log.Event) :
    around.actions.note filter logFile events tree =
      ⟨(), written tree logFile (logLines filter events),
        noted (logLines filter events) logFile⟩ := by
  cases logFile <;> rfl

def sampleLines (filter : Log.Filter) : List String :=
  logLines filter (Entry.events (around.machine.query.capture ()).record)

def sampleRecord (format : Report.Format) (filter : Log.Filter)
    (logFile : Option (List Bytes)) : List Effect :=
  .called (Entry.calls (around.machine.query.capture ()).record) ::
    (noted (sampleLines around filter) logFile ++
      [.printed (Report.bytes format (around.machine.query.capture ()).value)])

private theorem takeSample_apply (format : Report.Format) (filter : Log.Filter) :
    around.actions.takeSample format filter logFile tree =
      ⟨(), written tree logFile (sampleLines around filter),
        sampleRecord around format filter logFile⟩ := by
  cases logFile <;> rfl

/-- One sample after another writes the same lines and leaves the same record. -/
theorem takeSamples_apply (filter : Log.Filter) (count : Nat) :
    around.actions.takeSamples options filter logFile count tree =
      ⟨(), written tree logFile (List.replicate count (sampleLines around filter)).flatten,
        (List.replicate count (sampleRecord around options.format filter logFile)).flatten⟩ := by
  induction count generalizing tree with
  | zero => cases logFile <;> simp [Actions.takeSamples, written]
  | succ count induction =>
      have paused : around.actions.takeSamples options filter logFile (count + 1) tree =
          (do around.actions.takeSample options.format filter logFile
              around.actions.takeSamples options filter logFile count) tree := by
        rw [Actions.takeSamples]
        split <;> rfl
      rw [paused, Traced.bind_apply, takeSample_apply, induction, written_written,
        List.replicate_succ, List.flatten_cons, List.replicate_succ, List.flatten_cons]

/-! ## Runs with an open log -/

def allLines (options : CommandLine.Options) (filter : Log.Filter) : List String :=
  logLines filter [starting] ++
    (List.replicate options.samples (sampleLines around filter)).flatten

theorem complain_apply (lines : List String) :
    around.actions.complain lines tree = ⟨(), tree, [.complained lines]⟩ := rfl

theorem openLog_apply (path : LogPath) :
    around.actions.openLog path tree =
      ⟨(Log.Rotation.openLog around.here around.today tree path).2,
        (Log.Rotation.openLog around.here around.today tree path).1, []⟩ := rfl

private theorem sample_apply_of_filter {filter : Log.Filter}
    (found : (Log.Filter.ofVariable around.logVariable).filter = some filter) :
    around.actions.sample options around.logVariable logFile tree =
      ⟨0, written tree logFile (allLines around options filter),
        .complained ((Log.Filter.ofVariable around.logVariable).complaints.flatMap Text.lines) ::
          (noted (logLines filter [starting]) logFile ++
            (List.replicate options.samples
              (sampleRecord around options.format filter logFile)).flatten)⟩ := by
  simp only [Actions.sample, found, Traced.bind_apply, complain_apply, note_apply,
    takeSamples_apply, Traced.pure_apply, written_written, List.append_nil, List.singleton_append,
    allLines]

private theorem sample_apply_of_breaks (breaks : Log.Filter.Breaks around.logVariable) :
    around.actions.sample options around.logVariable logFile tree =
      ⟨101, tree,
        [.complained ((Log.Filter.ofVariable around.logVariable).complaints.flatMap Text.lines),
          .complained [""]]⟩ := by
  rw [← Log.Filter.filter_ofVariable_eq_none] at breaks
  simp only [Actions.sample, breaks, Traced.bind_apply, complain_apply, Traced.pure_apply,
    List.append_nil, List.singleton_append]

theorem program_of_logOpens
    (parsed : CommandLine.parse around.environment around.arguments = .ok options)
    (opens : LogOpens around options tree logFile) :
    around.actions.program around.environment around.arguments around.logVariable around.tree =
      around.actions.sample options around.logVariable logFile tree := by
  unfold Actions.program
  rw [parsed]
  cases opens with
  | unfiled given => simp only [given]
  | filed given accepted opened =>
      simp only [given, accepted, Traced.bind_apply, openLog_apply, opened, List.nil_append]

/-- What is sampled and logged, whether to a file or not. -/
def sampled (options : CommandLine.Options) (tree : FileTree)
    (logFile : Option (List Bytes)) (filter : Log.Filter) : Result where
  exitCode := 0
  output := (List.replicate options.samples
    (Report.bytes options.format (around.machine.query.capture ()).value)).flatten
  errors := (Log.Filter.ofVariable around.logVariable).complaints.flatMap Text.lines ++
    allLines around options filter
  logged := logFile.elim [] fun _ => allLines around options filter
  tree := written tree logFile (allLines around options filter)
  calls := (List.replicate options.samples
    (Entry.calls (around.machine.query.capture ()).record)).flatten

private theorem flatMap_flatten_replicate {Value Result : Type} (count : Nat) (values : List Value)
    (view : Value → List Result) :
    (List.replicate count values).flatten.flatMap view =
      (List.replicate count (values.flatMap view)).flatten := by
  induction count with
  | zero => rfl
  | succ count induction =>
      rw [List.replicate_succ, List.flatten_cons, List.flatMap_append, induction,
        List.replicate_succ, List.flatten_cons]

theorem run_of_filter {filter : Log.Filter}
    (parsed : CommandLine.parse around.environment around.arguments = .ok options)
    (opens : LogOpens around options tree logFile)
    (found : (Log.Filter.ofVariable around.logVariable).filter = some filter) :
    run around = sampled around options tree logFile filter := by
  rw [run, program_of_logOpens around parsed opens, sample_apply_of_filter around found]
  cases logFile <;>
    simp [Outcome.result, sampled, allLines, flatMap_flatten_replicate, sampleRecord, noted,
      Effect.output, Effect.errors, Effect.filed, Effect.calls]

theorem run_of_breaks (parsed : CommandLine.parse around.environment around.arguments = .ok options)
    (opens : LogOpens around options tree logFile)
    (breaks : Log.Filter.Breaks around.logVariable) :
    run around = ⟨101, [],
      ((Log.Filter.ofVariable around.logVariable).complaints.flatMap Text.lines ++ [""]).take 1,
      [], tree, []⟩ := by
  rw [run, program_of_logOpens around parsed opens, sample_apply_of_breaks around breaks]
  rfl

/-! ## Runs without one -/

def answered (text : String) (tree : FileTree) : Result :=
  ⟨0, Bytes.ofString text, [], [], tree, []⟩

def stopped (environment : CommandLine.Environment) (tree : FileTree) :
    CommandLine.Stop → Result
  | .longHelp => answered (CommandLine.longHelp environment) tree
  | .shortHelp => answered (CommandLine.shortHelp environment) tree
  | .version => answered CommandLine.versionText tree
  | .refused refusal => ⟨2, [], [refusal.message], [], tree, []⟩

def failed (reason : String) (tree : FileTree) : Result :=
  ⟨1, [], (Text.lines ("Error: " ++ reason)).take 1, [], tree, []⟩

theorem result_answer (text : String) :
    Outcome.result (around.actions.answer text tree) = answered text tree := by
  have output := List.append_nil (Bytes.ofString text)
  exact congrArg (fun output => (⟨0, output, [], [], tree, []⟩ : Result)) output

theorem run_of_stop {stop : CommandLine.Stop}
    (unparsed : CommandLine.parse around.environment around.arguments = .error stop) :
    run around = stopped around.environment around.tree stop := by
  rw [run, Actions.program, unparsed]
  cases stop with
  | longHelp => exact result_answer around _
  | shortHelp => exact result_answer around _
  | version => exact result_answer around _
  | refused refusal => rfl

theorem result_fail (reason : String) :
    Outcome.result (around.actions.fail reason tree) = failed reason tree := by
  have lines := List.append_nil (Text.lines ("Error: " ++ reason))
  exact congrArg (fun lines => (⟨1, [], lines.take 1, [], tree, []⟩ : Result)) lines

theorem run_of_unnamed {written : Bytes} {reason : String}
    (parsed : CommandLine.parse around.environment around.arguments = .ok options)
    (given : options.logFile = some written) (unusable : LogPath.split written = .error reason) :
    run around = failed reason around.tree := by
  rw [run, Actions.program, parsed]
  simp only [given, unusable]
  exact result_fail around reason

theorem run_of_unopened {written : Bytes} {path : LogPath}
    (parsed : CommandLine.parse around.environment around.arguments = .ok options)
    (given : options.logFile = some written) (accepted : LogPath.split written = .ok path)
    (closed : Log.Rotation.openLog around.here around.today around.tree path = (tree, none)) :
    run around = failed cannotOpen tree := by
  rw [run, Actions.program, parsed]
  simp only [given, accepted, Traced.bind_apply, openLog_apply, closed, List.nil_append]
  exact result_fail around cannotOpen

/-- The command line, the path of the log and its file each have to be in order before the
filter is built. -/
inductive Course : Prop where
  | stopped {stop : CommandLine.Stop}
      (unparsed : CommandLine.parse around.environment around.arguments = .error stop) : Course
  | unnamed {options : CommandLine.Options} {written : Bytes} {reason : String}
      (parsed : CommandLine.parse around.environment around.arguments = .ok options)
      (given : options.logFile = some written)
      (unusable : LogPath.split written = .error reason) : Course
  | unopened {options : CommandLine.Options} {written : Bytes} {path : LogPath} {tree : FileTree}
      (parsed : CommandLine.parse around.environment around.arguments = .ok options)
      (given : options.logFile = some written)
      (accepted : LogPath.split written = .ok path)
      (closed : Log.Rotation.openLog around.here around.today around.tree path = (tree, none)) :
      Course
  | sampling {options : CommandLine.Options} {tree : FileTree}
      {logFile : Option (List Bytes)}
      (parsed : CommandLine.parse around.environment around.arguments = .ok options)
      (opens : LogOpens around options tree logFile) : Course

theorem course : Course around := by
  cases parsed : CommandLine.parse around.environment around.arguments with
  | error stop => exact .stopped parsed
  | ok options =>
      cases given : options.logFile with
      | none => exact .sampling parsed (.unfiled given)
      | some written =>
          cases accepted : LogPath.split written with
          | error reason => exact .unnamed parsed given accepted
          | ok path =>
              rcases opened : Log.Rotation.openLog around.here around.today around.tree path with
                ⟨tree, _ | file⟩
              · exact .unopened parsed given accepted opened
              · exact .sampling parsed (.filed given accepted opened)

end MemoryProbe.Probe
