import MemoryProbe.Proofs.FailingSink
import MemoryProbe.Proofs.Log.Date
import MemoryProbe.Proofs.Log.Rotation
import MemoryProbe.Proofs.PlatformSnapshot
import MemoryProbe.Proofs.Probe.Course

namespace MemoryProbe

namespace NvmlLibrary

variable (library : NvmlLibrary)

private theorem events_openSession :
    Entry.events (library.openSession ()).record =
      ((NvmlError.ofCode library.firstInit).map Log.Event.standardInitFailed).toList := by
  rw [openSession, Traced.bind_record, attempt_apply, Entry.events_append]
  cases NvmlError.ofCode library.firstInit with
  | none => rfl
  | some failure => rfl

private theorem events_firstDeviceUsage :
    Entry.events (library.firstDeviceUsage ()).record = [] := by
  rw [firstDeviceUsage, Traced.bind_record, attempt_apply, Entry.events_append]
  cases NvmlError.ofCode library.countCode with
  | some failure => rfl
  | none =>
      by_cases noDevice : library.count = 0
      · simp [noDevice]
      simp only [noDevice, if_false, Traced.bind_record, attempt_apply, Entry.events_append]
      cases NvmlError.ofCode library.handleCode with
      | some failure => rfl
      | none =>
          simp only [Traced.bind_record, attempt_apply, Entry.events_append]
          cases NvmlError.ofCode library.memoryCode <;> rfl

/-- A read of the library notes only that the library did not open the standard way. -/
theorem events_usage :
    Entry.events (library.usage ()).record =
      ((NvmlError.ofCode library.firstInit).map Log.Event.standardInitFailed).toList := by
  rw [usage, Traced.bind_record, Entry.events_append, events_openSession]
  cases (library.openSession ()).value with
  | error failure => exact List.append_nil _
  | ok opened =>
      rw [Traced.bind_record, Entry.events_append, events_firstDeviceUsage]
      exact List.append_nil _

end NvmlLibrary

/-! ## What an unset filter lets through

Failures are noted at the level `DEBUG`, and so is a snapshot. A device below the
library's minimum is noted at the level `INFO`. -/

namespace Log.Filter

private theorem filter_unavailable (scalar : ScalarQuery) (read : Except QueryError ByteCount) :
    (MemoryQuery.unavailable scalar read).filter standard.allows = [] := by
  cases read <;> rfl

private theorem filter_belowMinimum (library : Library) (recommended : ByteCount) :
    (MemoryQuery.belowMinimum library recommended).filter standard.allows =
      MemoryQuery.belowMinimum library recommended := by
  rw [MemoryQuery.belowMinimum]
  split <;> rfl

theorem filter_events_usage (library : NvmlLibrary) :
    (Entry.events (library.usage ()).record).filter standard.allows = [] := by
  rw [NvmlLibrary.events_usage]
  cases NvmlError.ofCode library.firstInit <;> rfl

end Log.Filter

namespace Machine

variable (machine : Machine)

/-- A budget that is there but below the minimum. -/
def shortBudget? : Option ByteCount :=
  match machine.usageRead with
  | .ok usage =>
      if 0 < usage.recommended ∧ usage.recommended < 457 * ByteCount.mebibyte then
        some usage.recommended
      else none
  | .error _ => none

/-- The line about such a budget. -/
def shortfallLine (budget : ByteCount) : String :=
  "INFO hwmem::snapshot: GPU memory below minimum: " ++ budget.sizeText ++
    " < 457.0 MiB library=nvml"

private theorem line_belowMinimum (budget : ByteCount) :
    (Log.Event.belowMinimum .nvml budget).line = shortfallLine budget := by
  have minimum : Library.nvml.minimumMemory.sizeText = "457.0 MiB" := by decide +kernel
  have before : "INFO" ++ " " ++ "hwmem::snapshot" ++ ": " ++ "GPU memory below minimum: " =
      "INFO hwmem::snapshot: GPU memory below minimum: " := by decide
  have after : " < " ++ "457.0 MiB" ++ " library=nvml" = " < 457.0 MiB library=nvml" := by decide
  have fields : String.join ((Log.Event.belowMinimum .nvml budget).fields.map fun field =>
      " " ++ field.name ++ "=" ++ field.value.inLine) = " library=nvml" := rfl
  unfold Log.Event.line Log.Event.target Log.Event.message shortfallLine
  rw [fields, ← before, ← after]
  simp only [Log.Event.level, Log.Level.name, minimum, String.append_assoc]

theorem filter_events_gpu? :
    (Entry.events (machine.query.gpu? ()).record).filter Log.Filter.standard.allows =
      (machine.shortBudget?.map (Log.Event.belowMinimum .nvml)).toList := by
  have library : (machine.query.gpu.library ()).value = some .nvml := rfl
  have found : Entry.events (machine.query.gpu.library ()).record = [] := rfl
  have usage : machine.query.gpu.usage = machine.nvml.usage := rfl
  have read : (machine.nvml.usage ()).value = machine.usageRead := rfl
  rw [MemoryQuery.events_gpu?, library, found, usage, read, List.nil_append,
    List.filter_append, Log.Filter.filter_events_usage, List.nil_append, shortBudget?]
  cases machine.usageRead with
  | error error => rfl
  | ok usage =>
      rw [MemoryQuery.usageEvents, Log.Filter.filter_belowMinimum, MemoryQuery.belowMinimum]
      by_cases short : 0 < usage.recommended ∧ usage.recommended < 457 * ByteCount.mebibyte
      · simp [Library.minimumMemory, short]
      · simp [Library.minimumMemory, short]

theorem filter_events_capture :
    (Entry.events (machine.query.capture ()).record).filter Log.Filter.standard.allows =
      (machine.shortBudget?.map (Log.Event.belowMinimum .nvml)).toList := by
  have captured : [Log.Event.captured (machine.query.capture ()).value].filter
      Log.Filter.standard.allows = [] := rfl
  have physical : Entry.events (machine.query.system.physical ()).record = [] := rfl
  have free : Entry.events (machine.query.system.free ()).record = [] := rfl
  rw [MemoryQuery.events_capture, MemoryQuery.physicalMemory, MemoryQuery.freeMemory,
    MemoryQuery.events_orUnknown, MemoryQuery.events_orUnknown, physical, free]
  simp only [List.filter_append, Log.Filter.filter_unavailable, captured, List.nil_append,
    List.append_nil]
  exact machine.filter_events_gpu?

end Machine

namespace Probe

/-! ## Samples and lines about them -/

variable {around : Surroundings} {options : CommandLine.Options} {tree : FileTree}
  {logFile : Option (List Bytes)}

theorem sampleLines_standard :
    sampleLines around Log.Filter.standard =
      (around.machine.shortBudget?.map Machine.shortfallLine).toList := by
  rw [sampleLines, logLines, Machine.filter_events_capture]
  cases around.machine.shortBudget? with
  | none => rfl
  | some budget => exact congrArg (fun line => [line]) (Machine.line_belowMinimum budget)

theorem allLines_standard :
    allLines around options Log.Filter.standard =
      around.machine.shortBudget?.elim [] fun budget =>
        List.replicate options.samples (Machine.shortfallLine budget) := by
  have started : logLines Log.Filter.standard [starting] = [] := rfl
  rw [allLines, started, List.nil_append, sampleLines_standard]
  cases around.machine.shortBudget? with
  | none => simp
  | some budget => simp

/-- What a run prints and logs that takes its samples, once its log is open: the file of
the day gets the lines after those it has. -/
structure PrintsSamples (around : Surroundings) (options : CommandLine.Options)
    (tree : FileTree) (logFile : Option (List Bytes)) (result : Result) : Prop where
  exitCode : result.exitCode = 0
  output : result.output = (List.replicate options.samples
    (Report.alone options.format (around.machine.query.capture ()).value)).flatten
  errors : around.logVariable = none → result.errors =
    around.machine.shortBudget?.elim [] fun budget =>
      List.replicate options.samples (Machine.shortfallLine budget)
  logged : options.logFile.isSome → result.errors =
    (Log.Filter.ofVariable around.logVariable).complaints.flatMap Text.lines ++ result.logged
  sameLines : around.logVariable = none → options.logFile.isSome →
    result.logged = result.errors
  kept : result.tree = logFile.elim tree (tree.append · result.logged)
  filed : ∀ path, logFile = some path → ∃ before, tree.Holds path before ∧
    result.tree.Holds path (before ++ result.logged)

/-- A run that breaks off has done nothing but open its log. -/
structure BreaksOff (tree : FileTree) (result : Result) : Prop where
  exitCode : result.exitCode = 101
  output : result.output = []
  logged : result.logged = []
  kept : result.tree = tree
  calls : result.calls = []

theorem LogOpens.exists_holds {path : List Bytes}
    (opens : LogOpens around options tree (some path)) : ∃ lines, tree.Holds path lines := by
  cases opens with
  | filed given accepted opened =>
      rcases Log.Rotation.opened_of_openLog around.isHere opened with ⟨rfl, folders, new, opens⟩
      rcases FileTree.mem_filesIn.mp opens.mem_filesIn with ⟨entry, member, same, isFile⟩
      cases node : entry.node with
      | file lines => exact ⟨lines, entry, member, same, node⟩
      | folder takesFiles => simp [node, FileNode.isFolder] at isFile

private theorem LogOpens.isSome_iff (opens : LogOpens around options tree logFile) :
    logFile.isSome = options.logFile.isSome := by
  cases opens with
  | unfiled given => rw [given]; rfl
  | filed given accepted opened => rw [given]; rfl

theorem sampled_printsSamples {filter : Log.Filter}
    (opens : LogOpens around options tree logFile)
    (found : (Log.Filter.ofVariable around.logVariable).filter = some filter) :
    PrintsSamples around options tree logFile
      (sampled around options tree logFile filter) where
  exitCode := rfl
  output := by rw [Report.alone_eq_bytes]; rfl
  errors := by
    intro unset
    rw [sampled, unset, Log.Filter.ofVariable_none]
    rw [unset, Log.Filter.ofVariable_none] at found
    cases found
    exact allLines_standard
  logged := by
    intro given
    rw [← opens.isSome_iff] at given
    cases logFile with
    | none => cases given
    | some file => rfl
  sameLines := by
    intro unset given
    rw [← opens.isSome_iff] at given
    cases logFile with
    | none => cases given
    | some file =>
        rw [sampled, unset, Log.Filter.ofVariable_none]
        rfl
  kept := by cases logFile <;> rfl
  filed := by
    rintro path rfl
    rcases opens.exists_holds with ⟨before, holds⟩
    exact ⟨before, holds, holds.append _⟩

/-- A run whose command line is read and whose log opens takes its samples and prints the
report of each, exactly when no directive of the log variable breaks off. Otherwise it
breaks off itself. -/
theorem samples_printed
    (parsed : CommandLine.parse around.environment around.arguments = .ok options)
    (opens : LogOpens around options tree logFile) :
    (¬Log.Filter.Breaks around.logVariable →
      PrintsSamples around options tree logFile (run around)) ∧
    (Log.Filter.Breaks around.logVariable → BreaksOff tree (run around)) := by
  constructor
  · intro whole
    rw [← Log.Filter.filter_ofVariable_eq_none] at whole
    rcases Option.ne_none_iff_exists'.mp whole with ⟨filter, found⟩
    rw [run_of_filter around parsed opens found]
    exact sampled_printsSamples opens found
  · intro breaks
    rw [run_of_breaks around parsed opens breaks]
    exact ⟨rfl, rfl, rfl, rfl, rfl⟩

def work : Bytes :=
  Bytes.ofString "work"

def workTree : FileTree where
  entries := [⟨[], work, .folder true⟩]
  distinct := by decide
  standing := by decide

/-- A device below the minimum: two samples, two lines, and the same two in the file. -/
def shortDevice : Surroundings where
  arguments := ["--samples=2", "--log-file=probe.log"].map Bytes.ofString
  environment := .empty
  logVariable := none
  tree := workTree
  here := [work]
  isHere := by decide
  machine := ⟨some "MemTotal: 100 kB\nMemFree: 5 kB\n", ⟨0, 0, 0, 1, 0, 0, 5, 0⟩⟩
  today := Log.Date.newYear

def twoLogged : CommandLine.Options :=
  ⟨.text, 2, 1000, some (Bytes.ofString "probe.log")⟩

def logOfDay : List Bytes :=
  [work, Bytes.ofString "probe.log.2026-01-01"]

def loggingTree : FileTree where
  entries := [⟨[], work, .folder true⟩,
    ⟨[work], Bytes.ofString "probe.log.2026-01-01", .file []⟩]
  distinct := by decide
  standing := by decide

private theorem shortDevice_parsed :
    CommandLine.parse shortDevice.environment shortDevice.arguments = .ok twoLogged := by
  have options : (CommandLine.parse shortDevice.environment shortDevice.arguments).toOption =
      some twoLogged := by decide +kernel
  cases parsed : CommandLine.parse shortDevice.environment shortDevice.arguments with
  | error stop => simp [parsed, Except.toOption] at options
  | ok given => simpa [parsed, Except.toOption] using options

private theorem shortDevice_logOpens :
    LogOpens shortDevice twoLogged loggingTree (some logOfDay) := by
  have found : LogPath.ofPath? (Bytes.ofString "probe.log") =
      some ⟨[LogPath.dot], "probe.log"⟩ := by decide +kernel
  have accepted : LogPath.split (Bytes.ofString "probe.log") =
      .ok ⟨[LogPath.dot], "probe.log"⟩ := by rw [LogPath.split, found]
  have opened : Log.Rotation.openLog [work] Log.Date.newYear workTree
      ⟨[LogPath.dot], "probe.log"⟩ = (loggingTree, some logOfDay) := by decide +kernel
  exact .filed rfl accepted opened

theorem samples_printed_short_device :
    CommandLine.parse shortDevice.environment shortDevice.arguments = .ok twoLogged ∧
      LogOpens shortDevice twoLogged loggingTree (some logOfDay) ∧
      shortDevice.machine.shortBudget? = some 5 ∧
      PrintsSamples shortDevice twoLogged loggingTree (some logOfDay) (run shortDevice) := by
  refine ⟨shortDevice_parsed, shortDevice_logOpens, by decide +kernel, ?_⟩
  exact (samples_printed shortDevice_parsed shortDevice_logOpens).1 Log.Filter.not_breaks_none

/-- The target of a directive is looked up behind a blank and cut from the text with the
blank, in the middle of a character: the variable is text and set as it may be, and nothing
is printed. -/
def cutDirective : Surroundings :=
  { shortDevice with
    arguments := []
    logVariable := some (Bytes.ofString " é=debug") }

theorem cutDirective_not_printed :
    CommandLine.parse cutDirective.environment cutDirective.arguments =
        .ok ⟨.text, 1, 1000, none⟩ ∧
      LogOpens cutDirective ⟨.text, 1, 1000, none⟩ cutDirective.tree none ∧
      (run cutDirective).exitCode = 101 ∧ (run cutDirective).output = [] ∧
      ¬PrintsSamples cutDirective ⟨.text, 1, 1000, none⟩ cutDirective.tree none
        (run cutDirective) := by
  have brokenOff : (run cutDirective).exitCode = 101 ∧ (run cutDirective).output = [] := by
    decide +kernel
  refine ⟨rfl, .unfiled rfl, brokenOff.1, brokenOff.2, fun prints => ?_⟩
  rw [prints.exitCode] at brokenOff
  exact absurd brokenOff.1 (by decide)

end Probe

end MemoryProbe
