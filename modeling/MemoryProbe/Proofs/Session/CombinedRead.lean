import Mathlib.Data.List.Forall2
import MemoryProbe.Proofs.Agreement
import MemoryProbe.Proofs.Queries
import MemoryProbe.Session

namespace MemoryProbe

/-! ## Inherited and own combined reads

A source that reads its two figures one by one and a source with a combined read of its
own tell the same when the combined reply is made of the two figures. These must be
fixed: the sources do not ask for them equally often. -/

theorem Replies.advance_of_fixed {Reply : Type} {replies : Replies Reply}
    (fixed : replies.later = []) : replies.advance = replies := by
  rcases replies with ⟨current, later⟩
  cases fixed
  rfl

namespace Session

open Traced (Agrees)

structure TellSame (split single : Script) : Prop where
  library : split.library = single.library
  recommended : split.recommended = single.recommended
  recommended_fixed : split.recommended.later = []
  allocated : split.allocated = single.allocated
  allocated_fixed : split.allocated.later = []
  usage : single.usage =
    .fixed (GpuSource.combined split.recommended.current split.allocated.current)
  physical : split.physical = single.physical
  free : split.free = single.free

/-! ## The sources agree -/

namespace TellSame

private theorem askLibrary : Agrees TellSame Script.askLibrary Script.askLibrary := by
  intro split single told
  exact ⟨congrArg Replies.current told.library,
    { told with library := congrArg Replies.advance told.library }⟩

private theorem askPhysical : Agrees TellSame Script.askPhysical Script.askPhysical := by
  intro split single told
  exact ⟨congrArg Replies.current told.physical,
    { told with physical := congrArg Replies.advance told.physical }⟩

private theorem askFree : Agrees TellSame Script.askFree Script.askFree := by
  intro split single told
  exact ⟨congrArg Replies.current told.free,
    { told with free := congrArg Replies.advance told.free }⟩

/-- Asking for a fixed reply leaves the script as it is. -/
theorem askRecommended_state {script : Script} (fixed : script.recommended.later = []) :
    (Script.askRecommended script).state = script := by
  rw [Script.askRecommended, Replies.advance_of_fixed fixed]

private theorem askAllocated_state {script : Script} (fixed : script.allocated.later = []) :
    (Script.askAllocated script).state = script := by
  rw [Script.askAllocated, Replies.advance_of_fixed fixed]

private theorem askUsage_state {script : Script} (fixed : script.usage.later = []) :
    (Script.askUsage script).state = script := by
  rw [Script.askUsage, Replies.advance_of_fixed fixed]

private theorem askRecommended : Agrees TellSame Script.askRecommended Script.askRecommended := by
  intro split single told
  have singleFixed : single.recommended.later = [] := told.recommended ▸ told.recommended_fixed
  rw [askRecommended_state told.recommended_fixed, askRecommended_state singleFixed]
  exact ⟨congrArg Replies.current told.recommended, told⟩

private theorem askAllocated : Agrees TellSame Script.askAllocated Script.askAllocated := by
  intro split single told
  have singleFixed : single.allocated.later = [] := told.allocated ▸ told.allocated_fixed
  rw [askAllocated_state told.allocated_fixed, askAllocated_state singleFixed]
  exact ⟨congrArg Replies.current told.allocated, told⟩

private theorem separateUsage_state {script : Script} (recommended : script.recommended.later = [])
    (allocated : script.allocated.later = []) :
    (GpuSource.separateUsage Script.askRecommended Script.askAllocated script).state =
      script := by
  rw [GpuSource.separateUsage, Traced.bind_state, askRecommended_state recommended]
  cases (Script.askRecommended script).value with
  | error error => rfl
  | ok budget =>
      rw [Traced.bind_state, askAllocated_state allocated]
      cases (Script.askAllocated script).value <;> rfl

private theorem usageReads : Agrees TellSame
    (GpuSource.separateUsage Script.askRecommended Script.askAllocated)
    Script.askUsage := by
  intro split single told
  have singleFixed : single.usage.later = [] := by rw [told.usage]; rfl
  rw [separateUsage_state told.recommended_fixed told.allocated_fixed,
    askUsage_state singleFixed, GpuSource.separateUsage_value,
    askRecommended_state told.recommended_fixed]
  exact ⟨(congrArg Replies.current told.usage).symm, told⟩

theorem sources :
    MemoryQuery.SourcesAgree TellSame (query .split) (query .single) where
  library := askLibrary
  recommended := askRecommended
  allocated := askAllocated
  usage := usageReads
  physical := askPhysical
  free := askFree

end TellSame

/-! ## Sessions side by side -/

/-- Two sessions correspond when their scripts tell the same and they have taken the
same last snapshots. -/
structure Corresponds (split single : Session) : Prop where
  told : TellSame split.script single.script
  last : split.last = single.last
  previous : split.previous = single.previous

theorem Corresponds.read {Value : Type} {split single : Session}
    (corresponds : Corresponds split single) (answer : Value → Answer)
    {reading reading' : Reading Script Method Value}
    (agrees : Agrees TellSame reading reading') :
    (split.read answer reading).value = (single.read answer reading').value ∧
      Corresponds (split.read answer reading).state (single.read answer reading').state := by
  rcases agrees _ _ corresponds.told with ⟨sameValue, told⟩
  exact ⟨congrArg answer sameValue, { corresponds with told }⟩

theorem Corresponds.take {split single : Session} (corresponds : Corresponds split single)
    {reading reading' : Reading Script Method Snapshot}
    (agrees : Agrees TellSame reading reading') :
    (split.take reading).value = (single.take reading').value ∧
      Corresponds (split.take reading).state (single.take reading').state := by
  rcases agrees _ _ corresponds.told with ⟨sameValue, told⟩
  exact ⟨congrArg Answer.snapshot sameValue,
    ⟨told, congrArg some sameValue, corresponds.last⟩⟩

def Step.Sets : Step → Prop
  | .set _ => True
  | _ => False

theorem Corresponds.perform {split single : Session}
    (corresponds : Corresponds split single) {step : Step} (reads : ¬step.Sets) :
    (perform .split split step).value = (perform .single single step).value ∧
      Corresponds (perform .split split step).state (perform .single single step).state := by
  have sources := TellSame.sources
  cases step with
  | library => exact corresponds.read _ sources.library
  | recommendedMaxVram => exact corresponds.read _ sources.recommendedMaxVram
  | currentAllocatedVram => exact corresponds.read _ sources.currentAllocatedVram
  | physicalMemory => exact corresponds.read _ sources.physicalMemory
  | freeMemory => exact corresponds.read _ sources.freeMemory
  | vramUsage => exact corresponds.read _ sources.vramUsage
  | capture => exact corresponds.take sources.capture
  | text =>
      refine ⟨?_, corresponds⟩
      exact congrArg (fun last => Answer.text (last.map Snapshot.text)) corresponds.last
  | fits request =>
      refine ⟨?_, corresponds⟩
      exact congrArg (fun last => Answer.fits (last.map (·.fits request))) corresponds.last
  | same =>
      refine ⟨?_, corresponds⟩
      change Answer.same split.sameAsPrevious = Answer.same single.sameAsPrevious
      rw [sameAsPrevious, sameAsPrevious, corresponds.last, corresponds.previous]
  | set changes => exact absurd trivial reads

/-! ## Runs side by side -/

/-- Steps are alike when they are the same, save that each `set` makes its own changes. -/
inductive Step.Alike : Step → Step → Prop
  | same (step : Step) : Step.Alike step step
  | set (changes changes' : List Change) : Step.Alike (.set changes) (.set changes')

def reached (kind : GpuKind) (session : Session) (steps : List Step) : Session :=
  steps.foldl (fun session step => (perform kind session step).state) session

theorem Corresponds.perform_alike {split single : Session}
    (corresponds : Corresponds split single) {step step' : Step} (alike : step.Alike step')
    (kept : ∀ changes, step = .set changes →
      TellSame (Session.perform .split split step).state.script
        (Session.perform .single single step').state.script) :
    (Session.perform .split split step).value =
        (Session.perform .single single step').value ∧
      Corresponds (Session.perform .split split step).state
        (Session.perform .single single step').state := by
  cases alike with
  | set changes changes' =>
      exact ⟨rfl, kept changes rfl, corresponds.last, corresponds.previous⟩
  | same =>
      cases step with
      | set changes => exact ⟨rfl, kept changes rfl, corresponds.last, corresponds.previous⟩
      | _ => exact corresponds.perform (fun sets => sets)

theorem Corresponds.run {split single : Session} (corresponds : Corresponds split single)
    {steps steps' : List Step} (alike : List.Forall₂ Step.Alike steps steps')
    (kept : ∀ count changes, steps[count]? = some (.set changes) →
      TellSame (reached .split split (steps.take (count + 1))).script
        (reached .single single (steps'.take (count + 1))).script) :
    (Session.run .split split steps).map (·.value) =
      (Session.run .single single steps').map (·.value) := by
  induction alike generalizing split single with
  | nil => rfl
  | @cons step step' rest rest' first later induction =>
      have keptHere : ∀ changes, step = .set changes →
          TellSame (Session.perform .split split step).state.script
            (Session.perform .single single step').state.script :=
        fun changes here => kept 0 changes (congrArg some here)
      rcases corresponds.perform_alike first keptHere with ⟨sameValue, corresponding⟩
      have keptLater := induction corresponding fun count changes found =>
        kept (count + 1) changes found
      rw [Session.run, Session.run, List.map_cons, List.map_cons]
      exact congrArg₂ List.cons sameValue keptLater

/-- A session over a source that inherits its combined read and one over a source whose
combined reply is made of the same two figures give the same answer at every step, as
long as every `set` leaves the two sources telling the same. -/
theorem split_answers_eq_single (split single : Script) (steps steps' : List Step)
    (told : TellSame split single) (alike : List.Forall₂ Step.Alike steps steps')
    (kept : ∀ count changes, steps[count]? = some (.set changes) →
      TellSame (reached .split (start split) (steps.take (count + 1))).script
        (reached .single (start single) (steps'.take (count + 1))).script) :
    (run .split (start split) steps).map (·.value) =
      (run .single (start single) steps').map (·.value) :=
  have corresponds : Corresponds (start split) (start single) := ⟨told, rfl, rfl⟩
  corresponds.run alike kept

/-- A device with a budget of 1 GiB whose allocation cannot be read. The system's total
is told once and then lost. -/
def unknownAllocation : Script where
  library := .fixed (some .nvml)
  recommended := .fixed (.ok 0x40000000)
  allocated := .fixed (.error .noDevice)
  usage := .fixed (.ok ⟨0x40000000, 0⟩)
  physical := ⟨.ok 0x80000000, [.error .systemUnavailable]⟩
  free := .fixed (.ok 0x20000000)

def loseDevice : List Change :=
  [.recommended (.fixed (.error .noDevice))]

def loseDeviceAndUsage : List Change :=
  [.recommended (.fixed (.error .noDevice)), .usage (.fixed (.error .noDevice))]

/-- The device is lost in the middle of the session. -/
theorem split_answers_eq_single_lost_device :
    TellSame unknownAllocation unknownAllocation ∧
      (run .split (start unknownAllocation)
          [.capture, .fits 0x10000000, .set loseDevice,
            .vramUsage, .capture, .same, .text]).map (·.value) =
        (run .single (start unknownAllocation)
          [.capture, .fits 0x10000000, .set loseDeviceAndUsage,
            .vramUsage, .capture, .same, .text]).map (·.value) := by
  have told : TellSame unknownAllocation unknownAllocation :=
    ⟨rfl, rfl, rfl, rfl, rfl, rfl, rfl, rfl⟩
  have same : ∀ steps : List Step, List.Forall₂ Step.Alike steps steps :=
    fun steps => List.forall₂_same.mpr fun step _ => .same step
  refine ⟨told, split_answers_eq_single _ _ _ _ told
    (.cons (.same _) (.cons (.same _) (.cons (.set _ _) (same _)))) ?_⟩
  intro count changes found
  match count, found with
  | 2, _ => exact ⟨rfl, rfl, rfl, rfl, rfl, rfl, rfl, rfl⟩
  | count + 3, found =>
      have member : Step.set changes ∈ ([.vramUsage, .capture, .same, .text] : List Step) :=
        List.mem_of_getElem? found
      simp at member

end Session

end MemoryProbe
