import MemoryProbe.Proofs.Session.Answers

namespace MemoryProbe.Session

/-! ## Replies over a run

What a turn does to the replies of one method: it sets them, or is answered from
them. The step lemma carries what is in turn after the turn back to the replies that
the turn finds. -/

section

variable (kind : GpuKind) (method : Method)

def setMoves (changes : List Change) : List (Replies.Move method.Reply) :=
  changes.filterMap fun change => (ofMethod? method change.target).map .set

def answerMoves (exchanges : List Exchange) : List (Replies.Move method.Reply) :=
  exchanges.filterMap fun exchange => (ofMethod? method exchange).map .answered

def Turn.moves (turn : Turn) : List (Replies.Move method.Reply) :=
  answerMoves method (turn.exchanges kind) ++ setMoves method turn.step.changes

variable {kind method}

private theorem inTurn_changes {rest : List (Replies.Move method.Reply)} (changes : List Change)
    (script : Script)
    (later : Replies.InTurn ((changes.foldl Change.apply script).standing method) rest) :
    Replies.InTurn (script.standing method) (setMoves method changes ++ rest) := by
  induction changes generalizing script with
  | nil => exact later
  | cons change changes induction =>
      have inTurn := induction (change.apply script) later
      rw [Change.standing_apply] at inTurn
      rw [setMoves, List.filterMap_cons]
      cases target : ofMethod? method change.target with
      | none =>
          rw [target] at inTurn
          exact inTurn
      | some replies =>
          rw [target] at inTurn
          exact inTurn

private theorem inTurn_hear (scripted : kind.scripts method = true)
    {rest : List (Replies.Move method.Reply)} (methods : List Method) (script : Script)
    (later : Replies.InTurn ((methods.foldl kind.after script).standing method) rest) :
    Replies.InTurn (script.standing method)
      (answerMoves method (kind.hear script methods) ++ rest) := by
  induction methods generalizing script with
  | nil => exact later
  | cons other methods induction =>
      have inTurn := induction (kind.after script other) later
      rw [GpuKind.hear, answerMoves, List.filterMap_cons]
      by_cases same : other = method
      · subst same
        rw [GpuKind.standing_after_self scripted] at inTurn
        have answer : kind.reply script other = (script.standing other).current := by
          rw [GpuKind.reply, GpuKind.standing_told_of_scripts script scripted]
        rw [ofMethod?_self]
        exact ⟨answer, inTurn⟩
      · -- Asking another method neither moves these replies on nor shows in the answers.
        rw [GpuKind.standing_after_of_ne script same] at inTurn
        rw [ofMethod?_of_ne same]
        exact inTurn

theorem inTurn_turn (scripted : kind.scripts method = true)
    {rest : List (Replies.Move method.Reply)} (turn : Turn)
    (later : Replies.InTurn ((turn.outcome kind).state.script.standing method) rest) :
    Replies.InTurn (turn.session.script.standing method) (turn.moves kind method ++ rest) := by
  rw [Turn.script_outcome] at later
  rw [Turn.moves, List.append_assoc]
  exact inTurn_hear scripted _ _ (inTurn_changes _ _ later)

theorem inTurn_turns (scripted : kind.scripts method = true) (session : Session)
    (steps : List Step) :
    Replies.InTurn (session.script.standing method)
      ((turns kind session steps).flatMap (Turn.moves kind method)) := by
  induction steps generalizing session with
  | nil => trivial
  | cons step rest induction =>
      rw [turns, List.flatMap_cons]
      exact inTurn_turn scripted ⟨session, step⟩ (induction _)

end

private theorem Turn.reply_eq {kind : GpuKind} {turn : Turn} {method : Method}
    {reply : method.Reply} (told : ⟨method, reply⟩ ∈ turn.exchanges kind) :
    kind.reply turn.session.script method = reply := by
  rw [Turn.exchanges_eq_replies, GpuKind.replies, List.mem_map] at told
  rcases told with ⟨asked, -, same⟩
  cases congrArg Sigma.fst same
  simpa using same

/-- Captures under no library leave the device alone. -/
theorem Turn.device_untouched {kind : GpuKind} {turn : Turn} (captures : turn.step = .capture)
    (null : ⟨.library, none⟩ ∈ turn.exchanges kind) :
    ∀ method ∈ deviceMethods, method ∉ Entry.calls (turn.outcome kind).record ∧
      (turn.outcome kind).state.script.standing method =
        turn.session.script.standing method := by
  have nullReply := Turn.reply_eq null
  rcases turn with ⟨session, step⟩
  cases captures
  have reads : Turn.reads kind ⟨session, .capture⟩ =
      [.physicalMemory, .freeMemory, .library] := captureReads_of_null nullReply
  intro method device
  have fresh : method ∉ ([.physicalMemory, .freeMemory, .library] : List Method) := by
    revert method
    decide
  simp only [List.mem_cons, List.not_mem_nil, or_false, not_or] at fresh
  rcases fresh with ⟨notPhysical, notFree, notLibrary⟩
  constructor
  · rw [Turn.calls_outcome, reads, List.mem_filter]
    simp [notPhysical, notFree, notLibrary]
  · rw [Turn.script_outcome, reads]
    simp only [Step.changes, List.foldl_cons, List.foldl_nil]
    rw [GpuKind.standing_after_of_ne _ (Ne.symm notLibrary),
      GpuKind.standing_after_of_ne _ (Ne.symm notFree),
      GpuKind.standing_after_of_ne _ (Ne.symm notPhysical)]

/-! ## The reads of a run -/

/-- Everything that happens to the replies of a method, from the script on. -/
def history (kind : GpuKind) (method : Method) (script : Script) (steps : List Step) :
    List (Replies.Move method.Reply) :=
  .set (script.standing method) ::
    (turns kind (start script) steps).flatMap (Turn.moves kind method)

theorem inTurn_history {kind : GpuKind} {method : Method}
    (scripted : kind.scripts method = true) (script : Script) (steps : List Step)
    (standing : Replies method.Reply) :
    Replies.InTurn standing (history kind method script steps) :=
  inTurn_turns scripted (start script) steps

/-- What is asked in one turn, and what that leads to. -/
structure Turn.ReadsExactly (kind : GpuKind) (turn : Turn) : Prop where
  calls : Entry.calls (turn.outcome kind).record =
    (turn.step.reads kind turn.session.script).filter kind.scripts
  exchanges : turn.exchanges kind =
    kind.replies turn.session.script (turn.step.reads kind turn.session.script)
  answered : Answered turn.step (turn.exchanges kind) (turn.outcome kind).value
  figures_once : turn.step = .capture →
    ((Entry.calls (turn.outcome kind).record).flatMap Method.figures).Nodup
  device_untouched : turn.step = .capture → ⟨.library, none⟩ ∈ turn.exchanges kind →
    ∀ method ∈ deviceMethods, method ∉ Entry.calls (turn.outcome kind).record ∧
      (turn.outcome kind).state.script.standing method =
        turn.session.script.standing method
  missing : ∀ exchange ∈ turn.exchanges kind,
    kind.scripts exchange.1 = false → exchange ∈ GpuKind.missing

theorem Turn.readsExactly (kind : GpuKind) (turn : Turn) : turn.ReadsExactly kind where
  calls := turn.calls_outcome kind
  exchanges := turn.exchanges_eq_replies kind
  answered := turn.answered kind
  figures_once := by
    intro captures
    rcases turn with ⟨session, step⟩
    cases captures
    exact nodup_calls_capture kind session.script
  device_untouched := Turn.device_untouched
  missing := by
    intro exchange member unscripted
    rw [Turn.exchanges_eq_replies, GpuKind.replies, List.mem_map] at member
    rcases member with ⟨method, -, rfl⟩
    exact GpuKind.exchange_mem_missing _ unscripted

/-- Over any run each step asks the methods of its kind in order, each once, calls those
that are scripted, and answers from their replies. A capture reads no figure twice and
under no library leaves the device's replies alone. A scripted method answers the calls
since its replies were last set with the entries of the list in turn, the last one
staying; one that is not scripted answers as a missing framework does. -/
theorem session_reads_exact (kind : GpuKind) (script : Script) (steps : List Step) :
    (turns kind (start script) steps).map Turn.step = steps ∧
      run kind (start script) steps =
        (turns kind (start script) steps).map (Turn.outcome kind) ∧
      (∀ turn ∈ turns kind (start script) steps, turn.ReadsExactly kind) ∧
      ∀ method, kind.scripts method = true →
        ∀ (replies : Replies method.Reply) (answers : List method.Reply) (reply : method.Reply)
          (earlier later : List (Replies.Move method.Reply)),
          history kind method script steps = earlier ++
            .set replies :: (answers.map .answered ++ .answered reply :: later) →
          reply = replies.entry answers.length := by
  refine ⟨map_step_turns kind _ steps, run_eq_map_turns kind _ steps,
    fun turn _ => turn.readsExactly kind, ?_⟩
  intro method scripted replies answers reply earlier later split
  have inTurn := inTurn_history scripted script steps (script.standing method)
  rw [split] at inTurn
  exact inTurn.of_set.eq_entry

end MemoryProbe.Session
