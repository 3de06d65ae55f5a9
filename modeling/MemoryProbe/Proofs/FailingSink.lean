import MemoryProbe.Proofs.Reporting

namespace MemoryProbe.Report

/-! ## Reporting into a sink that fails

The measure of every outcome is what each snapshot gives in a sink without limits,
and what the first of them give together. -/

def alone (format : Format) (snapshot : Snapshot) : Bytes :=
  (write format (Sink.empty none none) snapshot).1.held

def first (format : Format) (snapshots : List Snapshot) (count : Nat) : Bytes :=
  (snapshots.take count).flatMap (alone format)

def Fits (byteLimit : Option Nat) (written : Bytes) : Prop :=
  ∀ limit, byteLimit = some limit → written.length ≤ limit

variable (format : Format) (snapshots : List Snapshot) (byteLimit flushLimit : Option Nat)

/-- Everything is written and flushed. -/
def Complete : Prop :=
  Fits byteLimit (first format snapshots snapshots.length) ∧
    ∀ limit, flushLimit = some limit → snapshots.length ≤ limit

/-- A flush is refused after a whole report. -/
def FlushRefused (flushed : Nat) : Prop :=
  flushLimit = some flushed ∧ flushed < snapshots.length ∧
    Fits byteLimit (first format snapshots (flushed + 1))

/-- A report is the first that the byte limit cuts. -/
def FirstCut (limit index : Nat) : Prop :=
  byteLimit = some limit ∧ index < snapshots.length ∧
    Fits byteLimit (first format snapshots index) ∧
    limit < (first format snapshots (index + 1)).length

/-- The failure of a cut report, told by how many of its bytes are missing. -/
def cutMessage (missing : Nat) : Format → String
  | .text => "write text report: sink full"
  | .json =>
      if missing = 1 then "write json report: sink full"
      else "encode snapshot: sink full"

private theorem message_cutStage (missing : Nat) :
    Failure.message ⟨cutStage format missing, .full⟩ = cutMessage missing format := by
  cases format with
  | text => rfl
  | json =>
      by_cases newline : missing = 1
      · rw [cutStage, cutMessage, if_pos newline, if_pos newline]
        rfl
      · rw [cutStage, cutMessage, if_neg newline, if_neg newline]
        rfl

/-! ## The first reports -/

theorem alone_eq_bytes (snapshot : Snapshot) :
    alone format snapshot = bytes format snapshot := by
  rw [alone, write_of_flushes (Sink.takes_unlimited _) (Sink.flushes_unlimited 1)]
  rfl

theorem first_eq_allBytes (count : Nat) :
    first format snapshots count = allBytes format (snapshots.take count) := by
  have same : alone format = bytes format := funext (alone_eq_bytes format)
  rw [first, same, allBytes]

private theorem first_succ {count : Nat} (below : count < snapshots.length) :
    first format snapshots (count + 1) =
      first format snapshots count ++ bytes format snapshots[count] := by
  rw [first, List.take_succ_eq_append_getElem below, List.flatMap_append, ← first]
  simp [alone_eq_bytes]

theorem first_prefix_of_le {count larger : Nat} (le : count ≤ larger) :
    first format snapshots count <+: first format snapshots larger := by
  rcases List.take_prefix_take_left (l := snapshots) le with ⟨between, split⟩
  refine ⟨between.flatMap (alone format), ?_⟩
  rw [first, first, ← split, List.flatMap_append]

variable {format snapshots byteLimit flushLimit}

theorem Fits.of_le {count larger : Nat}
    (fits : Fits byteLimit (first format snapshots larger)) (le : count ≤ larger) :
    Fits byteLimit (first format snapshots count) := by
  intro limit limited
  have shorter := (first_prefix_of_le format snapshots le).length_le
  exact Nat.le_trans shorter (fits limit limited)

/-- A total that does not fit has a first report that does not. -/
theorem exists_first_cut {limit count : Nat} (limited : byteLimit = some limit)
    (within : count ≤ snapshots.length)
    (tooLong : limit < (first format snapshots count).length) :
    ∃ index, index < count ∧ FirstCut format snapshots byteLimit limit index := by
  induction count with
  | zero => simp [first] at tooLong
  | succ count induction =>
      by_cases cutBefore : limit < (first format snapshots count).length
      · rcases induction (Nat.le_of_succ_le within) cutBefore with ⟨index, below, cut⟩
        exact ⟨index, Nat.lt_succ_of_lt below, cut⟩
      · have fits : Fits byteLimit (first format snapshots count) := by
          intro other limitedOther
          rw [limited] at limitedOther
          cases limitedOther
          exact Nat.le_of_not_lt cutBefore
        exact ⟨count, Nat.lt_succ_self count, limited, within, fits, tooLong⟩

/-! ## The sink after the first reports -/

def reached (format : Format) (snapshots : List Snapshot) (byteLimit flushLimit : Option Nat)
    (count : Nat) : Sink :=
  ⟨first format snapshots count, count, byteLimit, flushLimit⟩

private theorem takes_empty_iff (written : Bytes) :
    (Sink.empty byteLimit flushLimit).Takes written ↔ Fits byteLimit written := by
  simp [Sink.Takes, Sink.empty, Sink.room, Fits]

private theorem reached_eq (count : Nat) :
    reached format snapshots byteLimit flushLimit count =
      ((Sink.empty byteLimit flushLimit).hold
        (allBytes format (snapshots.take count))).flushed count := by
  simp [reached, first_eq_allBytes, Sink.hold, Sink.flushed, Sink.empty]

theorem writeAll_eq_from_reached {count : Nat} (within : count ≤ snapshots.length)
    (fits : Fits byteLimit (first format snapshots count))
    (flushes : ∀ limit, flushLimit = some limit → count ≤ limit) :
    writeAll format (Sink.empty byteLimit flushLimit) snapshots =
      writeAll format (reached format snapshots byteLimit flushLimit count)
        (snapshots.drop count) := by
  have length : (snapshots.take count).length = count := List.length_take_of_le within
  have takes : (Sink.empty byteLimit flushLimit).Takes
      (allBytes format (snapshots.take count)) := by
    rw [takes_empty_iff, ← first_eq_allBytes]
    exact fits
  have flushesAll : (Sink.empty byteLimit flushLimit).Flushes
      (snapshots.take count).length := by
    intro limit limited
    rw [length]
    simpa [Sink.empty] using flushes limit limited
  have split := writeAll_append_of_flushes (snapshots.drop count) takes flushesAll
  rw [List.take_append_drop, length, ← reached_eq] at split
  exact split

private theorem room_reached {limit : Nat} (limited : byteLimit = some limit) (count : Nat) :
    (reached format snapshots byteLimit flushLimit count).room =
      some (limit - (first format snapshots count).length) := by
  rw [reached, Sink.room, limited, Option.map_some]

private theorem takes_reached {count : Nat} (below : count < snapshots.length)
    (fits : Fits byteLimit (first format snapshots (count + 1))) :
    (reached format snapshots byteLimit flushLimit count).Takes
      (bytes format snapshots[count]) := by
  intro room limitedRoom
  cases limited : byteLimit with
  | none => simp [reached, Sink.room, limited] at limitedRoom
  | some limit =>
      have total := fits limit limited
      rw [first_succ format snapshots below, List.length_append] at total
      rw [room_reached limited] at limitedRoom
      cases limitedRoom
      omega

/-! ## The three outcomes -/

theorem writeAll_of_complete (complete : Complete format snapshots byteLimit flushLimit) :
    writeAll format (Sink.empty byteLimit flushLimit) snapshots =
      (reached format snapshots byteLimit flushLimit snapshots.length, none) := by
  rw [writeAll_eq_from_reached (Nat.le_refl _) complete.1 complete.2, List.drop_length]
  rfl

theorem writeAll_of_flushRefused {flushed : Nat}
    (refused : FlushRefused format snapshots byteLimit flushLimit flushed) :
    writeAll format (Sink.empty byteLimit flushLimit) snapshots =
      (⟨first format snapshots (flushed + 1), flushed, byteLimit, flushLimit⟩,
        some ⟨.flush, .flushFailed⟩) := by
  rcases refused with ⟨limited, below, fits⟩
  have flushes : ∀ limit, flushLimit = some limit → flushed ≤ limit := by
    intro limit limitedOther
    rw [limited] at limitedOther
    cases limitedOther
    exact Nat.le_refl _
  rw [writeAll_eq_from_reached (Nat.le_of_lt below) (fits.of_le (Nat.le_succ _)) flushes,
    List.drop_eq_getElem_cons below, writeAll,
    write_of_limit_le (takes_reached below fits) limited (Nat.le_refl flushed),
    first_succ format snapshots below]
  rfl

theorem writeAll_of_firstCut {limit index : Nat}
    (cut : FirstCut format snapshots byteLimit limit index)
    (flushes : ∀ limit, flushLimit = some limit → index ≤ limit) :
    writeAll format (Sink.empty byteLimit flushLimit) snapshots =
      (⟨(first format snapshots (index + 1)).take limit, index, byteLimit, flushLimit⟩,
        some ⟨cutStage format ((first format snapshots (index + 1)).length - limit),
          .full⟩) := by
  rcases cut with ⟨limited, below, fits, tooLong⟩
  have held := fits limit limited
  rw [first_succ format snapshots below, List.length_append] at tooLong ⊢
  have tooLongHere :
      limit - (first format snapshots index).length <
        (bytes format snapshots[index]).length := by
    omega
  have missing :
      (bytes format snapshots[index]).length -
          (limit - (first format snapshots index).length) =
        (first format snapshots index).length +
          (bytes format snapshots[index]).length - limit := by
    omega
  rw [writeAll_eq_from_reached (Nat.le_of_lt below) fits flushes,
    List.drop_eq_getElem_cons below, writeAll,
    write_of_room_lt (room_reached limited index) tooLongHere, missing,
    List.take_append, List.take_of_length_le held]
  rfl

/-- Where neither of the first two outcomes arises, the total is too long, and the
first report to cross the limit comes before any flush is refused. -/
theorem exists_firstCut_of_not (incomplete : ¬Complete format snapshots byteLimit flushLimit)
    (unrefused : ∀ flushed, ¬FlushRefused format snapshots byteLimit flushLimit flushed) :
    ∃ limit index, FirstCut format snapshots byteLimit limit index ∧
      ∀ limit, flushLimit = some limit → index ≤ limit := by
  by_cases fits : Fits byteLimit (first format snapshots snapshots.length)
  · exfalso
    apply incomplete
    refine ⟨fits, ?_⟩
    intro limit limited
    apply Nat.le_of_not_lt
    intro below
    exact unrefused limit ⟨limited, below, fits.of_le below⟩
  · simp only [Fits, Classical.not_forall, Nat.not_le] at fits
    rcases fits with ⟨limit, limited, tooLong⟩
    rcases exists_first_cut limited (Nat.le_refl _) tooLong with ⟨index, below, cut⟩
    refine ⟨limit, index, cut, ?_⟩
    intro flushed limitedFlush
    apply Nat.le_of_not_lt
    intro earlier
    exact unrefused flushed
      ⟨limitedFlush, Nat.lt_trans earlier below, cut.2.2.1.of_le earlier⟩

private theorem held_between (format : Format) (snapshots : List Snapshot)
    (byteLimit flushLimit : Option Nat) :
    let sink := (writeAll format (Sink.empty byteLimit flushLimit) snapshots).1
    first format snapshots sink.flushes <+: sink.held ∧
      sink.held <+: first format snapshots snapshots.length := by
  intro sink
  by_cases complete : Complete format snapshots byteLimit flushLimit
  · have ended : sink = _ := congrArg Prod.fst (writeAll_of_complete complete)
    rw [ended]
    exact ⟨List.prefix_refl _, List.prefix_refl _⟩
  by_cases refused : ∃ flushed, FlushRefused format snapshots byteLimit flushLimit flushed
  · rcases refused with ⟨flushed, refused⟩
    have ended : sink = _ := congrArg Prod.fst (writeAll_of_flushRefused refused)
    rw [ended]
    exact ⟨first_prefix_of_le _ _ (Nat.le_succ _), first_prefix_of_le _ _ refused.2.1⟩
  · rcases exists_firstCut_of_not complete (not_exists.mp refused) with
      ⟨limit, index, cut, flushes⟩
    have ended : sink = _ := congrArg Prod.fst (writeAll_of_firstCut cut flushes)
    rw [ended]
    rcases cut with ⟨limited, below, fits, tooLong⟩
    constructor
    · exact List.prefix_take_iff.mpr
        ⟨first_prefix_of_le _ _ (Nat.le_succ _), fits limit limited⟩
    · exact (List.take_prefix _ _).trans (first_prefix_of_le _ _ below)

/-- Whatever the limits, the sink ends in one of three ways. All reports are written and
flushed; or the limit of flushes refuses the one after a whole report; or a report is
the first to cross the byte limit, and the sink holds exactly the bytes up to it. So
the sink starts with every flushed report and holds nothing after a cut, and a report
leaves it the same into whatever chunks its stages are split. -/
theorem failing_sink_outcome (format : Format) (snapshots : List Snapshot)
    (byteLimit flushLimit : Option Nat) :
    let outcome := writeAll format (Sink.empty byteLimit flushLimit) snapshots
    (Complete format snapshots byteLimit flushLimit →
        outcome.1.held = first format snapshots snapshots.length ∧
        outcome.1.flushes = snapshots.length ∧ outcome.2 = none) ∧
      (∀ flushed, FlushRefused format snapshots byteLimit flushLimit flushed →
        outcome.1.held = first format snapshots (flushed + 1) ∧
        outcome.1.flushes = flushed ∧
        outcome.2.map Failure.message = some "flush report: flush failed") ∧
      (¬Complete format snapshots byteLimit flushLimit →
        (∀ flushed, ¬FlushRefused format snapshots byteLimit flushLimit flushed) →
          ∃ limit index, FirstCut format snapshots byteLimit limit index ∧
            outcome.1.held = (first format snapshots (index + 1)).take limit ∧
            outcome.1.flushes = index ∧
            outcome.2.map Failure.message = some (cutMessage
              ((first format snapshots (index + 1)).length - limit) format)) ∧
      first format snapshots outcome.1.flushes <+: outcome.1.held ∧
      outcome.1.held <+: first format snapshots snapshots.length ∧
      ∀ (sink : Sink) (snapshot : Snapshot) (split : List (Stage × List Bytes)),
        joined split = joined (body format snapshot) →
          writeStages sink split = writeStages sink (body format snapshot) := by
  intro outcome
  rcases held_between format snapshots byteLimit flushLimit with ⟨starts, bounded⟩
  refine ⟨?_, ?_, ?_, starts, bounded, ?_⟩
  · intro complete
    have ended : outcome = _ := writeAll_of_complete complete
    rw [ended]
    exact ⟨rfl, rfl, rfl⟩
  · intro flushed refused
    have ended : outcome = _ := writeAll_of_flushRefused refused
    rw [ended]
    exact ⟨rfl, rfl, rfl⟩
  · intro incomplete unrefused
    rcases exists_firstCut_of_not incomplete unrefused with ⟨limit, index, cut, flushes⟩
    have ended : outcome = _ := writeAll_of_firstCut cut flushes
    refine ⟨limit, index, cut, ?_⟩
    rw [ended]
    exact ⟨rfl, rfl, congrArg some (message_cutStage format _)⟩
  · intro sink snapshot split same
    rw [← writeStages_joined, same, writeStages_joined]

end MemoryProbe.Report
