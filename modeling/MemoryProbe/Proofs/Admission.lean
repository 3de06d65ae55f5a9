import MemoryProbe.Proofs.FitTest

namespace MemoryProbe

/-! ## Admission

Requests are decided one after another, each on a capture of its own. A world
tells, for every amount allocated, through which query and in which state the
device is seen then. -/

namespace Admission

variable {State Call : Type}

structure View (State Call : Type) where
  query : MemoryQuery State Call
  state : State

def View.capture (view : View State Call) : Snapshot :=
  (view.query.capture view.state).value

def View.Reports (view : View State Call) (library : Library) (usage : VramUsage) : Prop :=
  view.query.Reports view.state library usage

structure Round where
  allocated : ByteCount
  request : ByteCount
  admitted : Bool
  deriving DecidableEq, Repr

def Round.after (round : Round) : ByteCount :=
  if round.admitted then round.allocated + round.request else round.allocated

def rounds (world : ByteCount → View State Call) :
    ByteCount → List ByteCount → List Round
  | _, [] => []
  | allocated, request :: rest =>
      let round : Round := ⟨allocated, request, (world allocated).capture.fits request⟩
      round :: rounds world round.after rest

theorem requests_rounds (world : ByteCount → View State Call) (initial : ByteCount)
    (requests : List ByteCount) :
    (rounds world initial requests).map Round.request = requests := by
  induction requests generalizing initial with
  | nil => rfl
  | cons request rest induction => rw [rounds, List.map_cons, induction]

/-- An allocation lies above the floor when the library's minimum still fits beside it. -/
def AboveFloor (library : Library) (budget allocated : ByteCount) : Prop :=
  allocated.toNat + library.minimumMemory.toNat ≤ budget.toNat

/-- The initial allocation need not lie above the floor, but every one that a request
has been added to does. -/
def Kept (library : Library) (budget initial : ByteCount) (past : List Round)
    (allocated : ByteCount) : Prop :=
  (∀ round ∈ past, round.admitted = false) ∧ allocated = initial ∨
    AboveFloor library budget allocated

/-- A round is fair when its request is admitted exactly if it fits beside the
allocation and the minimum. -/
def Round.Fair (library : Library) (budget : ByteCount) (round : Round) : Prop :=
  round.admitted = true ↔
    round.allocated.toNat + round.request.toNat + library.minimumMemory.toNat ≤
      budget.toNat

section

variable {world : ByteCount → View State Call} {library : Library} {budget : ByteCount}

theorem Round.fair_of_reports {allocated : ByteCount}
    (reports : (world allocated).Reports library ⟨budget, allocated⟩)
    (belowLimit : budget.toNat < ByteCount.limit) (request : ByteCount) :
    Round.Fair library budget
      ⟨allocated, request, (world allocated).capture.fits request⟩ := by
  have found : (world allocated).capture.gpu = library.device ⟨budget, allocated⟩ :=
    reports.capture_gpu
  rw [Fair, Snapshot.fits, found]
  exact library.device_fits_iff belowLimit request

/-- An admitted request fits the budget, so adding it does not leave the range. -/
theorem Round.Fair.toNat_after {round : Round} (fair : round.Fair library budget) :
    round.after.toNat =
      round.allocated.toNat + if round.admitted then round.request.toNat else 0 := by
  unfold after
  cases admitted : round.admitted with
  | false => simp
  | true =>
      have fits := fair.mp admitted
      have budgetBound := budget.toNat_le_limit
      have inRange : round.allocated.toNat + round.request.toNat < UInt64.size := by
        unfold ByteCount.limit at budgetBound
        unfold UInt64.size at budgetBound ⊢
        omega
      simp only [if_true, UInt64.toNat_add]
      exact Nat.mod_eq_of_lt inRange

theorem Kept.after {initial : ByteCount} {past : List Round} {round : Round}
    (kept : Kept library budget initial past round.allocated)
    (fair : round.Fair library budget) :
    Kept library budget initial (past ++ [round]) round.after := by
  cases admitted : round.admitted with
  | false =>
      have unchanged : round.after = round.allocated := by simp [Round.after, admitted]
      rw [unchanged]
      refine kept.imp_left fun untouched => ⟨?_, untouched.2⟩
      intro earlier member
      rcases List.mem_append.mp member with member | member
      · exact untouched.1 earlier member
      · rw [List.mem_singleton.mp member, admitted]
  | true =>
      right
      have fits := fair.mp admitted
      have sum := fair.toNat_after
      rw [admitted, if_pos rfl] at sum
      rw [AboveFloor, sum]
      exact fits

/-- The induction runs over the requests still to come; what has been decided before
them is carried along as the past. -/
theorem kept_and_fair (reports : ∀ allocated,
      (world allocated).Reports library ⟨budget, allocated⟩)
    (belowLimit : budget.toNat < ByteCount.limit) (initial : ByteCount)
    (requests : List ByteCount) (past : List Round) (allocated : ByteCount)
    (kept : Kept library budget initial past allocated)
    (earlier : List Round) (round : Round) (later : List Round)
    (decided : rounds world allocated requests = earlier ++ round :: later) :
    Kept library budget initial (past ++ earlier) round.allocated ∧
      round.Fair library budget := by
  induction requests generalizing past allocated earlier with
  | nil => simp [rounds] at decided
  | cons request rest induction =>
      have fair := Round.fair_of_reports (reports allocated) belowLimit request
      rw [rounds] at decided
      cases earlier with
      | nil =>
          rcases List.cons.inj decided with ⟨rfl, -⟩
          exact ⟨by simpa using kept, fair⟩
      | cons first earlier =>
          rcases List.cons.inj decided with ⟨rfl, decidedLater⟩
          have keptAfter := kept.after fair
          simpa using induction _ _ keptAfter earlier decidedLater

end

/-- Whatever is requested, every round is decided by the sum of unbounded numbers,
no addition leaves the range, and before and after every round either nothing has
been admitted yet or the library's minimum is still free. -/
theorem admission_keeps_floor (world : ByteCount → View State Call) (library : Library)
    (budget : ByteCount)
    (reports : ∀ allocated, (world allocated).Reports library ⟨budget, allocated⟩)
    (belowLimit : budget.toNat < ByteCount.limit)
    (initial : ByteCount) (requests : List ByteCount) :
    (rounds world initial requests).map Round.request = requests ∧
      ∀ earlier round later,
        rounds world initial requests = earlier ++ round :: later →
          Kept library budget initial earlier round.allocated ∧
          (round.admitted = true ↔
            round.allocated.toNat + round.request.toNat +
              library.minimumMemory.toNat ≤ budget.toNat) ∧
          (round.admitted = true →
            round.allocated.toNat + round.request.toNat ≤ ByteCount.limit) ∧
          round.after.toNat = round.allocated.toNat +
            (if round.admitted then round.request.toNat else 0) ∧
          Kept library budget initial (earlier ++ [round]) round.after := by
  refine ⟨requests_rounds world initial requests, ?_⟩
  intro earlier round later decided
  have start : Kept library budget initial [] initial := .inl ⟨by simp, rfl⟩
  rcases kept_and_fair reports belowLimit initial requests [] initial start _ _ _ decided
    with ⟨kept, fair⟩
  rw [List.nil_append] at kept
  refine ⟨kept, fair, ?_, fair.toNat_after, kept.after fair⟩
  intro admitted
  have fits := fair.mp admitted
  have budgetBound := budget.toNat_le_limit
  omega

/-- A Metal device of one budget, seen at every amount allocated on it. -/
def metalWorld (info : MemInfo) (budget allocated : ByteCount) :
    View (Option MetalDevice) MetalCall :=
  ⟨MetalDevice.query info, some ⟨budget, allocated⟩⟩

private theorem metalWorld_reports (info : MemInfo) (budget allocated : ByteCount) :
    (metalWorld info budget allocated).Reports .metal ⟨budget, allocated⟩ := by
  have state : (MetalDevice.query info).gpuState (some ⟨budget, allocated⟩) =
      some ⟨budget, allocated⟩ := MemoryQuery.gpuState_of_memInfo _ _ info
  constructor <;> simp only [metalWorld, state] <;> rfl

/-- On a budget of 2 GiB a second GiB is refused and half a GiB is the last to fit. -/
theorem admission_keeps_floor_metal :
    (∀ allocated, (metalWorld .unread 0x80000000 allocated).Reports .metal
      ⟨0x80000000, allocated⟩) ∧
    (0x80000000 : ByteCount).toNat < ByteCount.limit ∧
    rounds (metalWorld .unread 0x80000000) 0 [0x40000000, 0x40000000, 0x20000000] =
      [⟨0, 0x40000000, true⟩, ⟨0x40000000, 0x40000000, false⟩] ++
        ⟨0x40000000, 0x20000000, true⟩ :: [] ∧
    Kept .metal 0x80000000 0
      [⟨0, 0x40000000, true⟩, ⟨0x40000000, 0x40000000, false⟩] 0x40000000 ∧
    (0x60000000 : ByteCount).toNat = (0x40000000 : ByteCount).toNat + 0x20000000 := by
  have reports := metalWorld_reports .unread 0x80000000
  have belowLimit : (0x80000000 : ByteCount).toNat < ByteCount.limit := by decide
  have decided : rounds (metalWorld .unread 0x80000000) 0
      [0x40000000, 0x40000000, 0x20000000] =
        [⟨0, 0x40000000, true⟩, ⟨0x40000000, 0x40000000, false⟩] ++
          ⟨0x40000000, 0x20000000, true⟩ :: [] := by decide +kernel
  rcases (admission_keeps_floor _ .metal _ reports belowLimit 0 _).2 _ _ _ decided
    with ⟨kept, -, -, sum, -⟩
  exact ⟨reports, belowLimit, decided, kept, sum⟩

end Admission

end MemoryProbe
