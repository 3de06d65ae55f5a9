import MemoryProbe.Machine.Metal
import MemoryProbe.Machine.Platform
import MemoryProbe.Proofs.Capture

namespace MemoryProbe

/-! ## The fit test in unbounded numbers

The test compares against a sum that stops at the upper end of the range. A sum that
stops there is more than any free figure below that end, but not more than the end
itself: a device with all of the range free takes every request. -/

private theorem GpuInfo.fits_iff (gpu : GpuInfo) (request : ByteCount) :
    gpu.fits request = true ↔
      min (request.toNat + gpu.minimum.toNat) ByteCount.limit ≤ gpu.free.toNat := by
  rw [fits, decide_eq_true_iff, UInt64.le_iff_toNat_le, ByteCount.toNat_plus]

theorem GpuInfo.fits_iff_sum_or_limit (gpu : GpuInfo) (request : ByteCount) :
    gpu.fits request = true ↔
      request.toNat + gpu.minimum.toNat ≤ gpu.free.toNat ∨
        gpu.free.toNat = ByteCount.limit := by
  have inRange := gpu.free.toNat_le_limit
  rw [fits_iff]
  omega

/-- A device has all of the range free when its budget is the upper end and nothing is
allocated of it. -/
theorem Library.device_fits_iff_sum_or_limit (library : Library) (usage : VramUsage)
    (request : ByteCount) :
    (library.device usage).any (·.fits request) = true ↔
      usage.allocated.toNat + request.toNat + library.minimumMemory.toNat ≤
          usage.recommended.toNat ∨
        usage.recommended.toNat = ByteCount.limit ∧ usage.allocated.toNat = 0 := by
  have positive := library.minimumMemory_pos
  by_cases below : usage.recommended < library.minimumMemory
  · have belowNat := UInt64.lt_iff_toNat_lt.mp below
    have inRange := library.minimumMemory.toNat_le_limit
    rw [device, if_pos below]
    simp only [Option.any_none, Bool.false_eq_true, false_iff]
    omega
  · have inRange := usage.recommended.toNat_le_limit
    have limitPositive : 0 < ByteCount.limit := by decide
    rw [device, if_neg below, Option.any_some, GpuInfo.fits_iff_sum_or_limit]
    simp only [ByteCount.toNat_minus]
    omega

theorem Library.device_fits_iff (library : Library) {usage : VramUsage}
    (belowLimit : usage.recommended.toNat < ByteCount.limit) (request : ByteCount) :
    (library.device usage).any (·.fits request) = true ↔
      usage.allocated.toNat + request.toNat + library.minimumMemory.toNat ≤
        usage.recommended.toNat := by
  rw [device_fits_iff_sum_or_limit]
  exact or_iff_left fun full => Nat.ne_of_lt belowLimit full.1

/-! ## The fit test of a snapshot -/

theorem Snapshot.fits_iff_exists (snapshot : Snapshot) (request : ByteCount) :
    snapshot.fits request = true ↔
      ∃ gpu, snapshot.gpu = some gpu ∧ gpu.fits request = true := by
  rw [fits, Option.any_eq_true]

theorem MemoryQuery.Reports.capture_fits {State Call : Type}
    {query : MemoryQuery State Call} {state : State} {library : Library}
    {usage : VramUsage} (reports : query.Reports state library usage)
    (request : ByteCount) :
    (query.capture state).value.fits request =
      (library.device usage).any (·.fits request) := by
  rw [Snapshot.fits, reports.capture_gpu]

/-- A snapshot lets a request pass exactly if it has a GPU and the request fits beside
the minimum in unbounded numbers, or the free figure is the upper end of the range. One
that was captured has that figure only when the whole range was its budget and nothing
was allocated. -/
theorem fits_iff_within_free (snapshot : Snapshot) (request : ByteCount) :
    (snapshot.fits request = true ↔
      ∃ gpu, snapshot.gpu = some gpu ∧
        (request.toNat + gpu.minimum.toNat ≤ gpu.free.toNat ∨
          gpu.free.toNat = ByteCount.limit)) ∧
    ∀ (State Call : Type) (query : MemoryQuery State Call) (state : State)
      (library : Library) (usage : VramUsage),
      query.Reports state library usage → (query.capture state).value = snapshot →
        (snapshot.fits request = true ↔
          usage.allocated.toNat + request.toNat + library.minimumMemory.toNat ≤
              usage.recommended.toNat ∨
            usage.recommended.toNat = ByteCount.limit ∧ usage.allocated.toNat = 0) := by
  constructor
  · simp only [Snapshot.fits_iff_exists, GpuInfo.fits_iff_sum_or_limit]
  · intro State Call query state library usage reports captured
    rw [← captured, reports.capture_fits]
    exact library.device_fits_iff_sum_or_limit usage request

/-- A Metal device of the largest budget, with nothing allocated: its free figure is
the upper end of the range, and the largest request passes with the minimum unheeded. -/
def unboundedBudget : Snapshot where
  system := .unknown
  gpu := some
    { library := .metal
      id := "0"
      total := 0xFFFFFFFFFFFFFFFF
      free := 0xFFFFFFFFFFFFFFFF
      minimum := 0x20000000 }

theorem unboundedBudget_fits_beyond_free :
    ((MetalDevice.query .unread).capture (some ⟨0xFFFFFFFFFFFFFFFF, 0⟩)).value =
        unboundedBudget ∧
      unboundedBudget.fits 0xFFFFFFFFFFFFFFFF = true ∧
      ¬∃ gpu, unboundedBudget.gpu = some gpu ∧
        (0xFFFFFFFFFFFFFFFF : ByteCount).toNat + gpu.minimum.toNat ≤ gpu.free.toNat := by
  refine ⟨by decide +kernel, by decide +kernel, ?_⟩
  rintro ⟨gpu, found, fits⟩
  cases found
  exact absurd fits (by decide)

/-! ## Easier requests -/

/-- A device that takes a request takes no less of one on easier terms. Neither stop
breaks the order: a budget at the upper end of the range with nothing allocated of it
can only be met by the same. -/
theorem Library.device_fits_of_easier {library easier : Library} {usage wider : VramUsage}
    {request smaller : ByteCount} (minimum : easier.minimumMemory ≤ library.minimumMemory)
    (budget : usage.recommended ≤ wider.recommended)
    (allocated : wider.allocated ≤ usage.allocated) (requested : smaller ≤ request)
    (fits : (library.device usage).any (·.fits request) = true) :
    (easier.device wider).any (·.fits smaller) = true := by
  rw [UInt64.le_iff_toNat_le] at minimum budget allocated requested
  have inRange := wider.recommended.toNat_le_limit
  rw [device_fits_iff_sum_or_limit] at fits ⊢
  rcases fits with sum | ⟨whole, untouched⟩
  · left
    omega
  · right
    omega

/-- A request that fits on one capture fits on any other whose library needs no more,
whose budget is no smaller and whose allocation is no larger, and a smaller request
fits there too. -/
theorem fits_of_easier_terms {State Call State' Call' : Type}
    (query : MemoryQuery State Call) (state : State)
    (query' : MemoryQuery State' Call') (state' : State')
    (library library' : Library) (usage usage' : VramUsage) (request request' : ByteCount)
    (reports : query.Reports state library usage)
    (reports' : query'.Reports state' library' usage')
    (minimum : library'.minimumMemory ≤ library.minimumMemory)
    (budget : usage.recommended ≤ usage'.recommended)
    (allocated : usage'.allocated ≤ usage.allocated) (requested : request' ≤ request)
    (fits : (query.capture state).value.fits request = true) :
    (query'.capture state').value.fits request' = true := by
  rw [reports.capture_fits] at fits
  rw [reports'.capture_fits]
  exact Library.device_fits_of_easier minimum budget allocated requested fits

/-- A machine whose GPU is read through NVML, with nothing allocated on it. -/
def nvmlMachine (budget : ByteCount) : Machine where
  memInfo := none
  nvml := { NvmlLibrary.missing with firstInit := 0, total := budget }

/-- With the whole range as the budget the sum for the largest request stops, on Metal and
with the smaller minimum of NVML alike. -/
theorem fits_of_easier_terms_whole_range :
    (MetalDevice.query .unread).Reports (some ⟨0xFFFFFFFFFFFFFFFF, 0⟩) .metal
        ⟨0xFFFFFFFFFFFFFFFF, 0⟩ ∧
      (nvmlMachine 0xFFFFFFFFFFFFFFFF).query.Reports () .nvml ⟨0xFFFFFFFFFFFFFFFF, 0⟩ ∧
      Library.nvml.minimumMemory ≤ Library.metal.minimumMemory ∧
      ((MetalDevice.query .unread).capture (some ⟨0xFFFFFFFFFFFFFFFF, 0⟩)).value.fits
        0xFFFFFFFFFFFFFFFF = true ∧
      ((nvmlMachine 0xFFFFFFFFFFFFFFFF).query.capture ()).value.fits
        0xFFFFFFFFFFFFFFFE = true := by
  have metal : (MetalDevice.query .unread).Reports (some ⟨0xFFFFFFFFFFFFFFFF, 0⟩) .metal
      ⟨0xFFFFFFFFFFFFFFFF, 0⟩ := ⟨rfl, rfl⟩
  have nvml : (nvmlMachine 0xFFFFFFFFFFFFFFFF).query.Reports () .nvml
      ⟨0xFFFFFFFFFFFFFFFF, 0⟩ := ⟨rfl, rfl⟩
  have minimum : Library.nvml.minimumMemory ≤ Library.metal.minimumMemory := by decide
  have fits : ((MetalDevice.query .unread).capture (some ⟨0xFFFFFFFFFFFFFFFF, 0⟩)).value.fits
      0xFFFFFFFFFFFFFFFF = true := by decide +kernel
  exact ⟨metal, nvml, minimum, fits,
    fits_of_easier_terms _ _ _ _ _ _ _ _ _ _ metal nvml minimum (by decide) (by decide)
      (by decide) fits⟩

end MemoryProbe
