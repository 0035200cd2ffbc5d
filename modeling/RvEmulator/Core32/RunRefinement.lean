import RvEmulator.Core32.StepRefinement
import RvEmulator.Core32.WellFormed
import RvEmulator.Library.Lockstep
import RvEmulator.Platform.RamBus

/-! Whole runs of a core in either mode against the reference mode. -/

namespace RvEmulator.Core32

open Library

/-- What a machine may call a core for. -/
inductive CoreCall where
  | step (irqLines : IrqLines)
  | reset (config : ResetConfig 32)
  | setExecutionMode (mode : ExecutionMode)
  | advanceCycles (cycles : BitVec 64)

namespace Core

section

variable [CpuBus β]

/-- A call, and what it returns. -/
def call (core : Core β) : CoreCall → List StepResult × Core β
  | .step irqLines => ([(core.step irqLines).1], (core.step irqLines).2)
  | .reset config => ([], core.reset config)
  | .setExecutionMode mode => ([], core.setExecutionMode mode)
  | .advanceCycles cycles => ([], core.advanceCycles cycles)

def run (core : Core β) (calls : List CoreCall) : List StepResult × Core β :=
  runCalls call core calls

/-- The entry that a retired fence leaves in the log. -/
def fenceEntry (result : StepResult) : List (LogEntry 32 β) :=
  let decoded := decodeFetched result.instruction
  if !result.commit.valid then []
  else if decoded.kind = .fenceI then [.fenceI]
  else if decoded.kind = .sfenceVma ∧ decoded.rs1 = 0 ∧ decoded.rs2 = 0 then [.sfenceVma]
  else []

/-- Note the `satp` that a step begins with. -/
def notingSatp (core : Core (Recorded 32 β)) : Core (Recorded 32 β) :=
  { core with
    fabric :=
      { core.fabric with
        bus := { core.fabric.bus with satp := sanitizeSatp core.state.supervisorCsrs.satp } } }

def notingFence (core : Core (Recorded 32 β)) (result : StepResult) : Core (Recorded 32 β) :=
  { core with
    fabric :=
      { core.fabric with
        bus := { core.fabric.bus with log := fenceEntry result ++ core.fabric.bus.log } } }

/-- A step over a recording bus. -/
def stepRecorded (core : Core (Recorded 32 β)) (irqLines : IrqLines) :
    StepResult × Core (Recorded 32 β) :=
  let ended := core.notingSatp.step irqLines
  (ended.1, ended.2.notingFence ended.1)

/-- The calls of a run as the reference mode takes them: it never changes. -/
def callRecorded (core : Core (Recorded 32 β)) :
    CoreCall → List StepResult × Core (Recorded 32 β)
  | .step irqLines => ([(core.stepRecorded irqLines).1], (core.stepRecorded irqLines).2)
  | .reset config => ([], core.reset config)
  | .setExecutionMode _ => ([], core)
  | .advanceCycles cycles => ([], core.advanceCycles cycles)

/-- A core in the reference mode over a recording bus. -/
def recording (bus : β) : Core (Recorded 32 β) :=
  (Core.new ({ bus } : Recorded 32 β)).setExecutionMode .reference

end

/-- A core and the recording one that it follows. -/
structure Follows [CpuBus β] (quiet : QuietBus β) (ram : PhysAddr → Prop) (satps : List Xlen)
    (core : Core β) (recorded : Core (Recorded 32 β)) : Prop where
  state : core.state = recorded.state
  mode : recorded.executionMode = .reference
  agrees : (setting quiet ram satps).Agrees core.fabric recorded.fabric

end Core

/-! ### One step -/

section

variable [CpuBus β] {quiet : QuietBus β} {ram : PhysAddr → Prop} {satps : List Xlen}

/-- The fabrics of a core and of the recording one, as a step under `satp` finds them. -/
theorem Core.Follows.related {core : Core β} {recorded : Core (Recorded 32 β)}
    (follows : core.Follows quiet ram satps recorded) :
    Related quiet ram satps (sanitizeSatp core.state.supervisorCsrs.satp) core.fabric
      recorded.notingSatp.fabric where
  bus := follows.agrees.bus
  satp := congrArg (fun state : CpuSnapshot => sanitizeSatp state.supervisorCsrs.satp) follows.state.symm
  tlb := follows.agrees.tlb
  decodeCache := follows.agrees.decodeCache
  instructionCache := { follows.agrees.instructionCache with }
  admitted := follows.agrees.admitted

/-- What the caches hold after a fence. -/
abbrev Fenced (decoded : DecodedInstruction) (fabric : Fabric β) : Prop :=
  fabric.Emptied (decoded.kind = .fenceI)
    (decoded.kind = .sfenceVma ∧ decoded.rs1 = 0 ∧ decoded.rs2 = 0)

omit [CpuBus β] in
theorem bus_applyFences (state : CpuSnapshot) (decoded : DecodedInstruction) (fabric : Fabric β) :
    (applyFences state decoded fabric).bus = fabric.bus := by
  unfold applyFences
  split <;> rfl

/-- A retired fence keeps the fabrics related, and empties the caches that it is for. -/
theorem related_applyFences {satp : Xlen} {fabric : Fabric β} {reference : Fabric (Recorded 32 β)}
    (related : Related quiet ram satps satp fabric reference) (state : CpuSnapshot)
    (decoded : DecodedInstruction) :
    Related quiet ram satps satp (applyFences state decoded fabric)
        (applyFences state decoded reference) ∧
      Fenced decoded (applyFences state decoded fabric) := by
  unfold applyFences
  split
  · rename_i kind
    refine ⟨(related.sfenceVma indexing _ _).of_bus rfl,
      related.emptied_sfenceVma indexing (fun other => ?_) fun names => ?_⟩
    · rw [kind] at other
      cases other
    · change fenceOperands state decoded = _
      rw [fenceOperands, if_pos names.2.1, if_pos names.2.2]
  · rename_i kind
    refine ⟨related.fenceI.of_bus rfl, related.emptied_fenceI ?_⟩
    rintro ⟨other, _⟩
    rw [kind] at other
    cases other
  · rename_i notSfence notFenceI
    exact ⟨related, .of_other notFenceI fun names => notSfence names.1⟩

/-- Noting a retired fence keeps the caches coherent: the fence has emptied those that
would no longer be. -/
theorem Core.Follows.of_related {fabric : Fabric β} {reference : Fabric (Recorded 32 β)}
    {satp : Xlen} (related : Related quiet ram satps satp fabric reference) (state : CpuSnapshot)
    (mode : ExecutionMode) {result : StepResult}
    (fenced : result.commit.valid = true → Fenced (decodeFetched result.instruction) fabric) :
    Core.Follows quiet ram satps ⟨state, fabric, mode⟩
      (notingFence ⟨state, reference, .reference⟩ result) := by
  refine ⟨rfl, rfl, ?_⟩
  unfold notingFence fenceEntry
  dsimp only
  split
  · exact related.toAgrees
  · rename_i retired
    exact related.noteFence (fenced (by simpa using retired))

variable (readsBack : sv32.ReadsBack quiet)
  (onlyRam : ∀ (bus : β) address, CpuBus.instructionCacheable bus address = true → ram address)
  (pages : ∀ address place : PhysAddr, place >>> 12 = address >>> 12 → ram address → ram place)

/-- The log of a run only gets longer. -/
theorem Core.log_step (readsBack : sv32.ReadsBack quiet)
    (onlyRam : ∀ (bus : β) address, CpuBus.instructionCacheable bus address = true → ram address)
    (pages : ∀ address place : PhysAddr, place >>> 12 = address >>> 12 → ram address → ram place)
    {recorded : Core (Recorded 32 β)} (mode : recorded.executionMode = .reference)
    (irqLines : IrqLines) :
    recorded.fabric.bus.Grown (recorded.step irqLines).2.fabric.bus ∧
      (recorded.step irqLines).2.executionMode = .reference := by
  have refines : Exec.Refines (guard ram []) _ _ _ _ _ :=
    refines_runInstruction .reference (awake recorded.state irqLines) readsBack onlyRam pages
  have steady := refines.steady recorded.fabric
  rw [← mode] at steady
  have stepped := recorded.stepped irqLines
  generalize recorded.step irqLines = ended at stepped ⊢
  cases stepped with
  | waited => exact ⟨.refl, mode⟩
  | interrupted => exact ⟨.refl, mode⟩
  | trapped trap fabric _ stopped =>
    rw [stopped] at steady
    exact ⟨steady, mode⟩
  | rejected instruction decoded pending fabric returned =>
    rw [returned] at steady
    exact ⟨steady, mode⟩
  | retired instruction decoded pending fabric returned =>
    rw [returned] at steady
    refine ⟨?_, mode⟩
    dsimp only
    rw [bus_applyFences]
    exact steady

include readsBack onlyRam pages in
/-- A step in either mode is a step in the reference mode. -/
theorem Core.Follows.step {core : Core β} {recorded : Core (Recorded 32 β)}
    (follows : core.Follows quiet ram satps recorded) (irqLines : IrqLines)
    (disciplined : Disciplined sv32 ram satps (recorded.stepRecorded irqLines).2.fabric.bus.log) :
    (core.step irqLines).1 = (recorded.stepRecorded irqLines).1 ∧
      (core.step irqLines).2.Follows quiet ram satps (recorded.stepRecorded irqLines).2 := by
  have related := follows.related
  obtain ⟨state, fabric, mode⟩ := core
  obtain ⟨state', fabric', mode'⟩ := recorded
  obtain ⟨rfl, rfl, -⟩ := follows
  have refines : Exec.Refines (guard ram satps) (Related quiet ram satps _) _ _ _ _ :=
    refines_runInstruction mode (awake state irqLines) readsBack onlyRam pages
  have good : Disciplined sv32 ram satps
      ((notingSatp ⟨state, fabric', .reference⟩).step irqLines).2.fabric.bus.log :=
    disciplined.older
  unfold stepRecorded
  dsimp only
  generalize noted : notingSatp ⟨state, fabric', .reference⟩ = start at good related ⊢
  have same : start.state = state := by rw [← noted]; rfl
  have reference : start.executionMode = .reference := by rw [← noted]; rfl
  unfold Core.step at good ⊢
  dsimp only at good ⊢
  rw [same, reference] at good ⊢
  by_cases waits : ((beginStep state irqLines).waitingForInterrupt &&
      !(beginStep state irqLines).interruptWakeRequested) = true
  · rw [if_pos waits, if_pos waits]
    exact ⟨rfl, .of_related related _ _ fun retired => by cases retired⟩
  by_cases pending : (awake state irqLines).selectPendingInterrupt.pending = true
  · rw [if_neg waits, if_pos pending, if_neg waits, if_pos pending]
    exact ⟨rfl, .of_related related _ _ fun retired => by cases retired⟩
  rw [if_neg waits, if_neg pending] at good
  rw [if_neg waits, if_neg pending, if_neg waits, if_neg pending]
  have alike := refines.ended fabric start.fabric related
  generalize runInstruction mode (awake state irqLines) fabric = left at alike ⊢
  generalize runInstruction .reference (awake state irqLines) start.fabric = right at alike good ⊢
  rcases right with ⟨trap | ⟨instruction, decoded, pending⟩, after⟩
  · cases alike good with
    | error related => exact ⟨rfl, .of_related related _ _ fun retired => by cases retired⟩
  · have kept : Disciplined sv32 ram satps after.bus.log := by
      dsimp only at good
      generalize commitPending (awake state irqLines) pending = committed at good
      rcases committed with ⟨_ | _, next⟩
      · exact good
      · change Disciplined sv32 ram satps (applyFences _ decoded after).bus.log at good
        rwa [bus_applyFences] at good
    cases alike kept with
    | ok post =>
      obtain ⟨rfl, related, decodes⟩ := post
      dsimp only
      generalize commitPending (awake state irqLines) pending = committed
      rcases committed with ⟨_ | _, next⟩
      · exact ⟨rfl, .of_related related _ _ fun retired => by cases retired⟩
      · obtain ⟨related, fenced⟩ := related_applyFences related (awake state irqLines) decoded
        refine ⟨rfl, .of_related related _ _ fun _ => ?_⟩
        exact decodes ▸ fenced

/-! ### Whole runs -/

namespace Core.Follows

theorem reset {core : Core β} {recorded : Core (Recorded 32 β)}
    (follows : core.Follows quiet ram satps recorded) (config : ResetConfig 32) :
    (core.reset config).Follows quiet ram satps (recorded.reset config) where
  state := rfl
  mode := follows.mode
  agrees := follows.agrees.cleared.of_bus rfl

theorem setExecutionMode {core : Core β} {recorded : Core (Recorded 32 β)}
    (follows : core.Follows quiet ram satps recorded) (mode : ExecutionMode) :
    (core.setExecutionMode mode).Follows quiet ram satps recorded := by
  unfold Core.setExecutionMode
  split
  · exact follows
  · exact ⟨follows.state, follows.mode, follows.agrees.cleared⟩

theorem advanceCycles {core : Core β} {recorded : Core (Recorded 32 β)}
    (follows : core.Follows quiet ram satps recorded) (cycles : BitVec 64) :
    (core.advanceCycles cycles).Follows quiet ram satps (recorded.advanceCycles cycles) :=
  { follows with
    state := congrArg (fun state : CpuSnapshot => { state with cycle := state.cycle + cycles })
      follows.state }

theorem new {bus other : β} (equal : quiet.same bus other) :
    (Core.new bus).Follows quiet ram satps (Core.recording other) where
  state := rfl
  mode := rfl
  agrees := .initial equal

include readsBack onlyRam pages in
theorem call {core : Core β} {recorded : Core (Recorded 32 β)}
    (follows : core.Follows quiet ram satps recorded) (next : CoreCall)
    (disciplined : Disciplined sv32 ram satps (recorded.callRecorded next).2.fabric.bus.log) :
    (core.call next).1 = (recorded.callRecorded next).1 ∧
      (core.call next).2.Follows quiet ram satps (recorded.callRecorded next).2 := by
  cases next with
  | step irqLines =>
    obtain ⟨result, after⟩ := follows.step readsBack onlyRam pages irqLines disciplined
    exact ⟨congrArg (fun result => [result]) result, after⟩
  | reset config => exact ⟨rfl, follows.reset config⟩
  | setExecutionMode mode => exact ⟨rfl, follows.setExecutionMode mode⟩
  | advanceCycles cycles => exact ⟨rfl, follows.advanceCycles cycles⟩

end Core.Follows

include readsBack onlyRam pages in
/-- What a call adds to the log of a core in the reference mode. -/
theorem Core.log_callRecorded {recorded : Core (Recorded 32 β)}
    (mode : recorded.executionMode = .reference) (next : CoreCall) :
    (∃ newer, (recorded.callRecorded next).2.fabric.bus.log = newer ++ recorded.fabric.bus.log) ∧
      (recorded.callRecorded next).2.executionMode = .reference := by
  cases next with
  | step irqLines =>
    have noted : recorded.notingSatp.executionMode = .reference := mode
    obtain ⟨grown, same⟩ := log_step readsBack onlyRam pages noted irqLines
    obtain ⟨events, log⟩ := grown.log
    refine ⟨⟨fenceEntry (recorded.notingSatp.step irqLines).1 ++ events.map .event, ?_⟩, same⟩
    rw [List.append_assoc]
    exact congrArg _ log
  | reset config => exact ⟨⟨[], rfl⟩, mode⟩
  | setExecutionMode => exact ⟨⟨[], rfl⟩, mode⟩
  | advanceCycles => exact ⟨⟨[], rfl⟩, mode⟩

include readsBack onlyRam pages in
/-- A core in either mode and one that stays in the reference mode take calls alike, if the
run of the latter is disciplined. -/
theorem Core.lockstep : Lockstep (Core.call (β := β)) Core.callRecorded
    (Core.Follows quiet ram satps) (fun recorded => recorded.executionMode = .reference)
    fun recorded => Disciplined sv32 ram satps recorded.fabric.bus.log where
  followed _ _ follows := follows.mode
  keeps _ next mode := (log_callRecorded readsBack onlyRam pages mode next).2
  earlier _ next mode disciplined := by
    obtain ⟨⟨newer, log⟩, _⟩ := log_callRecorded readsBack onlyRam pages mode next
    rw [log] at disciplined
    exact disciplined.older
  step _ _ next follows disciplined := follows.call readsBack onlyRam pages next disciplined

end

section

/-- A root table, whose first entry maps the lowest four megabytes to themselves, and a program of
a supervisor that switches to it:
`csrw satp, a1; auipc t0, 0; loop: sw zero, 64(t0); j loop`. -/
def Core.samplePaged : Platform.SystemBus Platform.Ram :=
  .ofProgram 0 0x1000 [0xF, 0x18059073, 0x00000297, 0x0402A023, 0xFFDFF06F]

theorem readsBack_systemBus : sv32.ReadsBack (Platform.SystemBus.quiet Platform.Ram) :=
  Paging.readsBack_of_ramLike (by decide) Platform.SystemBus.ramLike

end

end RvEmulator.Core32
