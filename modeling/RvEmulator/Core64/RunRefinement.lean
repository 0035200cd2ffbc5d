import RvEmulator.Core64.StepRefinement
import RvEmulator.Library.Lockstep
import RvEmulator.Platform.RamBus

/-! Whole runs of a core in either mode against the reference mode. -/

namespace RvEmulator.Core64

open Library

/-- What a machine may call a core for. -/
inductive CoreCall where
  | step (irqLines : IrqLines)
  | reset (config : ResetConfig 64)
  | setExecutionMode (mode : ExecutionMode)

namespace Core

section

variable [SoftFloat] [CpuBus β]

/-- A call, and what it returns. -/
def call (core : Core β) : CoreCall → List StepResult × Core β
  | .step irqLines => ([(core.step irqLines).1], (core.step irqLines).2)
  | .reset config => ([], core.reset config)
  | .setExecutionMode mode => ([], core.setExecutionMode mode)

def run (core : Core β) (calls : List CoreCall) : List StepResult × Core β :=
  runCalls call core calls

/-- The entry that a retired fence leaves in the log. -/
def fenceEntry (result : StepResult) : List (LogEntry 64 β) :=
  let decoded := decodeFetched result.instruction
  if result.status ≠ .retired then []
  else if decoded.kind = .fenceI then [.fenceI]
  else if decoded.kind = .sfenceVma ∧ decoded.rs1 = 0 ∧ decoded.rs2 = 0 then [.sfenceVma]
  else []

/-- Note the `satp` that a step begins with. -/
def notingSatp (core : Core (Recorded 64 β)) : Core (Recorded 64 β) :=
  { core with
    fabric :=
      { core.fabric with
        bus := { core.fabric.bus with satp := sanitizeSatp core.state.supervisorCsrs.satp } } }

def notingFence (core : Core (Recorded 64 β)) (result : StepResult) : Core (Recorded 64 β) :=
  { core with
    fabric :=
      { core.fabric with
        bus := { core.fabric.bus with log := fenceEntry result ++ core.fabric.bus.log } } }

/-- A step over a recording bus. -/
def stepRecorded (core : Core (Recorded 64 β)) (irqLines : IrqLines) :
    StepResult × Core (Recorded 64 β) :=
  let ended := core.notingSatp.step irqLines
  (ended.1, ended.2.notingFence ended.1)

/-- The calls of a run as the reference mode takes them: it never changes. -/
def callRecorded (core : Core (Recorded 64 β)) :
    CoreCall → List StepResult × Core (Recorded 64 β)
  | .step irqLines => ([(core.stepRecorded irqLines).1], (core.stepRecorded irqLines).2)
  | .reset config => ([], core.reset config)
  | .setExecutionMode _ => ([], core)

/-- A core in the reference mode over a recording bus. -/
def recording (bus : β) : Core (Recorded 64 β) :=
  (Core.new ({ bus } : Recorded 64 β)).setExecutionMode .reference

end

/-- A core and the recording one that it follows. -/
structure Follows [CpuBus β] (quiet : QuietBus β) (ram : PhysAddr → Prop) (satps : List Xlen)
    (core : Core β) (recorded : Core (Recorded 64 β)) : Prop where
  state : core.state = recorded.state
  mode : recorded.executionMode = .reference
  agrees : (setting quiet ram satps).Agrees core.fabric recorded.fabric

end Core

/-! ### What the reference mode decodes -/

section

variable [CpuBus β]

/-- Without the caches a fetched word is decoded as it is, whatever they hold. -/
theorem decodes_fetch_reference {state : CpuSnapshot} {fabric after : Fabric β}
    {fetched : BitVec 32 × DecodedInstruction}
    (returned : fetch .reference state fabric = (.ok fetched, after)) :
    fetched.2 = decodeFetched fetched.1 := by
  rw [fetch_reference] at returned
  obtain ⟨whole, _, first, kept⟩ := Exec.bind_returned returned
  have same := (keepInstruction_eq state whole _).symm.trans kept
  cases same
  obtain ⟨low, middle, _, rest⟩ := Exec.bind_returned first
  have asked : cacheable false low.1 middle = (.ok false, middle) := rfl
  have continued := (Exec.bind_ok asked).symm.trans rest
  split at continued
  · rename_i short
    cases continued
    rw [decodeFetched, if_pos short]
  · rename_i full
    obtain ⟨high, _, _, ended⟩ := Exec.bind_returned continued
    cases ended
    rw [decodeFetched, lowBits_or_high, if_neg full]

/-- A result of an instruction in the reference mode names the word that was decoded. -/
theorem decodes_runInstruction_reference [SoftFloat] (state : CpuSnapshot) (fabric : Fabric β) :
    ∀ instruction decoded outcome after,
      runInstruction .reference state fabric = (.ok (instruction, decoded, outcome), after) →
      decoded = decodeFetched instruction := by
  intro instruction decoded outcome after returned
  obtain ⟨_, fetched, _⟩ := runInstruction_returned returned
  exact decodes_fetch_reference fetched

end

/-! ### One step -/

section

variable [CpuBus β] {quiet : QuietBus β} {ram : PhysAddr → Prop} {satps : List Xlen}

/-- The fabrics of a core and of the recording one, as a step under `satp` finds them. -/
theorem Core.Follows.related {core : Core β} {recorded : Core (Recorded 64 β)}
    (follows : core.Follows quiet ram satps recorded) :
    Related quiet ram satps (sanitizeSatp core.state.supervisorCsrs.satp) core.fabric
      recorded.notingSatp.fabric where
  bus := follows.agrees.bus
  satp := congrArg (fun state : CpuSnapshot => sanitizeSatp state.supervisorCsrs.satp) follows.state.symm
  tlb := follows.agrees.tlb
  decodeCache := follows.agrees.decodeCache
  instructionCache := { follows.agrees.instructionCache with }
  admitted := follows.agrees.admitted

/-- Noting a retired fence keeps the caches coherent: the fence has emptied those that
would no longer be. -/
theorem Core.Follows.of_related {fabric : Fabric β} {reference : Fabric (Recorded 64 β)}
    {satp : Xlen} (related : Related quiet ram satps satp fabric reference) (state : CpuSnapshot)
    (mode : ExecutionMode) {result : StepResult}
    (fenced : result.status = .retired → Fenced (decodeFetched result.instruction) fabric) :
    Core.Follows quiet ram satps ⟨state, fabric, mode⟩
      (notingFence ⟨state, reference, .reference⟩ result) := by
  refine ⟨rfl, rfl, ?_⟩
  unfold notingFence fenceEntry
  dsimp only
  split
  · exact related.toAgrees
  · rename_i retired
    exact related.noteFence (fenced (not_not.mp retired))

variable [SoftFloat] (readsBack : sv39.ReadsBack quiet)
  (onlyRam : ∀ (bus : β) address, CpuBus.instructionCacheable bus address = true → ram address)

/-- The log of a run only gets longer. -/
theorem Core.log_step (readsBack : sv39.ReadsBack quiet)
    (onlyRam : ∀ (bus : β) address, CpuBus.instructionCacheable bus address = true → ram address)
    {recorded : Core (Recorded 64 β)} (mode : recorded.executionMode = .reference)
    (irqLines : IrqLines) :
    recorded.fabric.bus.Grown (recorded.step irqLines).2.fabric.bus ∧
      (recorded.step irqLines).2.executionMode = .reference := by
  have refines : Exec.Refines (guard ram []) _ _ _ _ _ :=
    refines_runInstruction .reference (awake recorded.state irqLines) readsBack onlyRam
  have steady := refines.steady recorded.fabric
  rw [← mode] at steady
  have stepped := recorded.stepped irqLines
  generalize recorded.step irqLines = ended at stepped ⊢
  cases stepped with
  | waited => exact ⟨.refl, mode⟩
  | interrupted => exact ⟨.refl, mode⟩
  | trapped trap fabric stopped =>
    rw [stopped] at steady
    exact ⟨steady, mode⟩
  | retired instruction decoded outcome fabric returned =>
    rw [returned] at steady
    exact ⟨steady, mode⟩

include readsBack onlyRam in
/-- A step in either mode is a step in the reference mode. -/
theorem Core.Follows.step {core : Core β} {recorded : Core (Recorded 64 β)}
    (follows : core.Follows quiet ram satps recorded) (irqLines : IrqLines)
    (disciplined : Disciplined sv39 ram satps (recorded.stepRecorded irqLines).2.fabric.bus.log) :
    (core.step irqLines).1 = (recorded.stepRecorded irqLines).1 ∧
      (core.step irqLines).2.Follows quiet ram satps (recorded.stepRecorded irqLines).2 := by
  have related := follows.related
  obtain ⟨state, fabric, mode⟩ := core
  obtain ⟨state', fabric', mode'⟩ := recorded
  obtain ⟨rfl, rfl, -⟩ := follows
  have refines : Exec.Refines (guard ram satps) (Related quiet ram satps _) _ _ _ _ :=
    refines_runInstruction mode (awake state irqLines) readsBack onlyRam
  have good : Disciplined sv39 ram satps
      ((notingSatp ⟨state, fabric', .reference⟩).step irqLines).2.fabric.bus.log :=
    disciplined.older
  unfold stepRecorded
  dsimp only
  generalize noted : notingSatp ⟨state, fabric', .reference⟩ = start at good related ⊢
  have same : start.state = state := by rw [← noted]; rfl
  have reference : start.executionMode = .reference := by rw [← noted]; rfl
  unfold Core.step at good ⊢
  dsimp only at good ⊢
  rw [same, reference] at good ⊢
  by_cases waits : ((beginStep state irqLines).waitingForInterrupt &&
      !(beginStep state irqLines).interruptWakeRequested) = true
  · rw [if_pos waits, if_pos waits]
    exact ⟨rfl, .of_related related _ _ fun retired => by cases retired⟩
  by_cases pending : (awake state irqLines).selectPendingInterrupt.pending = true
  · rw [if_neg waits, if_pos pending, if_neg waits, if_pos pending]
    exact ⟨rfl, .of_related related _ _ fun retired => by cases retired⟩
  rw [if_neg waits, if_neg pending] at good
  rw [if_neg waits, if_neg pending, if_neg waits, if_neg pending]
  have decodes := decodes_runInstruction_reference (awake state irqLines) start.fabric
  have alike := refines.ended fabric start.fabric related
  generalize runInstruction mode (awake state irqLines) fabric = left at alike ⊢
  generalize runInstruction .reference (awake state irqLines) start.fabric = right
    at alike good decodes ⊢
  rcases right with ⟨trap | ⟨instruction, decoded, outcome⟩, after⟩
  · cases alike good with
    | error related => exact ⟨rfl, .of_related related _ _ fun retired => by cases retired⟩
  · cases alike good with
    | ok post =>
      obtain ⟨rfl, related, fenced⟩ := post
      refine ⟨rfl, .of_related related _ _ fun _ => ?_⟩
      rw [← decodes instruction decoded outcome after rfl]
      exact fenced

/-! ### Whole runs -/

namespace Core.Follows

omit [SoftFloat] in
theorem reset {core : Core β} {recorded : Core (Recorded 64 β)}
    (follows : core.Follows quiet ram satps recorded) (config : ResetConfig 64) :
    (core.reset config).Follows quiet ram satps (recorded.reset config) where
  state := rfl
  mode := follows.mode
  agrees := follows.agrees.cleared.of_bus rfl

omit [SoftFloat] in
theorem setExecutionMode {core : Core β} {recorded : Core (Recorded 64 β)}
    (follows : core.Follows quiet ram satps recorded) (mode : ExecutionMode) :
    (core.setExecutionMode mode).Follows quiet ram satps recorded := by
  unfold Core.setExecutionMode
  split
  · exact follows
  · exact ⟨follows.state, follows.mode, follows.agrees.cleared⟩

omit [SoftFloat] in
theorem new {bus other : β} (equal : quiet.same bus other) :
    (Core.new bus).Follows quiet ram satps (Core.recording other) where
  state := rfl
  mode := rfl
  agrees := .initial equal

include readsBack onlyRam in
theorem call {core : Core β} {recorded : Core (Recorded 64 β)}
    (follows : core.Follows quiet ram satps recorded) (next : CoreCall)
    (disciplined : Disciplined sv39 ram satps (recorded.callRecorded next).2.fabric.bus.log) :
    (core.call next).1 = (recorded.callRecorded next).1 ∧
      (core.call next).2.Follows quiet ram satps (recorded.callRecorded next).2 := by
  cases next with
  | step irqLines =>
    obtain ⟨result, after⟩ := follows.step readsBack onlyRam irqLines disciplined
    exact ⟨congrArg (fun result => [result]) result, after⟩
  | reset config => exact ⟨rfl, follows.reset config⟩
  | setExecutionMode mode => exact ⟨rfl, follows.setExecutionMode mode⟩

end Core.Follows

include readsBack onlyRam in
/-- What a call adds to the log of a core in the reference mode. -/
theorem Core.log_callRecorded {recorded : Core (Recorded 64 β)}
    (mode : recorded.executionMode = .reference) (next : CoreCall) :
    (∃ newer, (recorded.callRecorded next).2.fabric.bus.log = newer ++ recorded.fabric.bus.log) ∧
      (recorded.callRecorded next).2.executionMode = .reference := by
  cases next with
  | step irqLines =>
    have noted : recorded.notingSatp.executionMode = .reference := mode
    obtain ⟨grown, same⟩ := log_step readsBack onlyRam noted irqLines
    obtain ⟨events, log⟩ := grown.log
    refine ⟨⟨fenceEntry (recorded.notingSatp.step irqLines).1 ++ events.map .event, ?_⟩, same⟩
    rw [List.append_assoc]
    exact congrArg _ log
  | reset config => exact ⟨⟨[], rfl⟩, mode⟩
  | setExecutionMode => exact ⟨⟨[], rfl⟩, mode⟩

include readsBack onlyRam in
/-- A core in either mode and one that stays in the reference mode take calls alike, if the
run of the latter is disciplined. -/
theorem Core.lockstep : Lockstep (Core.call (β := β)) Core.callRecorded
    (Core.Follows quiet ram satps) (fun recorded => recorded.executionMode = .reference)
    fun recorded => Disciplined sv39 ram satps recorded.fabric.bus.log where
  followed _ _ follows := follows.mode
  keeps _ next mode := (log_callRecorded readsBack onlyRam mode next).2
  earlier _ next mode disciplined := by
    obtain ⟨⟨newer, log⟩, _⟩ := log_callRecorded readsBack onlyRam mode next
    rw [log] at disciplined
    exact disciplined.older
  step _ _ next follows disciplined := follows.call readsBack onlyRam next disciplined

end

section

attribute [local instance] SoftFloat.unused

/-- A root table, of which one entry maps the gigabyte of the memory, and a program of a supervisor
that switches to it: `csrw satp, a1; auipc t0, 0; loop: sw zero, 64(t0); j loop`. -/
def Core.samplePaged : Platform.SystemBus Platform.Ram :=
  .ofProgram 0x80000000 0x80
    [0, 0, 0, 0, 0x2000000F, 0, 0x18059073, 0x00000297, 0x0402A023, 0xFFDFF06F]

end

end RvEmulator.Core64
