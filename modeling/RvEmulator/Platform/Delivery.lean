import RvEmulator.Common.Receiving
import RvEmulator.Devices.Unclaimed
import RvEmulator.Platform.Reachability

/-! The interrupts of the devices of a machine, from the line that a device asserts to the trap
that the core takes: no step of the machine loses one. -/

namespace RvEmulator.Core64

variable [SoftFloat] [CpuBus β]

/-- The step of a core enters a trap for an interrupt that nothing else precedes; the core does
nothing but that. -/
def Core.Interrupts (core : Core β) (irqLines : IrqLines) (cause : InterruptCause) : Prop :=
  (core.step irqLines).1.status = .trapTaken ∧
    ∃ taken, (awake core.state irqLines).Takeable taken ∧ ¬Hart.Precedes cause taken ∧
      ∃ target : TrapTarget, (target = .supervisor ↔ core.state.Delegated taken) ∧
        (core.step irqLines).2 =
          { core with
            state := takeInterruptTrap (awake core.state irqLines) taken core.state.pc target }

theorem Core.interrupts_of_line {core : Core β} {irqLines : IrqLines} {cause : InterruptCause}
    (asserted : irqLines.asserts cause = true) (receives : core.state.Receives cause) :
    core.Interrupts irqLines cause := by
  have takeable : (awake core.state irqLines).Takeable cause :=
    Hart.takeable_sampled asserted receives
  obtain ⟨woken, pending, taken, first, target⟩ := Hart.selects_of_takeable takeable
  have wakes : (beginStep core.state irqLines).interruptWakeRequested = true := woken
  have stepped : core.step irqLines =
      ({ status := .trapTaken
         privilege := (awake core.state irqLines).privilege
         pc := (awake core.state irqLines).pc },
        { core with
          state := takeInterruptTrap (awake core.state irqLines)
            (awake core.state irqLines).selectPendingInterrupt.cause
            (awake core.state irqLines).pc
            (awake core.state irqLines).selectPendingInterrupt.target }) := by
    unfold step
    simp only [wakes, pending, Bool.not_true, Bool.and_false, if_true, Bool.false_eq_true, if_false]
  unfold Core.Interrupts
  rw [stepped]
  exact ⟨rfl, _, taken, first, _, target, rfl⟩

end RvEmulator.Core64

namespace RvEmulator.Core32

variable [CpuBus β]

/-- The step of a core enters a trap for an interrupt that nothing else precedes; the core does
nothing but that. -/
def Core.Interrupts (core : Core β) (irqLines : IrqLines) (cause : InterruptCause) : Prop :=
  (core.step irqLines).1.status = .trapTaken ∧
    ∃ taken, (awake core.state irqLines).Takeable taken ∧ ¬Hart.Precedes cause taken ∧
      ∃ target : TrapTarget, (target = .supervisor ↔ core.state.Delegated taken) ∧
        (core.step irqLines).2 =
          { core with
            state := takeInterruptTrap (awake core.state irqLines) taken core.state.pc target }

theorem Core.interrupts_of_line {core : Core β} {irqLines : IrqLines} {cause : InterruptCause}
    (asserted : irqLines.asserts cause = true) (receives : core.state.Receives cause) :
    core.Interrupts irqLines cause := by
  have takeable : (awake core.state irqLines).Takeable cause :=
    Hart.takeable_sampled asserted receives
  obtain ⟨woken, pending, taken, first, target⟩ := Hart.selects_of_takeable takeable
  have wakes : (beginStep core.state irqLines).interruptWakeRequested = true := woken
  let next := takeInterruptTrap (awake core.state irqLines)
    (awake core.state irqLines).selectPendingInterrupt.cause (awake core.state irqLines).pc
    (awake core.state irqLines).selectPendingInterrupt.target
  have stepped : core.step irqLines =
      ({ status := .trapTaken, pc := (awake core.state irqLines).pc, cycle := next.cycle },
        { core with state := next }) := by
    unfold step
    simp only [wakes, pending, Bool.not_true, Bool.and_false, if_true, Bool.false_eq_true, if_false]
    rfl
  unfold Core.Interrupts
  rw [stepped]
  exact ⟨rfl, _, taken, first, _, target, rfl⟩

end RvEmulator.Core32

namespace RvEmulator.Platform

open Devices Library

/-- The interrupt that a context of the controller is for. -/
def externalCause (context : Nat) : InterruptCause :=
  if context = Plic.machineContext then .machineExternal else .supervisorExternal

section

variable {σ ν : Type} {bus : SystemBus (Component (Peripheral σ ν))}
  {plic : History Plic.perform {}} {context source : Nat}

theorem SystemBus.asserts_external (mounted : bus.find Component.plic? = some plic)
    (known : context < Plic.contextCount) (selectable : plic.state.Selectable context source) :
    bus.irqLines.asserts (externalCause context) = true := by
  have told := Plic.bestPending_ne_zero (Plic.coherent_history plic) known selectable
  have told : (plic.state.bestPending context != 0) = true := by simpa using told
  rcases Plic.known_cases known with rfl | rfl
  · change (bus.find Component.plic?).any (fun plic => plic.state.machineExternalIrq) = true
    rw [mounted]
    exact told
  · change (bus.find Component.plic?).any (fun plic => plic.state.supervisorExternalIrq) = true
    rw [mounted]
    exact told

theorem Component.plic?_setSourceLevels (levels : List (Nat × Bool))
    (component : Component (Peripheral σ ν)) :
    (component.setSourceLevels levels).plic? =
      component.plic?.map fun plic =>
        plic.addAll (levels.map fun level => .setSourceLevel level.1 level.2) := by
  cases component with
  | ram => rfl
  | other peripheral => cases peripheral <;> rfl

/-- The controller when the core begins its step: the levels have been sampled. -/
theorem Wiring.found_sampled (wiring : Wiring σ ν) (cycles : BitVec 64)
    (has : bus.Has Component.plic?) :
    ∃ ticked plic,
      (wiring.tickDevices cycles bus).find Component.plic? = some ticked ∧
        (wiring.sampled cycles bus).find Component.plic? = some plic ∧
        plic = ticked.addAll ((wiring.sourceLevels (wiring.tickDevices cycles bus)).map
          fun level => .setSourceLevel level.1 level.2) := by
  obtain ⟨ticked, found⟩ := has.evolves (wiring.evolves cycles bus) Component.plic?_follows
  refine ⟨ticked, _, found, ?_, rfl⟩
  have sampled := SystemBus.find_update (Component.plic?_setSourceLevels
    (wiring.sourceLevels (wiring.tickDevices cycles bus))) (wiring.tickDevices cycles bus)
  rw [found] at sampled
  exact sampled

/-- The controller has recorded what the lines showed. -/
theorem Wiring.level_sampled (wiring : Wiring σ ν) (cycles : BitVec 64)
    (has : bus.Has Component.plic?)
    (mounted : (wiring.sampled cycles bus).find Component.plic? = some plic)
    {line : Nat × (SystemBus (Component (Peripheral σ ν)) → Bool)} (wired : line ∈ wiring.lines) :
    plic.state.sourceLevels line.1 = line.2 (wiring.tickDevices cycles bus) := by
  obtain ⟨ticked, other, _, found, same⟩ := wiring.found_sampled cycles has
  rw [mounted] at found
  cases found
  rw [same]
  have distinct : ((wiring.sourceLevels (wiring.tickDevices cycles bus)).map Prod.fst).Nodup := by
    unfold sourceLevels
    rw [List.map_map]
    exact wiring.distinct
  have valid : ∀ level ∈ wiring.sourceLevels (wiring.tickDevices cycles bus),
      Plic.ValidSource level.1 := List.forall_mem_map.mpr wiring.valid
  exact (Plic.sourceLevels_foldl distinct valid ticked.state).1 _ (List.mem_map_of_mem wired)

/-- A device that asserts its line has its source pending or in service, as long as no context
has claimed a second source before it completed its first. -/
def Wiring.Accounts (wiring : Wiring σ ν) (cycles : BitVec 64)
    (bus : SystemBus (Component (Peripheral σ ν))) (plic : History Plic.perform {}) : Prop :=
  Plic.Serviced.UnnestedRun {} plic.events → ∀ line ∈ wiring.lines,
    line.2 (wiring.tickDevices cycles bus) = true →
      plic.state.sourcePending line.1 = true ∨
        ∃ context, (context, line.1) ∈ (Plic.Serviced.observed plic.events).outstanding

theorem Wiring.accounts (wiring : Wiring σ ν) (cycles : BitVec 64)
    (has : bus.Has Component.plic?)
    (mounted : (wiring.sampled cycles bus).find Component.plic? = some plic) :
    wiring.Accounts cycles bus plic := by
  intro unnested line wired asserted
  have high := (wiring.level_sampled cycles has mounted wired).trans asserted
  exact Plic.Serviced.pending_or_claimed plic unnested high

/-- A later state of the controller: what was pending and not claimed is pending. -/
theorem pending_later {later : History Plic.perform {}} (further : plic.Extends later) :
    ∃ operations, later.events = plic.events ++ operations ∧
      ∀ source, plic.state.sourcePending source = true →
        ¬Plic.ClaimedIn source plic.state operations →
        later.state.sourcePending source = true := by
  obtain ⟨operations, appended⟩ := further
  refine ⟨operations, appended.symm, fun source pending unclaimed => ?_⟩
  rw [History.state_of_append appended.symm]
  exact Plic.pending_foldl (Plic.coherent_history plic) pending unclaimed

end

end RvEmulator.Platform

namespace RvEmulator

open Devices Library Platform

variable {σ ν : Type} [BlockStorage σ]

/-- Whatever source a context may be interrupted by, the step of the machine interrupts a hart
that receives it. -/
def Platform64.Machine.Delivers [NetworkBackend ν] [Core64.SoftFloat]
    (machine : Platform64.Machine (Peripheral σ ν)) (elapsedCycles : BitVec 64) (plic : Plic) :
    Prop :=
  ∀ context source, context < Plic.contextCount → plic.Selectable context source →
    machine.core.state.Receives (externalCause context) →
    (machine.sampled elapsedCycles).core.Interrupts (machine.sampled elapsedCycles).irqLines
      (externalCause context)

@[inherit_doc Platform64.Machine.Delivers]
def Platform32.Machine.Delivers (machine : Platform32.Machine (Peripheral σ ν))
    (elapsedCycles : BitVec 64) (plic : Plic) : Prop :=
  ∀ context source, context < Plic.contextCount → plic.Selectable context source →
    machine.core.state.Receives (externalCause context) →
    (machine.sampled elapsedCycles).core.Interrupts (machine.sampled elapsedCycles).irqLines
      (externalCause context)

theorem Platform64.Machine.delivers [NetworkBackend ν] [Core64.SoftFloat]
    {machine : Platform64.Machine (Peripheral σ ν)} {elapsedCycles : BitVec 64}
    {plic : History Plic.perform {}}
    (mounted : (machine.sampled elapsedCycles).board.bus.find Component.plic? = some plic) :
    machine.Delivers elapsedCycles plic.state := by
  intro context source known selectable receives
  exact Core64.Core.interrupts_of_line (SystemBus.asserts_external mounted known selectable) receives

theorem Platform32.Machine.delivers {machine : Platform32.Machine (Peripheral σ ν)}
    {elapsedCycles : BitVec 64} {plic : History Plic.perform {}}
    (mounted : (machine.sampled elapsedCycles).board.bus.find Component.plic? = some plic) :
    machine.Delivers elapsedCycles plic.state := by
  intro context source known selectable receives
  exact Core32.Core.interrupts_of_line (SystemBus.asserts_external mounted known selectable) receives

/-- In every step of every machine that can come about, a device that asserts its line has its
source pending or in service, and a source that is pending, enabled and above the threshold of
a context interrupts the hart if it receives the interrupt of the context. -/
theorem asserted_delivered :
    (∀ [NetworkBackend ν] [Core64.SoftFloat] (machine : Platform64.Machine (Peripheral σ ν)),
      machine.Reachable → ∀ elapsedCycles, ∃ plic,
        (machine.sampled elapsedCycles).board.bus.find Component.plic? = some plic ∧
          Platform64.Machine.wiring.Accounts elapsedCycles machine.board.bus plic ∧
          machine.Delivers elapsedCycles plic.state) ∧
    (∀ machine : Platform32.Machine (Peripheral σ ν), machine.Reachable → ∀ elapsedCycles,
      ∃ plic, (machine.sampled elapsedCycles).board.bus.find Component.plic? = some plic ∧
        Platform32.Machine.wiring.Accounts elapsedCycles machine.board.bus plic ∧
        machine.Delivers elapsedCycles plic.state) := by
  constructor
  · intro _ _ machine reachable elapsedCycles
    have has := reachable.equipped.plic
    obtain ⟨plic, mounted⟩ := has.evolves (machine.evolves_sampled elapsedCycles)
      Component.plic?_follows
    exact ⟨plic, mounted, Wiring.accounts _ elapsedCycles has mounted, Platform64.Machine.delivers mounted⟩
  · intro machine reachable elapsedCycles
    have has := reachable.equipped.plic
    obtain ⟨plic, mounted⟩ := has.evolves (machine.evolves_sampled elapsedCycles)
      Component.plic?_follows
    exact ⟨plic, mounted, Wiring.accounts _ elapsedCycles has mounted, Platform32.Machine.delivers mounted⟩

/-! A machine whose UART has received a byte and asserts its line. The program gives source 10 a
priority and enables it for the first context, then it enables machine external interrupts. -/

namespace Platform32.Machine

def samplePeripherals : Component (Peripheral MemoryBlockStorage Unit) →
    Component (Peripheral MemoryBlockStorage Unit)
  | .ram memory =>
    .ram
      { data :=
          { size := memory.data.size
            byte := Bytes.ofWords
              [0x0C0000B7, 0x00100113, 0x0220A423, 0x0C0021B7, 0x40000213, 0x0041A023, 0x000012B7,
                0x0012D293, 0x30429073, 0x30046073] } }
  | .other (.uart device) => .other (.uart { device with interruptEnable := 1, receiveFifo := [0x41] })
  | component => component

theorem samplePeripherals_attended (component : Component (Peripheral MemoryBlockStorage Unit)) :
    Attended component (samplePeripherals component) := by
  cases component with
  | ram => exact ⟨.ram rfl, rfl, rfl, rfl⟩
  | other peripheral =>
    cases peripheral with
    | uart => exact ⟨.uart _ _, rfl, rfl, rfl⟩
    | _ => exact ⟨.refl _, rfl, rfl, rfl⟩

def sampleConstructed : Machine (Peripheral MemoryBlockStorage Unit) :=
  (new { ramSize := 0x1000, storage := { bytes := [] }, enableFramebuffer := false }).get
    (by decide)

theorem sample_attended :
    sampleConstructed.board.bus.Evolves Attended
      (sampleConstructed.board.bus.update samplePeripherals) :=
  SystemBus.evolves_update samplePeripherals_attended _

def sampleStarted : Machine (Peripheral MemoryBlockStorage Unit) :=
  sampleConstructed.withBoard (sampleConstructed.board.advance _
    (Board.keepsRam_of_evolves (Attended.evolves sample_attended)))

theorem reachable_sampleStarted : sampleStarted.Reachable :=
  .moves (.new _ (Option.some_get _).symm) (.attended _ _ _ sample_attended)

/-- The machine after some steps of one cycle. -/
def sampleAfter (count : Nat) : Machine (Peripheral MemoryBlockStorage Unit) :=
  (fun machine => (machine.step 1).2)^[count] sampleStarted

theorem run_sampleAfter (first count : Nat) :
    Relation.ReflTransGen Moves (sampleAfter first) (sampleAfter (first + count)) := by
  induction count with
  | zero => exact .refl
  | succ count ih =>
    refine ih.tail ?_
    rw [← Nat.add_assoc]
    unfold sampleAfter
    rw [Function.iterate_succ_apply']
    exact .step _ 1

theorem reachable_sampleAfter (count : Nat) : (sampleAfter count).Reachable :=
  reachable_sampleStarted.run (Nat.zero_add count ▸ run_sampleAfter 0 count)

/-- After ten instructions the UART interrupts the first context. -/
theorem sample_ready {final : History Plic.perform {}}
    (mounted : ((sampleAfter 10).sampled 1).board.bus.find Component.plic? = some final) :
    final.state.Selectable 0 10 ∧ (sampleAfter 10).core.state.Receives .machineExternal := by
  have computed : (((sampleAfter 10).sampled 1).board.bus.find Component.plic?).any
      (fun plic => decide (plic.state.Selectable 0 10)) = true := by decide +kernel
  rw [mounted] at computed
  exact ⟨by simpa using computed, by decide +kernel, .inr ⟨by decide +kernel, .inr (by decide +kernel)⟩⟩

/-- It is pending since the first of them, and nothing has claimed it. -/
theorem sample_unclaimed {plic final : History Plic.perform {}} {operations : List Plic.Operation}
    (found : (sampleAfter 1).board.bus.find Component.plic? = some plic)
    (mounted : ((sampleAfter (1 + 9)).sampled 1).board.bus.find Component.plic? = some final)
    (appended : final.events = plic.events ++ operations) :
    plic.state.sourcePending 10 = true ∧ ¬Plic.ClaimedIn 10 plic.state operations := by
  have computed : ((sampleAfter 1).board.bus.find Component.plic?).any (fun plic =>
      (((sampleAfter (1 + 9)).sampled 1).board.bus.find Component.plic?).any fun final =>
        plic.state.sourcePending 10 &&
          !decide (Plic.ClaimedIn 10 plic.state (final.events.drop plic.events.length))) = true := by
    decide +kernel
  rw [found, mounted] at computed
  have same : final.events.drop plic.events.length = operations := by
    rw [appended, List.drop_left]
  simpa [same] using computed

end Platform32.Machine

/-- Then the interrupt of the UART is taken. -/
theorem asserted_delivered_sample :
    ((Platform32.Machine.sampleAfter 10).sampled 1).core.Interrupts
      ((Platform32.Machine.sampleAfter 10).sampled 1).irqLines .machineExternal := by
  obtain ⟨plic, mounted, -, delivers⟩ := asserted_delivered.2 _
    (Platform32.Machine.reachable_sampleAfter 10) 1
  obtain ⟨selectable, receives⟩ := Platform32.Machine.sample_ready mounted
  exact delivers 0 10 (by decide) selectable receives

/-- In every run of every machine that can come about, what is pending stays pending until a
claim returns it, however often the machine is stepped, reset, booted or attended to, and is
delivered as soon as it is selectable and the hart receives it. -/
theorem pending_delivered :
    (∀ [NetworkBackend ν] [Core64.SoftFloat] (machine later : Platform64.Machine (Peripheral σ ν)),
      machine.Reachable → Relation.ReflTransGen Platform64.Machine.Moves machine later →
      ∀ elapsedCycles, ∃ plic final operations,
        machine.board.bus.find Component.plic? = some plic ∧
          (later.sampled elapsedCycles).board.bus.find Component.plic? = some final ∧
          final.events = plic.events ++ operations ∧
          later.Delivers elapsedCycles final.state ∧
          ∀ source, plic.state.sourcePending source = true →
            ¬Plic.ClaimedIn source plic.state operations →
            final.state.sourcePending source = true) ∧
    (∀ machine later : Platform32.Machine (Peripheral σ ν),
      machine.Reachable → Relation.ReflTransGen Platform32.Machine.Moves machine later →
      ∀ elapsedCycles, ∃ plic final operations,
        machine.board.bus.find Component.plic? = some plic ∧
          (later.sampled elapsedCycles).board.bus.find Component.plic? = some final ∧
          final.events = plic.events ++ operations ∧
          later.Delivers elapsedCycles final.state ∧
          ∀ source, plic.state.sourcePending source = true →
            ¬Plic.ClaimedIn source plic.state operations →
            final.state.sourcePending source = true) := by
  constructor
  · intro _ _ machine later reachable run elapsedCycles
    obtain ⟨plic, found⟩ := reachable.equipped.plic
    have evolves := SystemBus.evolves_trans respects_follows (Platform64.Machine.run_evolves run)
      (later.evolves_sampled elapsedCycles)
    obtain ⟨final, mounted, further⟩ := SystemBus.found_evolves evolves Component.plic?_follows found
    obtain ⟨operations, appended, kept⟩ := pending_later further
    exact ⟨plic, final, operations, found, mounted, appended, Platform64.Machine.delivers mounted, kept⟩
  · intro machine later reachable run elapsedCycles
    obtain ⟨plic, found⟩ := reachable.equipped.plic
    have evolves := SystemBus.evolves_trans respects_follows (Platform32.Machine.run_evolves run)
      (later.evolves_sampled elapsedCycles)
    obtain ⟨final, mounted, further⟩ := SystemBus.found_evolves evolves Component.plic?_follows found
    obtain ⟨operations, appended, kept⟩ := pending_later further
    exact ⟨plic, final, operations, found, mounted, appended, Platform32.Machine.delivers mounted, kept⟩

/-- The interrupt has been pending from the first step on. -/
theorem pending_delivered_sample :
    ((Platform32.Machine.sampleAfter (1 + 9)).sampled 1).core.Interrupts
      ((Platform32.Machine.sampleAfter (1 + 9)).sampled 1).irqLines .machineExternal := by
  obtain ⟨plic, final, operations, found, mounted, appended, delivers, kept⟩ :=
    pending_delivered.2 _ _ (Platform32.Machine.reachable_sampleAfter 1)
      (Platform32.Machine.run_sampleAfter 1 9) 1
  obtain ⟨pending, unclaimed⟩ := Platform32.Machine.sample_unclaimed found mounted appended
  obtain ⟨selectable, receives⟩ := Platform32.Machine.sample_ready mounted
  exact delivers 0 10 (by decide) ⟨kept 10 pending unclaimed, selectable.2⟩ receives

end RvEmulator
