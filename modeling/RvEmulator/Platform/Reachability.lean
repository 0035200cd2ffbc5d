import Mathlib.Logic.Relation
import RvEmulator.Platform.Running

/-! The machines that can come about: constructed, booted, reset, stepped and attended to by
the host. Their buses keep all that was put on them. -/

namespace RvEmulator.Platform

open Devices Library

variable {σ ν : Type}

/-! ### Devices stay -/

namespace Component

variable {old new : Component (Peripheral σ ν)} (follows : Follows old new)

include follows

theorem clint?_follows : Option.Rel History.Extends old.clint? new.clint? := by
  cases follows with
  | clint further => exact .some further
  | _ => exact .none

theorem plic?_follows : Option.Rel History.Extends old.plic? new.plic? := by
  cases follows with
  | plic further => exact .some further
  | _ => exact .none

theorem rtc?_follows : Option.Rel History.Extends old.rtc? new.rtc? := by
  cases follows with
  | rtc further => exact .some further
  | _ => exact .none

theorem uart?_follows : Option.Rel (fun _ _ => True) old.uart? new.uart? := by
  cases follows with
  | uart => exact .some trivial
  | _ => exact .none

theorem block?_follows : Option.Rel (fun _ _ => True) old.block? new.block? := by
  cases follows with
  | block => exact .some trivial
  | _ => exact .none

theorem net?_follows : Option.Rel (fun _ _ => True) old.net? new.net? := by
  cases follows with
  | net => exact .some trivial
  | _ => exact .none

end Component

namespace SystemBus

variable {bus after : SystemBus (Component (Peripheral σ ν))}
  {pick : Component (Peripheral σ ν) → Option α} {related : α → α → Prop}

/-- A device of the kind is on the bus. -/
def Has (pick : Component (Peripheral σ ν) → Option α)
    (bus : SystemBus (Component (Peripheral σ ν))) : Prop :=
  ∃ device, bus.find pick = some device

theorem has_of_mem {mounted : Mounted (Component (Peripheral σ ν))}
    (member : mounted ∈ bus.devices) (picked : (pick mounted.device).isSome) : bus.Has pick := by
  refine Option.isSome_iff_exists.mp ?_
  unfold find
  rw [List.findSome?_isSome_iff]
  exact ⟨mounted, member, picked⟩

/-- A device that was found is found again, related to what it was. -/
theorem found_evolves (evolves : bus.Evolves Follows after)
    (picked : ∀ {old new}, Follows old new → Option.Rel related (pick old) (pick new)) {device : α}
    (found : bus.find pick = some device) :
    ∃ later, after.find pick = some later ∧ related device later := by
  have moved := find_evolves evolves picked
  rw [found] at moved
  cases same : after.find pick with
  | none =>
    rw [same] at moved
    cases moved
  | some later =>
    rw [same] at moved
    cases moved with
    | some step => exact ⟨later, rfl, step⟩

theorem Has.evolves (has : bus.Has pick) (evolves : bus.Evolves Follows after)
    (picked : ∀ {old new}, Follows old new → Option.Rel related (pick old) (pick new)) :
    after.Has pick := by
  obtain ⟨device, found⟩ := has
  obtain ⟨later, same, _⟩ := found_evolves evolves picked found
  exact ⟨later, same⟩

end SystemBus

namespace Board

theorem new_devices {ramSize : BitVec 64} {others : List (Mounted δ)} {board : Board δ}
    (made : Board.new ramSize others = some board) :
    ∃ ram : Mounted Ram, board.bus.devices.Perm (ram.component :: others.map Mounted.other) := by
  unfold Board.new at made
  split at made
  · cases made
  rename_i ram _
  split at made
  · cases made
  rename_i bus emplaced
  cases made
  obtain ⟨perm, _⟩ := emplaceAll_ok emplaced
  rw [List.append_nil] at perm
  exact ⟨ram, perm⟩

/-- Whatever the constructor puts on the bus is there. -/
theorem has_of_new {ramSize : BitVec 64} {others : List (Mounted (Peripheral σ ν))}
    {board : Board (Peripheral σ ν)} (made : Board.new ramSize others = some board)
    {pick : Component (Peripheral σ ν) → Option α} {device : α}
    (picked : others.findSome? (fun mounted => pick (.other mounted.device)) = some device) :
    board.bus.Has pick := by
  obtain ⟨ram, perm⟩ := new_devices made
  obtain ⟨mounted, member, found⟩ := List.exists_of_findSome?_eq_some picked
  have present : mounted.other ∈ board.bus.devices :=
    perm.mem_iff.mpr (List.mem_cons_of_mem _ (List.mem_map_of_mem member))
  exact SystemBus.has_of_mem present (Option.isSome_iff_exists.mpr ⟨device, found⟩)

section

variable [BlockStorage σ]

theorem loadImage_evolves (image : Image) (physicalAddress : PhysAddr)
    (board : Board (Peripheral σ ν)) :
    board.bus.Evolves Follows (loadImage image physicalAddress board).2.bus := by
  unfold loadImage
  split
  · exact SystemBus.evolves_of_same respects_follows rfl
  · exact SystemBus.evolves_setDevice respects_follows board.mounted
      (.ram (size_loadImage image _ board.ram.device))

theorem loadImages_evolves (images : BootImages) (layout : BootLayout)
    (board : Board (Peripheral σ ν)) :
    board.bus.Evolves Follows (loadImages images layout board).2.bus := by
  unfold loadImages
  dsimp only
  have first := loadImage_evolves images.firmware layout.firmwareAddress board
  split
  · exact first
  have second := SystemBus.evolves_trans respects_follows first
    (loadImage_evolves images.kernel layout.kernelAddress _)
  split
  · exact second
  · exact SystemBus.evolves_trans respects_follows second
      (loadImage_evolves images.deviceTree layout.deviceTreeAddress _)

end

end Board

/-- What the host does to a device of a machine; the interruptor, the clock and the interrupt
controller are not its to change. -/
structure Attended (old new : Component (Peripheral σ ν)) : Prop where
  follows : Follows old new
  clint : new.clint? = old.clint?
  rtc : new.rtc? = old.rtc?
  plic : new.plic? = old.plic?

theorem Attended.evolves {bus after : SystemBus (Component (Peripheral σ ν))}
    (attended : bus.Evolves Attended after) : bus.Evolves Follows after :=
  List.Forall₂.imp (fun _ _ step => ⟨step.range, step.instructionCacheable, step.device.follows⟩)
    attended

end RvEmulator.Platform

namespace RvEmulator

open Devices Library Platform

variable {σ ν : Type} [BlockStorage σ]

/-- Whatever a core does to the bus of its machine, the devices follow. -/
theorem Platform.Board.keeps_evolves (start : SystemBus (Component (Peripheral σ ν))) :
    CpuBus.Keeps fun board : Board (Peripheral σ ν) => start.Evolves Follows board.bus :=
  fun command board before =>
    SystemBus.evolves_trans respects_follows before (board.perform_evolves command)

/-! ### The RV64 machine -/

namespace Platform64.Machine

variable [NetworkBackend ν] [Core64.SoftFloat]

inductive Moves : Machine (Peripheral σ ν) → Machine (Peripheral σ ν) → Prop
  | step (machine : Machine (Peripheral σ ν)) (elapsedCycles : BitVec 64) :
      Moves machine (machine.step elapsedCycles).2
  | reset (machine : Machine (Peripheral σ ν)) (config : ResetConfig 64) :
      Moves machine (machine.reset config)
  | loadBoot (machine : Machine (Peripheral σ ν)) (config : BootConfig 64) :
      Moves machine (loadBoot config machine).2
  | setExecutionMode (machine : Machine (Peripheral σ ν)) (mode : ExecutionMode) :
      Moves machine { machine with core := machine.core.setExecutionMode mode }
  | attended (machine : Machine (Peripheral σ ν)) (after : SystemBus (Component (Peripheral σ ν)))
      (keeps : machine.board.KeepsRam after) (attended : machine.board.bus.Evolves Attended after) :
      Moves machine (machine.withBoard (machine.board.advance after keeps))

inductive Reachable : Machine (Peripheral σ ν) → Prop
  | new (config : MachineConfig σ) (constructed : new config = some machine) : Reachable machine
  | moves (reachable : Reachable machine) (moves : Moves machine next) : Reachable next

variable {machine next later : Machine (Peripheral σ ν)}

omit [Core64.SoftFloat] in
theorem evolves_sampled (machine : Machine (Peripheral σ ν)) (elapsedCycles : BitVec 64) :
    machine.board.bus.Evolves Follows (machine.sampled elapsedCycles).board.bus :=
  wiring.evolves_sampled elapsedCycles machine.board.bus

theorem evolves_step (machine : Machine (Peripheral σ ν)) (elapsedCycles : BitVec 64) :
    machine.board.bus.Evolves Follows (machine.step elapsedCycles).2.board.bus :=
  Core64.Core.keeps_step (Board.keeps_evolves machine.board.bus)
    (machine.evolves_sampled elapsedCycles) _

theorem Moves.evolves (moves : Moves machine next) :
    machine.board.bus.Evolves Follows next.board.bus := by
  cases moves with
  | step elapsedCycles => exact machine.evolves_step elapsedCycles
  | reset => exact SystemBus.evolves_of_same respects_follows rfl
  | loadBoot config =>
    unfold Machine.loadBoot
    split
    · exact SystemBus.evolves_of_same respects_follows rfl
    split
    · exact SystemBus.evolves_of_same respects_follows rfl
    rename_i address _
    have loaded := Board.loadImages_evolves config.toBootImages { deviceTreeAddress := address }
      machine.board
    dsimp only
    generalize Board.loadImages config.toBootImages _ machine.board = answer at loaded ⊢
    obtain ⟨_ | _, board⟩ := answer <;> exact loaded
  | setExecutionMode mode =>
    refine SystemBus.evolves_of_same respects_follows ?_
    change (machine.core.setExecutionMode mode).fabric.bus.bus.devices = _
    unfold Core64.Core.setExecutionMode
    split <;> rfl
  | attended after keeps attended => exact Attended.evolves attended

theorem run_evolves (run : Relation.ReflTransGen Moves machine later) :
    machine.board.bus.Evolves Follows later.board.bus := by
  induction run with
  | refl => exact SystemBus.evolves_of_same respects_follows rfl
  | tail _ moves ih => exact SystemBus.evolves_trans respects_follows ih moves.evolves

/-- The devices that the constructor puts on the bus stay on it. -/
structure Equipped (machine : Machine (Peripheral σ ν)) : Prop where
  clint : machine.board.bus.Has Component.clint?
  rtc : machine.board.bus.Has Component.rtc?
  plic : machine.board.bus.Has Component.plic?
  uart : machine.board.bus.Has Component.uart?
  block : machine.board.bus.Has Component.block?
  net : machine.board.bus.Has Component.net?

theorem Reachable.equipped (reachable : machine.Reachable) : machine.Equipped := by
  induction reachable with
  | new config constructed =>
    obtain ⟨framebuffer, _, rest⟩ := Option.bind_eq_some_iff.mp constructed
    obtain ⟨board, made, same⟩ := Option.bind_eq_some_iff.mp rest
    cases same
    exact
      { clint := Board.has_of_new made rfl
        rtc := Board.has_of_new made rfl
        plic := Board.has_of_new made rfl
        uart := Board.has_of_new made rfl
        block := Board.has_of_new made rfl
        net := Board.has_of_new made rfl }
  | moves _ moves ih =>
    exact
      { clint := ih.clint.evolves moves.evolves Component.clint?_follows
        rtc := ih.rtc.evolves moves.evolves Component.rtc?_follows
        plic := ih.plic.evolves moves.evolves Component.plic?_follows
        uart := ih.uart.evolves moves.evolves Component.uart?_follows
        block := ih.block.evolves moves.evolves Component.block?_follows
        net := ih.net.evolves moves.evolves Component.net?_follows }

end Platform64.Machine

/-! ### The RV32 machine -/

namespace Platform32.Machine

inductive Moves : Machine (Peripheral σ ν) → Machine (Peripheral σ ν) → Prop
  | step (machine : Machine (Peripheral σ ν)) (elapsedCycles : BitVec 64) :
      Moves machine (machine.step elapsedCycles).2
  | reset (machine : Machine (Peripheral σ ν)) (config : ResetConfig 32) :
      Moves machine (machine.reset config)
  | loadBoot (machine : Machine (Peripheral σ ν)) (config : BootConfig 32) :
      Moves machine (loadBoot config machine).2
  | setExecutionMode (machine : Machine (Peripheral σ ν)) (mode : ExecutionMode) :
      Moves machine { machine with core := machine.core.setExecutionMode mode }
  | attended (machine : Machine (Peripheral σ ν)) (after : SystemBus (Component (Peripheral σ ν)))
      (keeps : machine.board.KeepsRam after) (attended : machine.board.bus.Evolves Attended after) :
      Moves machine (machine.withBoard (machine.board.advance after keeps))

inductive Reachable : Machine (Peripheral σ ν) → Prop
  | new (config : MachineConfig σ) (constructed : new config = some machine) : Reachable machine
  | moves (reachable : Reachable machine) (moves : Moves machine next) : Reachable next

variable {machine next later : Machine (Peripheral σ ν)}

theorem evolves_sampled (machine : Machine (Peripheral σ ν)) (elapsedCycles : BitVec 64) :
    machine.board.bus.Evolves Follows (machine.sampled elapsedCycles).board.bus :=
  wiring.evolves_sampled elapsedCycles machine.board.bus

theorem evolves_step (machine : Machine (Peripheral σ ν)) (elapsedCycles : BitVec 64) :
    machine.board.bus.Evolves Follows (machine.step elapsedCycles).2.board.bus :=
  Core32.Core.keeps_step (Board.keeps_evolves machine.board.bus)
    (machine.evolves_sampled elapsedCycles) _

theorem Moves.evolves (moves : Moves machine next) :
    machine.board.bus.Evolves Follows next.board.bus := by
  cases moves with
  | step elapsedCycles => exact machine.evolves_step elapsedCycles
  | reset => exact SystemBus.evolves_of_same respects_follows rfl
  | loadBoot config =>
    unfold Machine.loadBoot
    split
    · exact SystemBus.evolves_of_same respects_follows rfl
    split
    · exact SystemBus.evolves_of_same respects_follows rfl
    rename_i address _
    have loaded := Board.loadImages_evolves config.toBootImages { deviceTreeAddress := address }
      machine.board
    dsimp only
    split
    · exact SystemBus.evolves_of_same respects_follows rfl
    generalize Board.loadImages config.toBootImages _ machine.board = answer at loaded ⊢
    obtain ⟨_ | _, board⟩ := answer <;> exact loaded
  | setExecutionMode mode =>
    refine SystemBus.evolves_of_same respects_follows ?_
    change (machine.core.setExecutionMode mode).fabric.bus.bus.devices = _
    unfold Core32.Core.setExecutionMode
    split <;> rfl
  | attended after keeps attended => exact Attended.evolves attended

theorem run_evolves (run : Relation.ReflTransGen Moves machine later) :
    machine.board.bus.Evolves Follows later.board.bus := by
  induction run with
  | refl => exact SystemBus.evolves_of_same respects_follows rfl
  | tail _ moves ih => exact SystemBus.evolves_trans respects_follows ih moves.evolves

theorem Reachable.run (reachable : machine.Reachable)
    (run : Relation.ReflTransGen Moves machine later) : later.Reachable := by
  induction run with
  | refl => exact reachable
  | tail _ moves ih => exact ih.moves moves

/-- The devices that the constructor puts on the bus stay on it. -/
structure Equipped (machine : Machine (Peripheral σ ν)) : Prop where
  clint : machine.board.bus.Has Component.clint?
  plic : machine.board.bus.Has Component.plic?
  uart : machine.board.bus.Has Component.uart?
  block : machine.board.bus.Has Component.block?

theorem Reachable.equipped (reachable : machine.Reachable) : machine.Equipped := by
  induction reachable with
  | new config constructed =>
    obtain ⟨framebuffer, _, rest⟩ := Option.bind_eq_some_iff.mp constructed
    obtain ⟨board, made, same⟩ := Option.bind_eq_some_iff.mp rest
    cases same
    exact
      { clint := Board.has_of_new made rfl
        plic := Board.has_of_new made rfl
        uart := Board.has_of_new made rfl
        block := Board.has_of_new made rfl }
  | moves _ moves ih =>
    exact
      { clint := ih.clint.evolves moves.evolves Component.clint?_follows
        plic := ih.plic.evolves moves.evolves Component.plic?_follows
        uart := ih.uart.evolves moves.evolves Component.uart?_follows
        block := ih.block.evolves moves.evolves Component.block?_follows }

end Platform32.Machine

end RvEmulator
