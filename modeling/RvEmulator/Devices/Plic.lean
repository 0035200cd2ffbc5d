import Mathlib.Logic.Function.Basic
import RvEmulator.Platform.Device

/-! The platform-level interrupt controller (`devices/src/plic.cpp`). -/

namespace RvEmulator.Devices

open Platform

/-- The arrays are indexed by source, by word of 32 sources, and by context. -/
structure Plic where
  priorities : Nat → BitVec 32 := fun _ => 0
  pending : Nat → BitVec 32 := fun _ => 0
  enables : Nat → Nat → BitVec 32 := fun _ _ => 0
  thresholds : Nat → BitVec 32 := fun _ => 0
  claimed : Nat → Nat := fun _ => 0
  sourceLevels : Nat → Bool := fun _ => false
  bestPendingCache : Nat → Nat := fun _ => 0

namespace Plic

def sourceCount : Nat := 53
def contextCount : Nat := 2
def machineContext : Nat := 0
def supervisorContext : Nat := 1

def pendingBase : Nat := 0x001000
def enableBase : Nat := 0x002000
def enableStride : Nat := 0x000080
def contextBase : Nat := 0x200000
def contextStride : Nat := 0x001000
def claimOffset : Nat := 0x4

def sourceSlots : Nat := sourceCount + 1
def pendingWordCount : Nat := (sourceSlots + 31) / 32
def pendingSize : Nat := pendingWordCount * 4

/-- A source identifier that the controller has an input for. -/
def ValidSource (source : Nat) : Prop := source ≠ 0 ∧ source ≤ sourceCount

instance (source : Nat) : Decidable (ValidSource source) :=
  inferInstanceAs (Decidable (_ ∧ _))

def sourceEnabled (plic : Plic) (context source : Nat) : Bool :=
  if contextCount ≤ context ∨ ¬ValidSource source then false
  else (plic.enables context (source / 32)).getLsbD (source % 32)

def sourcePending (plic : Plic) (source : Nat) : Bool :=
  if ¬ValidSource source then false
  else (plic.pending (source / 32)).getLsbD (source % 32)

/-! ### The choice of a source -/

/-- One round of the loop of `compute_best_pending`, on the best source and its
priority so far. -/
def considerSource (plic : Plic) (context : Nat) (best : Nat × BitVec 32) (source : Nat) :
    Nat × BitVec 32 :=
  let priority := plic.priorities source
  if plic.sourcePending source = false ∨ plic.sourceEnabled context source = false ∨
      priority ≤ plic.thresholds context then best
  else if best.2 < priority ∨ priority = best.2 ∧ (best.1 = 0 ∨ source < best.1) then
    (source, priority)
  else best

def computeBestPending (plic : Plic) (context : Nat) : Nat :=
  if contextCount ≤ context then 0
  else ((List.range' 1 sourceCount).foldl (plic.considerSource context) (0, 0)).1

def refreshPending (plic : Plic) (context : Nat) : Plic :=
  if context < contextCount then
    { plic with
      bestPendingCache :=
        Function.update plic.bestPendingCache context (plic.computeBestPending context) }
  else plic

def refreshAllPending (plic : Plic) : Plic :=
  (List.range contextCount).foldl refreshPending plic

def bestPending (plic : Plic) (context : Nat) : Nat :=
  if contextCount ≤ context then 0 else plic.bestPendingCache context

def setPending (plic : Plic) (source : Nat) (pending : Bool) : Plic :=
  if ¬ValidSource source then plic
  else
    let bit := (1 : BitVec 32) <<< (source % 32)
    let word := plic.pending (source / 32)
    let changed := { plic with
      pending := Function.update plic.pending (source / 32)
        (if pending then word ||| bit else word &&& ~~~bit) }
    if pending ≠ plic.sourcePending source then changed.refreshAllPending else changed

def setSourceLevel (plic : Plic) (source : Nat) (asserted : Bool) : Plic :=
  if ¬ValidSource source then plic
  else
    let wasAsserted := plic.sourceLevels source
    let changed := { plic with
      sourceLevels := Function.update plic.sourceLevels source asserted }
    if asserted ∧ wasAsserted = false ∧ plic.claimed 0 ≠ source ∧ plic.claimed 1 ≠ source then
      changed.setPending source true
    else changed

def machineExternalIrq (plic : Plic) : Bool := plic.bestPending machineContext != 0

def supervisorExternalIrq (plic : Plic) : Bool := plic.bestPending supervisorContext != 0

def claim (plic : Plic) (context : Nat) : Nat × Plic :=
  let source := plic.bestPending context
  if source ≠ 0 then
    let cleared := plic.setPending source false
    (source, { cleared with claimed := Function.update cleared.claimed context source })
  else (source, plic)

def complete (plic : Plic) (context source : Nat) : Plic :=
  if contextCount ≤ context ∨ ¬ValidSource source ∨ plic.claimed context ≠ source then plic
  else
    let released := { plic with claimed := Function.update plic.claimed context 0 }
    if released.sourceLevels source then released.setPending source true else released

/-! ### The registers -/

inductive ContextRegister where
  | enable (word : Nat)
  | threshold
  | claim
deriving DecidableEq, Repr

/-- The register of one context at an offset. -/
def contextRegister (offset context : Nat) : Option ContextRegister :=
  let contextEnable := enableBase + context * enableStride
  let contextRegisters := contextBase + context * contextStride
  if contextEnable ≤ offset ∧ offset < contextEnable + pendingSize then
    some (.enable ((offset - contextEnable) / 4))
  else if offset = contextRegisters then some .threshold
  else if offset = contextRegisters + claimOffset then some .claim
  else none

/-- The loop over the contexts, which `read` and `write` share. -/
def findRegister (offset : Nat) : Option (Nat × ContextRegister) :=
  (List.range contextCount).findSome? fun context =>
    (contextRegister offset context).map fun register => (context, register)

def read (offset : BitVec 64) (width : AccessWidth) (plic : Plic) : ReadResult × Plic :=
  if width ≠ .word ∨ offset &&& 3 ≠ 0 then ({ fault := .unsupported }, plic)
  else if offset.toNat < sourceSlots * 4 then
    ({ value := (plic.priorities (offset.toNat / 4)).setWidth 64 }, plic)
  else if pendingBase ≤ offset.toNat ∧ offset.toNat < pendingBase + pendingSize then
    ({ value := (plic.pending ((offset.toNat - pendingBase) / 4)).setWidth 64 }, plic)
  else match findRegister offset.toNat with
    | some (context, .enable word) => ({ value := (plic.enables context word).setWidth 64 }, plic)
    | some (context, .threshold) => ({ value := (plic.thresholds context).setWidth 64 }, plic)
    | some (context, .claim) =>
      ({ value := BitVec.ofNat 64 (plic.claim context).1 }, (plic.claim context).2)
    | none => ({ value := 0 }, plic)

def writePriority (plic : Plic) (source : Nat) (value : BitVec 32) : Plic :=
  if source ≠ 0 then
    refreshAllPending { plic with
      priorities := Function.update plic.priorities source (value &&& 7) }
  else plic

/-- The lowest enable bit of the first word stays clear: there is no source 0. -/
def writeEnable (plic : Plic) (context word : Nat) (value : BitVec 32) : Plic :=
  let enabled := Function.update (plic.enables context) word value
  refreshPending { plic with
    enables := Function.update plic.enables context
      (Function.update enabled 0 (enabled 0 &&& ~~~1)) } context

def writeThreshold (plic : Plic) (context : Nat) (value : BitVec 32) : Plic :=
  refreshPending { plic with
    thresholds := Function.update plic.thresholds context (value &&& 7) } context

def write (offset : BitVec 64) (width : AccessWidth) (value : BitVec 64) (plic : Plic) :
    BusFault × Plic :=
  if width ≠ .word ∨ offset &&& 3 ≠ 0 then (.unsupported, plic)
  else if offset.toNat < sourceSlots * 4 then
    (.none, plic.writePriority (offset.toNat / 4) (value.setWidth 32))
  else match findRegister offset.toNat with
    | some (context, .enable word) => (.none, plic.writeEnable context word (value.setWidth 32))
    | some (context, .threshold) => (.none, plic.writeThreshold context (value.setWidth 32))
    | some (context, .claim) => (.none, plic.complete context (value.setWidth 32).toNat)
    | none => (.none, plic)

instance : Device Plic where
  read := Plic.read
  write := Plic.write
  refused := by
    intro offset width value plic failed
    unfold Plic.write at failed ⊢
    split
    · rfl
    · rename_i served
      rw [if_neg served] at failed
      split at failed
      · exact absurd rfl failed
      · split at failed <;> exact absurd rfl failed

/-! ### Runs -/

inductive Operation where
  | setSourceLevel (source : Nat) (asserted : Bool)
  | read (offset : BitVec 64) (width : AccessWidth)
  | write (offset : BitVec 64) (width : AccessWidth) (value : BitVec 64)
deriving DecidableEq, Repr

def perform (plic : Plic) : Operation → Plic
  | .setSourceLevel source asserted => plic.setSourceLevel source asserted
  | .read offset width => (plic.read offset width).2
  | .write offset width value => (plic.write offset width value).2

/-- The controller after some operations, from its construction on. -/
def after (operations : List Operation) : Plic := operations.foldl perform {}

/-- The offset of a context's claim and complete register. -/
def claimRegister (context : Nat) : BitVec 64 :=
  BitVec.ofNat 64 (contextBase + context * contextStride + claimOffset)

end Plic

end RvEmulator.Devices
