import RvEmulator.Common.Bus
import RvEmulator.Library.LittleEndian

/-! Buses that behave like memory. -/

namespace RvEmulator

open Library

/-- A quiet bus over bytes. Reads return them and successful writes set them;
load-reserved and everything that is refused leaves them alone. Reservations,
clocks and device registers are not part of the contents. -/
structure RamLike (β : Type) [CpuBus β] extends QuietBus β where
  contents : β → Memory
  contents_same : same b c → contents b = contents c
  read_value : same b b → (CpuBus.read address width kind b).1.fault = .none →
    (CpuBus.read address width kind b).1.value = (contents b).get address width.bytes
  written : same b b → (CpuBus.write address width value kind b).1 = .none →
    contents (CpuBus.write address width value kind b).2 =
      (contents b).put address width.bytes value
  readable : same b b → (CpuBus.write address width value kind b).1 = .none →
    (CpuBus.read address width kind (CpuBus.write address width value kind b).2).1.fault = .none
  refused : same b b → (CpuBus.write address width value kind b).1 ≠ .none →
    contents (CpuBus.write address width value kind b).2 = contents b
  loadReservedWord : same b b →
    contents (CpuBus.loadReservedWord hart address b).2 = contents b
  loadReservedDoubleword : same b b →
    contents (CpuBus.loadReservedDoubleword hart address b).2 = contents b
  storeConditionalWord : same b b →
    (CpuBus.storeConditionalWord hart address word b).1.fault ≠ .none →
    contents (CpuBus.storeConditionalWord hart address word b).2 = contents b
  storeConditionalDoubleword : same b b →
    (CpuBus.storeConditionalDoubleword hart address value b).1.fault ≠ .none →
    contents (CpuBus.storeConditionalDoubleword hart address value b).2 = contents b
  atomicWord : same b b → (CpuBus.atomicWord hart address operation word b).1.fault ≠ .none →
    contents (CpuBus.atomicWord hart address operation word b).2 = contents b
  atomicDoubleword : same b b →
    (CpuBus.atomicDoubleword hart address operation value b).1.fault ≠ .none →
    contents (CpuBus.atomicDoubleword hart address operation value b).2 = contents b

namespace RamLike

variable [CpuBus β] (ram : RamLike β)

theorem contents_read {bus : β} (memory : ram.same bus bus) (address : PhysAddr)
    (width : AccessWidth) (kind : AccessKind) :
    ram.contents (CpuBus.read address width kind bus).2 = ram.contents bus :=
  (ram.contents_same (ram.quiet address width kind memory)).symm

/-- A successful write is read back. -/
theorem read_write {bus : β} (memory : ram.same bus bus) (address : PhysAddr) (width : AccessWidth)
    (value : BitVec 64) (kind : AccessKind)
    (stored : (CpuBus.write address width value kind bus).1 = .none) :
    (CpuBus.read address width kind (CpuBus.write address width value kind bus).2).1.ok = true ∧
      ∀ i < width.bytes * 8,
        (CpuBus.read address width kind
          (CpuBus.write address width value kind bus).2).1.value.getLsbD i = value.getLsbD i := by
  have after : ram.same (CpuBus.write address width value kind bus).2
      (CpuBus.write address width value kind bus).2 :=
    (ram.perform (.write address width value kind) memory).2
  have readable := ram.readable memory stored
  refine ⟨by simp [ReadResult.ok, readable], ?_⟩
  intro i inside
  have short := width.bytes_le
  rw [ram.read_value after readable, ram.written memory stored,
    Memory.getLsbD_get_put _ _ _ short (by omega)]
  simp [inside]

end RamLike

end RvEmulator
