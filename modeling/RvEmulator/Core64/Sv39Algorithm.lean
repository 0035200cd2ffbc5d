import RvEmulator.Core64.Status
import RvEmulator.Core64.Translation
import RvEmulator.Mmu.LeafBits

/-! The address translation algorithm of the privileged architecture for Sv39, with
hardware updates of the accessed and dirty bits, stated on the fields of its formats;
and how the masks and shifts of `mmu.cpp` read these fields. -/

namespace RvEmulator.Core64

open Library

namespace Sv39Algorithm

/-- A page-table entry. The bits left for software have no field. -/
structure Entry where
  valid : Bool
  readable : Bool
  writable : Bool
  executable : Bool
  user : Bool
  accessed : Bool
  dirty : Bool
  ppn : BitVec 44
  reserved : BitVec 10
deriving DecidableEq, Repr

def Entry.ofWord (word : Xlen) : Entry where
  valid := word.getLsbD 0
  readable := word.getLsbD 1
  writable := word.getLsbD 2
  executable := word.getLsbD 3
  user := word.getLsbD 4
  accessed := word.getLsbD 6
  dirty := word.getLsbD 7
  ppn := word.extractLsb' 10 44
  reserved := word.extractLsb' 54 10

/-- Fields of a virtual address. -/
def vpn (virtualAddress : Xlen) (level : Nat) : BitVec 9 :=
  virtualAddress.extractLsb' (12 + 9 * level) 9

/-- Bits 63 to 39 are copies of bit 38. -/
def Canonical (virtualAddress : Xlen) : Prop :=
  ∀ i, 39 ≤ i → i < 64 → virtualAddress.getLsbD i = virtualAddress.getLsbD 38

instance (virtualAddress : Xlen) : Decidable (Canonical virtualAddress) :=
  decidable_of_iff (∀ i < 64, 39 ≤ i → virtualAddress.getLsbD i = virtualAddress.getLsbD 38)
    ⟨fun all i low high => all i high low, fun all i high low => all i low high⟩

/-- Where an entry of the table at a page number lies. -/
def entryAddress (ppn : BitVec 44) (virtualAddress : Xlen) (level : Nat) : PhysAddr :=
  BitVec.ofNat 64 (ppn.toNat * 4096 + (vpn virtualAddress level).toNat * 8)

inductive Walk where
  | pageFault
  | accessFault (fault : BusFault)
  | leaf (level : Nat) (address : PhysAddr) (word : Xlen)

/-- Steps 2 to 4, from the table of the level below the given one. -/
def walk (load : PhysAddr → Except BusFault Xlen) (virtualAddress : Xlen) :
    Nat → BitVec 44 → Walk
  | 0, _ => .pageFault
  | level + 1, table =>
    match load (entryAddress table virtualAddress level) with
    | .error fault => .accessFault fault
    | .ok word =>
      let entry := Entry.ofWord word
      if ¬entry.valid ∨ (¬entry.readable ∧ entry.writable) ∨ entry.reserved ≠ 0 then .pageFault
      else if entry.readable ∨ entry.executable then
        .leaf level (entryAddress table virtualAddress level) word
      else if entry.user ∨ entry.accessed ∨ entry.dirty then .pageFault
      else walk load virtualAddress level entry.ppn

/-- Step 5: the access is one that the entry permits. -/
def Permitted (entry : Entry) (privilege : PrivilegeMode) (sum mxr : Bool) :
    MemoryAccessType → Prop
  | .instructionFetch => entry.executable ∧ (entry.user ↔ privilege = .user)
  | .load =>
    (entry.readable ∨ mxr ∧ entry.executable) ∧
      (entry.user ∧ (privilege = .user ∨ sum) ∨ ¬entry.user ∧ privilege ≠ .user)
  | .store =>
    entry.writable ∧ (entry.user ∧ (privilege = .user ∨ sum) ∨ ¬entry.user ∧ privilege ≠ .user)

instance (entry : Entry) (privilege : PrivilegeMode) (sum mxr : Bool) :
    (access : MemoryAccessType) → Decidable (Permitted entry privilege sum mxr access)
  | .instructionFetch | .load | .store => inferInstanceAs (Decidable (_ ∧ _))

/-- Step 6: the page number of a superpage ends in zeros. -/
def Aligned (entry : Entry) (level : Nat) : Prop := entry.ppn.toNat % 2 ^ (9 * level) = 0

instance (entry : Entry) (level : Nat) : Decidable (Aligned entry level) :=
  inferInstanceAs (Decidable (_ = _))

/-- Step 7: the word with the accessed bit set, and for a store the dirty bit. -/
def mark (word : Xlen) : MemoryAccessType → Xlen
  | .store => word ||| 1 <<< 6 ||| 1 <<< 7
  | _ => word ||| 1 <<< 6

/-- Step 8: the low 12, 21 or 30 bits are the virtual address's. -/
def physicalAddress (entry : Entry) (level : Nat) (virtualAddress : Xlen) : PhysAddr :=
  BitVec.ofNat 64
    (entry.ppn.toNat / 2 ^ (9 * level) * 2 ^ (12 + 9 * level) +
      virtualAddress.toNat % 2 ^ (12 + 9 * level))

/-- The effective privilege: MPP for the loads and stores under MPRV. -/
def effectivePrivilege (privilege : PrivilegeMode) (mstatus : Xlen) :
    MemoryAccessType → PrivilegeMode
  | .instructionFetch => privilege
  | _ =>
    if mstatus.getLsbD 17 then
      match mstatus.getLsbD 12, mstatus.getLsbD 11 with
      | true, true => .machine
      | false, true => .supervisor
      | _, false => .user
    else privilege

/-- The translation, and the update that it makes in memory. `store` is the answer of
the bus to a write of an entry. -/
def translate (load : PhysAddr → Except BusFault Xlen) (store : PhysAddr → Xlen → BusFault)
    (satp mstatus : Xlen) (privilege : PrivilegeMode) (virtualAddress : Xlen)
    (access : MemoryAccessType) : TranslationResult × Option (PhysAddr × Xlen) :=
  let effective := effectivePrivilege privilege mstatus access
  if effective = .machine ∨ satp.extractLsb' 60 4 ≠ 8 then (.ready virtualAddress, none)
  else if ¬Canonical virtualAddress then (.pageFault, none)
  else
    match walk load virtualAddress 3 (satp.extractLsb' 0 44) with
    | .pageFault => (.pageFault, none)
    | .accessFault fault => (.accessFault fault, none)
    | .leaf level address word =>
      let entry := Entry.ofWord word
      if ¬Permitted entry effective (mstatus.getLsbD 18) (mstatus.getLsbD 19) access ∨
          ¬Aligned entry level then (.pageFault, none)
      else if entry.accessed ∧ (access = .store → entry.dirty) then
        (.ready (physicalAddress entry level virtualAddress), none)
      else if store address (mark word access) ≠ .none then
        (.accessFault (store address (mark word access)), none)
      else
        (.ready (physicalAddress entry level virtualAddress), some (address, mark word access))

/-! ### The formats -/

theorem reserved_iff (word : Xlen) :
    flag word PteBits.reserved = true ↔ (Entry.ofWord word).reserved ≠ 0 := by
  have mask : ∀ i < 64, PteBits.reserved.getLsbD i = decide (54 ≤ i) := by decide
  rw [flag_iff, Entry.ofWord, ne_eq, ← not_iff_not, not_not]
  constructor
  · intro clear
    apply BitVec.eq_of_getLsbD_eq
    intro i inside
    rw [BitVec.getLsbD_extractLsb']
    have bit : ¬word.getLsbD (54 + i) = true := fun set =>
      clear ⟨54 + i, by omega, set, by rw [mask _ (by omega)]; simp⟩
    simpa [inside] using bit
  · rintro zero ⟨i, inside, set, high⟩
    rw [mask i inside, decide_eq_true_iff] at high
    have bit := congrArg (fun value => BitVec.getLsbD value (i - 54)) zero
    simp only [BitVec.getLsbD_extractLsb', show 54 + (i - 54) = i by omega, set,
      show i - 54 < 10 by omega, BitVec.ofNat_eq_ofNat, BitVec.getLsbD_zero] at bit
    cases bit

/-- The page number of a word, in the width of the registers. -/
theorem ptePpn_eq (word : Xlen) : Sv39.ptePpn word = (Entry.ofWord word).ppn.setWidth 64 := by
  have mask : ∀ i < 64, PteBits.ppn.getLsbD i = decide (10 ≤ i ∧ i < 54) := by decide
  apply BitVec.eq_of_getLsbD_eq
  intro i inside
  unfold Sv39.ptePpn Entry.ofWord
  rw [BitVec.getLsbD_ushiftRight, BitVec.getLsbD_and, BitVec.getLsbD_setWidth,
    BitVec.getLsbD_extractLsb']
  by_cases within : 10 + i < 64
  · rw [mask _ within]
    simp only [inside, decide_true, Bool.true_and]
    rw [Bool.and_comm]
    congr 1
    exact decide_eq_decide.mpr (by omega)
  · rw [BitVec.getLsbD_of_ge word (10 + i) (by omega)]
    simp

theorem tableAddress_eq (ppn : BitVec 44) :
    (ppn.setWidth 64 <<< 12).toNat = ppn.toNat * 4096 := by
  have bounded := ppn.isLt
  rw [BitVec.toNat_shiftLeft, BitVec.toNat_setWidth, Nat.shiftLeft_eq]
  omega

theorem vpn_eq (virtualAddress : Xlen) (level : Nat) :
    Sv39.vpn virtualAddress level = (vpn virtualAddress level).setWidth 64 := by
  have mask : ∀ i < 64, (0x1FF : Xlen).getLsbD i = decide (i < 9) := by decide
  apply BitVec.eq_of_getLsbD_eq
  intro i inside
  unfold Sv39.vpn vpn
  rw [BitVec.getLsbD_and, BitVec.getLsbD_ushiftRight, mask i inside, BitVec.getLsbD_setWidth,
    BitVec.getLsbD_extractLsb']
  simp only [inside, decide_true, Bool.true_and]
  exact Bool.and_comm _ _

theorem entryAddress_eq (ppn : BitVec 44) (virtualAddress : Xlen) (level : Nat) :
    sv39.entryAddress virtualAddress level (ppn.setWidth 64 <<< 12) =
      entryAddress ppn virtualAddress level := by
  have table := tableAddress_eq ppn
  have bounded := ppn.isLt
  have index := (vpn virtualAddress level).isLt
  have scaled : ((vpn virtualAddress level).setWidth 64 * 8#64).toNat =
      (vpn virtualAddress level).toNat * 8 := by
    rw [BitVec.toNat_mul, BitVec.toNat_setWidth]
    simp
    omega
  apply BitVec.eq_of_toNat_eq
  unfold entryAddress
  simp only [sv39]
  rw [vpn_eq, BitVec.toNat_add, table, BitVec.toNat_ofNat]
  congr 2

theorem canonical_iff (virtualAddress : Xlen) :
    Sv39.canonicalAddress virtualAddress = true ↔ Canonical virtualAddress := by
  have ones : ∀ i < 64, ((1#64 <<< 25) - 1).getLsbD i = decide (i < 25) := by decide
  have sign : (((virtualAddress >>> 38) &&& 1) != 0) = virtualAddress.getLsbD 38 := by
    have same := flag_shift (virtualAddress >>> 38) 0
    simpa [flag] using same
  unfold Sv39.canonicalAddress Canonical
  dsimp only
  rw [sign]
  have upper : ∀ value : Xlen, (virtualAddress >>> 39 == value) = true ↔
      ∀ i < 64, virtualAddress.getLsbD (39 + i) = value.getLsbD i := by
    intro value
    rw [beq_iff_eq]
    constructor
    · rintro rfl i _
      rw [BitVec.getLsbD_ushiftRight]
    · intro bits
      apply BitVec.eq_of_getLsbD_eq
      intro i inside
      rw [BitVec.getLsbD_ushiftRight, bits i inside]
  cases top : virtualAddress.getLsbD 38 with
  | true =>
    rw [if_pos rfl, upper]
    constructor
    · intro bits i low high
      have bit := bits (i - 39) (by omega)
      rw [show 39 + (i - 39) = i by omega, ones _ (by omega)] at bit
      simpa [show i - 39 < 25 by omega] using bit
    · intro copies i inside
      rw [ones i inside]
      by_cases small : i < 25
      · simpa [small] using copies (39 + i) (by omega) (by omega)
      · rw [BitVec.getLsbD_of_ge virtualAddress (39 + i) (by omega)]
        simp [small]
  | false =>
    rw [if_neg (by decide), upper]
    constructor
    · intro bits i low high
      have bit := bits (i - 39) (by omega)
      rw [show 39 + (i - 39) = i by omega] at bit
      simpa using bit
    · intro copies i inside
      by_cases small : i < 25
      · simpa using copies (39 + i) (by omega) (by omega)
      · rw [BitVec.getLsbD_of_ge virtualAddress (39 + i) (by omega)]
        simp

theorem mode_iff (satp : Xlen) :
    satp &&& SatpBits.mode = SatpBits.sv39Mode ↔ satp.extractLsb' 60 4 = 8 := by
  have mask : ∀ i < 64, SatpBits.mode.getLsbD i = decide (60 ≤ i) := by decide
  have value : ∀ i < 64, SatpBits.sv39Mode.getLsbD i =
      (decide (60 ≤ i) && (8#4).getLsbD (i - 60)) := by decide
  constructor
  · intro same
    apply BitVec.eq_of_getLsbD_eq
    intro i inside
    have bit := congrArg (fun value => BitVec.getLsbD value (60 + i)) same
    simp only [BitVec.getLsbD_and, mask _ (show 60 + i < 64 by omega),
      value _ (show 60 + i < 64 by omega)] at bit
    rw [BitVec.getLsbD_extractLsb']
    simpa [inside, -BitVec.getLsbD_eq_getElem] using bit
  · intro same
    apply BitVec.eq_of_getLsbD_eq
    intro i inside
    rw [BitVec.getLsbD_and, mask i inside, value i inside, ← BitVec.ofNat_eq_ofNat, ← same,
      BitVec.getLsbD_extractLsb']
    by_cases high : 60 ≤ i
    · simp [high, show i - 60 < 4 by omega, show 60 + (i - 60) = i by omega]
    · simp [high]

/-- The sanitized `satp` is zero unless its mode is Sv39, and then keeps its fields. -/
theorem bare_iff (satp mstatus : Xlen) (privilege : PrivilegeMode) :
    sv39.bare ⟨sanitizeSatp satp, privilege, mstatus⟩ = true ↔
      privilege = .machine ∨ satp.extractLsb' 60 4 ≠ 8 := by
  unfold Paging.bare
  dsimp only [sv39]
  rw [Bool.or_eq_true, beq_iff_eq, beq_iff_eq, ne_eq, ← mode_iff]
  unfold sanitizeSatp
  split
  · rename_i other
    simp [other]
  · rename_i same
    rw [not_not] at same
    have nonzero : (SatpBits.sv39Mode ||| satp &&& (SatpBits.asid ||| SatpBits.ppn)) &&&
        SatpBits.mode ≠ 0 := by
      intro zero
      have bit := congrArg (fun value => BitVec.getLsbD value 63) zero
      simp only [BitVec.getLsbD_and, BitVec.getLsbD_or, show SatpBits.sv39Mode.getLsbD 63 = true
        by decide, show SatpBits.mode.getLsbD 63 = true by decide] at bit
      simp at bit
    simp only [nonzero, same, not_true_eq_false]

theorem rootTable_eq {satp : Xlen} (mode : satp.extractLsb' 60 4 = 8) :
    sv39.tableAddress (sanitizeSatp satp) = (satp.extractLsb' 0 44).setWidth 64 <<< 12 := by
  have masks : ∀ i < 64, SatpBits.ppn.getLsbD i = decide (i < 44) ∧
      (SatpBits.ppn.getLsbD i = true → SatpBits.sv39Mode.getLsbD i = false) := by decide
  have kept : sanitizeSatp satp &&& SatpBits.ppn = (satp.extractLsb' 0 44).setWidth 64 := by
    unfold sanitizeSatp
    rw [if_neg (not_not.mpr ((mode_iff satp).mpr mode))]
    apply BitVec.eq_of_getLsbD_eq
    intro i inside
    obtain ⟨ppn, apart⟩ := masks i inside
    rw [BitVec.getLsbD_and, BitVec.getLsbD_or, BitVec.getLsbD_and, BitVec.getLsbD_or,
      BitVec.getLsbD_setWidth, BitVec.getLsbD_extractLsb']
    by_cases low : i < 44
    · have set : SatpBits.ppn.getLsbD i = true := by simp [ppn, low]
      simp [-BitVec.getLsbD_eq_getElem, set, apart set, low, inside]
    · have clear : SatpBits.ppn.getLsbD i = false := by simp [ppn, low]
      simp [-BitVec.getLsbD_eq_getElem, clear, low]
  unfold Paging.tableAddress
  dsimp only [sv39]
  rw [kept]
  rfl

theorem effectivePrivilege_eq (state : CpuSnapshot) (access : MemoryAccessType) :
    Core64.effectivePrivilege state access =
      effectivePrivilege state.privilege state.machineCsrs.mstatus access := by
  have mprv : flag (sanitizeMstatus state.machineCsrs.mstatus) MstatusBits.mprv =
      state.machineCsrs.mstatus.getLsbD 17 := by
    unfold MstatusBits.mprv
    rw [flag_shift, Status.getLsbD_sanitizeMstatus_kept _ (by decide)]
  have low := Status.getLsbD_sanitizeMstatus state.machineCsrs.mstatus (show 11 < 64 by decide)
  have high := Status.getLsbD_sanitizeMstatus state.machineCsrs.mstatus (show 12 < 64 by decide)
  simp only [show ¬11 = 63 by decide, show ¬12 = 63 by decide, if_false, true_or, or_true,
    if_true, Status.reserved] at low high
  have previous : PrivilegeMode.ofCode?
      ((sanitizeMstatus state.machineCsrs.mstatus &&& MstatusBits.mpp) >>>
        MstatusBits.mppShift) =
      match state.machineCsrs.mstatus.getLsbD 12, state.machineCsrs.mstatus.getLsbD 11 with
      | true, true => some .machine
      | false, true => some .supervisor
      | _, false => some .user := by
    unfold MstatusBits.mpp
    rw [twoBits]
    unfold MstatusBits.mppShift
    rw [low, high]
    cases state.machineCsrs.mstatus.getLsbD 11 <;>
      cases state.machineCsrs.mstatus.getLsbD 12 <;> decide
  unfold Core64.effectivePrivilege
  dsimp only
  rw [mprv, previous]
  cases access with
  | instructionFetch => rfl
  | load | store =>
    unfold effectivePrivilege
    cases state.machineCsrs.mstatus.getLsbD 17 <;>
      cases state.machineCsrs.mstatus.getLsbD 11 <;>
      cases state.machineCsrs.mstatus.getLsbD 12 <;> rfl

/-! ### The checks at a leaf -/

theorem misaligned_iff {level : Nat} (inside : level < 3) (word : Xlen) :
    sv39.misaligned level word = true ↔ ¬Aligned (Entry.ofWord word) level := by
  obtain ⟨lower, _⟩ := Sv39.getLsbD_masks inside
  have bits : sv39.misaligned level word = true ↔
      ∃ i < 9 * level, (Entry.ofWord word).ppn.getLsbD i = true := by
    dsimp only [sv39]
    rw [flag_iff, ptePpn_eq]
    constructor
    · rintro ⟨i, small, set, mask⟩
      rw [lower i small, decide_eq_true_iff] at mask
      refine ⟨i, mask, ?_⟩
      rw [BitVec.getLsbD_setWidth, Bool.and_eq_true] at set
      exact set.2
    · rintro ⟨i, small, set⟩
      refine ⟨i, by omega, ?_, ?_⟩
      · rw [BitVec.getLsbD_setWidth, set]
        simp
        omega
      · rw [lower i (by omega)]
        simpa using small
  rw [bits, Aligned, ← not_iff_not, not_not]
  constructor
  · intro clear
    apply Nat.eq_of_testBit_eq
    intro i
    rw [Nat.testBit_mod_two_pow, Nat.zero_testBit]
    by_cases small : i < 9 * level
    · have bit : ¬(Entry.ofWord word).ppn.getLsbD i = true := fun set => clear ⟨i, small, set⟩
      simpa [BitVec.getLsbD] using fun _ => bit
    · simp [small]
  · rintro zero ⟨i, small, set⟩
    have bit := congrArg (fun value => Nat.testBit value i) zero
    simp only [Nat.testBit_mod_two_pow, small, decide_true, Bool.true_and, Nat.zero_testBit] at bit
    rw [BitVec.getLsbD] at set
    rw [set] at bit
    cases bit

theorem privilegeAllows_iff {word mstatus : Xlen} {privilege : PrivilegeMode}
    {access : MemoryAccessType} (below : privilege ≠ .machine) :
    privilegeAllows word privilege access mstatus = true ↔
      Permitted (Entry.ofWord word) privilege (mstatus.getLsbD 18) (mstatus.getLsbD 19)
        access := by
  rw [privilegeAllows_bits below, and_comm]
  cases access <;> rfl

theorem updatedPte_eq (word : Xlen) (access : MemoryAccessType) :
    updatedPte word access = mark word access := by
  cases access <;> rfl

theorem updatedPte_eq_self_iff (word : Xlen) (access : MemoryAccessType) :
    updatedPte word access = word ↔
      (Entry.ofWord word).accessed ∧ (access = .store → (Entry.ofWord word).dirty) :=
  updatedPte_eq_self_bits (by decide) word access

theorem physicalAddress_eq {level : Nat} (inside : level < 3) (word virtualAddress : Xlen) :
    sv39.physicalAddress level word virtualAddress =
      physicalAddress (Entry.ofWord word) level virtualAddress := by
  have bounded := (Entry.ofWord word).ppn.isLt
  apply BitVec.eq_of_getLsbD_eq
  intro i small
  dsimp only [sv39]
  rw [Sv39.getLsbD_physicalAddress inside word virtualAddress small, ptePpn_eq]
  unfold physicalAddress
  rw [BitVec.getLsbD_ofNat, Nat.mul_comm (_ / _), Nat.testBit_two_pow_mul_add _
      (Nat.mod_lt _ (Nat.two_pow_pos _))]
  simp only [small, decide_true, Bool.true_and]
  split
  · rw [Nat.testBit_mod_two_pow]
    simp [*, BitVec.getLsbD]
  · rename_i high
    rw [BitVec.getLsbD_setWidth, Nat.testBit_div_two_pow, BitVec.getLsbD,
      show i - (12 + 9 * level) + 9 * level = i - 12 by omega]
    simp [show i - 12 < 64 by omega]

end Sv39Algorithm

end RvEmulator.Core64
