import RvEmulator.Core32.Status
import RvEmulator.Core32.Translation
import RvEmulator.Mmu.LeafBits

/-! The address translation algorithm of the privileged architecture for Sv32, with
hardware updates of the accessed and dirty bits, stated on the fields of its formats
and on its 34-bit physical addresses; and how the masks and shifts of `mmu.cpp` read
these fields. -/

namespace RvEmulator.Core32

open Library

namespace Sv32Algorithm

/-- A page-table entry. The bits left for software have no field. -/
structure Entry where
  valid : Bool
  readable : Bool
  writable : Bool
  executable : Bool
  user : Bool
  accessed : Bool
  dirty : Bool
  ppn : BitVec 22
deriving DecidableEq, Repr

def Entry.ofWord (word : Xlen) : Entry where
  valid := word.getLsbD 0
  readable := word.getLsbD 1
  writable := word.getLsbD 2
  executable := word.getLsbD 3
  user := word.getLsbD 4
  accessed := word.getLsbD 6
  dirty := word.getLsbD 7
  ppn := word.extractLsb' 10 22

def vpn (virtualAddress : Xlen) (level : Nat) : BitVec 10 :=
  virtualAddress.extractLsb' (12 + 10 * level) 10

/-- Where an entry of the table at a page number lies. -/
def entryAddress (ppn : BitVec 22) (virtualAddress : Xlen) (level : Nat) : BitVec 34 :=
  BitVec.ofNat 34 (ppn.toNat * 4096 + (vpn virtualAddress level).toNat * 4)

inductive Walk where
  | pageFault
  | accessFault (fault : BusFault)
  | leaf (level : Nat) (address : BitVec 34) (word : Xlen)

/-- Steps 2 to 4, from the table of the level below the given one. -/
def walk (load : BitVec 34 → Except BusFault Xlen) (virtualAddress : Xlen) :
    Nat → BitVec 22 → Walk
  | 0, _ => .pageFault
  | level + 1, table =>
    match load (entryAddress table virtualAddress level) with
    | .error fault => .accessFault fault
    | .ok word =>
      let entry := Entry.ofWord word
      if ¬entry.valid ∨ (¬entry.readable ∧ entry.writable) then .pageFault
      else if entry.readable ∨ entry.executable then
        .leaf level (entryAddress table virtualAddress level) word
      else if entry.user ∨ entry.accessed ∨ entry.dirty then .pageFault
      else walk load virtualAddress level entry.ppn

/-- Step 5: supervisor pages are for the supervisor, and user pages for the user and,
under SUM, for the supervisor's data. -/
def PageAllows (entry : Entry) (privilege : PrivilegeMode) (sum : Bool) :
    MemoryAccessType → Prop
  | .instructionFetch => entry.user ↔ privilege = .user
  | _ => entry.user ∧ (privilege = .user ∨ sum) ∨ ¬entry.user ∧ privilege ≠ .user

/-- Step 5: the entry has the permission that the access needs. -/
def Permits (entry : Entry) (mxr : Bool) : MemoryAccessType → Prop
  | .instructionFetch => entry.executable
  | .load => entry.readable ∨ mxr ∧ entry.executable
  | .store => entry.writable

instance (entry : Entry) (privilege : PrivilegeMode) (sum : Bool) :
    (access : MemoryAccessType) → Decidable (PageAllows entry privilege sum access)
  | .instructionFetch => inferInstanceAs (Decidable (_ ↔ _))
  | .load | .store => inferInstanceAs (Decidable (_ ∨ _))

instance (entry : Entry) (mxr : Bool) :
    (access : MemoryAccessType) → Decidable (Permits entry mxr access)
  | .instructionFetch | .store => inferInstanceAs (Decidable (_ = true))
  | .load => inferInstanceAs (Decidable (_ ∨ _))

/-- Step 6: the page number of a superpage ends in zeros. -/
def Aligned (entry : Entry) (level : Nat) : Prop := entry.ppn.toNat % 2 ^ (10 * level) = 0

instance (entry : Entry) (level : Nat) : Decidable (Aligned entry level) :=
  inferInstanceAs (Decidable (_ = _))

/-- Step 7: the word with the accessed bit set, and for a store the dirty bit. -/
def mark (word : Xlen) : MemoryAccessType → Xlen
  | .store => word ||| 1 <<< 6 ||| 1 <<< 7
  | _ => word ||| 1 <<< 6

/-- Step 8: the low 12 or 22 bits are the virtual address's. -/
def physicalAddress (entry : Entry) (level : Nat) (virtualAddress : Xlen) : BitVec 34 :=
  BitVec.ofNat 34
    (entry.ppn.toNat / 2 ^ (10 * level) * 2 ^ (12 + 10 * level) +
      virtualAddress.toNat % 2 ^ (12 + 10 * level))

/-- The effective privilege: MPP for the loads and stores under MPRV. -/
def effectivePrivilege (privilege : PrivilegeMode) (mstatus : Xlen) :
    MemoryAccessType → PrivilegeMode
  | .instructionFetch => privilege
  | _ =>
    if mstatus.getLsbD 17 then
      match mstatus.getLsbD 12, mstatus.getLsbD 11 with
      | true, true => .machine
      | false, true => .supervisor
      | _, false => .user
    else privilege

/-- Steps 5 to 8. `store` is the answer of the bus to a write of an entry. -/
def atLeaf (store : BitVec 34 → Xlen → BusFault) (privilege : PrivilegeMode) (sum mxr : Bool)
    (virtualAddress : Xlen) (access : MemoryAccessType) (level : Nat) (address : BitVec 34)
    (word : Xlen) : TranslationResult × Option (BitVec 34 × Xlen) :=
  let entry := Entry.ofWord word
  let result := TranslationResult.ready
    ((physicalAddress entry level virtualAddress).setWidth 64)
  if ¬PageAllows entry privilege sum access ∨ ¬Permits entry mxr access ∨ ¬Aligned entry level then
    (.pageFault, none)
  else if entry.accessed ∧ (access = .store → entry.dirty) then (result, none)
  else
    match store address (mark word access) with
    | .none => (result, some (address, mark word access))
    | fault => (.accessFault fault, none)

/-- The translation, and the update that it makes in memory. -/
def translate (load : BitVec 34 → Except BusFault Xlen) (store : BitVec 34 → Xlen → BusFault)
    (satp mstatus : Xlen) (privilege : PrivilegeMode) (virtualAddress : Xlen)
    (access : MemoryAccessType) : TranslationResult × Option (BitVec 34 × Xlen) :=
  let effective := effectivePrivilege privilege mstatus access
  if effective = .machine ∨ ¬satp.getLsbD 31 then (.ready (virtualAddress.setWidth 64), none)
  else
    match walk load virtualAddress 2 (satp.extractLsb' 0 22) with
    | .pageFault => (.pageFault, none)
    | .accessFault fault => (.accessFault fault, none)
    | .leaf level address word =>
      atLeaf store effective (mstatus.getLsbD 18) (mstatus.getLsbD 19) virtualAddress access level
        address word

/-! ### The formats -/

/-- The page number of a word, in the width of the registers. -/
theorem ptePpn_eq (word : Xlen) : Sv32.ptePpn word = (Entry.ofWord word).ppn.setWidth 32 := by
  apply BitVec.eq_of_getLsbD_eq
  intro i inside
  unfold Sv32.ptePpn Entry.ofWord
  rw [BitVec.getLsbD_ushiftRight, BitVec.getLsbD_setWidth, BitVec.getLsbD_extractLsb']
  by_cases within : i < 22
  · simp [-BitVec.getLsbD_eq_getElem, inside, within]
  · rw [BitVec.getLsbD_of_ge word (10 + i) (by omega)]
    simp

/-- Page numbers are widened before they are shifted, so no bit is lost. -/
theorem toNat_tableAddress (ppn : BitVec 22) :
    (((ppn.setWidth 32).setWidth 64 : PhysAddr) <<< 12).toNat = ppn.toNat * 4096 := by
  have bounded := ppn.isLt
  rw [BitVec.toNat_shiftLeft, BitVec.toNat_setWidth, BitVec.toNat_setWidth, Nat.shiftLeft_eq]
  omega

theorem vpn_eq (virtualAddress : Xlen) {level : Nat} (inside : level < 2) :
    Sv32.vpn virtualAddress level = (vpn virtualAddress level).setWidth 32 := by
  have mask : ∀ i < 32, (0x3FF : Xlen).getLsbD i = decide (i < 10) := by decide
  rw [Sv32.vpn_eq_shift _ inside]
  apply BitVec.eq_of_getLsbD_eq
  intro i small
  unfold vpn
  rw [BitVec.getLsbD_and, BitVec.getLsbD_ushiftRight, mask i small, BitVec.getLsbD_setWidth,
    BitVec.getLsbD_extractLsb']
  simp only [small, decide_true, Bool.true_and]
  exact Bool.and_comm _ _

theorem entryAddress_eq (ppn : BitVec 22) (virtualAddress : Xlen) {level : Nat}
    (inside : level < 2) :
    sv32.entryAddress virtualAddress level ((ppn.setWidth 32).setWidth 64 <<< 12) =
      (entryAddress ppn virtualAddress level).setWidth 64 := by
  have table := toNat_tableAddress ppn
  have bounded := ppn.isLt
  have index := (vpn virtualAddress level).isLt
  have scaled : (((vpn virtualAddress level).setWidth 32).setWidth 64 * 4#64 : PhysAddr).toNat =
      (vpn virtualAddress level).toNat * 4 := by
    rw [BitVec.toNat_mul, BitVec.toNat_setWidth, BitVec.toNat_setWidth]
    simp
    omega
  have narrow : ppn.toNat * 4096 + (vpn virtualAddress level).toNat * 4 < 2 ^ 34 := by omega
  apply BitVec.eq_of_toNat_eq
  unfold entryAddress
  simp only [sv32]
  rw [vpn_eq _ inside, BitVec.toNat_add, table, BitVec.toNat_setWidth, BitVec.toNat_ofNat,
    Nat.mod_eq_of_lt narrow]
  congr 2

theorem bare_iff (satp mstatus : Xlen) (privilege : PrivilegeMode) :
    sv32.bare ⟨sanitizeSatp satp, privilege, mstatus⟩ = true ↔
      privilege = .machine ∨ ¬satp.getLsbD 31 = true := by
  have clear : ∀ value : Xlen, value &&& SatpBits.mode = 0 ↔ ¬value.getLsbD 31 = true := by
    intro value
    have bit : flag value SatpBits.mode = value.getLsbD 31 := flag_shift value 31
    rw [← bit]
    simp [flag]
  unfold Paging.bare
  dsimp only [sv32]
  rw [Bool.or_eq_true, beq_iff_eq, beq_iff_eq, clear]
  unfold sanitizeSatp
  split
  · rename_i zero
    simp [-BitVec.getLsbD_eq_getElem, (clear satp).mp zero]
  · rename_i nonzero
    rw [clear, not_not] at nonzero
    have kept : (SatpBits.mode ||| satp &&& (SatpBits.asid ||| SatpBits.ppn)).getLsbD 31 = true := by
      rw [BitVec.getLsbD_or, show SatpBits.mode.getLsbD 31 = true by decide, Bool.true_or]
    simp only [kept, nonzero]

theorem rootTable_eq {satp : Xlen} (mode : satp.getLsbD 31 = true) :
    sv32.tableAddress (sanitizeSatp satp) =
      ((satp.extractLsb' 0 22).setWidth 32).setWidth 64 <<< 12 := by
  have masks : ∀ i < 32, SatpBits.ppn.getLsbD i = decide (i < 22) ∧
      (SatpBits.ppn.getLsbD i = true → SatpBits.mode.getLsbD i = false) := by decide
  have nonzero : satp &&& SatpBits.mode ≠ 0 := by
    have bit : flag satp SatpBits.mode = satp.getLsbD 31 := flag_shift satp 31
    rw [mode] at bit
    simpa [flag] using bit
  have kept : sanitizeSatp satp &&& SatpBits.ppn = (satp.extractLsb' 0 22).setWidth 32 := by
    unfold sanitizeSatp
    rw [if_neg nonzero]
    apply BitVec.eq_of_getLsbD_eq
    intro i inside
    obtain ⟨ppn, apart⟩ := masks i inside
    rw [BitVec.getLsbD_and, BitVec.getLsbD_or, BitVec.getLsbD_and, BitVec.getLsbD_or,
      BitVec.getLsbD_setWidth, BitVec.getLsbD_extractLsb']
    by_cases low : i < 22
    · have set : SatpBits.ppn.getLsbD i = true := by simp [ppn, low]
      simp [-BitVec.getLsbD_eq_getElem, set, apart set, low, inside]
    · have unset : SatpBits.ppn.getLsbD i = false := by simp [ppn, low]
      simp [-BitVec.getLsbD_eq_getElem, unset, low]
  unfold Paging.tableAddress
  dsimp only [sv32]
  rw [kept]

/-- The bits of a sanitized status that decide the effective privilege. -/
theorem getLsbD_mprv_mpp (mstatus : Xlen) :
    (sanitizeMstatus mstatus).getLsbD 17 = mstatus.getLsbD 17 ∧
      (sanitizeMstatus mstatus).getLsbD 11 = mstatus.getLsbD 11 ∧
      (sanitizeMstatus mstatus).getLsbD 12 = (mstatus.getLsbD 11 && mstatus.getLsbD 12) := by
  refine ⟨Status.getLsbD_sanitizeMstatus_kept mstatus (by decide), ?_, ?_⟩
  · rw [Status.getLsbD_sanitizeMstatus, show MstatusBits.implemented.getLsbD 11 = true by decide]
    unfold Status.reserved
    cases mstatus.getLsbD 11 <;> cases mstatus.getLsbD 12 <;> rfl
  · rw [Status.getLsbD_sanitizeMstatus, show MstatusBits.implemented.getLsbD 12 = true by decide]
    unfold Status.reserved
    cases mstatus.getLsbD 11 <;> cases mstatus.getLsbD 12 <;> rfl

theorem effectivePrivilege_eq (state : CpuSnapshot) (access : MemoryAccessType) :
    Core32.effectivePrivilege state access =
      effectivePrivilege state.privilege state.machineCsrs.mstatus access := by
  obtain ⟨mprv, low, high⟩ := getLsbD_mprv_mpp state.machineCsrs.mstatus
  have modified : flag (sanitizeMstatus state.machineCsrs.mstatus) MstatusBits.mprv =
      state.machineCsrs.mstatus.getLsbD 17 := by
    unfold MstatusBits.mprv
    rw [flag_shift, mprv]
  have previous : PrivilegeMode.ofCode?
      ((sanitizeMstatus state.machineCsrs.mstatus &&& MstatusBits.mpp) >>>
        MstatusBits.mppShift) =
      match state.machineCsrs.mstatus.getLsbD 12, state.machineCsrs.mstatus.getLsbD 11 with
      | true, true => some .machine
      | false, true => some .supervisor
      | _, false => some .user := by
    unfold MstatusBits.mpp
    rw [twoBits]
    unfold MstatusBits.mppShift
    rw [low, high]
    cases state.machineCsrs.mstatus.getLsbD 11 <;>
      cases state.machineCsrs.mstatus.getLsbD 12 <;> decide
  unfold Core32.effectivePrivilege
  dsimp only
  rw [modified, previous]
  cases access with
  | instructionFetch => rfl
  | load | store =>
    unfold effectivePrivilege
    cases state.machineCsrs.mstatus.getLsbD 17 <;>
      cases state.machineCsrs.mstatus.getLsbD 11 <;>
      cases state.machineCsrs.mstatus.getLsbD 12 <;> rfl

/-! ### The checks at a leaf -/

theorem misaligned_iff {level : Nat} (inside : level < 2) (word : Xlen) :
    sv32.misaligned level word = true ↔ ¬Aligned (Entry.ofWord word) level := by
  match level, inside with
  | 0, _ => simp [sv32, Aligned, Nat.mod_one]
  | 1, _ =>
    have low : (Sv32.ptePpn word &&& 0x3FF).toNat = (Entry.ofWord word).ppn.toNat % 2 ^ (10 * 1) := by
      have bounded := (Entry.ofWord word).ppn.isLt
      rw [ptePpn_eq, BitVec.toNat_and, BitVec.toNat_setWidth,
        Nat.mod_eq_of_lt (show (Entry.ofWord word).ppn.toNat < 2 ^ 32 by omega)]
      exact Nat.and_two_pow_sub_one_eq_mod _ 10
    have flagged : sv32.misaligned 1 word = (Sv32.ptePpn word &&& 0x3FF != 0) := rfl
    rw [flagged, bne_iff_ne, Aligned, ← low, ne_eq, BitVec.toNat_eq]
    rfl

theorem privilegeAllows_iff {word mstatus : Xlen} {privilege : PrivilegeMode}
    {access : MemoryAccessType} (below : privilege ≠ .machine) :
    privilegeAllows word privilege access mstatus = true ↔
      PageAllows (Entry.ofWord word) privilege (mstatus.getLsbD 18) access ∧
        Permits (Entry.ofWord word) (mstatus.getLsbD 19) access := by
  rw [privilegeAllows_bits below]
  cases access <;> rfl

theorem updatedPte_eq (word : Xlen) (access : MemoryAccessType) :
    updatedPte word access = mark word access := by
  cases access <;> rfl

theorem physicalAddress_eq {level : Nat} (inside : level < 2) (word virtualAddress : Xlen) :
    sv32.physicalAddress level word virtualAddress =
      (physicalAddress (Entry.ofWord word) level virtualAddress).setWidth 64 := by
  apply BitVec.eq_of_getLsbD_eq
  intro i small
  dsimp only [sv32]
  rw [Sv32.getLsbD_physicalAddress inside word virtualAddress small, ptePpn_eq]
  unfold physicalAddress
  rw [BitVec.getLsbD_setWidth, BitVec.getLsbD_setWidth, BitVec.getLsbD_ofNat,
    Nat.mul_comm (_ / _), Nat.testBit_two_pow_mul_add _ (Nat.mod_lt _ (Nat.two_pow_pos _))]
  simp only [small, decide_true, Bool.true_and]
  by_cases low : i < 12 + 10 * level
  · rw [if_pos low, if_pos low, Nat.testBit_mod_two_pow]
    simp [low, BitVec.getLsbD, show i < 34 by omega]
  · rw [if_neg low, if_neg low, Nat.testBit_div_two_pow,
      show i - (12 + 10 * level) + 10 * level = i - 12 by omega]
    by_cases within : i < 34
    · simp [within, BitVec.getLsbD, show i - 12 < 32 by omega]
    · rw [BitVec.getLsbD_of_ge _ (i - 12) (by omega)]
      simp [within]

end Sv32Algorithm

end RvEmulator.Core32
