import RvEmulator.Core64.Sv39Algorithm

/-! `translate_address` computes the algorithm of the privileged architecture. -/

namespace RvEmulator.Core64

open Library

namespace Sv39Algorithm

/-! ### The walk -/

/-- What a resolution through the tables is called here. -/
def Walk.ofResolution : Resolution PhysAddr Xlen BusFault → Walk
  | .fault reason => .accessFault reason
  | .invalid => .pageFault
  | .leaf found => .leaf found.level found.address found.word

theorem classify_eq (level : Nat) (word : Xlen) :
    sv39.classify level word =
      if ¬(Entry.ofWord word).valid ∨
          (¬(Entry.ofWord word).readable ∧ (Entry.ofWord word).writable) ∨
          (Entry.ofWord word).reserved ≠ 0 then .invalid
      else if (Entry.ofWord word).readable ∨ (Entry.ofWord word).executable then
        .leaf (flag word PteBits.global)
      else if ((Entry.ofWord word).user ∨ (Entry.ofWord word).accessed ∨
          (Entry.ofWord word).dirty) ∨ level = 0 then .invalid
      else .table ((Entry.ofWord word).ppn.setWidth 64 <<< 12) (flag word PteBits.global) := by
  have pointer : flag word (PteBits.user ||| PteBits.accessed ||| PteBits.dirty) = true ↔
      ((Entry.ofWord word).user ∨ (Entry.ofWord word).accessed ∨ (Entry.ofWord word).dirty) := by
    rw [flag_pointer, Bool.or_eq_true, Bool.or_eq_true, or_assoc]
    rfl
  have reserved : flag word sv39.reserved = true ↔ (Entry.ofWord word).reserved ≠ 0 :=
    reserved_iff word
  have next : sv39.nextTable word = (Entry.ofWord word).ppn.setWidth 64 <<< 12 := by
    dsimp only [sv39]
    rw [ptePpn_eq]
  unfold Paging.classify
  rw [next]
  simp only [Bool.or_eq_true, reserved, pointer, PteBits.valid, PteBits.read, PteBits.write,
    PteBits.execute, flag_shift]
  unfold Entry.ofWord
  cases word.getLsbD 1 <;> cases word.getLsbD 3 <;> cases word.getLsbD 0 <;>
    cases word.getLsbD 2 <;> simp

theorem walk_eq (load : PhysAddr → Except BusFault Xlen) (virtualAddress : Xlen) (levels : Nat)
    (table : BitVec 44) (shared : Bool) :
    walk load virtualAddress levels table =
      Walk.ofResolution (sv39.format.resolve load virtualAddress levels
        (table.setWidth 64 <<< 12) shared) := by
  induction levels generalizing table shared with
  | zero => rfl
  | succ level ih =>
    have entry : sv39.format.entry virtualAddress level (table.setWidth 64 <<< 12) =
        entryAddress table virtualAddress level := entryAddress_eq table virtualAddress level
    have classify : ∀ word, sv39.format.classify level word = _ := classify_eq level
    rw [walk, RadixFormat.resolve, entry]
    cases load (entryAddress table virtualAddress level) with
    | error fault => rfl
    | ok word =>
      dsimp only
      rw [classify]
      split
      · rfl
      split
      · rfl
      by_cases pointer : (Entry.ofWord word).user ∨ (Entry.ofWord word).accessed ∨
          (Entry.ofWord word).dirty
      · rw [if_pos pointer, if_pos (.inl pointer)]
        rfl
      · rw [if_neg pointer]
        cases level with
        | zero =>
          rw [if_pos (.inr rfl)]
          rfl
        | succ level =>
          rw [if_neg (not_or.mpr ⟨pointer, Nat.succ_ne_zero level⟩)]
          exact ih _ _

/-! ### The translation -/

section

variable [CpuBus β]

/-- The doubleword at an address, as a page walk reads it. -/
def load (bus : β) (address : PhysAddr) : Except BusFault Xlen :=
  let result := (CpuBus.read address .doubleWord .pageTableWalk bus).1
  if result.ok then .ok result.value else .error result.fault

/-- The answer to a page walk's write of a doubleword. -/
def store (bus : β) (address : PhysAddr) (word : Xlen) : BusFault :=
  (CpuBus.write address .doubleWord word .pageTableWalk bus).1

theorem load_eq (bus : β) : load bus = sv39.wordAt bus := by
  funext address
  unfold load Paging.wordAt
  simp only [BitVec.setWidth_eq]
  rfl

/-- The algorithm on a bus: the result, and the memory after it. -/
def Computes (ram : RamLike β) (bus : β) (answer : TranslationResult × β)
    (outcome : TranslationResult × Option (PhysAddr × Xlen)) : Prop :=
  answer.1 = outcome.1 ∧
    ram.contents answer.2 =
      match outcome.2 with
      | none => ram.contents bus
      | some (address, word) => (ram.contents bus).put address 8 word

theorem computes_leaf (ram : RamLike β) {bus reached : β} (equal : ram.same reached bus)
    {context : TranslationContext 64} (below : context.privilege ≠ .machine)
    (virtualAddress : Xlen) (access : MemoryAccessType) (found : Leaf PhysAddr Xlen)
    (inside : found.level < 3) :
    Computes ram bus
      ((sv39.finish context virtualAddress access (.leaf found) reached).1.1,
        (sv39.finish context virtualAddress access (.leaf found) reached).2)
      (if ¬Permitted (Entry.ofWord found.word) context.privilege (context.mstatus.getLsbD 18)
            (context.mstatus.getLsbD 19) access ∨
          ¬Aligned (Entry.ofWord found.word) found.level then (.pageFault, none)
        else if (Entry.ofWord found.word).accessed ∧
            (access = .store → (Entry.ofWord found.word).dirty) then
          (.ready (physicalAddress (Entry.ofWord found.word) found.level virtualAddress), none)
        else if store bus found.address (mark found.word access) ≠ .none then
          (.accessFault (store bus found.address (mark found.word access)), none)
        else
          (.ready (physicalAddress (Entry.ofWord found.word) found.level virtualAddress),
            some (found.address, mark found.word access))) := by
  have write := ram.perform (.write found.address .doubleWord (mark found.word access)
    .pageTableWalk) equal
  have marking : sv39.markLeaf access found reached =
      CpuBus.write found.address .doubleWord (mark found.word access) .pageTableWalk reached := by
    unfold Paging.markLeaf
    rw [updatedPte_eq, BitVec.setWidth_eq]
    rfl
  have fault : (sv39.markLeaf access found reached).1 =
      store bus found.address (mark found.word access) := by
    rw [marking]
    exact write.1
  have after : ram.contents (sv39.markLeaf access found reached).2 = ram.contents
      (CpuBus.write found.address .doubleWord (mark found.word access) .pageTableWalk bus).2 := by
    rw [marking]
    exact ram.contents_same write.2
  have self := ram.self_right equal
  rw [sv39.finishWalk_written, physicalAddress_eq inside, fault]
  have refused : (sv39.misaligned found.level found.word ||
      !privilegeAllows found.word context.privilege access context.mstatus) = true ↔
      ¬Permitted (Entry.ofWord found.word) context.privilege (context.mstatus.getLsbD 18)
          (context.mstatus.getLsbD 19) access ∨ ¬Aligned (Entry.ofWord found.word) found.level := by
    rw [Bool.or_eq_true, misaligned_iff inside, Bool.not_eq_true', ← Bool.not_eq_true,
      privilegeAllows_iff below, or_comm]
  simp only [refused, ne_eq, updatedPte_eq_self_iff]
  split
  · exact ⟨rfl, ram.contents_same equal⟩
  split
  · split
    · rename_i failed
      exact ⟨rfl, after.trans (ram.refused self failed)⟩
    · rename_i stored
      exact ⟨rfl, after.trans (ram.written self (not_not.mp stored))⟩
  · rename_i clean
    rw [if_pos (not_not.mp clean)]
    exact ⟨rfl, ram.contents_same equal⟩

end

end Sv39Algorithm

/-- Translation is the algorithm of the privileged architecture, and its one effect on
memory is the update that the algorithm makes in the leaf entry. -/
theorem translateAddress_sv39 [CpuBus β] (ram : RamLike β) (bus : β) (memory : ram.same bus bus)
    (state : CpuSnapshot) (virtualAddress : Xlen) (access : MemoryAccessType) :
    Sv39Algorithm.Computes ram bus (translateAddress state virtualAddress access bus)
      (Sv39Algorithm.translate (Sv39Algorithm.load bus) (Sv39Algorithm.store bus)
        state.supervisorCsrs.satp state.machineCsrs.mstatus state.privilege virtualAddress
        access) := by
  unfold translateAddress Paging.translateAddress Sv39Algorithm.translate translationContext
  rw [Sv39Algorithm.effectivePrivilege_eq]
  generalize Sv39Algorithm.effectivePrivilege state.privilege state.machineCsrs.mstatus access =
    privilege
  dsimp only
  have bare := Sv39Algorithm.bare_iff state.supervisorCsrs.satp state.machineCsrs.mstatus privilege
  by_cases identity : privilege = .machine ∨ state.supervisorCsrs.satp.extractLsb' 60 4 ≠ 8
  · rw [if_pos (bare.mpr identity), if_pos identity]
    exact ⟨rfl, rfl⟩
  rw [if_neg (fun holds => identity (bare.mp holds)), if_neg identity]
  obtain ⟨below, mode⟩ := not_or.mp identity
  rw [not_not] at mode
  have canonical : (!sv39.canonical virtualAddress) = true ↔
      ¬Sv39Algorithm.Canonical virtualAddress := by
    rw [← Sv39Algorithm.canonical_iff, Bool.not_eq_true', ← Bool.not_eq_true]
    rfl
  by_cases outside : ¬Sv39Algorithm.Canonical virtualAddress
  · rw [if_pos (canonical.mpr outside), if_pos outside]
    exact ⟨rfl, rfl⟩
  rw [if_neg (fun holds => outside (canonical.mp holds)), if_neg outside]
  obtain ⟨reached, equal, walked⟩ := sv39.walkAddress_eq ram.toQuietBus
    ⟨sanitizeSatp state.supervisorCsrs.satp, privilege, state.machineCsrs.mstatus⟩
    virtualAddress access memory
  have spec := Sv39Algorithm.walk_eq (Sv39Algorithm.load bus) virtualAddress 3
    (state.supervisorCsrs.satp.extractLsb' 0 44) false
  rw [← Sv39Algorithm.rootTable_eq mode] at spec
  have first : ∀ walk : StateM β (TranslationResult × WalkMetadata 64),
      (Prod.fst <$> walk) bus = ((walk bus).1.1, (walk bus).2) := fun _ => rfl
  have table : sv39.format.resolve (sv39.wordAt bus) virtualAddress 3
      (sv39.tableAddress (sanitizeSatp state.supervisorCsrs.satp)) false =
        sv39.resolve bus (sanitizeSatp state.supervisorCsrs.satp) virtualAddress := rfl
  rw [first, walked, spec, Sv39Algorithm.load_eq, table]
  cases resolved : sv39.resolve bus (sanitizeSatp state.supervisorCsrs.satp) virtualAddress with
  | fault reason => exact ⟨rfl, ram.contents_same equal⟩
  | invalid => exact ⟨rfl, ram.contents_same equal⟩
  | leaf found =>
    exact Sv39Algorithm.computes_leaf ram equal below virtualAddress access found
      (Paging.level_lt resolved)

/-- A store through the superpage of the sample tables sets the dirty bit of its entry. -/
theorem translateAddress_sv39_sample :
    Sv39Algorithm.Computes Platform.SystemBus.ramLike sampleTables
      (translateAddress sampleState 0x1000 .store sampleTables)
      (Sv39Algorithm.translate (Sv39Algorithm.load sampleTables) (Sv39Algorithm.store sampleTables)
        sampleState.supervisorCsrs.satp sampleState.machineCsrs.mstatus sampleState.privilege
        0x1000 .store) :=
  translateAddress_sv39 Platform.SystemBus.ramLike sampleTables
    (.self (Platform.SystemBus.layout_ofProgram _ ⟨by decide, by decide⟩)) sampleState 0x1000 .store

end RvEmulator.Core64
