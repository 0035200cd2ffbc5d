import RvEmulator.Mmu.Recorded

/-! Coherence of cached translations with the log of a run: an entry that may
still be used is fresh wherever the page tables have been left alone. -/

namespace RvEmulator

open Library

section

variable [CpuBus β] {paging : Paging w}

/-- Every entry on the way of an address has been left alone since the last full
SFENCE.VMA. -/
def Recorded.Trusted (paging : Paging w) (recorded : Recorded w β) (satp virtualAddress : BitVec w) :
    Prop :=
  ∀ address ∈ paging.path recorded.bus satp virtualAddress, recorded.EntryClean paging address

/-- What is trusted later in a step was trusted before, and nothing has changed
on its way but marks. -/
theorem Recorded.Trusted.earlier (lawful : LawfulPaging paging) {recorded later : Recorded w β}
    (grown : recorded.Grown later) {satp virtualAddress : BitVec w}
    (trusted : later.Trusted paging satp virtualAddress) :
    recorded.Trusted paging satp virtualAddress ∧
      paging.Unchanged AdUpdate recorded.bus later.bus satp virtualAddress := by
  induction grown with
  | refl => exact ⟨trusted, fun _ _ => .refl .refl _⟩
  | @step middle earlier command ih =>
    have agree : ∀ address ∈ paging.path (record command middle).2.bus satp virtualAddress,
        RadixFormat.Agree AdUpdate (paging.wordAt middle.bus address)
          (paging.wordAt (record command middle).2.bus address) := by
      intro address member
      have kept : BusEvent.KeepsEntry paging
          ⟨middle.satp, command, middle.bus, (record command middle).2.bus⟩ address :=
        trusted address member _ List.mem_cons_self
      exact RadixFormat.Agree.mono command.adUpdate_of_exempt kept
    obtain ⟨samePath, _⟩ := paging.format.resolve_of_agree_after (paging.harmless_adUpdate lawful)
      virtualAddress paging.levels (paging.tableAddress satp) false agree
    have before : middle.Trusted paging satp virtualAddress := by
      intro address member change older
      refine trusted address ?_ change (List.mem_cons_of_mem _ older)
      unfold Paging.path at member ⊢
      rw [← samePath]
      exact member
    obtain ⟨first, unchanged⟩ := ih before
    refine ⟨first, ?_⟩
    intro address member
    have onPath : address ∈ paging.path middle.bus satp virtualAddress := by
      obtain ⟨same, _⟩ := paging.format.resolve_of_agree (paging.harmless_adUpdate lawful)
        virtualAddress paging.levels (paging.tableAddress satp) false unchanged
      unfold Paging.path at member ⊢
      rw [same]
      exact member
    refine (unchanged address member).trans (agree address ?_) fun _ _ _ => AdUpdate.trans
    unfold Paging.path at onPath ⊢
    rw [← samePath]
    exact onPath

/-- A TLB entry that is fresh under every `satp` it serves, as far as the page
tables can be trusted. -/
def TlbEntry.Coherent (paging : Paging w) (satps : List (BitVec w)) (recorded : Recorded w β)
    (entry : TlbEntry w) : Prop :=
  ∀ satp ∈ satps, ∀ virtualAddress : BitVec w,
    virtualAddress >>> entry.pageShift.toNat = entry.virtualPage →
    (entry.global = true ∨ entry.rootPpn = satp &&& paging.satpPpn) →
    recorded.Trusted paging satp virtualAddress →
    ∃ found, entry.Fresh paging recorded.bus satp virtualAddress found

def Tlb.Coherent (paging : Paging w) (satps : List (BitVec w)) (recorded : Recorded w β)
    (tlb : Tlb w) : Prop :=
  ∀ index, (tlb.entries index).valid = true →
    (tlb.entries index).Coherent paging satps recorded

theorem TlbEntry.Coherent.later (lawful : LawfulPaging paging) {satps : List (BitVec w)}
    {recorded later : Recorded w β} (grown : recorded.Grown later) {entry : TlbEntry w}
    (coherent : entry.Coherent paging satps recorded) : entry.Coherent paging satps later := by
  intro satp used virtualAddress inPage scope trusted
  obtain ⟨before, unchanged⟩ := trusted.earlier lawful grown
  obtain ⟨found, fresh⟩ := coherent satp used virtualAddress inPage scope before
  obtain ⟨word, still⟩ := fresh.persists lawful unchanged
  exact ⟨_, still⟩

theorem Tlb.Coherent.later (lawful : LawfulPaging paging) {satps : List (BitVec w)}
    {recorded later : Recorded w β} (grown : recorded.Grown later) {tlb : Tlb w}
    (coherent : tlb.Coherent paging satps recorded) : tlb.Coherent paging satps later :=
  fun index valid => (coherent index valid).later lawful grown

/-- FENCE.I does not concern translations. -/
theorem Tlb.Coherent.fenceI {satps : List (BitVec w)} {recorded : Recorded w β} {tlb : Tlb w}
    (coherent : tlb.Coherent paging satps recorded) :
    tlb.Coherent paging satps { recorded with log := .fenceI :: recorded.log } :=
  coherent

theorem Tlb.Coherent.of_invalid {satps : List (BitVec w)} {recorded : Recorded w β} {tlb : Tlb w}
    (invalid : ∀ index, (tlb.entries index).valid = false) : tlb.Coherent paging satps recorded := by
  intro index valid
  rw [invalid index] at valid
  cases valid

omit [CpuBus β] in
/-- A fence of everything leaves no translation behind. -/
theorem Tlb.valid_sfenceVma (tlb : Tlb w) (index : Fin 64) :
    ((tlb.sfenceVma none none).entries index).valid = false := by
  simp only [Tlb.sfenceVma, Tlb.fenced, Bool.and_true]
  split
  · rfl
  · rename_i invalid
    simpa using invalid

theorem Tlb.Coherent.sfenceVma {satps : List (BitVec w)} {recorded : Recorded w β} {tlb : Tlb w}
    (coherent : tlb.Coherent paging satps recorded) (virtualAddress : Option (BitVec w))
    (asid : Option (BitVec 16)) :
    (tlb.sfenceVma virtualAddress asid).Coherent paging satps recorded := by
  intro index valid
  obtain ⟨same, _⟩ := Tlb.entries_of_sfenceVma tlb virtualAddress asid index valid
  rw [same] at valid ⊢
  exact coherent index valid

/-- The entry of a completed walk is coherent. A global one serves every root,
because all roots used map the address alike. -/
theorem Paging.Walked.coherent (lawful : LawfulPaging paging) {quiet : QuietBus β}
    (readsBack : paging.ReadsBack quiet) {context : TranslationContext w}
    {virtualAddress : BitVec w} {access : MemoryAccessType} {recorded later : Recorded w β}
    {found : Leaf PhysAddr (BitVec w)} {satps : List (BitVec w)} (grown : recorded.Grown later)
    (walked : paging.Walked quiet context virtualAddress access recorded.bus later.bus found)
    (used : context.satp ∈ satps)
    (agree : ∀ other, GlobalsAgree paging recorded.bus satps other) :
    (Tlb.entryFor paging context virtualAddress
        (paging.physicalAddress found.level found.word virtualAddress)
        (paging.metadata access found)).Coherent paging satps later := by
  intro satp member other inPage scope trusted
  obtain ⟨_, unchanged⟩ := trusted.earlier lawful grown
  have resolved := (paging.resolve_page lawful walked.resolved inPage).2
  rcases scope with global | root
  · have shared : found.shared = true := by
      rw [← paging.metadata_global walked.resolved access]
      exact global
    obtain ⟨own, alike⟩ := agree other context.satp used found resolved shared satp member
    exact ⟨_, walked.fresh lawful readsBack alike unchanged⟩
  · have alike : paging.resolve recorded.bus satp other = .leaf found :=
      (paging.resolve_root recorded.bus other root.symm).trans resolved
    exact ⟨_, walked.fresh lawful readsBack alike unchanged⟩

/-- In a disciplined run the cached translation does what the uncached one does,
and it keeps the TLB coherent. -/
theorem Tlb.Coherent.translate (lawful : LawfulPaging paging) {quiet : QuietBus β}
    (readsBack : paging.ReadsBack quiet) {satps : List (BitVec w)} {ram : PhysAddr → Prop}
    {recorded : Recorded w β} {bus : β} {tlb : Tlb w} (equal : quiet.same bus recorded.bus)
    (coherent : tlb.Coherent paging satps recorded) {context : TranslationContext w}
    (current : recorded.satp = context.satp) (virtualAddress : BitVec w)
    (access : MemoryAccessType)
    (disciplined : Disciplined paging ram satps
      (paging.translateAddress context virtualAddress access recorded).2.log) :
    let cached := Tlb.translate paging context virtualAddress access (bus, tlb)
    let reference := paging.translateAddress context virtualAddress access recorded
    cached.1 = reference.1 ∧ quiet.same cached.2.1 reference.2.bus ∧
      cached.2.2.Coherent paging satps reference.2 := by
  intro cached reference
  have memory := quiet.self_right equal
  have grown := paging.grown_translateAddress context virtualAddress access recorded
  obtain ⟨value, after, _⟩ :=
    paging.translateAddress_recorded quiet context virtualAddress access memory
  have trusted (active : paging.bare context = false)
      (canonical : paging.canonical virtualAddress = true) :=
    Recorded.clean_of_translate lawful memory active canonical disciplined
  have answered : cached.1 =
        (paging.translateAddress context virtualAddress access recorded.bus).1 ∧
      quiet.same cached.2.1
        (paging.translateAddress context virtualAddress access recorded.bus).2 := by
    refine Tlb.translate_of_fresh lawful equal ?_
    intro active canonical entry found
    obtain ⟨clean, used, _⟩ := trusted active canonical
    obtain ⟨index, rfl, hit⟩ := Tlb.mem_of_lookup found
    simp only [Tlb.hits, Bool.and_eq_true, beq_iff_eq, Bool.or_eq_true] at hit
    obtain ⟨⟨⟨⟨⟨⟨valid, _⟩, page⟩, scope⟩, _⟩, _⟩, _⟩ := hit
    rw [current] at used
    exact coherent index valid context.satp used virtualAddress page.symm
      (scope.imp id And.right) clean
  have same : quiet.same cached.2.1 reference.2.bus := by
    rw [after]
    exact answered.2
  refine ⟨answered.1.trans value.symm, same, ?_⟩
  intro index valid
  rcases Tlb.entries_of_translate quiet (quiet.self_left equal) index with
    old | ⟨active, canonical, found, walked, new⟩
  · rw [old] at valid ⊢
    exact (coherent index valid).later lawful grown
  · obtain ⟨_, used, agree⟩ := trusted active canonical
    rw [current] at used
    rw [new]
    exact Paging.Walked.coherent lawful readsBack grown (walked.same equal same) used agree

end

end RvEmulator
