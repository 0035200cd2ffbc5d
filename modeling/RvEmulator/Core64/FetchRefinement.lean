import RvEmulator.Core64.Outcome
import RvEmulator.Core64.Translation
import RvEmulator.Mmu.Mirroring

/-! A fetch through the caches and the uncached fetch return the same instruction, as long
as the recorded run is disciplined. -/

namespace RvEmulator.Core64

open Library

/-! ### What a core is compared with -/

section

variable [CpuBus β] (quiet : QuietBus β) (ram : PhysAddr → Prop) (satps : List Xlen)

/-- Any instruction may be kept, also an invalid one. -/
abbrev setting : Setting 64 DecodedInstruction β where
  paging := sv39
  lawful := lawful_sv39
  direct := decodeDirect
  admitted _ := True
  quiet
  ram
  satps

abbrev Related : Xlen → Fabric β → Fabric (Recorded 64 β) → Prop := (setting quiet ram satps).Related

abbrev guard : Exec.Guard (Fabric (Recorded 64 β)) := CoreFabric.guard sv39 ram satps

abbrev Mirrors (satp : Xlen) (x : Instr β α) (y : Instr (Recorded 64 β) α) : Prop :=
  (setting quiet ram satps).Mirrors satp x y

variable {quiet ram satps}

theorem mirrors_translate (mode : ExecutionMode) (state : CpuSnapshot)
    (readsBack : sv39.ReadsBack quiet) (virtualAddress : Xlen) (access : MemoryAccessType) :
    Mirrors quiet ram satps (sanitizeSatp state.supervisorCsrs.satp)
      (translate mode state virtualAddress access)
      (translate .reference state virtualAddress access) := by
  cases mode with
  | reference => exact .walk (setting quiet ram satps) (translationContext state access) _ _
  | fast =>
    exact .cached (setting quiet ram satps) readsBack (translationContext state access) rfl _ _

end

variable [CpuBus β] {quiet : QuietBus β} {ram : PhysAddr → Prop} {satps : List Xlen}
  {state : CpuSnapshot}

/-- SUM, MXR and MPRV have no say in a fetch. -/
theorem translationContext_fetch (state : CpuSnapshot) :
    translationContext state .instructionFetch =
      ⟨sanitizeSatp state.supervisorCsrs.satp, state.privilege, state.machineCsrs.mstatus⟩ := by
  rw [translationContext, effectivePrivilege, if_pos (.inl rfl)]

/-! ### The uncached fetch -/

/-- The translation of the address and the read, as they leave the recording bus. -/
theorem fetchHalfword_eq (state : CpuSnapshot) (virtualAddress : Xlen) (fetched : BitVec 32)
    (reference : Fabric (Recorded 64 β)) {translation : TranslationResult}
    {reached : Recorded 64 β}
    (translated : translateAddress state virtualAddress .instructionFetch reference.bus =
      (translation, reached)) :
    fetchHalfword .reference state virtualAddress fetched reference =
      if !translation.isReady then
        (.error ⟨if translation.status = .pageFault then .instructionPageFault
          else .instructionAccessFault, fetched, virtualAddress, translation.busFault⟩,
          { reference with bus := reached })
      else
        let read := record (.read translation.physicalAddress .halfWord .instructionFetch) reached
        if !(halfwordAt reached.bus translation.physicalAddress).ok then
          (.error ⟨.instructionAccessFault, fetched, virtualAddress,
            (halfwordAt reached.bus translation.physicalAddress).fault⟩,
            { reference with bus := read.2 })
        else
          (.ok (translation.physicalAddress,
            (halfwordAt reached.bus translation.physicalAddress).value.setWidth 16),
            { reference with bus := read.2 }) := by
  have first : translate .reference state virtualAddress .instructionFetch reference =
      (.ok translation, { reference with bus := reached }) := by
    change (Except.ok _, _) = _
    dsimp only
    rw [translated]
  unfold fetchHalfword
  rw [Exec.bind_ok first]
  by_cases ready : (!translation.isReady) = true
  · rw [if_pos ready, if_pos ready]
    rfl
  have second : onBus (CpuBus.read translation.physicalAddress .halfWord .instructionFetch)
      { reference with bus := reached } =
        ((.ok (halfwordAt reached.bus translation.physicalAddress), { reference with
          bus := (record (.read translation.physicalAddress .halfWord .instructionFetch)
            reached).2 }) : Except Trap ReadResult × _) := rfl
  rw [if_neg ready, if_neg ready, Exec.bind_ok second]
  split <;> rfl

/-- What a fetch leaves behind of its address is coherent, if it is in memory. -/
theorem coherent_fetchHalfword (readsBack : sv39.ReadsBack quiet) {virtualAddress : Xlen}
    {fetched : BitVec 32} {reference after : Fabric (Recorded 64 β)} {address : PhysAddr}
    {value : BitVec 16} (memory : quiet.same reference.bus.bus reference.bus.bus)
    (returned : fetchHalfword .reference state virtualAddress fetched reference =
      (.ok (address, value), after)) (inRam : ram address) :
    HalfwordCoherent sv39 ram after.bus (sanitizeSatp state.supervisorCsrs.satp) state.privilege
      virtualAddress value := by
  rcases translated : translateAddress state virtualAddress .instructionFetch reference.bus with
    ⟨translation, reached⟩
  rw [fetchHalfword_eq state virtualAddress fetched reference translated] at returned
  split at returned
  · cases returned
  rename_i ready
  dsimp only at returned
  split at returned
  · cases returned
  rename_i succeeded
  cases returned
  rw [Bool.not_eq_true, Bool.not_eq_false'] at ready succeeded
  rw [translateAddress, translationContext_fetch] at translated
  exact (HalfwordCoherent.of_fetch lawful_sv39 (by decide) readsBack memory translated ready
    (fun _ _ => inRam) succeeded).later lawful_sv39 (.step .refl _)

/-- In a disciplined run the uncached fetch of a coherent halfword finds it. -/
theorem fetchHalfword_coherent {virtualAddress : Xlen} {fetched : BitVec 32}
    {reference : Fabric (Recorded 64 β)} {value : BitVec 16}
    (memory : quiet.same reference.bus.bus reference.bus.bus)
    (coherent : HalfwordCoherent sv39 ram reference.bus (sanitizeSatp state.supervisorCsrs.satp)
      state.privilege virtualAddress value)
    (disciplined : Disciplined sv39 ram satps
      (fetchHalfword .reference state virtualAddress fetched reference).2.bus.log) :
    ∃ address after,
      fetchHalfword .reference state virtualAddress fetched reference =
        (.ok (address, value), { reference with bus := after }) ∧
      reference.bus.Grown after ∧ quiet.same reference.bus.bus after.bus := by
  rcases translated : translateAddress state virtualAddress .instructionFetch reference.bus with
    ⟨translation, reached⟩
  have whole := fetchHalfword_eq state virtualAddress fetched reference translated
  rw [translateAddress, translationContext_fetch] at translated
  -- the log of the translation is a part of the log of the fetch
  have logs : Disciplined sv39 ram satps reached.log ∧ (translation.isReady = true →
      Disciplined sv39 ram satps
        (record (.read translation.physicalAddress .halfWord .instructionFetch) reached).2.log) := by
    rw [whole] at disciplined
    split at disciplined
    · rename_i failed
      refine ⟨disciplined, fun ready => ?_⟩
      rw [ready] at failed
      cases failed
    · dsimp only at disciplined
      split at disciplined <;> exact ⟨disciplined.earlier (.step .refl _), fun _ => disciplined⟩
  obtain ⟨before, logged⟩ := logs
  rw [← show _ = reached from congrArg Prod.snd translated] at before
  obtain ⟨address, other, inRam, found, grown, same, held⟩ :=
    coherent.fetch lawful_sv39 memory before
  rw [translated] at found
  cases found
  obtain ⟨succeeded, rfl⟩ := held (logged rfl)
  have answered : ¬(!(halfwordAt reached.bus address).ok) = true := by
    rw [succeeded]
    exact Bool.false_ne_true
  refine ⟨address, _, whole.trans ((if_neg Bool.false_ne_true).trans (if_neg answered)),
    grown.trans (.step .refl _), quiet.trans same ?_⟩
  exact quiet.quiet _ _ _ (quiet.self_right same)

/-! ### The fetch through the caches -/

variable {satp : Xlen}

section

variable (mode : ExecutionMode) (state : CpuSnapshot) (readsBack : sv39.ReadsBack quiet)

include readsBack in
theorem mirrors_fetchHalfword (virtualAddress : Xlen) (fetched : BitVec 32) :
    Mirrors quiet ram satps (sanitizeSatp state.supervisorCsrs.satp)
      (fetchHalfword mode state virtualAddress fetched)
      (fetchHalfword .reference state virtualAddress fetched) :=
  .bind (mirrors_translate mode state readsBack virtualAddress .instructionFetch) fun _ =>
    .ite (.stop _) (.bind (.read _ _ _) fun _ => .ite (.stop _) (.pure _))

/-- What the uncached fetch of a halfword has shown, if it was in memory. -/
def HalfwordKnown (ram : PhysAddr → Prop) (state : CpuSnapshot) (virtualAddress : Xlen)
    (halfword : PhysAddr × BitVec 16) (reference : Fabric (Recorded 64 β)) : Prop :=
  ram halfword.1 → HalfwordCoherent sv39 ram reference.bus
    (sanitizeSatp state.supervisorCsrs.satp) state.privilege virtualAddress halfword.2

/-- A halfword that is to be kept is coherent. -/
def HalfwordKept (ram : PhysAddr → Prop) (state : CpuSnapshot) (virtualAddress : Xlen)
    (value : BitVec 16) (keeps : Bool) (reference : Fabric (Recorded 64 β)) : Prop :=
  keeps = true → HalfwordCoherent sv39 ram reference.bus
    (sanitizeSatp state.supervisorCsrs.satp) state.privilege virtualAddress value

theorem HalfwordKept.later (ram : PhysAddr → Prop) (state : CpuSnapshot) (virtualAddress : Xlen)
    (value : BitVec 16) (keeps : Bool) (before after : Fabric (Recorded 64 β))
    (grown : before.bus.Grown after.bus)
    (kept : HalfwordKept ram state virtualAddress value keeps before) :
    HalfwordKept ram state virtualAddress value keeps after :=
  fun keep => HalfwordCoherent.later lawful_sv39 grown (kept keep)

/-- Decoding through the decode cache. -/
theorem refines_decode (instruction : BitVec 32) (length : BitVec 8) :
    Exec.Refines (guard ram satps) (Related quiet ram satps satp)
      (decode mode instruction length) (decode .reference instruction length)
      (fun a b fabric reference => (a = b ∧ b = decodeDirect instruction length) ∧
        Related quiet ram satps satp fabric reference)
      (Related quiet ram satps satp) := by
  cases mode with
  | reference => exact Exec.Refines.pure fun _ _ related => ⟨⟨rfl, rfl⟩, related⟩
  | fast =>
    refine ⟨fun _ => .refl, fun fabric reference related _ => .ok ?_⟩
    obtain ⟨same, faithful⟩ := DecodeCache.decode_faithful related.decodeCache
      (decodeIndex instruction length) instruction length
    exact ⟨⟨same, rfl⟩, { related with decodeCache := faithful }⟩

/-- The end of a fetch. -/
theorem refines_decoded (instruction : BitVec 32) (length : BitVec 8) (keeps other : Bool)
    {kept : Fabric (Recorded 64 β) → Prop}
    (stable : ∀ before after : Fabric (Recorded 64 β), before.bus.Grown after.bus →
      kept before → kept after) :
    Exec.Refines (guard ram satps)
      (fun fabric reference => Related quiet ram satps satp fabric reference ∧ kept reference)
      (decode mode instruction length >>= fun decoded => pure (instruction, decoded, keeps))
      (decode .reference instruction length >>= fun decoded => pure (instruction, decoded, other))
      (fun a b fabric reference => (a = (instruction, decodeDirect instruction length, keeps) ∧
          b = (instruction, decodeDirect instruction length, other)) ∧
        Related quiet ram satps satp fabric reference ∧ kept reference)
      (Related quiet ram satps satp) := by
  refine Exec.Refines.bind ((refines_decode mode instruction length).frame stable) fun a b =>
    Exec.Refines.pure ?_
  rintro fabric reference ⟨⟨⟨rfl, rfl⟩, related⟩, kept⟩
  exact ⟨⟨rfl, rfl⟩, related, kept⟩

/-- Only the fetch through the caches asks where the instruction lies. -/
theorem refines_cacheable {kept : Fabric (Recorded 64 β) → Prop}
    (onlyRam : ∀ (bus : β) address, CpuBus.instructionCacheable bus address = true → ram address)
    (mayUse other : Bool) (address : PhysAddr) :
    Exec.Refines (guard ram satps)
      (fun fabric reference => Related quiet ram satps satp fabric reference ∧ kept reference)
      (cacheable mayUse address) (cacheable other address)
      (fun a _ fabric reference => (a = true → mayUse = true ∧ ram address) ∧
        Related quiet ram satps satp fabric reference ∧ kept reference)
      (Related quiet ram satps satp) := by
  refine Exec.Refines.lift (fun _ => .refl) fun fabric reference related _ => ⟨?_, related⟩
  intro keeps
  rw [Bool.and_eq_true] at keeps
  exact ⟨keeps.1, onlyRam fabric.bus address keeps.2⟩

/-- A fetched instruction: the fetch through the caches also tells whether all of it lies
in memory, and then it may be kept. -/
def FetchedAlike (quiet : QuietBus β) (ram : PhysAddr → Prop) (satps : List Xlen)
    (state : CpuSnapshot) (a b : BitVec 32 × DecodedInstruction × Bool) (fabric : Fabric β)
    (reference : Fabric (Recorded 64 β)) : Prop :=
  (a.1 = b.1 ∧ a.2.1 = b.2.1) ∧
    Related quiet ram satps (sanitizeSatp state.supervisorCsrs.satp) fabric reference ∧
    (a.2.2 = true → InstructionCoherent sv39 ram decodeDirect reference.bus
      (sanitizeSatp state.supervisorCsrs.satp) state.privilege state.pc b.1 b.2.1)

/-- The fetch of a long instruction after its second halfword. -/
def fetchHigh (mode : ExecutionMode) (keeps : Bool) (low : BitVec 32)
    (second : PhysAddr × BitVec 16) : Instr β (BitVec 32 × DecodedInstruction × Bool) := do
  let instruction := low ||| (second.2.setWidth 32 <<< 16)
  let secondCacheable ← cacheable keeps second.1
  let decoded ← decode mode instruction 4
  pure (instruction, decoded, secondCacheable)

/-- The fetch of an instruction after its first halfword. -/
def fetchRest (mode : ExecutionMode) (mayUse : Bool) (state : CpuSnapshot)
    (first : PhysAddr × BitVec 16) : Instr β (BitVec 32 × DecodedInstruction × Bool) := do
  let low := first.2.setWidth 32
  let firstCacheable ← cacheable mayUse first.1
  if (low &&& 0x3) ≠ 0x3 then do
    let decoded ← decode mode low 2
    pure (low, decoded, firstCacheable)
  else do
    let second ← fetchHalfword mode state (state.pc + 2) low
    fetchHigh mode firstCacheable low second

omit readsBack in
theorem fetchInstruction_eq (mayUse : Bool) :
    (fetchInstruction mode mayUse state : Instr β _) =
      fetchHalfword mode state state.pc 0 >>= fetchRest mode mayUse state := rfl

variable (onlyRam : ∀ (bus : β) address, CpuBus.instructionCacheable bus address = true →
  ram address)

include onlyRam in
theorem refines_fetchHigh (keeps other : Bool) (first second : PhysAddr × BitVec 16)
    (full : ¬(first.2.setWidth 32 &&& 3#32) ≠ 3#32) :
    Exec.Refines (guard ram satps)
      (fun fabric reference =>
        Related quiet ram satps (sanitizeSatp state.supervisorCsrs.satp) fabric reference ∧
        HalfwordKnown ram state (state.pc + 2) second reference ∧
        HalfwordKept ram state state.pc first.2 keeps reference)
      (fetchHigh mode keeps (first.2.setWidth 32) second)
      (fetchHigh .reference other (first.2.setWidth 32) second)
      (FetchedAlike quiet ram satps state)
      (Related quiet ram satps (sanitizeSatp state.supervisorCsrs.satp)) := by
  refine Exec.Refines.bind (refines_cacheable onlyRam keeps _ second.1) fun secondCacheable _ => ?_
  refine (refines_decoded mode _ 4 secondCacheable _ fun before after grown
    (kept : HalfwordKept ram state state.pc first.2 secondCacheable before ∧
      HalfwordKept ram state (state.pc + 2) second.2 secondCacheable before) =>
    And.intro (HalfwordKept.later _ _ _ _ _ before after grown kept.1)
      (HalfwordKept.later _ _ _ _ _ before after grown kept.2)).conseq ?_ ?_
        fun _ _ stopped => stopped
  · rintro fabric reference ⟨keeps, related, known, kept⟩
    exact ⟨related, fun keep => kept (keeps keep).1, fun keep => known (keeps keep).2⟩
  · rintro a b fabric reference ⟨⟨rfl, rfl⟩, related, low, high⟩
    exact ⟨⟨rfl, rfl⟩, related, fun keep => .long (low keep) full (high keep)⟩

include readsBack in
theorem halfwordKnown_returned (virtualAddress : Xlen) (fetched : BitVec 32)
    (fabric : Fabric β) (reference : Fabric (Recorded 64 β)) (halfword : PhysAddr × BitVec 16)
    (after : Fabric (Recorded 64 β)) (related : Related quiet ram satps satp fabric reference)
    (returned : fetchHalfword .reference state virtualAddress fetched reference =
      (.ok halfword, after)) : HalfwordKnown ram state virtualAddress halfword after :=
  coherent_fetchHalfword readsBack (quiet.self_right related.bus) returned

include readsBack onlyRam in
theorem refines_fetchRest (mayUse other : Bool) (first : PhysAddr × BitVec 16) :
    Exec.Refines (guard ram satps)
      (fun fabric reference =>
        Related quiet ram satps (sanitizeSatp state.supervisorCsrs.satp) fabric reference ∧
        HalfwordKnown ram state state.pc first reference ∧ True)
      (fetchRest mode mayUse state first) (fetchRest .reference other state first)
      (FetchedAlike quiet ram satps state)
      (Related quiet ram satps (sanitizeSatp state.supervisorCsrs.satp)) := by
  refine Exec.Refines.bind (refines_cacheable onlyRam mayUse _ first.1) fun firstCacheable _ => ?_
  split
  · rename_i short
    refine (refines_decoded mode (first.2.setWidth 32) 2 firstCacheable _
      (HalfwordKept.later ram state state.pc first.2 firstCacheable)).conseq ?_ ?_
        fun _ _ stopped => stopped
    · rintro fabric reference ⟨keeps, related, known, _⟩
      exact ⟨related, fun keep => known (keeps keep).2⟩
    · rintro a b fabric reference ⟨⟨rfl, rfl⟩, related, kept⟩
      exact ⟨⟨rfl, rfl⟩, related, fun keep => .short (kept keep) short⟩
  · rename_i full
    refine (Exec.Refines.bind_known
      (mirrors_fetchHalfword mode state readsBack (state.pc + 2) (first.2.setWidth 32))
      (HalfwordKept.later ram state state.pc first.2 firstCacheable)
      (fun fabric reference second after related _ => halfwordKnown_returned state readsBack
        (state.pc + 2) (first.2.setWidth 32) fabric reference second after related) fun second =>
          refines_fetchHigh mode state onlyRam firstCacheable _ first second full).conseq ?_
            (fun _ _ _ _ post => post) fun _ _ stopped => stopped
    rintro fabric reference ⟨keeps, related, known, _⟩
    exact ⟨related, fun keep => known (keeps keep).2⟩

include readsBack onlyRam in
/-- Both fetches decode the same instruction. -/
theorem refines_fetchInstruction (mayUse other : Bool) :
    Exec.Refines (guard ram satps)
      (Related quiet ram satps (sanitizeSatp state.supervisorCsrs.satp))
      (fetchInstruction mode mayUse state) (fetchInstruction .reference other state)
      (FetchedAlike quiet ram satps state)
      (Related quiet ram satps (sanitizeSatp state.supervisorCsrs.satp)) :=
  (Exec.Refines.bind_known (mirrors_fetchHalfword mode state readsBack state.pc 0)
    (fun _ _ _ kept => kept)
    (fun fabric reference first after related _ => halfwordKnown_returned state readsBack state.pc 0
      fabric reference first after related)
    (refines_fetchRest mode state readsBack onlyRam mayUse other)).conseq
      (fun _ _ related => ⟨related, trivial⟩) (fun _ _ _ _ post => post) fun _ _ stopped => stopped

/-- The end of a fetch that the instruction cache did not serve. -/
def keepInstruction (state : CpuSnapshot) (fetched : BitVec 32 × DecodedInstruction × Bool) :
    Instr γ (BitVec 32 × DecodedInstruction) := do
  if fetched.2.1.valid && fetched.2.2 then do
    insertInstructionCache state fetched.1 fetched.2.1
    pure (fetched.1, fetched.2.1)
  else pure (fetched.1, fetched.2.1)

theorem keepInstruction_eq (fetched : BitVec 32 × DecodedInstruction × Bool) (fabric : Fabric γ) :
    keepInstruction state fetched fabric = (.ok (fetched.1, fetched.2.1),
      if fetched.2.1.valid && fetched.2.2 then
        { fabric with
          instructionCache := fabric.instructionCache.insert indexing state.pc
            (sanitizeSatp state.supervisorCsrs.satp) state.privilege fetched.1 fetched.2.1 }
      else fabric) := by
  unfold keepInstruction
  split <;> rfl

theorem bus_keepInstruction (fetched : BitVec 32 × DecodedInstruction × Bool) (fabric : Fabric γ) :
    (keepInstruction state fetched fabric).2.bus = fabric.bus := by
  rw [keepInstruction_eq]
  dsimp only
  split <;> rfl

/-- An instruction that is kept is coherent, so the cache stays so. -/
theorem refines_keepInstruction (a b : BitVec 32 × DecodedInstruction × Bool) :
    Exec.Refines (guard ram satps)
      (FetchedAlike quiet ram satps state a b)
      (keepInstruction state a) (keepInstruction state b)
      (fun a b fabric reference => a = b ∧
        Related quiet ram satps (sanitizeSatp state.supervisorCsrs.satp) fabric reference)
      (Related quiet ram satps (sanitizeSatp state.supervisorCsrs.satp)) := by
  refine ⟨fun reference => ?_, ?_⟩
  · change reference.bus.Grown (keepInstruction state b reference).2.bus
    rw [bus_keepInstruction]
    exact .refl
  rintro fabric reference ⟨⟨word, decoding⟩, related, coherent⟩ _
  have same := bus_keepInstruction state b reference
  rw [keepInstruction_eq state b] at same
  rw [keepInstruction_eq, keepInstruction_eq, word, decoding]
  refine .ok ⟨rfl, Setting.Related.of_bus ?_ same⟩
  split
  · rename_i keep
    rw [Bool.and_eq_true] at keep
    exact { related with
      instructionCache := related.instructionCache.insert indexing _ _ _ _ _ (coherent keep.2)
      admitted := related.admitted.insert _ _ _ trivial }
  · exact related

include readsBack onlyRam in
theorem mirrors_fetchMiss (mayUse other : Bool) :
    Mirrors quiet ram satps (sanitizeSatp state.supervisorCsrs.satp)
      (fetchMiss mode mayUse state) (fetchMiss .reference other state) :=
  Exec.Refines.bind (refines_fetchInstruction mode state readsBack onlyRam mayUse other)
    (refines_keepInstruction state)

/-! ### A hit of the instruction cache -/

include readsBack in
/-- Nothing is lost by not fetching a coherent halfword. -/
theorem refines_halfword_skipped (virtualAddress : Xlen) (fetched : BitVec 32)
    (value : BitVec 16) :
    Exec.Refines (guard ram satps)
      (fun fabric reference =>
        Related quiet ram satps (sanitizeSatp state.supervisorCsrs.satp) fabric reference ∧
        HalfwordCoherent sv39 ram reference.bus (sanitizeSatp state.supervisorCsrs.satp)
          state.privilege virtualAddress value)
      (pure (0, value)) (fetchHalfword .reference state virtualAddress fetched)
      (fun _ b fabric reference => b.2 = value ∧
        Related quiet ram satps (sanitizeSatp state.supervisorCsrs.satp) fabric reference)
      (Related quiet ram satps (sanitizeSatp state.supervisorCsrs.satp)) := by
  refine ⟨(mirrors_fetchHalfword .reference state readsBack virtualAddress fetched).steady, ?_⟩
  rintro fabric reference ⟨related, coherent⟩ good
  obtain ⟨address, after, returned, grown, same⟩ :=
    fetchHalfword_coherent (quiet.self_right related.bus) coherent good
  rw [returned]
  exact .ok ⟨rfl, related.grown grown (quiet.trans related.bus same) rfl rfl rfl⟩

omit readsBack onlyRam in
/-- The second halfword of a coherent instruction, once its first one is known. -/
theorem refines_high_skipped (first second : PhysAddr × BitVec 16) (high : BitVec 16) :
    Exec.Refines (guard ram satps)
      (fun fabric reference => second.2 = high ∧
        Related quiet ram satps (sanitizeSatp state.supervisorCsrs.satp) fabric reference)
      (pure (first.2.setWidth 32 ||| (high.setWidth 32 <<< 16),
        decodeDirect (first.2.setWidth 32 ||| (high.setWidth 32 <<< 16)) 4, false))
      (fetchHigh .reference false (first.2.setWidth 32) second)
      (FetchedAlike quiet ram satps state)
      (Related quiet ram satps (sanitizeSatp state.supervisorCsrs.satp)) := by
  refine ⟨fun _ => .refl, ?_⟩
  rintro fabric reference ⟨rfl, related⟩ _
  exact .ok ⟨⟨rfl, rfl⟩, related, fun keep => nomatch keep⟩

/-- What is left of a coherent instruction after its first halfword. -/
def RestCoherent (ram : PhysAddr → Prop) (state : CpuSnapshot) (low : BitVec 16)
    (instruction : BitVec 32) (decoded : DecodedInstruction)
    (reference : Fabric (Recorded 64 β)) : Prop :=
  if (low.setWidth 32 &&& 3#32) ≠ 3#32 then
    instruction = low.setWidth 32 ∧ decoded = decodeDirect instruction 2
  else
    ∃ high, HalfwordCoherent sv39 ram reference.bus (sanitizeSatp state.supervisorCsrs.satp)
        state.privilege (state.pc + 2) high ∧
      instruction = low.setWidth 32 ||| (high.setWidth 32 <<< 16) ∧
      decoded = decodeDirect instruction 4

omit readsBack onlyRam in
theorem RestCoherent.later {low : BitVec 16} {instruction : BitVec 32}
    {decoded : DecodedInstruction} (before after : Fabric (Recorded 64 β))
    (grown : before.bus.Grown after.bus)
    (rest : RestCoherent ram state low instruction decoded before) :
    RestCoherent ram state low instruction decoded after := by
  unfold RestCoherent at rest ⊢
  split at rest
  · rename_i short
    rw [if_pos short]
    exact rest
  · rename_i full
    rw [if_neg full]
    obtain ⟨high, coherent, same⟩ := rest
    exact ⟨high, coherent.later lawful_sv39 grown, same⟩

include readsBack onlyRam in
theorem refines_rest_skipped (first : PhysAddr × BitVec 16) (low : BitVec 16)
    (instruction : BitVec 32) (decoded : DecodedInstruction) :
    Exec.Refines (guard ram satps)
      (fun fabric reference => (first.2 = low ∧
        Related quiet ram satps (sanitizeSatp state.supervisorCsrs.satp) fabric reference) ∧
        RestCoherent ram state low instruction decoded reference)
      (pure (instruction, decoded, false)) (fetchRest .reference false state first)
      (FetchedAlike quiet ram satps state)
      (Related quiet ram satps (sanitizeSatp state.supervisorCsrs.satp)) := by
  refine ⟨(refines_fetchRest .reference state readsBack onlyRam false false first).steady, ?_⟩
  rintro fabric reference ⟨⟨rfl, related⟩, rest⟩ good
  have asked : cacheable false first.1 reference = (.ok false, reference) := rfl
  by_cases short : (first.2.setWidth 32 &&& 3#32) ≠ 3#32
  · rw [RestCoherent, if_pos short] at rest
    obtain ⟨rfl, rfl⟩ := rest
    have returned : fetchRest .reference false state first reference =
        (.ok (first.2.setWidth 32, decodeDirect (first.2.setWidth 32) 2, false), reference) :=
      (Exec.bind_ok asked).trans (congrFun (if_pos short) reference)
    rw [returned]
    exact .ok ⟨⟨rfl, rfl⟩, related, fun keep => nomatch keep⟩
  · rw [RestCoherent, if_neg short] at rest
    obtain ⟨high, coherent, rfl, rfl⟩ := rest
    have continued : fetchRest .reference false state first reference =
        (fetchHalfword .reference state (state.pc + 2) (first.2.setWidth 32) >>=
          fetchHigh .reference false (first.2.setWidth 32)) reference :=
      (Exec.bind_ok asked).trans (congrFun (if_neg short) reference)
    rw [continued] at good ⊢
    exact (Exec.Refines.bind (refines_halfword_skipped state readsBack (state.pc + 2)
      (first.2.setWidth 32) high) fun _ second =>
        refines_high_skipped state first second high).ended fabric reference ⟨related, coherent⟩ good

include readsBack onlyRam in
/-- Nothing is lost by not fetching a coherent instruction. -/
theorem refines_instruction_skipped (instruction : BitVec 32) (decoded : DecodedInstruction) :
    Exec.Refines (guard ram satps)
      (fun fabric reference =>
        Related quiet ram satps (sanitizeSatp state.supervisorCsrs.satp) fabric reference ∧
        InstructionCoherent sv39 ram decodeDirect reference.bus
          (sanitizeSatp state.supervisorCsrs.satp) state.privilege state.pc instruction decoded)
      (pure (instruction, decoded, false)) (fetchInstruction .reference false state)
      (FetchedAlike quiet ram satps state)
      (Related quiet ram satps (sanitizeSatp state.supervisorCsrs.satp)) := by
  refine ⟨(refines_fetchInstruction .reference state readsBack onlyRam false false).steady, ?_⟩
  rintro fabric reference ⟨related, low, coherent, rest⟩ good
  exact (Exec.Refines.bind (((refines_halfword_skipped state readsBack state.pc 0 low).frame
    (RestCoherent.later state))) fun _ first =>
      (refines_rest_skipped state readsBack onlyRam first low instruction decoded)).ended fabric
        reference ⟨⟨related, coherent⟩, rest⟩ good

include readsBack onlyRam in
theorem refines_fetchMiss_skipped (instruction : BitVec 32) (decoded : DecodedInstruction) :
    Exec.Refines (guard ram satps)
      (fun fabric reference =>
        Related quiet ram satps (sanitizeSatp state.supervisorCsrs.satp) fabric reference ∧
        InstructionCoherent sv39 ram decodeDirect reference.bus
          (sanitizeSatp state.supervisorCsrs.satp) state.privilege state.pc instruction decoded)
      (pure (instruction, decoded)) (fetchMiss .reference false state)
      (fun a b fabric reference => a = b ∧
        Related quiet ram satps (sanitizeSatp state.supervisorCsrs.satp) fabric reference)
      (Related quiet ram satps (sanitizeSatp state.supervisorCsrs.satp)) := by
  have skipped : (pure (instruction, decoded) : Instr β _) =
      pure (instruction, decoded, false) >>= keepInstruction state := by
    funext fabric
    rw [Exec.bind_ok (Exec.pure_apply _ _), keepInstruction_eq, Bool.and_false]
    rfl
  rw [skipped]
  exact Exec.Refines.bind (refines_instruction_skipped state readsBack onlyRam instruction decoded)
    (refines_keepInstruction state)

omit [CpuBus β] readsBack onlyRam in
/-- What the instruction cache may answer. -/
theorem lookupInstructionCache_eq (mayUse : Bool) (fabric : Fabric β) :
    lookupInstructionCache mayUse state fabric = (.ok (if mayUse then
        fabric.instructionCache.lookup indexing state.pc (sanitizeSatp state.supervisorCsrs.satp)
          state.privilege
      else none), fabric) := rfl

omit readsBack onlyRam in
theorem fetch_reference :
    (fetch .reference state : Instr β _) = fetchMiss .reference false state := by
  funext fabric
  exact Exec.bind_ok (lookupInstructionCache_eq state false fabric)

include readsBack onlyRam in
/-- The fetch through the caches is the uncached fetch. -/
theorem mirrors_fetch :
    Mirrors quiet ram satps (sanitizeSatp state.supervisorCsrs.satp)
      (fetch mode state) (fetch .reference state) := by
  have missed : Mirrors quiet ram satps _ _ _ := mirrors_fetchMiss mode state readsBack onlyRam
    (mayUseInstructionCache mode state.pc) false
  rw [fetch_reference]
  refine ⟨missed.steady, ?_⟩
  intro fabric reference related good
  have looked := lookupInstructionCache_eq state (mayUseInstructionCache mode state.pc) fabric
  cases answer : (if mayUseInstructionCache mode state.pc then
      fabric.instructionCache.lookup indexing state.pc (sanitizeSatp state.supervisorCsrs.satp)
        state.privilege
    else none) with
  | none =>
    rw [answer] at looked
    rw [fetch, Exec.bind_ok looked]
    exact missed.ended fabric reference related good
  | some entry =>
    rw [answer] at looked
    rw [fetch, Exec.bind_ok looked]
    obtain ⟨_, found⟩ := Option.ite_none_right_eq_some.mp answer
    obtain ⟨rfl, serves⟩ := InstructionCache.lookup_eq_some indexing found
    simp only [InstructionCache.serves, Bool.and_eq_true, beq_iff_eq] at serves
    obtain ⟨⟨⟨⟨⟨⟨current, address⟩, space⟩, privilege⟩, _⟩, _⟩, _⟩ := serves
    have coherent := related.instructionCache.current _ current
    rw [InstructionCacheEntry.Coherent, address, space, privilege] at coherent
    exact (refines_fetchMiss_skipped state readsBack onlyRam _ _).ended fabric reference
      ⟨related, coherent⟩ good

end

end RvEmulator.Core64
