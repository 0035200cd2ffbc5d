import RvEmulator.Devices.Recording
import RvEmulator.Library.Scatter

/-! The chains of descriptors that guest memory shows, and what a device reads of them. -/

namespace RvEmulator.Devices

open Library Platform

namespace Rings

/-- A chain that ends within the table without coming back to itself. -/
def chainOf (rings : Rings) (size : BitVec 16) (memory : Memory) :
    (count : Nat) → (visited : List (BitVec 16)) → (current : BitVec 16) →
      Option (List Descriptor)
  | 0, _, _ => none
  | count + 1, visited, current =>
    if size ≤ current ∨ current ∈ visited then none
    else
      let descriptor := rings.descriptorAt memory current
      if !descriptor.hasNext then some [descriptor]
      else (rings.chainOf size memory count (current :: visited) descriptor.next).map (descriptor :: ·)

theorem chainOf_succ (rings : Rings) (size : BitVec 16) (memory : Memory) (count : Nat)
    (visited : List (BitVec 16)) (current : BitVec 16) :
    rings.chainOf size memory (count + 1) visited current =
      if size ≤ current ∨ current ∈ visited then none
      else
        let descriptor := rings.descriptorAt memory current
        if !descriptor.hasNext then some [descriptor]
        else
          (rings.chainOf size memory count (current :: visited) descriptor.next).map
            (descriptor :: ·) := rfl

/-- The chain of a head that goes on although `count` descriptors of it are distinct
and within the table. -/
def endlessChain (rings : Rings) (size : BitVec 16) (memory : Memory) :
    (count : Nat) → (visited : List (BitVec 16)) → (current : BitVec 16) →
      Option (List Descriptor)
  | 0, _, _ => some []
  | count + 1, visited, current =>
    if size ≤ current ∨ current ∈ visited then none
    else
      let descriptor := rings.descriptorAt memory current
      if !descriptor.hasNext then none
      else
        (rings.endlessChain size memory count (current :: visited) descriptor.next).map
          (descriptor :: ·)

theorem endlessChain_succ (rings : Rings) (size : BitVec 16) (memory : Memory) (count : Nat)
    (visited : List (BitVec 16)) (current : BitVec 16) :
    rings.endlessChain size memory (count + 1) visited current =
      if size ≤ current ∨ current ∈ visited then none
      else
        let descriptor := rings.descriptorAt memory current
        if !descriptor.hasNext then none
        else
          (rings.endlessChain size memory count (current :: visited) descriptor.next).map
            (descriptor :: ·) := rfl

/-- The chain of a head. -/
def validChain (rings : Rings) (size : BitVec 16) (memory : Memory) (head : BitVec 16) :
    Option (List Descriptor) :=
  rings.chainOf size memory size.toNat [] head

theorem length_chainOf {rings : Rings} {size : BitVec 16} {memory : Memory} {count : Nat}
    {visited : List (BitVec 16)} {current : BitVec 16} {chain : List Descriptor}
    (found : rings.chainOf size memory count visited current = some chain) :
    chain.length ≤ count := by
  induction count generalizing visited current chain with
  | zero => cases found
  | succ count ih =>
    rw [chainOf_succ] at found
    split at found
    · cases found
    dsimp only at found
    split at found
    · cases found
      exact Nat.succ_le_succ (Nat.zero_le _)
    · obtain ⟨rest, later, rfl⟩ := Option.map_eq_some_iff.mp found
      exact Nat.succ_le_succ (ih later)

/-- The head of a chain is within the table. -/
theorem head_of_validChain {rings : Rings} {size : BitVec 16} {memory : Memory} {head : BitVec 16}
    {chain : List Descriptor} (found : rings.validChain size memory head = some chain) :
    ¬size ≤ head := by
  intro outside
  unfold validChain at found
  generalize size.toNat = count at found
  cases count with
  | zero => cases found
  | succ count =>
    rw [chainOf_succ, if_pos (.inl outside)] at found
    cases found

theorem chainOf_congr {rings : Rings} {size : BitVec 16} {memory other : Memory}
    (same : ∀ address, rings.InTable size address → other address = memory address)
    (count : Nat) (visited : List (BitVec 16)) (current : BitVec 16) :
    rings.chainOf size other count visited current =
      rings.chainOf size memory count visited current := by
  induction count generalizing visited current with
  | zero => rfl
  | succ count ih =>
    rw [chainOf_succ, chainOf_succ]
    by_cases outside : size ≤ current ∨ current ∈ visited
    · rw [if_pos outside, if_pos outside]
    · have inside := BitVec.not_le.mp fun beyond => outside (.inl beyond)
      rw [if_neg outside, if_neg outside, descriptorAt_congr inside same]
      simp only [ih]

/-- The head of a chain that goes on is within the table. -/
theorem head_of_endlessChain {rings : Rings} {size : BitVec 16} {memory : Memory}
    {count : Nat} {visited : List (BitVec 16)} {current : BitVec 16} {chain : List Descriptor}
    (found : rings.endlessChain size memory count visited current = some chain)
    (some : chain ≠ []) : ¬size ≤ current := by
  intro outside
  cases count with
  | zero =>
    cases found
    exact some rfl
  | succ count =>
    rw [endlessChain_succ, if_pos (.inl outside)] at found
    cases found

/-! ### What memory shows -/

/-- What following a chain comes to when memory answers. -/
def followed (rings : Rings) (size : BitVec 16) (memory : Memory) :
    (count : Nat) → (visited : List (BitVec 16)) → (current : BitVec 16) → Following
  | 0, _, _ => .unended []
  | count + 1, visited, current =>
    if size ≤ current ∨ current ∈ visited then .invalid
    else
      let descriptor := rings.descriptorAt memory current
      if !descriptor.hasNext then .ended [descriptor]
      else (rings.followed size memory count (current :: visited) descriptor.next).cons descriptor

theorem followed_succ (rings : Rings) (size : BitVec 16) (memory : Memory) (count : Nat)
    (visited : List (BitVec 16)) (current : BitVec 16) :
    rings.followed size memory (count + 1) visited current =
      if size ≤ current ∨ current ∈ visited then .invalid
      else
        let descriptor := rings.descriptorAt memory current
        if !descriptor.hasNext then .ended [descriptor]
        else
          (rings.followed size memory count (current :: visited) descriptor.next).cons
            descriptor := rfl

section

variable {rings : Rings} {size : BitVec 16} {memory : Memory} {count : Nat}
  {visited : List (BitVec 16)} {current : BitVec 16}

theorem followed_answered : rings.followed size memory count visited current ≠ .refused := by
  induction count generalizing visited current with
  | zero => exact nofun
  | succ count ih =>
    rw [followed_succ]
    split
    · exact nofun
    dsimp only
    split
    · exact nofun
    · exact fun refused => ih ((Following.cons_eq_refused _ _).mp refused)

theorem chainOf_eq : rings.chainOf size memory count visited current =
    (rings.followed size memory count visited current).whole := by
  induction count generalizing visited current with
  | zero => rfl
  | succ count ih =>
    rw [chainOf_succ, followed_succ, apply_ite Following.whole]
    dsimp only
    rw [apply_ite Following.whole, Following.whole_cons, ih]
    rfl

theorem endlessChain_eq : rings.endlessChain size memory count visited current =
    (rings.followed size memory count visited current).part := by
  induction count generalizing visited current with
  | zero => rfl
  | succ count ih =>
    rw [endlessChain_succ, followed_succ, apply_ite Following.part]
    dsimp only
    rw [apply_ite Following.part, Following.part_cons, ih]
    rfl

/-- Chains that come back to themselves are among the first descriptors, too. -/
theorem chainAt_of_followed {chain : List Descriptor}
    (loaded : (rings.followed size memory count visited current).loaded = some chain) :
    rings.chainAt size memory count current = chain := by
  induction count generalizing visited current chain with
  | zero => exact Option.some.inj loaded
  | succ count ih =>
    rw [followed_succ] at loaded
    split at loaded
    · cases loaded
    rename_i inside
    unfold chainAt
    rw [if_neg fun outside => inside (.inl outside)]
    dsimp only at loaded ⊢
    cases more : (rings.descriptorAt memory current).hasNext with
    | false =>
      rw [more] at loaded
      exact Option.some.inj loaded
    | true =>
      rw [more, Bool.not_true, if_neg Bool.false_ne_true, Following.loaded_cons] at loaded
      obtain ⟨rest, later, rfl⟩ := Option.map_eq_some_iff.mp loaded
      rw [if_pos rfl, ih later]

end

end Rings

/-- The addresses of a chain, in order. -/
def addresses (chain : List Descriptor) : List PhysAddr :=
  chain.flatMap fun descriptor => Memory.span descriptor.address descriptor.length.toNat

/-- The room of a chain. -/
def capacity (chain : List Descriptor) : Nat := (chain.map (·.length.toNat)).sum

/-! ### What is read of it -/

section

variable [DmaAccess δ] {memory : DmaMemory δ} {stored : AccessWidth → Prop} {dma middle : δ}

theorem Accessed.follow (accessed : Accessed stored dma middle) (rings : Rings)
    (size : BitVec 16) (count : Nat) (visited : List (BitVec 16)) (current : BitVec 16) :
    Accessed stored dma (rings.follow size count visited current middle).2 := by
  induction count generalizing middle visited current with
  | zero => exact accessed
  | succ count ih =>
    rw [Rings.follow_succ]
    split
    · exact accessed
    have descriptor := accessed.readDescriptor rings current
    generalize rings.readDescriptor current middle = read at descriptor ⊢
    obtain ⟨_ | found, after⟩ := read
    · exact descriptor
    dsimp only
    split
    · exact descriptor
    · exact ih descriptor _ _

/-- Where no read is refused, it is what memory shows. -/
theorem Rings.follow_shown (sound : memory.sound dma) (rings : Rings) (size : BitVec 16)
    (count : Nat) (visited : List (BitVec 16)) (current : BitVec 16)
    (answered : (rings.follow size count visited current dma).1 ≠ .refused) :
    (rings.follow size count visited current dma).1 =
      rings.followed size (memory.contents dma) count visited current := by
  induction count generalizing dma visited current with
  | zero => rfl
  | succ count ih =>
    rw [Rings.follow_succ] at answered ⊢
    rw [followed_succ]
    by_cases outside : size ≤ current ∨ current ∈ visited
    · rw [if_pos outside, if_pos outside]
    rw [if_neg outside] at answered ⊢
    rw [if_neg outside]
    obtain ⟨soundRead, sameRead, shown⟩ := Rings.readDescriptor_spec sound rings current
    generalize rings.readDescriptor current dma = read at soundRead sameRead shown answered ⊢
    obtain ⟨_ | descriptor, after⟩ := read
    · exact absurd rfl answered
    rw [← shown descriptor rfl]
    dsimp only at soundRead sameRead answered ⊢
    split
    · rfl
    · rename_i goesOn
      rw [if_neg goesOn] at answered
      rw [← sameRead]
      exact congrArg (Following.cons descriptor)
        (ih soundRead _ _ fun refused => answered ((Following.cons_eq_refused _ _).mpr refused))

/-- When the table answers, no read is refused. -/
theorem Rings.follow_answered {rings : Rings} {size : BitVec 16}
    (table : rings.TableAnswered memory size) (sound : memory.sound dma) (count : Nat)
    (visited : List (BitVec 16)) (current : BitVec 16) :
    ∃ after, rings.follow size count visited current dma =
        (rings.followed size (memory.contents dma) count visited current, after) ∧
      memory.sound after ∧ memory.contents after = memory.contents dma := by
  have answered : (rings.follow size count visited current dma).1 ≠ .refused := by
    induction count generalizing dma visited current with
    | zero => exact nofun
    | succ count ih =>
      rw [Rings.follow_succ]
      split
      · exact nofun
      rename_i inside
      obtain ⟨read, loaded, soundRead, _⟩ := table.readDescriptor
        (BitVec.not_le.mp fun beyond => inside (.inl beyond)) sound
      rw [loaded]
      dsimp only
      split
      · exact nofun
      · exact fun refused => ih soundRead _ _ ((Following.cons_eq_refused _ _).mp refused)
  refine ⟨_, Prod.ext (Rings.follow_shown sound rings size count visited current answered) rfl, ?_⟩
  exact (Accessed.refl.follow rings size count visited current).reads sound

theorem Accessed.gather (accessed : Accessed stored dma middle) (address : PhysAddr)
    (count : Nat) : Accessed stored dma (gather address count middle).2 := by
  induction count generalizing middle address with
  | zero => exact accessed
  | succ count ih =>
    unfold Devices.gather
    dsimp only
    split
    · exact accessed.read
    · exact ih accessed.read _

theorem gather_eq (sound : memory.sound dma) (address : PhysAddr) (count : Nat)
    (answers : ∀ other ∈ Memory.span address count, memory.answers other .byte) :
    ∃ after, gather address count dma =
        (some ((Memory.span address count).map (memory.contents dma)), after) ∧
      memory.sound after ∧ memory.contents after = memory.contents dma := by
  induction count generalizing address dma with
  | zero => exact ⟨dma, rfl, sound, rfl⟩
  | succ count ih =>
    obtain ⟨ok, value, soundRead, sameRead⟩ :=
      DmaMemory.read_answered sound (answers address (List.mem_cons_self ..))
    obtain ⟨after, rest, soundAfter, sameAfter⟩ := ih soundRead (address + 1)
      fun other member => answers other (List.mem_cons_of_mem _ member)
    rw [sameRead] at rest sameAfter
    refine ⟨after, ?_, soundAfter, sameAfter⟩
    unfold gather
    dsimp only
    rw [ok, rest, value]
    exact congrArg (fun byte => (some (byte :: _), after)) (Memory.get_one _ _)

end

end RvEmulator.Devices
