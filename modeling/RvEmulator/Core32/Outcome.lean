import RvEmulator.Common.HartInvariant
import RvEmulator.Core32.Core

/-! What the units of the 32-bit core may ask of the commit, for every instruction word
and every bus. The invariants over whole runs are all derived from here. -/

namespace RvEmulator.Core32

open Library

/-- The decoder that the length bits of an instruction select. -/
def decodeFetched (instruction : BitVec 32) : DecodedInstruction :=
  if (instruction &&& 0x3) ≠ 0x3 then decodeDirect instruction 2 else decodeDirect instruction 4

/-- What a fetch may return: the decoding of the word, and only of a valid one. -/
structure Fetched (instruction : BitVec 32) (decoded : DecodedInstruction) : Prop where
  decodes : decoded = decodeFetched instruction
  valid : decoded.valid = true

/-- Every decoded instruction that a cache may hand out is the decoding of its word. -/
structure Fabric.WellFormed (fabric : Fabric β) : Prop where
  decodeCache : fabric.decodeCache.Faithful decodeDirect
  instructionCache : fabric.instructionCache.Sound Fetched

/-! ### Decoding -/

open Decode in
theorem length_decodeInstruction (instruction : BitVec 32) :
    (decodeInstruction instruction).length = 4 := by
  have branch (funct3 : BitVec 32) : (decodeBranch instruction funct3).length = 4 := by
    unfold decodeBranch
    split <;> rfl
  have load (funct3 : BitVec 32) : (decodeLoad instruction funct3).length = 4 := by
    unfold decodeLoad
    split <;> rfl
  have store (funct3 : BitVec 32) : (decodeStore instruction funct3).length = 4 := by
    unfold decodeStore
    split <;> rfl
  have opImm (funct3 funct7 rs2 : BitVec 32) :
      (decodeOpImm instruction funct3 funct7 rs2).length = 4 := by
    unfold decodeOpImm
    repeat' split
    all_goals rfl
  have op (funct3 funct7 : BitVec 32) : (decodeOp instruction funct3 funct7).length = 4 := by
    unfold decodeOp
    repeat' split
    all_goals rfl
  have amo (funct3 rs2 : BitVec 32) : (decodeAmo instruction funct3 rs2).length = 4 := by
    unfold decodeAmo
    repeat' split
    all_goals rfl
  have miscMem (funct3 : BitVec 32) : (decodeMiscMem instruction funct3).length = 4 := by
    unfold decodeMiscMem
    repeat' split
    all_goals rfl
  have system (funct3 rs1 rs2 : BitVec 32) :
      (decodeSystem instruction funct3 rs1 rs2).length = 4 := by
    unfold decodeSystem
    repeat' split
    all_goals rfl
  unfold decodeInstruction
  dsimp only
  repeat' split
  all_goals first
    | rfl
    | exact branch _
    | exact load _
    | exact store _
    | exact opImm _ _ _
    | exact op _ _
    | exact amo _ _
    | exact miscMem _
    | exact system _ _ _

open Decode in
theorem length_decodeCompressedInstruction (instruction : BitVec 16) :
    (decodeCompressedInstruction instruction).length = 2 := by
  have quadrant0 : (decodeQuadrant0 instruction).length = 2 := by
    unfold decodeQuadrant0
    dsimp only
    repeat' split
    all_goals rfl
  have arithmetic (immediate : BitVec 32) :
      (decodeCompressedArithmetic instruction immediate).length = 2 := by
    unfold decodeCompressedArithmetic
    dsimp only
    repeat' split
    all_goals rfl
  have quadrant1 : (decodeQuadrant1 instruction).length = 2 := by
    unfold decodeQuadrant1
    dsimp only
    repeat' split
    all_goals first
      | rfl
      | exact arithmetic _
  have quadrant2 : (decodeQuadrant2 instruction).length = 2 := by
    unfold decodeQuadrant2
    dsimp only
    repeat' split
    all_goals rfl
  unfold decodeCompressedInstruction
  dsimp only
  repeat' split
  · rfl
  · exact quadrant0
  · exact quadrant1
  · exact quadrant2

theorem length_decodeFetched (instruction : BitVec 32) :
    BitEven ((decodeFetched instruction).length.setWidth 32 : Xlen) := by
  unfold decodeFetched decodeDirect
  split
  · rw [if_pos rfl, length_decodeCompressedInstruction]
    decide
  · rw [if_neg (by decide), length_decodeInstruction]
    decide

/-! ### Fetching -/

/-- The computation keeps the caches well-formed on both exits. -/
def Steady (x : Instr β α) (post : α → Prop := fun _ => True) : Prop :=
  Exec.Ensures Fabric.WellFormed x (fun a fabric => fabric.WellFormed ∧ post a)
    (fun _ fabric => fabric.WellFormed)

namespace Steady

theorem pure {post : α → Prop} {a : α} (holds : post a) : Steady (β := β) (pure a) post :=
  Exec.Ensures.pure fun _ wellFormed => ⟨wellFormed, holds⟩

theorem stop {post : α → Prop} {trap : Trap} : Steady (β := β) (Exec.stop trap) post :=
  Exec.Ensures.stop fun _ wellFormed => wellFormed

theorem bind {x : Instr β α} {f : α → Instr β γ} (middle : α → Prop) {post : γ → Prop}
    (first : Steady x middle) (next : ∀ a, middle a → Steady (f a) post) :
    Steady (x >>= f) post := by
  refine Exec.Ensures.bind first ?_
  intro a fabric before
  exact next a before.2 fabric before.1

theorem mono {x : Instr β α} {post wider : α → Prop} (steady : Steady x post)
    (included : ∀ a, post a → wider a) : Steady x wider := by
  intro fabric before
  obtain ⟨returned, stopped⟩ := steady fabric before
  exact ⟨fun a same => ⟨(returned a same).1, included a (returned a same).2⟩, stopped⟩

theorem ite {condition : Prop} [Decidable condition] {x y : Instr β α} {post : α → Prop}
    (left : condition → Steady x post) (right : ¬condition → Steady y post) :
    Steady (if condition then x else y) post := by
  split
  · rename_i holds
    exact left holds
  · rename_i fails
    exact right fails

theorem onBus (method : StateM β α) : Steady (onBus method) :=
  Exec.Ensures.lift fun _ wellFormed =>
    ⟨⟨wellFormed.decodeCache, wellFormed.instructionCache⟩, trivial⟩

/-- A computation that only looks at the fabric. -/
theorem peek (read : Fabric β → α) {post : α → Prop}
    (holds : ∀ fabric : Fabric β, fabric.WellFormed → post (read fabric)) :
    Steady (Exec.lift fun fabric => (read fabric, fabric)) post :=
  Exec.Ensures.lift fun fabric wellFormed => ⟨wellFormed, holds fabric wellFormed⟩

end Steady

theorem steady_decode (mode : ExecutionMode) (instruction : BitVec 32) (length : BitVec 8) :
    Steady (decode (β := β) mode instruction length)
      (fun decoded => decoded = decodeDirect instruction length) := by
  cases mode with
  | reference => exact Steady.pure rfl
  | fast =>
    refine Exec.Ensures.lift ?_
    intro fabric wellFormed
    obtain ⟨same, faithful⟩ := DecodeCache.decode_faithful wellFormed.decodeCache
      (decodeIndex instruction length) instruction length
    exact ⟨⟨faithful, wellFormed.instructionCache⟩, same⟩

theorem steady_insertInstructionCache (state : CpuSnapshot) {instruction : BitVec 32}
    {decoded : DecodedInstruction} (fetched : Fetched instruction decoded) :
    Steady (insertInstructionCache (β := β) state instruction decoded) :=
  Exec.Ensures.lift fun _ wellFormed =>
    ⟨⟨wellFormed.decodeCache, wellFormed.instructionCache.insert _ _ _ fetched⟩, trivial⟩

section

variable [CpuBus β]

theorem steady_translate (mode : ExecutionMode) (state : CpuSnapshot) (virtualAddress : Xlen)
    (access : MemoryAccessType) :
    Steady (translate (β := β) mode state virtualAddress access) := by
  cases mode with
  | fast =>
    exact Exec.Ensures.lift fun _ wellFormed =>
      ⟨⟨wellFormed.decodeCache, wellFormed.instructionCache⟩, trivial⟩
  | reference => exact Steady.onBus _

theorem steady_fetchHalfword (mode : ExecutionMode) (state : CpuSnapshot) (virtualAddress : Xlen)
    (fetched : BitVec 32) :
    Steady (fetchHalfword (β := β) mode state virtualAddress fetched) := by
  refine Steady.bind _ (steady_translate mode state virtualAddress .instructionFetch) ?_
  intro translation _
  refine Steady.ite (fun _ => Steady.stop) (fun _ => ?_)
  refine Steady.bind _ (Steady.onBus _) ?_
  intro read _
  exact Steady.ite (fun _ => Steady.stop) (fun _ => Steady.pure trivial)

theorem steady_fetchInstruction (mode : ExecutionMode) (mayUse : Bool) (state : CpuSnapshot) :
    Steady (fetchInstruction (β := β) mode mayUse state)
      (fun fetched => fetched.2.1 = decodeFetched fetched.1) := by
  refine Steady.bind _ (steady_fetchHalfword mode state state.pc 0) ?_
  intro first _
  refine Steady.bind (fun _ => True) (Steady.peek _ fun _ _ => trivial) ?_
  intro enabled _
  refine Steady.ite (fun short => ?_) (fun long => ?_)
  · refine Steady.bind _ (steady_decode mode _ 2) ?_
    intro decoded same
    refine Steady.pure (same.trans ?_)
    rw [decodeFetched, if_pos short]
  · refine Steady.bind _ (steady_fetchHalfword mode state _ _) ?_
    intro second _
    refine Steady.bind _ (steady_decode mode _ 4) ?_
    intro decoded same
    refine Steady.pure (same.trans ?_)
    rw [decodeFetched, lowBits_or_high, if_neg long]

theorem steady_fetchMiss (mode : ExecutionMode) (mayUse : Bool) (state : CpuSnapshot) :
    Steady (fetchMiss (β := β) mode mayUse state) (fun fetched => Fetched fetched.1 fetched.2) := by
  refine Steady.bind _ (steady_fetchInstruction mode mayUse state) ?_
  intro fetched decodes
  refine Steady.ite (fun _ => Steady.stop) (fun invalid => ?_)
  have valid : Fetched fetched.1 fetched.2.1 := ⟨decodes, by simpa using invalid⟩
  refine Steady.ite (fun _ => ?_) (fun _ => Steady.pure valid)
  refine Steady.bind _ (steady_insertInstructionCache state valid) ?_
  intro _ _
  exact Steady.pure valid

/-- Whatever a fetch returns is the decoding of its word, cached or not. -/
theorem steady_fetchDecode (mode : ExecutionMode) (state : CpuSnapshot) :
    Steady (fetchDecode (β := β) mode state) (fun fetched => Fetched fetched.1 fetched.2) := by
  refine Steady.ite (fun _ => Steady.stop) (fun _ => ?_)
  refine Steady.bind (fun cached : Option (InstructionCacheEntry 32 DecodedInstruction) =>
    ∀ entry ∈ cached, Fetched entry.instruction entry.decoded) (Steady.peek _ ?_) ?_
  · intro fabric wellFormed entry found
    split at found
    · exact wellFormed.instructionCache.lookup found
    · cases found
  · intro cached entries
    cases cached with
    | none => exact steady_fetchMiss mode _ state
    | some entry => exact Steady.pure (entries entry rfl)

end

end RvEmulator.Core32
