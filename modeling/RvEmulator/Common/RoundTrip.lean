import Mathlib.Data.Bool.Basic
import Mathlib.Data.List.Basic
import RvEmulator.Common.Encoding

/-! Reading the operands of a format and putting them back. -/

namespace RvEmulator.Fields

/-! ### Immediates, as shifts put them together -/

theorem eq_of_extended {n : Nat} {value other : BitVec n} (fits : n ≤ 32)
    (same : value.setWidth 32 = other.setWidth 32) : value = other := by
  have back := congrArg (BitVec.setWidth n) same
  rwa [BitVec.setWidth_setWidth_of_le _ fits, BitVec.setWidth_setWidth_of_le _ fits,
    BitVec.setWidth_eq, BitVec.setWidth_eq] at back

theorem setWidth_of_extended {n : Nat} {whole : BitVec 32} {value : BitVec n} (fits : n ≤ 32)
    (same : whole = value.setWidth 32) : whole.setWidth n = value := by
  rw [same, BitVec.setWidth_setWidth_of_le _ fits, BitVec.setWidth_eq]

/-- The bits of a field, and those above it. -/
theorem setWidth_field {n m w : Nat} (high : BitVec n) (low : BitVec m) :
    (high ++ low).setWidth w = low.setWidth w ||| (high.setWidth w <<< m) := by
  apply BitVec.eq_of_getLsbD_eq
  intro i inside
  simp only [BitVec.getLsbD_setWidth, BitVec.getLsbD_or, BitVec.getLsbD_shiftLeft,
    BitVec.getLsbD_append, inside, decide_true, Bool.true_and]
  by_cases below : i < m
  · rw [if_pos below]
    simp [below]
  · rw [if_neg below, BitVec.getLsbD_of_ge low i (by omega)]
    simp [below, show i - m < w by omega]

/-- A part of a field. -/
theorem extractLsb'_field {n start length low inner : Nat} (word : BitVec n)
    (inside : start + length ≤ inner) :
    (word.extractLsb' low inner).extractLsb' start length =
      word.extractLsb' (low + start) length := by
  apply BitVec.eq_of_getLsbD_eq
  intro i below
  simp only [BitVec.getLsbD_extractLsb', below, decide_true, Bool.true_and, Nat.add_assoc,
    show start + i < inner by omega]

variable (word : BitVec 32)

theorem iImmediate_of : word.extractLsb' 20 12 = (of word).iImmediate := by
  simp only [iImmediate, of, BitVec.extractLsb'_append_extractLsb'_eq_extractLsb']

theorem sImmediate_of :
    (((word.extractLsb' 25 7).setWidth 32 <<< 5) |||
      (word.extractLsb' 7 5).setWidth 32).setWidth 12 = (of word).sImmediate := by
  apply setWidth_of_extended (by decide)
  rw [BitVec.or_comm, sImmediate, setWidth_field]
  rfl

theorem bImmediate_of :
    (((word.extractLsb' 31 1).setWidth 32 <<< 12) |||
      ((word.extractLsb' 7 1).setWidth 32 <<< 11) |||
      ((word.extractLsb' 25 6).setWidth 32 <<< 5) |||
      ((word.extractLsb' 8 4).setWidth 32 <<< 1)).setWidth 13 = (of word).bImmediate := by
  apply setWidth_of_extended (by decide)
  simp only [bImmediate, of, setWidth_field, BitVec.shiftLeft_or_distrib, ← BitVec.shiftLeft_add,
    BitVec.setWidth_zero, BitVec.zero_or]
  rw [extractLsb'_field _ (by decide), extractLsb'_field _ (by decide),
    extractLsb'_field _ (by decide), extractLsb'_field _ (by decide)]
  ac_rfl

theorem or_rearranged (a b c d e f : BitVec 32) :
    a ||| (b ||| c) ||| d ||| (e ||| f) = e ||| (f ||| (d ||| (b ||| (c ||| a)))) := by
  ac_rfl

theorem jImmediate_of :
    (((word.extractLsb' 31 1).setWidth 32 <<< 20) |||
      ((word.extractLsb' 12 8).setWidth 32 <<< 12) |||
      ((word.extractLsb' 20 1).setWidth 32 <<< 11) |||
      ((word.extractLsb' 21 10).setWidth 32 <<< 1)).setWidth 21 = (of word).jImmediate := by
  have middle : (word.extractLsb' 12 8).setWidth 32 =
      (word.extractLsb' 12 3).setWidth 32 ||| ((word.extractLsb' 15 5).setWidth 32 <<< 3) := by
    rw [← setWidth_field]
    simp only [BitVec.extractLsb'_append_extractLsb'_eq_extractLsb']
  have last : (word.extractLsb' 21 10).setWidth 32 =
      (word.extractLsb' 21 4).setWidth 32 ||| ((word.extractLsb' 25 6).setWidth 32 <<< 4) := by
    rw [← setWidth_field]
    simp only [BitVec.extractLsb'_append_extractLsb'_eq_extractLsb']
  apply setWidth_of_extended (by decide)
  rw [jImmediate, setWidth_field, setWidth_field, setWidth_field, setWidth_field, setWidth_field,
    setWidth_field]
  rw [of, extractLsb'_field _ (by decide), extractLsb'_field _ (by decide),
    extractLsb'_field _ (by decide), extractLsb'_field _ (by decide)]
  rw [middle, last]
  simp only [BitVec.shiftLeft_or_distrib, ← BitVec.shiftLeft_add, BitVec.setWidth_zero,
    BitVec.zero_or, Nat.reduceAdd]
  exact or_rearranged ..

theorem uImmediate_of : word &&& 0xFFFFF000 = (of word).uImmediate := by
  have mask : ∀ i < 32, (0xFFFFF000 : BitVec 32).getLsbD i = decide (12 ≤ i) := by decide
  apply BitVec.eq_of_getLsbD_eq
  intro i inside
  rw [BitVec.getLsbD_and, mask i inside]
  simp only [Fields.uImmediate, Fields.of, BitVec.getLsbD_append, BitVec.getLsbD_extractLsb',
    BitVec.getLsbD_zero]
  grind

/-! Parts of `funct7`. -/

theorem funct6_of : word.extractLsb' 26 6 = (of word).funct7.extractLsb' 1 6 := by
  rw [of, extractLsb'_field _ (by decide)]

theorem funct5_of : word.extractLsb' 27 5 = (of word).funct7.extractLsb' 2 5 := by
  rw [of, extractLsb'_field _ (by decide)]

theorem format_of : word.extractLsb' 25 2 = (of word).funct7.extractLsb' 0 2 := by
  rw [of, extractLsb'_field _ (by decide)]

theorem bit_funct7 {position : Nat} (low : position < 7) :
    ((word.extractLsb' (25 + position) 1).setWidth 32 != 0) =
      (of word).funct7.getLsbD position := by
  have single : ∀ value : BitVec 1, (value.setWidth 32 != 0) = value.getLsbD 0 := by decide
  rw [single]
  simp only [Fields.of, BitVec.getLsbD_extractLsb']
  grind

/-! ### Words with some parts masked out -/

theorem of_and_move :
    Fields.of (word &&& 0xFFF0707F) = { Fields.of word with rd := 0, rs1 := 0 } := by
  apply Fields.ext <;> simp only [Fields.of, BitVec.extractLsb'_and]
  · exact BitVec.and_allOnes
  · exact BitVec.and_zero
  · exact BitVec.and_allOnes
  · exact BitVec.and_zero
  · exact BitVec.and_allOnes
  · exact BitVec.and_allOnes

theorem of_and_conversion :
    Fields.of (word &&& 0xFFF0007F) = { Fields.of word with rd := 0, funct3 := 0, rs1 := 0 } := by
  apply Fields.ext <;> simp only [Fields.of, BitVec.extractLsb'_and]
  · exact BitVec.and_allOnes
  · exact BitVec.and_zero
  · exact BitVec.and_zero
  · exact BitVec.and_zero
  · exact BitVec.and_allOnes
  · exact BitVec.and_allOnes

theorem of_and_addressFence :
    Fields.of (word &&& 0xFE007FFF) = { Fields.of word with rs1 := 0, rs2 := 0 } := by
  apply Fields.ext <;> simp only [Fields.of, BitVec.extractLsb'_and]
  · exact BitVec.and_allOnes
  · exact BitVec.and_allOnes
  · exact BitVec.and_allOnes
  · exact BitVec.and_zero
  · exact BitVec.and_zero
  · exact BitVec.and_allOnes

theorem eq_word {word : BitVec 32} {fields : Fields} (same : Fields.of word = fields) :
    word = fields.word := by
  rw [← same, Fields.word_of]

theorem of_and_fence :
    Fields.of (word &&& 0x0000707F) =
      { opcode := (Fields.of word).opcode, funct3 := (Fields.of word).funct3 } := by
  apply Fields.ext <;> simp only [Fields.of, BitVec.extractLsb'_and]
  · exact BitVec.and_allOnes
  · exact BitVec.and_zero
  · exact BitVec.and_allOnes
  · exact BitVec.and_zero
  · exact BitVec.and_zero
  · exact BitVec.and_zero

end RvEmulator.Fields

namespace RvEmulator.Operands

variable {w : Nat}

/-- Only the operands of the format are encoded. -/
@[simp]
theorem fields_used (operands : Operands w) (layout : Layout) :
    (operands.used layout).fields layout = operands.fields layout := by
  cases layout <;> rfl

@[simp]
theorem used_used (operands : Operands w) (layout : Layout) :
    (operands.used layout).used layout = operands.used layout := by
  cases layout <;> rfl

@[simp]
theorem used_of (layout : Layout) (fields : Fields) :
    (of layout fields : Operands w).used layout = of layout fields := by
  cases layout <;> rfl

theorem inRange_used (operands : Operands w) (layout : Layout) :
    (operands.used layout).InRange layout ↔ operands.InRange layout := by
  cases layout <;> exact Iff.rfl

theorem rounds_used (operands : Operands w) (layout : Layout) :
    (operands.used layout).Rounds layout ↔ operands.Rounds layout := by
  cases layout <;> exact Iff.rfl

/-- The parts of a word, from the operands that its format finds in it. -/
theorem fields_of {layout : Layout} {fields : Fields} (wide : 32 ≤ w)
    (admits : layout.Admits fields) (operands : ∀ funct3, layout ≠ .fence funct3) :
    (of layout fields : Operands w).fields layout = fields := by
  cases layout
  case fence funct3 => exact absurd rfl (operands funct3)
  case none => exact admits.elim
  case constant => exact Eq.symm admits
  case register | unary | addressFence =>
    simp only [Layout.Admits] at admits
    simp [of, Operands.fields, Fields.ext_iff, admits]
  all_goals
    simp only [Layout.Admits, BitVec.eq_of_getLsbD_eq_iff, BitVec.getLsbD_extractLsb'] at admits
    simp only [of, Operands.fields, Fields.ext_iff, BitVec.eq_of_getLsbD_eq_iff,
      BitVec.getLsbD_extractLsb', BitVec.getLsbD_append, BitVec.getLsbD_signExtend,
      BitVec.getLsbD_setWidth, BitVec.getLsbD_ofBool, Fields.iImmediate, Fields.sImmediate,
      Fields.bImmediate, Fields.uImmediate, Fields.jImmediate, Fields.shiftAmount, Fields.csr,
      BitVec.getLsbD_zero]
    grind

/-! ### Immediates, put together again -/

section

variable (operands : Operands w)

theorem low_part (value : BitVec w) (n : Nat) : value.extractLsb' 0 n = value.setWidth n := by
  apply BitVec.eq_of_getLsbD_eq
  intro i inside
  simp only [BitVec.getLsbD_extractLsb', BitVec.getLsbD_setWidth, Nat.zero_add]

theorem high_parts (high : BitVec 5) (acquire release : BitVec 1) :
    (high ++ acquire ++ release).extractLsb' 2 5 = high := by
  rw [BitVec.extractLsb'_append_eq_of_le (by decide)]
  exact BitVec.extractLsb'_append_eq_left

theorem join_parts (value : BitVec w) :
    value.extractLsb' 5 7 ++ value.extractLsb' 0 5 = value.setWidth 12 := by
  apply BitVec.eq_of_getLsbD_eq
  intro i inside
  simp only [BitVec.getLsbD_append, BitVec.getLsbD_extractLsb', BitVec.getLsbD_setWidth]
  grind

theorem bImmediate_fields (opcode : BitVec 7) (funct3 : BitVec 3)
    (even : operands.immediate.getLsbD 0 = false) :
    (operands.fields (.branch opcode funct3)).bImmediate = operands.immediate.setWidth 13 := by
  apply BitVec.eq_of_getLsbD_eq
  intro i inside
  simp only [Fields.bImmediate, Operands.fields, BitVec.getLsbD_append,
    BitVec.getLsbD_extractLsb', BitVec.getLsbD_setWidth, BitVec.getLsbD_zero]
  grind

theorem jImmediate_fields (opcode : BitVec 7) (even : operands.immediate.getLsbD 0 = false) :
    (operands.fields (.jump opcode)).jImmediate = operands.immediate.setWidth 21 := by
  apply BitVec.eq_of_getLsbD_eq
  intro i inside
  simp only [Fields.jImmediate, Operands.fields, BitVec.getLsbD_append,
    BitVec.getLsbD_extractLsb', BitVec.getLsbD_setWidth, BitVec.getLsbD_zero]
  grind

theorem uImmediate_fields (opcode : BitVec 7)
    (aligned : operands.immediate.setWidth 12 = 0#12) :
    (operands.fields (.upper opcode)).uImmediate = operands.immediate.setWidth 32 := by
  apply BitVec.eq_of_getLsbD_eq
  intro i inside
  have low : (operands.immediate.setWidth 12).getLsbD i = false := by
    rw [aligned, BitVec.getLsbD_zero]
  simp only [BitVec.getLsbD_setWidth] at low
  simp only [Fields.uImmediate, Operands.fields, BitVec.getLsbD_append,
    BitVec.getLsbD_extractLsb', BitVec.getLsbD_setWidth, BitVec.getLsbD_zero]
  grind

theorem shiftAmount_fields (opcode : BitVec 7) (funct3 : BitVec 3) (funct6 : BitVec 6) :
    (operands.fields (.shift opcode funct3 funct6)).shiftAmount =
      operands.immediate.setWidth 6 := by
  apply BitVec.eq_of_getLsbD_eq
  intro i inside
  simp only [Fields.shiftAmount, Operands.fields, BitVec.getLsbD_append,
    BitVec.getLsbD_extractLsb', BitVec.getLsbD_setWidth]
  grind

end

/-- The operands of a format, from the word that it puts them in. -/
theorem of_fields {layout : Layout} {operands : Operands w} (inRange : operands.InRange layout) :
    of layout (operands.fields layout) = operands.used layout := by
  cases layout
  case fence | constant | none | register | unary | addressFence => rfl
  case immediate | store =>
    simp only [of, Operands.fields, used, Fields.iImmediate, Fields.sImmediate, join_parts]
    rw [← inRange]
  case branch =>
    simp only [of, used, bImmediate_fields operands _ _ inRange.2]
    rw [← inRange.1]
    rfl
  case jump =>
    simp only [of, used, jImmediate_fields operands _ inRange.2]
    rw [← inRange.1]
    rfl
  case upper =>
    simp only [of, used, uImmediate_fields operands _ inRange.2]
    rw [← inRange.1]
    rfl
  case shift =>
    simp only [of, used, shiftAmount_fields]
    rw [← inRange]
    rfl
  case shiftWord =>
    simp only [of, used, Operands.fields, low_part]
    rw [← inRange]
  case atomic | loadReserved =>
    simp only [of, used, Operands.fields, BitVec.getLsbD_append, BitVec.getLsbD_ofBool]
    simp
  case rounded | roundedUnary =>
    simp only [of, used, Operands.fields]
    rw [← inRange]
  case fused =>
    simp only [of, used, Operands.fields, BitVec.extractLsb'_append_eq_left]
    rw [← inRange]
  case csr =>
    simp only [of, used, Operands.fields, Fields.csr, join_parts]
    rw [← inRange]
  case csrImmediate =>
    simp only [of, used, Operands.fields, Fields.csr, join_parts]
    rw [low_part, ← inRange.1, ← inRange.2]

theorem signExtended {n : Nat} (fits : n ≤ w) (value : BitVec n) :
    value.signExtend w = ((value.signExtend w).setWidth n).signExtend w := by
  congr 1
  apply BitVec.eq_of_getLsbD_eq
  intro i inside
  simp only [BitVec.getLsbD_setWidth, BitVec.getLsbD_signExtend]
  grind

theorem zeroExtended {n : Nat} (fits : n ≤ w) (value : BitVec n) :
    value.setWidth w = ((value.setWidth w).setWidth n).setWidth w := by
  rw [BitVec.setWidth_setWidth_of_le _ fits, BitVec.setWidth_eq]

/-- What a format finds is in range. -/
theorem inRange_of {layout : Layout} {fields : Fields} (wide : 32 ≤ w)
    (some : layout ≠ .none) : (of layout fields : Operands w).InRange layout := by
  cases layout
  case none => exact absurd rfl some
  case fence | constant | register | unary | addressFence | atomic | loadReserved =>
    exact trivial
  case immediate | store => exact signExtended (by omega) _
  case shift | shiftWord => exact zeroExtended (by omega) _
  case rounded | roundedUnary | fused => exact zeroExtended (by decide) fields.funct3
  case csr => exact zeroExtended (by decide) fields.csr
  case csrImmediate =>
    exact ⟨zeroExtended (by decide) fields.csr, zeroExtended (by omega) fields.rs1⟩
  case branch =>
    refine ⟨signExtended (by omega) _, ?_⟩
    simp only [of, BitVec.getLsbD_signExtend, Fields.bImmediate, BitVec.getLsbD_append]
    simp
  case jump =>
    refine ⟨signExtended (by omega) _, ?_⟩
    simp only [of, BitVec.getLsbD_signExtend, Fields.jImmediate, BitVec.getLsbD_append]
    simp
  case upper =>
    refine ⟨signExtended (by omega) _, ?_⟩
    apply BitVec.eq_of_getLsbD_eq
    intro i inside
    simp only [of, Fields.uImmediate, BitVec.getLsbD_setWidth, BitVec.getLsbD_signExtend,
      BitVec.getLsbD_append, BitVec.getLsbD_zero]
    grind

theorem validRounding_setWidth {mode : BitVec 8} (inRange : mode = (mode.setWidth 3).setWidth 8)
    (rounds : mode ≠ 5 ∧ mode ≠ 6) : Layout.ValidRounding (mode.setWidth 3) := by
  revert mode
  decide

theorem rounds_of {layout : Layout} {fields : Fields} (admits : layout.Admits fields) :
    (of layout fields : Operands w).Rounds layout := by
  have reserved : ∀ funct3 : BitVec 3, Layout.ValidRounding funct3 →
      funct3.setWidth 8 ≠ (5 : BitVec 8) ∧ funct3.setWidth 8 ≠ (6 : BitVec 8) := by
    decide
  cases layout
  case rounded | roundedUnary | fused => exact reserved fields.funct3 admits.2.1
  all_goals exact trivial

/-- Operands that are in range make a word of the format. -/
theorem admits_fields {layout : Layout} {operands : Operands w}
    (inRange : operands.InRange layout) (rounds : operands.Rounds layout) :
    layout.Admits (operands.fields layout) := by
  cases layout
  case none => exact inRange.elim
  case rounded => exact ⟨rfl, validRounding_setWidth inRange rounds, rfl⟩
  case roundedUnary => exact ⟨rfl, validRounding_setWidth inRange rounds, rfl, rfl⟩
  case fused =>
    exact ⟨rfl, validRounding_setWidth inRange rounds, BitVec.extractLsb'_append_eq_right⟩
  case shift => exact ⟨rfl, rfl, BitVec.extractLsb'_append_eq_left⟩
  case atomic => exact ⟨rfl, rfl, high_parts ..⟩
  case loadReserved => exact ⟨rfl, rfl, rfl, high_parts ..⟩
  all_goals simp [Layout.Admits, Operands.fields]

end RvEmulator.Operands
