import RvEmulator.App.TerminalConsole
import RvEmulator.Library.Unsigned

/-! The terminal stays within its screen, whatever bytes the guest sends. -/

namespace RvEmulator.App.TerminalConsole

open Library FixedArray

def Printable (character : BitVec 8) : Prop := 0x20 ≤ character ∧ character ≤ 0x7E

instance (character : BitVec 8) : Decidable (Printable character) :=
  inferInstanceAs (Decidable (_ ∧ _))

/-- What holds of a terminal after every operation. -/
structure Sound (console : TerminalConsole) : Prop where
  column : console.cursorColumn < columns
  row : console.cursorRow < rows
  index : console.parameterIndex < 4
  parameters : All (· ≤ 9999) console.parameters
  cells : All Printable console.cells

variable {console : TerminalConsole}

theorem printable_blank : Printable blank := by decide

theorem toNat_columns : columns.toNat = 80 := rfl

theorem toNat_rows : rows.toNat = 30 := rfl

theorem toNat_cells : (columns * rows).toNat = 2400 := rfl

theorem minimum_le_left (first second : BitVec w) : minimum first second ≤ first := by
  unfold minimum
  rw [BitVec.le_def, toNat_min]
  exact Nat.min_le_left _ _

theorem minimum_le_right (first second : BitVec w) : minimum first second ≤ second := by
  unfold minimum
  rw [BitVec.le_def, toNat_min]
  exact Nat.min_le_right _ _

theorem clampColumn_lt (oneBased : BitVec 32) : clampColumn oneBased < columns :=
  Nat.lt_of_le_of_lt (minimum_le_right _ _) (by decide)

theorem clampRow_lt (oneBased : BitVec 32) : clampRow oneBased < rows :=
  Nat.lt_of_le_of_lt (minimum_le_right _ _) (by decide)

/-- What a move back leaves is not more than what there was. -/
theorem sub_minimum_le (place count : BitVec 64) : place - minimum place count ≤ place := by
  have below := BitVec.le_def.mp (minimum_le_left place count)
  rw [BitVec.le_def, BitVec.toNat_sub_of_le (BitVec.le_def.mpr below)]
  exact Nat.sub_le _ _

/-! ### The screen -/

/-- Where a cell is, as the code computes it. -/
theorem toNat_place {column row : BitVec 64} (inside : column < columns) (above : row < rows) :
    (row * columns).toNat = row.toNat * 80 ∧
      (row * columns + column).toNat = row.toNat * 80 + column.toNat := by
  rw [BitVec.lt_def, toNat_columns] at inside
  rw [BitVec.lt_def, toNat_rows] at above
  have line : (row * columns).toNat = row.toNat * 80 := by
    rw [BitVec.toNat_mul_of_lt (by rw [toNat_columns]; omega), toNat_columns]
  refine ⟨line, ?_⟩
  rw [BitVec.toNat_add_of_lt (by omega), line]

theorem columns_pos : 0 < columns := by decide

theorem rows_pos : 0 < rows := by decide

theorem Sound.beginControlSequence (sound : Sound console) (state : ParserState) :
    Sound { console.beginControlSequence with parserState := state } where
  column := sound.column
  row := sound.row
  index := (by decide : (0 : BitVec 64) < 4)
  parameters := All.replicate (by decide)
  cells := sound.cells

theorem Sound.clear (console : TerminalConsole) : Sound console.clear where
  column := columns_pos
  row := rows_pos
  index := (by decide : (0 : BitVec 64) < 4)
  parameters := All.replicate (by decide)
  cells := All.replicate printable_blank

theorem Sound.cell (sound : Sound console) (column row : BitVec 64) :
    Yields (console.cell column row) Printable := by
  refine Yields.ite (fun _ => .pure printable_blank) fun inside => ?_
  rw [not_or, BitVec.not_le, BitVec.not_le] at inside
  have place := (toNat_place inside.1 inside.2).2
  have left := BitVec.lt_def.mp inside.1
  have above := BitVec.lt_def.mp inside.2
  rw [toNat_columns] at left
  rw [toNat_rows] at above
  exact sound.cells.load (by rw [place, toNat_cells]; omega)

theorem Sound.scroll (sound : Sound console) : Yields console.scroll Sound := by
  refine (sound.cells.move (by decide) (by decide) (by decide)).bind fun moved held => ?_
  refine (held.fill (by decide) (by decide) printable_blank).bind fun filled printable => ?_
  exact .pure ⟨sound.column, (by decide : rows - 1 < rows), sound.index, sound.parameters, printable⟩

theorem Sound.setDirty (sound : Sound console) (dirty : Bool) :
    Sound { console with dirty } :=
  ⟨sound.column, sound.row, sound.index, sound.parameters, sound.cells⟩

theorem Sound.setColumn {column : BitVec 64} (sound : Sound console) (inside : column < columns) :
    Sound { console with cursorColumn := column } :=
  ⟨inside, sound.row, sound.index, sound.parameters, sound.cells⟩

theorem Sound.setRow {row : BitVec 64} (sound : Sound console) (inside : row < rows) :
    Sound { console with cursorRow := row } :=
  ⟨sound.column, inside, sound.index, sound.parameters, sound.cells⟩

theorem Sound.setCells {filled : Vector (BitVec 8) (columns * rows).toNat} (sound : Sound console)
    (printable : All Printable filled) : Sound { console with cells := filled } :=
  ⟨sound.column, sound.row, sound.index, sound.parameters, printable⟩

theorem Sound.setState (sound : Sound console) (state : ParserState) :
    Sound { console with parserState := state } :=
  ⟨sound.column, sound.row, sound.index, sound.parameters, sound.cells⟩

theorem Sound.markDirty (sound : Sound console) : Sound console.markDirty := sound.setDirty true

theorem Sound.lineFeed (sound : Sound console) : Yields console.lineFeed Sound := by
  refine Yields.map ?_ fun moved (held : Sound moved) => held.markDirty
  refine Yields.ite (fun _ => sound.scroll) fun last => .pure (sound.setRow ?_)
  have above := sound.row
  unfold rows at *
  bv_omega

theorem Sound.putCharacter {character : BitVec 8} (sound : Sound console)
    (printable : Printable character) : Yields (console.putCharacter character) Sound := by
  have place := (toNat_place sound.column sound.row).2
  have left := BitVec.lt_def.mp sound.column
  have above := BitVec.lt_def.mp sound.row
  rw [toNat_columns] at left
  rw [toNat_rows] at above
  refine (sound.cells.store (by rw [place, toNat_cells]; omega) printable).bind
    fun cells held => ?_
  refine Yields.map ?_ fun moved (still : Sound moved) => still.markDirty
  refine Yields.ite (fun _ => ((sound.setCells held).setColumn columns_pos).lineFeed)
    fun within => .pure ((sound.setCells held).setColumn ?_)
  have inside := sound.column
  unfold columns at *
  bv_omega

/-! ### Control sequences -/

theorem parameter_yields (console : TerminalConsole) (index : Nat) (defaultValue : BitVec 32) :
    Yields (console.parameter index defaultValue) fun _ => True := by
  refine Yields.ite (fun _ => .pure trivial) fun inside => ?_
  have bounded : index < 4 := Nat.lt_of_not_le inside
  refine (load_yields bounded).bind fun present _ => ?_
  refine Yields.ite (fun _ => .pure trivial) fun _ => ?_
  exact (load_yields bounded).bind fun value _ => .pure trivial

theorem eraseMode_yields (console : TerminalConsole) :
    Yields console.eraseMode fun _ => True := by
  refine (load_yields (by decide)).bind fun present _ => ?_
  exact Yields.ite (fun _ => load_yields (by decide)) fun _ => .pure trivial

theorem Sound.eraseDisplay (sound : Sound console) : Yields console.eraseDisplay Sound := by
  have place := (toNat_place sound.column sound.row).2
  have left := BitVec.lt_def.mp sound.column
  have above := BitVec.lt_def.mp sound.row
  rw [toNat_columns] at left
  rw [toNat_rows] at above
  refine console.eraseMode_yields.bind fun mode _ => ?_
  refine Yields.ite (fun _ => ?_) fun _ => Yields.ite (fun _ => ?_) fun _ => ?_
  · exact .pure (((sound.setCells (All.replicate printable_blank)).setColumn columns_pos).setRow
      rows_pos)
  · refine (sound.cells.fill (Nat.zero_le _) ?_ printable_blank).bind fun filled held =>
      .pure (sound.setCells held)
    rw [BitVec.toNat_add_of_lt (by rw [place]; simp; omega), place, toNat_cells]
    simp
    omega
  · refine (sound.cells.fill ?_ (Nat.le_refl _) printable_blank).bind fun filled held =>
      .pure (sound.setCells held)
    rw [place, toNat_cells]
    omega

theorem Sound.eraseLine (sound : Sound console) : Yields console.eraseLine Sound := by
  have line := (toNat_place sound.column sound.row).1
  have left := BitVec.lt_def.mp sound.column
  have above := BitVec.lt_def.mp sound.row
  have every := toNat_cells
  rw [toNat_columns] at left
  rw [toNat_rows] at above
  refine console.eraseMode_yields.bind fun mode _ => ?_
  refine Yields.map ?_ fun filled (held : All Printable filled) => sound.setCells held
  rw [line, toNat_columns]
  refine Yields.ite (fun _ => ?_) fun _ => Yields.ite (fun _ => ?_) fun _ => ?_
  · exact sound.cells.fill (by omega) (by omega) printable_blank
  · exact sound.cells.fill (by omega) (by omega) printable_blank
  · exact sound.cells.fill (by omega) (by omega) printable_blank

theorem Sound.command (sound : Sound console) (character : BitVec 8) :
    Yields (console.command character) Sound := by
  refine Yields.ite (fun _ => ?up) fun _ => Yields.ite (fun _ => ?down) fun _ =>
    Yields.ite (fun _ => ?forward) fun _ => Yields.ite (fun _ => ?back) fun _ =>
    Yields.ite (fun _ => ?column) fun _ => Yields.ite (fun _ => ?row) fun _ =>
    Yields.ite (fun _ => ?place) fun _ => Yields.ite (fun _ => sound.eraseDisplay) fun _ =>
    Yields.ite (fun _ => sound.eraseLine) fun _ => .pure sound
  case up =>
    refine (console.parameter_yields 0 1).bind fun count _ => .pure (sound.setRow ?_)
    exact Nat.lt_of_le_of_lt (sub_minimum_le _ _) sound.row
  case down =>
    refine (console.parameter_yields 0 1).bind fun count _ => .pure (sound.setRow ?_)
    exact Nat.lt_of_le_of_lt (minimum_le_left _ _) (by decide)
  case forward =>
    refine (console.parameter_yields 0 1).bind fun count _ => .pure (sound.setColumn ?_)
    exact Nat.lt_of_le_of_lt (minimum_le_left _ _) (by decide)
  case back =>
    refine (console.parameter_yields 0 1).bind fun count _ => .pure (sound.setColumn ?_)
    exact Nat.lt_of_le_of_lt (sub_minimum_le _ _) sound.column
  case column =>
    exact (console.parameter_yields 0 1).bind fun column _ =>
      .pure (sound.setColumn (clampColumn_lt column))
  case row =>
    exact (console.parameter_yields 0 1).bind fun row _ => .pure (sound.setRow (clampRow_lt row))
  case place =>
    refine (console.parameter_yields 0 1).bind fun row _ => ?_
    exact (console.parameter_yields 1 1).bind fun column _ =>
      .pure ((sound.setRow (clampRow_lt row)).setColumn (clampColumn_lt column))

theorem Sound.consumeDigit (sound : Sound console) (character : BitVec 8) :
    Yields (console.consumeDigit character) Sound := by
  have bounded : console.parameterIndex.toNat < 4 := BitVec.lt_def.mp sound.index
  refine (load_yields bounded).bind fun value _ => ?_
  refine (sound.parameters.store bounded (minimum_le_left _ _)).bind fun parameters held => ?_
  exact (store_yields bounded).bind fun present _ =>
    .pure ⟨sound.column, sound.row, sound.index, held, sound.cells⟩

theorem Sound.consumeSequence (sound : Sound console) (character : BitVec 8) :
    Yields (console.consumeSequence character) Sound := by
  refine Yields.ite (fun _ => sound.consumeDigit character) fun _ =>
    Yields.ite (fun _ => ?separator) fun _ => Yields.ite (fun _ => .pure sound) fun _ =>
    Yields.ite (fun _ => ?final) fun _ => .pure sound
  case separator =>
    exact Yields.ite (fun within => .pure ⟨sound.column, sound.row, within, sound.parameters,
      sound.cells⟩) fun _ => .pure sound
  case final =>
    have finished : Yields (console.finishControlSequence character) Sound :=
      (sound.command character).map fun moved held => held.markDirty
    exact finished.bind fun moved held => .pure (held.setState .normal)

/-! ### Bytes -/

theorem Sound.consumeNormal (sound : Sound console) (character : BitVec 8) :
    Yields (console.consumeNormal character) Sound := by
  refine Yields.ite (fun _ => .pure (sound.setState .escape)) fun _ =>
    Yields.ite (fun _ => .pure ((sound.setColumn columns_pos).setDirty true)) fun _ =>
    Yields.ite (fun _ => sound.lineFeed) fun _ =>
    Yields.ite (fun _ => ?backspace) fun _ => Yields.ite (fun _ => ?tab) fun _ =>
    Yields.ite (fun graphic => ?put) fun _ => .pure sound
  case backspace =>
    refine Yields.ite (fun moves => ?_) fun _ => .pure sound
    have inside := sound.column
    have back : console.cursorColumn - 1 < columns := by
      unfold columns at *
      bv_omega
    exact .pure ((sound.setColumn back).setDirty true)
  case tab =>
    have inside : minimum ((console.cursorColumn + 8) &&& ~~~7) (columns - 1) < columns :=
      Nat.lt_of_le_of_lt (minimum_le_right _ _) (by decide)
    exact .pure ((sound.setColumn inside).setDirty true)
  case put =>
    refine sound.putCharacter ?_
    split
    · exact ⟨graphic.1, ‹_›⟩
    · decide

/-- One step lemma for all the states of the parser. -/
theorem Sound.consume (sound : Sound console) (character : BitVec 8) :
    Yields (console.consume character) Sound := by
  unfold TerminalConsole.consume
  split
  · exact Yields.ite (fun _ => .pure (sound.beginControlSequence _)) fun _ =>
      .pure (sound.setState .normal)
  · exact sound.consumeSequence character
  · exact sound.consumeNormal character

theorem Sound.append (sound : Sound console) (text : List (BitVec 8)) :
    Yields (console.append text) Sound :=
  Yields.foldlM (fun _ character held => held.consume character) text sound

theorem Sound.next (sound : Sound console) (operation : Operation) :
    Yields (console.next operation) Sound := by
  cases operation with
  | append text => exact sound.append text
  | clear => exact .pure (.clear console)
  | clearDirty => exact .pure (sound.setDirty false)

theorem Sound.run (sound : Sound console) (operations : List Operation) :
    Yields (console.run operations) Sound :=
  Yields.foldlM (fun _ operation held => held.next operation) operations sound

/-! ### Chunks -/

/-- An operation, with one byte in each call of `append`. -/
def Operation.bytewise : Operation → List Operation
  | .append text => text.map fun character => .append [character]
  | .clear => [.clear]
  | .clearDirty => [.clearDirty]

theorem append_eq_run (text : List (BitVec 8)) (console : TerminalConsole) :
    console.append text = console.run (text.map fun character => .append [character]) := by
  unfold TerminalConsole.append TerminalConsole.run
  rw [List.foldlM_map]
  congr 1
  funext console character
  simp [TerminalConsole.next, TerminalConsole.append]

theorem run_bytewise (operations : List Operation) (console : TerminalConsole) :
    console.run operations = console.run (operations.flatMap Operation.bytewise) := by
  induction operations generalizing console with
  | nil => rfl
  | cons operation operations ih =>
    have same : console.next operation = console.run operation.bytewise := by
      cases operation with
      | append text => exact append_eq_run text console
      | clear => rfl
      | clearDirty => rfl
    rw [List.flatMap_cons, TerminalConsole.run, TerminalConsole.run, List.foldlM_cons,
      List.foldlM_append]
    change _ = console.run operation.bytewise >>= _
    rw [← same]
    exact congrArg _ (funext ih)

/-- No access is outside of the arrays, what holds of the screen is kept, and the bytes alone
decide the result, however they come in calls of `append`. -/
theorem terminal_within_screen (operations : List Operation) :
    Yields (initial.run operations) Sound ∧
      initial.run operations = initial.run (operations.flatMap Operation.bytewise) :=
  ⟨(Sound.clear _).run operations, run_bytewise operations initial⟩

end RvEmulator.App.TerminalConsole
