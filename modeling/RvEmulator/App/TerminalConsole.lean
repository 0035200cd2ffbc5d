import RvEmulator.Library.FixedArray

/-! The text screen of the terminal window (`app/src/terminal_console.cpp`), whose bytes come
from the guest. Accesses to its arrays are checked. -/

namespace RvEmulator.App

open Library FixedArray

def columns : BitVec 64 := 80

def rows : BitVec 64 := 30

def byte (character : Char) : BitVec 8 := BitVec.ofNat 8 character.toNat

def blank : BitVec 8 := byte ' '

inductive ParserState where
  | normal
  | escape
  | controlSequence
deriving DecidableEq, Repr

structure TerminalConsole where
  cells : Vector (BitVec 8) (columns * rows).toNat := .replicate _ 0
  cursorColumn : BitVec 64 := 0
  cursorRow : BitVec 64 := 0
  parserState : ParserState := .normal
  parameters : Vector (BitVec 32) 4 := .replicate _ 0
  parameterPresent : Vector Bool 4 := .replicate _ false
  parameterIndex : BitVec 64 := 0
  dirty : Bool := true
deriving DecidableEq

namespace TerminalConsole

/-- `std::min`. -/
def minimum (first second : BitVec w) : BitVec w := if second < first then second else first

def beginControlSequence (console : TerminalConsole) : TerminalConsole :=
  { console with
    parameters := .replicate _ 0, parameterPresent := .replicate _ false, parameterIndex := 0 }

def clear (console : TerminalConsole) : TerminalConsole :=
  { beginControlSequence
      { console with
        cells := .replicate _ blank, cursorColumn := 0, cursorRow := 0, parserState := .normal }
    with dirty := true }

def initial : TerminalConsole := clear {}

def clearDirty (console : TerminalConsole) : TerminalConsole := { console with dirty := false }

def cell (console : TerminalConsole) (column row : BitVec 64) : Option (BitVec 8) :=
  if columns ≤ column ∨ rows ≤ row then some blank
  else load console.cells (row * columns + column).toNat

def scroll (console : TerminalConsole) : Option TerminalConsole := do
  let cells ← move console.cells columns.toNat (columns * rows).toNat 0
  let cells ← fill cells ((columns * rows).toNat - columns.toNat) (columns * rows).toNat blank
  pure { console with cells, cursorRow := rows - 1 }

def markDirty (console : TerminalConsole) : TerminalConsole := { console with dirty := true }

def lineFeed (console : TerminalConsole) : Option TerminalConsole :=
  markDirty <$>
    if console.cursorRow + 1 = rows then scroll console
    else pure { console with cursorRow := console.cursorRow + 1 }

def putCharacter (character : BitVec 8) (console : TerminalConsole) : Option TerminalConsole := do
  let cells ← store console.cells (console.cursorRow * columns + console.cursorColumn).toNat
    character
  let column := console.cursorColumn + 1
  markDirty <$>
    if column = columns then lineFeed { console with cells, cursorColumn := 0 }
    else pure { console with cells, cursorColumn := column }

def parameter (console : TerminalConsole) (index : Nat) (defaultValue : BitVec 32) :
    Option (BitVec 32) :=
  if 4 ≤ index then pure defaultValue
  else do
    let present ← load console.parameterPresent index
    if present = false then pure defaultValue
    else do
      let value ← load console.parameters index
      pure (if value = 0 then defaultValue else value)

def clampColumn (oneBased : BitVec 32) : BitVec 64 :=
  minimum ((if oneBased = 0 then 0 else oneBased - 1).setWidth 64) (columns - 1)

def clampRow (oneBased : BitVec 32) : BitVec 64 :=
  minimum ((if oneBased = 0 then 0 else oneBased - 1).setWidth 64) (rows - 1)

/-- The first parameter of an erase command, or 0. -/
def eraseMode (console : TerminalConsole) : Option (BitVec 32) := do
  let present ← load console.parameterPresent 0
  if present then load console.parameters 0 else pure 0

/-- Command `J`. -/
def eraseDisplay (console : TerminalConsole) : Option TerminalConsole := do
  let mode ← console.eraseMode
  let cursor := console.cursorRow * columns + console.cursorColumn
  if mode = 2 ∨ mode = 3 then
    pure { console with cells := .replicate _ blank, cursorColumn := 0, cursorRow := 0 }
  else if mode = 1 then do
    let cells ← fill console.cells 0 (cursor + 1).toNat blank
    pure { console with cells }
  else do
    let cells ← fill console.cells cursor.toNat (columns * rows).toNat blank
    pure { console with cells }

/-- Command `K`. -/
def eraseLine (console : TerminalConsole) : Option TerminalConsole := do
  let mode ← console.eraseMode
  let lineBegin := (console.cursorRow * columns).toNat
  let cursor := lineBegin + console.cursorColumn.toNat
  let lineEnd := lineBegin + columns.toNat
  (fun cells => { console with cells }) <$>
    if mode = 2 then fill console.cells lineBegin lineEnd blank
    else if mode = 1 then fill console.cells lineBegin (cursor + 1) blank
    else fill console.cells cursor lineEnd blank

/-- What a command does to the screen and the cursor. -/
def command (character : BitVec 8) (console : TerminalConsole) : Option TerminalConsole :=
  if character = byte 'A' then do
    let count ← console.parameter 0 1
    pure { console with
      cursorRow := console.cursorRow - minimum console.cursorRow (count.setWidth 64) }
  else if character = byte 'B' then do
    let count ← console.parameter 0 1
    pure { console with cursorRow := minimum (rows - 1) (console.cursorRow + count.setWidth 64) }
  else if character = byte 'C' then do
    let count ← console.parameter 0 1
    pure { console with
      cursorColumn := minimum (columns - 1) (console.cursorColumn + count.setWidth 64) }
  else if character = byte 'D' then do
    let count ← console.parameter 0 1
    pure { console with
      cursorColumn := console.cursorColumn - minimum console.cursorColumn (count.setWidth 64) }
  else if character = byte 'G' then do
    let column ← console.parameter 0 1
    pure { console with cursorColumn := clampColumn column }
  else if character = byte 'd' then do
    let row ← console.parameter 0 1
    pure { console with cursorRow := clampRow row }
  else if character = byte 'H' ∨ character = byte 'f' then do
    let row ← console.parameter 0 1
    let column ← console.parameter 1 1
    pure { console with cursorRow := clampRow row, cursorColumn := clampColumn column }
  else if character = byte 'J' then console.eraseDisplay
  else if character = byte 'K' then console.eraseLine
  else pure console

def finishControlSequence (character : BitVec 8) (console : TerminalConsole) :
    Option TerminalConsole := markDirty <$> command character console

/-- A digit of a parameter. -/
def consumeDigit (character : BitVec 8) (console : TerminalConsole) :
    Option TerminalConsole := do
  let digit := (character - byte '0').setWidth 32
  let index := console.parameterIndex.toNat
  let value ← load console.parameters index
  let parameters ← store console.parameters index (minimum 9999 (value * 10 + digit))
  let parameterPresent ← store console.parameterPresent index true
  pure { console with parameters, parameterPresent }

def consumeSequence (character : BitVec 8) (console : TerminalConsole) : Option TerminalConsole :=
  if byte '0' ≤ character ∧ character ≤ byte '9' then consumeDigit character console
  else if character = byte ';' then
    if console.parameterIndex + 1 < 4 then
      pure { console with parameterIndex := console.parameterIndex + 1 }
    else pure console
  else if character = byte '?' ∨ character = byte '>' then pure console
  else if 0x40 ≤ character ∧ character ≤ 0x7E then do
    let console ← finishControlSequence character console
    pure { console with parserState := .normal }
  else pure console

def consumeNormal (character : BitVec 8) (console : TerminalConsole) : Option TerminalConsole :=
  if character = 0x1B then pure { console with parserState := .escape }
  else if character = 0x0D then pure { console with cursorColumn := 0, dirty := true }
  else if character = 0x0A ∨ character = 0x0B ∨ character = 0x0C then lineFeed console
  else if character = 0x08 then
    if console.cursorColumn ≠ 0 then
      pure { console with cursorColumn := console.cursorColumn - 1, dirty := true }
    else pure console
  else if character = 0x09 then
    let nextTab := (console.cursorColumn + 8) &&& ~~~7
    pure { console with cursorColumn := minimum nextTab (columns - 1), dirty := true }
  else if 0x20 ≤ character ∧ character ≠ 0x7F then
    putCharacter (if character ≤ 0x7E then character else byte '?') console
  else pure console

def consume (console : TerminalConsole) (character : BitVec 8) : Option TerminalConsole :=
  match console.parserState with
  | .escape =>
    if character = byte '[' then
      pure { beginControlSequence console with parserState := .controlSequence }
    else pure { console with parserState := .normal }
  | .controlSequence => consumeSequence character console
  | .normal => consumeNormal character console

def append (text : List (BitVec 8)) (console : TerminalConsole) : Option TerminalConsole :=
  text.foldlM consume console

inductive Operation where
  | append (text : List (BitVec 8))
  | clear
  | clearDirty
deriving DecidableEq, Repr

def next (console : TerminalConsole) : Operation → Option TerminalConsole
  | .append text => console.append text
  | .clear => some console.clear
  | .clearDirty => some console.clearDirty

def run (operations : List Operation) (console : TerminalConsole) : Option TerminalConsole :=
  operations.foldlM next console

end TerminalConsole

end RvEmulator.App
