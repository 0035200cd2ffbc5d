import Mathlib.Algebra.Ring.Nat
import Mathlib.Logic.Function.Basic
import RvEmulator.Common.Types

/-! The virtually tagged instruction cache of both cores' fast mode. An entry is
current while its generation and its three hashed epochs are; a fence bumps one
of them. Address hashes and ASIDs are the core's own. -/

namespace RvEmulator

/-- How a core spreads addresses over the cache and its epoch tables. Every index
is below the length of the array it is used for. -/
structure CacheIndexing (w : Nat) where
  asid : BitVec w → BitVec 16
  entryIndex : BitVec w → BitVec w → PrivilegeMode → Nat
  asidIndex : BitVec 16 → Nat
  pageIndex : BitVec w → Nat
  asidPageIndex : BitVec w → BitVec 16 → Nat

structure InstructionCacheEntry (w : Nat) (D : Type) where
  generation : BitVec 64
  virtualAddress : BitVec w
  satp : BitVec w
  privilege : PrivilegeMode
  asidEpoch : BitVec 64
  pageEpoch : BitVec 64
  asidPageEpoch : BitVec 64
  instruction : BitVec 32
  decoded : D

/-- A value-initialised entry. Its generation is never current. -/
instance [Inhabited D] : Inhabited (InstructionCacheEntry w D) :=
  ⟨⟨0, 0, 0, .machine, 0, 0, 0, 0, default⟩⟩

structure InstructionCache (w : Nat) (D : Type) where
  entries : Nat → InstructionCacheEntry w D
  asidEpochs : Nat → BitVec 64 := fun _ => 0
  pageEpochs : Nat → BitVec 64 := fun _ => 0
  asidPageEpochs : Nat → BitVec 64 := fun _ => 0
  generation : BitVec 64 := 1

namespace InstructionCache

variable (indexing : CacheIndexing w)

/-- A freshly allocated cache. -/
def initial [Inhabited D] : InstructionCache w D := { entries := fun _ => default }

/-- Whether a lookup of `virtualAddress` under `satp` and `privilege` may be
served from an entry. -/
def serves (cache : InstructionCache w D) (virtualAddress satp : BitVec w)
    (privilege : PrivilegeMode) (entry : InstructionCacheEntry w D) : Bool :=
  let asid := indexing.asid satp
  let page := virtualAddress >>> 12
  entry.generation == cache.generation && entry.virtualAddress == virtualAddress &&
    entry.satp == satp && entry.privilege == privilege &&
    entry.asidEpoch == cache.asidEpochs (indexing.asidIndex asid) &&
    entry.pageEpoch == cache.pageEpochs (indexing.pageIndex page) &&
    entry.asidPageEpoch == cache.asidPageEpochs (indexing.asidPageIndex page asid)

def lookup (cache : InstructionCache w D) (virtualAddress satp : BitVec w)
    (privilege : PrivilegeMode) : Option (InstructionCacheEntry w D) :=
  let entry := cache.entries (indexing.entryIndex virtualAddress satp privilege)
  if cache.serves indexing virtualAddress satp privilege entry then some entry else none

/-- The entry that an insertion writes. -/
def entryFor (cache : InstructionCache w D) (virtualAddress satp : BitVec w)
    (privilege : PrivilegeMode) (instruction : BitVec 32) (decoded : D) :
    InstructionCacheEntry w D :=
  let asid := indexing.asid satp
  let page := virtualAddress >>> 12
  { generation := cache.generation
    virtualAddress
    satp
    privilege
    asidEpoch := cache.asidEpochs (indexing.asidIndex asid)
    pageEpoch := cache.pageEpochs (indexing.pageIndex page)
    asidPageEpoch := cache.asidPageEpochs (indexing.asidPageIndex page asid)
    instruction
    decoded }

def insert (cache : InstructionCache w D) (virtualAddress satp : BitVec w)
    (privilege : PrivilegeMode) (instruction : BitVec 32) (decoded : D) : InstructionCache w D :=
  { cache with
    entries := Function.update cache.entries (indexing.entryIndex virtualAddress satp privilege)
      (cache.entryFor indexing virtualAddress satp privilege instruction decoded) }

/-- Drop every entry by moving to the next generation. When the counter wraps,
entries and epochs are wiped and it restarts at one. -/
def clear [Inhabited D] (cache : InstructionCache w D) : InstructionCache w D :=
  if cache.generation + 1 = 0 then { entries := fun _ => default }
  else { cache with generation := cache.generation + 1 }

def bump (epochs : Nat → BitVec 64) (index : Nat) : Nat → BitVec 64 :=
  Function.update epochs index (epochs index + 1)

def sfence [Inhabited D] (cache : InstructionCache w D) (virtualAddress : Option (BitVec w))
    (asid : Option (BitVec 16)) : InstructionCache w D :=
  match virtualAddress, asid with
  | none, none => cache.clear
  | some virtualAddress, some asid =>
    { cache with
      asidPageEpochs :=
        bump cache.asidPageEpochs (indexing.asidPageIndex (virtualAddress >>> 12) asid) }
  | some virtualAddress, none =>
    { cache with
      pageEpochs := bump cache.pageEpochs (indexing.pageIndex (virtualAddress >>> 12)) }
  | none, some asid =>
    { cache with asidEpochs := bump cache.asidEpochs (indexing.asidIndex asid) }

@[simp] theorem entries_insert (cache : InstructionCache w D) (virtualAddress satp : BitVec w)
    (privilege : PrivilegeMode) (instruction : BitVec 32) (decoded : D) :
    (cache.insert indexing virtualAddress satp privilege instruction decoded).entries =
      Function.update cache.entries (indexing.entryIndex virtualAddress satp privilege)
        (cache.entryFor indexing virtualAddress satp privilege instruction decoded) := rfl

theorem lookup_eq_some {cache : InstructionCache w D} {virtualAddress satp : BitVec w}
    {privilege : PrivilegeMode} {entry : InstructionCacheEntry w D}
    (found : cache.lookup indexing virtualAddress satp privilege = some entry) :
    cache.entries (indexing.entryIndex virtualAddress satp privilege) = entry ∧
      cache.serves indexing virtualAddress satp privilege entry = true := by
  simp only [lookup, Option.ite_none_right_eq_some, Option.some.injEq] at found
  obtain ⟨current, same⟩ := found
  exact ⟨same, same ▸ current⟩

/-- Every entry that the cache may hand out is a good one for its instruction. Those of
generation zero are never handed out. -/
structure Sound (good : BitVec 32 → D → Prop) (cache : InstructionCache w D) : Prop where
  generation : cache.generation ≠ 0
  entries : ∀ index, (cache.entries index).generation ≠ 0 →
    good (cache.entries index).instruction (cache.entries index).decoded

namespace Sound

variable {indexing} {good : BitVec 32 → D → Prop} {cache : InstructionCache w D}

theorem initial [Inhabited D] : Sound good (InstructionCache.initial : InstructionCache w D) where
  generation := show (1 : BitVec 64) ≠ 0 by decide
  entries _ current := absurd rfl current

theorem clear [Inhabited D] (sound : Sound good cache) : Sound good cache.clear := by
  unfold InstructionCache.clear
  split
  · exact .initial
  · rename_i more
    exact ⟨more, sound.entries⟩

theorem sfence [Inhabited D] (sound : Sound good cache) (virtualAddress : Option (BitVec w))
    (asid : Option (BitVec 16)) : Sound good (cache.sfence indexing virtualAddress asid) := by
  unfold InstructionCache.sfence
  split
  · exact sound.clear
  · exact ⟨sound.generation, sound.entries⟩
  · exact ⟨sound.generation, sound.entries⟩
  · exact ⟨sound.generation, sound.entries⟩

theorem insert (sound : Sound good cache) (virtualAddress satp : BitVec w)
    (privilege : PrivilegeMode) {instruction : BitVec 32} {decoded : D}
    (holds : good instruction decoded) :
    Sound good (cache.insert indexing virtualAddress satp privilege instruction decoded) := by
  refine ⟨sound.generation, ?_⟩
  intro index
  rw [entries_insert]
  by_cases here : index = indexing.entryIndex virtualAddress satp privilege
  · subst here
    rw [Function.update_self]
    exact fun _ => holds
  · rw [Function.update_of_ne here]
    exact sound.entries index

theorem lookup (sound : Sound good cache) {virtualAddress satp : BitVec w}
    {privilege : PrivilegeMode} {entry : InstructionCacheEntry w D}
    (found : cache.lookup indexing virtualAddress satp privilege = some entry) :
    good entry.instruction entry.decoded := by
  obtain ⟨same, serves⟩ := lookup_eq_some indexing found
  simp only [InstructionCache.serves, Bool.and_eq_true, beq_iff_eq] at serves
  have current : entry.generation = cache.generation := serves.1.1.1.1.1.1
  subst same
  exact sound.entries _ (current ▸ sound.generation)

end Sound

end InstructionCache

/-! ### Fences of an address -/

namespace InstructionCache

section

variable [Inhabited D] (indexing : CacheIndexing w)

/-- What a cache can become: any number of instructions are put into it, and at most `moves`
times one of its counters moves. -/
inductive Evolves (start : InstructionCache w D) : Nat → InstructionCache w D → Prop
  | start : Evolves start 0 start
  | rest : Evolves start moves cache → Evolves start (moves + 1) cache
  | insert (virtualAddress satp : BitVec w) (privilege : PrivilegeMode) (instruction : BitVec 32)
      (decoded : D) :
      Evolves start moves cache →
        Evolves start moves
          (cache.insert indexing virtualAddress satp privilege instruction decoded)
  | clear : Evolves start moves cache → Evolves start (moves + 1) cache.clear
  | sfence (virtualAddress : Option (BitVec w)) (asid : Option (BitVec 16)) :
      Evolves start moves cache →
        Evolves start (moves + 1) (cache.sfence indexing virtualAddress asid)

theorem Evolves.trans {first second third : InstructionCache w D} {n m : Nat}
    (earlier : Evolves indexing first n second) (later : Evolves indexing second m third) :
    Evolves indexing first (n + m) third := by
  induction later with
  | start => exact earlier
  | rest _ ih => exact ih.rest
  | insert virtualAddress satp privilege instruction decoded _ ih =>
    exact ih.insert virtualAddress satp privilege instruction decoded
  | clear _ ih => exact ih.clear
  | sfence virtualAddress asid _ ih => exact ih.sfence virtualAddress asid

end

/-- The tables of epochs that the fences of an address move: for every address space, or for one. -/
inductive EpochTable where
  | page
  | asidPage
deriving DecidableEq, Repr

namespace EpochTable

variable (table : EpochTable) (indexing : CacheIndexing w)

def epochs (cache : InstructionCache w D) : Nat → BitVec 64 :=
  match table with
  | page => cache.pageEpochs
  | asidPage => cache.asidPageEpochs

/-- The epoch that an entry notes. -/
def noted (entry : InstructionCacheEntry w D) : BitVec 64 :=
  match table with
  | page => entry.pageEpoch
  | asidPage => entry.asidPageEpoch

def index (virtualAddress satp : BitVec w) : Nat :=
  match table with
  | page => indexing.pageIndex (virtualAddress >>> 12)
  | asidPage => indexing.asidPageIndex (virtualAddress >>> 12) (indexing.asid satp)

/-- The ASID of a fence that moves the table. -/
def fenced (satp : BitVec w) : Option (BitVec 16) :=
  match table with
  | page => none
  | asidPage => some (indexing.asid satp)

theorem noted_of_serves {cache : InstructionCache w D} {virtualAddress satp : BitVec w}
    {privilege : PrivilegeMode} {entry : InstructionCacheEntry w D}
    (serves : cache.serves indexing virtualAddress satp privilege entry = true) :
    entry.virtualAddress = virtualAddress ∧ entry.satp = satp ∧
      table.noted entry = table.epochs cache (table.index indexing virtualAddress satp) := by
  simp only [InstructionCache.serves, Bool.and_eq_true, beq_iff_eq] at serves
  obtain ⟨⟨⟨⟨⟨⟨_, address⟩, space⟩, _⟩, _⟩, page⟩, asidPage⟩ := serves
  refine ⟨address, space, ?_⟩
  cases table with
  | page => exact page
  | asidPage => exact asidPage

/-- No epoch is smaller, and none is larger by more than one. -/
def Moved (before after : Nat → BitVec 64) : Prop :=
  ∀ index, (before index).toNat ≤ (after index).toNat ∧
    (after index).toNat ≤ (before index).toNat + 1

theorem Moved.refl (epochs : Nat → BitVec 64) : Moved epochs epochs :=
  fun _ => ⟨Nat.le_refl _, Nat.le_succ _⟩

theorem toNat_bump {epochs : Nat → BitVec 64} {index : Nat}
    (room : (epochs index).toNat + 1 < 2 ^ 64) :
    (bump epochs index index).toNat = (epochs index).toNat + 1 := by
  unfold bump
  rw [Function.update_self, BitVec.toNat_add]
  exact Nat.mod_eq_of_lt room

theorem Moved.bump {epochs : Nat → BitVec 64} {index : Nat}
    (room : (epochs index).toNat + 1 < 2 ^ 64) : Moved epochs (bump epochs index) := by
  intro other
  by_cases same : other = index
  · rw [same, toNat_bump room]
    omega
  · unfold InstructionCache.bump
    rw [Function.update_of_ne same]
    omega

end EpochTable

open EpochTable

variable {indexing : CacheIndexing w} {table : EpochTable} [Inhabited D]

/-- The counters of a cache have moved on by one at most, and its entries are the same. -/
structure Ahead (table : EpochTable) (cache later : InstructionCache w D) : Prop where
  generation : later.generation.toNat ≤ cache.generation.toNat + 1
  moved : Moved (table.epochs cache) (table.epochs later)
  entries : later.entries = cache.entries

/-- No counter has moved more than `moves` times, and no entry notes an epoch that is yet to
come. -/
structure Recent (indexing : CacheIndexing w) (table : EpochTable) (moves : Nat)
    (cache : InstructionCache w D) : Prop where
  generation : cache.generation.toNat ≤ moves + 1
  epochs : ∀ index, (table.epochs cache index).toNat ≤ moves
  entries : ∀ slot, (table.noted (cache.entries slot)).toNat ≤
    (table.epochs cache (table.index indexing (cache.entries slot).virtualAddress
      (cache.entries slot).satp)).toNat

namespace Recent

variable {cache later : InstructionCache w D} {moves : Nat}

theorem initial : Recent indexing table 0 (initial : InstructionCache w D) where
  generation := Nat.le_refl _
  epochs index := by cases table <;> exact Nat.zero_le _
  entries slot := by cases table <;> exact Nat.zero_le _

omit [Inhabited D] in
theorem move (recent : Recent indexing table moves cache) (ahead : Ahead table cache later) :
    Recent indexing table (moves + 1) later where
  generation := by
    have before := recent.generation
    have after := ahead.generation
    omega
  epochs index := by
    have before := recent.epochs index
    have after := (ahead.moved index).2
    omega
  entries slot := by
    rw [ahead.entries]
    exact Nat.le_trans (recent.entries slot) (ahead.moved _).1

theorem ahead_clear (recent : Recent indexing table moves cache) (room : moves + 2 < 2 ^ 64) :
    Ahead table cache cache.clear := by
  have small := recent.generation
  have next : (cache.generation + 1).toNat = cache.generation.toNat + 1 := by
    rw [BitVec.toNat_add]
    exact Nat.mod_eq_of_lt (show cache.generation.toNat + 1 < 2 ^ 64 by omega)
  have goesOn : cache.generation + 1 ≠ 0 := by
    intro wrapped
    rw [wrapped] at next
    cases next
  unfold clear
  rw [if_neg goesOn]
  refine ⟨Nat.le_of_eq next, ?_, rfl⟩
  cases table <;> exact .refl _

theorem ahead_sfence (recent : ∀ table, Recent indexing table moves cache)
    (room : moves + 2 < 2 ^ 64) (virtualAddress : Option (BitVec w))
    (asid : Option (BitVec 16)) :
    Ahead table cache (cache.sfence indexing virtualAddress asid) := by
  have fits (table : EpochTable) (index : Nat) :
      (table.epochs cache index).toNat + 1 < 2 ^ 64 := by
    have small := (recent table).epochs index
    omega
  cases virtualAddress with
  | none =>
    cases asid with
    | none => exact (recent table).ahead_clear room
    | some asid =>
      refine ⟨Nat.le_succ _, ?_, rfl⟩
      cases table <;> exact .refl _
  | some virtualAddress =>
    cases asid with
    | none =>
      refine ⟨Nat.le_succ _, ?_, rfl⟩
      cases table with
      | page => exact .bump (fits .page _)
      | asidPage => exact .refl _
    | some asid =>
      refine ⟨Nat.le_succ _, ?_, rfl⟩
      cases table with
      | page => exact .refl _
      | asidPage => exact .bump (fits .asidPage _)

omit [Inhabited D] in
theorem insert (recent : Recent indexing table moves cache) (virtualAddress satp : BitVec w)
    (privilege : PrivilegeMode) (instruction : BitVec 32) (decoded : D) :
    Recent indexing table moves
      (cache.insert indexing virtualAddress satp privilege instruction decoded) where
  generation := recent.generation
  epochs index := by cases table <;> exact recent.epochs index
  entries slot := by
    rw [entries_insert]
    by_cases here : slot = indexing.entryIndex virtualAddress satp privilege
    · rw [here, Function.update_self]
      cases table <;> exact Nat.le_refl _
    · rw [Function.update_of_ne here]
      cases table <;> exact recent.entries slot

/-- A cache that counts few moves is recent, and its epochs only grow. -/
theorem evolves (recent : ∀ table, Recent indexing table moves cache) {more : Nat}
    (evolves : Evolves indexing cache more later) (room : moves + more + 1 < 2 ^ 64) :
    (∀ table, Recent indexing table (moves + more) later) ∧
      ∀ (table : EpochTable) index,
        (table.epochs cache index).toNat ≤ (table.epochs later index).toNat := by
  induction evolves with
  | start => exact ⟨recent, fun _ _ => Nat.le_refl _⟩
  | rest _ ih =>
    obtain ⟨recent, grown⟩ := ih (by omega)
    exact ⟨fun table => (recent table).move ⟨Nat.le_succ _, .refl _, rfl⟩, grown⟩
  | insert virtualAddress satp privilege instruction decoded _ ih =>
    obtain ⟨recent, grown⟩ := ih room
    refine ⟨fun table => (recent table).insert .., fun table index => ?_⟩
    cases table with
    | page => exact grown .page index
    | asidPage => exact grown .asidPage index
  | clear _ ih =>
    obtain ⟨recent, grown⟩ := ih (by omega)
    have ahead (table : EpochTable) := (recent table).ahead_clear (by omega)
    exact ⟨fun table => (recent table).move (ahead table),
      fun table index => Nat.le_trans (grown table index) ((ahead table).moved index).1⟩
  | sfence virtualAddress asid _ ih =>
    obtain ⟨recent, grown⟩ := ih (by omega)
    have ahead (table : EpochTable) : Ahead table _ _ :=
      ahead_sfence recent (by omega) virtualAddress asid
    exact ⟨fun table => (recent table).move (ahead table),
      fun table index => Nat.le_trans (grown table index) ((ahead table).moved index).1⟩

/-- The epoch of the fenced address has moved. -/
theorem fenced_epoch (recent : Recent indexing table moves cache) (room : moves + 1 < 2 ^ 64)
    (virtualAddress satp : BitVec w) :
    (table.epochs cache (table.index indexing virtualAddress satp)).toNat <
      (table.epochs (cache.sfence indexing (some virtualAddress) (table.fenced indexing satp))
        (table.index indexing virtualAddress satp)).toNat := by
  have small := recent.epochs (table.index indexing virtualAddress satp)
  have moves : (bump (table.epochs cache) (table.index indexing virtualAddress satp)
      (table.index indexing virtualAddress satp)).toNat = _ := toNat_bump (by omega)
  cases table with
  | page => exact Nat.lt_of_lt_of_eq (Nat.lt_succ_self _) moves.symm
  | asidPage => exact Nat.lt_of_lt_of_eq (Nat.lt_succ_self _) moves.symm

/-- After a fence of an address, no lookup of an address with the same index is served from an
entry that the cache held at the fence. -/
theorem forgotten (recent : ∀ table, Recent indexing table moves cache) (table : EpochTable)
    {virtualAddress address satp : BitVec w} {more : Nat}
    (evolves : Evolves indexing
      (cache.sfence indexing (some virtualAddress) (table.fenced indexing satp)) more later)
    (room : moves + more + 2 < 2 ^ 64)
    (covered : table.index indexing address satp = table.index indexing virtualAddress satp)
    {privilege : PrivilegeMode} {entry : InstructionCacheEntry w D}
    (served : later.lookup indexing address satp privilege = some entry) (slot : Nat) :
    entry ≠ cache.entries slot := by
  rintro rfl
  have old := (recent table).entries slot
  have fence := (recent table).fenced_epoch (by omega) virtualAddress satp
  have fenced (other : EpochTable) : Recent indexing other (moves + 1)
      (cache.sfence indexing (some virtualAddress) (table.fenced indexing satp)) :=
    (recent other).move (ahead_sfence recent (by omega) _ _)
  have grown := (Recent.evolves fenced evolves (by omega)).2 table
    (table.index indexing virtualAddress satp)
  obtain ⟨place, space, noted⟩ := table.noted_of_serves indexing (lookup_eq_some indexing served).2
  rw [place, space, covered] at old
  rw [noted, covered] at old
  omega

end Recent

end InstructionCache

/-! The decode cache, keyed by the complete instruction and its length. -/

structure DecodeCacheEntry (D : Type) where
  valid : Bool
  length : BitVec 8
  instruction : BitVec 32
  decoded : D

structure DecodeCache (D : Type) where
  entries : Nat → DecodeCacheEntry D

namespace DecodeCache

def clear [Inhabited D] : DecodeCache D := { entries := fun _ => ⟨false, 0, 0, default⟩ }

/-- Decode through the cache. `index` is the slot of the instruction. -/
def decode (direct : BitVec 32 → BitVec 8 → D) (index : Nat) (instruction : BitVec 32)
    (length : BitVec 8) : StateM (DecodeCache D) D := fun cache =>
  let entry := cache.entries index
  if entry.valid && entry.length == length && entry.instruction == instruction then
    (entry.decoded, cache)
  else
    let decoded := direct instruction length
    (decoded, { entries := Function.update cache.entries index ⟨true, length, instruction, decoded⟩ })

/-- Every valid entry holds what decoding its instruction gives. -/
def Faithful (direct : BitVec 32 → BitVec 8 → D) (cache : DecodeCache D) : Prop :=
  ∀ index, (cache.entries index).valid = true →
    (cache.entries index).decoded =
      direct (cache.entries index).instruction (cache.entries index).length

theorem faithful_clear [Inhabited D] (direct : BitVec 32 → BitVec 8 → D) :
    Faithful direct clear := by
  intro index valid
  cases valid

/-- A faithful cache is transparent and stays faithful. -/
theorem decode_faithful {direct : BitVec 32 → BitVec 8 → D} {cache : DecodeCache D}
    (faithful : Faithful direct cache) (index : Nat) (instruction : BitVec 32)
    (length : BitVec 8) :
    (decode direct index instruction length cache).1 = direct instruction length ∧
      Faithful direct (decode direct index instruction length cache).2 := by
  simp only [decode]
  split
  · rename_i hit
    simp only [Bool.and_eq_true, beq_iff_eq] at hit
    obtain ⟨⟨valid, sameLength⟩, sameInstruction⟩ := hit
    refine ⟨?_, faithful⟩
    rw [faithful index valid, sameLength, sameInstruction]
  · refine ⟨rfl, ?_⟩
    intro slot valid
    by_cases here : slot = index
    · subst here
      simp only [Function.update_self]
    · simp only [Function.update_of_ne here] at valid ⊢
      exact faithful slot valid

end DecodeCache

end RvEmulator
