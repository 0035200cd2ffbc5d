import RvEmulator.Platform.SystemBus

/-! Reservations against a history of events: a reservation is current if and
only if the history arms it, as long as the write epoch does not wrap. -/

namespace RvEmulator.Platform

/-- What an operation did, as far as reservations are concerned. A write is a
successful one of any kind; a store-conditional is an aligned one. -/
inductive Event where
  | loadReserved (hart : BitVec 32) (address : PhysAddr) (width : AccessWidth)
  | wrote
  | storeConditional (hart : BitVec 32) (succeeded : Bool)
  | cleared
  | unrelated
deriving DecidableEq

namespace Event

/-- The event is a successful bus write. -/
def writes : Event → Bool
  | .wrote | .storeConditional _ true => true
  | _ => false

/-- The event ends an earlier reservation of a hart, or replaces it. -/
def disturbs (hart : BitVec 32) : Event → Bool
  | .loadReserved other _ _ => other == hart
  | .wrote | .cleared | .storeConditional _ true => true
  | .storeConditional other false => other == hart
  | .unrelated => false

end Event

/-- The last successful load-reserved of a hart was at this address and width,
and nothing has disturbed it since. The newest event comes first. -/
def Armed (hart : BitVec 32) (address : PhysAddr) (width : AccessWidth) (log : List Event) : Prop :=
  ∃ newer older, log = newer ++ .loadReserved hart address width :: older ∧
    ∀ event ∈ newer, event.disturbs hart = false

theorem armed_cons {hart : BitVec 32} {address : PhysAddr} {width : AccessWidth} {event : Event}
    {log : List Event} :
    Armed hart address width (event :: log) ↔
      event = .loadReserved hart address width ∨
        (event.disturbs hart = false ∧ Armed hart address width log) := by
  constructor
  · rintro ⟨newer, older, same, quiet⟩
    cases newer with
    | nil =>
      left
      simpa using (List.cons.inj same).1
    | cons first rest =>
      obtain ⟨rfl, remaining⟩ := List.cons.inj same
      exact .inr ⟨quiet _ List.mem_cons_self, rest, older, remaining,
        fun event member => quiet event (List.mem_cons_of_mem _ member)⟩
  · rintro (rfl | ⟨calm, newer, older, rfl, quiet⟩)
    · exact ⟨[], log, rfl, fun _ member => nomatch member⟩
    · refine ⟨event :: newer, older, rfl, ?_⟩
      intro other member
      rcases List.mem_cons.mp member with rfl | later
      · exact calm
      · exact quiet other later

/-- The number of successful writes of a log. -/
def writeCount (log : List Event) : Nat := log.countP Event.writes

theorem writeCount_cons (event : Event) (log : List Event) :
    writeCount (event :: log) = writeCount log + if event.writes then 1 else 0 :=
  List.countP_cons

/-- The fields of the bus that reservations live in. -/
structure Monitor where
  reservations : BitVec 32 → Option Reservation
  writeEpoch : BitVec 64

namespace Monitor

/-- What an event does to them. -/
def track (monitor : Monitor) : Event → Monitor
  | .loadReserved hart address width =>
    { monitor with
      reservations := Function.update monitor.reservations hart
        (some { address, width, writeEpoch := monitor.writeEpoch }) }
  | .wrote => { monitor with writeEpoch := monitor.writeEpoch + 1 }
  | .storeConditional hart succeeded =>
    { reservations := Function.update monitor.reservations hart none
      writeEpoch := if succeeded then monitor.writeEpoch + 1 else monitor.writeEpoch }
  | .cleared => { monitor with reservations := fun _ => none }
  | .unrelated => monitor

def Matches (monitor : Monitor) (hart : BitVec 32) (address : PhysAddr) (width : AccessWidth) :
    Prop :=
  monitor.reservations hart = some { address, width, writeEpoch := monitor.writeEpoch }

/-- The epoch counts the writes, reservations are never from the future, and the
current ones are those that the log arms. -/
structure Tracks (log : List Event) (monitor : Monitor) : Prop where
  epoch : monitor.writeEpoch = BitVec.ofNat 64 (writeCount log)
  past : ∀ hart reservation, monitor.reservations hart = some reservation →
    reservation.writeEpoch.toNat ≤ writeCount log
  armed : ∀ hart address width, monitor.Matches hart address width ↔ Armed hart address width log

theorem tracks_nil : Tracks [] { reservations := fun _ => none, writeEpoch := 0 } where
  epoch := rfl
  past _ _ some := nomatch some
  armed hart address width := by
    constructor
    · exact fun matched => nomatch matched
    · rintro ⟨newer, older, same, _⟩
      cases newer <;> cases same

/-- After a write no reservation is current, as long as the epoch does not wrap. -/
theorem not_matches_of_write {log : List Event} {monitor : Monitor} (tracks : Tracks log monitor)
    (few : writeCount log + 1 < 2 ^ 64) {reservations : BitVec 32 → Option Reservation}
    (older : ∀ hart, reservations hart = none ∨ reservations hart = monitor.reservations hart)
    (hart : BitVec 32) (address : PhysAddr) (width : AccessWidth) :
    ¬Matches { reservations, writeEpoch := monitor.writeEpoch + 1 } hart address width := by
  intro matched
  unfold Matches at matched
  dsimp only at matched
  rcases older hart with none | same
  · rw [none] at matched
    cases matched
  · rw [same] at matched
    have before := tracks.past hart _ matched
    have next : (monitor.writeEpoch + 1).toNat = writeCount log + 1 := by
      rw [tracks.epoch, show (1 : BitVec 64) = BitVec.ofNat 64 1 from rfl, ← BitVec.ofNat_add,
        BitVec.toNat_ofNat, Nat.mod_eq_of_lt few]
    dsimp only at before
    omega

/-- Step lemma: an event keeps the monitor in accordance with the log. -/
theorem Tracks.step {log : List Event} {monitor : Monitor} (tracks : Tracks log monitor)
    (event : Event) (few : writeCount (event :: log) < 2 ^ 64) :
    Tracks (event :: log) (monitor.track event) := by
  have counted := writeCount_cons event log
  cases event with
  | loadReserved hart address width =>
    refine ⟨tracks.epoch, ?_, ?_⟩
    · intro other reservation found
      simp only [track] at found
      by_cases same : other = hart
      · subst same
        rw [Function.update_self] at found
        cases found
        dsimp only
        rw [tracks.epoch, BitVec.toNat_ofNat]
        exact (Nat.mod_le _ _).trans (by omega)
      · rw [Function.update_of_ne same] at found
        exact (tracks.past other reservation found).trans (by omega)
    · intro other place size
      rw [armed_cons, ← tracks.armed]
      by_cases same : other = hart
      · subst same
        simp only [track, Matches, Function.update_self, Option.some.injEq, Reservation.mk.injEq,
          and_true, Event.loadReserved.injEq, true_and, Event.disturbs, beq_self_eq_true,
          Bool.true_eq_false, false_and, or_false]
      · simp only [track, Matches, Function.update_of_ne same, Event.loadReserved.injEq,
          Event.disturbs, Ne.symm same, false_and, false_or, beq_eq_false_iff_ne, ne_eq,
          not_false_eq_true, true_and]
  | wrote =>
    simp only [Event.writes, if_true] at counted
    refine ⟨?_, ?_, ?_⟩
    · rw [counted, BitVec.ofNat_add, ← tracks.epoch]
      rfl
    · intro hart reservation found
      exact (tracks.past hart reservation found).trans (by omega)
    · intro hart address width
      rw [armed_cons]
      simp only [reduceCtorEq, Event.disturbs, Bool.true_eq_false, false_and, or_false, iff_false]
      exact not_matches_of_write tracks (by omega) (fun _ => .inr rfl) hart address width
  | storeConditional hart succeeded =>
    have older : ∀ other, Function.update monitor.reservations hart none other = none ∨
        Function.update monitor.reservations hart none other = monitor.reservations other := by
      intro other
      by_cases same : other = hart
      · exact .inl (by rw [same, Function.update_self])
      · exact .inr (Function.update_of_ne same _ _)
    have past : ∀ other reservation,
        Function.update monitor.reservations hart none other = some reservation →
        reservation.writeEpoch.toNat ≤ writeCount log := by
      intro other reservation found
      rcases older other with none | same
      · rw [none] at found
        cases found
      · exact tracks.past other reservation (same ▸ found)
    cases succeeded with
    | true =>
      simp only [Event.writes, if_true] at counted
      refine ⟨?_, fun other reservation found => (past other reservation found).trans (by omega), ?_⟩
      · simp only [track, if_true]
        rw [counted, BitVec.ofNat_add, ← tracks.epoch]
        rfl
      · intro other address width
        rw [armed_cons]
        simp only [reduceCtorEq, Event.disturbs, Bool.true_eq_false, false_and, or_false, iff_false]
        exact not_matches_of_write tracks (by omega) older other address width
    | false =>
      simp only [Event.writes, Bool.false_eq_true, if_false, Nat.add_zero] at counted
      refine ⟨?_, fun other reservation found => (past other reservation found).trans (by omega), ?_⟩
      · simp only [track, Bool.false_eq_true, if_false]
        rw [counted, tracks.epoch]
      · intro other address width
        rw [armed_cons, ← tracks.armed]
        by_cases same : other = hart
        · subst same
          simp [track, Matches, Event.disturbs]
        · simp [track, Matches, Event.disturbs, Function.update_of_ne same, Ne.symm same]
  | cleared =>
    refine ⟨tracks.epoch, fun _ _ found => (nomatch found), ?_⟩
    intro hart address width
    rw [armed_cons]
    simp [track, Matches, Event.disturbs]
  | unrelated =>
    refine ⟨tracks.epoch, tracks.past, ?_⟩
    intro hart address width
    rw [armed_cons, ← tracks.armed]
    simp [track, Matches, Event.disturbs]

end Monitor

end RvEmulator.Platform
