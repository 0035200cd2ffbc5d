import Mathlib.Data.List.Basic

/-! A state together with the events that have led to it. -/

namespace RvEmulator.Library

/-- The events are kept to speak of them; the state is all that a step depends on. -/
structure History (next : σ → ε → σ) (start : σ) where
  state : σ
  events : List ε
  reached : events.foldl next start = state

namespace History

variable {next : σ → ε → σ} {start : σ}

def initial : History next start where
  state := start
  events := []
  reached := rfl

def addAll (history : History next start) (events : List ε) : History next start where
  state := events.foldl next history.state
  events := history.events ++ events
  reached := by rw [List.foldl_append, history.reached]

def add (history : History next start) (event : ε) : History next start := history.addAll [event]

/-- What holds at the start and after every event holds now. -/
theorem invariant {holds : σ → Prop} (first : holds start)
    (kept : ∀ state event, holds state → holds (next state event)) (history : History next start) :
    holds history.state := by
  rw [← history.reached]
  suffices run : ∀ events state, holds state → holds (List.foldl next state events) from
    run history.events start first
  intro events
  induction events with
  | nil => exact fun _ now => now
  | cons event rest ih => exact fun state now => ih _ (kept state event now)

/-- Nothing but further events lies between the two. -/
def Extends (old new : History next start) : Prop := old.events <+: new.events

variable {old middle new : History next start}

theorem Extends.refl (history : History next start) : Extends history history :=
  List.prefix_refl history.events

theorem Extends.trans (first : Extends old middle) (second : Extends middle new) :
    Extends old new :=
  List.IsPrefix.trans first second

theorem extends_addAll (history : History next start) (events : List ε) :
    Extends history (history.addAll events) :=
  List.prefix_append history.events events

theorem extends_add (history : History next start) (event : ε) :
    Extends history (history.add event) :=
  history.extends_addAll [event]

/-- The further events lead from the one state to the other. -/
theorem state_of_append {events : List ε} (appended : new.events = old.events ++ events) :
    new.state = events.foldl next old.state := by
  rw [← new.reached, appended, List.foldl_append, old.reached]

end History

end RvEmulator.Library
