import MultiSigner.Event
/-!
# Observers

Observers are told events one after the other.  Up to `capacity` events are kept for one that is
slow; after that it misses the oldest ones.  A `Feed` keeps events for any number of observers, each
of which only has to know how many events it has seen.

Main statements: `Observer.kept_eq_self` (an observer that keeps up misses nothing) and
`Observer.Feed.since_publish` (an observer that has seen everything then gets what is published).
-/

namespace MultiSigner.Rpc.Observer

/-- The number of events that are kept for an observer. -/
def capacity : Nat := 256

/-- The events that an observer gets of those that were published while it did not look. -/
def kept (events : List Event) : List Event :=
  events.drop (events.length - capacity)

theorem length_kept_le (events : List Event) : (kept events).length ≤ capacity := by
  simp only [kept, List.length_drop]
  omega

theorem kept_eq_self {events : List Event} (h : events.length ≤ capacity) :
    kept events = events := by
  rw [kept, Nat.sub_eq_zero_of_le h, List.drop_zero]

/-- The number of events that were published, and the latest of them. -/
structure Feed where
  count : Nat := 0
  recent : List Event := []
  deriving Repr, DecidableEq

namespace Feed

/-- Publishes events. -/
def publish (f : Feed) (events : List Event) : Feed :=
  ⟨f.count + events.length, kept (f.recent ++ events)⟩

/-- What there is for an observer that has seen the first `seen` events. -/
def since (f : Feed) (seen : Nat) : List Event :=
  f.recent.drop (f.recent.length - (f.count - seen))

theorem since_publish (f : Feed) {events : List Event} (h : events.length ≤ capacity) :
    (f.publish events).since f.count = events := by
  simp only [publish, since, kept, List.length_drop, List.length_append, List.drop_drop,
    Nat.add_sub_cancel_left]
  rw [show f.recent.length + events.length - capacity
      + (f.recent.length + events.length - (f.recent.length + events.length - capacity)
        - events.length) = f.recent.length by omega]
  exact List.drop_left

end Feed

end MultiSigner.Rpc.Observer
