/-!
# Stages of a group

A group rests, or it walks one of two sequences of twelve activities: `joining` brings a new signer
in, `leaving` takes one out.  Both have the same activities.  Joining first brings the keys and the
DS records at the parent in line, waits, and then the name servers; leaving does the name servers
first, waits, and then the keys.

Main statements: `Stage.ofName?_name` (names are read back), `Stage.next_walk` (following `next`
from the first activity of a direction gives its sequence and ends in `ready`).

## Contents

1. Directions and activities.
2. Stages and their names.
3. The walk: what follows an activity that is done, and one that has to be repeated.
-/

namespace MultiSigner

/-! ## 1. Directions and activities -/

/-- Why a group walks: a signer joins or a signer leaves. -/
inductive Direction
  | joining
  | leaving
  deriving Repr, DecidableEq

/-- The work of one stage. -/
inductive Activity
  | syncDnskeys
  | checkDnskeys
  | syncCds
  | checkCds
  | checkParentDs
  | removeCds
  | wait
  | syncNs
  | checkNs
  | addCsync
  | checkParentNs
  | removeCsync
  deriving Repr, DecidableEq

namespace Direction

/-- The word that the names of its stages start with. -/
def word : Direction → String
  | joining => "join"
  | leaving => "leave"

/-- The activity that a walk starts with. -/
def first : Direction → Activity
  | joining => .syncDnskeys
  | leaving => .syncNs

/-- The activities of a walk, in order. -/
def activities : Direction → List Activity
  | joining => [.syncDnskeys, .checkDnskeys, .syncCds, .checkCds, .checkParentDs, .removeCds,
      .wait, .syncNs, .checkNs, .addCsync, .checkParentNs, .removeCsync]
  | leaving => [.syncNs, .checkNs, .addCsync, .checkParentNs, .removeCsync, .wait,
      .syncDnskeys, .checkDnskeys, .syncCds, .checkCds, .checkParentDs, .removeCds]

end Direction

/-! ## 2. Stages and their names -/

/-- The automation stage of a group. -/
inductive Stage
  | ready
  | manual
  | error
  | walking (direction : Direction) (activity : Activity)
  deriving Repr, DecidableEq

instance : Inhabited Stage := ⟨.ready⟩

namespace Activity

/-- What the name of its stage ends with. -/
def word (d : Direction) : Activity → String
  | syncDnskeys => "sync-dnskeys"
  | checkDnskeys => "dnskeys-synced"
  | syncCds => "sync-cdscdnskeys"
  | checkCds => "cdscdnskeys-synced"
  | checkParentDs => "parent-ds-synced"
  | removeCds => "remove-cdscdnskeys"
  | wait =>
    match d with
    | .joining => "wait-ds"
    | .leaving => "wait-ns"
  | syncNs => "sync-nses"
  | checkNs => "nses-synced"
  | addCsync => "add-csync"
  | checkParentNs => "parent-ns-synced"
  | removeCsync => "remove-csync"

end Activity

namespace Stage

/-- The name of a stage, in commands and in the state document. -/
def name : Stage → String
  | ready => "ready"
  | manual => "manual"
  | error => "error"
  | walking d a => d.word ++ "-" ++ a.word d

/-- The stage that the walk of a direction starts in. -/
def start (d : Direction) : Stage :=
  .walking d d.first

/-- Every stage. -/
def all : List Stage :=
  [ready, manual, error]
    ++ Direction.joining.activities.map (walking .joining)
    ++ Direction.leaving.activities.map (walking .leaving)

/-- The stage of the given name. -/
def ofName? (s : String) : Option Stage :=
  all.find? fun stage => stage.name == s

/-- Whether the group walks a sequence. -/
def isWalking : Stage → Bool
  | walking _ _ => true
  | _ => false

theorem mem_all (s : Stage) : s ∈ all := by
  rcases s with _ | _ | _ | ⟨d, a⟩
  · simp [all]
  · simp [all]
  · simp [all]
  · cases d <;> cases a <;> decide

theorem name_injective_on_all : ∀ s ∈ all, ∀ t ∈ all, s.name = t.name → s = t := by decide

theorem name_injective {s t : Stage} (h : s.name = t.name) : s = t :=
  name_injective_on_all s (mem_all s) t (mem_all t) h

theorem ofName?_name (s : Stage) : ofName? s.name = some s := by
  cases h : ofName? s.name with
  | none =>
    have := List.find?_eq_none.1 h s (mem_all s)
    simp at this
  | some t =>
    have ht : t.name = s.name := by simpa using List.find?_some h
    rw [name_injective ht]

/-! ## 3. The walk -/

/-- The stage after an activity that is done.  A resting stage is followed by itself. -/
def next : Stage → Stage
  | ready => ready
  | manual => manual
  | error => error
  | walking d a =>
    match a with
    | .syncDnskeys => walking d .checkDnskeys
    | .checkDnskeys => walking d .syncCds
    | .syncCds => walking d .checkCds
    | .checkCds => walking d .checkParentDs
    | .checkParentDs => walking d .removeCds
    | .removeCds =>
      match d with
      | .joining => walking .joining .wait
      | .leaving => ready
    | .wait =>
      match d with
      | .joining => walking .joining .syncNs
      | .leaving => walking .leaving .syncDnskeys
    | .syncNs => walking d .checkNs
    | .checkNs => walking d .addCsync
    | .addCsync => walking d .checkParentNs
    | .checkParentNs => walking d .removeCsync
    | .removeCsync =>
      match d with
      | .joining => ready
      | .leaving => walking .leaving .wait

/-- The stage after a check that failed: the signers are synced again, while for the parent there
is nothing to do but to look again. -/
def retry : Stage → Stage
  | walking d .checkDnskeys => walking d .syncDnskeys
  | walking d .checkCds => walking d .syncCds
  | walking d .checkNs => walking d .syncNs
  | s => s

/-- A stage and those that follow it, `count` in all. -/
def walk : Nat → Stage → List Stage
  | 0, _ => []
  | count + 1, s => s :: walk count s.next

theorem next_walk (d : Direction) :
    walk 13 (start d) = d.activities.map (walking d) ++ [ready] := by
  cases d <;> rfl

theorem next_isWalking_or_ready (d : Direction) (a : Activity) :
    (walking d a).next = ready ∨ ∃ b, (walking d a).next = walking d b := by
  cases d <;> cases a <;> simp [next]

end Stage
end MultiSigner
