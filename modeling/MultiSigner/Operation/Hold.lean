import MultiSigner.Operation.Observe
/-!
# Holding until old records are forgotten

After a change, resolvers may go on using the records they know.  A group is held until twice the
largest time to live of the records involved has passed.  The deadline is stored, so that asking
again gives the same one until it is cleared.

## Contents

1. The two holds.
2. Deadlines in the document.
3. The operation.
-/

namespace MultiSigner

/-! ## 1. The two holds -/

/-- What a group waits for. -/
inductive Hold
  /-- Keys at the signers and references to them at the parent. -/
  | ds
  /-- Name servers at the signers and at the parent. -/
  | ns
  deriving Repr, DecidableEq

namespace Hold

/-- How a hold is called. -/
def name : Hold → String
  | ds => "DS"
  | ns => "NS"

/-- The records that the signers are asked for. -/
def signerKind : Hold → RecordKind
  | ds => .dnskey
  | ns => .ns

/-- The records that the parent is asked for. -/
def parentKind : Hold → RecordKind
  | ds => .ds
  | ns => .ns

/-! ## 2. Deadlines -/

/-- The deadline of a group. -/
def deadline : Hold → Group → Option Timestamp
  | ds, g => g.waitDs
  | ns, g => g.waitNs

/-- The group with another deadline. -/
def withDeadline (h : Hold) (t : Option Timestamp) (g : Group) : Group :=
  match h with
  | ds => { g with waitDs := t }
  | ns => { g with waitNs := t }

theorem deadline_withDeadline (h : Hold) (t : Option Timestamp) (g : Group) :
    h.deadline (h.withDeadline t g) = t := by
  cases h <;> rfl

/-- Forgets the deadline of a group. -/
def clear (h : Hold) (zone : DomainName) (s : State) : State :=
  s.modifyGroup zone (h.withDeadline none)

/-! ## 3. The operation -/

open Operation

variable {ω : Type}

/-- Reports a deadline. -/
def report (deadline now : Timestamp) : Operation ω Unit := do
  match deadline.text? with
  | none => throw .timestampFormat
  | some text => line s!"Wait until {text} ({deadline.remainingSeconds now}s)"

/-- Asks one server, reports its records and gives their largest time to live. -/
def askTtl (zone : DomainName) (kind : RecordKind) (label server : String) :
    Operation ω UInt32 := do
  let answer ← query server zone kind
  lines (answer.records.map fun r => s!"{label}: {r.data.text} ttl {r.ttl}")
  return answer.maxTtl

/-- Works out the largest time to live of the records involved. -/
def largestTtl (h : Hold) (zone : DomainName) : Operation ω UInt32 := do
  let members ← groupMembers zone
  let ttls ← members.mapM fun m => do
    checkAddress m
    askTtl zone h.signerKind m.name m.signer.address
  let parent ← parentAddress zone
  let ttl ← askTtl zone h.parentKind "parent" parent
  return (ttls ++ [ttl]).foldl max 0

/-- The deadline of a group, which is worked out and stored if there is none. -/
def wait (h : Hold) (zone : DomainName) : Operation ω Timestamp := do
  let now ← now
  let g ← (← state).group zone
  match h.deadline g with
  | some t =>
    report t now
    return t
  | none =>
    let ttl ← largestTtl h zone
    line s!"Largest TTL {ttl}"
    let t := now.addSeconds (2 * ttl.toNat)
    modifyState fun s => s.modifyGroup zone (h.withDeadline (some t))
    report t now
    return t

end Hold
end MultiSigner
