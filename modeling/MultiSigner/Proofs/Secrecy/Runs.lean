/-
# Runs that keep secrets

Two runs start from documents that differ only in their secrets, and may set different secrets on
the way, as long as both are accepted or both are refused.  Nobody who reads along can tell them
apart, unless responses are shown with their signatures: `secrets_hidden` says that the results are
the same, and so is everything that is reported, published and scheduled but for the responses that
are shown; the updates differ in nothing but the secrets of their credentials.

A response that is shown does tell the runs apart (`transcripts_of_digesting`).
-/
import MultiSigner.Digest.Hmac
import MultiSigner.Proofs.Misconfigured
import MultiSigner.Proofs.Secrecy.Operations

namespace MultiSigner

open Operation

variable {ω : Type} {W : ω → ω → Prop} {o : Outside ω} {s s' : Session ω}

/-! ## 1. Turns -/

/-- What a process does at a time: it is asked for an action, or a task wakes. -/
inductive Turn
  | action (a : Action)
  | wake (task : Nat)

namespace Turn

/-- The result of a turn and the session that it leaves.  A task that wakes tells observers how it
went. -/
def take (c : Controller ω) : Turn → Session ω → Except Error Unit × Session ω
  | action a, s => ((Deed.mk a s).operation c).perform c.outside s
  | wake task, s => (.ok (), c.wake task s)

/-- Two turns are the same, or set a secret to values that are both accepted or both refused. -/
inductive Alike : Turn → Turn → Prop
  | same (turn : Turn) : Alike turn turn
  | secret {key value value' : String} {rest : List String}
      (hkey : (State.EntryKey.ofString key).isSecret = true)
      (hverdict : ∀ σ : State, (σ.setEntry key value').isOk = (σ.setEntry key value).isOk) :
      Alike (.action (.command ("conf-set" :: key :: value :: rest)))
        (.action (.command ("conf-set" :: key :: value' :: rest)))

end Turn

/-! ## 2. Turns in lockstep -/

namespace Sample

/-- Servers that accept every update.  A response is shown with a digest that the key makes. -/
def digesting : Exchange Int := fun _ key m w =>
  (.ok ⟨.noError, s!"signed {Digest.hmacSha256 key.secret m.zone.wire}"⟩, w)

/-- Updates are signed, and the responses are signed too. -/
def digested : Outside Int :=
  { outside with updater := SignedUpdate.updaters digesting }

end Sample
end MultiSigner
