import MultiSigner.State.Basic
/-!
# When two documents say the same

Documents say the same if they differ at most in the spelling of names and in the distance to
universal time in which deadlines are written.  A document is saved when it says something new.
-/

namespace MultiSigner

/-- Whether two deadlines are the same instant, or both missing. -/
def sameDeadline : Option Timestamp → Option Timestamp → Bool
  | none, none => true
  | some t, some u => t.same u
  | _, _ => false

/-- Whether two groups say the same. -/
def Group.same (g h : Group) : Bool :=
  g.signers == h.signers && g.parent == h.parent && g.stage == h.stage && g.error == h.error
    && sameDeadline g.waitDs h.waitDs && sameDeadline g.waitNs h.waitNs && g.ttl == h.ttl
    && g.synced == h.synced

/-- Whether two signers say the same. -/
def Signer.same (s t : Signer) : Bool :=
  s.group == t.group && s.address == t.address && s.nameserver == t.nameserver
    && s.kind == t.kind && s.credential == t.credential && s.leaving == t.leaving
    && s.combined == t.combined

/-- Whether two documents say the same. -/
def State.same (s t : State) : Bool :=
  s.groups.same Group.same t.groups && s.signers.same Signer.same t.signers
    && s.tsigKeys.same (· == ·) t.tsigKeys && s.tokens.same (· == ·) t.tokens
    && s.dnskeyOrigin.same (· == ·) t.dnskeyOrigin && s.nsOrigin.same (· == ·) t.nsOrigin
    && s.autostart == t.autostart && s.settings.same (· == ·) t.settings

end MultiSigner
