/-!
# Kinds of updates

How the records of a signer are changed: by signed DNS update messages, or through the interface of
a provider.
-/

namespace MultiSigner

/-- The mechanism that changes a signer's records. -/
inductive UpdaterKind
  /-- Signed update messages. -/
  | nsupdate
  /-- A provider, with a token. -/
  | desec
  deriving Repr, DecidableEq

instance : Inhabited UpdaterKind := ⟨.nsupdate⟩

namespace UpdaterKind

/-- The name of a kind, in commands and in the state document. -/
def name : UpdaterKind → String
  | nsupdate => "nsupdate"
  | desec => "desec"

/-- The kind of the given name. -/
def ofName? (s : String) : Option UpdaterKind :=
  [nsupdate, desec].find? fun k => k.name == s

theorem ofName?_name (k : UpdaterKind) : ofName? k.name = some k := by
  cases k <;> decide

end UpdaterKind
end MultiSigner
