import MultiSigner.Record.Dnskey
/-!
# Reports that may break off

A report is a sequence of items, each of which may turn out to be a failure.  It is read up to its
first failure: what comes before stands, what comes after is never said.
-/

namespace MultiSigner

/-- Items, and the failures that end the report at their places. -/
abbrev Report (α : Type) := List (Except Error α)

namespace Report

variable {α : Type}

/-- The items before the first failure. -/
def items : Report α → List α
  | [] => []
  | .error _ :: _ => []
  | .ok a :: rest => a :: items rest

/-- The first failure. -/
def failure? : Report α → Option Error
  | [] => none
  | .error e :: _ => some e
  | .ok _ :: rest => failure? rest

/-- Items that need the tag of a key. -/
def withTag (k : Dnskey) (f : UInt16 → List α) : Report α :=
  match k.keyTag with
  | .error e => [.error e]
  | .ok tag => (f tag).map .ok

theorem items_append {r s : Report α} (h : failure? r = none) :
    items (r ++ s) = items r ++ items s := by
  induction r with
  | nil => rfl
  | cons x rest ih =>
    cases x with
    | error e => simp [failure?] at h
    | ok a => simp only [failure?] at h; simp [items, ih h]

theorem failure?_append (r s : Report α) :
    failure? (r ++ s) = (failure? r).or (failure? s) := by
  induction r with
  | nil => rfl
  | cons x rest ih =>
    cases x with
    | error e => rfl
    | ok a => simpa [failure?] using ih

theorem items_map_ok (l : List α) : items (l.map Except.ok) = l := by
  induction l with
  | nil => rfl
  | cons a rest ih => simp [items, ih]

theorem failure?_map_ok (l : List α) : failure? (l.map Except.ok) = none := by
  induction l with
  | nil => rfl
  | cons a rest ih => simp [failure?, ih]

end Report
end MultiSigner
