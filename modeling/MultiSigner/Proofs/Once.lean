/-
# Lists that keep each item once

Several lists of the library are gathered item by item, where an item is left out if one like it is
there already.  What "like it" means differs from list to list, so it is a parameter here; `Once`
says what all of them have in common.

Main statements: `mem_of_mem_once` (nothing is made up), `seen_once` (nothing is forgotten) and
`pairwise_once` (nothing is gathered twice).
-/
import Mathlib.Data.List.Basic

namespace MultiSigner

variable {α : Type}

/-- Gathers items, each one unless it is seen among those gathered before. -/
def once (seen : List α → α → Bool) (l acc : List α) : List α :=
  l.foldl (fun acc a => if seen acc a then acc else acc ++ [a]) acc

theorem once_cons (seen : List α → α → Bool) (a : α) (l acc : List α) :
    once seen (a :: l) acc = once seen l (if seen acc a then acc else acc ++ [a]) := rfl

/-- Nothing is made up. -/
theorem mem_of_mem_once {seen : List α → α → Bool} {a : α} :
    ∀ {l acc : List α}, a ∈ once seen l acc → a ∈ acc ∨ a ∈ l
  | [], _, h => .inl h
  | b :: l, acc, h => by
    rw [once_cons] at h
    rcases mem_of_mem_once h with h | h
    · split at h
      · exact .inl h
      · rcases List.mem_append.1 h with h | h
        · exact .inl h
        · exact .inr (by rw [List.mem_singleton.1 h]; exact List.mem_cons_self)
    · exact .inr (List.mem_cons_of_mem _ h)

/-- What was gathered stays. -/
theorem subset_once (seen : List α → α → Bool) :
    ∀ (l acc : List α), acc ⊆ once seen l acc
  | [], _ => List.Subset.refl _
  | a :: l, acc => by
    rw [once_cons]
    refine List.Subset.trans ?_ (subset_once seen l _)
    split
    · exact List.Subset.refl _
    · exact List.subset_append_left _ _

/-- Nothing is forgotten: every item is seen among what was gathered, if more items never hide one
and an item is seen once it is there. -/
theorem seen_once (seen : List α → α → Bool) (hmono : ∀ {l m a}, l ⊆ m → seen l a → seen m a)
    (hself : ∀ l a, a ∈ l → seen l a) {a : α} :
    ∀ {l : List α} (acc : List α), a ∈ l → seen (once seen l acc) a
  | b :: l, acc, h => by
    rw [once_cons]
    rcases List.mem_cons.1 h with rfl | h
    · refine hmono (subset_once seen l _) ?_
      split
      · assumption
      · exact hself _ _ (by simp)
    · exact seen_once seen hmono hself _ h

/-- Nothing is gathered twice: items that are gathered later were not seen among earlier ones. -/
theorem pairwise_once {seen : List α → α → Bool} {R : α → α → Prop}
    (hunseen : ∀ acc a, seen acc a = false → ∀ b ∈ acc, R b a) :
    ∀ {l acc : List α}, acc.Pairwise R → (once seen l acc).Pairwise R
  | [], _, h => h
  | a :: l, acc, h => by
    rw [once_cons]
    refine pairwise_once hunseen ?_
    split
    · exact h
    · rename_i hseen
      refine List.pairwise_append.2 ⟨h, List.pairwise_singleton R a, fun b hb c hc => ?_⟩
      rw [List.mem_singleton.1 hc]
      exact hunseen acc a (Bool.eq_false_iff.2 hseen) b hb

end MultiSigner
