/-
# What was reported before

A command reports by adding lines.  What stands in the transcript when it begins is not looked at and
stays where it is: with other lines in front of them the command does the same, and leaves the same
session behind these lines (`Controller.execute_after`).  So its own lines can be told apart
(`Controller.execute_eq`): they are those that it reports where nothing was reported before.
-/
import MultiSigner.Proofs.SideBySide

namespace MultiSigner

open Operation

variable {ω α : Type} {o : Outside ω} {before : List String}

/-! ## 1. The same document -/

theorem State.congruence_eq : State.Congruence Eq where
  groups h := by rw [h]
  signer h _ := by rw [h]
  autostart h := by rw [h]
  dnskeyOrigin h := by rw [h]
  keyNames h _ := by rw [h]
  entries h := by rw [h]
  modifyGroup h _ _ := by rw [h]
  modifySigner h _ _ := by rw [h]
  modifyAutostart h _ := by rw [h]
  dnskeyOrigins h _ := by rw [h]
  addGroup h zone g := h ▸ corresponds_refl (fun _ => rfl) _
  removeGroup h zone := h ▸ corresponds_refl (fun _ => ⟨rfl, rfl⟩) _
  addSigner h name signer := h ▸ corresponds_refl (fun _ => rfl) _
  removeSigner h name := h ▸ corresponds_refl (fun _ => ⟨rfl, rfl⟩) _
  setEntry h key value := h ▸ corresponds_refl (fun _ => rfl) _
  removeEntry h key := h ▸ corresponds_refl (fun _ => ⟨rfl, rfl⟩) _

/-! ## 2. Lines in front -/

/-- The session in which other lines were reported before. -/
def Session.after (before : List String) (s : Session ω) : Session ω :=
  { s with transcript := ⟨before ++ s.transcript.lines⟩ }

/-- The second session is the first one after some lines. -/
def Session.Precedes (before : List String) (s s' : Session ω) : Prop :=
  s' = s.after before

theorem Session.Precedes.state_eq {s s' : Session ω} (h : s.Precedes before s') :
    s'.state = s.state := by
  rw [h, Session.after]

/-- An operation of which the lines in front can be taken off first and put back at the end. -/
theorem precedes_of_perform {op op' : Operation ω α}
    (h : ∀ s, op'.perform o (s.after before)
      = ((op.perform o s).1, (op.perform o s).2.after before)) :
    Lockstep (Session.Precedes before) o op op' := by
  rintro s _ rfl
  rw [Matches, h]
  exact ⟨rfl, rfl⟩

theorem precedes_lines (texts : List String) :
    Lockstep (Session.Precedes before) o (lines texts) (lines texts) :=
  precedes_of_perform fun s => by
    simp only [perform_lines, Session.after, Transcript.append, List.append_assoc]

theorem precedes_publishStatus (zone : DomainName) :
    Lockstep (Session.Precedes before) o (publishStatus zone) (publishStatus zone) :=
  precedes_of_perform fun s => by
    rw [perform_publishStatus, perform_publishStatus]
    rfl

theorem precedes_query (server : String) (zone : DomainName) (kind : RecordKind) :
    Lockstep (Session.Precedes before) o (query server zone kind) (query server zone kind) :=
  precedes_of_perform fun s => by
    rw [perform_query, perform_query]
    rfl

theorem precedes_save : Lockstep (Session.Precedes before) o save save :=
  precedes_of_perform fun s => by
    rw [perform_save, perform_save]
    rfl

/-- The lines of an update are added like any others. -/
theorem precedes_deliver (u : Update) :
    Lockstep (Session.Precedes before) o (deliver u) (deliver u) := by
  refine lockstep_bind lockstep_read fun o' => lockstep_bind (lockstep_lift _) fun updater => ?_
  refine precedes_of_perform fun s => ?_
  simp only [perform_bind, perform_get, perform_set, perform_lift, Session.after,
    Transcript.append, List.append_assoc]

/-- **Nothing that is done about a zone looks at what was reported before**, or changes it. -/
theorem footing_precedes (zone : DomainName) : Footing zone Eq (Session.Precedes before) o where
  group h := by rw [h.state_eq]
  members h := by rw [h.state_eq]
  debug h := by rw [h.state_eq]
  credential h m := by
    rw [h.state_eq]
    exact corresponds_refl (fun _ => rfl) _
  lines := precedes_lines
  publishStatus := precedes_publishStatus zone
  now := precedes_of_perform fun _ => rfl
  query server := precedes_query server zone
  modifyGroup _ := precedes_of_perform fun _ => rfl
  nsOrigins _ := precedes_of_perform fun _ => rfl
  deliver h changes := h.eq ▸ precedes_deliver _

/-- **Nothing that a process does looks at it**, or changes it. -/
theorem ground_precedes : Ground Eq Eq (Session.Precedes before) o where
  documents := State.congruence_eq
  footing := footing_precedes
  state h := h.state_eq.symm
  scheduler h := by rw [h, Session.after]
  modifyState hf := precedes_of_perform fun s => by
    rw [perform_modifyState, perform_modifyState, Session.after, Session.after, ← hf s.state _ rfl]
  setScheduler _ := precedes_of_perform fun _ => rfl
  publish _ := precedes_of_perform fun _ => rfl
  save := precedes_save

/-! ## 3. Commands -/

namespace Controller

/-- **A command does the same whatever was reported before it.** -/
theorem execute_after (c : Controller ω) (args : List String) (s : Session ω)
    (before : List String) : c.execute args (s.after before)
      = ((c.execute args s).1, (c.execute args s).2.after before) := by
  obtain ⟨hresult, hafter⟩ := ground_precedes.command c.mode args s (s.after before) rfl
  exact Prod.ext hresult.symm hafter

/-- **A command adds lines**, those that it reports where nothing was reported before. -/
theorem execute_eq (c : Controller ω) (args : List String) (s : Session ω) :
    c.execute args s = ((c.execute args { s with transcript := .empty }).1,
      (c.execute args { s with transcript := .empty }).2.after s.transcript.lines) := by
  have hs : s = Session.after s.transcript.lines { s with transcript := .empty } := by
    rw [Session.after, Transcript.empty, List.append_nil]
  conv => lhs; rw [hs]
  exact c.execute_after args _ _

end Controller
end MultiSigner
