/-
# Documents that can be reached are intact

A document is `Reachable` if a sequence of deeds leads to it from the empty one: commands with any
arguments and steps of any groups, each in a session that has this document and on any network.  What
a deed finds may be a document that was left some time before, as after one that could not be saved.

`intact_of_reachable`: all references in such a document lead somewhere.  Every edit of a command
keeps the document intact (`Intact.edit`), most of them because they do not touch references.  What
adds references is one of two things: it adds what was looked up in the same document, or it notes
origins at signers that were just asked.  Waiting and stepping add no references of their own.
-/
import MultiSigner.Proofs.Commands
import MultiSigner.Proofs.Integrity.Edits

namespace MultiSigner

open Operation Automation
open State (Intact)

variable {ω : Type} {zone : DomainName}

/-! ## 1. Edits -/

/-- The signers that are observed are there. -/
theorem isSome_home_of_members {σ : State} {views : List SignerView}
    (h : σ.members zone = .ok (views.map SignerView.member)) :
    ∀ v ∈ views, (σ.home v.name).isSome = true := by
  intro v hv
  obtain ⟨g, -, -, hsigners⟩ := State.members_eq_ok.1 h
  rw [State.home, SignerView.name, hsigners v.member (List.mem_map_of_mem hv)]
  rfl

/-- **Every edit keeps the document intact.** -/
theorem State.Intact.edit {σ τ : State} (h : σ.Intact) (he : State.Edit σ τ) : τ.Intact := by
  cases he with
  | addGroup hτ => exact h.addGroup rfl hτ
  | removeGroup hτ => exact h.removeGroup hτ
  | addSigner hτ => exact h.addSigner hτ
  | removeSigner hτ => exact h.removeSigner hτ
  | modifySigner name hf => exact h.modifySigner name hf
  | restart d _ => exact h.modifyGroup _ fun _ => rfl
  | flags zone f => exact h.modifyGroup zone fun _ => rfl
  | dnskeyOrigins hviews => exact h.dnskeyOrigins (isSome_home_of_members hviews)
  | nsOrigins hviews => exact h.nsOrigins (isSome_home_of_members hviews)
  | clearError stage _ _ => exact h.modifyGroup _ fun _ => rfl
  | enterManual _ _ => exact h.modifyGroup _ fun _ => rfl
  | resume stage _ _ => exact h.modifyGroup _ fun _ => rfl
  | addAutostart hg hnew => exact h.addAutostart hg hnew
  | removeAutostart zone => exact h.removeAutostart _
  | setEntry hτ => exact h.setEntry hτ
  | removeEntry hτ => exact h.removeEntry hτ

/-- **Every change keeps the document intact.** -/
theorem State.Intact.change {σ τ : State} (h : σ.Intact) (hc : State.Change zone σ τ) :
    τ.Intact := by
  cases hc with
  | edit he => exact h.edit he
  | group hmembers => exact h.modifyGroup zone hmembers

theorem Operation.Leaves.intact {α : Type} {op : Operation ω α} (h : Leaves (.changed zone) op) :
    Leaves (.preserving Intact) op :=
  h.preserving_of_changed fun _ _ hc hσ => hσ.change hc

/-- **Every command keeps the document intact.** -/
theorem Command.leaves_run (cmd : Command) :
    Leaves (.preserving Intact) (cmd.run : Operation ω Unit) := by
  cases hcmd : cmd.timed? with
  | none => exact ((leaves_command hcmd).changed .root).intact
  | some zone => exact (leaves_timed hcmd).intact

/-! ## 2. Deeds -/

/-- **A deed keeps the document intact**, whatever it is and however it goes. -/
theorem Deed.intact_after (c : Controller ω) {e : Deed ω} (h : e.before.state.Intact) :
    (e.after c).state.Intact := by
  cases ha : e.action with
  | command args =>
    rw [(Session.lasting_eq_iff.1 (lasting_of_command ha)).1]
    exact leaves_bind (leaves_lift _) Command.leaves_run c.outside e.before h
  | tick zone =>
    rw [(Session.lasting_eq_iff.1 (lasting_of_tick ha)).1]
    exact (changed_step zone).intact c.outside e.before h

/-- A document to which some deeds lead.  Each of them is done by any process, on any network and at
any time. -/
inductive Reachable : State → Prop
  | empty : Reachable .empty
  | deed {ω : Type} (c : Controller ω) {e : Deed ω} (past : Reachable e.before.state) :
      Reachable (e.after c).state

/-- Deeds lead from intact documents to intact ones. -/
theorem Reachable.intact {σ : State} (h : Reachable σ) : σ.Intact := by
  induction h with
  | empty => exact State.intact_empty
  | deed c _ ih => exact Deed.intact_after c ih

/-- **All references lead somewhere** in every document that can be reached. -/
theorem intact_of_reachable {σ : State} (h : Reachable σ) : σ.Intact :=
  h.intact

namespace Sample

def founding : Deed Int := command ["group-add", "x.", "192.0.2.4"] .empty
def firstJoin : Deed Int :=
  command ["signer-add", "x.", "a", "a.", "192.0.2.3"] (founding.after controller).state
def firstSync : Deed Int := command ["sync-ns", "x."] (firstJoin.after controller).state
def listing : Deed Int := command ["automate-autostart", "x."] (firstSync.after controller).state

/-- A document with references of all kinds is intact. -/
theorem intact_of_founded :
    (listing.after controller).state.roster Sample.zone = some ["a"] ∧
      (listing.after controller).state.nsOrigin.get? (name 98) = some "a" ∧
      (listing.after controller).state.autostart = [Sample.zone] ∧
      (listing.after controller).state.Intact := by
  refine ⟨by decide +kernel, by decide +kernel, by decide +kernel, intact_of_reachable ?_⟩
  exact .deed controller (e := listing) (.deed controller (e := firstSync)
    (.deed controller (e := firstJoin) (.deed controller (e := founding) .empty)))

end Sample
end MultiSigner
