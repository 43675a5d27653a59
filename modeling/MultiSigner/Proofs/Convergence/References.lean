/-
# Syncing references once is enough

`references_converge`: when syncing the references of a group succeeds on a truthful network, the
signers that stay ask the parent for just those keys that sign keys, and for each of them once
(`KeysAsked`); signers that are leaving keep what they have.  A check that follows finds the
references synced, and the parent synced just if it refers to these keys and no others.

If no key signs keys, nothing is sent.  What the signers ask for is then left as it was, and a check
has nothing to miss there.
-/
import MultiSigner.Proofs.Completion
import MultiSigner.Proofs.Truthful

namespace MultiSigner

open Operation Automation

namespace Deployment

variable {ω : Type} {n : Deployment ω} {s t u : Session ω} {m x : Member}

/-- **What syncing references plans.**  It gets there only if all references can be computed. -/
theorem Answering.planned_syncCds (hn : n.Answering) (hs : n.Present s) {plans : List Plan}
    (h : (planning n.zone .syncCds).perform n.outside s = (.ok plans, u)) :
    n.Delegable s ∧ plans = n.referencePlans s ∧ n.holds u.world = n.holds s.world := by
  rw [planning, perform_bind_eq_ok] at h
  obtain ⟨vs, v, hviews, h⟩ := h
  obtain ⟨rfl, hv⟩ := hn.views hs hviews
  rw [perform_bind_eq_ok] at h
  obtain ⟨_, w, htell, h⟩ := h
  rw [perform_tell] at htell
  obtain ⟨hnone, rfl⟩ := Prod.mk.inj htell
  have hdel : n.Delegable s := by
    refine delegable_of_lines ?_
    rw [referenceViews]
    split at hnone
    · assumption
    · cases hnone
  refine ⟨hdel, ?_⟩
  rw [referencePlans, requested, referenceViews]
  split
  · rename_i hempty
    simp only [hempty, if_true, perform_bind, perform_line, perform_pure] at h
    cases h
    exact ⟨rfl, hv.holds⟩
  · rename_i hsome
    simp only [hsome, if_false, Bool.false_eq_true, perform_pure] at h
    cases h
    exact ⟨rfl, hv.holds⟩

theorem perform_syncCds : (Sync.KeyReferences.run n.zone).perform n.outside s
    = (planning n.zone .syncCds >>= Push.push n.zone).perform n.outside s :=
  (perform_of_act (d := .joining) rfl).2

theorem stays_of_referencePlans {p : Plan} (hp : p ∈ n.referencePlans s) : n.Stays p.member := by
  rw [referencePlans] at hp
  split at hp
  · cases hp
  · obtain ⟨v, hv, rfl⟩ := List.mem_map.1 hp
    obtain ⟨m, hm, rfl⟩ := mem_staying_views.1 hv
    rw [Sync.KeyReferences.plan, SignerView.member_viewOf]
    exact hm

/-- **Syncing references that succeeds does what was planned.** -/
theorem Truthful.syncCds (hn : n.Truthful) (hs : n.Present s)
    (h : (Sync.KeyReferences.run n.zone).perform n.outside s = (.ok (), t)) :
    n.Delegable s ∧ n.Acted .syncCds (n.referencePlans s) s t ∧
      Session.Carried (n.referencePlans s) s t := by
  rw [perform_syncCds, perform_bind_eq_ok] at h
  obtain ⟨plans, u, hplan, hpush⟩ := h
  obtain ⟨hdel, rfl, hholds⟩ := hn.answering.planned_syncCds hs hplan
  exact ⟨hdel, hn.acted hs hplan hholds referencePlans_members hpush⟩

/-- Signers that are leaving are left alone. -/
theorem Acted.records_of_leaves (hn : n.Apart)
    (h : n.Acted .syncCds (n.referencePlans s) s t) (hx : n.Leaves x) :
    n.records t x = n.records s x := by
  refine h.records_of_not_mem hn hx.1 fun p hp heq => ?_
  obtain ⟨-, hstays⟩ := stays_of_referencePlans hp
  rw [heq, hx.2] at hstays
  cases hstays

theorem referencePlans_eq_nil (hdel : n.Delegable s) (hnone : ∀ k, ¬ n.SignsKeys s k) :
    n.referencePlans s = [] := by
  rw [referencePlans, if_pos (List.isEmpty_iff.2 ((requested_eq_nil hdel).2 hnone))]

/-- **Without keys that sign keys nothing is sent.** -/
theorem unsent_of_carried (hdel : n.Delegable s) (hnone : ∀ k, ¬ n.SignsKeys s k)
    (h : Session.Carried (n.referencePlans s) s t) : t.deliveries = s.deliveries := by
  obtain ⟨ds, hds, hmade⟩ := h
  rw [referencePlans_eq_nil hdel hnone] at hmade
  cases hmade
  rw [hds, List.append_nil]

/-- What is asked for stays as it is as long as the signers hold what they hold. -/
theorem KeysAsked.asked_iff (h : n.KeysAsked s t) (hsome : ∃ k, n.SignsKeys s k)
    (hcds : n.Agree .cds t u) (d : Ds) : (∃ m, n.Stays m ∧ n.Shows u m (.cds d)) ↔
      ∃ k, n.SignsKeys s k ∧ k.delegation n.zone .sha256 = .ok d := by
  constructor
  · rintro ⟨m, hm, hshow⟩
    exact (h.cds m hm d).1 ((hcds m hm.1 _ rfl).1 hshow)
  · intro hasked
    obtain ⟨k, m, hm, -⟩ := hsome
    exact ⟨m, hm, (hcds m hm.1 _ rfl).2 ((h.cds m hm d).2 hasked)⟩

/-- **References that are synced are found synced.** -/
theorem KeysReferred.checked (h : n.KeysReferred s) (hn : n.Truthful) (hs : n.Present s)
    {f : SyncFlags} (hcheck : (Status.check n.zone).perform n.outside s = (.ok f, t)) :
    f.cds = true := by
  obtain ⟨p, hflags, -⟩ := hn.answering.checked hs hcheck
  exact (Evaluation.get_iff hflags .cds).2 h.views

/-- **The parent is found synced** just if it refers to what the signers ask for. -/
theorem KeysReferred.checked_parent (h : n.KeysReferred s) (hn : n.Truthful) (hs : n.Present s)
    {f : SyncFlags} (hcheck : (Status.check n.zone).perform n.outside s = (.ok f, t)) {g : Group}
    {rs : List Record} (hg : s.state.groups.get? n.zone = some g)
    (hrs : n.holds s.world g.parent = some rs) : f.parentDs = true ↔
      ∀ d, Serves rs (.ds d) ↔ ∃ m, n.Stays m ∧ n.Shows s m (.cds d) := by
  obtain ⟨p, hflags, hparent⟩ := hn.answering.checked hs hcheck
  obtain rfl := hparent g rs hg hrs
  have hshown : ∀ d, d ∈ (ParentView.viewOf Status.parentKinds rs).ds ↔ Serves rs (.ds d) :=
    fun d => ParentView.has_viewOf (d := .ds d) (show .ds ∈ Status.parentKinds by decide)
  simp only [← hshown]
  exact (Evaluation.get_iff hflags .parentDs).trans
    ((and_iff_right h.views).trans parentRefers_views)

/-- **Syncing references converges.**  If it succeeds and some key signs keys, the signers that stay
ask the parent for just those keys; if none does, nothing is sent.  Signers that are leaving were
not sent anything and hold what they held.  A check that succeeds later on finds the references
synced, and if there are some, it finds the parent synced just if that refers to the same keys. -/
theorem references_converge (hn : n.Truthful) (hs : n.Present s)
    (h : (Sync.KeyReferences.run n.zone).perform n.outside s = (.ok (), t)) :
    ((∃ k, n.SignsKeys s k) → n.KeysAsked s t) ∧
    ((∀ k, ¬ n.SignsKeys s k) → t.deliveries = s.deliveries) ∧
    (∃ ds, t.deliveries = s.deliveries ++ ds ∧ ∀ d ∈ ds, ∃ m, n.Stays m ∧ d.IsFor m) ∧
    (∀ x, n.Leaves x → n.records t x = n.records s x) ∧
    ∀ u f v, n.Resumes t u → (Status.check n.zone).perform n.outside u = (.ok f, v) →
      f.cds = true ∧
      ((∃ k, n.SignsKeys s k) → ∀ g rs, u.state.groups.get? n.zone = some g →
        n.holds u.world g.parent = some rs → (f.parentDs = true ↔
          ∀ d, Serves rs (.ds d) ↔ ∃ k, n.SignsKeys s k ∧ k.delegation n.zone .sha256 = .ok d)) := by
  obtain ⟨hdel, hacted, hcarried⟩ := hn.syncCds hs h
  refine ⟨hacted.keysAsked hdel, fun hnone => unsent_of_carried hdel hnone hcarried,
    exists_of_carried hcarried fun p hp => stays_of_referencePlans hp,
    fun x hx => hacted.records_of_leaves hn.apart hx, fun u f v hu hcheck => ?_⟩
  have hpresent : n.Present u := hu.present (hacted.present hs)
  have hreferred : n.KeysReferred u := (hacted.keysReferred hn.apart hdel).congr
    (hu.agree .dnskey) (hu.agree .cds) (hu.agree .cdnskey)
  refine ⟨hreferred.checked hn hpresent hcheck, fun hsome g rs hg hrs => ?_⟩
  rw [hreferred.checked_parent hn hpresent hcheck hg hrs]
  simp only [(hacted.keysAsked hdel hsome).asked_iff hsome (hu.agree .cds)]

end Deployment

namespace Sample

open Deployment

/-- The first signer asks for a key that is gone, and the third one is leaving. -/
def staleReferences : Session Rehearsal.World :=
  departure walkers [("a", (holding 'a' [walkKey true [1], walkKey false [2]]).2
      ++ [⟨60, .cdnskey (walkKey true [7])⟩]),
    holding 'b' [walkKey true [3]], holding 'c' [walkKey true [9]], ("p", [])]

/-- What syncing references does to a session. -/
def syncingReferences (s : Session Rehearsal.World) :
    Except Error Unit × Session Rehearsal.World :=
  (Sync.KeyReferences.run (deployment walkers).zone).perform (deployment walkers).outside s

/-- The references of the sample group converge. -/
theorem references_converge_for_walkers :
    (syncingReferences staleReferences).1 = .ok () ∧
      (deployment walkers).KeysAsked staleReferences (syncingReferences staleReferences).2 ∧
      ∀ f v, (Status.check (deployment walkers).zone).perform (deployment walkers).outside
        (syncingReferences staleReferences).2 = (.ok f, v) → f.cds = true := by
  have hn : (deployment walkers).Truthful := truthful (by decide +kernel) (by decide +kernel)
  have hs : (deployment walkers).Present staleReferences :=
    present (by decide +kernel) (by decide +kernel)
  have hok : (syncingReferences staleReferences).1 = .ok () := by decide +kernel
  have hsome : ∃ k, (deployment walkers).SignsKeys staleReferences k := by
    refine ⟨walkKey true [3], member 'b' false, ⟨?_, rfl⟩, ⟨⟨60, .dnskey (walkKey true [3])⟩, ?_,
      BEq.rfl⟩, rfl⟩
    · exact List.mem_cons_of_mem _ List.mem_cons_self
    · exact List.mem_cons_of_mem _ (List.mem_cons_of_mem _ List.mem_cons_self)
  unfold syncingReferences at hok ⊢
  obtain ⟨hasked, -, -, -, hlater⟩ := references_converge hn hs (perform_of_fst hok)
  exact ⟨hok, hasked hsome, fun f v hcheck => (hlater _ f v (.refl _) hcheck).1⟩

end Sample
end MultiSigner
