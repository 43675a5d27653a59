/-
# The targets of updates

Six commands change the records of signers.  Each of them does the work of one activity, so it plans
first and then pushes what it planned.  This module says who the plans are for, and what was looked
at by the time a target was found.

* `member_of_planning`: every plan is for a member of the group.
* `addressed_of_sent`: so every update goes to the address of a member.
* `found_of_resolveAll`: a push sends nothing unless every signer with changes has an address, a way
  to be updated and a credential that can be had.
-/
import MultiSigner.Command.Run
import MultiSigner.Proofs.Step

namespace MultiSigner

open Operation Automation

variable {ω : Type} {o : Outside ω} {s t : Session ω} {zone : DomainName} {a : Activity}

/-! ## 1. Commands that plan and push -/

/-- The zone of a command that changes the records of signers, and the activity that it does. -/
def Command.pushes? : Command → Option (DomainName × Activity)
  | .syncDnskeys zone => some (zone, .syncDnskeys)
  | .syncCds zone => some (zone, .syncCds)
  | .syncNs zone => some (zone, .syncNs)
  | .addCsync zone => some (zone, .addCsync)
  | .removeCsync zone => some (zone, .removeCsync)
  | .removeCds zone => some (zone, .removeCds)
  | _ => none

/-- **These commands do the work of their activity.** -/
theorem Command.perform_run_of_pushes {cmd : Command} (h : cmd.pushes? = some (zone, a)) :
    acts a = true ∧ cmd.run.perform o s = (planning zone a >>= Push.push zone).perform o s := by
  cases cmd with
  | syncDnskeys z | syncCds z | syncNs z | addCsync z | removeCsync z | removeCds z =>
    cases h
    exact perform_of_act (d := .joining) rfl
  | _ => cases h

/-! ## 2. Who plans are for -/

namespace Automation

/-- **Plans are for members** of the group. -/
theorem member_of_planning {plans : List Plan}
    (h : (planning zone a).perform o s = (.ok plans, t)) (hne : plans ≠ []) :
    ∃ members, s.state.members zone = .ok members ∧ ∀ p ∈ plans, p.member ∈ members := by
  cases a with
  | syncDnskeys =>
    obtain ⟨views, hmembers, rfl⟩ := plans_of_syncDnskeys h
    refine ⟨_, hmembers, fun p hp => ?_⟩
    obtain ⟨v, hv, rfl⟩ := List.mem_map.1 hp
    exact List.mem_map_of_mem (mem_staying.1 hv).1
  | syncNs =>
    obtain ⟨views, ttl, hmembers, rfl⟩ := plans_of_syncNs h
    refine ⟨_, hmembers, fun p hp => ?_⟩
    obtain ⟨v, hv, rfl⟩ := List.mem_map.1 hp
    exact List.mem_map_of_mem hv
  | syncCds =>
    obtain ⟨views, u, hviews, h⟩ := perform_bind_eq_ok.1 h
    obtain ⟨_, v, -, h⟩ := perform_bind_eq_ok.1 h
    refine ⟨_, members_of_observeGroup hviews, fun p hp => ?_⟩
    rw [perform_ite] at h
    split at h
    · obtain ⟨_, w, -, h⟩ := perform_bind_eq_ok.1 h
      cases h
      cases hp
    · cases h
      obtain ⟨v, hv, rfl⟩ := List.mem_map.1 hp
      exact List.mem_map_of_mem (mem_staying.1 hv).1
  | addCsync =>
    rw [planning, perform_bind_eq_ok] at h
    obtain ⟨members, u, hmembers, h⟩ := h
    obtain ⟨hlisted, -, rfl⟩ := groupMembers_eq_ok.1 hmembers
    obtain ⟨_, v, -, h⟩ := perform_bind_eq_ok.1 h
    obtain ⟨g, w, -, h⟩ := perform_bind_eq_ok.1 h
    refine ⟨_, hlisted, fun p hp => ?_⟩
    have hall := perform_mapM_eq_ok (F := .keeping Session.lasting) (fun m => ?_) h
    · obtain ⟨m, hm, _, _, -, hplan, -⟩ := exists_mem_of_forall₂ hall hp
      obtain ⟨n, _, -, hplan⟩ := perform_bind_eq_ok.1 hplan
      obtain ⟨_, _, -, hplan⟩ := perform_bind_eq_ok.1 hplan
      cases hplan
      exact hm
    · exact leaves_bind (quiet_serial zone m) fun _ => leaves_bind (quiet_line _) fun _ =>
        leaves_pure _
  | removeCds | removeCsync =>
    rw [planning, perform_bind_eq_ok] at h
    obtain ⟨members, u, hmembers, h⟩ := h
    obtain ⟨hlisted, -, rfl⟩ := groupMembers_eq_ok.1 hmembers
    cases h
    refine ⟨_, hlisted, fun p hp => ?_⟩
    obtain ⟨m, hm, rfl⟩ := List.mem_map.1 hp
    exact hm
  | checkDnskeys | checkCds | checkParentDs | wait | checkNs | checkParentNs =>
    cases h
    exact absurd rfl hne

/-- An update is for a zone, and goes to a member of its group where that member is. -/
def Addressed (zone : DomainName) (σ : State) (u : Update) : Prop :=
  (u.zone == zone) = true ∧ ∃ g r, σ.groups.get? zone = some g ∧ u.target.signer ∈ g.signers ∧
    σ.signers.get? u.target.signer = some r ∧ u.target.address = r.address

theorem Addressed.of_beq {z : DomainName} {σ : State} {u : Update} (h : Addressed z σ u)
    (hz : (z == zone) = true) : Addressed zone σ u := by
  obtain ⟨hzone, g, r, hg, hrest⟩ := h
  exact ⟨BEq.trans hzone hz, g, r, (State.groups_get?_of_beq σ hz).symm.trans hg, hrest⟩

/-- **What is sent goes to members** of the group. -/
theorem addressed_of_sent {u : Update} (h : Sent zone a o s t u) : Addressed zone s.state u := by
  obtain ⟨plans, m, p, hplans, hp, hu, -⟩ := h
  obtain ⟨members, hmembers, hmember⟩ := member_of_planning hplans (List.ne_nil_of_mem hp)
  obtain ⟨g, hg, hnames, hsigners⟩ := State.members_eq_ok.1 hmembers
  obtain ⟨rfl, hname, haddress, -⟩ := Push.update_eq_ok hu
  refine ⟨BEq.rfl, g, p.member.signer, hg, ?_, ?_, haddress⟩
  · rw [hname, ← hnames]
    exact List.mem_map_of_mem (hmember p hp)
  · rw [hname]
    exact hsigners p.member (hmember p hp)

end Automation

/-! ## 3. What is known of a target -/

theorem address_of_check {m : Member} (h : checkAddress m = .ok ()) :
    m.signer.address.isEmpty = false := by
  rw [checkAddress] at h
  split at h
  · cases h
  · exact Bool.eq_false_iff.2 ‹_›

/-- A signer was observed only where it has an address. -/
theorem address_of_observeGroup {kinds : List RecordKind} {views : List SignerView}
    (h : (observeGroup zone kinds).perform o s = (.ok views, t)) :
    ∀ v ∈ views, v.member.signer.address.isEmpty = false := by
  intro v hv
  rw [observeGroup, perform_bind_eq_ok] at h
  obtain ⟨members, u, -, h⟩ := h
  obtain ⟨m, -, x, y, -, hv, -⟩ :=
    exists_mem_of_forall₂ (perform_mapM_eq_ok (quiet_observeSigner zone kinds) h) hv
  rw [member_of_observeSigner hv]
  rw [observeSigner, perform_bind_eq_ok] at hv
  obtain ⟨_, z, haddress, -⟩ := hv
  rw [perform_lift] at haddress
  exact address_of_check (congrArg Prod.fst haddress)

namespace Push

/-- A signer can be sent updates. -/
structure Ready (o : Outside ω) (σ : State) (m : Member) : Prop where
  address : m.signer.address.isEmpty = false
  updater : ∃ u, o.updaterFor m.signer.kind = .ok u
  credential : ∃ c, credential σ m = .ok c

theorem ready_of_resolve {p : Plan} {q : Plan × UpdateTarget}
    (h : (resolve p).perform o s = (.ok (some q), t)) : Ready o s.state p.member := by
  obtain ⟨c, hc, -⟩ := resolved_of_resolve h
  obtain ⟨_, u, hcheck, -⟩ := perform_bind_eq_ok.1 h
  obtain ⟨_, v, haddress, hcheck⟩ := perform_bind_eq_ok.1 hcheck
  obtain ⟨_, w, hread, hcheck⟩ := perform_bind_eq_ok.1 hcheck
  cases hread
  obtain ⟨updater, x, hupdater, -⟩ := perform_bind_eq_ok.1 hcheck
  rw [perform_lift] at haddress hupdater
  exact ⟨address_of_check (congrArg Prod.fst haddress), ⟨updater, congrArg Prod.fst hupdater⟩, c,
    hc⟩

/-- **Targets are found for all plans or for none**, each of them in the document, for a signer
that can be sent updates. -/
theorem found_of_resolveAll {plans : List Plan} {found : List (Plan × UpdateTarget)}
    (h : (resolveAll plans).perform o s = (.ok found, t)) :
    List.Forall₂ (fun p q => Ready o s.state p.member ∧ Resolved s.state p q) plans found := by
  refine (resolve_of_resolveAll h).imp fun p q ⟨u, v, hu, hq⟩ => ?_
  rw [← hu]
  exact ⟨ready_of_resolve hq, resolved_of_resolve hq⟩

end Push
end MultiSigner
