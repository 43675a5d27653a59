/-
# Signers that are set up wrongly

A push looks up the targets of all its plans before it sends the first update, so that a signer
which can not be sent updates keeps all others from being sent any.  What is looked up then is
whether there is an address, an updater, a credential and a secret.  The updater for signed updates
needs one thing more: the name of a key has to be a domain name.  That is seen only when its turn
comes, after the signers before it were sent theirs.

`sent_of_refused` says this exactly.  Where no exchange fails and none is rejected, an operation that
is refused has sent nothing at all, or has sent everything up to a signer whose key has a name that
is no domain name, and is refused for that name.
-/
import MultiSigner.Proofs.Messages
import MultiSigner.Proofs.Run
import MultiSigner.Proofs.Targets
import MultiSigner.Update.Signed

namespace MultiSigner

open Operation Automation

variable {ω : Type} {o : Outside ω} {s t : Session ω} {zone : DomainName} {a : Activity}

/-! ## 1. What an updater makes of an update -/

namespace SignedUpdate

variable {exchange : Exchange ω} {u : Update} {w : ω}

/-- There is a message for the update and a key to sign it with, so that it is put to an exchange. -/
def Exchanged (u : Update) : Prop :=
  ∃ message key, prepare u = .ok (message, key)

/-- **Nothing is sent** of an update that is not put to an exchange. -/
theorem send_of_unprepared {e : Error} (h : prepare u = .error e) :
    send exchange u w = ⟨[], .error e, w⟩ := by
  rw [send, h]

/-- **What comes back from an exchange** decides about the update, and what the exchange leaves is
left. -/
theorem send_of_prepared {message : UpdateMessage} {key : SigningKey}
    (h : prepare u = .ok (message, key)) :
    (send exchange u w).outcome = (exchange u.target.address key message w).1 >>= judge u ∧
      (send exchange u w).world = (exchange u.target.address key message w).2 := by
  rw [send, h]
  dsimp only
  rcases exchange u.target.address key message w with ⟨e | response, w'⟩
  · exact ⟨rfl, rfl⟩
  · exact ⟨rfl, rfl⟩

theorem exchanged_of_accepted (h : (send exchange u w).outcome = .ok ()) : Exchanged u := by
  cases hu : prepare u with
  | error e =>
    rw [send_of_unprepared hu] at h
    cases h
  | ok p => exact ⟨p.1, p.2, hu⟩

theorem not_exchanged {e : Error} (h : prepare u = .error e) : ¬ Exchanged u := by
  rintro ⟨message, key, hu⟩
  cases h.symm.trans hu

/-- **What keeps the update of a plan from being sent** is the name of its key. -/
theorem invalid_of_unprepared {name : String} {secret : List UInt8} {e : Error}
    (hcredential : u.target.credential = .tsig name secret) (hchanges : u.changes.isEmpty = false)
    (hwithin : Within (touched a) u.changes) (h : prepare u = .error e) :
    ∃ reason, DomainName.parse name = .error reason ∧ e = .invalidName name reason := by
  obtain ⟨message, hmessage⟩ := UpdateMessage.exists_ofChanges u.zone hwithin.not_touchesStart
  simp only [prepare, hchanges, hcredential, hmessage, Bool.false_eq_true, if_false] at h
  cases hname : DomainName.parse name with
  | ok n =>
    simp only [SigningKey.ofSecret, hname] at h
    cases h
  | error reason =>
    simp only [SigningKey.ofSecret, hname] at h
    cases h
    exact ⟨reason, rfl, rfl⟩

/-- Of the updaters of a process only the one for signed updates can be used. -/
theorem updaterFor_eq_ok (ho : o.updater = updaters exchange) {kind : UpdaterKind} {x : Updater ω}
    (h : o.updaterFor kind = .ok x) : kind = .nsupdate ∧ x = updater exchange := by
  rw [Outside.updaterFor, ho] at h
  cases kind with
  | nsupdate =>
    cases h
    exact ⟨rfl, rfl⟩
  | desec => cases h

end SignedUpdate

/-! ## 2. Sending until something goes wrong -/

namespace Push

/-- An updater can reply so to the update of a resolved plan. -/
def Replies (o : Outside ω) (zone : DomainName) (q : Plan × UpdateTarget) (r : Except Error Unit) :
    Prop :=
  ∃ x w, o.updaterFor q.2.kind = .ok x ∧ (x.apply (updateOf zone q) w).outcome = r

/-- **Sending that fails** has sent everything up to one update, which was refused. -/
theorem broken_of_sends {e : Error} : ∀ {qs : List (Plan × UpdateTarget)} {s : Session ω},
    (∀ q ∈ qs, ∃ x, o.updaterFor q.2.kind = .ok x) →
      (qs.forM (send zone)).perform o s = (.error e, t) →
        ∃ first q rest, qs = first ++ q :: rest ∧
          t.deliveries = s.deliveries ++ first.map (fun p => ⟨updateOf zone p, .ok ()⟩)
            ++ [⟨updateOf zone q, .error e⟩] ∧
          (∀ p ∈ first, Replies o zone p (.ok ())) ∧ Replies o zone q (.error e)
  | [], s, _, h => by cases h
  | q :: qs, s, hqs, h => by
    rw [show (List.forM (q :: qs) (send zone) : Operation ω PUnit) = send zone q >>= fun _ =>
      qs.forM (send zone) from rfl, perform_bind] at h
    have hsend := (perform_send zone q o s).2
    rcases hu : (send zone q).perform o s with ⟨e' | _, u⟩
    all_goals
      rw [hu] at h hsend
      rcases hsend with ⟨-, -, _, hnone, -⟩ | ⟨hsent, x, hx, hreply, -⟩
      · obtain ⟨x, hx⟩ := hqs q List.mem_cons_self
        cases hx.symm.trans hnone
    · cases h
      refine ⟨[], q, qs, rfl, ?_, by simp, x, s.world, hx, hreply.symm⟩
      rw [hsent, List.map_nil, List.append_nil]
    · obtain ⟨first, p, rest, rfl, hdeliveries, hfirst, hp⟩ :=
        broken_of_sends (fun p hp => hqs p (List.mem_cons_of_mem _ hp)) h
      refine ⟨q :: first, p, rest, rfl, ?_, fun p' hp' => ?_, hp⟩
      · rw [hdeliveries, hsent, List.map_cons, List.append_assoc s.deliveries]
        rfl
      · rcases List.mem_cons.1 hp' with rfl | hp'
        · exact ⟨x, s.world, hx, hreply.symm⟩
        · exact hfirst p' hp'

/-- A push that fails has sent nothing, or everything up to one update, which was refused. -/
theorem broken_of_push {plans : List Plan} {e : Error}
    (h : (push zone plans).perform o s = (.error e, t)) :
    t.deliveries = s.deliveries ∨ ∃ (first : List (Plan × UpdateTarget)) (q : Plan × UpdateTarget),
      t.deliveries = s.deliveries ++ first.map (fun p => ⟨updateOf zone p, .ok ()⟩)
        ++ [⟨updateOf zone q, .error e⟩] ∧
      (∀ p ∈ first, Replies o zone p (.ok ())) ∧ Replies o zone q (.error e) ∧
      ∃ p ∈ effective plans, Ready o s.state p.member ∧ Resolved s.state p q := by
  rw [push, perform_bind] at h
  rcases hfound : (resolveAll (plans.filter fun p => !p.changes.isEmpty)).perform o s
    with ⟨e' | found, u⟩
  all_goals
    have hlasting := Session.lasting_eq_iff.1 ((quiet_resolveAll _).rel_of_perform hfound)
    rw [hfound] at h
  · cases h
    exact .inl hlasting.2.2.2
  · have hready := found_of_resolveAll hfound
    have hkind : ∀ q ∈ found, ∃ x, o.updaterFor q.2.kind = .ok x := fun q hq => by
      obtain ⟨p, -, hp, c, -, rfl⟩ := exists_mem_of_forall₂ hready hq
      exact hp.updater
    obtain ⟨first, q, rest, rfl, hdeliveries, hfirst, hq⟩ := broken_of_sends hkind h
    rw [hlasting.2.2.2] at hdeliveries
    exact .inr ⟨first, q, hdeliveries, hfirst, hq,
      exists_mem_of_forall₂ hready (List.mem_append_right _ List.mem_cons_self)⟩

end Push

/-! ## 3. Operations that are refused -/

/-- A member of the group is updated with a key whose name is no domain name, and that is why an
operation failed. -/
def Misnamed (zone : DomainName) (σ : State) (signer : String) (e : Error) : Prop :=
  ∃ members m name reason, σ.members zone = .ok members ∧ m ∈ members ∧ m.name = signer ∧
    m.signer.kind = .nsupdate ∧ m.signer.credential = some name ∧
    DomainName.parse name = .error reason ∧ e = .invalidName name reason

namespace Push

/-- The key of a signer that takes signed updates. -/
theorem key_of_credential {σ : State} {m : Member} {c : Credential}
    (hkind : m.signer.kind = .nsupdate) (h : credential σ m = .ok c) :
    ∃ name secret, m.signer.credential = some name ∧ c = .tsig name secret := by
  unfold credential at h
  split at h
  · cases h
  · rename_i name hname
    rw [hkind] at h
    simp only at h
    split at h
    · cases h
    · split at h
      · cases h
      · cases h
        exact ⟨name, _, hname, rfl⟩

end Push

open SignedUpdate in
/-- **What an operation that is refused has sent.**  Signers are updated as a process does it, and the
network does anything.  If no update that was put to an exchange failed or was rejected, then

* nothing was sent, and no update was looked at; or
* everything was sent, and accepted, up to a member whose key has a name that is no domain name; the
  update of that member was never put to an exchange, and the operation is refused for the name. -/
theorem sent_of_refused (exchange : Exchange ω) (o : Outside ω) (ho : o.updater = updaters exchange)
    {cmd : Command} (hcmd : cmd.pushes? = some (zone, a)) {e : Error}
    (h : cmd.run.perform o s = (.error e, t)) :
    ∃ ds, t.deliveries = s.deliveries ++ ds ∧
      ((∀ d ∈ ds, Exchanged d.update → d.accepted = true) →
        ds = [] ∨ ∃ sent refused, ds = sent ++ [refused] ∧
          (∀ d ∈ sent, Exchanged d.update ∧ d.accepted = true) ∧ ¬ Exchanged refused.update ∧
          Misnamed zone s.state refused.update.target.signer e) := by
  rw [(Command.perform_run_of_pushes hcmd).2, perform_bind] at h
  rcases hplans : (planning zone a).perform o s with ⟨e' | plans, m⟩
  all_goals
    have hplanned : m.planned = s.planned := (leaves_planning zone a).rel_of_perform hplans
    have hdeliveries : m.deliveries = s.deliveries := congrArg (fun p => p.2.2.2) hplanned
    rw [hplans] at h
  · cases h
    exact ⟨[], by rw [hdeliveries, List.append_nil], fun _ => .inl rfl⟩
  rcases Push.broken_of_push h with hnone | ⟨first, q, hsent, hfirst, hq, p, hp, hready, hresolved⟩
  · exact ⟨[], by rw [hnone, hdeliveries, List.append_nil], fun _ => .inl rfl⟩
  refine ⟨first.map (fun p => ⟨Push.updateOf zone p, .ok ()⟩) ++ [⟨Push.updateOf zone q, .error e⟩],
    by rw [hsent, hdeliveries, List.append_assoc], fun haccepted => .inr ?_⟩
  refine ⟨_, _, rfl, fun d hd => ?_, ?_⟩
  · obtain ⟨p', hp', rfl⟩ := List.mem_map.1 hd
    obtain ⟨x, w, hx, hreply⟩ := hfirst p' hp'
    obtain ⟨-, rfl⟩ := updaterFor_eq_ok ho hx
    exact ⟨exchanged_of_accepted hreply, rfl⟩
  · obtain ⟨x, w, hx, hreply⟩ := hq
    obtain ⟨-, rfl⟩ := updaterFor_eq_ok ho hx
    obtain ⟨x', hx'⟩ := hready.updater
    obtain ⟨hkind, -⟩ := updaterFor_eq_ok ho hx'
    obtain ⟨c, hc, rfl⟩ := hresolved
    obtain ⟨name, secret, hname, rfl⟩ := Push.key_of_credential hkind hc
    obtain ⟨hp, heffective⟩ := List.mem_filter.1 hp
    -- an update that was put to an exchange was accepted, so this one was not
    have hunprepared : prepare
        (Push.updateOf zone (p, Push.target m.state p.member (.tsig name secret))) = .error e := by
      cases hu : prepare
          (Push.updateOf zone (p, Push.target m.state p.member (.tsig name secret))) with
      | error e' =>
        rw [show (updater exchange).apply = send exchange from rfl, send_of_unprepared hu] at hreply
        cases hreply
        rfl
      | ok prepared =>
        have := haccepted _ (List.mem_append_right _ (List.mem_singleton_self _)) ⟨_, _, hu⟩
        cases this
    have hchanges : p.changes.isEmpty = false := by simpa using heffective
    obtain ⟨reason, hreason, rfl⟩ := invalid_of_unprepared rfl hchanges
      (within_of_planning hplans hp) hunprepared
    obtain ⟨members, hmembers, hmember⟩ := member_of_planning hplans (List.ne_nil_of_mem hp)
    exact ⟨not_exchanged hunprepared, members, p.member, name, reason, hmembers, hmember p hp, rfl,
      hkind, hname, hreason, rfl⟩

namespace Sample

/-- Every signed update is accepted. -/
def signing : Outside Int :=
  { outside with updater := SignedUpdate.updaters fun _ _ _ w => (.ok ⟨.noError, ""⟩, w) }

/-- The key of the second signer has a name that is no domain name. -/
def misnaming : State :=
  { document.modifySigner "b" fun r => { r with credential := some "k..k" } with
    tsigKeys := .ofList [("k", "AQID"), ("k..k", "AQID")] }

/-- The first signer is sent its update before the name of the second one's key is looked at. -/
theorem sent_of_misnaming :
    let run := (Command.removeCsync Sample.zone).run.perform signing (session misnaming 0)
    run.1 = .error (.invalidName "k..k" (.malformedLabel [])) ∧
      (run.2.deliveries.map fun d => (d.update.target.signer, d.accepted))
        = [("a", true), ("b", false)] ∧
      ∃ ds, run.2.deliveries = ds ∧
        ((∀ d ∈ ds, SignedUpdate.Exchanged d.update → d.accepted = true) →
          ds = [] ∨ ∃ sent refused, ds = sent ++ [refused] ∧
            (∀ d ∈ sent, SignedUpdate.Exchanged d.update ∧ d.accepted = true) ∧
            ¬ SignedUpdate.Exchanged refused.update ∧
            Misnamed Sample.zone misnaming refused.update.target.signer
              (.invalidName "k..k" (.malformedLabel []))) := by
  intro run
  have hrun : run.1 = .error (.invalidName "k..k" (.malformedLabel [])) := by decide +kernel
  have hcmd : (Command.removeCsync Sample.zone).pushes? = some (Sample.zone, .removeCsync) := rfl
  have h := sent_of_refused (s := session misnaming 0) (t := run.2)
    (fun _ _ _ w => (.ok ⟨.noError, ""⟩, w)) signing rfl hcmd
    (perform_of_fst hrun)
  exact ⟨hrun, by decide +kernel, h⟩

end Sample
end MultiSigner
