/-
# Signed updates on a faithful network

A process signs update messages and puts them to an exchange.  If the servers at its other end
process the entries of a message and say that all went well, then the network is faithful
(`faithful_of_processing`): the updates that a push sends are accepted as long as the credentials
are keys with the names of domains, and each of them does what its changes say.

So whatever is known of groups on a faithful network holds for a process with its own updaters.
`Rehearsal.faithful_signed` is the network in memory, updated in this way.
-/
import MultiSigner.Proofs.Misconfigured
import MultiSigner.Proofs.Rehearsal

namespace MultiSigner

open SignedUpdate

variable {ω : Type} {n : Deployment ω} {exchange : Exchange ω} {x : Update} {w : ω}

/-- A credential with which messages can be signed: a key that has the name of a domain. -/
inductive Credential.Signs : Credential → Prop
  | tsig {name : String} {keyName : DomainName} (secret : List UInt8)
      (parse : DomainName.parse name = .ok keyName) : Signs (.tsig name secret)

/-- An update that a push sends with a key is put to an exchange. -/
theorem Deployment.Acceptable.prepared (hx : n.Acceptable x) (hsigns : x.target.credential.Signs) :
    ∃ message key, prepare x = .ok (message, key) := by
  obtain ⟨message, hmessage⟩ := UpdateMessage.exists_ofChanges x.zone hx.start
  generalize hc : x.target.credential = c at hsigns
  cases hsigns with
  | @tsig name keyName secret hparse =>
    refine ⟨message, ⟨keyName, secret⟩, ?_⟩
    rw [prepare, hx.changes, hc, hmessage]
    simp only [SigningKey.ofSecret, hparse]
    rfl

/-- The message that is put to an exchange says the changes. -/
theorem message_of_prepared {message : UpdateMessage} {key : SigningKey}
    (h : prepare x = .ok (message, key)) : message = .saying x.zone x.changes := by
  rw [prepare] at h
  split at h
  · cases h
  · cases hc : x.target.credential with
    | token _ _ =>
      rw [hc] at h
      cases h
    | tsig name secret =>
      rw [hc] at h
      obtain ⟨m, hm, h⟩ := bind_eq_ok.1 h
      obtain ⟨k, -, h⟩ := bind_eq_ok.1 h
      cases h
      exact UpdateMessage.eq_saying hm

/-- Servers process the messages for a zone, and say that all went well. -/
structure Exchange.Processing (exchange : Exchange ω) (n : Deployment ω) : Prop where
  code : ∀ key {message : UpdateMessage} {w : ω} {server : String} {rs : List Record},
    message.zone = n.zone → n.holds w server = some rs →
      (exchange server key message w).1.map UpdateResponse.code = .ok .noError
  holds : ∀ key {message : UpdateMessage} {w : ω} {server : String} {rs : List Record},
    message.zone = n.zone → n.holds w server = some rs →
      n.holds (exchange server key message w).2
        = Function.update (n.holds w) server (some (message.process rs))

/-- A response that says that all went well is a success. -/
theorem judge_of_code {r : Except Error UpdateResponse}
    (h : r.map UpdateResponse.code = .ok .noError) : (r >>= judge x) = .ok () := by
  cases r with
  | error e => cases h
  | ok response => exact if_pos (Except.ok.inj h)

/-- **Servers that process messages make a network faithful**, with the updaters of a process.  The
members take signed updates, with keys that have the names of domains. -/
theorem faithful_of_processing (hexchange : exchange.Processing n)
    (hupdater : n.outside.updater = updaters exchange) (htakes : n.takes = Credential.Signs)
    (hkinds : ∀ m ∈ n.members, m.signer.kind = .nsupdate)
    (hapart : (n.parent :: n.members.map fun m => m.signer.address).Nodup)
    (hquery : ∀ (kind : RecordKind) {w : ω} {server : String} {rs : List Record},
      n.holds w server = some rs →
        (n.outside.query server n.zone kind w).1 = .ok ⟨rs.filter fun r => r.kind == kind⟩ ∧
          n.holds (n.outside.query server n.zone kind w).2 = n.holds w) : n.Faithful where
  apart := hapart
  query := hquery
  updater m hm := by
    refine ⟨SignedUpdate.updater exchange, ?_⟩
    rw [Outside.updaterFor, hupdater, hkinds m hm]
    rfl
  update {kind u} hu {w x rs} hzone _ hrs hok := by
    obtain ⟨-, rfl⟩ := updaterFor_eq_ok hupdater hu
    obtain ⟨message, key, hprepared⟩ := exchanged_of_accepted hok
    obtain rfl := message_of_prepared hprepared
    show n.holds (send exchange x w).world = _
    rw [(send_of_prepared hprepared).2, hexchange.holds key hzone hrs]
    have hprocess : (UpdateMessage.saying x.zone x.changes).process rs = x.changes.applyTo rs :=
      UpdateMessage.processAt_saying (DomainName.beq_iff.2 rfl) x.changes rs
    rw [hprocess]
  accept {kind u} hu {w x rs} hx _ hrs := by
    obtain ⟨-, rfl⟩ := updaterFor_eq_ok hupdater hu
    obtain ⟨message, key, hprepared⟩ := hx.prepared (htakes ▸ hx.credential)
    obtain rfl := message_of_prepared hprepared
    show (send exchange x w).outcome = _
    rw [(send_of_prepared hprepared).1]
    exact judge_of_code (hexchange.code key hx.zone hrs)

namespace Rehearsal

/-- Servers in memory that process messages. -/
def processing : Exchange World := fun server _ message w =>
  match w.network.held server with
  | none => (.error (.transport server "connection refused"), w)
  | some rs => (.ok ⟨.noError, ""⟩, { w with network := w.network.serve server (message.process rs) })

/-- A group on the network in memory, whose servers take signed updates. -/
def signed (zone : DomainName) (members : List Member) (parent : String) : Deployment World :=
  { deployment [] zone members parent with
    outside := { outside [] with updater := updaters processing }
    takes := Credential.Signs }

variable {zone : DomainName} {members : List Member} {parent : String}

theorem processing_processing : processing.Processing (signed zone members parent) where
  code key {message w server rs} _ hrs := by
    have hheld : w.network.held server = some rs := hrs
    rw [processing, hheld]
    rfl
  holds key {message w server rs} _ hrs := by
    have hheld : w.network.held server = some rs := hrs
    rw [processing, hheld]
    exact Network.held_serve (Network.held_eq_some.1 hheld).1 server _

/-- **The network in memory is faithful** to a process that signs its updates. -/
theorem faithful_signed (hapart : (parent :: members.map fun m => m.signer.address).Nodup)
    (hkinds : ∀ m ∈ members, m.signer.kind = .nsupdate) :
    (signed zone members parent).Faithful :=
  faithful_of_processing processing_processing rfl rfl hkinds hapart fun kind {_ _ _} hrs =>
    ⟨Network.query_of_held hrs kind, rfl⟩

end Rehearsal
end MultiSigner
