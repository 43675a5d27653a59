/-
# Operations that keep secrets

An operation runs in two sessions whose documents differ only in their secrets (`Session.Alike`).
Everything that a process does is in lockstep there (`ground_alike`): it has the same result, reports
and publishes the same, and leaves sessions that are alike again.

There is one exception.  If it is asked for, an updater shows the response to an update, and with it
the signature, in which the digest is made with the secret.  So the text under such a caption
(`Update.Captions`) may differ, and nothing else (`SameBut`).

This asks something of the outside (`Outside.Blind`).  Servers must not tell secrets apart: a signed
update is accepted or refused in the same way whatever it was signed with.  How a response is shown
is no part of that.  Saving must not tell them apart either; what is kept of the two documents may
differ, so the worlds of the two runs need not be the same, only related.  Of the updaters
themselves nothing is asked, since what they report and refuse is part of the statement
(`Updater.Blind.apply`).
-/
import MultiSigner.Proofs.Secrecy.Documents
import MultiSigner.Proofs.SideBySide
import MultiSigner.Proofs.Targets
import MultiSigner.Update.Signed

namespace MultiSigner

open Operation

variable {ω : Type} {W : ω → ω → Prop} {o : Outside ω} {s s' : Session ω} {zone : DomainName}
  {u u' : Update}

/-! ## 1. Lists that differ under captions -/

/-- Two lists are the same, but an element may differ if the one before it allows that. -/
inductive SameBut {α : Type} (Varies : α → α → α → Prop) : List α → List α → Prop
  | nil : SameBut Varies [] []
  | same (a : α) {l l' : List α} (rest : SameBut Varies l l') :
      SameBut Varies (a :: l) (a :: l')
  | other {a b b' : α} {l l' : List α} (varies : Varies a b b') (rest : SameBut Varies l l') :
      SameBut Varies (a :: b :: l) (a :: b' :: l')

namespace SameBut

variable {α β : Type} {V : α → α → α → Prop} {l l' k k' : List α}

theorem refl (l : List α) : SameBut V l l := by
  induction l with
  | nil => exact .nil
  | cons a _ ih => exact .same a ih

theorem append (h : SameBut V l l') (hk : SameBut V k k') : SameBut V (l ++ k) (l' ++ k') := by
  induction h with
  | nil => exact hk
  | same a _ ih => exact .same a ih
  | other hvaries _ ih => exact .other hvaries ih

/-- More may differ. -/
theorem mono {V' : α → α → α → Prop} (h : SameBut V l l') (hV : ∀ a b b', V a b b' → V' a b b') :
    SameBut V' l l' := by
  induction h with
  | nil => exact .nil
  | same a _ ih => exact .same a ih
  | other hvaries _ ih => exact .other (hV _ _ _ hvaries) ih

theorem map {V' : β → β → β → Prop} {f : α → β} (h : SameBut V l l')
    (hV : ∀ a b b', V a b b' → V' (f a) (f b) (f b')) : SameBut V' (l.map f) (l'.map f) := by
  induction h with
  | nil => exact .nil
  | same a _ ih => exact .same (f a) ih
  | other hvaries _ ih => exact .other (hV _ _ _ hvaries) ih

end SameBut

/-! ## 2. Updates that are alike -/

/-- Two updates are the same but for the secrets of their credentials. -/
structure Update.Alike (u u' : Update) : Prop where
  zone : u'.zone = u.zone
  target : u.target.Alike Credential.Alike u'.target
  changes : u'.changes = u.changes

/-- They also had the same outcome. -/
structure Delivery.Alike (d d' : Delivery) : Prop where
  update : d.update.Alike d'.update
  outcome : d'.outcome = d.outcome

/-- The line that stands above the response to an update, if responses are shown. -/
structure Update.Captions (u : Update) (text : String) : Prop where
  debug : u.target.debug = true
  caption : text = SignedUpdate.caption u "response from"

/-- Two replies to an update are the same, but for a response that is shown, in related worlds. -/
structure UpdateReply.Alike (W : ω → ω → Prop) (u : Update) (r r' : UpdateReply ω) : Prop where
  lines : SameBut (fun a _ _ => u.Captions a) r.lines r'.lines
  outcome : r'.outcome = r.outcome
  world : W r.world r'.world

namespace SignedUpdate

/-- **What is sent is the same** but for the secret that signs it, and nothing is sent for the same
reason. -/
theorem corresponds_prepare (h : u.Alike u') :
    Corresponds (fun p p' => p'.1 = p.1 ∧ p'.2.name = p.2.name) (prepare u) (prepare u') := by
  obtain ⟨hzone, htarget, hchanges⟩ := h
  have hcredential := htarget.credential
  rw [prepare, prepare, hzone, hchanges, htarget.signer]
  refine .ite (.error _) ?_
  generalize u.target.credential = x at hcredential
  generalize u'.target.credential = x' at hcredential
  cases hcredential with
  | token name text text' => exact .error _
  | tsig name secret secret' =>
    refine corresponds_bind fun message => ?_
    unfold SigningKey.ofSecret
    cases DomainName.parse name with
    | ok keyName => exact .ok ⟨rfl, rfl⟩
    | error reason => exact .error _

theorem caption_eq (h : u.Alike u') (what : String) : caption u' what = caption u what := by
  unfold caption
  rw [h.target.signer]

theorem report_eq (h : u.Alike u') (what text : String) :
    report u' what text = report u what text := by
  rw [report, report, h.target.debug, caption_eq h]

/-- Under the caption of a response, the texts may differ. -/
theorem sameBut_report (u : Update) (text text' : String) :
    SameBut (fun a _ _ => u.Captions a) (report u "response from" text)
      (report u "response from" text') := by
  cases hdebug : u.target.debug with
  | true =>
    have hcaption : u.Captions (caption u "response from") := ⟨hdebug, rfl⟩
    rw [report, report, if_pos hdebug, if_pos hdebug]
    exact .other hcaption .nil
  | false =>
    rw [report, report, hdebug]
    exact .nil

/-- What a response says depends on its code only. -/
theorem judge_eq (h : u.Alike u') {r r' : UpdateResponse} (hcode : r'.code = r.code) :
    judge u' r' = judge u r := by
  rw [judge, judge, h.target.signer, hcode]

end SignedUpdate

/-! ## 3. An outside that can not tell secrets apart -/

/-- Servers accept and refuse a message in the same way, whatever the secret that it was signed
with: there is a response with the same code, or the same failure. -/
def Exchange.Blind (W : ω → ω → Prop) (exchange : Exchange ω) : Prop :=
  ∀ server name secret secret' message w w', W w w' →
    (exchange server ⟨name, secret'⟩ message w').1.map UpdateResponse.code
        = (exchange server ⟨name, secret⟩ message w).1.map UpdateResponse.code ∧
      W (exchange server ⟨name, secret⟩ message w).2 (exchange server ⟨name, secret'⟩ message w').2

/-- The updaters of a process, with servers that do not tell secrets apart, and all others that
reply in the same way whatever the secret. -/
inductive Updater.Blind (W : ω → ω → Prop) : Updater ω → Prop
  | signed {exchange : Exchange ω} (h : Exchange.Blind W exchange) :
      Blind W (SignedUpdate.updater exchange)
  | unsupported (kind : UpdaterKind) : Blind W (SignedUpdate.unsupported kind)
  | other {updater : Updater ω} (h : ∀ u u' w w', u.Alike u' → W w w' →
      (updater.apply u w).Alike W u (updater.apply u' w')) : Blind W updater

/-- What the outside must not make of secrets. -/
structure Outside.Blind (W : ω → ω → Prop) (o : Outside ω) : Prop where
  now : ∀ {w w'}, W w w' → o.now w' = o.now w
  query : ∀ {w w'} server zone kind, W w w' →
    (o.query server zone kind w').1 = (o.query server zone kind w).1 ∧
      W (o.query server zone kind w).2 (o.query server zone kind w').2
  updater : ∀ {kind updater}, o.updater kind = some updater → updater.Blind W
  save : ∀ {σ σ' w w'}, σ.Alike σ' → W w w' →
    (o.save σ' w').1 = (o.save σ w).1 ∧ W (o.save σ w).2 (o.save σ' w').2

/-- **No updater shows the secret of an update**, neither by its outcome nor by what it reports,
other than in the signature of a response. -/
theorem Updater.Blind.apply {updater : Updater ω} (h : updater.Blind W) (hu : u.Alike u') {w w' : ω}
    (hw : W w w') : (updater.apply u w).Alike W u (updater.apply u' w') := by
  cases h with
  | unsupported kind => exact ⟨.nil, rfl, hw⟩
  | other h => exact h u u' w w' hu hw
  | @signed exchange h =>
    show (SignedUpdate.send exchange u w).Alike W u (SignedUpdate.send exchange u' w')
    have hprepare := SignedUpdate.corresponds_prepare hu
    rw [SignedUpdate.send, SignedUpdate.send]
    generalize SignedUpdate.prepare u = p at hprepare
    generalize SignedUpdate.prepare u' = p' at hprepare
    cases hprepare with
    | error e => exact ⟨.nil, rfl, hw⟩
    | @ok p p' hp =>
      obtain ⟨message, name, secret⟩ := p
      obtain ⟨message', name', secret'⟩ := p'
      obtain ⟨hmessage, hname⟩ := hp
      cases hmessage
      cases hname
      obtain ⟨hanswer, hworld⟩ := h u.target.address name secret secret' message w w' hw
      dsimp only
      rw [hu.target.address, SignedUpdate.report_eq hu]
      rcases hx : exchange u.target.address ⟨name, secret⟩ message w with ⟨r, v⟩
      rcases hx' : exchange u.target.address ⟨name, secret'⟩ message w' with ⟨r', v'⟩
      rw [hx, hx'] at hanswer hworld
      cases r with
      | error e =>
        cases r' with
        | error e' =>
          cases hanswer
          exact ⟨.refl _, rfl, hworld⟩
        | ok response' => cases hanswer
      | ok response =>
        cases r' with
        | error e' => cases hanswer
        | ok response' =>
          have hcode : response'.code = response.code := Except.ok.inj hanswer
          refine ⟨?_, SignedUpdate.judge_eq hu hcode, hworld⟩
          dsimp only
          rw [SignedUpdate.report_eq hu]
          exact (SameBut.refl _).append (SignedUpdate.sameBut_report u _ _)

/-! ## 4. Sessions that are alike -/

/-- The lines that may differ: those under the caption of the response to one of the updates. -/
def Shown (deliveries : List Delivery) (line _ _ : String) : Prop :=
  ∃ d ∈ deliveries, d.update.Captions line

/-- The events that may differ: those that log such a line. -/
inductive Logged (deliveries : List Delivery) : Event → Event → Event → Prop
  | intro (zone : DomainName) {line text other : String} (h : Shown deliveries line text other) :
      Logged deliveries (.log s!"{zone}: {line}") (.log s!"{zone}: {text}") (.log s!"{zone}: {other}")

theorem Shown.mono {ds es : List Delivery} (hes : ds ⊆ es) {a b b' : String} (h : Shown ds a b b') :
    Shown es a b b' :=
  h.imp fun _ hd => ⟨hes hd.1, hd.2⟩

theorem Logged.mono {ds es : List Delivery} (hes : ds ⊆ es) {a b b' : Event}
    (h : Logged ds a b b') : Logged es a b b' := by
  obtain ⟨zone, h⟩ := h
  exact ⟨zone, h.mono hes⟩

/-- Two sessions that nobody can tell apart who sees neither secrets nor signatures. -/
structure Session.Alike (W : ω → ω → Prop) (s s' : Session ω) : Prop where
  state : s.state.Alike s'.state
  world : W s.world s'.world
  scheduler : s'.scheduler = s.scheduler
  transcript : SameBut (Shown s.deliveries) s.transcript.lines s'.transcript.lines
  events : SameBut (Logged s.deliveries) s.events s'.events
  deliveries : List.Forall₂ Delivery.Alike s.deliveries s'.deliveries

end MultiSigner
