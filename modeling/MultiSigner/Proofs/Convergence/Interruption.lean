/-
# Work that breaks off

An activity that changes records sends one update after the other, and the first one that is refused
ends it.  On a network on which updates that are refused change nothing, the activity has then come
part of the way: the signers before that one hold what was planned for them, all others hold what they
held (`Truthful.interrupted`).

Such a network may be obliging later on: while it is calm, servers answer and accept what they are
sent.  Then an activity that can be planned succeeds, as far as the signers that get something can
be sent updates at all (`Obliging.achieves_acted`).

The network in memory is of this sort, and calm while no server rejects updates or keeps silent
(`Rehearsal.harmless_wavering`, `Rehearsal.obliging_wavering`).
-/
import MultiSigner.Proofs.Targets
import MultiSigner.Proofs.Truthful

namespace MultiSigner

open Operation Automation

namespace Deployment

variable {ω : Type} {n : Deployment ω} {Calm : ω → Prop} {s t u : Session ω} {m : Member}
  {a : Activity} {plans : List Plan} {r : Except Error Unit}

/-! ## 1. Networks -/

/-- **A harmless network.**  An update that is refused changes nothing. -/
structure Harmless (n : Deployment ω) : Prop where
  refuse : ∀ {kind : UpdaterKind} {u : Updater ω}, n.outside.updaterFor kind = .ok u →
    ∀ {w : ω} {x : Update} {rs : List Record} {e : Error}, x.zone = n.zone → x.target.kind = kind →
      n.holds w x.target.address = some rs → (u.apply x w).outcome = .error e →
        n.holds (u.apply x w).world = n.holds w

/-- **An obliging network.**  While it is calm every server answers and accepts what a push sends, and
none of this disturbs it. -/
structure Obliging (n : Deployment ω) (Calm : ω → Prop) : Prop where
  answer : ∀ (kind : RecordKind) {w : ω} {server : String} {rs : List Record}, Calm w →
    n.holds w server = some rs → (∃ a, (n.outside.query server n.zone kind w).1 = .ok a) ∧
      Calm (n.outside.query server n.zone kind w).2
  accept : ∀ {kind : UpdaterKind} {u : Updater ω}, n.outside.updaterFor kind = .ok u →
    ∀ {w : ω} {x : Update} {rs : List Record}, Calm w → n.Acceptable x → x.target.kind = kind →
      n.holds w x.target.address = some rs →
        (u.apply x w).outcome = .ok () ∧ Calm (u.apply x w).world

/-- There are signers to ask, and all of them have addresses. -/
structure Askable (n : Deployment ω) : Prop where
  populated : n.members ≠ []
  addressed : ∀ m ∈ n.members, m.signer.address.isEmpty = false

/-- Who was asked with success can be asked. -/
theorem askable_of_observeGroup (hs : n.Present s) {kinds : List RecordKind}
    {views : List SignerView}
    (h : (observeGroup n.zone kinds).perform n.outside s = (.ok views, t)) : n.Askable := by
  have hviews : n.members = views.map SignerView.member :=
    Except.ok.inj (hs.members.symm.trans (members_of_observeGroup h))
  refine ⟨?_, fun m hm => ?_⟩
  · obtain ⟨members, u, hmembers, -⟩ := perform_bind_eq_ok.1 h
    obtain ⟨hlisted, hsome, -⟩ := groupMembers_eq_ok.1 hmembers
    rwa [Except.ok.inj (hs.members.symm.trans hlisted)]
  · rw [hviews] at hm
    obtain ⟨v, hv, rfl⟩ := List.mem_map.1 hm
    exact address_of_observeGroup h v hv

theorem Sendable.congr {σ τ : State} (h : n.Sendable σ m) (hw : τ.withoutOrigins = σ.withoutOrigins) :
    n.Sendable τ m where
  address := h.address
  updater := h.updater
  credential := by
    rw [Push.credential_of_withoutOrigins hw]
    exact h.credential

/-! ## 2. Work that breaks off -/

theorem Harmless.refused (hh : n.Harmless) {q : Plan × UpdateTarget} {rs : List Record} {e : Error}
    (hrs : n.holds s.world q.2.address = some rs)
    (h : (Push.send n.zone q).perform n.outside s = (.error e, t)) :
    n.holds t.world = n.holds s.world := by
  rcases Push.reply_of_send h with ⟨hworld, -⟩ | ⟨u, hu, herror, hworld⟩
  · rw [hworld]
  · rw [hworld]
    exact hh.refuse hu (x := Push.updateOf n.zone q) rfl rfl hrs herror

/-- Plans are resolved only for signers that can be sent updates. -/
theorem sendable_of_resolveAll {qs : List (Plan × UpdateTarget)}
    (h : (Push.resolveAll plans).perform n.outside s = (.ok qs, t)) :
    ∀ p ∈ plans, n.Sendable s.state p.member := by
  intro p hp
  obtain ⟨q, -, hready, -⟩ := exists_mem_of_forall₂ (Push.found_of_resolveAll h).flip hp
  exact ⟨hready.address, hready.updater, hready.credential⟩

/-- An activity was planned and broke off while it was pushed, if not at the end: each signer holds
what was planned for it or what it held. -/
structure Interrupted (n : Deployment ω) (a : Activity) (plans : List Plan) (s t : Session ω) :
    Prop where
  planned : ∃ u, (planning n.zone a).perform n.outside s = (.ok plans, u) ∧
    t.state = u.state ∧ n.holds u.world = n.holds s.world
  sendable : ∀ p ∈ Push.effective plans, n.Sendable t.state p.member
  changed : ∀ m ∈ n.members, n.records t m = n.records s m ∨
    ∃ p ∈ Push.effective plans, p.member = m ∧ n.records t m = p.changes.applyTo (n.records s m)
  present : n.Present t

/-- What changes no server and nothing of the document leaves it at what was pushed. -/
theorem Pushed.congr (h : n.Pushed plans s t) (hsettled : u.settled = t.settled)
    (hholds : n.holds u.world = n.holds t.world) : n.Pushed plans s u where
  settled := hsettled.trans h.settled
  changed p hp := by rw [hholds, h.changed p hp]
  rest server hserver := by rw [hholds, h.rest server hserver]

/-- **A push that sent something** has been carried out up to some plan. -/
theorem Truthful.pushedSome (hn : n.Truthful) (hh : n.Harmless) (hs : n.Present s)
    (hplans : (plans.map Plan.member).Sublist n.members)
    (h : (Push.push n.zone plans).perform n.outside s = (r, t))
    (hsent : t.deliveries ≠ s.deliveries) :
    (∃ done, done <+: Push.effective plans ∧ n.Pushed done s t) ∧
      ∀ p ∈ Push.effective plans, n.Sendable s.state p.member := by
  rw [Push.push, perform_bind] at h
  rcases hu : (Push.resolveAll (plans.filter fun p => !p.changes.isEmpty)).perform n.outside s
    with ⟨e | qs, u⟩
  · rw [hu] at h
    cases h
    exact absurd (Session.lasting_eq_iff.1
      ((Push.quiet_resolveAll _).rel_of_perform hu)).2.2.2 hsent
  · rw [hu] at h
    refine ⟨?_, sendable_of_resolveAll hu⟩
    cases hn.sentResolved hs hplans hu h with
    | complete hpushed => exact ⟨_, List.prefix_rfl, hpushed⟩
    | broken hfirst hpushed hheld hrefused =>
      have hsettled := (Push.leaves_send_settled n.zone _).rel_of_perform hrefused
      exact ⟨_, hfirst, hpushed.congr hsettled (hh.refused hheld hrefused)⟩

/-- **Work that sent something** came part of the way. -/
theorem Truthful.interrupted (hn : n.Truthful) (hh : n.Harmless) (hs : n.Present s)
    (hplans : ∀ plans u, (planning n.zone a).perform n.outside s = (.ok plans, u) →
      (plans.map Plan.member).Sublist n.members ∧ n.holds u.world = n.holds s.world)
    (h : (planning n.zone a >>= Push.push n.zone).perform n.outside s = (r, t))
    (hsent : t.deliveries ≠ s.deliveries) : ∃ plans, n.Interrupted a plans s t := by
  rw [perform_bind] at h
  rcases hu : (planning n.zone a).perform n.outside s with ⟨e | plans, u⟩
  all_goals
    have hplanned : u.planned = s.planned := (leaves_planning n.zone a).rel_of_perform hu
    have hunsent : u.deliveries = s.deliveries := congrArg (fun p => p.2.2.2) hplanned
    rw [hu] at h
  · cases h
    exact absurd hunsent hsent
  · obtain ⟨hsublist, hholds⟩ := hplans plans u hu
    have hpresent : n.Present u := by
      refine ⟨?_, by rw [hholds]; exact hs.serving⟩
      rw [State.members_of_withoutOrigins (congrArg Prod.fst hplanned)]
      exact hs.members
    obtain ⟨⟨done, hdone, hpushed⟩, hsendable⟩ := hn.pushedSome hh hpresent hsublist h
      (by rwa [hunsent])
    have hstate : t.state = u.state := Push.state_of_push h
    have hmember : ∀ p ∈ done, p.member ∈ n.members := fun p hp =>
      hsublist.subset (List.mem_map_of_mem (List.mem_filter.1 (hdone.subset hp)).1)
    have hchanged : ∀ m ∈ n.members, n.holds t.world m.signer.address
          = n.holds s.world m.signer.address ∨ ∃ p ∈ done, p.member = m ∧
        n.holds t.world m.signer.address = some (p.changes.applyTo (n.records s m)) := by
      intro m hm
      by_cases hp : ∃ p ∈ done, p.member = m
      · obtain ⟨p, hp, rfl⟩ := hp
        refine .inr ⟨p, hp, rfl, ?_⟩
        rw [hpushed.changed p hp, records_congr hholds]
      · refine .inl ?_
        rw [hpushed.rest _ fun p hp' heq => hp ⟨p, hp', hn.apart.eq_of_address (hmember p hp') hm heq⟩,
          hholds]
    refine ⟨plans, ⟨u, hu, hstate, hholds⟩, fun p hp => hstate ▸ hsendable p hp, fun m hm => ?_, ?_⟩
    · rcases hchanged m hm with hsame | ⟨p, hp, hpm, hnew⟩
      · exact .inl (by rw [records, hsame, records])
      · exact .inr ⟨p, hdone.subset hp, hpm, by rw [records, hnew, Option.getD_some]⟩
    · refine ⟨hstate ▸ hpresent.members, fun m hm => ?_⟩
      rcases hchanged m hm with hsame | ⟨p, -, -, hnew⟩
      · rw [hsame]
        exact hs.serving m hm
      · exact ⟨_, hnew⟩

/-! ## 3. Work while it is calm -/

section Calm

variable {server : String} {rs : List Record} {kinds : List RecordKind}

theorem Obliging.achieves_query (ho : n.Obliging Calm) (hn : n.Answering) (hc : Calm s.world)
    (hrs : n.holds s.world server = some rs) (kind : RecordKind) :
    Achieves n.outside s (query server n.zone kind) fun _ t => n.Still s t ∧ Calm t.world := by
  obtain ⟨⟨answer, hanswer⟩, hcalm⟩ := ho.answer kind hc hrs
  refine ⟨answer, { s with world := (n.outside.query server n.zone kind s.world).2 }, ?_,
    ⟨rfl, (hn.answer kind hrs hanswer).2⟩, hcalm⟩
  rw [perform_query, hanswer]

/-- Asking a server for records of some kinds, one after the other. -/
theorem Obliging.achieves_absorb (ho : n.Obliging Calm) (hn : n.Answering) {β : Type}
    (absorb : β → Answer → β) : ∀ {kinds : List RecordKind} {b : β} {s : Session ω},
      Calm s.world → n.holds s.world server = some rs →
        Achieves n.outside s
          (kinds.foldlM (fun b kind => return absorb b (← query server n.zone kind)) b)
          fun _ t => n.Still s t ∧ Calm t.world
  | [], b, s, hc, _ => achieves_pure ⟨.refl s, hc⟩
  | kind :: kinds, b, s, hc, hrs => by
    rw [List.foldlM_cons]
    have hfirst : Achieves n.outside s
        (do return absorb b (← query server n.zone kind) : Operation ω β) fun _ t =>
          n.Still s t ∧ Calm t.world :=
      (ho.achieves_query hn hc hrs kind).bind fun _ _ h => achieves_pure h
    refine hfirst.bind fun c t ⟨ht, hct⟩ => ?_
    refine (ho.achieves_absorb hn absorb hct (ht.holds ▸ hrs)).imp fun _ u ⟨hu, hcu⟩ => ?_
    exact ⟨ht.trans hu, hcu⟩

/-- **Signers are asked with success.** -/
theorem Obliging.achieves_observeGroup (ho : n.Obliging Calm) (hn : n.Answering) (ha : n.Askable)
    (hs : n.Present s) (hc : Calm s.world) (kinds : List RecordKind) :
    Achieves n.outside s (observeGroup n.zone kinds) fun vs t =>
      vs = n.views kinds s ∧ n.Still s t ∧ Calm t.world := by
  have hask : ∀ m ∈ n.members, ∀ t, n.Still s t ∧ Calm t.world →
      Achieves n.outside t (observeSigner n.zone kinds m) fun _ u =>
        True ∧ n.Still s u ∧ Calm u.world := by
    intro m hm t ⟨ht, hct⟩
    refine Achieves.after (perform_checkAddress (ha.addressed m hm)) ?_
    have hrs := (hs.of_still ht).holds_eq hm
    exact (ho.achieves_absorb hn SignerView.absorb hct hrs).imp
      fun _ u ⟨hu, hcu⟩ => ⟨trivial, ht.trans hu, hcu⟩
  have hgroup : (groupMembers n.zone).perform n.outside s = (.ok n.members, s) :=
    groupMembers_eq_ok.2 ⟨hs.members, ha.populated, rfl⟩
  obtain ⟨vs, t, hperform, -, ht, hct⟩ := Achieves.after hgroup
    (achieves_mapM (P := fun _ _ => True) hask ⟨.refl s, hc⟩)
  exact ⟨vs, t, hperform, (hn.views hs hperform).1, ht, hct⟩

theorem Obliging.achieves_send (ho : n.Obliging Calm) (hn : n.Truthful)
    {q : Plan × UpdateTarget} (hc : Calm s.world) (hrs : n.holds s.world q.2.address = some rs)
    (hq : n.Acceptable (Push.updateOf n.zone q))
    (hu : ∃ u, n.outside.updaterFor q.2.kind = .ok u) :
    Achieves n.outside s (Push.send n.zone q) fun _ t => Calm t.world ∧
      n.holds t.world = Function.update (n.holds s.world) q.2.address
        (some (q.1.changes.applyTo rs)) := by
  obtain ⟨u, hu⟩ := hu
  obtain ⟨hok, hcalm⟩ := ho.accept hu hc hq rfl hrs
  obtain ⟨_, t, hperform, -, hworld⟩ := Push.achieves_send hu hok
  exact ⟨(), t, hperform, hworld ▸ hcalm, hn.sent hrs hperform⟩

theorem Obliging.achieves_sendAll (ho : n.Obliging Calm) (hn : n.Truthful) :
    ∀ {qs : List (Plan × UpdateTarget)} {s : Session ω}, Calm s.world →
      (∀ q ∈ qs, (∃ rs, n.holds s.world q.2.address = some rs) ∧
        n.Acceptable (Push.updateOf n.zone q) ∧ ∃ u, n.outside.updaterFor q.2.kind = .ok u) →
      Achieves n.outside s (qs.forM (Push.send n.zone)) fun _ _ => True
  | [], _, _, _ => achieves_pure trivial
  | q :: qs, s, hc, hready => by
    obtain ⟨⟨rs, hrs⟩, hq, hu⟩ := hready q List.mem_cons_self
    show Achieves n.outside s (Push.send n.zone _ >>= fun _ => qs.forM (Push.send n.zone)) _
    refine (ho.achieves_send hn hc hrs hq hu).bind fun _ t ⟨hct, ht⟩ => ?_
    refine ho.achieves_sendAll hn hct fun q' hq' => ?_
    obtain ⟨⟨rs', hrs'⟩, hready'⟩ := hready q' (List.mem_cons_of_mem _ hq')
    refine ⟨?_, hready'⟩
    rw [ht]
    by_cases heq : q'.2.address = q.2.address
    · rw [heq, Function.update_self]
      exact ⟨_, rfl⟩
    · rw [Function.update_of_ne heq]
      exact ⟨rs', hrs'⟩

/-- **Updates are sent with success**, as far as the signers can be sent some. -/
theorem Obliging.achieves_push (ho : n.Obliging Calm) (hn : n.Truthful) (hs : n.Present s)
    (hc : Calm s.world) (hplans : (plans.map Plan.member).Sublist n.members)
    (hstart : ∀ p ∈ plans, ¬ p.changes.TouchesStart)
    (hsendable : ∀ p ∈ Push.effective plans, n.Sendable s.state p.member)
    (htakes : ∀ m ∈ n.members, ∀ c, Push.credential s.state m = .ok c → n.takes c) :
    Achieves n.outside s (Push.push n.zone plans) fun _ _ => True := by
  have hmem : ∀ p ∈ plans, p.member ∈ n.members := fun p hp =>
    hplans.subset (List.mem_map_of_mem hp)
  refine (achieves_resolveAll hsendable).bind fun qs t ⟨ht, hresolved⟩ => ?_
  subst ht
  refine ho.achieves_sendAll hn hc fun q hq => ?_
  have hacceptable := acceptable_of_resolved (n := n) hresolved hstart fun p hp =>
    htakes p.member (hmem p hp)
  obtain ⟨p, hp, ⟨c, -, rfl⟩, hq⟩ := exists_mem_of_forall₂ hacceptable hq
  exact ⟨hs.serving _ (hmem p (List.mem_filter.1 hp).1), hq, (hsendable p hp).updater⟩

/-- **Work succeeds while it is calm**, if it can be planned. -/
theorem Obliging.achieves_acted (ho : n.Obliging Calm) (hn : n.Truthful) (hs : n.Present s)
    (hplans : (plans.map Plan.member).Sublist n.members)
    (hsendable : ∀ p ∈ Push.effective plans, n.Sendable s.state p.member)
    (htakes : ∀ m ∈ n.members, ∀ c, Push.credential s.state m = .ok c → n.takes c)
    (hplan : Achieves n.outside s (planning n.zone a) fun ps u =>
      ps = plans ∧ n.holds u.world = n.holds s.world ∧ Calm u.world) :
    Achieves n.outside s (planning n.zone a >>= Push.push n.zone) fun _ t =>
      n.Acted a plans s t := by
  obtain ⟨ps, u, hperform, rfl, hholds, hc⟩ := hplan
  have hdocument : u.state.withoutOrigins = s.state.withoutOrigins :=
    congrArg Prod.fst ((leaves_planning n.zone a).rel_of_perform hperform)
  have hpresent : n.Present u := by
    refine ⟨?_, by rw [hholds]; exact hs.serving⟩
    rw [State.members_of_withoutOrigins hdocument]
    exact hs.members
  refine Achieves.after hperform ?_
  obtain ⟨_, t, hpush, -⟩ := ho.achieves_push hn hpresent hc hplans
    (fun p hp => (within_of_planning hperform hp).not_touchesStart)
    (fun p hp => (hsendable p hp).congr hdocument)
    fun m hm c hcredential => htakes m hm c (by
      rwa [Push.credential_of_withoutOrigins hdocument] at hcredential)
  exact ⟨(), t, hpush, (hn.acted hs hperform hholds hplans hpush).1⟩

end Calm

end Deployment

/-! ## 4. Servers in memory that reject updates -/

namespace Rehearsal

/-- A group on the network in memory, of whose servers some may reject updates or keep silent.  They
hold their records all the same. -/
def wavering (usable : List UpdaterKind) (zone : DomainName) (members : List Member)
    (parent : String) : Deployment World where
  outside := outside usable
  zone := zone
  members := members
  parent := parent
  holds w := w.network.records?
  takes _ := True

variable {usable : List UpdaterKind} {zone : DomainName} {members : List Member} {parent : String}
  {w w' : Network}

theorem Network.of_update_eq_ok {x : Update} {rs : List Record}
    (hrs : w.records? x.target.address = some rs) (h : w.update x = .ok w') :
    w' = w.serve x.target.address (x.changes.applyTo rs) := by
  simp only [Network.update, hrs] at h
  split at h
  · cases h
  · exact (Except.ok.inj h).symm

theorem Network.of_query_eq_ok {server : String} {rs : List Record} {kind : RecordKind}
    {a : Answer} (hrs : w.records? server = some rs) (h : w.query server kind = .ok a) :
    a = ⟨rs.filter fun r => r.kind == kind⟩ := by
  simp only [Network.query, hrs] at h
  split at h
  · cases h
  · exact (Except.ok.inj h).symm

/-- **Such a network is truthful.** -/
theorem truthful_wavering (hapart : (members.map fun m => m.signer.address).Nodup) :
    (wavering usable zone members parent).Truthful where
  apart := hapart
  answer kind {_ server _ a} hrs ha := ⟨Network.of_query_eq_ok hrs ha, rfl⟩
  accept {kind} {u} hu {w} {x} {rs} _ _ hrs hok := by
    cases updater_of_outside hu
    simp only [updater] at hok ⊢
    cases hupdate : w.network.update x with
    | error e =>
      rw [hupdate] at hok
      cases hok
    | ok network =>
      rw [Network.of_update_eq_ok hrs hupdate]
      exact Network.records?_serve _ _

/-- **Such a network is harmless.** -/
theorem harmless_wavering : (wavering usable zone members parent).Harmless where
  refuse {kind} {u} hu {w} {x} {rs} {e} _ _ _ herror := by
    cases updater_of_outside hu
    simp only [updater] at herror ⊢
    cases hupdate : w.network.update x with
    | error e => rfl
    | ok network =>
      rw [hupdate] at herror
      cases herror

/-- **Such a network is obliging** while no server rejects updates or keeps silent. -/
theorem obliging_wavering :
    (wavering usable zone members parent).Obliging fun w => w.network.isOpen = true where
  answer kind {_ _ _} hopen hrs :=
    ⟨⟨_, Network.query_of_held (Network.held_eq_some.2 ⟨hopen, hrs⟩) kind⟩, hopen⟩
  accept {kind} {u} hu {w} {x} {rs} hopen _ _ hrs := by
    cases updater_of_outside hu
    have hupdate := Network.update_of_held (Network.held_eq_some.2 ⟨hopen, hrs⟩)
    simp only [updater, hupdate]
    exact ⟨trivial, hopen⟩

end Rehearsal
end MultiSigner
