/-
# Networks on which anything may fail

A network is truthful if every query and every update that succeeds is as it should be.  Nothing is
said of those that fail, so a faithful network is truthful, and so is one on which servers reject
updates, keep silent or lose all that they have while doing so.

What an operation gives and leaves behind on such a network is known as long as it succeeds.  Of
operations that only ask it is known already if queries are as they should be:

* `Answering.views`: the views of a group are those of the records that its members hold.
* `Answering.checked`: the flags of a check are worked out from these views.
* `Truthful.acted`: an activity that succeeds did what it planned, and each of its plans that
  changes something was sent and accepted.
-/
import MultiSigner.Proofs.Rehearsal

namespace MultiSigner

open Operation Automation

/-! ## 1. Updates and plans -/

/-- An update is for a member. -/
structure Delivery.IsFor (d : Delivery) (m : Member) : Prop where
  signer : d.update.target.signer = m.name
  address : d.update.target.address = m.signer.address

/-- An update made the changes of a plan. -/
structure Delivery.Makes (d : Delivery) (p : Plan) : Prop where
  target : d.IsFor p.member
  changes : d.update.changes = p.changes
  accepted : d.outcome = .ok ()

/-- What was sent on the way made the changes of those plans that change something, in order. -/
def Session.Carried {ω : Type} (plans : List Plan) (s t : Session ω) : Prop :=
  ∃ ds, t.deliveries = s.deliveries ++ ds ∧
    List.Forall₂ (fun p (d : Delivery) => d.Makes p) (Push.effective plans) ds

/-- Plans that change nothing are not sent, also if planning fails. -/
theorem Automation.idle_of_planning {ω : Type} {o : Outside ω} {s t : Session ω} {zone : DomainName}
    {a : Activity} {r : Except Error Unit}
    (hidle : ∀ plans u, (planning zone a).perform o s = (.ok plans, u) →
      ∀ p ∈ plans, p.changes.isEmpty = true)
    (h : (planning zone a >>= Push.push zone).perform o s = (r, t)) :
    t.deliveries = s.deliveries ∧ ∃ x, (planning zone a).perform o s = (x, t) := by
  have hsent : ∀ {x u}, (planning zone a).perform o s = (x, u) → u.deliveries = s.deliveries :=
    fun hu => congrArg (fun p => p.2.2.2) ((leaves_planning zone a).rel_of_perform hu)
  rw [perform_bind] at h
  rcases hu : (planning zone a).perform o s with ⟨e | plans, u⟩
  · rw [hu] at h
    cases h
    exact ⟨hsent hu, _, rfl⟩
  · rw [hu] at h
    simp only [Push.perform_push_of_idle (hidle plans u hu)] at h
    cases h
    exact ⟨hsent hu, _, rfl⟩

/-! ## 2. Networks -/

namespace Deployment

variable {ω : Type}

/-- **A truthful network.**  The servers of the members are all different.  A query that succeeds
returns the records of its kind and leaves all servers as they are, and an update that is accepted
does what its changes say and nothing else. -/
structure Truthful (n : Deployment ω) : Prop where
  apart : n.Apart
  answer : ∀ (kind : RecordKind) {w : ω} {server : String} {rs : List Record} {a : Answer},
    n.holds w server = some rs → (n.outside.query server n.zone kind w).1 = .ok a →
      a = ⟨rs.filter fun r => r.kind == kind⟩ ∧
        n.holds (n.outside.query server n.zone kind w).2 = n.holds w
  accept : ∀ {kind : UpdaterKind} {u : Updater ω}, n.outside.updaterFor kind = .ok u →
    ∀ {w : ω} {x : Update} {rs : List Record}, x.zone = n.zone → x.target.kind = kind →
      n.holds w x.target.address = some rs → (u.apply x w).outcome = .ok () →
        n.holds (u.apply x w).world
          = Function.update (n.holds w) x.target.address (some (x.changes.applyTo rs))

/-- **A network that answers.**  A query that succeeds returns the records of its kind and leaves all
servers as they are.  Members may share a server, and nothing is said of updates. -/
structure Answering (n : Deployment ω) : Prop where
  answer : ∀ (kind : RecordKind) {w : ω} {server : String} {rs : List Record} {a : Answer},
    n.holds w server = some rs → (n.outside.query server n.zone kind w).1 = .ok a →
      a = ⟨rs.filter fun r => r.kind == kind⟩ ∧
        n.holds (n.outside.query server n.zone kind w).2 = n.holds w

/-- The document lists these members, and the server of each of them is there. -/
structure Present (n : Deployment ω) (s : Session ω) : Prop where
  members : s.state.members n.zone = .ok n.members
  serving : ∀ m ∈ n.members, ∃ rs, n.holds s.world m.signer.address = some rs

/-- A later session: the group has its members, keys are known to come from where they came from, and
the servers of the members hold what they held.  All else may have changed. -/
structure Resumes (n : Deployment ω) (s t : Session ω) : Prop where
  members : t.state.members n.zone = s.state.members n.zone
  origins : t.state.dnskeyOrigin = s.state.dnskeyOrigin
  holds : ∀ m ∈ n.members, n.holds t.world m.signer.address = n.holds s.world m.signer.address

variable {n : Deployment ω} {s t u : Session ω} {m : Member}

theorem Faithful.truthful (hn : n.Faithful) : n.Truthful where
  apart := hn.members_apart
  answer kind {w server rs a} hrs ha := by
    obtain ⟨hanswer, hholds⟩ := hn.query kind hrs
    exact ⟨(Except.ok.inj (hanswer.symm.trans ha)).symm, hholds⟩
  accept := hn.update

theorem Truthful.answering (hn : n.Truthful) : n.Answering := ⟨hn.answer⟩

theorem Present.holds_eq (hs : n.Present s) (hm : m ∈ n.members) :
    n.holds s.world m.signer.address = some (n.records s m) := by
  obtain ⟨rs, hrs⟩ := hs.serving m hm
  rw [records, hrs, Option.getD_some]

theorem Present.of_still (hs : n.Present s) (h : n.Still s t) : n.Present t := by
  refine ⟨?_, ?_⟩
  · rw [h.state]
    exact hs.members
  · rw [h.holds]
    exact hs.serving

theorem Resumes.refl (s : Session ω) : n.Resumes s s :=
  ⟨rfl, rfl, fun _ _ => rfl⟩

theorem Resumes.present (h : n.Resumes s t) (hs : n.Present s) : n.Present t := by
  refine ⟨h.members.trans hs.members, fun m hm => ?_⟩
  rw [h.holds m hm]
  exact hs.serving m hm

theorem Resumes.records (h : n.Resumes s t) (hm : m ∈ n.members) :
    n.records t m = n.records s m := by
  rw [Deployment.records, h.holds m hm, Deployment.records]

theorem Resumes.shows (h : n.Resumes s t) (hm : m ∈ n.members) (d : RecordData) :
    n.Shows t m d ↔ n.Shows s m d := by
  rw [Shows, h.records hm, Shows]

theorem Resumes.agree (h : n.Resumes s t) (kind : RecordKind) : n.Agree kind s t :=
  fun _ hm d _ => h.shows hm d

theorem Acted.present {a : Activity} {plans : List Plan} (h : n.Acted a plans s t)
    (hs : n.Present s) : n.Present t where
  members := (State.members_of_withoutOrigins h.state n.zone).trans hs.members
  serving m hm := h.serves (hs.serving m hm)

/-! ## 3. Asking -/

section Asking

variable {server : String} {rs : List Record} {kinds : List RecordKind}

theorem Answering.asked (hn : n.Answering) {kind : RecordKind} {a : Answer}
    (hrs : n.holds s.world server = some rs)
    (h : (query server n.zone kind).perform n.outside s = (.ok a, t)) :
    a = ⟨rs.filter fun r => r.kind == kind⟩ ∧ n.Still s t := by
  rw [perform_query] at h
  obtain ⟨hanswer, rfl⟩ := Prod.mk.inj h
  obtain ⟨ha, hholds⟩ := hn.answer kind hrs hanswer
  exact ⟨ha, rfl, hholds⟩

/-- Asking a server for records of some kinds, one after the other. -/
theorem Answering.absorbed (hn : n.Answering) {β : Type} (absorb : β → Answer → β) :
    ∀ {kinds : List RecordKind} {b c : β} {s : Session ω}, n.holds s.world server = some rs →
      (kinds.foldlM (fun b kind => return absorb b (← query server n.zone kind)) b :
        Operation ω β).perform n.outside s = (.ok c, t) →
          c = kinds.foldl (fun b kind => absorb b ⟨rs.filter fun r => r.kind == kind⟩) b ∧
            n.Still s t
  | [], b, c, s, _, h => by
    cases h
    exact ⟨rfl, .refl _⟩
  | kind :: kinds, b, c, s, hrs, h => by
    rw [List.foldlM_cons, perform_bind_eq_ok] at h
    obtain ⟨d, u, hd, h⟩ := h
    obtain ⟨a, v, ha, hd⟩ := perform_bind_eq_ok.1 hd
    cases hd
    obtain ⟨rfl, hu⟩ := hn.asked hrs ha
    obtain ⟨hc, ht⟩ := hn.absorbed absorb (hu.holds ▸ hrs) h
    exact ⟨hc, hu.trans ht⟩

/-- **What a member is found to serve.** -/
theorem Answering.view (hn : n.Answering) (hs : n.Present s) (hm : m ∈ n.members) {v : SignerView}
    (h : (observeSigner n.zone kinds m).perform n.outside s = (.ok v, t)) :
    v = .viewOf kinds (n.records s m) m ∧ n.Still s t := by
  rw [observeSigner, perform_bind_eq_ok] at h
  obtain ⟨_, u, hu, h⟩ := h
  rw [perform_lift] at hu
  obtain ⟨-, rfl⟩ := Prod.mk.inj hu
  exact hn.absorbed SignerView.absorb (hs.holds_eq hm) h

/-- A pass over the members, each of which is dealt with quietly. -/
theorem still_of_mapM_members {α : Type} {f : Member → Operation ω α} {g : Member → α}
    {as : List α} (h : ∀ m ∈ n.members, ∀ a u v, n.Still s u →
      (f m).perform n.outside u = (.ok a, v) → a = g m ∧ n.Still u v)
    (hp : (n.members.mapM f).perform n.outside s = (.ok as, t)) :
    as = n.members.map g ∧ n.Still s t := by
  obtain ⟨hall, ht⟩ := invariant_of_mapM (I := n.Still s) (P := fun m a => g m = a)
    (fun m hm a u v hu hv => by
      obtain ⟨ha, hstill⟩ := h m hm a u v hu hv
      exact ⟨ha.symm, hu.trans hstill⟩) hp (.refl s)
  rw [← List.forall₂_map_left_iff, List.forall₂_eq_eq_eq] at hall
  exact ⟨hall.symm, ht⟩

/-- **What the members are found to serve.** -/
theorem Answering.views (hn : n.Answering) (hs : n.Present s) {vs : List SignerView}
    (h : (observeGroup n.zone kinds).perform n.outside s = (.ok vs, t)) :
    vs = n.views kinds s ∧ n.Still s t := by
  rw [observeGroup, perform_bind_eq_ok] at h
  obtain ⟨members, u, hmembers, h⟩ := h
  obtain ⟨hlisted, -, rfl⟩ := groupMembers_eq_ok.1 hmembers
  obtain rfl : n.members = members := Except.ok.inj (hs.members.symm.trans hlisted)
  refine still_of_mapM_members (fun m hm v x y hx hy => ?_) h
  rw [← hx.records]
  exact hn.view (hs.of_still hx) hm hy

/-- **What the parent is found to serve**, if its server is there. -/
theorem Answering.parent (hn : n.Answering) {g : Group} (hg : s.state.groups.get? n.zone = some g)
    (hrs : n.holds s.world g.parent = some rs) {p : ParentView}
    (h : (observeParent n.zone kinds).perform n.outside s = (.ok p, t)) :
    p = .viewOf kinds rs := by
  rw [observeParent, perform_bind_eq_ok] at h
  obtain ⟨address, u, haddress, h⟩ := h
  simp only [parentAddress, perform_bind, perform_state, perform_lift, State.group_eq_ok.2 hg,
    perform_ite, perform_throw, perform_pure] at haddress
  split at haddress
  · cases haddress
  · cases haddress
    exact (hn.absorbed ParentView.absorb hrs h).1

/-! ## 4. Checks -/

/-- What a check is told by the members. -/
theorem Answering.shown (hn : n.Answering) (hs : n.Present s) {vs : List SignerView}
    (h : (n.members.mapM fun m => do
      let v ← observeSigner n.zone kinds m
      lines (Status.describe (← state).dnskeyOrigin v)
      return v : Operation ω (List SignerView)).perform n.outside s = (.ok vs, t)) :
    vs = n.views kinds s ∧ n.Still s t := by
  refine still_of_mapM_members (fun m hm v x y hx hy => ?_) h
  obtain ⟨v', z, hv, hy⟩ := perform_bind_eq_ok.1 hy
  simp only [perform_bind, perform_state, perform_lines, perform_pure] at hy
  obtain ⟨hvv, rfl⟩ := Prod.mk.inj hy
  obtain rfl := Except.ok.inj hvv
  obtain ⟨hv, hz⟩ := hn.view (hs.of_still hx) hm hv
  rw [hx.records] at hv
  exact ⟨hv, hz.trans ⟨rfl, rfl⟩⟩

/-- What a check is told. -/
theorem Answering.told (hn : n.Answering) (hs : n.Present s) {vs : List SignerView} {p : ParentView}
    (h : (Status.ask n.zone).perform n.outside s = (.ok (vs, p), t)) :
    vs = n.statusViews s ∧ t.state.dnskeyOrigin = s.state.dnskeyOrigin ∧
      ∀ g rs, s.state.groups.get? n.zone = some g → n.holds s.world g.parent = some rs →
        p = .viewOf Status.parentKinds rs := by
  rw [Status.ask, perform_bind_eq_ok] at h
  obtain ⟨members, u, hmembers, h⟩ := h
  obtain ⟨hlisted, -, rfl⟩ := groupMembers_eq_ok.1 hmembers
  obtain rfl : n.members = members := Except.ok.inj (hs.members.symm.trans hlisted)
  obtain ⟨_, c, hc, h⟩ := perform_bind_eq_ok.1 h
  rw [perform_modifyState] at hc
  obtain ⟨-, hc⟩ := Prod.mk.inj hc
  have hcleared : c.state = Status.withFlags n.zone .none u.state := by rw [← hc]
  have hworld : c.world = u.world := by rw [← hc]
  have hrecords : ∀ m, n.records c m = n.records u m := records_congr (by rw [hworld])
  -- forgetting the old answers changes neither the members nor any server
  have hpresent : n.Present c := by
    refine ⟨?_, by rw [hworld]; exact hs.serving⟩
    rw [hcleared, ← hs.members]
    refine State.members_congr ?_ rfl
    simp only [Status.withFlags, State.get?_modifyGroup, Option.map_map]
    rfl
  obtain ⟨views, x, hviews, h⟩ := perform_bind_eq_ok.1 h
  obtain ⟨hviews, hx⟩ := hn.shown hpresent hviews
  obtain ⟨q, y, hparent, h⟩ := perform_bind_eq_ok.1 h
  cases h
  have hstate : t.state = c.state := ((quiet_observeParent _ _).state_eq hparent).trans hx.state
  refine ⟨?_, by rw [hstate, hcleared]; rfl, fun g rs hg hrs => ?_⟩
  · rw [hviews]
    exact List.map_congr_left fun m _ => by rw [hrecords]
  · have hgroup : x.state.groups.get? n.zone = some { g with synced := .none } := by
      rw [hx.state, hcleared]
      simp only [Status.withFlags, State.get?_modifyGroup, hg, Option.map_some]
    have hholds : n.holds x.world g.parent = some rs := by rw [hx.holds, hworld, hrs]
    exact hn.parent hgroup hholds hparent

/-- **The flags of a check** are worked out from what the members serve. -/
theorem Answering.checked (hn : n.Answering) (hs : n.Present s) {f : SyncFlags}
    (h : (Status.check n.zone).perform n.outside s = (.ok f, t)) :
    ∃ p : ParentView, (Evaluation.ofViews n.zone (n.statusViews s) p s.state.dnskeyOrigin).flags
        = .ok f ∧
      ∀ g rs, s.state.groups.get? n.zone = some g → n.holds s.world g.parent = some rs →
        p = .viewOf Status.parentKinds rs := by
  obtain ⟨vs, p, u, hu, hflags⟩ := Status.check_eq_ok h
  obtain ⟨rfl, horigins, hparent⟩ := hn.told hs hu
  rw [horigins] at hflags
  exact ⟨p, hflags, hparent⟩

end Asking

/-! ## 5. Pushing -/

theorem Truthful.sent (hn : n.Truthful) {q : Plan × UpdateTarget} {rs : List Record}
    (hrs : n.holds s.world q.2.address = some rs)
    (h : (Push.send n.zone q).perform n.outside s = (.ok (), t)) :
    n.holds t.world = Function.update (n.holds s.world) q.2.address
      (some (q.1.changes.applyTo rs)) := by
  rcases Push.reply_of_send h with ⟨-, e, -, he⟩ | ⟨u, hu, hok, hworld⟩
  · cases he
  · rw [hworld]
    exact hn.accept hu (x := Push.updateOf n.zone q) rfl rfl hrs hok

/-- How sending updates for plans goes: all of them are carried out, or the first few are and the next
update is refused. -/
inductive Sending (n : Deployment ω) (plans : List Plan) (s t : Session ω) :
    Except Error Unit → Prop
  | complete (pushed : n.Pushed plans s t) : Sending n plans s t (.ok ())
  | broken {done : List Plan} {u : Session ω} {q : Plan × UpdateTarget} {rs : List Record} {e : Error}
      (first : done <+: plans) (pushed : n.Pushed done s u)
      (held : n.holds u.world q.2.address = some rs)
      (refused : (Push.send n.zone q).perform n.outside u = (.error e, t)) :
      Sending n plans s t (.error e)

/-- One plan after the other. -/
theorem Sending.cons {p : Plan} {plans : List Plan} {r : Except Error Unit}
    (hp : ∀ p' ∈ plans, p'.member.signer.address ≠ p.member.signer.address)
    (hsettled : t.settled = s.settled)
    (hholds : n.holds t.world = Function.update (n.holds s.world) p.member.signer.address
      (some (p.changes.applyTo (n.records s p.member))))
    (h : n.Sending plans t u r) : n.Sending (p :: plans) s u r := by
  cases h with
  | complete hpushed => exact .complete (.cons hp hsettled hholds hpushed)
  | broken hfirst hpushed hheld hrefused =>
    exact .broken ((List.prefix_cons_inj p).2 hfirst)
      (.cons (fun p' hp' => hp p' (hfirst.subset hp')) hsettled hholds hpushed) hheld hrefused

theorem Truthful.sentAll (hn : n.Truthful) {σ : State} {plans : List Plan}
    {qs : List (Plan × UpdateTarget)} {r : Except Error Unit}
    (hresolved : List.Forall₂ (Push.Resolved σ) plans qs) :
    ∀ {s : Session ω},
      (∀ p ∈ plans, n.holds s.world p.member.signer.address = some (n.records s p.member)) →
      (plans.map fun p => p.member.signer.address).Nodup →
        (qs.forM (Push.send n.zone)).perform n.outside s = (r, t) → n.Sending plans s t r := by
  induction hresolved with
  | nil =>
    intro s hholds hnodup h
    cases h
    exact .complete (.refl _)
  | @cons p q plans qs hq hqs ih =>
    intro s hholds hnodup h
    obtain ⟨c, -, rfl⟩ := hq
    obtain ⟨hp, hnodup⟩ := List.nodup_cons.1 hnodup
    have hother : ∀ p' ∈ plans, p'.member.signer.address ≠ p.member.signer.address :=
      fun p' hp' heq => hp (List.mem_map.2 ⟨p', hp', heq⟩)
    have hheld := hholds p List.mem_cons_self
    rw [show (List.forM _ _ : Operation ω PUnit) = Push.send n.zone _ >>= fun _ =>
      qs.forM (Push.send n.zone) from rfl, perform_bind] at h
    rcases hu : (Push.send n.zone (p, Push.target σ p.member c)).perform n.outside s with ⟨e | _, u⟩
    all_goals rw [hu] at h
    · cases h
      exact .broken List.nil_prefix (.refl s) hheld hu
    · have hsettled : u.settled = s.settled :=
        (Push.leaves_send_settled n.zone _).rel_of_perform hu
      have hafter := hn.sent hheld hu
      refine .cons hother hsettled hafter (ih (fun p' hp' => ?_) hnodup h)
      have hsame : n.holds u.world p'.member.signer.address
          = n.holds s.world p'.member.signer.address := by
        rw [hafter]
        exact Function.update_of_ne (hother p' hp') _ _
      rw [records, hsame, hholds p' (List.mem_cons_of_mem _ hp'), Option.getD_some]

/-- Resolving changes nothing that matters to what is sent then. -/
theorem Pushed.after {plans : List Plan} (hholds : n.holds u.world = n.holds s.world)
    (hsettled : u.settled = s.settled) (h : n.Pushed plans u t) : n.Pushed plans s t := by
  refine ⟨h.settled.trans hsettled, fun p hp => ?_, fun server hserver => ?_⟩
  · rw [h.changed p hp, records_congr hholds]
  · rw [h.rest server hserver, hholds]

/-- **A push sends its plans that change something**, once all of them are resolved. -/
theorem Truthful.sentResolved (hn : n.Truthful) (hs : n.Present s) {plans : List Plan}
    {qs : List (Plan × UpdateTarget)} {r : Except Error Unit}
    (hplans : (plans.map Plan.member).Sublist n.members)
    (hu : (Push.resolveAll (Push.effective plans)).perform n.outside s = (.ok qs, u))
    (h : (qs.forM (Push.send n.zone)).perform n.outside u = (r, t)) :
    n.Sending (Push.effective plans) s t r := by
  have hworld : u.world = s.world :=
    (Push.leaves_resolveAll (F := .keeping Session.world) (fun _ _ _ _ => rfl) _).rel_of_perform hu
  have hsame : n.holds u.world = n.holds s.world := by rw [hworld]
  have hsettled : u.settled = s.settled :=
    Session.settled_of_lasting ((Push.quiet_resolveAll _).rel_of_perform hu)
  have hholds : ∀ p ∈ Push.effective plans, n.holds u.world p.member.signer.address
      = some (n.records u p.member) := fun p hp => by
    rw [hsame, records_congr hsame]
    exact hs.holds_eq (hplans.subset (List.mem_map_of_mem (List.mem_filter.1 hp).1))
  cases hn.sentAll (Push.resolved_of_resolveAll hu) hholds
    ((hn.apart.nodup_plans hplans).sublist (List.filter_sublist.map _)) h with
  | complete hpushed => exact .complete (hpushed.after hsame hsettled)
  | broken hfirst hpushed hheld hrefused =>
    exact .broken hfirst (hpushed.after hsame hsettled) hheld hrefused

/-- **A push that succeeds did what was planned.** -/
theorem Truthful.pushed (hn : n.Truthful) (hs : n.Present s) {plans : List Plan}
    (hplans : (plans.map Plan.member).Sublist n.members)
    (h : (Push.push n.zone plans).perform n.outside s = (.ok (), t)) : n.Pushed plans s t := by
  rw [Push.push, perform_bind_eq_ok] at h
  obtain ⟨qs, u, hu, h⟩ := h
  cases hn.sentResolved hs hplans hu h with
  | complete hpushed =>
    exact hpushed.of_effective (hn.apart.nodup_plans hplans) fun p hp =>
      hs.holds_eq (hplans.subset (List.mem_map_of_mem hp))

/-! ## 6. Activities -/

/-- **An activity that succeeds did what it planned.** -/
theorem Truthful.acted (hn : n.Truthful) (hs : n.Present s) {a : Activity} {plans : List Plan}
    (hplan : (planning n.zone a).perform n.outside s = (.ok plans, u))
    (hholds : n.holds u.world = n.holds s.world)
    (hmembers : (plans.map Plan.member).Sublist n.members)
    (h : (Push.push n.zone plans).perform n.outside u = (.ok (), t)) :
    n.Acted a plans s t ∧ Session.Carried plans s t := by
  have hplanned : u.planned = s.planned := (leaves_planning n.zone a).rel_of_perform hplan
  have hpresent : n.Present u := by
    refine ⟨?_, by rw [hholds]; exact hs.serving⟩
    rw [State.members_of_withoutOrigins (congrArg Prod.fst hplanned)]
    exact hs.members
  have hsent : u.deliveries = s.deliveries := congrArg (fun p => p.2.2.2) hplanned
  refine ⟨acted_of_pushed hplan hholds hmembers (hn.pushed hpresent hmembers h), ?_⟩
  obtain ⟨us, hus, hdeliveries⟩ := Push.push_eq_ok h
  refine ⟨_, by rw [hdeliveries, hsent], List.forall₂_map_right_iff.2 (hus.imp fun p x hx => ?_)⟩
  obtain ⟨-, hsigner, haddress, hchanges⟩ := Push.update_eq_ok hx
  exact ⟨⟨hsigner, haddress⟩, hchanges, rfl⟩

/-- Updates that make plans are for members that have plans. -/
theorem exists_of_carried {plans : List Plan} {P : Member → Prop}
    (h : Session.Carried plans s t) (hplans : ∀ p ∈ plans, P p.member) :
    ∃ ds, t.deliveries = s.deliveries ++ ds ∧ ∀ d ∈ ds, ∃ m, P m ∧ d.IsFor m := by
  obtain ⟨ds, hds, hmade⟩ := h
  refine ⟨ds, hds, fun d hd => ?_⟩
  obtain ⟨p, hp, hmakes⟩ := exists_mem_of_forall₂ hmade hd
  exact ⟨p.member, hplans p (List.mem_filter.1 hp).1, hmakes.target⟩

end Deployment

/-! ## 7. Small groups -/

namespace Sample

theorem truthful {members : List Member}
    (hapart : ("p" :: members.map fun m => m.signer.address).Nodup)
    (husable : ∀ m ∈ members, m.signer.kind ∈ [UpdaterKind.nsupdate]) :
    (deployment members).Truthful :=
  (Rehearsal.faithful hapart husable).truthful

/-- What it takes to be present can be evaluated. -/
theorem present {members : List Member} {s : Session Rehearsal.World}
    (hmembers : s.state.members zone = .ok members)
    (hservers : ∀ m ∈ members,
      ((deployment members).holds s.world m.signer.address).isSome = true) :
    (deployment members).Present s :=
  ⟨hmembers, fun m hm => Option.isSome_iff_exists.1 (hservers m hm)⟩

end Sample
end MultiSigner
