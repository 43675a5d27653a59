/-
# How far groups are independent

What is done about one zone depends on nothing that belongs to other zones, with one exception: the
origins of keys are shared by all groups, and the first group to see a key decides where it comes
from.  So a key that another group saw first is never taken out for a leaving signer of this one.

`zone_independent` says that this is the only way: two documents that agree on a zone, and on the
origins that name its members, lead to the same updates and the same group as long as they agree on
whether an origin is known for each key in question (`KnownAlike`).  Without the last condition this
fails (`foreign_origin_counts`).
-/
import MultiSigner.Proofs.Lockstep
import MultiSigner.Proofs.Run
import MultiSigner.Proofs.Syncing

namespace MultiSigner

open Operation Automation
open SignerView (staying departing leavingOrigin?)
open Sync.Dnskeys (isLeaving withdrawn offered missing recordOrigins)

variable {ω α β : Type} {o : Outside ω} {s s' t t' : Session ω} {zone : DomainName}
  {σ σ' : State} {before before' : List Delivery} {views : List SignerView}
  {origins origins' : OrderedMap String String} {v : SignerView} {k : Dnskey}

/-! ## 1. Documents that agree on where keys come from -/

/-- Two documents agree on all keys that come from the members of a zone.  Where name servers come
from is noted, but nothing depends on it. -/
def State.SameOrigins (zone : DomainName) (σ σ' : State) : Prop :=
  ∀ g, σ.groups.get? zone = some g → ∀ name ∈ g.signers, ∀ print,
    σ.dnskeyOrigin.get? print = some name ↔ σ'.dnskeyOrigin.get? print = some name

/-- Two maps of origins agree on what comes from the given signers. -/
def AgreeFor (views : List SignerView) (origins origins' : OrderedMap String String) : Prop :=
  ∀ v ∈ views, ∀ print, origins.get? print = some v.name ↔ origins'.get? print = some v.name

theorem State.SameOrigins.agreeFor (h : State.SameOrigins zone σ σ')
    (hviews : σ.members zone = .ok (views.map SignerView.member)) :
    AgreeFor views σ.dnskeyOrigin σ'.dnskeyOrigin := by
  obtain ⟨g, hg, hnames, -⟩ := State.members_eq_ok.1 hviews
  refine fun v hv => h g hg v.name (hnames ▸ ?_)
  exact List.mem_map_of_mem (List.mem_map_of_mem hv)

theorem leavingOrigin?_eq_some_iff {name : String} :
    leavingOrigin? views origins k = some name
      ↔ ∃ v ∈ departing views, v.name = name ∧ origins.get? k.fingerprint = some name := by
  rw [leavingOrigin?, Option.filter_eq_some_iff, List.any_eq_true]
  constructor
  · rintro ⟨hname, v, hv, heq⟩
    exact ⟨v, hv, beq_iff_eq.1 heq, hname⟩
  · rintro ⟨v, hv, heq, hname⟩
    exact ⟨hname, v, hv, beq_iff_eq.2 heq⟩

theorem AgreeFor.leavingOrigin?_eq (h : AgreeFor views origins origins') (k : Dnskey) :
    leavingOrigin? views origins' k = leavingOrigin? views origins k := by
  refine Option.ext fun name => ?_
  rw [leavingOrigin?_eq_some_iff, leavingOrigin?_eq_some_iff]
  refine exists_congr fun v => and_congr_right fun hv => and_congr_right ?_
  rintro rfl
  exact (h v (List.mem_filter.1 hv).1 _).symm

/-! ## 2. Checks -/

theorem AgreeFor.ofViews_eq (h : AgreeFor views origins origins') (parent : ParentView) :
    Evaluation.ofViews zone views parent origins'
      = Evaluation.ofViews zone views parent origins := by
  have hkey : Evaluation.sharedKey views origins' = Evaluation.sharedKey views origins := by
    funext v key
    rw [Evaluation.sharedKey, Evaluation.sharedKey, h.leavingOrigin?_eq]
  have hkeys : Evaluation.dnskeys views origins' = Evaluation.dnskeys views origins := by
    rw [Evaluation.dnskeys, Evaluation.dnskeys, hkey]
  rw [Evaluation.ofViews, Evaluation.ofViews, hkeys]

namespace Status

theorem leaves_ask_origins (zone : DomainName) :
    Leaves (.keeping fun s : Session ω => s.state.dnskeyOrigin) (ask zone) :=
  leaves_ask_within (fun h => h.mono fun _ _ hlasting =>
    congrArg State.dnskeyOrigin (Session.lasting_eq_iff.1 hlasting).1) fun _ _ => rfl

/-- The views that a check is told are those of the members. -/
theorem members_of_ask {answers : List SignerView × ParentView}
    (h : (ask zone).perform o s = (.ok answers, t)) :
    s.state.members zone = .ok (answers.1.map SignerView.member) := by
  rw [ask, perform_bind_eq_ok] at h
  obtain ⟨members, u, hm, h⟩ := h
  obtain ⟨hm, -, rfl⟩ := groupMembers_eq_ok.1 hm
  rw [perform_bind_eq_ok] at h
  obtain ⟨_, w, -, h⟩ := h
  rw [perform_bind_eq_ok] at h
  obtain ⟨views, x, hv, h⟩ := h
  rw [perform_bind_eq_ok] at h
  obtain ⟨parent, y, -, h⟩ := h
  cases h
  have hquiet : ∀ m : Member, Quiet (do
      let v ← observeSigner zone signerKinds m
      lines (describe (← state).dnskeyOrigin v)
      return v : Operation ω SignerView) := fun m =>
    leaves_bind (quiet_observeSigner zone signerKinds m) fun v =>
      leaves_bind leaves_state fun _ => leaves_bind (quiet_lines _) fun _ => leaves_pure v
  have hall := (perform_mapM_eq_ok hquiet hv).imp fun m v hmv => by
    obtain ⟨_, _, _, hone, _⟩ := hmv
    obtain ⟨v', z, hv', hone⟩ := perform_bind_eq_ok.1 hone
    obtain ⟨_, _, -, hone⟩ := perform_bind_eq_ok.1 hone
    obtain ⟨_, _, -, hone⟩ := perform_bind_eq_ok.1 hone
    cases hone
    exact (member_of_observeSigner hv').symm
  have hmembers : members = views.map SignerView.member := by
    rw [← List.forall₂_eq_eq_eq, List.forall₂_map_right_iff]
    exact hall
  rw [hm, hmembers]

theorem beside_ask :
    Lockstep (Beside zone before before') o (ask zone) (ask zone) := by
  have h : Footing zone Eq (Beside zone before before') o := footing_beside
  refine lockstep_bind h.groupMembers fun members => ?_
  refine lockstep_bind (h.modifyGroup fun _ => rfl) fun _ => ?_
  refine lockstep_bind (lockstep_mapM (fun m => ?_) members) fun views => ?_
  · refine lockstep_bind (h.observeSigner _ m) fun v => ?_
    exact lockstep_state_bind fun _ _ _ => lockstep_bind (beside_lines _ _) fun _ => lockstep_pure v
  · exact lockstep_bind (h.observeParent _) fun _ => lockstep_pure _

/-- **Checks run side by side.** -/
theorem matches_check (hs : Beside zone before before' s s')
    (horigins : s.state.SameOrigins zone s'.state) :
    Matches (Beside zone before before') o s s' (check zone) (check zone) := by
  rw [check_eq]
  refine (beside_ask s s' hs).bind fun answers t t' hask hask' ht => ?_
  have hagree : AgreeFor answers.1 t.state.dnskeyOrigin t'.state.dnskeyOrigin := by
    rw [show t.state.dnskeyOrigin = _ from (leaves_ask_origins zone).rel_of_perform hask,
      show t'.state.dnskeyOrigin = _ from (leaves_ask_origins zone).rel_of_perform hask']
    exact horigins.agreeFor (members_of_ask hask)
  refine matches_state_bind ?_
  rw [hagree.ofViews_eq]
  refine lockstep_bind (beside_lines _ _) (fun _ => lockstep_bind (lockstep_lift _) fun flags => ?_)
    t t' ht
  exact lockstep_bind (footing_beside.modifyGroup fun _ => rfl) fun _ => lockstep_pure flags

end Status

/-! ## 3. Where keys come from after they were seen -/

/-- Members share no name. -/
def Distinct (views : List SignerView) : Prop :=
  ∀ v ∈ views, ∀ w ∈ views, v.name = w.name → v.member = w.member

theorem distinct_of_members (h : σ.members zone = .ok (views.map SignerView.member)) :
    Distinct views := fun _ hv _ hw hname =>
  State.eq_of_name h (List.mem_map_of_mem hv) (List.mem_map_of_mem hw) hname

/-- The first of the signers, in their order, that shares a key like the given one. -/
def firstSharer (views : List SignerView) (k : Dnskey) : Option SignerView :=
  views.find? fun v => v.syncedKeys.any fun l => l.fingerprint == k.fingerprint

/-- A key of a signer that stays is first shared by one that is leaving. -/
structure Contested (views : List SignerView) (k : Dnskey) : Prop where
  served : ∃ v ∈ staying views, k ∈ v.dnskeys
  leaving : ∃ v ∈ departing views, firstSharer views k = some v

/-- **When a key has to go**: it is known to come from a signer that is leaving, or nothing was
known and such a signer is the first to share it. -/
theorem isLeaving_recordOrigins (hviews : Distinct views) :
    isLeaving views (views.foldl recordOrigins σ).dnskeyOrigin k = true
      ↔ (∃ v ∈ departing views, σ.dnskeyOrigin.get? k.fingerprint = some v.name) ∨
        σ.dnskeyOrigin.get? k.fingerprint = none ∧
          ∃ v ∈ departing views, firstSharer views k = some v := by
  have hfirst : ∀ v ∈ departing views, (firstSharer views k).map SignerView.name = some v.name
      → ∃ w ∈ departing views, firstSharer views k = some w := by
    intro v hv hname
    obtain ⟨hv, hleaving⟩ := List.mem_filter.1 hv
    obtain ⟨w, hw, hname⟩ := Option.map_eq_some_iff.1 hname
    refine ⟨w, List.mem_filter.2 ⟨List.mem_of_find?_eq_some hw, ?_⟩, hw⟩
    rwa [SignerView.leaving, hviews w (List.mem_of_find?_eq_some hw) v hv hname]
  have hget : ∀ name, (views.foldl recordOrigins σ).dnskeyOrigin.get? k.fingerprint = some name
      ↔ σ.dnskeyOrigin.get? k.fingerprint = some name ∨
        σ.dnskeyOrigin.get? k.fingerprint = none ∧
          (firstSharer views k).map SignerView.name = some name := fun name => by
    rw [Deployment.get?_recordOrigins, Option.or_eq_some_iff, firstSharer]
  rw [isLeaving, Option.isSome_iff_exists]
  constructor
  · rintro ⟨name, hname⟩
    obtain ⟨v, hv, rfl, horigin⟩ := leavingOrigin?_eq_some_iff.1 hname
    rcases (hget _).1 horigin with hknown | ⟨hnew, hname⟩
    · exact .inl ⟨v, hv, hknown⟩
    · exact .inr ⟨hnew, hfirst v hv hname⟩
  · rintro (⟨v, hv, hknown⟩ | ⟨hnew, v, hv, hshares⟩)
    · exact ⟨_, leavingOrigin?_eq_some_iff.2 ⟨v, hv, rfl, (hget _).2 (.inl hknown)⟩⟩
    · refine ⟨_, leavingOrigin?_eq_some_iff.2 ⟨v, hv, rfl, (hget _).2 (.inr ⟨hnew, ?_⟩)⟩⟩
      rw [hshares, Option.map_some]

/-- Two documents agree on whether the origins of contested keys are known. -/
def State.KnownAlike (views : List SignerView) (σ σ' : State) : Prop :=
  ∀ k, Contested views k → (σ.dnskeyOrigin.get? k.fingerprint = none
    ↔ σ'.dnskeyOrigin.get? k.fingerprint = none)

/-- The same keys of signers that stay have to go. -/
def SameVerdicts (views : List SignerView) (origins origins' : OrderedMap String String) : Prop :=
  ∀ v ∈ staying views, ∀ k ∈ v.dnskeys, isLeaving views origins' k = isLeaving views origins k

theorem sameVerdicts (hviews : Distinct views)
    (hagree : AgreeFor views σ.dnskeyOrigin σ'.dnskeyOrigin) (hknown : σ.KnownAlike views σ') :
    SameVerdicts views (views.foldl recordOrigins σ).dnskeyOrigin
      (views.foldl recordOrigins σ').dnskeyOrigin := by
  intro v hv k hk
  rw [Bool.eq_iff_iff, isLeaving_recordOrigins hviews, isLeaving_recordOrigins hviews]
  refine or_congr (exists_congr fun w => and_congr_right fun hw => ?_) (and_congr_left fun hfirst => ?_)
  · exact (hagree w (List.mem_filter.1 hw).1 _).symm
  · exact (hknown k ⟨⟨v, hv, hk⟩, hfirst⟩).symm

/-! ## 4. Keys -/

namespace SameVerdicts

variable (h : SameVerdicts views origins origins')

include h

theorem withdrawn_eq (hv : v ∈ staying views) :
    withdrawn views origins' v = withdrawn views origins v :=
  List.filter_congr fun k hk => h v hv k hk

theorem offered_eq (hv : v ∈ staying views) : offered views origins' v = offered views origins v :=
  List.filter_congr fun k hk => congrArg not (h v hv k (List.mem_filter.1 hk).1)

theorem report_eq :
    Sync.Dnskeys.withdrawalReport views origins' ++ Sync.Dnskeys.offerReport views origins'
      = Sync.Dnskeys.withdrawalReport views origins ++ Sync.Dnskeys.offerReport views origins := by
  have hwithdrawn : Sync.Dnskeys.withdrawalReport views origins'
      = Sync.Dnskeys.withdrawalReport views origins := by
    refine congrArg (_ ++ ·) (List.flatMap_congr fun v hv => ?_)
    rw [h.withdrawn_eq hv]
  have hoffered : Sync.Dnskeys.offerReport views origins'
      = Sync.Dnskeys.offerReport views origins :=
    List.flatMap_congr fun v hv => by rw [h.offered_eq hv]
  rw [hwithdrawn, hoffered]

theorem missing_eq (other : SignerView) :
    missing views origins' other = missing views origins other := by
  have hoffers : Sync.Dnskeys.offersTo views origins' other
      = Sync.Dnskeys.offersTo views origins other :=
    List.flatMap_congr fun v hv => by rw [h.offered_eq (List.mem_filter.1 hv).1]
  rw [missing, missing, hoffers]

theorem plans_eq : Sync.Dnskeys.plans views origins' = Sync.Dnskeys.plans views origins :=
  List.map_congr_left fun v hv => by
    rw [Sync.Dnskeys.plan, Sync.Dnskeys.plan, h.withdrawn_eq hv, h.missing_eq]

end SameVerdicts

/-- **Keys are planned side by side**, if the origins of contested keys are known alike. -/
theorem matches_planning (hs : Beside zone before before' s s')
    (horigins : s.state.SameOrigins zone s'.state)
    (hknown : ∀ views t, (observeGroup zone [.dnskey]).perform o s = (.ok views, t) →
      s.state.KnownAlike views s'.state) :
    Matches (Beside zone before before') o s s' (planning zone .syncDnskeys)
      (planning zone .syncDnskeys) := by
  refine (footing_beside.observeGroup _ s s' hs).bind fun views t t' hviews hviews' ht => ?_
  have hmembers := members_of_observeGroup hviews
  have hsame : SameVerdicts views (views.foldl recordOrigins t.state).dnskeyOrigin
      (views.foldl recordOrigins t'.state).dnskeyOrigin := by
    rw [(quiet_observeGroup zone _).state_eq hviews, (quiet_observeGroup zone _).state_eq hviews']
    exact sameVerdicts (distinct_of_members hmembers) (horigins.agreeFor hmembers)
      (hknown views t hviews)
  refine (beside_modify_origins (withoutOrigins_dnskeyOrigins views) t t' ht).bind
    fun _ u u' hu hu' hbeside => matches_state_bind ?_
  rw [perform_modifyState] at hu hu'
  cases hu
  cases hu'
  simp only [hsame.report_eq, hsame.plans_eq]
  exact lockstep_bind (footing_beside.tell _) (fun _ => lockstep_pure _) _ _ hbeside

/-! ## 5. Steps -/

/-- A step runs side by side. -/
theorem matches_step (hs : Beside zone before before' s s')
    (horigins : s.state.SameOrigins zone s'.state)
    (hknown : ∀ g d, s.state.groups.get? zone = some g → g.stage = .walking d .syncDnskeys →
      ∀ views t, (observeGroup zone [.dnskey]).perform o s = (.ok views, t) →
        s.state.KnownAlike views s'.state) :
    Matches (Beside zone before before') o s s' (step zone) (step zone) :=
  footing_beside.matches_step hs fun g hg =>
    footing_beside.matches_runStage hs (Status.matches_check hs horigins) fun d hstage =>
      matches_planning hs horigins (hknown g d hg hstage)

/-! ## 6. Independence -/

/-- What can be done about the zone of a group. -/
inductive Job
  | syncDnskeys
  | syncNs
  | syncCds
  | status
  | step
  deriving Repr, DecidableEq

namespace Job

def operation (zone : DomainName) : Job → Operation ω Unit
  | syncDnskeys => Sync.Dnskeys.run zone
  | syncNs => Sync.Nameservers.run zone
  | syncCds => Sync.KeyReferences.run zone
  | status => do
    let _ ← Status.check zone
  | step => Automation.step zone

/-- Whether keys are brought in line. -/
def BringsKeys (zone : DomainName) (s : State) : Job → Prop
  | syncDnskeys => True
  | step => ∃ g d, s.groups.get? zone = some g ∧ g.stage = .walking d .syncDnskeys
  | _ => False

theorem matches_operation (job : Job) (hs : Beside zone before before' s s')
    (horigins : s.state.SameOrigins zone s'.state)
    (hknown : job.BringsKeys zone s.state → ∀ views t,
      (observeGroup zone [.dnskey]).perform o s = (.ok views, t) →
        s.state.KnownAlike views s'.state) :
    Matches (Beside zone before before') o s s' (job.operation zone) (job.operation zone) := by
  cases job with
  | syncDnskeys =>
    exact footing_beside.matches_act (d := .joining) (a := .syncDnskeys) rfl
      (matches_planning hs horigins (hknown trivial))
  | syncNs =>
    exact footing_beside.matches_act (d := .joining) (a := .syncNs) rfl
      (footing_beside.planning (a := .syncNs) nofun s s' hs)
  | syncCds =>
    exact footing_beside.matches_act (d := .joining) (a := .syncCds) rfl
      (footing_beside.planning (a := .syncCds) nofun s s' hs)
  | status =>
    exact (Status.matches_check hs horigins).bind fun _ t t' _ _ ht => lockstep_pure _ t t' ht
  | step => exact matches_step hs horigins fun g d hg hstage => hknown ⟨g, d, hg, hstage⟩

end Job

/-- **Groups are independent but for the first sight of a key.**  Two documents agree on a zone, on
the records of its members, on credentials and settings, and on all origins that name a member.  If
keys are brought in line, they also agree on whether an origin is known for each key of a staying
member that a leaving one is the first to share.  Then everything that can be done about the zone
has the same result, sends the same updates and leaves the same group. -/
theorem zone_independent {r r' : Except Error Unit} (job : Job) (hworld : s'.world = s.world)
    (hagree : s.state.AgreeOn zone s'.state) (horigins : s.state.SameOrigins zone s'.state)
    (hknown : job.BringsKeys zone s.state → ∀ views t,
      (observeGroup zone [.dnskey]).perform o s = (.ok views, t) →
        s.state.KnownAlike views s'.state)
    (hrun : (job.operation zone).perform o s = (r, t))
    (hrun' : (job.operation zone).perform o s' = (r', t')) :
    r' = r ∧ t'.world = t.world ∧
      (∃ ds, t.deliveries = s.deliveries ++ ds ∧ t'.deliveries = s'.deliveries ++ ds) ∧
      t'.state.groups.get? zone = t.state.groups.get? zone := by
  have hs : Beside zone s.deliveries s'.deliveries s s' :=
    ⟨hworld, hagree, [], (List.append_nil _).symm, (List.append_nil _).symm⟩
  obtain ⟨hresult, hleft⟩ := job.matches_operation hs horigins hknown
  rw [hrun, hrun'] at hresult hleft
  exact ⟨hresult.symm, hleft.world, hleft.sent, hleft.state.group⟩

namespace Sample

/-- The key of another group. -/
def foreignKey : Dnskey := ⟨true, false, false, 8, [2]⟩

/-- A group of which one signer is leaving, where both serve the same key.  A signer of another
group was seen to have that key, or else a key of its own. -/
def foreign (other : String) (known : Bool) : State where
  groups := .ofList [(Sample.zone, group), (name 121, { signers := [other], parent := "q" })]
  signers := .ofList [("a", { signer "a" (name 97) with leaving := true }),
    ("b", signer "b" (name 98)), (other, { signer "w" (name 119) with group := name 121 })]
  tsigKeys := .ofList [("k", "AQID")]
  dnskeyOrigin := .ofList [((if known then key else foreignKey).fingerprint, other)]

theorem get?_foreign (other : String) (known : Bool) (print : String) :
    (foreign other known).dnskeyOrigin.get? print
      = if print = (if known then key else foreignKey).fingerprint then some other else none := by
  show (OrderedMap.insert .empty _ other).get? print = _
  rw [OrderedMap.get?_insert]
  simp only [Std.LawfulEqOrd.compare_eq_iff_eq, OrderedMap.get?_empty]

theorem groups_foreign (other : String) (known : Bool) :
    (foreign other known).groups.get? Sample.zone = some group := rfl

/-- Origins that name signers of other groups count as the same. -/
theorem sameOrigins_foreign {other other' : String} (h : other ∉ group.signers)
    (h' : other' ∉ group.signers) (known known' : Bool) :
    (foreign other known).SameOrigins Sample.zone (foreign other' known') := by
  have hnone : ∀ {other : String}, other ∉ group.signers → ∀ (known : Bool) name,
      name ∈ group.signers → ∀ print, (foreign other known).dnskeyOrigin.get? print ≠ some name := by
    intro other hother known name hname print hsome
    rw [get?_foreign, Option.ite_none_right_eq_some, Option.some.injEq] at hsome
    exact hother (hsome.2 ▸ hname)
  intro g hg name hname print
  obtain rfl : g = group := Option.some.inj (hg.symm.trans (groups_foreign other known))
  exact iff_of_false (hnone h known name hname print) (hnone h' known' name hname print)

end Sample

/-- Signers of other groups, under whatever names, make no difference.  The key is taken out at the
signer that stays, in both runs. -/
theorem zone_independent_of_others :
    ∃ t t' ds, (Sync.Dnskeys.run Sample.zone).perform Sample.outside
        (Sample.session (Sample.foreign "w" false) 0) = (.ok (), t) ∧
      (Sync.Dnskeys.run Sample.zone).perform Sample.outside
        (Sample.session (Sample.foreign "v" false) 0) = (.ok (), t') ∧
      t.deliveries = ds ∧ t'.deliveries = ds ∧
      ds.map (fun d => (d.update.target.signer, d.update.changes.removes))
        = [("b", [⟨60, .dnskey Sample.key⟩])] ∧
      t'.state.groups.get? Sample.zone = t.state.groups.get? Sample.zone := by
  have hworld : (Sample.session (Sample.foreign "v" false) 0).world
      = (Sample.session (Sample.foreign "w" false) 0).world := rfl
  have hagree : (Sample.session (Sample.foreign "w" false) 0).state.AgreeOn Sample.zone
      (Sample.session (Sample.foreign "v" false) 0).state := by
    refine ⟨rfl, fun g hg name hname => ?_, rfl, rfl, rfl⟩
    obtain rfl : g = Sample.group := Option.some.inj (hg.symm.trans (Sample.groups_foreign _ _))
    revert name
    decide
  have horigins : (Sample.foreign "w" false).SameOrigins Sample.zone (Sample.foreign "v" false) :=
    Sample.sameOrigins_foreign (by decide) (by decide) false false
  have hknown : ∀ views,
      (Sample.foreign "w" false).KnownAlike views (Sample.foreign "v" false) := by
    intro views k _
    rw [Sample.get?_foreign, Sample.get?_foreign]
    split <;> simp
  have hrun : ((Sync.Dnskeys.run Sample.zone).perform Sample.outside
      (Sample.session (Sample.foreign "w" false) 0)).1 = .ok () := by decide +kernel
  have hsent : ((Sync.Dnskeys.run Sample.zone).perform Sample.outside
      (Sample.session (Sample.foreign "w" false) 0)).2.deliveries.map
        (fun d => (d.update.target.signer, d.update.changes.removes))
      = [("b", [⟨60, .dnskey Sample.key⟩])] := rfl
  obtain ⟨hresult, -, ⟨ds, hds, hds'⟩, hgroup⟩ := zone_independent (o := Sample.outside)
    .syncDnskeys hworld hagree horigins (fun _ views _ _ => hknown views) (perform_of_fst hrun)
    (perform_of_fst rfl)
  refine ⟨_, _, ds, perform_of_fst hrun, perform_of_fst hresult, hds, hds', ?_, hgroup⟩
  exact (congrArg _ hds.symm).trans hsent

/-- **An origin of another group counts.**  A signer that is leaving was the first of its group to
have a key, and the key is taken out at the one that stays.  If a signer of another group is known
to have had it before, nothing is sent. -/
theorem foreign_origin_counts :
    ((Sample.foreign "w" true).AgreeOn Sample.zone (Sample.foreign "w" false) ∧
      (Sample.foreign "w" true).SameOrigins Sample.zone (Sample.foreign "w" false)) ∧
    ((Sync.Dnskeys.run Sample.zone).perform Sample.outside
      (Sample.session (Sample.foreign "w" true) 0)).2.deliveries = [] ∧
    ((Sync.Dnskeys.run Sample.zone).perform Sample.outside
      (Sample.session (Sample.foreign "w" false) 0)).2.deliveries.map
        (fun d => (d.update.target.signer, d.update.changes.removes))
      = [("b", [⟨60, .dnskey Sample.key⟩])] := by
  refine ⟨⟨⟨rfl, fun _ _ _ _ => rfl, rfl, rfl, rfl⟩,
    Sample.sameOrigins_foreign (by decide) (by decide) true false⟩, ?_, ?_⟩
  · decide +kernel
  · rfl

end MultiSigner
