/-
# Commands stay within their group

All groups share one document and one way to send updates.  What is done for one of them stays
within it all the same: a document is `Confined` to a zone, seen from one before, if they differ in
nothing that belongs to another group.

Most changes are confined for what they are, as each of them is about a group or a signer that was
looked up.  Two need the references of the document to be intact: noting origins, which names the
signers in a group's list and trusts that they belong to the group, and removing a signer, which
takes out every origin with its name, in whatever group.

Commands are followed as in `Proofs.Commands`, one lemma each, with the updates that they send
besides; `confined_of_deed` puts them together.
-/
import MultiSigner.Proofs.Origins

namespace MultiSigner

open Operation Automation
open State (Intact)

variable {ω α β : Type} {zone z : DomainName} {σ : State}

/-- What is left of a map if some values are taken out. -/
theorem OrderedMap.get?_filter_values {κ : Type} [Ord κ] [Std.TransOrd κ] {m : OrderedMap κ α}
    {p : α → Bool} {k : κ} {v : α} :
    (m.filter fun _ w => p w).get? k = some v ↔ m.get? k = some v ∧ p v = true := by
  constructor
  · intro h
    obtain ⟨hget, _, hp⟩ := of_get?_filter h
    exact ⟨hget, hp⟩
  · rintro ⟨hget, hp⟩
    obtain ⟨e, hfind, rfl⟩ := Option.map_eq_some_iff.1 hget
    have hk := List.find?_some hfind
    rw [get?_congr _ (beq_iff_eq.1 hk)]
    exact get?_of_mem (List.mem_filter.2 ⟨List.mem_of_find?_eq_some hfind, hp⟩)

/-! ## 1. Documents that agree on other groups -/

/-- Two documents agree on all that does not belong to the group of a zone, and on credentials and
settings. -/
structure State.Confined (zone : DomainName) (s t : State) : Prop where
  groups : ∀ z, (z == zone) = false → t.groups.get? z = s.groups.get? z
  signers : ∀ name r, (r.group == zone) = false →
    (t.signers.get? name = some r ↔ s.signers.get? name = some r)
  tsigKeys : t.tsigKeys = s.tsigKeys
  tokens : t.tokens = s.tokens
  settings : t.settings = s.settings
  dnskeyOrigin : ∀ print name z, s.home name = some z → (z == zone) = false →
    (t.dnskeyOrigin.get? print = some name ↔ s.dnskeyOrigin.get? print = some name)
  nsOrigin : ∀ ns name z, s.home name = some z → (z == zone) = false →
    (t.nsOrigin.get? ns = some name ↔ s.nsOrigin.get? ns = some name)
  autostart : (t.autostart.filter fun z => !(z == zone))
    = s.autostart.filter fun z => !(z == zone)

namespace State

variable {s t u : State}

theorem home_eq_some {name : String} : s.home name = some z
    ↔ ∃ r, s.signers.get? name = some r ∧ r.group = z := by
  rw [home, Option.map_eq_some_iff]

theorem beq_eq_false_of_ne {a b c : DomainName} (hab : (a == b) = true) (hcb : (c == b) = false) :
    (c == a) = false := by
  cases hca : c == a with
  | false => rfl
  | true =>
    rw [BEq.trans hca hab] at hcb
    cases hcb

namespace Confined

theorem refl (zone : DomainName) (s : State) : Confined zone s s where
  groups _ _ := rfl
  signers _ _ _ := .rfl
  tsigKeys := rfl
  tokens := rfl
  settings := rfl
  dnskeyOrigin _ _ _ _ _ := .rfl
  nsOrigin _ _ _ _ _ := .rfl
  autostart := rfl

/-- The signers of other groups stay where they are. -/
theorem home (h : Confined zone s t) {name : String} (hname : s.home name = some z)
    (hz : (z == zone) = false) : t.home name = some z := by
  obtain ⟨r, hr, rfl⟩ := home_eq_some.1 hname
  exact home_eq_some.2 ⟨r, (h.signers name r hz).2 hr, rfl⟩

theorem trans (h : Confined zone s t) (k : Confined zone t u) : Confined zone s u where
  groups z hz := (k.groups z hz).trans (h.groups z hz)
  signers name r hr := (k.signers name r hr).trans (h.signers name r hr)
  tsigKeys := k.tsigKeys.trans h.tsigKeys
  tokens := k.tokens.trans h.tokens
  settings := k.settings.trans h.settings
  dnskeyOrigin print name z hname hz :=
    (k.dnskeyOrigin print name z (h.home hname hz) hz).trans (h.dnskeyOrigin print name z hname hz)
  nsOrigin ns name z hname hz :=
    (k.nsOrigin ns name z (h.home hname hz) hz).trans (h.nsOrigin ns name z hname hz)
  autostart := k.autostart.trans h.autostart

/-- Every spelling of a zone confines alike. -/
theorem of_beq (h : Confined z s t) (hz : (z == zone) = true) : Confined zone s t where
  groups z' hz' := h.groups z' (beq_eq_false_of_ne hz hz')
  signers name r hr := h.signers name r (beq_eq_false_of_ne hz hr)
  tsigKeys := h.tsigKeys
  tokens := h.tokens
  settings := h.settings
  dnskeyOrigin print name z' hname hz' :=
    h.dnskeyOrigin print name z' hname (beq_eq_false_of_ne hz hz')
  nsOrigin ns name z' hname hz' := h.nsOrigin ns name z' hname (beq_eq_false_of_ne hz hz')
  autostart := by
    have hsame : (fun z' : DomainName => !(z' == zone)) = fun z' => !(z' == z) := by
      funext z'
      cases hz' : z' == zone with
      | false => rw [beq_eq_false_of_ne hz hz']
      | true => rw [BEq.trans hz' (BEq.symm hz)]
    rw [hsame]
    exact h.autostart

/-! ## 2. Changes that are confined -/

/-- Changes of groups and of the list of those that start with the daemon. -/
theorem of_groups {groups : OrderedMap DomainName Group} {autostart : List DomainName}
    (hgroups : ∀ z, (z == zone) = false → groups.get? z = s.groups.get? z)
    (hautostart : (autostart.filter fun z => !(z == zone))
      = s.autostart.filter fun z => !(z == zone)) :
    Confined zone s { s with groups := groups, autostart := autostart } :=
  { refl zone s with groups := hgroups, autostart := hautostart }

theorem modifyGroup (s : State) (zone : DomainName) (f : Group → Group) :
    Confined zone s (s.modifyGroup zone f) :=
  of_groups (fun _ hz => s.get?_modifyGroup_elsewhere f (BEq.comm.trans hz)) rfl

theorem addGroup {g : Group} (h : s.addGroup zone g = .ok t) : Confined zone s t := by
  unfold State.addGroup at h
  split at h
  · cases h
  · cases h
    refine of_groups (fun z hz => ?_) rfl
    rw [OrderedMap.get?_insert, if_neg fun heq => ?_]
    rw [BEq.symm (DomainName.compare_eq_iff_beq.1 heq)] at hz
    cases hz

/-- The group is looked up, and changed if it is as it should be. -/
theorem of_guarded {c : Group → Prop} [DecidablePred c] {e : Group → Error} {f : Group → Group}
    (h : (do
      let g ← s.group zone
      if c g then throw (e g)
      return s.modifyGroup zone f) = .ok t) : Confined zone s t := by
  obtain ⟨g, -, h⟩ := bind_eq_ok.1 h
  split at h
  · cases h
  · cases h
    exact .modifyGroup s zone f

theorem removeGroup {g : Group} (h : s.removeGroup zone = .ok (g, t)) : Confined zone s t := by
  obtain ⟨g, -, h⟩ := bind_eq_ok.1 h
  split at h
  · cases h
  · cases h
    refine of_groups (fun z hz => ?_) ?_
    · rw [OrderedMap.get?_erase, if_neg fun heq => ?_]
      rw [DomainName.compare_eq_iff_beq.1 heq] at hz
      cases hz
    · simp only [List.filter_filter, Bool.and_self]

/-- Signers may be given another record, and others may come, all of them in one group. -/
theorem of_signers {groups : OrderedMap DomainName Group} {signers : OrderedMap String Signer}
    (hgroups : ∀ z, (z == zone) = false → groups.get? z = s.groups.get? z)
    (hsigners : ∀ name r, (r.group == zone) = false →
      (signers.get? name = some r ↔ s.signers.get? name = some r)) :
    Confined zone s { s with groups := groups, signers := signers } :=
  { refl zone s with groups := hgroups, signers := hsigners }

theorem addSigner {name : String} {signer : Signer} (h : s.addSigner name signer = .ok t) :
    Confined signer.group s t := by
  unfold State.addSigner at h
  split at h
  · cases h
  · rename_i hnew
    obtain ⟨g, -, h⟩ := bind_eq_ok.1 h
    cases h
    have hmissing : s.signers.get? name = none := by
      simpa only [OrderedMap.contains, Option.not_isSome_iff_eq_none] using hnew
    refine of_signers (fun _ hz => s.get?_modifyGroup_elsewhere _ (BEq.comm.trans hz))
      fun n r hr => ?_
    rw [OrderedMap.get?_insert]
    split
    · rename_i heq
      rw [s.signers.get?_congr heq, hmissing]
      refine iff_of_false (fun hsome => ?_) (Option.some_ne_none r).symm
      obtain rfl := Option.some.inj hsome
      rw [BEq.rfl] at hr
      cases hr
    · exact .rfl

/-- A signer is given a record that names the same group. -/
theorem modifySigner {name : String} {signer : Signer} {f : Signer → Signer}
    (hsigner : s.signers.get? name = some signer) (hf : ∀ r, (f r).group = r.group) :
    Confined signer.group s (s.modifySigner name f) := by
  refine of_signers (fun _ _ => rfl) fun n r hr => ?_
  rw [OrderedMap.get?_modify]
  split
  · rename_i heq
    rw [← s.signers.get?_congr heq, hsigner, Option.map_some]
    refine iff_of_false (fun hsome => ?_) fun hsome => ?_
    all_goals obtain rfl := Option.some.inj hsome
    · rw [hf, BEq.rfl] at hr
      cases hr
    · rw [BEq.rfl] at hr
      cases hr
  · exact .rfl

/-- **Removing a signer** takes out no origin in another group: signers there have other names. -/
theorem removeSigner {name : String} {signer : Signer}
    (h : s.removeSigner name = .ok (signer, t)) : Confined signer.group s t := by
  obtain ⟨r, hr, h⟩ := bind_eq_ok.1 h
  cases h
  have hsigner := signer_eq_ok.1 hr
  have hother : ∀ {n z'}, s.home n = some z' → (z' == signer.group) = false →
      (n != name) = true := by
    intro n z' hn hz'
    refine bne_iff_ne.2 fun heq => ?_
    obtain ⟨r, hfound, rfl⟩ := home_eq_some.1 hn
    rw [heq, hsigner] at hfound
    cases hfound
    rw [BEq.rfl] at hz'
    cases hz'
  refine { refl signer.group s with
    groups := fun _ hz => s.get?_modifyGroup_elsewhere _ (BEq.comm.trans hz)
    signers := fun n r hr => ?_
    dnskeyOrigin := fun print n z hn hz => ?_
    nsOrigin := fun ns n z hn hz => ?_ }
  · rw [OrderedMap.get?_erase]
    split
    · rename_i heq
      rw [← s.signers.get?_congr heq, hsigner]
      refine iff_of_false nofun fun hsome => ?_
      obtain rfl := Option.some.inj hsome
      rw [BEq.rfl] at hr
      cases hr
    · exact .rfl
  · exact OrderedMap.get?_filter_values.trans (and_iff_left (hother hn hz))
  · exact OrderedMap.get?_filter_values.trans (and_iff_left (hother hn hz))

theorem addAutostart (s : State) (zone : DomainName) :
    Confined zone s { s with autostart := s.autostart ++ [zone] } := by
  refine of_groups (fun _ _ => rfl) ?_
  rw [List.filter_append, List.filter_singleton, BEq.rfl]
  exact List.append_nil _

theorem removeAutostart (s : State) (zone : DomainName) :
    Confined zone s { s with autostart := s.autostart.filter fun z => !(z == zone) } := by
  refine of_groups (fun _ _ => rfl) ?_
  simp only [List.filter_filter, Bool.and_self]

end Confined

/-- The members of a group belong to it. -/
theorem Intact.group_of_member (h : s.Intact) {members : List Member}
    (hmembers : s.members zone = .ok members) {m : Member} (hm : m ∈ members) :
    (m.signer.group == zone) = true := by
  obtain ⟨g, hg, hnames, hsigners⟩ := members_eq_ok.1 hmembers
  have hroster : s.roster zone = some (members.map Member.name) := by
    rw [roster, hg, hnames]
    rfl
  obtain ⟨z, hz, hsame⟩ := (h.listed zone _ hroster).2 m.name (List.mem_map_of_mem hm)
  obtain ⟨r, hr, rfl⟩ := home_eq_some.1 hz
  rw [hsigners m hm] at hr
  cases hr
  exact hsame

/-- **Noting origins** names only signers of the group. -/
theorem Confined.noteOrigins (h : s.Intact) (a : Activity) {views : List SignerView}
    (hviews : s.members zone = .ok (views.map SignerView.member)) :
    Confined zone s (noted a views s) := by
  have hother : ∀ v ∈ views, ∀ {z'}, s.home v.name = some z' → (z' == zone) = true := by
    intro v hv z' hz'
    have hmember := List.mem_map_of_mem (f := SignerView.member) hv
    obtain ⟨g, -, -, hsigners⟩ := members_eq_ok.1 hviews
    obtain ⟨r, hr, rfl⟩ := home_eq_some.1 hz'
    rw [SignerView.name, hsigners v.member hmember] at hr
    cases hr
    exact h.group_of_member hviews hmember
  have hfirst : ∀ {p : SignerView → Bool} {name z'}, s.home name = some z' → (z' == zone) = false →
      (views.find? p).map SignerView.name ≠ some name := by
    intro p name z' hname hz' hfound
    obtain ⟨v, hv, rfl⟩ := Option.map_eq_some_iff.1 hfound
    rw [hother v (List.mem_of_find?_eq_some hv) hname] at hz'
    cases hz'
  have hsame := withoutOrigins_noted a views s
  refine ⟨fun z _ => by rw [groups_of_withoutOrigins hsame],
    fun n r _ => by rw [signers_of_withoutOrigins hsame], ?_, ?_, ?_,
    fun print name z hname hz => ⟨fun hget => ?_, dnskeyOrigin_noted⟩,
    fun ns name z hname hz => ⟨fun hget => ?_, nsOrigin_noted⟩, ?_⟩
  · exact show (noted a views s).withoutOrigins.tsigKeys = s.withoutOrigins.tsigKeys by rw [hsame]
  · exact show (noted a views s).withoutOrigins.tokens = s.withoutOrigins.tokens by rw [hsame]
  · exact show (noted a views s).withoutOrigins.settings = s.withoutOrigins.settings by rw [hsame]
  · cases a with
    | syncDnskeys =>
      rw [noted, Deployment.get?_recordOrigins, Option.or_eq_some_iff] at hget
      exact hget.resolve_right fun hnew => hfirst hname hz hnew.2
    | syncNs =>
      rw [noted, dnskeyOrigin_nsOrigins] at hget
      exact hget
    | _ => exact hget
  · cases a with
    | syncDnskeys =>
      rw [noted, nsOrigin_dnskeyOrigins] at hget
      exact hget
    | syncNs =>
      rw [noted, get?_nsOrigins, Option.or_eq_some_iff] at hget
      exact hget.resolve_right fun hnew => hfirst hname hz hnew.2
    | _ => exact hget
  · show ((noted a views s).withoutOrigins.autostart.filter _) = s.withoutOrigins.autostart.filter _
    rw [hsame]

end State

/-! ## 3. Operations that are confined -/

/-- The document stays confined to a zone, and updates go to members that the group of the zone has
in a given document. -/
def Footprint.confined (zone : DomainName) (σ : State) : Footprint ω where
  rel s t := State.Confined zone s.state t.state ∧
    (Footprint.sending fun d => Addressed zone σ d.update).rel s t
  refl s := ⟨.refl zone s.state, (Footprint.sending _).refl s⟩
  trans h k := ⟨h.1.trans k.1, (Footprint.sending _).trans h.2 k.2⟩

namespace Operation

variable {op : Operation ω α} {o : Outside ω} {s : Session ω}

/-- What is done first, and what is done then. -/
theorem rel_bind {F : Footprint ω} {f : α → Operation ω β} (h : F.rel s (op.perform o s).2)
    (k : ∀ a, Leaves F (f a)) : F.rel s ((op >>= f).perform o s).2 := by
  rw [perform_bind]
  rcases hop : op.perform o s with ⟨e | a, t⟩
  all_goals rw [hop] at h
  · exact h
  · exact F.trans h (k a o t)

theorem rel_confined_of_unsent {t : Session ω} (hstate : State.Confined zone s.state t.state)
    (hsent : t.deliveries = s.deliveries) : (Footprint.confined zone σ).rel s t :=
  ⟨hstate, [], by rw [hsent, List.append_nil], by simp⟩

theorem confined_of_unchanged (h : ∀ o s, (op.perform o s).2.state = s.state ∧
    (op.perform o s).2.deliveries = s.deliveries) : Leaves (.confined zone σ) op := fun o s => by
  refine rel_confined_of_unsent ?_ (h o s).2
  rw [(h o s).1]
  exact .refl zone s.state

theorem Quiet.confined (h : Quiet op) : Leaves (.confined zone σ) op :=
  confined_of_unchanged fun _ _ =>
    ⟨h.state_eq rfl, (Session.lasting_eq_iff.1 (h.rel_of_perform rfl)).2.2.2⟩

theorem confined_publish (e : Event) :
    Leaves (.confined zone σ) (publish e : Operation ω Unit) :=
  confined_of_unchanged fun _ _ => ⟨rfl, rfl⟩

theorem confined_publishStatus (z : DomainName) :
    Leaves (.confined zone σ) (publishStatus z : Operation ω Unit) :=
  confined_of_unchanged fun _ _ => by
    rw [perform_publishStatus]
    exact ⟨rfl, rfl⟩

/-- The document is changed first. -/
theorem confined_modify_bind {f : State → State} {op : Operation ω α}
    (hchange : State.Confined zone s.state (f s.state)) (h : Leaves (.confined zone σ) op) :
    (Footprint.confined zone σ).rel s ((do modifyState f; op).perform o s).2 :=
  rel_bind (rel_confined_of_unsent hchange rfl) fun _ => h

theorem confined_modifyGroup (f : Group → Group) :
    Leaves (.confined zone σ)
      (modifyState fun s => s.modifyGroup zone f : Operation ω Unit) :=
  fun _ s => rel_confined_of_unsent (.modifyGroup s.state zone f) rfl

/-! ## 4. Work that commands share with the automation -/

theorem confined_check (zone : DomainName) :
    Leaves (.confined zone σ) (Status.check zone : Operation ω SyncFlags) :=
  Status.leaves_check_within Quiet.confined fun _ => confined_modifyGroup _

theorem confined_wait (h : Hold) (zone : DomainName) :
    Leaves (.confined zone σ) (h.wait zone : Operation ω Timestamp) :=
  Hold.leaves_wait_within h Quiet.confined fun _ => confined_modifyGroup _

theorem confined_membershipChanged (zone : DomainName) (d : Direction) :
    Leaves (.confined zone σ) (membershipChanged zone d : Operation ω Unit) := by
  refine leaves_bind leaves_state fun _ => leaves_bind (leaves_lift _) fun g => leaves_ite ?_
    (leaves_pure _)
  exact leaves_bind (confined_modifyGroup _) fun _ => (quiet_line _).confined

/-- **Work that changes records** notes origins and sends updates, in and to its group. -/
theorem rel_confined_act (h : s.state.Intact) (zone : DomainName) (a : Activity) :
    (Footprint.confined zone s.state).rel s
      ((planning zone a >>= Push.push zone).perform o s).2 := by
  rcases hrun : (planning zone a >>= Push.push zone).perform o s with ⟨r, t⟩
  obtain ⟨ds, hds, hsent⟩ := sent_of_act hrun
  refine ⟨?_, ds, hds, fun d hd => addressed_of_sent (hsent d hd)⟩
  rw [state_of_run hrun]
  split
  · rename_i views u hviews
    exact .noteOrigins h a (members_of_observeGroup hviews)
  · exact .refl zone s.state

/-- Work that changes no records. -/
theorem confined_doWork (zone : DomainName) (stage : Stage) {w : Work ω}
    (hw : ∀ op, w ≠ .act op) : Leaves (.confined zone σ) (doWork zone stage w) := by
  have hline (text : String) : Leaves (.confined zone σ) (line text : Operation ω Unit) :=
    (quiet_line text).confined
  cases w with
  | act op => exact absurd rfl (hw op)
  | check flag =>
    refine leaves_bind (confined_check zone) fun flags => ?_
    exact leaves_ite (leaves_bind (hline _) fun _ => leaves_pure _)
      (leaves_bind (hline _) fun _ => leaves_pure _)
  | hold h =>
    refine leaves_bind (confined_wait h zone) fun deadline => leaves_bind leaves_now fun now => ?_
    refine leaves_ite (leaves_pure _) (leaves_bind (hline _) fun _ => ?_)
    exact leaves_bind (confined_modifyGroup _) fun _ => leaves_pure _

/-- **The work of a stage is confined.** -/
theorem rel_confined_runStage (h : s.state.Intact) (zone : DomainName) (stage : Stage) :
    (Footprint.confined zone s.state).rel s ((runStage zone stage).perform o s).2 := by
  cases stage with
  | walking d a =>
    cases ha : acts a with
    | true =>
      rw [perform_runStage_act ha]
      exact rel_bind (rel_confined_act h zone a) fun _ => leaves_pure _
    | false =>
      refine confined_doWork zone _ (fun op hop => ?_) o s
      rw [(perform_of_act (s := s) (o := o) hop).1] at ha
      cases ha
  | ready | error | manual => exact leaves_pure _ o s

theorem rel_confined_step (h : s.state.Intact) (zone : DomainName) :
    (Footprint.confined zone s.state).rel s ((Automation.step zone).perform o s).2 := by
  rw [Automation.step, perform_bind, perform_state]
  refine rel_lift_bind fun g _ => ?_
  cases restingLine g.stage with
  | some text => exact (quiet_line text).confined o s
  | none =>
    refine rel_bind (rel_confined_runStage h zone g.stage : _) fun r => ?_
    cases r with
    | ok next =>
      refine leaves_ite ?_ (leaves_pure _)
      refine leaves_bind (confined_modifyGroup _) fun _ => ?_
      exact leaves_bind (quiet_line _).confined fun _ => confined_publishStatus zone
    | error e =>
      refine leaves_bind (quiet_line _).confined fun _ => ?_
      refine leaves_bind (confined_modifyGroup _) fun _ => ?_
      exact leaves_bind (confined_publishStatus zone) fun _ => leaves_throw e

theorem rel_confined_manualStep (h : s.state.Intact) (zone : DomainName) (stage : Stage) :
    (Footprint.confined zone s.state).rel s ((manualStep zone stage).perform o s).2 := by
  rw [manualStep, perform_bind, perform_state]
  refine rel_lift_bind fun g _ => rel_unless fun _ => ?_
  exact rel_bind (rel_confined_runStage h zone stage) fun _ => (quiet_line _).confined

end Operation

/-! ## 5. Commands -/

namespace Command

variable {o : Outside ω} {s : Session ω} {name : String} {signer : Signer}

/-- The zone that a command is given. -/
def zone? : Command → Option DomainName
  | .groupAdd zone _ | .groupRemove zone | .signerAdd zone _ _ _ | .signerList zone | .status zone
  | .syncDnskeys zone | .syncCds zone | .syncNs zone | .wait _ zone | .addCsync zone
  | .removeCsync zone | .removeCds zone | .automateStep zone _ | .automateStart zone
  | .automateStop zone | .automateError zone | .automateClearError zone _ | .automateManual zone
  | .automateResume zone _ | .autostartAdd zone | .autostartRemove zone => some zone
  | _ => none

/-- The signer that a command is given. -/
def signer? : Command → Option String
  | .signerAdd _ name _ _ | .signerRemove name | .signerLeave name _ | .signerTsig name _
  | .signerType name _ _ | .signerCsk name _ => some name
  | _ => none

/-- A command is about the group of a zone: it is given the zone, or one of the group's signers. -/
def About (zone : DomainName) (σ : State) (cmd : Command) : Prop :=
  (∃ z, cmd.zone? = some z ∧ (z == zone) = true) ∨
    ∃ name signer, cmd.signer? = some name ∧ σ.signers.get? name = some signer ∧
      (signer.group == zone) = true

/-- The document is put through an edit of the group. -/
theorem confined_edit {f : State → Except Error State} {op : Operation ω Unit}
    (hf : ∀ s t, f s = .ok t → State.Confined zone s t) (h : Leaves (.confined zone σ) op) :
    Leaves (.confined zone σ) (do let t ← f (← state); modifyState fun _ => t; op) :=
  leaves_state_bind fun _ _ => rel_lift_bind fun _ hτ => confined_modify_bind (hf _ _ hτ) h

theorem confined_told (zone : DomainName) (text : String) :
    Leaves (.confined zone σ) (do line text; publishStatus zone : Operation ω Unit) :=
  leaves_bind (quiet_line text).confined fun _ => confined_publishStatus zone

theorem confined_addGroup (zone : DomainName) (parent : String) :
    Leaves (.confined zone σ) (addGroup zone parent : Operation ω Unit) :=
  confined_edit (fun _ _ => .addGroup) (confined_told zone _)

theorem confined_removeGroup (zone : DomainName) :
    Leaves (.confined zone σ) (removeGroup zone : Operation ω Unit) := by
  refine leaves_bind (leaves_requireIdle zone) fun _ => ?_
  refine leaves_state_bind fun o s => rel_lift_bind fun ⟨g, τ⟩ hτ => ?_
  exact confined_modify_bind (.removeGroup hτ) (quiet_line _).confined

theorem confined_addSigner (zone : DomainName) (name : String) (nameserver : DomainName)
    (address : String) :
    Leaves (.confined zone σ) (addSigner zone name nameserver address : Operation ω Unit) := by
  refine confined_edit (fun _ _ => State.Confined.addSigner) ?_
  refine leaves_bind (quiet_line _).confined fun _ => ?_
  exact leaves_bind (confined_membershipChanged zone .joining) fun _ => confined_publishStatus zone

theorem confined_clearError (zone : DomainName) (stage : Stage) :
    Leaves (.confined zone σ) (clearError zone stage : Operation ω Unit) := by
  refine leaves_state_bind fun o s => rel_lift_bind fun r hr => ?_
  obtain ⟨g, -, hr⟩ := bind_eq_ok.1 hr
  split at hr
  · cases hr
    exact (quiet_line _).confined o s
  · cases hr
    exact confined_modify_bind (.modifyGroup _ _ _) (confined_told zone _)

theorem confined_enterManual (zone : DomainName) :
    Leaves (.confined zone σ) (enterManual zone : Operation ω Unit) :=
  confined_edit (fun _ _ => State.Confined.of_guarded) (confined_told zone _)

theorem confined_resume (zone : DomainName) (stage : Stage) :
    Leaves (.confined zone σ) (resume zone stage : Operation ω Unit) :=
  confined_edit (fun _ _ => State.Confined.of_guarded) (confined_told zone _)

theorem confined_addAutostart (zone : DomainName) :
    Leaves (.confined zone σ) (addAutostart zone : Operation ω Unit) := by
  refine leaves_bind leaves_state fun _ => leaves_bind (leaves_lift _) fun _ => ?_
  refine leaves_ite (quiet_line _).confined (leaves_bind (fun o s => ?_) fun _ =>
    (quiet_line _).confined)
  exact rel_confined_of_unsent (.addAutostart s.state zone) rfl

theorem confined_removeAutostart (zone : DomainName) :
    Leaves (.confined zone σ) (removeAutostart zone : Operation ω Unit) := by
  refine leaves_bind leaves_state fun _ => leaves_bind (leaves_lift _) fun _ => ?_
  refine leaves_ite (leaves_bind (fun o s => ?_) fun _ => (quiet_line _).confined)
    (quiet_line _).confined
  exact rel_confined_of_unsent (.removeAutostart s.state zone) rfl

theorem rel_confined_of_step (h : s.state.Intact) (zone : DomainName) (stage : Option String) :
    (Footprint.confined zone s.state).rel s ((step zone stage).perform o s).2 := by
  unfold step
  rw [perform_bind, Deed.perform_requireIdle]
  cases s.scheduler.isRunning zone with
  | true => exact (Footprint.confined zone s.state).refl s
  | false =>
    cases stage with
    | none => exact rel_confined_step h zone
    | some text =>
      simp only [Bool.false_eq_true, if_false]
      cases Stage.ofName? text with
      | none => exact leaves_throw _ o s
      | some stage => exact rel_confined_manualStep h zone stage

/-- **A command that is given a zone is confined to it.** -/
theorem rel_confined_of_zone (h : s.state.Intact) {cmd : Command} (hcmd : cmd.zone? = some zone) :
    (Footprint.confined zone s.state).rel s (cmd.run.perform o s).2 := by
  cases hpushes : cmd.pushes? with
  | some p =>
    obtain ⟨z, a⟩ := p
    rw [(perform_run_of_pushes hpushes).2]
    obtain rfl : z = zone := by cases cmd <;> cases hpushes <;> cases hcmd <;> rfl
    exact rel_confined_act h z a
  | none =>
  cases hlooks : cmd.looks with
  | true => exact (quiet_of_looks hlooks).confined o s
  | false =>
  cases cmd with
  | help | groupList | signerRemove | signerLeave | signerTsig | signerType | signerCsk
  | autostartList | confGet | confSet | confRemove | confList => cases hcmd
  | syncDnskeys | syncCds | syncNs | addCsync | removeCsync | removeCds => cases hpushes
  | signerList | automateError => cases hlooks
  | groupAdd z parent =>
    cases hcmd
    exact confined_addGroup zone parent o s
  | groupRemove z =>
    cases hcmd
    exact confined_removeGroup zone o s
  | signerAdd z name nameserver address =>
    cases hcmd
    exact confined_addSigner zone name nameserver address o s
  | status z =>
    cases hcmd
    exact leaves_bind (confined_check zone) (fun _ => leaves_pure _) o s
  | wait hold z =>
    cases hcmd
    refine leaves_bind (confined_wait hold zone) (fun _ => leaves_bind leaves_now fun _ => ?_) o s
    exact leaves_ite (quiet_line _).confined (leaves_pure _)
  | automateStep z stage =>
    cases hcmd
    exact rel_confined_of_step h zone stage
  | automateStart z | automateStop z =>
    cases hcmd
    refine leaves_of_lookup (fun _ _ => leaves_bind leaves_get fun _ =>
      leaves_bind (leaves_lift _) fun _ => ?_) o s
    exact leaves_bind (confined_of_unchanged fun _ _ => ⟨rfl, rfl⟩) fun _ => (quiet_line _).confined
  | automateClearError z stage =>
    cases hcmd
    exact confined_clearError zone stage o s
  | automateManual z =>
    cases hcmd
    exact confined_enterManual zone o s
  | automateResume z stage =>
    cases hcmd
    exact confined_resume zone stage o s
  | autostartAdd z =>
    cases hcmd
    exact confined_addAutostart zone o s
  | autostartRemove z =>
    cases hcmd
    exact confined_removeAutostart zone o s

/-- What is done to a signer that was looked up. -/
theorem rel_confined_modifySigner (hsigner : s.state.signers.get? name = some signer)
    {f : Signer → Signer} (hf : ∀ r, (f r).group = r.group) {op : Operation ω Unit}
    (h : Leaves (.confined signer.group σ) op) :
    (Footprint.confined signer.group σ).rel s
      ((do modifyState (fun s => s.modifySigner name f); op).perform o s).2 :=
  confined_modify_bind (.modifySigner hsigner hf) h

/-- A signer that is there is found. -/
theorem rel_confined_of_lookup (hsigner : s.state.signers.get? name = some signer)
    {f : Signer → Operation ω Unit}
    (h : (Footprint.confined signer.group σ).rel s ((f signer).perform o s).2) :
    (Footprint.confined signer.group σ).rel s
      ((liftM (s.state.signer name) >>= f : Operation ω Unit).perform o s).2 := by
  refine rel_lift_bind fun r hr => ?_
  cases (State.signer_eq_ok.2 hsigner).symm.trans hr
  exact h

theorem rel_confined_removeSigner (hsigner : s.state.signers.get? name = some signer) :
    (Footprint.confined signer.group σ).rel s ((removeSigner name).perform o s).2 := by
  unfold removeSigner
  rw [perform_bind, perform_state]
  refine rel_confined_of_lookup hsigner ?_
  refine rel_unless fun _ => rel_lift_bind fun g _ => rel_unless fun _ => ?_
  refine rel_lift_bind fun ⟨r, τ⟩ hτ => ?_
  have hr : r = signer := by
    obtain ⟨r', hr', hτ'⟩ := bind_eq_ok.1 hτ
    cases hτ'
    exact Except.ok.inj (hr'.symm.trans (State.signer_eq_ok.2 hsigner))
  subst hr
  exact confined_modify_bind (State.Confined.removeSigner hτ) (leaves_bind (quiet_line _).confined
    fun _ => leaves_bind (confined_publish _) fun _ => confined_publishStatus _)

theorem rel_confined_markLeave (hsigner : s.state.signers.get? name = some signer)
    (leaving : Bool) :
    (Footprint.confined signer.group σ).rel s ((markLeave name leaving).perform o s).2 := by
  unfold markLeave
  rw [perform_bind, perform_state]
  refine rel_confined_of_lookup hsigner ?_
  rw [perform_ite]
  split
  · exact (quiet_line _).confined o s
  · refine rel_confined_modifySigner (f := fun r => { r with leaving := leaving }) hsigner
      (fun _ => rfl) ?_
    refine leaves_bind (quiet_line _).confined fun _ => ?_
    exact leaves_bind (confined_membershipChanged _ _) fun _ => confined_publishStatus _

/-- **A command that is given a signer is confined to its group.** -/
theorem rel_confined_of_signer {cmd : Command} (hcmd : cmd.signer? = some name)
    (hsigner : s.state.signers.get? name = some signer) :
    (Footprint.confined signer.group σ).rel s (cmd.run.perform o s).2 := by
  cases cmd with
  | signerAdd z n nameserver address =>
    cases hcmd
    -- the name is taken
    have htaken : s.state.addSigner name { group := z, address := address, nameserver := nameserver }
        = .error (.signerExists name) := by
      rw [State.addSigner, OrderedMap.contains, hsigner]
      rfl
    simp only [run, addSigner, perform_bind, perform_state, perform_lift, htaken]
    exact (Footprint.confined signer.group σ).refl s
  | signerRemove n =>
    cases hcmd
    exact rel_confined_removeSigner hsigner
  | signerLeave n leaving =>
    cases hcmd
    exact rel_confined_markLeave hsigner leaving
  | signerTsig n key =>
    cases hcmd
    cases key with
    | none => exact (quiet_of_looks rfl).confined o s
    | some key =>
      simp only [run]
      unfold setTsig
      rw [perform_bind, perform_state]
      refine rel_lift_bind fun _ _ => rel_unless fun _ => ?_
      exact rel_confined_modifySigner (f := fun r => { r with credential := some key }) hsigner
        (fun _ => rfl) (quiet_line _).confined
  | signerType n kind token =>
    cases hcmd
    simp only [run]
    unfold setType
    rw [perform_bind, perform_state]
    exact rel_confined_of_lookup hsigner (rel_confined_modifySigner
      (f := fun r => { r with kind := kind, credential := token.or r.credential }) hsigner
      (fun _ => rfl) (quiet_line _).confined)
  | signerCsk n combined =>
    cases hcmd
    simp only [run]
    unfold setCombined
    rw [perform_bind, perform_state]
    exact rel_confined_of_lookup hsigner (rel_confined_modifySigner
      (f := fun r => { r with combined := combined }) hsigner (fun _ => rfl) (quiet_line _).confined)
  | _ => cases hcmd

end Command

/-! ## 6. Deeds -/

theorem Footprint.confined_of_beq {s t : Session ω} (h : (Footprint.confined z σ).rel s t)
    (hz : (z == zone) = true) : (Footprint.confined zone σ).rel s t := by
  obtain ⟨hstate, ds, hds, hsent⟩ := h
  exact ⟨hstate.of_beq hz, ds, hds, fun d hd => (hsent d hd).of_beq hz⟩

/-- **A command is confined to the group that it is about.** -/
theorem Command.About.confined {cmd : Command} {o : Outside ω} {s : Session ω}
    (h : cmd.About zone s.state) (hs : s.state.Intact) :
    (Footprint.confined zone s.state).rel s (cmd.run.perform o s).2 := by
  rcases h with ⟨z, hcmd, hz⟩ | ⟨name, signer, hcmd, hsigner, hz⟩
  · exact Footprint.confined_of_beq (Command.rel_confined_of_zone hs hcmd) hz
  · exact Footprint.confined_of_beq (Command.rel_confined_of_signer hcmd hsigner) hz

namespace Deed

/-- A deed is about the group of a zone: it is a step of its automation, or a command that is given
the zone or one of the group's signers, or a command that can not be read. -/
inductive About (c : Controller ω) (zone : DomainName) (e : Deed ω) : Prop
  | tick {z : DomainName} (action : e.action = .tick z) (same : (z == zone) = true)
  | command {args : List String} {cmd : Command} (action : e.action = .command args)
      (parse : Command.parse c.mode args = .ok cmd) (about : cmd.About zone e.before.state)
  | unread {args : List String} {failure : Error} (action : e.action = .command args)
      (parse : Command.parse c.mode args = .error failure)

theorem confined_of_lasting {s t t' : Session ω} (h : t.lasting = t'.lasting)
    (ht : (Footprint.confined zone σ).rel s t') : (Footprint.confined zone σ).rel s t := by
  obtain ⟨hstate, -, -, hd⟩ := Session.lasting_eq_iff.1 h
  obtain ⟨hconfined, ds, hds, hsent⟩ := ht
  exact ⟨hstate ▸ hconfined, ds, hd.trans hds, hsent⟩

theorem About.confined {c : Controller ω} {e : Deed ω} (h : e.About c zone)
    (he : e.before.state.Intact) :
    (Footprint.confined zone e.before.state).rel e.before (e.after c) := by
  cases h with
  | tick ha hz =>
    exact confined_of_lasting (lasting_of_tick ha)
      (Footprint.confined_of_beq (rel_confined_step he _) hz)
  | command ha hp habout =>
    exact confined_of_lasting (lasting_of_parsed ha hp) (habout.confined he)
  | unread ha hp =>
    exact confined_of_lasting (TurnedAway.unread ha hp).lasting
      ((Footprint.confined zone e.before.state).refl e.before)

end Deed

/-- **What is done for a group stays within it.**  In every document that can be reached, a step of a
zone's automation, or a command that is given the zone or one of its signers, leaves alone all other
groups and their signers, the origins that they have, credentials and settings, and whether they
start with the daemon.  Every update it sends is for the zone and goes to a member of its group.  The
network does anything, and the deed may fail. -/
theorem confined_of_deed (c : Controller ω) (e : Deed ω) (zone : DomainName)
    (hreach : Reachable e.before.state) (habout : e.About c zone) :
    State.Confined zone e.before.state (e.after c).state ∧
      ∃ ds, (e.after c).deliveries = e.before.deliveries ++ ds ∧
        ∀ d ∈ ds, Addressed zone e.before.state d.update :=
  habout.confined hreach.intact

namespace Sample

/-- The document after some commands. -/
def course : State → List (List String) → State
  | s, [] => s
  | s, args :: rest => course ((command args s).after controller).state rest

theorem reachable_course : ∀ (commands : List (List String)) {s : State}, Reachable s →
    Reachable (course s commands)
  | [], _, h => h
  | _ :: rest, _, h => reachable_course rest (.deed controller h)

/-- Two groups with a signer each. -/
def neighbours : State :=
  course .empty [["group-add", "x.", "192.0.2.4"], ["signer-add", "x.", "a", "a.", "192.0.2.3"],
    ["group-add", "y.", "192.0.2.4"], ["signer-add", "y.", "b", "b.", "192.0.2.3"],
    ["conf-set", "tsigkey:k", "AQID"], ["signer-tsig", "a", "k"], ["signer-tsig", "b", "k"]]

def visit : Deed Int := command ["sync-ns", "x."] neighbours

theorem command_before (args : List String) (s : State) : (command args s).before.state = s := rfl

theorem reachable_visit : Reachable visit.before.state := by
  rw [visit, command_before, neighbours]
  exact reachable_course _ .empty

/-- Bringing the names of one of two groups in line. -/
theorem confined_of_visit :
    (visit.after controller).state.nsOrigin.get? (name 98) = some "a" ∧
      ((visit.after controller).deliveries.map fun d => d.update.target.signer) = ["a"] ∧
      State.Confined Sample.zone visit.before.state (visit.after controller).state := by
  have hparse : Command.parse controller.mode ["sync-ns", "x."] = .ok (.syncNs Sample.zone) := by
    decide +kernel
  exact ⟨by decide +kernel, by decide +kernel,
    (confined_of_deed controller visit Sample.zone reachable_visit
      (.command rfl hparse (.inl ⟨Sample.zone, rfl, BEq.rfl⟩))).1⟩

end Sample
end MultiSigner
