/-
# References within the document

Groups list their signers, signers name their group, the list of groups that start with the daemon
names groups, and origins name signers.  A document in which all these references lead somewhere is
`Intact`.

References are looked at through `State.roster`, the list of a zone's group, and `State.home`, the
zone of a signer.  Most changes of the document leave both as they are (`SameLinks`), so that only
origins are left to look at; the six that do not are those by which groups and signers come and go
and by which groups are put on the list of those that start with the daemon.
-/
import Mathlib.Data.List.Nodup
import MultiSigner.Proofs.Entries
import MultiSigner.Proofs.Planning
import MultiSigner.Proofs.Records

namespace MultiSigner

namespace State

variable {s t : State} {zone z : DomainName} {name : String}

/-! ## 1. References -/

/-- The names in the list of a zone's group. -/
def roster (s : State) (zone : DomainName) : Option (List String) :=
  (s.groups.get? zone).map Group.signers

/-- The zone that a signer is said to serve. -/
def home (s : State) (name : String) : Option DomainName :=
  (s.signers.get? name).map Signer.group

/-- **All references lead somewhere.**  The list of a group names each of its signers once, and
nothing else; each signer is in the list of its group; groups that start with the daemon are there,
each of them once; and what is said to be the origin of a record is a signer. -/
structure Intact (s : State) : Prop where
  listed : ∀ zone names, s.roster zone = some names →
    names.Nodup ∧ ∀ name ∈ names, ∃ z, s.home name = some z ∧ (z == zone) = true
  joined : ∀ name zone, s.home name = some zone → ∃ names, s.roster zone = some names ∧ name ∈ names
  autostart : ∀ zone ∈ s.autostart, (s.roster zone).isSome = true
  once : s.autostart.Pairwise fun a b => (a == b) = false
  dnskeyOrigin : ∀ fingerprint name, s.dnskeyOrigin.get? fingerprint = some name →
    (s.home name).isSome = true
  nsOrigin : ∀ ns name, s.nsOrigin.get? ns = some name → (s.home name).isSome = true

/-- Groups and signers refer to each other in the same way. -/
structure SameLinks (s t : State) : Prop where
  roster : ∀ zone, t.roster zone = s.roster zone
  home : ∀ name, t.home name = s.home name
  autostart : t.autostart = s.autostart

/-- The empty document has no references. -/
theorem intact_empty : empty.Intact where
  listed zone names h := by cases h
  joined name zone h := by cases h
  autostart zone h := by cases h
  once := .nil
  dnskeyOrigin fingerprint name h := by cases h
  nsOrigin ns name h := by cases h

/-- Every spelling of a zone finds the same list. -/
theorem roster_congr (s : State) (h : (z == zone) = true) : s.roster z = s.roster zone := by
  rw [roster, s.groups_get?_of_beq h, roster]

theorem isSome_roster_of_group {g : Group} (h : s.group zone = .ok g) :
    (s.roster zone).isSome = true := by
  rw [roster, group_eq_ok.1 h]
  rfl

/-- What a change of a group makes of the lists. -/
theorem roster_modify (s : State) (zone z : DomainName) {f : Group → Group}
    {k : List String → List String} (hf : ∀ g, (f g).signers = k g.signers) :
    ((s.groups.modify zone f).get? z).map Group.signers
      = if (zone == z) = true then (s.roster z).map k else s.roster z := by
  rw [OrderedMap.get?_modify, roster]
  by_cases hz : compare zone z = .eq
  · rw [if_pos hz, if_pos (BEq.symm (DomainName.compare_eq_iff_beq.1 hz)), Option.map_map,
      Option.map_map]
    exact congrArg (fun c => (s.groups.get? z).map c) (funext hf)
  · rw [if_neg hz, if_neg fun heq => hz (DomainName.compare_of_beq heq)]

/-- What a new signer makes of the zones of signers. -/
theorem home_insert (s : State) (name n : String) (signer : Signer) :
    ((s.signers.insert name signer).get? n).map Signer.group
      = if n = name then some signer.group else s.home n := by
  rw [OrderedMap.get?_insert, home]
  by_cases hn : n = name
  · rw [if_pos (hn ▸ Std.ReflCmp.compare_self), if_pos hn, Option.map_some]
  · rw [if_neg fun heq => hn (Std.LawfulEqCmp.eq_of_compare heq), if_neg hn]

/-- What is left of them without a signer. -/
theorem home_erase (s : State) (name n : String) :
    ((s.signers.erase name).get? n).map Signer.group
      = if n = name then none else s.home n := by
  rw [OrderedMap.get?_erase, home]
  by_cases hn : n = name
  · rw [if_pos (hn ▸ Std.ReflCmp.compare_self), if_pos hn, Option.map_none]
  · rw [if_neg fun heq => hn (Std.LawfulEqCmp.eq_of_compare heq).symm, if_neg hn]

/-! ## 2. Changes that keep the links -/

/-- Besides the links, only origins matter. -/
theorem Intact.of_sameLinks (h : s.Intact) (hst : SameLinks s t)
    (hkeys : ∀ fingerprint name, t.dnskeyOrigin.get? fingerprint = some name →
      (s.home name).isSome = true)
    (hnames : ∀ ns name, t.nsOrigin.get? ns = some name → (s.home name).isSome = true) :
    t.Intact where
  listed zone names hz := by
    simp only [hst.home]
    exact h.listed zone names (hst.roster zone ▸ hz)
  joined name zone hname := by
    rw [hst.roster]
    exact h.joined name zone (hst.home name ▸ hname)
  autostart zone hz := by
    rw [hst.roster]
    exact h.autostart zone (hst.autostart ▸ hz)
  once := hst.autostart ▸ h.once
  dnskeyOrigin fingerprint name hp := by
    rw [hst.home]
    exact hkeys fingerprint name hp
  nsOrigin ns name hp := by
    rw [hst.home]
    exact hnames ns name hp

/-- Credentials and settings are no references. -/
theorem Intact.registered (h : s.Intact) (tsigKeys tokens settings : OrderedMap String String) :
    { s with tsigKeys := tsigKeys, tokens := tokens, settings := settings : State }.Intact :=
  h.of_sameLinks ⟨fun _ => rfl, fun _ => rfl, rfl⟩ h.dnskeyOrigin h.nsOrigin

theorem Intact.modifyGroup (h : s.Intact) (zone : DomainName) {f : Group → Group}
    (hf : ∀ g, (f g).signers = g.signers) : (s.modifyGroup zone f).Intact := by
  refine h.of_sameLinks ⟨fun z => ?_, fun _ => rfl, rfl⟩ h.dnskeyOrigin h.nsOrigin
  rw [roster, State.modifyGroup, s.roster_modify zone z (k := id) hf, Option.map_id, id_eq, ite_self]

theorem Intact.modifySigner (h : s.Intact) (name : String) {f : Signer → Signer}
    (hf : ∀ r, (f r).group = r.group) : (s.modifySigner name f).Intact := by
  refine h.of_sameLinks ⟨fun _ => rfl, fun n => ?_, rfl⟩ h.dnskeyOrigin h.nsOrigin
  rw [home, State.modifySigner, OrderedMap.get?_modify, home]
  split
  · rw [Option.map_map]
    exact congrArg (fun k => (s.signers.get? n).map k) (funext hf)
  · rfl

theorem get?_of_get?_erase {κ α : Type} [Ord κ] [Std.TransOrd κ] {m : OrderedMap κ α} {k l : κ}
    {v : α} (h : (m.erase k).get? l = some v) : m.get? l = some v := by
  rw [OrderedMap.get?_erase] at h
  split at h
  · cases h
  · exact h

/-- Origins may be forgotten. -/
theorem Intact.forget (h : s.Intact) {keys : OrderedMap String String}
    {names : OrderedMap DomainName String}
    (hkeys : ∀ fingerprint name, keys.get? fingerprint = some name →
      s.dnskeyOrigin.get? fingerprint = some name)
    (hnames : ∀ ns name, names.get? ns = some name → s.nsOrigin.get? ns = some name) :
    { s with dnskeyOrigin := keys, nsOrigin := names : State }.Intact :=
  h.of_sameLinks ⟨fun _ => rfl, fun _ => rfl, rfl⟩
    (fun fingerprint name hp => h.dnskeyOrigin fingerprint name (hkeys fingerprint name hp))
    (fun ns name hp => h.nsOrigin ns name (hnames ns name hp))

/-- Setting an entry. -/
theorem Intact.setEntry (h : s.Intact) {key value : String} (ht : s.setEntry key value = .ok t) :
    t.Intact := by
  cases setEntry_eq_ok.1 ht with
  | secret => exact h.registered _ _ _
  | token => exact h.registered _ _ _
  | ttl => exact h.modifyGroup _ fun _ => rfl
  | setting => exact h.registered _ _ _

/-- Removing one. -/
theorem Intact.removeEntry (h : s.Intact) {key : String} {changed : Bool}
    (ht : s.removeEntry key = .ok (changed, t)) : t.Intact := by
  rcases erased_or_eq ht with herased | rfl
  · cases herased with
    | ttl => exact h.modifyGroup _ fun _ => rfl
    | secret => exact h.registered _ _ _
    | token => exact h.registered _ _ _
    | keyOrigin => exact h.forget (fun _ _ => get?_of_get?_erase) fun _ _ => id
    | nameOrigin => exact h.forget (fun _ _ => id) fun _ _ => get?_of_get?_erase
    | setting => exact h.registered _ _ _
  · exact h

/-! ## 3. Origins that are noted -/

theorem Intact.recordDnskeyOrigin (h : s.Intact) (hname : (s.home name).isSome = true)
    (fingerprint : String) : (s.recordDnskeyOrigin fingerprint name).2.Intact := by
  unfold State.recordDnskeyOrigin
  split
  · exact h
  · refine h.of_sameLinks ⟨fun _ => rfl, fun _ => rfl, rfl⟩ (fun p n hp => ?_) h.nsOrigin
    rw [OrderedMap.get?_insert] at hp
    split at hp
    · cases hp
      exact hname
    · exact h.dnskeyOrigin p n hp

theorem Intact.recordNsOrigin (h : s.Intact) (hname : (s.home name).isSome = true)
    (ns : DomainName) : (s.recordNsOrigin ns name).2.Intact := by
  unfold State.recordNsOrigin
  split
  · exact h
  · refine h.of_sameLinks ⟨fun _ => rfl, fun _ => rfl, rfl⟩ h.dnskeyOrigin fun l n hl => ?_
    rw [OrderedMap.get?_insert] at hl
    split at hl
    · cases hl
      exact hname
    · exact h.nsOrigin l n hl

theorem home_of_withoutOrigins (h : t.withoutOrigins = s.withoutOrigins) (name : String) :
    t.home name = s.home name := by
  rw [home, signers_of_withoutOrigins h, home]

/-- Noting origins one after the other. -/
theorem Intact.foldl {α : Type} {f : State → α → State} {l : List α}
    (hf : ∀ σ a, (f σ a).withoutOrigins = σ.withoutOrigins) {who : α → String}
    (hstep : ∀ σ, σ.Intact → ∀ a, (σ.home (who a)).isSome = true → (f σ a).Intact)
    (h : s.Intact) (hwho : ∀ a ∈ l, (s.home (who a)).isSome = true) : (l.foldl f s).Intact := by
  -- signers do not change on the way, so those named are there when their turn comes
  have hkept : (l.foldl f s).Intact ∧ (l.foldl f s).withoutOrigins = s.withoutOrigins := by
    refine List.foldlRecOn (motive := fun σ => σ.Intact ∧ σ.withoutOrigins = s.withoutOrigins) l f
      ⟨h, rfl⟩ fun σ ⟨hσ, hsame⟩ a ha => ⟨hstep σ hσ a ?_, (hf σ a).trans hsame⟩
    rw [home_of_withoutOrigins hsame]
    exact hwho a ha
  exact hkept.1

/-- **Noting where keys were seen** keeps the document intact if they were seen at signers. -/
theorem Intact.dnskeyOrigins (h : s.Intact) {views : List SignerView}
    (hviews : ∀ v ∈ views, (s.home v.name).isSome = true) :
    (views.foldl Sync.Dnskeys.recordOrigins s).Intact := by
  refine h.foldl (fun σ v => Automation.withoutOrigins_dnskeyOrigins [v] σ)
    (fun σ hσ v hv => ?_) hviews
  exact hσ.foldl (fun σ k => withoutOrigins_recordDnskeyOrigin σ _ _)
    (fun σ hσ k hk => hσ.recordDnskeyOrigin hk k.fingerprint) fun _ _ => hv

/-- **Noting where names were seen**, too. -/
theorem Intact.nsOrigins (h : s.Intact) {views : List SignerView}
    (hviews : ∀ v ∈ views, (s.home v.name).isSome = true) :
    (views.foldl Sync.Nameservers.recordOrigins s).Intact := by
  refine h.foldl (fun σ v => Automation.withoutOrigins_nsOrigins [v] σ)
    (fun σ hσ v hv => ?_) hviews
  exact hσ.foldl (fun σ l => withoutOrigins_recordNsOrigin σ _ _)
    (fun σ hσ l hl => hσ.recordNsOrigin hl l) fun _ _ => hv

/-! ## 4. Groups come and go -/

/-- **Adding a group.** -/
theorem Intact.addGroup (h : s.Intact) {g : Group} (hempty : g.signers = [])
    (ht : s.addGroup zone g = .ok t) : t.Intact := by
  unfold State.addGroup at ht
  split at ht
  · cases ht
  · rename_i hnew
    cases ht
    have hmissing : ∀ z, compare z zone = .eq → s.roster z = none := fun z hz => by
      rw [roster, s.groups.get?_congr hz, Option.map_eq_none_iff]
      simpa only [OrderedMap.contains, Option.not_isSome_iff_eq_none] using hnew
    have hroster : ∀ z, roster { s with groups := s.groups.insert zone g } z
        = if compare z zone = .eq then some [] else s.roster z := fun z => by
      rw [roster, OrderedMap.get?_insert, roster]
      split
      · rw [Option.map_some, hempty]
      · rfl
    refine ⟨fun z names hz => ?_, fun name z hname => ?_, fun z hz => ?_, h.once, h.dnskeyOrigin,
      h.nsOrigin⟩
    · rw [hroster] at hz
      split at hz
      · cases hz
        exact ⟨.nil, fun name hname => absurd hname List.not_mem_nil⟩
      · exact h.listed z names hz
    · obtain ⟨names, hz, hname⟩ := h.joined name z hname
      rw [hroster, if_neg fun heq => by rw [hmissing z heq] at hz; cases hz]
      exact ⟨names, hz, hname⟩
    · rw [hroster]
      split
      · rfl
      · exact h.autostart z hz

/-- **Removing a group**, which no signer refers to. -/
theorem Intact.removeGroup (h : s.Intact) {g : Group} (ht : s.removeGroup zone = .ok (g, t)) :
    t.Intact := by
  obtain ⟨g, hg, ht⟩ := bind_eq_ok.1 ht
  split at ht
  · cases ht
  · rename_i hsigners
    cases ht
    have hempty : s.roster zone = some [] := by
      rw [roster, group_eq_ok.1 hg, Option.map_some]
      simpa using hsigners
    have hroster : ∀ z, (s.groups.erase zone |>.get? z).map Group.signers
        = if compare zone z = .eq then none else s.roster z := fun z => by
      rw [OrderedMap.get?_erase, roster]
      split <;> rfl
    refine ⟨fun z names hz => ?_, fun name z hname => ?_, fun z hz => ?_, h.once.filter _,
      h.dnskeyOrigin, h.nsOrigin⟩
    · rw [roster, hroster] at hz
      split at hz
      · cases hz
      · exact h.listed z names hz
    · obtain ⟨names, hz, hname⟩ := h.joined name z hname
      rw [roster, hroster, if_neg fun heq => ?_]
      · exact ⟨names, hz, hname⟩
      · rw [s.roster_congr (DomainName.compare_eq_iff_beq.1 heq), hempty] at hz
        cases hz
        cases hname
    · obtain ⟨hz, hother⟩ := List.mem_filter.1 hz
      rw [roster, hroster, if_neg fun heq => ?_]
      · exact h.autostart z hz
      · rw [DomainName.compare_eq_iff_beq.1 heq] at hother
        cases hother

/-! ## 5. Signers come and go -/

/-- A signer is new, and is put at the end of the list of a group. -/
structure Joins (s t : State) (name : String) (zone : DomainName) : Prop where
  homeless : s.home name = none
  group : (s.roster zone).isSome = true
  home : ∀ n, t.home n = if n = name then some zone else s.home n
  roster : ∀ z, t.roster z
    = if (zone == z) = true then (s.roster z).map (· ++ [name]) else s.roster z
  autostart : t.autostart = s.autostart
  dnskeyOrigin : t.dnskeyOrigin = s.dnskeyOrigin
  nsOrigin : t.nsOrigin = s.nsOrigin

theorem joins_of_addSigner {signer : Signer} (ht : s.addSigner name signer = .ok t) :
    Joins s t name signer.group := by
  unfold State.addSigner at ht
  split at ht
  · cases ht
  · rename_i hnew
    obtain ⟨g, hg, ht⟩ := bind_eq_ok.1 ht
    cases ht
    have hhomeless : s.home name = none := by
      rw [home, Option.map_eq_none_iff]
      simpa only [OrderedMap.contains, Option.not_isSome_iff_eq_none] using hnew
    exact ⟨hhomeless, isSome_roster_of_group hg, fun n => s.home_insert name n signer,
      fun z => s.roster_modify signer.group z fun g => rfl, rfl, rfl, rfl⟩

/-- Signers that were there stay where they were. -/
theorem Joins.stays (hj : Joins s t name zone) {n : String} (hn : s.home n = some z) :
    t.home n = some z := by
  rw [hj.home, if_neg, hn]
  rintro rfl
  rw [hj.homeless] at hn
  cases hn

theorem Joins.listed (hj : Joins s t name zone) (h : s.Intact) {names : List String}
    (hz : t.roster z = some names) :
    names.Nodup ∧ ∀ n ∈ names, ∃ z', t.home n = some z' ∧ (z' == z) = true := by
  rw [hj.roster] at hz
  split at hz
  · rename_i hsame
    obtain ⟨old, hold, rfl⟩ := Option.map_eq_some_iff.1 hz
    obtain ⟨hnodup, hall⟩ := h.listed z old hold
    have hlacks : name ∉ old := fun hmem => by
      obtain ⟨z', hz', -⟩ := hall name hmem
      rw [hj.homeless] at hz'
      cases hz'
    refine ⟨List.concat_eq_append ▸ List.Nodup.concat hlacks hnodup, fun n hn => ?_⟩
    rcases List.mem_append.1 hn with hn | hn
    · obtain ⟨z', hz', hsame'⟩ := hall n hn
      exact ⟨z', hj.stays hz', hsame'⟩
    · exact ⟨zone, (hj.home n).trans (if_pos (List.mem_singleton.1 hn)), hsame⟩
  · obtain ⟨hnodup, hall⟩ := h.listed z names hz
    refine ⟨hnodup, fun n hn => ?_⟩
    obtain ⟨z', hz', hsame⟩ := hall n hn
    exact ⟨z', hj.stays hz', hsame⟩

theorem Joins.joined (hj : Joins s t name zone) (h : s.Intact) {n : String}
    (hn : t.home n = some z) : ∃ names, t.roster z = some names ∧ n ∈ names := by
  rw [hj.home] at hn
  rw [hj.roster]
  split at hn
  · rename_i hname
    cases hn
    obtain ⟨old, hold⟩ := Option.isSome_iff_exists.1 hj.group
    rw [if_pos BEq.rfl, hold, Option.map_some]
    exact ⟨_, rfl, List.mem_append_right _ (List.mem_singleton.2 hname)⟩
  · obtain ⟨names, hz, hmem⟩ := h.joined n z hn
    rw [hz, Option.map_some]
    split
    · exact ⟨_, rfl, List.mem_append_left _ hmem⟩
    · exact ⟨_, rfl, hmem⟩

/-- **Adding a signer** to a group. -/
theorem Intact.addSigner (h : s.Intact) {signer : Signer} (ht : s.addSigner name signer = .ok t) :
    t.Intact := by
  have hj := joins_of_addSigner ht
  have hthere : ∀ n, (s.home n).isSome = true → (t.home n).isSome = true := fun n hn => by
    obtain ⟨z, hz⟩ := Option.isSome_iff_exists.1 hn
    rw [hj.stays hz]
    rfl
  refine ⟨fun z names => hj.listed h, fun n z => hj.joined h, fun z hz => ?_,
    hj.autostart ▸ h.once, fun p n hp => ?_, fun l n hl => ?_⟩
  · have hgroup := h.autostart z (hj.autostart ▸ hz)
    rw [hj.roster]
    split
    · rw [Option.isSome_map, hgroup]
    · exact hgroup
  · exact hthere n (h.dnskeyOrigin p n (hj.dnskeyOrigin ▸ hp))
  · exact hthere n (h.nsOrigin l n (hj.nsOrigin ▸ hl))

/-- A signer is gone, and so are the references to it. -/
structure Parts (s t : State) (name : String) (zone : DomainName) : Prop where
  was : s.home name = some zone
  home : ∀ n, t.home n = if n = name then none else s.home n
  roster : ∀ z, t.roster z
    = if (zone == z) = true then (s.roster z).map (List.filter (· != name)) else s.roster z
  autostart : t.autostart = s.autostart
  dnskeyOrigin : ∀ p n, t.dnskeyOrigin.get? p = some n → s.dnskeyOrigin.get? p = some n ∧ n ≠ name
  nsOrigin : ∀ l n, t.nsOrigin.get? l = some n → s.nsOrigin.get? l = some n ∧ n ≠ name

theorem parts_of_removeSigner {signer : Signer} (ht : s.removeSigner name = .ok (signer, t)) :
    Parts s t name signer.group := by
  obtain ⟨r, hr, ht⟩ := bind_eq_ok.1 ht
  cases ht
  refine ⟨?_, s.home_erase name, fun z => s.roster_modify signer.group z fun g => rfl, rfl,
    fun p n hp => ?_, fun l n hl => ?_⟩
  · rw [home, signer_eq_ok.1 hr, Option.map_some]
  · obtain ⟨hp, _, hne⟩ := OrderedMap.of_get?_filter hp
    exact ⟨hp, bne_iff_ne.1 hne⟩
  · obtain ⟨hl, _, hne⟩ := OrderedMap.of_get?_filter hl
    exact ⟨hl, bne_iff_ne.1 hne⟩

theorem Parts.listed (hp : Parts s t name zone) (h : s.Intact) {names : List String}
    (hz : t.roster z = some names) :
    names.Nodup ∧ ∀ n ∈ names, ∃ z', t.home n = some z' ∧ (z' == z) = true := by
  rw [hp.roster] at hz
  split at hz
  · obtain ⟨old, hold, rfl⟩ := Option.map_eq_some_iff.1 hz
    obtain ⟨hnodup, hall⟩ := h.listed z old hold
    refine ⟨hnodup.filter _, fun n hn => ?_⟩
    obtain ⟨hn, hne⟩ := List.mem_filter.1 hn
    rw [hp.home, if_neg (bne_iff_ne.1 hne)]
    exact hall n hn
  · rename_i hother
    obtain ⟨hnodup, hall⟩ := h.listed z names hz
    refine ⟨hnodup, fun n hn => ?_⟩
    obtain ⟨z', hz', hsame⟩ := hall n hn
    -- the list of another zone does not have the signer
    have hne : n ≠ name := by
      rintro rfl
      obtain rfl := Option.some.inj (hp.was.symm.trans hz')
      exact hother hsame
    rw [hp.home, if_neg hne]
    exact ⟨z', hz', hsame⟩

theorem Parts.joined (hp : Parts s t name zone) (h : s.Intact) {n : String}
    (hn : t.home n = some z) : ∃ names, t.roster z = some names ∧ n ∈ names := by
  rw [hp.home] at hn
  rw [hp.roster]
  split at hn
  · cases hn
  · rename_i hne
    obtain ⟨names, hz, hmem⟩ := h.joined n z hn
    rw [hz, Option.map_some]
    split
    · exact ⟨_, rfl, List.mem_filter.2 ⟨hmem, bne_iff_ne.2 hne⟩⟩
    · exact ⟨_, rfl, hmem⟩

/-- **Removing a signer**, with all references to it. -/
theorem Intact.removeSigner (h : s.Intact) {signer : Signer}
    (ht : s.removeSigner name = .ok (signer, t)) : t.Intact := by
  have hp := parts_of_removeSigner ht
  refine ⟨fun z names => hp.listed h, fun n z => hp.joined h, fun z hz => ?_,
    hp.autostart ▸ h.once, fun p n hn => ?_, fun l n hn => ?_⟩
  · have hgroup := h.autostart z (hp.autostart ▸ hz)
    rw [hp.roster]
    split
    · rw [Option.isSome_map, hgroup]
    · exact hgroup
  · obtain ⟨hn, hne⟩ := hp.dnskeyOrigin p n hn
    rw [hp.home, if_neg hne]
    exact h.dnskeyOrigin p n hn
  · obtain ⟨hn, hne⟩ := hp.nsOrigin l n hn
    rw [hp.home, if_neg hne]
    exact h.nsOrigin l n hn

/-! ## 6. Groups that start with the daemon -/

theorem Intact.addAutostart (h : s.Intact) {g : Group} (hg : s.group zone = .ok g)
    (hnew : s.autostart.any (· == zone) = false) :
    { s with autostart := s.autostart ++ [zone] : State }.Intact := by
  refine ⟨h.listed, h.joined, fun z hz => ?_, ?_, h.dnskeyOrigin, h.nsOrigin⟩
  · rcases List.mem_append.1 hz with hz | hz
    · exact h.autostart z hz
    · rw [List.mem_singleton.1 hz]
      exact isSome_roster_of_group hg
  · refine List.pairwise_append.2 ⟨h.once, List.pairwise_singleton _ _, fun a ha b hb => ?_⟩
    rw [List.mem_singleton.1 hb]
    exact Bool.not_eq_true _ ▸ List.any_eq_false.1 hnew a ha

theorem Intact.removeAutostart (h : s.Intact) (p : DomainName → Bool) :
    { s with autostart := s.autostart.filter p : State }.Intact :=
  ⟨h.listed, h.joined, fun z hz => h.autostart z (List.mem_filter.1 hz).1, h.once.filter p,
    h.dnskeyOrigin, h.nsOrigin⟩

end State
end MultiSigner
