/-
# What holds on the way

A group on its walk has some activities behind it.  `Underway` says what the servers serve then, in
terms of what they served at the start: as long as keys were not synced they are those of the start,
afterwards they are in line, and the same goes for the other record sets.  That is what the later
checks need, and what is left at the end.

* `Underway.acted`: an activity that changes records adds what it achieves, and keeps the rest.
* `Underway.meets`: what is behind makes a check find what it looks for.
-/
import Mathlib.Data.List.Find
import MultiSigner.Proofs.Fingerprints
import MultiSigner.Proofs.Run
import MultiSigner.Proofs.Syncing

namespace MultiSigner

namespace Deployment

open Operation Automation

variable {ω : Type} {n : Deployment ω} {start s t : Session ω} {m : Member}

/-! ## 1. The start -/

/-- The keys that signers which stay serve can be worked with: their tags can be computed, and the
same bytes have one algorithm. -/
structure Workable (n : Deployment ω) (s : Session ω) : Prop where
  tags : n.Tagged s
  algorithms : n.OneAlgorithm s

/-- The keys of those who stay come from those who stay. -/
def KeysFrom (n : Deployment ω) (start s : Session ω) : Prop :=
  ∀ m, n.Stays m → ∀ k, n.Shows s m (.dnskey k) → ∃ m', n.Stays m' ∧ n.Shows start m' (.dnskey k)

theorem OneAlgorithm.of_keysFrom (h : n.OneAlgorithm start) (hfrom : n.KeysFrom start s) :
    n.OneAlgorithm s := by
  intro m m' hm hm' k k' hk hk' hbytes
  obtain ⟨x, hx, hkx⟩ := hfrom m hm k hk
  obtain ⟨x', hx', hkx'⟩ := hfrom m' hm' k' hk'
  exact h x x' hx hx' k k' hkx hkx' hbytes

theorem Tagged.of_keysFrom (h : n.Tagged start) (hfrom : n.KeysFrom start s) : n.Tagged s := by
  intro m hm k hk
  obtain ⟨m', hm', hk'⟩ := hfrom m hm k hk
  exact h m' hm' k hk'

theorem Delegable.of_keysFrom (h : n.Delegable start) (hfrom : n.KeysFrom start s) :
    n.Delegable s := by
  intro m hm k hk hrole
  obtain ⟨m', hm', hk'⟩ := hfrom m hm k hk
  exact h m' hm' k hk' hrole

/-- Two sessions agree on some of what the members serve. -/
def Agree (n : Deployment ω) (kind : RecordKind) (s t : Session ω) : Prop :=
  ∀ m ∈ n.members, ∀ d : RecordData, d.kind = kind → (n.Shows t m d ↔ n.Shows s m d)

theorem Agree.refl (kind : RecordKind) (s : Session ω) : n.Agree kind s s :=
  fun _ _ _ _ => Iff.rfl

theorem Agree.trans {u : Session ω} {kind : RecordKind} (h : n.Agree kind s t)
    (k : n.Agree kind t u) : n.Agree kind s u := fun m hm d hd =>
  (k m hm d hd).trans (h m hm d hd)

theorem KeysInLine.keysFrom (h : n.KeysInLine start s) : n.KeysFrom start s := by
  intro m hm k hk
  rcases ((h.staying m hm k).1 hk).2 with hk | ⟨-, m', hm', hk, -⟩
  · exact ⟨m, hm, hk⟩
  · exact ⟨m', hm', hk⟩

/-! ## 2. Facts that outlast other activities -/

/-- Origins are noted by what was known and what is served. -/
theorem originAfter_congr (ho : t.state.dnskeyOrigin = s.state.dnskeyOrigin)
    (hkeys : n.Agree .dnskey s t) (print : String) :
    n.originAfter t print = n.originAfter s print := by
  have hshares : ∀ m ∈ n.members, n.sharesPrint t print m = n.sharesPrint s print m := by
    intro m hm
    rw [Bool.eq_iff_iff, sharesPrint_iff, sharesPrint_iff]
    exact exists_congr fun k => and_congr (hkeys m hm _ rfl) Iff.rfl
  rw [originAfter, originAfter, ho, List.find?_congr hshares]

/-- Keys that are in line with one session are in line with any other that has the same keys. -/
theorem KeysInLine.from_congr (h : n.KeysInLine s t)
    (ho : s.state.dnskeyOrigin = start.state.dnskeyOrigin) (hkeys : n.Agree .dnskey start s) :
    n.KeysInLine start t where
  origins print := (h.origins print).trans (originAfter_congr ho hkeys print)
  staying m hm k := by
    have hsame : ∀ m', n.Stays m' → ∀ l, n.Shows s m' (.dnskey l) ↔ n.Shows start m' (.dnskey l) :=
      fun m' hm' l => hkeys m' hm'.1 _ rfl
    rw [h.staying m hm k, hsame m hm k]
    refine and_congr Iff.rfl (or_congr Iff.rfl (and_congr ?_ ?_))
    · exact forall_congr' fun l => imp_congr (hsame m hm l) Iff.rfl
    · exact exists_congr fun m' => and_congr_right fun hm' => and_congr (hsame m' hm' k) Iff.rfl
  leaving m hm k := (h.leaving m hm k).trans (hkeys m hm.1 _ rfl)

theorem KeysInLine.congr (h : n.KeysInLine start s)
    (ho : t.state.dnskeyOrigin = s.state.dnskeyOrigin) (hkeys : n.Agree .dnskey s t) :
    n.KeysInLine start t where
  origins print := by rw [ho, h.origins print]
  staying m hm k := by rw [ho, hkeys m hm.1 _ rfl, h.staying m hm k]
  leaving m hm k := (hkeys m hm.1 _ rfl).trans (h.leaving m hm k)

theorem KeysReferred.congr (h : n.KeysReferred s) (hkeys : n.Agree .dnskey s t)
    (hcds : n.Agree .cds s t) (hcdnskeys : n.Agree .cdnskey s t) : n.KeysReferred t where
  cds m m' hm hm' k hk hrole := by
    obtain ⟨d, hd, href⟩ := h.cds m m' hm hm' k ((hkeys m' hm'.1 _ rfl).1 hk) hrole
    exact ⟨d, (hcds m hm.1 _ rfl).2 hd, href⟩
  cdnskey m m' hm hm' k hk hrole :=
    (hcdnskeys m hm.1 _ rfl).2 (h.cdnskey m m' hm hm' k ((hkeys m' hm'.1 _ rfl).1 hk) hrole)

theorem Wanted.congr (hnames : n.Agree .ns s t) (name : DomainName) :
    n.Wanted t name ↔ n.Wanted s name := by
  refine and_congr (or_congr ?_ Iff.rfl) Iff.rfl
  exact exists_congr fun m => and_congr_right fun hm => hnames m hm _ rfl

theorem NamesInLine.from_congr (h : n.NamesInLine s t) (hnames : n.Agree .ns start s) :
    n.NamesInLine start t := fun m hm name =>
  (h m hm name).trans (Wanted.congr hnames name)

theorem NamesInLine.congr (h : n.NamesInLine start s) (hnames : n.Agree .ns s t) :
    n.NamesInLine start t := fun m hm name =>
  (hnames m hm _ rfl).trans (h m hm name)

/-- No member serves records of some kinds. -/
def Gone (n : Deployment ω) (kinds : List RecordKind) (s : Session ω) : Prop :=
  ∀ m ∈ n.members, ∀ d : RecordData, d.kind ∈ kinds → ¬ n.Shows s m d

theorem Gone.congr {kinds : List RecordKind} (h : n.Gone kinds s)
    (hsame : ∀ kind ∈ kinds, n.Agree kind s t) : n.Gone kinds t := fun m hm d hd hshow =>
  h m hm d hd ((hsame d.kind hd m hm d rfl).1 hshow)

/-! ## 3. The invariant -/

/-- **What holds when some activities are behind.** -/
structure Underway (n : Deployment ω) (start : Session ω) (done : List Activity) (s : Session ω) :
    Prop where
  found : n.Found s
  started : n.Started s
  oldKeys : .syncDnskeys ∉ done →
    s.state.dnskeyOrigin = start.state.dnskeyOrigin ∧ n.Agree .dnskey start s
  newKeys : .syncDnskeys ∈ done → n.KeysInLine start s
  referred : .syncCds ∈ done → .removeCds ∉ done → n.KeysReferred s
  unreferred : .removeCds ∈ done → n.Gone (touched .removeCds) s
  oldNames : .syncNs ∉ done → n.Agree .ns start s
  newNames : .syncNs ∈ done → n.NamesInLine start s
  unrequested : .removeCsync ∈ done → n.Gone (touched .removeCsync) s

/-- Where the walk starts. -/
theorem underway_nil (hs : n.Found s) (hsoa : n.Started s) : n.Underway s [] s where
  found := hs
  started := hsoa
  oldKeys _ := ⟨rfl, .refl _ _⟩
  newKeys h := absurd h List.not_mem_nil
  referred h := absurd h List.not_mem_nil
  unreferred h := absurd h List.not_mem_nil
  oldNames _ := .refl _ _
  newNames h := absurd h List.not_mem_nil
  unrequested h := absurd h List.not_mem_nil

variable {done : List Activity}

/-- The invariant speaks of the records of members and of the origins of keys. -/
theorem Underway.congr (h : n.Underway start done s) (hf : n.Found t)
    (ho : t.state.dnskeyOrigin = s.state.dnskeyOrigin)
    (hrecords : ∀ m ∈ n.members, n.records t m = n.records s m) : n.Underway start done t := by
  have hsame : ∀ kind, n.Agree kind s t := fun kind m hm d _ => by
    rw [Shows, hrecords m hm, Shows]
  refine ⟨hf, fun m hm => ?_, fun hd => ?_, fun hd => ?_, fun hd hr => ?_, fun hd => ?_,
    fun hd => ?_, fun hd => ?_, fun hd => ?_⟩
  · obtain ⟨k, hk⟩ := h.started m hm
    exact ⟨k, (hsame _ m hm _ rfl).2 hk⟩
  · exact ⟨ho.trans (h.oldKeys hd).1, (h.oldKeys hd).2.trans (hsame _)⟩
  · exact (h.newKeys hd).congr ho (hsame _)
  · exact (h.referred hd hr).congr (hsame _) (hsame _) (hsame _)
  · exact (h.unreferred hd).congr fun kind _ => hsame kind
  · exact (h.oldNames hd).trans (hsame _)
  · exact (h.newNames hd).congr (hsame _)
  · exact (h.unrequested hd).congr fun kind _ => hsame kind

/-- Work that changes no records adds nothing to what is known. -/
theorem Underway.pass (h : n.Underway start done s) {a : Activity} (ha : acts a = false) :
    n.Underway start (done ++ [a]) s := by
  have hmem : ∀ b, acts b = true → (b ∈ done ++ [a] ↔ b ∈ done) := fun b hb => by
    rw [List.mem_append, List.mem_singleton]
    refine or_iff_left ?_
    rintro rfl
    rw [ha] at hb
    cases hb
  refine ⟨h.found, h.started, fun hd => h.oldKeys ?_, fun hd => h.newKeys ?_,
    fun hd hr => h.referred ?_ ?_, fun hd => h.unreferred ?_, fun hd => h.oldNames ?_,
    fun hd => h.newNames ?_, fun hd => h.unrequested ?_⟩
  · exact (not_congr (hmem _ rfl)).1 hd
  · exact (hmem _ rfl).1 hd
  · exact (hmem _ rfl).1 hd
  · exact (not_congr (hmem _ rfl)).1 hr
  · exact (hmem _ rfl).1 hd
  · exact (not_congr (hmem _ rfl)).1 hd
  · exact (hmem _ rfl).1 hd
  · exact (hmem _ rfl).1 hd

/-- An activity comes in its turn: what it would spoil is not behind. -/
def InTurn (done : List Activity) : Activity → Prop
  | .syncDnskeys => .syncDnskeys ∉ done ∧ .syncCds ∉ done
  | .syncCds => .removeCds ∉ done
  | .syncNs => .syncNs ∉ done
  | .addCsync => .removeCsync ∉ done
  | _ => True

/-- What an activity achieves, given the session before it. -/
def Achieved (n : Deployment ω) (s t : Session ω) : Activity → Prop
  | .syncDnskeys => n.KeysInLine s t
  | .syncCds => n.KeysReferred t
  | .removeCds => n.Gone (touched .removeCds) t
  | .syncNs => n.NamesInLine s t
  | .removeCsync => n.Gone (touched .removeCsync) t
  | _ => True

/-! ## 4. Activities that change records -/

section Touched

variable {a : Activity} {kind : RecordKind}

theorem not_mem_touched_dnskey (ha : a ≠ .syncDnskeys) : .dnskey ∉ touched a := by
  cases a <;> first | exact absurd rfl ha | decide

theorem not_mem_touched_ns (ha : a ≠ .syncNs) : .ns ∉ touched a := by
  cases a <;> first | exact absurd rfl ha | decide

/-- Two activities deal with requests for references. -/
theorem not_mem_touched_cds (hk : kind ∈ touched .removeCds) (hsync : a ≠ .syncCds)
    (hremove : a ≠ .removeCds) : kind ∉ touched a := by
  have hcases : kind = .cds ∨ kind = .cdnskey := by
    rwa [touched, List.mem_cons, List.mem_singleton] at hk
  rcases hcases with rfl | rfl <;> cases a <;>
    first | exact absurd rfl hsync | exact absurd rfl hremove | decide

/-- Two activities deal with requests for name servers. -/
theorem not_mem_touched_csync (hk : kind ∈ touched .removeCsync) (hadd : a ≠ .addCsync)
    (hremove : a ≠ .removeCsync) : kind ∉ touched a := by
  have hkind : kind = .csync := by
    rwa [touched, List.mem_singleton] at hk
  subst hkind
  cases a <;> first | exact absurd rfl hadd | exact absurd rfl hremove | decide

end Touched

/-- **An activity that changes records adds what it achieves.** -/
theorem Underway.acted (hn : n.Faithful) (h : n.Underway start done s) {a : Activity}
    {plans : List Plan} (hacted : n.Acted a plans s t) (hturn : InTurn done a)
    (hdone : n.Achieved s t a)
    (ho : a ≠ .syncDnskeys → t.state.dnskeyOrigin = s.state.dnskeyOrigin) :
    n.Underway start (done ++ [a]) t := by
  have hsame : ∀ kind, kind ∉ touched a → n.Agree kind s t := fun kind hk m hm d hd =>
    hacted.frame hn.members_apart hm (hd ▸ hk)
  have hmem : ∀ b, b ∈ done ++ [a] ↔ b ∈ done ∨ b = a := fun b => by
    rw [List.mem_append, List.mem_singleton]
  have hnot : ∀ b, b ∉ done ++ [a] → b ∉ done ∧ a ≠ b := fun b hb =>
    ⟨fun hd => hb ((hmem b).2 (.inl hd)), fun hab => hb ((hmem b).2 (.inr hab.symm))⟩
  refine ⟨hacted.found h.found, fun m hm => ?_, fun hd => ?_, fun hd => ?_, fun hd hr => ?_,
    fun hd => ?_, fun hd => ?_, fun hd => ?_, fun hd => ?_⟩
  · obtain ⟨k, hk⟩ := h.started m hm
    exact ⟨k, (hsame .soa (by cases a <;> decide) m hm _ rfl).2 hk⟩
  · obtain ⟨hd, ha⟩ := hnot _ hd
    obtain ⟨horigins, hkeys⟩ := h.oldKeys hd
    exact ⟨(ho ha).trans horigins, hkeys.trans (hsame _ (not_mem_touched_dnskey ha))⟩
  · rcases (hmem _).1 hd with hbefore | rfl
    · have ha : a ≠ .syncDnskeys := by
        rintro rfl
        exact hturn.1 hbefore
      exact (h.newKeys hbefore).congr (ho ha) (hsame _ (not_mem_touched_dnskey ha))
    · obtain ⟨horigins, hkeys⟩ := h.oldKeys hturn.1
      exact KeysInLine.from_congr hdone horigins hkeys
  · obtain ⟨hr, ha⟩ := hnot _ hr
    rcases (hmem _).1 hd with hbefore | rfl
    · by_cases hsync : a = .syncCds
      · subst hsync
        exact hdone
      · have hkeys : a ≠ .syncDnskeys := by
          rintro rfl
          exact hturn.2 hbefore
        exact (h.referred hbefore hr).congr (hsame _ (not_mem_touched_dnskey hkeys))
          (hsame _ (not_mem_touched_cds (by decide) hsync ha))
          (hsame _ (not_mem_touched_cds (by decide) hsync ha))
    · exact hdone
  · rcases (hmem _).1 hd with hbefore | rfl
    · by_cases hremove : a = .removeCds
      · subst hremove
        exact hdone
      · have hsync : a ≠ .syncCds := by
          rintro rfl
          exact hturn hbefore
        exact (h.unreferred hbefore).congr fun kind hk =>
          hsame kind (not_mem_touched_cds hk hsync hremove)
    · exact hdone
  · obtain ⟨hd, ha⟩ := hnot _ hd
    exact (h.oldNames hd).trans (hsame _ (not_mem_touched_ns ha))
  · rcases (hmem _).1 hd with hbefore | rfl
    · have ha : a ≠ .syncNs := by
        rintro rfl
        exact hturn hbefore
      exact (h.newNames hbefore).congr (hsame _ (not_mem_touched_ns ha))
    · exact NamesInLine.from_congr hdone (h.oldNames hturn)
  · rcases (hmem _).1 hd with hbefore | rfl
    · by_cases hremove : a = .removeCsync
      · subst hremove
        exact hdone
      · have hadd : a ≠ .addCsync := by
          rintro rfl
          exact hturn hbefore
        exact (h.unrequested hbefore).congr fun kind hk =>
          hsame kind (not_mem_touched_csync hk hadd hremove)
    · exact hdone

/-- On a walk each activity comes in its turn. -/
theorem inTurn_before (d : Direction) (a : Activity) : InTurn (d.before a) a := by
  cases a with
  | syncDnskeys => exact ⟨by cases d <;> decide, by cases d <;> decide⟩
  | syncCds | syncNs | addCsync =>
    show _ ∉ _
    cases d <;> decide
  | checkDnskeys | checkCds | checkParentDs | removeCds | wait | checkNs | checkParentNs
  | removeCsync => exact trivial

/-! ## 5. Checks -/

theorem Underway.keysFrom (h : n.Underway start done s) : n.KeysFrom start s := by
  by_cases hd : .syncDnskeys ∈ done
  · exact (h.newKeys hd).keysFrom
  · intro m hm k hk
    exact ⟨m, hm, ((h.oldKeys hd).2 m hm.1 _ rfl).1 hk⟩

/-- Keys in line are shared if the same bytes have one algorithm. -/
theorem KeysInLine.shared (h : n.KeysInLine start s) (hone : n.OneAlgorithm start) :
    n.KeysShared s where
  kept m hm k hk _ := ((h.staying m hm k).1 hk).1
  spread m hm k hk hshares m' hm' := by
    obtain ⟨hstays, hfrom⟩ := (h.staying m hm k).1 hk
    obtain ⟨x, hx, hkx, hsharesx⟩ : ∃ x, n.Stays x ∧ n.Shows start x (.dnskey k) ∧
        x.shares k = true := by
      rcases hfrom with hold | ⟨-, hnew⟩
      · exact ⟨m, hm, hold, hshares⟩
      · exact hnew
    by_cases hlacks : ∀ l, n.Shows start m' (.dnskey l) → l.publicKey ≠ k.publicKey
    · exact ⟨k, (h.staying m' hm' k).2 ⟨hstays, .inr ⟨hlacks, x, hx, hkx, hsharesx⟩⟩, rfl⟩
    · obtain ⟨l, hl⟩ := not_forall.1 hlacks
      obtain ⟨hl, hbytes⟩ := Classical.not_imp.1 hl
      have hbytes := not_not.1 hbytes
      -- the same bytes have the same algorithm, so whose key it is does not differ
      have hprint : l.fingerprint = k.fingerprint :=
        Dnskey.fingerprint_eq_iff.2 ⟨hone m' x hm' hx l k hl hkx hbytes, hbytes⟩
      have hlstays : ¬ n.Departed s.state.dnskeyOrigin l := by
        rwa [Departed, hprint]
      exact ⟨l, (h.staying m' hm' l).2 ⟨hlstays, .inl hl⟩, hbytes⟩
  algorithms := hone.of_keysFrom h.keysFrom

/-- **What is behind makes a check find what it looks for.** -/
theorem Underway.meets {d : Direction} {a : Activity} {flag : SyncFlag}
    (h : n.Underway start (d.before a) s) (hone : n.OneAlgorithm start)
    (hrefers : a = .checkParentDs → n.ParentRefers s)
    (hdelegates : a = .checkParentNs → n.ParentDelegates s)
    (hflag : work n.zone d a = (.check flag : Work ω)) : n.Meets s flag := by
  cases a with
  | syncDnskeys | syncCds | removeCds | wait | syncNs | addCsync | removeCsync => cases hflag
  | checkDnskeys =>
    cases hflag
    exact (h.newKeys (by cases d <;> decide)).shared hone
  | checkCds =>
    cases hflag
    exact h.referred (by cases d <;> decide) (by cases d <;> decide)
  | checkParentDs =>
    cases hflag
    exact ⟨h.referred (by cases d <;> decide) (by cases d <;> decide), hrefers rfl⟩
  | checkNs =>
    cases hflag
    exact (h.newNames (by cases d <;> decide)).shared
  | checkParentNs =>
    cases hflag
    exact ⟨(h.newNames (by cases d <;> decide)).shared, hdelegates rfl⟩

/-! ## 6. Activities on a walk -/

/-- **On a walk every activity that changes records succeeds**, and adds what it achieves. -/
theorem Underway.achieves_act {d : Direction} {a : Activity} (hn : n.Faithful) (ha : n.Addressed)
    (h : n.Underway start (d.before a) s) (htags : n.Tagged start)
    (hdel : a = .syncCds → n.Delegable start) (hacts : acts a = true) :
    Achieves n.outside s (planning n.zone a >>= Push.push n.zone) fun _ t =>
      n.Underway start (d.before a ++ [a]) t ∧ t.state.groups = s.state.groups := by
  have hdone : ∀ {t : Session ω}, (∃ plans, n.Acted a plans s t) → n.Achieved s t a →
      (a ≠ .syncDnskeys → t.state.dnskeyOrigin = s.state.dnskeyOrigin) →
      n.Underway start (d.before a ++ [a]) t ∧ t.state.groups = s.state.groups := by
    rintro t ⟨plans, hacted⟩ hachieved ho
    exact ⟨h.acted hn hacted (inTurn_before d a) hachieved ho,
      State.groups_of_withoutOrigins hacted.state⟩
  cases a with
  | checkDnskeys | checkCds | checkParentDs | wait | checkNs | checkParentNs => cases hacts
  | syncDnskeys =>
    exact (achieves_syncDnskeys hn ha h.found (htags.of_keysFrom h.keysFrom)).imp
      fun _ t ⟨hacted, hkeys⟩ => hdone hacted hkeys fun hne => absurd rfl hne
  | syncCds =>
    exact (achieves_syncCds hn ha h.found ((hdel rfl).of_keysFrom h.keysFrom)).imp
      fun _ t ⟨hacted, hstate, hreferred⟩ => hdone hacted hreferred fun _ => by rw [hstate]
  | removeCds =>
    exact (achieves_remove hn ha h.found rfl).imp
      fun _ t ⟨hacted, hstate, hgone⟩ => hdone hacted hgone fun _ => by rw [hstate]
  | syncNs =>
    exact (achieves_syncNs hn ha h.found).imp
      fun _ t ⟨hacted, ho, hnames⟩ => hdone hacted hnames fun _ => ho
  | addCsync =>
    exact (achieves_addCsync hn ha h.found h.started).imp
      fun _ t ⟨hacted, hstate⟩ => hdone hacted trivial fun _ => by rw [hstate]
  | removeCsync =>
    exact (achieves_remove hn ha h.found rfl).imp
      fun _ t ⟨hacted, hstate, hgone⟩ => hdone hacted hgone fun _ => by rw [hstate]

end Deployment
end MultiSigner
