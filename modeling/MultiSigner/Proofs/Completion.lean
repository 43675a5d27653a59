/-
# A walk comes to its end

`walk_completes` says that a walk on a faithful network succeeds from end to end.  Every step takes
the group to its next stage unless it is held, so that the twelve activities are passed in order,
and at the end the signers serve what they should (`Completed`).

Two conditions of it are not about the network: servers have addresses (`Addressed`), and the keys
that sign keys are small enough to be referred to (`Delegable`).  Without either a walk can fail.
-/
import MultiSigner.Proofs.Rehearsal

namespace MultiSigner

open Operation Automation

namespace Deployment

variable {ω : Type} {n : Deployment ω} {start s t : Session ω} {d : Direction}
  {run : List (Session ω)}

/-! ## 1. What a walk achieves -/

/-- **What a walk achieves.** -/
structure Completed (n : Deployment ω) (start t : Session ω) : Prop where
  /-- Every signer that stays has each key that one of them shares, or shared at the start, unless a
  leaving signer had it first. -/
  keysShared : ∀ m m', n.Stays m → n.Stays m' → ∀ k, m.shares k = true →
    n.Shows start m (.dnskey k) ∨ n.Shows t m (.dnskey k) →
      ¬ n.Departed t.state.dnskeyOrigin k →
        ∃ k', n.Shows t m' (.dnskey k') ∧ k'.publicKey = k.publicKey ∧ k'.algorithm = k.algorithm
  /-- Just which keys each signer has. -/
  keys : n.KeysInLine start t
  /-- All signers serve the same names. -/
  names : n.NamesInLine start t
  /-- Nothing is left of what was asked of the parent. -/
  requests : n.Gone [.cds, .cdnskey, .csync] t

theorem Underway.completed (h : n.Underway start d.activities t)
    (hone : n.OneAlgorithm start) : n.Completed start t := by
  have hkeys := h.newKeys (by cases d <;> decide)
  have hshared := hkeys.shared hone
  refine ⟨fun m m' hm hm' k hshares hshow hstays => ?_, hkeys, h.newNames (by cases d <;> decide),
    fun m hm data hkind => ?_⟩
  · have hshow : n.Shows t m (.dnskey k) :=
      hshow.elim (fun hold => (hkeys.staying m hm k).2 ⟨hstays, .inl hold⟩) id
    obtain ⟨k', hk', hbytes⟩ := hshared.spread m hm k hshow hshares m' hm'
    exact ⟨k', hk', hbytes, hshared.algorithms m' m hm' hm k' k hk' hshow hbytes⟩
  · by_cases hcsync : data.kind = .csync
    · exact h.unrequested (by cases d <;> decide) m hm data (by rw [hcsync]; decide)
    · refine h.unreferred (by cases d <;> decide) m hm data ?_
      simp only [List.mem_cons, List.not_mem_nil, or_false, hcsync] at hkind
      simpa only [touched, List.mem_cons, List.not_mem_nil, or_false] using hkind

/-! ## 2. Walks from end to end -/

/-- What has to be known of keys is told by the views of their signers. -/
theorem workable_of_views
    (hlength : ∀ v ∈ n.views [.dnskey] s, ∀ k ∈ v.dnskeys, k.publicKey.length ≤ 65531)
    (hone : ∀ v ∈ n.views [.dnskey] s, ∀ v' ∈ n.views [.dnskey] s, ∀ k ∈ v.dnskeys,
      ∀ k' ∈ v'.dnskeys, k.publicKey = k'.publicKey → k.algorithm = k'.algorithm) :
    n.Workable s where
  tags m hm k hk := by
    have hlength := hlength _ (mem_views.2 ⟨m, hm.1, rfl⟩) k ((mem_dnskeys_view (by decide)).2 hk)
    refine ⟨_, if_neg ?_⟩
    rw [k.length_wire]
    omega
  algorithms m m' hm hm' k k' hk hk' :=
    hone _ (mem_views.2 ⟨m, hm.1, rfl⟩) _ (mem_views.2 ⟨m', hm'.1, rfl⟩) k
      ((mem_dnskeys_view (by decide)).2 hk) k' ((mem_dnskeys_view (by decide)).2 hk')

theorem delegable_of_views (hlength : ∀ v ∈ n.views [.dnskey] s, ∀ k ∈ v.dnskeys,
    (n.zone.wire ++ k.wire).length ≤ 65535) : n.Delegable s := by
  intro m hm k hk _
  have hlength := hlength _ (mem_views.2 ⟨m, hm.1, rfl⟩) k ((mem_dnskeys_view (by decide)).2 hk)
  have hwire : ¬ 65535 < k.wire.length := by
    rw [List.length_append] at hlength
    omega
  exact ⟨_, Dnskey.delegation_eq_ok.2 ⟨hlength, _, _, rfl, if_neg hwire, rfl⟩⟩

/-- **A walk comes to its end.**  Each step finds the group at the activity that comes next, it
succeeds, and it leaves a deadline just if it is held, which the next step finds.  After twelve
steps that are not held the walk is at its end, and it has achieved what it should. -/
theorem walk_completes (hn : n.Faithful) (ha : n.Addressed) (hs : n.Departs d start)
    (hdel : n.Delegable start) (hj : n.Journey d start run t) :
    (∀ past s later, run = past ++ s :: later →
      n.stage? s = some (stageAt d (n.advances d past)) ∧
      ((Automation.step n.zone).perform n.outside s).1 = .ok () ∧
      n.deadline? (holdOf d) (n.left s)
        = if n.held d s then some (n.due (holdOf d) s) else none) ∧
    n.stage? t = some (stageAt d (n.advances d run)) ∧
    (12 ≤ n.advances d run → n.stage? t = some .ready ∧ n.Completed start t) := by
  obtain ⟨hsteps, hstanding⟩ := standing_of_journey hn ha hs hj fun _ => hdel
  refine ⟨fun past s later hsplit => ?_, hstanding.stage?_eq, fun hdone => ?_⟩
  · have hstep := hsteps past s later hsplit
    exact ⟨hstep.found, hstep.succeeds, hstep.deadline⟩
  · rw [stageAt_of_le hdone] at hstanding
    refine ⟨hstanding.stage?_eq, ?_⟩
    cases hstanding with
    | arrived _ hunderway _ => exact hunderway.completed hs.workable.algorithms

end Deployment

namespace Sample

open Deployment Rehearsal

/-- A key, and whether it signs keys. -/
def walkKey (signsKeys : Bool) (publicKey : List UInt8) : Dnskey :=
  ⟨true, signsKeys, false, 13, publicKey⟩

/-- What a server has at the start of a walk. -/
def holding (letter : Char) (keys : List Dnskey) : String × List Record :=
  (String.singleton letter, ⟨60, .soa 7⟩ :: ⟨60, .ns (name letter.toNat.toUInt8)⟩ ::
    keys.map fun k => ⟨60, .dnskey k⟩)

/-- Two signers that stay, and one that is leaving. -/
def walkers : List Member :=
  [member 'a' false, member 'b' false, member 'c' true]

def walkServers : List (String × List Record) :=
  [holding 'a' [walkKey true [1], walkKey false [2]], holding 'b' [walkKey false [3]],
    holding 'c' [walkKey false [9]], ("p", [])]

/-- Steps at one time up to the hold, which they look at once more before it is over. -/
def walkDates : List Timestamp :=
  [0, 0, 0, 0, 0, 0, 0, 60, 120, 120, 120, 120, 120, 120].map Timestamp.ofSeconds

theorem departs_walkers :
    (deployment walkers).Departs .joining (departure walkers walkServers) := by
  refine departs ?_ ?_ ?_ ?_ ?_ ?_ (workable_of_views ?_ ?_) <;> decide +kernel

theorem advances_walkers : 12 ≤ (deployment walkers).advances .joining
    (sessions (deployment walkers) (departure walkers walkServers) walkDates) := by decide +kernel

/-- The walk of the sample group comes to its end. -/
theorem walk_completes_by_walkers :
    (deployment walkers).stage?
        (last (deployment walkers) (departure walkers walkServers) walkDates) = some .ready ∧
      (deployment walkers).Completed (departure walkers walkServers)
        (last (deployment walkers) (departure walkers walkServers) walkDates) := by
  have hn : (deployment walkers).Faithful := faithful (by decide +kernel) (by decide +kernel)
  have ha : (deployment walkers).Addressed := ⟨by decide +kernel, by decide +kernel⟩
  have hdel : (deployment walkers).Delegable (departure walkers walkServers) :=
    delegable_of_views (by decide +kernel)
  have hj : (deployment walkers).Journey .joining (departure walkers walkServers)
      (sessions (deployment walkers) (departure walkers walkServers) walkDates)
      (last (deployment walkers) (departure walkers walkServers) walkDates) :=
    journey_sessions (rehearsed _) hn ha departs_walkers hdel walkDates (by decide +kernel) .start
  exact (walk_completes hn ha departs_walkers hdel hj).2.2 advances_walkers

end Sample

/-! ## 3. What a walk needs -/

namespace Deployment

variable {ω : Type} {n : Deployment ω} {start s : Session ω}

/-- Keys for which no reference can be computed stay if no signer leaves. -/
theorem not_delegable_of_inLine (h : n.KeysInLine start s) (hall : ∀ m, ¬ n.Leaves m)
    (hnot : ¬ n.Delegable start) : ¬ n.Delegable s := by
  intro hdel
  refine hnot fun m hm k hk hrole => hdel m hm k ((h.staying m hm k).2 ⟨?_, .inl hk⟩) hrole
  rintro ⟨x, hx, -⟩
  exact hall x hx

/-- The first step of a walk on which signers join. -/
theorem Departs.synced {s₁ : Session ω} (hs : n.Departs .joining start) (hn : n.Faithful)
    (ha : n.Addressed) (h₁ : n.Meanwhile start s₁) :
    n.Standing start .joining (.walking .joining .checkDnskeys) (n.left s₁) := by
  have hstart : n.Standing start .joining (.walking .joining .syncDnskeys) s₁ :=
    h₁.standing hs.standing
  exact hstart.on hn ha hs.workable ⟨nofun, nofun, nofun⟩ (by decide) (by decide)

/-- The second one. -/
theorem Departs.checked {s₁ s₂ : Session ω} (hs : n.Departs .joining start) (hn : n.Faithful)
    (ha : n.Addressed) (h₁ : n.Meanwhile start s₁) (h₂ : n.Meanwhile (n.left s₁) s₂) :
    n.Standing start .joining (.walking .joining .syncCds) (n.left s₂) :=
  (h₂.standing (hs.synced hn ha h₁)).on hn ha hs.workable ⟨nofun, nofun, nofun⟩ (by decide)
    (by decide)

/-- **Without references a walk fails**: if signers join and none leaves, in its third step. -/
theorem third_step_fails {s₁ s₂ s₃ : Session ω} (hn : n.Faithful) (ha : n.Addressed)
    (hs : n.Departs .joining start) (hall : ∀ m, ¬ n.Leaves m) (hnot : ¬ n.Delegable start)
    (h₁ : n.Meanwhile start s₁) (h₂ : n.Meanwhile (n.left s₁) s₂)
    (h₃ : n.Meanwhile (n.left s₂) s₃) :
    ∃ e, ((Automation.step n.zone).perform n.outside s₃).1 = .error e := by
  cases h₃.standing (hs.checked hn ha h₁ h₂) with
  | walking here =>
    exact here.fails hn ha
      (not_delegable_of_inLine (here.underway.newKeys (by decide)) hall hnot)

end Deployment

namespace Sample

open Deployment Rehearsal

/-- A key that has a tag, but that is too long to be referred to. -/
def tallKey : Dnskey :=
  walkKey true (List.replicate 65530 1)

def tallServers : List (String × List Record) :=
  [holding 'a' [tallKey], ("p", [])]

/-- A signer that has no address. -/
def homeless : Member :=
  ⟨"a", signer "" (name 97)⟩

def homelessServers : List (String × List Record) :=
  [("", [⟨60, .soa 7⟩]), ("p", [])]

theorem records_tall {m : Member} (hm : m ∈ [member 'a' false]) :
    (deployment [member 'a' false]).records (departure [member 'a' false] tallServers) m
      = (holding 'a' [tallKey]).2 := by
  rw [List.mem_singleton.1 hm]
  rfl

theorem shows_tall {m : Member} (hm : m ∈ [member 'a' false]) {k : Dnskey} :
    (deployment [member 'a' false]).Shows (departure [member 'a' false] tallServers) m (.dnskey k)
      ↔ k = tallKey := by
  rw [Shows, records_tall hm]
  constructor
  · rintro ⟨r, hr, hk⟩
    simp only [holding, List.map_cons, List.map_nil, List.mem_cons, List.not_mem_nil,
      or_false] at hr
    rcases hr with rfl | rfl | rfl
    · cases hk
    · cases hk
    · exact (RecordData.dnskey.inj (RecordData.eq_of_beq hk fun hkind => by cases hkind)).symm
  · rintro rfl
    exact ⟨_, List.mem_cons_of_mem _ (List.mem_cons_of_mem _ List.mem_cons_self), BEq.rfl⟩

theorem length_wire_tallKey : tallKey.wire.length = 65534 := by
  have hkey : tallKey.publicKey = List.replicate 65530 1 := rfl
  rw [Dnskey.length_wire, hkey, List.length_replicate]

theorem departs_tall : (deployment [member 'a' false]).Departs .joining
    (departure [member 'a' false] tallServers) := by
  refine departs ?_ ?_ ?_ ?_ ?_ ?_ ⟨fun m hm k hk => ?_, fun m m' hm hm' k k' hk hk' _ => ?_⟩
  · decide +kernel
  · decide +kernel
  · decide +kernel
  · decide +kernel
  · decide +kernel
  · decide +kernel
  · rw [(shows_tall hm.1).1 hk]
    exact ⟨_, if_neg (by rw [length_wire_tallKey]; decide)⟩
  · rw [(shows_tall hm.1).1 hk, (shows_tall hm'.1).1 hk']

theorem not_delegable_tall : ¬ (deployment [member 'a' false]).Delegable
    (departure [member 'a' false] tallServers) := by
  intro hdel
  have hm : member 'a' false ∈ [member 'a' false] := List.mem_cons_self
  have hrole : tallKey.role = .keySigning := by
    simp only [tallKey, walkKey, Dnskey.role, if_true]
  obtain ⟨d, hd⟩ := hdel _ ⟨hm, rfl⟩ tallKey ((shows_tall hm).2 rfl) hrole
  have hlength := (Dnskey.delegation_eq_ok.1 hd).1
  rw [List.length_append, length_wire_tallKey] at hlength
  have hzone : (deployment [member 'a' false]).zone.wire.length = 3 := by decide
  omega

/-- The sessions that steps find, all at one time. -/
def firstSteps (members : List Member) (servers : List (String × List Record)) (count : Nat) :
    List (Session World) :=
  sessions (deployment members) (departure members servers)
    (List.replicate count (Timestamp.ofSeconds 0))

/-- **A faithful network is not enough** for a walk.  It fails in its third step if a key is too
long to be referred to, and in its first one if a signer has no address. -/
theorem fails_on_faithful_network :
    ((deployment [member 'a' false]).Faithful ∧ (deployment [member 'a' false]).Addressed ∧
      (deployment [member 'a' false]).Departs .joining
        (departure [member 'a' false] tallServers) ∧
      (∃ t, (deployment [member 'a' false]).Journey .joining
        (departure [member 'a' false] tallServers)
          (firstSteps [member 'a' false] tallServers 3) t) ∧
      ∃ s ∈ firstSteps [member 'a' false] tallServers 3,
        ((Automation.step zone).perform (deployment [member 'a' false]).outside s).1 ≠ .ok ()) ∧
    ((deployment [homeless]).Faithful ∧
      (deployment [homeless]).Delegable (departure [homeless] homelessServers) ∧
      (deployment [homeless]).Departs .joining (departure [homeless] homelessServers) ∧
      (∃ t, (deployment [homeless]).Journey .joining (departure [homeless] homelessServers)
        (firstSteps [homeless] homelessServers 1) t) ∧
      ∃ s ∈ firstSteps [homeless] homelessServers 1,
        ((Automation.step zone).perform (deployment [homeless]).outside s).1 ≠ .ok ()) := by
  have hdate : (Timestamp.ofSeconds 0).Dated := by decide
  constructor
  · have hn : (deployment [member 'a' false]).Faithful :=
      faithful (by decide +kernel) (by decide +kernel)
    have ha : (deployment [member 'a' false]).Addressed := ⟨by decide +kernel, by decide +kernel⟩
    have hall : ∀ m, ¬ (deployment [member 'a' false]).Leaves m := by
      rintro m ⟨hm, hleaves⟩
      rw [List.mem_singleton.1 hm] at hleaves
      cases hleaves
    have hs := departs_tall
    have h₁ := meanwhile_heeded (rehearsed _) hn hs.found (.ofSeconds 0)
    have hfound₁ := (hs.synced hn ha h₁).found
    have h₂ := meanwhile_heeded (rehearsed _) hn hfound₁ (.ofSeconds 0)
    have hfound₂ := (hs.checked hn ha h₁ h₂).found
    have h₃ := meanwhile_heeded (rehearsed _) hn hfound₂ (.ofSeconds 0)
    obtain ⟨e, he⟩ := third_step_fails hn ha hs hall not_delegable_tall h₁ h₂ h₃
    have hj := journey_snoc (d := .joining) (rehearsed _) hn hfound₂ hdate
      (journey_snoc (rehearsed _) hn hfound₁ hdate
        (journey_snoc (rehearsed _) hn hs.found hdate .start))
    refine ⟨hn, ha, hs, ⟨_, hj⟩, _, List.mem_cons_of_mem _ (List.mem_cons_of_mem _
      List.mem_cons_self), fun hok => ?_⟩
    cases he.symm.trans hok
  · have hn : (deployment [homeless]).Faithful := faithful (by decide +kernel) (by decide +kernel)
    have hs : (deployment [homeless]).Departs .joining (departure [homeless] homelessServers) := by
      refine departs ?_ ?_ ?_ ?_ ?_ ?_ (workable_of_views ?_ ?_) <;> decide +kernel
    refine ⟨hn, delegable_of_views (by decide +kernel), hs,
      ⟨_, journey_snoc (rehearsed _) hn hs.found hdate .start⟩, _, List.mem_cons_self, ?_⟩
    decide +kernel

end Sample
end MultiSigner
