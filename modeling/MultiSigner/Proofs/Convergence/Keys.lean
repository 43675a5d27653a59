/-
# Syncing keys once is enough

`keys_converge`: when syncing the keys of a group succeeds on a truthful network, the keys are in
line, signers that are leaving were not sent anything, a check that follows finds the keys synced,
and syncing them again neither sends anything nor notes where another key comes from.

Three notions of the same key meet here: whether a signer has a key is told by its bytes, where it
comes from by its fingerprint, and what is put in or taken out by the whole record.  They agree as
long as the same bytes have one algorithm (`OneAlgorithm`).
-/
import MultiSigner.Proofs.Completion
import MultiSigner.Proofs.Truthful

namespace MultiSigner

open Operation Automation

/-! ## 1. Origins that are known -/

theorem foldl_eq_self {α β : Type} {f : β → α → β} {b : β} :
    ∀ {l : List α}, (∀ a ∈ l, f b a = b) → l.foldl f b = b
  | [], _ => rfl
  | a :: l, h => by
    rw [List.foldl_cons, h a List.mem_cons_self]
    exact foldl_eq_self fun x hx => h x (List.mem_cons_of_mem _ hx)

/-- Noting where keys were seen changes nothing if that is known of all of them. -/
theorem Sync.Dnskeys.recordOrigins_eq_self {σ : State} {v : SignerView}
    (h : ∀ k ∈ v.syncedKeys, σ.dnskeyOrigin.contains k.fingerprint = true) :
    recordOrigins σ v = σ := by
  refine foldl_eq_self fun k hk => ?_
  rw [State.recordDnskeyOrigin, if_pos (h k hk)]

namespace Deployment

open Sync.Dnskeys (withdrawn missing)

variable {ω : Type} {n : Deployment ω} {start s t u : Session ω} {m : Member}

/-- It is known of every shared key where it comes from. -/
def OriginsKnown (n : Deployment ω) (s : Session ω) : Prop :=
  ∀ m ∈ n.members, ∀ k, n.Shows s m (.dnskey k) → m.shares k = true →
    s.state.dnskeyOrigin.contains k.fingerprint = true

theorem OriginsKnown.keyOrigins_eq (h : n.OriginsKnown s) : n.keyOrigins s = s.state := by
  refine foldl_eq_self fun v hv => Sync.Dnskeys.recordOrigins_eq_self fun k hk => ?_
  obtain ⟨m, hm, rfl⟩ := mem_views.1 hv
  obtain ⟨hshow, hshares⟩ := (mem_syncedKeys_view (by decide)).1 hk
  exact h m hm k hshow hshares

/-- Where shared keys come from is known once keys were brought in line. -/
theorem KeysInLine.known (h : n.KeysInLine start s) (hm : m ∈ n.members) {k : Dnskey}
    (hk : n.Shows start m (.dnskey k)) (hshares : m.shares k = true) :
    s.state.dnskeyOrigin.contains k.fingerprint = true := by
  have hfound : (n.members.find? (n.sharesPrint start k.fingerprint)).isSome = true :=
    List.find?_isSome.2 ⟨m, hm, sharesPrint_iff.2 ⟨k, hk, hshares, rfl⟩⟩
  rw [OrderedMap.contains, h.origins, originAfter, Option.isSome_or, Option.isSome_map, hfound,
    Bool.or_true]

/-- Of keys that are in line it is known where they come from. -/
theorem KeysInLine.originsKnown (h : n.KeysInLine start s) : n.OriginsKnown s := by
  intro m hm k hk hshares
  -- the key was shared at the start, by this signer or by the one it was taken from
  cases hleaving : m.signer.leaving with
  | true => exact h.known hm ((h.leaving m ⟨hm, hleaving⟩ k).1 hk) hshares
  | false =>
    rcases ((h.staying m ⟨hm, hleaving⟩ k).1 hk).2 with hold | ⟨-, x, hx, hkx, hsharesx⟩
    · exact h.known hm hold hshares
    · exact h.known hx.1 hkx hsharesx

/-! ## 2. Nothing left to do -/

/-- Nothing is missing if every shared key is at all signers that stay. -/
theorem missing_eq_nil {origins : OrderedMap String String}
    (hs : s.state.members n.zone = .ok n.members) (hm : n.Stays m)
    (hspread : ∀ x, n.Stays x → ∀ k, n.Shows s x (.dnskey k) → x.shares k = true →
      ∃ l, n.Shows s m (.dnskey l) ∧ l.publicKey = k.publicKey) :
    missing (n.views [.dnskey] s) origins (.viewOf [.dnskey] (n.records s m) m) = [] := by
  rw [List.eq_nil_iff_forall_not_mem]
  intro r hr
  have hkind := (within_dnskeys_plan (n.views [.dnskey] s) origins
    (.viewOf [.dnskey] (n.records s m) m)).inserts r hr
  rw [List.mem_singleton, Record.kind] at hkind
  cases hdata : r.data with
  | dnskey k =>
    obtain ⟨-, hlacks, x, hx, hshow, hshares⟩ :=
      (serves_missing hs hm).1 ⟨r, hr, by rw [hdata]; exact BEq.rfl⟩
    obtain ⟨l, hl, hbytes⟩ := hspread x hx k hshow hshares
    exact hlacks l hl hbytes
  | cdnskey _ | ds _ | cds _ | ns _ | soa _ | csync _ =>
    rw [hdata] at hkind
    cases hkind

/-- Keys that are in line need no change. -/
theorem KeysInLine.idle (h : n.KeysInLine start s) (hone : n.OneAlgorithm start)
    (hs : s.state.members n.zone = .ok n.members) :
    ∀ p ∈ n.keyPlans s, p.changes.isEmpty = true := by
  have hshared := h.shared hone
  have horigins := h.originsKnown.keyOrigins_eq
  intro p hp
  obtain ⟨v, hv, rfl⟩ := List.mem_map.1 hp
  obtain ⟨m, hm, rfl⟩ := mem_staying_views.1 hv
  rw [horigins]
  have hremoves : withdrawn (n.views [.dnskey] s) s.state.dnskeyOrigin
      (.viewOf [.dnskey] (n.records s m) m) = [] := by
    rw [List.eq_nil_iff_forall_not_mem]
    intro k hk
    obtain ⟨hshow, hdeparted⟩ := mem_withdrawn.1 hk
    exact ((h.staying m hm k).1 hshow).1 hdeparted
  have hinserts : missing (n.views [.dnskey] s) s.state.dnskeyOrigin
      (.viewOf [.dnskey] (n.records s m) m) = [] :=
    missing_eq_nil hs hm fun x hx k hk hshares => hshared.spread x hx k hk hshares m hm
  simp only [Sync.Dnskeys.plan, hremoves, hinserts]
  rfl

/-! ## 3. Syncing -/

/-- **What syncing keys plans**, and what it makes of the document. -/
theorem Answering.planned_syncDnskeys (hn : n.Answering) (hs : n.Present s)
    {r : Except Error (List Plan)}
    (h : (planning n.zone .syncDnskeys).perform n.outside s = (r, u)) :
    (u.state = s.state ∨ u.state = n.keyOrigins s) ∧
      ∀ plans, r = .ok plans → plans = n.keyPlans s ∧ n.holds u.world = n.holds s.world ∧
        u.state = n.keyOrigins s ∧ n.TagsTold s (n.keyOrigins s).dnskeyOrigin := by
  rw [planning, perform_bind] at h
  rcases hviews : (observeGroup n.zone [.dnskey]).perform n.outside s with ⟨e | vs, v⟩
  · rw [hviews] at h
    cases h
    exact ⟨.inl ((quiet_observeGroup _ _).state_eq hviews), fun plans hr => by cases hr⟩
  · obtain ⟨rfl, hv⟩ := hn.views hs hviews
    simp only [hviews, perform_bind, perform_modifyState, perform_state, perform_tell,
      perform_pure] at h
    have horigins : (n.views [.dnskey] s).foldl Sync.Dnskeys.recordOrigins v.state
        = n.keyOrigins s := by rw [hv.state, keyOrigins]
    rw [horigins] at h
    cases hfailure : Report.failure? (Sync.Dnskeys.withdrawalReport (n.views [.dnskey] s)
        (n.keyOrigins s).dnskeyOrigin
      ++ Sync.Dnskeys.offerReport (n.views [.dnskey] s) (n.keyOrigins s).dnskeyOrigin) with
    | some e =>
      simp only [hfailure] at h
      cases h
      exact ⟨.inr rfl, fun plans hr => by cases hr⟩
    | none =>
      simp only [hfailure] at h
      cases h
      refine ⟨.inr rfl, fun plans hr => ?_⟩
      cases hr
      exact ⟨rfl, hv.holds, rfl, sound_keyReport.1 (Report.sound_of_failure? hfailure)⟩

theorem perform_syncDnskeys : (Sync.Dnskeys.run n.zone).perform n.outside s
    = (planning n.zone .syncDnskeys >>= Push.push n.zone).perform n.outside s :=
  (perform_of_act (d := .joining) rfl).2

/-- **Syncing keys that succeeds brings them in line**, and sends something only to those who
stay. -/
theorem Truthful.syncDnskeys (hn : n.Truthful) (hs : n.Present s)
    (h : (Sync.Dnskeys.run n.zone).perform n.outside s = (.ok (), t)) :
    n.Present t ∧ n.KeysInLine s t ∧
      ∃ ds, t.deliveries = s.deliveries ++ ds ∧ ∀ d ∈ ds, ∃ m, n.Stays m ∧ d.IsFor m := by
  rw [perform_syncDnskeys, perform_bind_eq_ok] at h
  obtain ⟨plans, u, hplan, hpush⟩ := h
  obtain ⟨rfl, hholds, hstate, -⟩ := (hn.answering.planned_syncDnskeys hs hplan).2 plans rfl
  obtain ⟨hacted, hcarried⟩ := hn.acted hs hplan hholds keyPlans_members hpush
  have hline := hacted.keysInLine hn.apart hs.members ((Push.state_of_push hpush).trans hstate)
  refine ⟨hacted.present hs, hline, exists_of_carried hcarried fun p hp => ?_⟩
  obtain ⟨v, hv, rfl⟩ := List.mem_map.1 hp
  obtain ⟨m, hm, rfl⟩ := mem_staying_views.1 hv
  rw [Sync.Dnskeys.plan, SignerView.member_viewOf]
  exact hm

/-- **Keys that are in line are found synced.** -/
theorem KeysInLine.checked (h : n.KeysInLine start s) (hone : n.OneAlgorithm start)
    (hn : n.Truthful) (hs : n.Present s) {f : SyncFlags}
    (hcheck : (Status.check n.zone).perform n.outside s = (.ok f, t)) : f.dnskeys = true := by
  obtain ⟨p, hflags, -⟩ := hn.answering.checked hs hcheck
  exact (Evaluation.get_iff hflags .dnskeys).2 (h.shared hone).synced

/-- **Syncing keys that are in line does nothing**, whether it succeeds or not. -/
theorem KeysInLine.resynced (h : n.KeysInLine start s) (hone : n.OneAlgorithm start)
    (hn : n.Truthful) (hs : n.Present s) {r : Except Error Unit}
    (hsync : (Sync.Dnskeys.run n.zone).perform n.outside s = (r, t)) :
    t.deliveries = s.deliveries ∧ t.state = s.state := by
  rw [perform_syncDnskeys] at hsync
  obtain ⟨hsent, x, hplan⟩ := idle_of_planning (fun plans u hplan => by
    obtain ⟨rfl, -⟩ := (hn.answering.planned_syncDnskeys hs hplan).2 plans rfl
    exact h.idle hone hs.members) hsync
  refine ⟨hsent, ?_⟩
  rcases (hn.answering.planned_syncDnskeys hs hplan).1 with hstate | hstate
  · exact hstate
  · rw [hstate, h.originsKnown.keyOrigins_eq]

/-- **Syncing keys converges.**  If it succeeds, the keys are in line, nothing was sent to a signer
that is leaving, a check that succeeds later on finds the keys synced, and another sync sends nothing
and leaves the document as it is. -/
theorem keys_converge (hn : n.Truthful) (hs : n.Present s) (hone : n.OneAlgorithm s)
    (h : (Sync.Dnskeys.run n.zone).perform n.outside s = (.ok (), t)) :
    n.KeysInLine s t ∧
    (∃ ds, t.deliveries = s.deliveries ++ ds ∧ ∀ d ∈ ds, ∃ m, n.Stays m ∧ d.IsFor m) ∧
    ∀ u, n.Resumes t u →
      (∀ f v, (Status.check n.zone).perform n.outside u = (.ok f, v) → f.dnskeys = true) ∧
      ∀ r v, (Sync.Dnskeys.run n.zone).perform n.outside u = (r, v) →
        v.deliveries = u.deliveries ∧ v.state = u.state := by
  obtain ⟨hpresent, hline, hsent⟩ := hn.syncDnskeys hs h
  refine ⟨hline, hsent, fun u hu => ?_⟩
  have hlater : n.KeysInLine s u := hline.congr hu.origins (hu.agree .dnskey)
  exact ⟨fun f v hcheck => hlater.checked hone hn (hu.present hpresent) hcheck,
    fun r v hsync => hlater.resynced hone hn (hu.present hpresent) hsync⟩

end Deployment

namespace Sample

open Deployment

/-- The second signer has a key of the third one, which is leaving. -/
def keyServers : List (String × List Record) :=
  [holding 'a' [walkKey true [1], walkKey false [2]],
    holding 'b' [walkKey false [3], walkKey false [9]], holding 'c' [walkKey false [9]], ("p", [])]

/-- A session in which it is known whose key that is. -/
def unsyncedKeys : Session Rehearsal.World :=
  { departure walkers keyServers with
    state := { departing walkers with
      dnskeyOrigin := .ofList [((walkKey false [9]).fingerprint, "c")] } }

/-- What syncing keys does to a session. -/
def syncingKeys (s : Session Rehearsal.World) : Except Error Unit × Session Rehearsal.World :=
  (Sync.Dnskeys.run (deployment walkers).zone).perform (deployment walkers).outside s

/-- The keys of the sample group converge. -/
theorem keys_converge_for_walkers :
    (syncingKeys unsyncedKeys).1 = .ok () ∧
      (deployment walkers).KeysInLine unsyncedKeys (syncingKeys unsyncedKeys).2 ∧
      ∀ r v, syncingKeys (syncingKeys unsyncedKeys).2 = (r, v) →
        v.deliveries = (syncingKeys unsyncedKeys).2.deliveries := by
  have hn : (deployment walkers).Truthful := truthful (by decide +kernel) (by decide +kernel)
  have hs : (deployment walkers).Present unsyncedKeys :=
    present (by decide +kernel) (by decide +kernel)
  have hone : (deployment walkers).OneAlgorithm unsyncedKeys :=
    (workable_of_views (by decide +kernel) (by decide +kernel)).algorithms
  have hok : (syncingKeys unsyncedKeys).1 = .ok () := by decide +kernel
  unfold syncingKeys at hok ⊢
  obtain ⟨hline, -, hlater⟩ := keys_converge hn hs hone (perform_of_fst hok)
  refine ⟨hok, hline, fun r v hv => ?_⟩
  exact ((hlater _ (.refl _)).2 r v hv).1

end Sample
end MultiSigner
