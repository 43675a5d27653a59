/-
# Origins that planning notes

Planning to bring keys or name servers in line notes in the document where they were seen first, and
only then are the targets of the updates looked up.  So an operation that is refused because a signer
can not be sent updates may leave a changed document.  How it is changed is said exactly: the
document is the one found but for the origins of records that were just observed and had none
(`noted`), and it is the one found just if every observed record had one before
(`noted_eq_self_iff`).

A signer without an address is an exception.  It can not be observed, so the operation is refused
before anything is noted (`state_of_missingAddress`).  To see this, `Fails o P op` says that the
operation fails only with errors of a kind, and follows the text of operations as footprints do.
-/
import MultiSigner.Proofs.Convergence.Keys
import MultiSigner.Proofs.Integrity.Reachable
import MultiSigner.Proofs.Targets

namespace MultiSigner

open Operation Automation

variable {ω α β : Type} {o : Outside ω} {s t : Session ω} {zone : DomainName} {a : Activity}

/-! ## 1. What is noted -/

namespace State

theorem get?_recordNsOrigin (σ : State) (ns : DomainName) (name : String) (other : DomainName) :
    (σ.recordNsOrigin ns name).2.nsOrigin.get? other
      = (σ.nsOrigin.get? other).or (if compare other ns = .eq then some name else none) := by
  have hrecord : (σ.recordNsOrigin ns name).2.nsOrigin
      = if σ.nsOrigin.contains ns then σ.nsOrigin else σ.nsOrigin.insert ns name := by
    unfold recordNsOrigin
    split <;> rfl
  rw [hrecord, OrderedMap.get?_insertNew]

theorem get?_recordNames (other : DomainName) (name : String) : ∀ (names : List DomainName)
    (σ : State), (names.foldl (fun s n => (s.recordNsOrigin n name).2) σ).nsOrigin.get? other
      = (σ.nsOrigin.get? other).or
        (if names.any (fun n => compare other n == .eq) then some name else none)
  | [], σ => by simp
  | n :: names, σ => by
    rw [List.foldl_cons, get?_recordNames other name names, get?_recordNsOrigin, Option.or_assoc]
    by_cases hn : compare other n = .eq <;> simp [hn]

/-- A name keeps its origin; a new one comes from the first signer that serves it. -/
theorem get?_nsOrigins (other : DomainName) : ∀ (views : List SignerView) (σ : State),
    (views.foldl Sync.Nameservers.recordOrigins σ).nsOrigin.get? other
      = (σ.nsOrigin.get? other).or
        ((views.find? fun v => v.ns.any fun n => compare other n == .eq).map SignerView.name)
  | [], σ => by simp
  | v :: views, σ => by
    rw [List.foldl_cons, get?_nsOrigins other views, Sync.Nameservers.recordOrigins,
      get?_recordNames, Option.or_assoc]
    cases hany : v.ns.any fun n => compare other n == .eq <;> simp [hany]

end State

namespace Automation

/-- The document after the origins of what was observed are noted. -/
def noted : Activity → List SignerView → State → State
  | .syncDnskeys, views, s => views.foldl Sync.Dnskeys.recordOrigins s
  | .syncNs, views, s => views.foldl Sync.Nameservers.recordOrigins s
  | _, _, s => s

/-- Every record that an activity would note an origin of has one. -/
def Known : Activity → State → SignerView → Prop
  | .syncDnskeys, s, v => ∀ k ∈ v.syncedKeys, s.dnskeyOrigin.contains k.fingerprint = true
  | .syncNs, s, v => ∀ n ∈ v.ns, s.nsOrigin.contains n = true
  | _, _, _ => True

theorem withoutOrigins_noted (a : Activity) (views : List SignerView) (σ : State) :
    (noted a views σ).withoutOrigins = σ.withoutOrigins := by
  cases a with
  | syncDnskeys => exact withoutOrigins_dnskeyOrigins views σ
  | syncNs => exact withoutOrigins_nsOrigins views σ
  | _ => rfl

/-- Noting where keys were seen leaves the origins of names alone. -/
theorem nsOrigin_dnskeyOrigins (views : List SignerView) (σ : State) :
    (views.foldl Sync.Dnskeys.recordOrigins σ).nsOrigin = σ.nsOrigin := by
  have hkey : ∀ (τ : State) (print name : String),
      (τ.recordDnskeyOrigin print name).2.nsOrigin = τ.nsOrigin := fun τ print name => by
    unfold State.recordDnskeyOrigin
    split <;> rfl
  refine List.foldlRecOn (motive := fun τ : State => τ.nsOrigin = σ.nsOrigin) views _ rfl
    fun τ hτ v _ => List.foldlRecOn (motive := fun τ : State => τ.nsOrigin = σ.nsOrigin) v.syncedKeys
      _ hτ fun τ hτ k _ => ?_
  rw [hkey, hτ]

/-- **What is known stays known.** -/
theorem dnskeyOrigin_noted {views : List SignerView} {σ : State} {print name : String}
    (h : σ.dnskeyOrigin.get? print = some name) :
    (noted a views σ).dnskeyOrigin.get? print = some name := by
  cases a with
  | syncDnskeys =>
    rw [noted, Deployment.get?_recordOrigins, h, Option.some_or]
  | syncNs =>
    rw [noted, dnskeyOrigin_nsOrigins]
    exact h
  | _ => exact h

theorem nsOrigin_noted {views : List SignerView} {σ : State} {ns : DomainName} {name : String}
    (h : σ.nsOrigin.get? ns = some name) :
    (noted a views σ).nsOrigin.get? ns = some name := by
  cases a with
  | syncDnskeys =>
    rw [noted, nsOrigin_dnskeyOrigins]
    exact h
  | syncNs =>
    rw [noted, State.get?_nsOrigins, h, Option.some_or]
  | _ => exact h

/-- **Nothing is noted just if everything is known.** -/
theorem noted_eq_self_iff (a : Activity) (views : List SignerView) (σ : State) :
    noted a views σ = σ ↔ ∀ v ∈ views, Known a σ v := by
  cases a with
  | syncDnskeys =>
    refine ⟨fun h v hv k hk => ?_, fun h => foldl_eq_self fun v hv =>
      Sync.Dnskeys.recordOrigins_eq_self (h v hv)⟩
    have hfound : (views.find? fun v => v.syncedKeys.any fun l =>
        l.fingerprint == k.fingerprint).isSome = true :=
      List.find?_isSome.2 ⟨v, hv, List.any_eq_true.2 ⟨k, hk, beq_iff_eq.2 rfl⟩⟩
    have hget := Deployment.get?_recordOrigins k.fingerprint views σ
    rw [show views.foldl Sync.Dnskeys.recordOrigins σ = σ from h] at hget
    rw [OrderedMap.contains, hget, Option.isSome_or, Option.isSome_map, hfound, Bool.or_true]
  | syncNs =>
    refine ⟨fun h v hv n hn => ?_, fun h => foldl_eq_self fun v hv => foldl_eq_self fun n hn => ?_⟩
    · have hfound : (views.find? fun v => v.ns.any fun m => compare n m == .eq).isSome = true :=
        List.find?_isSome.2 ⟨v, hv, List.any_eq_true.2
          ⟨n, hn, beq_iff_eq.2 Std.ReflCmp.compare_self⟩⟩
      have hget := State.get?_nsOrigins n views σ
      rw [show views.foldl Sync.Nameservers.recordOrigins σ = σ from h] at hget
      rw [OrderedMap.contains, hget, Option.isSome_or, Option.isSome_map, hfound, Bool.or_true]
    · rw [State.recordNsOrigin, if_pos (h v hv n hn)]
  | _ => exact ⟨fun _ _ _ => trivial, fun _ => rfl⟩

/-- The members of a group are those of a group. -/
theorem group_of_members {σ : State} {members : List Member} (h : σ.members zone = .ok members) :
    ∃ g, σ.group zone = .ok g := by
  obtain ⟨g, hg, -⟩ := State.members_eq_ok.1 h
  exact ⟨g, State.group_eq_ok.2 hg⟩

/-- **What planning leaves**: the document with the origins of what was observed, or the one found
if observing failed. -/
theorem state_of_planning {r : Except Error (List Plan)}
    (h : (planning zone a).perform o s = (r, t)) :
    t.state = match (observeGroup zone (touched a)).perform o s with
      | (.ok views, _) => noted a views s.state
      | (.error _, _) => s.state := by
  by_cases hkeys : a = .syncDnskeys
  · subst hkeys
    rw [planning, perform_bind] at h
    simp only [touched]
    rcases hviews : (observeGroup zone [.dnskey]).perform o s with ⟨e | views, u⟩
    all_goals
      have hu := (quiet_observeGroup zone [.dnskey]).state_eq hviews
      rw [hviews] at h
    · cases h
      exact hu
    · have hrest : Quiet (do
          let origins := (← state).dnskeyOrigin
          tell (Sync.Dnskeys.withdrawalReport views origins
            ++ Sync.Dnskeys.offerReport views origins)
          return Sync.Dnskeys.plans views origins : Operation ω (List Plan)) :=
        leaves_bind leaves_state fun _ => leaves_bind (quiet_tell _) fun _ => leaves_pure _
      simp only at h
      rw [perform_bind, perform_modifyState] at h
      rw [← hu]
      exact hrest.state_eq h
  by_cases hnames : a = .syncNs
  · subst hnames
    rw [planning, perform_bind] at h
    simp only [touched]
    rcases hviews : (observeGroup zone [.ns]).perform o s with ⟨e | views, u⟩
    all_goals
      have hu := (quiet_observeGroup zone [.ns]).state_eq hviews
      rw [hviews] at h
    · cases h
      exact hu
    · obtain ⟨g, hg⟩ := group_of_members (members_of_observeGroup hviews)
      simp only [perform_bind, perform_state, perform_lift, hu, hg, perform_modifyState,
        perform_lines, perform_pure] at h
      cases h
      rfl
  · rw [(quiet_planning zone hkeys hnames).state_eq h]
    split
    · cases a <;> first | exact absurd rfl hkeys | exact absurd rfl hnames | rfl
    · rfl

end Automation

/-! ## 2. What operations fail with -/

namespace Operation

/-- The operation fails only with errors of a kind. -/
def Fails (o : Outside ω) (P : Error → Prop) (op : Operation ω α) : Prop :=
  ∀ s e t, op.perform o s = (.error e, t) → P e

section Fails

variable {P : Error → Prop}

theorem fails_pure (a : α) : Fails o P (pure a : Operation ω α) := fun _ _ _ h => by cases h

theorem fails_throw {e : Error} (h : P e) : Fails o P (throw e : Operation ω α) :=
  fun _ _ _ hp => by
    cases hp
    exact h

theorem fails_lift {r : Except Error α} (h : ∀ e, r = .error e → P e) :
    Fails o P (liftM r : Operation ω α) := fun s e t hp => by
  rw [perform_lift] at hp
  cases hp
  exact h e rfl

theorem fails_state : Fails o P (state : Operation ω State) := fun _ _ _ h => by cases h

theorem fails_line (text : String) : Fails o P (line text : Operation ω Unit) :=
  fun _ _ _ h => by cases h

theorem fails_bind {op : Operation ω α} {f : α → Operation ω β} (h : Fails o P op)
    (k : ∀ a, Fails o P (f a)) : Fails o P (op >>= f) := fun s e t hp => by
  rw [perform_bind] at hp
  rcases hop : op.perform o s with ⟨e' | a, m⟩
  · rw [hop] at hp
    cases hp
    exact h s e t hop
  · rw [hop] at hp
    exact k a m e t hp

/-- What is done with the outside is done with this one. -/
theorem fails_read_bind {f : Outside ω → Operation ω α} (h : Fails o P (f o)) :
    Fails o P (read >>= f) := fun s e t hp => by
  rw [perform_bind, perform_read] at hp
  exact h s e t hp

theorem fails_ite {c : Prop} [Decidable c] {op₁ op₂ : Operation ω α} (h₁ : Fails o P op₁)
    (h₂ : Fails o P op₂) : Fails o P (if c then op₁ else op₂) := by
  split
  · exact h₁
  · exact h₂

theorem fails_mapM {f : α → Operation ω β} :
    ∀ {l : List α}, (∀ a ∈ l, Fails o P (f a)) → Fails o P (l.mapM f)
  | [], _ => by
    rw [List.mapM_nil]
    exact fails_pure []
  | a :: l, h => by
    rw [List.mapM_cons]
    exact fails_bind (h a List.mem_cons_self) fun b => fails_bind
      (fails_mapM fun c hc => h c (List.mem_cons_of_mem _ hc)) fun bs => fails_pure (b :: bs)

theorem fails_forM {f : α → Operation ω PUnit} (h : ∀ a, Fails o P (f a)) :
    ∀ l : List α, Fails o P (l.forM f)
  | [] => fails_pure _
  | a :: l => fails_bind (h a) fun _ => fails_forM h l

end Fails

end Operation

/-! ## 3. Addresses that are missing -/

/-- The failure does not say that an address is missing. -/
def Error.Located (e : Error) : Prop :=
  ∀ name, e ≠ .missingAddress name

/-- Updaters do not say that addresses are missing. -/
structure Outside.Located (o : Outside ω) : Prop where
  check : ∀ {kind u e}, o.updater kind = some u → u.check = .error e → e.Located
  apply : ∀ {kind u x w e}, o.updater kind = some u → (u.apply x w).outcome = .error e → e.Located

theorem Outside.Located.updaterFor (ho : o.Located) {kind : UpdaterKind} {e : Error}
    (h : o.updaterFor kind = .error e) : e.Located := by
  unfold Outside.updaterFor at h
  split at h
  · cases h
    exact nofun
  · rename_i v hv
    cases hcheck : v.check with
    | error e' =>
      rw [hcheck] at h
      cases h
      exact ho.check hv hcheck
    | ok _ =>
      rw [hcheck] at h
      cases h

namespace Push

theorem fails_checkMember (ho : o.Located) {m : Member} (hm : m.signer.address.isEmpty = false) :
    Fails o Error.Located (checkMember m : Operation ω Unit) := by
  refine fails_bind (fails_lift fun e he => ?_) fun _ => fails_read_bind ?_
  · rw [checkAddress, hm] at he
    cases he
  · exact fails_bind (fails_lift fun _ he => ho.updaterFor he) fun _ => fails_pure _

theorem fails_resolve (ho : o.Located) {p : Plan} (hp : p.member.signer.address.isEmpty = false) :
    Fails o Error.Located (resolve p : Operation ω (Option (Plan × UpdateTarget))) := by
  refine fails_bind (fails_checkMember ho hp) fun _ => fails_bind fails_state fun s => ?_
  split
  · exact fails_pure _
  · exact fails_bind (fails_line _) fun _ => fails_pure _

theorem fails_send (ho : o.Located) (q : Plan × UpdateTarget) :
    Fails o Error.Located (send zone q : Operation ω Unit) := by
  intro s e t h
  rcases reply_of_send h with ⟨-, e', he', herror⟩ | ⟨u, hu, herror, -⟩
  · cases herror
    exact ho.updaterFor he'
  · exact ho.apply (updater_of_updaterFor hu) herror

/-- **A push finds all addresses** if every plan is for a signer that has one. -/
theorem fails_push (ho : o.Located) {plans : List Plan}
    (hplans : ∀ p ∈ plans, p.member.signer.address.isEmpty = false) :
    Fails o Error.Located (push zone plans : Operation ω Unit) := by
  refine fails_bind (fails_bind (fails_mapM fun p hp => ?_) fun _ => ?_)
    fun found => fails_forM (fails_send ho) found
  · exact fails_resolve ho (hplans p (List.mem_filter.1 hp).1)
  · exact fails_ite (fails_bind (fails_throw nofun) fun _ => fails_pure _) (fails_pure _)

end Push

namespace Report

theorem error_mem_of_failure? {e : Error} : ∀ {r : Report α}, failure? r = some e → .error e ∈ r
  | .error e' :: r, h => by
    cases h
    exact List.mem_cons_self
  | .ok _ :: r, h => List.mem_cons_of_mem _ (error_mem_of_failure? (r := r) h)

/-- Only tags fail, and only for want of room. -/
theorem eq_dns_of_mem_withTag {k : Dnskey} {f : UInt16 → List α} {e : Error}
    (h : .error e ∈ withTag k f) : e = .dns := by
  rw [withTag] at h
  split at h
  · rename_i e' he'
    rw [List.mem_singleton] at h
    cases h
    rw [Dnskey.keyTag] at he'
    split at he'
    · cases he'
      rfl
    · cases he'
  · obtain ⟨_, -, h⟩ := List.mem_map.1 h
    cases h

end Report

namespace Automation

theorem fails_tell {P : Error → Prop} {r : Report String} (h : ∀ e, .error e ∈ r → P e) :
    Fails o P (tell r : Operation ω Unit) := fun s e t hp => by
  rw [perform_tell] at hp
  split at hp
  · cases hp
  · rename_i e' he'
    cases hp
    exact h e (Report.error_mem_of_failure? he')

/-- Reporting on keys fails only for want of room. -/
theorem fails_keyReport {P : Error → Prop} (hdns : P .dns) (views : List SignerView)
    (origins : OrderedMap String String) :
    Fails o P (tell (Sync.Dnskeys.withdrawalReport views origins
      ++ Sync.Dnskeys.offerReport views origins) : Operation ω Unit) := by
  refine fails_tell fun e h => ?_
  suffices he : e = .dns by
    rw [he]
    exact hdns
  rcases List.mem_append.1 h with h | h
  · rcases List.mem_append.1 h with h | h
    · obtain ⟨_, -, h⟩ := List.mem_map.1 h
      cases h
    · obtain ⟨v, -, h⟩ := List.mem_flatMap.1 h
      obtain ⟨k, -, h⟩ := List.mem_flatMap.1 h
      exact Report.eq_dns_of_mem_withTag h
  · obtain ⟨v, -, h⟩ := List.mem_flatMap.1 h
    rcases List.mem_cons.1 h with h | h
    · cases h
    · obtain ⟨k, -, h⟩ := List.mem_flatMap.1 h
      exact Report.eq_dns_of_mem_withTag h

/-- Planning that is refused for a missing address has noted nothing. -/
theorem state_of_unplanned {name : String}
    (h : (planning zone a).perform o s = (.error (.missingAddress name), t)) :
    t.state = s.state := by
  rw [state_of_planning h]
  split
  · rename_i views u hviews
    cases a with
    | syncDnskeys =>
      have hdns : Error.dns.Located := fun _ h => by cases h
      rw [planning, perform_bind] at h
      rw [touched] at hviews
      rw [hviews] at h
      refine absurd rfl (fails_bind (P := Error.Located) (fun _ _ _ h => by cases h) (fun _ =>
        fails_bind fails_state fun σ => fails_bind (fails_keyReport hdns views σ.dnskeyOrigin)
          fun _ => fails_pure _) u _ t h name)
    | syncNs =>
      rw [planning, perform_bind] at h
      rw [touched] at hviews
      obtain ⟨g, hg⟩ := group_of_members (members_of_observeGroup hviews)
      have hu := (quiet_observeGroup zone [.ns]).state_eq hviews
      simp only [hviews, perform_bind, perform_state, perform_lift, hu, hg, perform_modifyState,
        perform_lines, perform_pure, Prod.mk.injEq, reduceCtorEq, false_and] at h
    | _ => rfl
  · rfl

/-- What planning and pushing leaves: a push leaves the document as it is. -/
theorem state_of_run {r : Except Error Unit}
    (h : (planning zone a >>= Push.push zone).perform o s = (r, t)) :
    t.state = match (observeGroup zone (touched a)).perform o s with
      | (.ok views, _) => noted a views s.state
      | (.error _, _) => s.state := by
  rw [perform_bind] at h
  rcases hplans : (planning zone a).perform o s with ⟨e | plans, m⟩
  · rw [hplans] at h
    cases h
    exact state_of_planning hplans
  · rw [hplans] at h
    rw [Push.state_of_push h, state_of_planning hplans]

/-- **An operation that is refused for a missing address leaves the document alone.** -/
theorem state_of_missingAddress (ho : o.Located) {name : String}
    (h : (planning zone a >>= Push.push zone).perform o s = (.error (.missingAddress name), t)) :
    t.state = s.state := by
  rw [perform_bind] at h
  rcases hplans : (planning zone a).perform o s with ⟨e | plans, m⟩
  · rw [hplans] at h
    cases h
    exact state_of_unplanned hplans
  · rw [hplans] at h
    rw [Push.state_of_push h, state_of_planning hplans]
    split
    · rename_i views u hviews
      -- who was observed has an address, so it is not the push that fails
      refine absurd rfl (Push.fails_push ho (fun p hp => ?_) m _ t h name)
      obtain ⟨members, hmembers, hmember⟩ := member_of_planning hplans (List.ne_nil_of_mem hp)
      obtain rfl : views.map SignerView.member = members :=
        Except.ok.inj ((members_of_observeGroup hviews).symm.trans hmembers)
      obtain ⟨v, hv, hvp⟩ := List.mem_map.1 (hmember p hp)
      rw [← hvp]
      exact address_of_observeGroup hviews v hv
    · rfl

end Automation

/-! ## 4. Commands that are refused -/

/-- **What one of the six commands leaves in the document**, also if it is refused because a signer
has no usable credential or can not be updated; the network does anything.

1. But for origins the document is the one found, and no origin changes that was there.
2. It is the one found just if the command observed no record, of those whose origins it notes, that
   had none.  Only bringing keys and name servers in line notes any.
3. It is the one found if the command is refused for a missing address. -/
theorem origins_noted (c : Controller ω) (e : Deed ω) {args : List String} {cmd : Command}
    (ha : e.action = .command args) (hp : Command.parse c.mode args = .ok cmd)
    (hcmd : cmd.pushes? = some (zone, a)) :
    ((e.after c).state.withoutOrigins = e.before.state.withoutOrigins ∧
      (∀ print name, e.before.state.dnskeyOrigin.get? print = some name →
        (e.after c).state.dnskeyOrigin.get? print = some name) ∧
      ∀ ns name, e.before.state.nsOrigin.get? ns = some name →
        (e.after c).state.nsOrigin.get? ns = some name) ∧
    ((e.after c).state = e.before.state ↔ ∀ views t,
      (observeGroup zone (touched a)).perform c.outside e.before = (.ok views, t) →
        ∀ v ∈ views, Known a e.before.state v) ∧
    ∀ name, c.outside.Located →
      (cmd.run.perform c.outside e.before).1 = .error (.missingAddress name) →
        (e.after c).state = e.before.state := by
  rcases hrun : cmd.run.perform c.outside e.before with ⟨r, t⟩
  have hafter : (e.after c).state = t.state := by
    rw [(Session.lasting_eq_iff.1 (Deed.lasting_of_parsed ha hp)).1, hrun]
  rw [(Command.perform_run_of_pushes hcmd).2] at hrun
  have hstate := state_of_run hrun
  refine ⟨?_, ?_, fun name ho hfail => ?_⟩
  · rw [hafter, hstate]
    split
    · exact ⟨withoutOrigins_noted a _ _, fun _ _ => dnskeyOrigin_noted, fun _ _ => nsOrigin_noted⟩
    · exact ⟨rfl, fun _ _ => id, fun _ _ => id⟩
  · rw [hafter, hstate]
    split
    · rename_i views u hviews
      rw [noted_eq_self_iff]
      refine ⟨fun h views' u' hviews' => ?_, fun h => h views u hviews⟩
      cases hviews.symm.trans hviews'
      exact h
    · rename_i failure u hfailed
      refine ⟨fun _ views u' hviews => ?_, fun _ => rfl⟩
      cases hfailed.symm.trans hviews
  · rw [hafter]
    cases hfail
    exact state_of_missingAddress ho hrun

namespace Sample

/-- The first signer has no credential, so its names can not be brought in line.  The document tells
where they were seen all the same. -/
theorem origins_noted_of_firstSync :
    ((Command.syncNs Sample.zone).run.perform outside firstSync.before).1
        = .error (.signersMisconfigured 1) ∧
      (firstSync.after controller).state.withoutOrigins = firstSync.before.state.withoutOrigins ∧
      (firstSync.after controller).state ≠ firstSync.before.state := by
  have hparse : Command.parse controller.mode ["sync-ns", "x."] = .ok (.syncNs Sample.zone) := by
    decide +kernel
  have h := origins_noted controller firstSync rfl hparse rfl
  exact ⟨by decide +kernel, h.1.1, by decide +kernel⟩

end Sample
end MultiSigner
