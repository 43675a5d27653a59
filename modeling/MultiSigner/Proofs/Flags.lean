/-
# Stored flags are those of the last check

A check forgets the flags of its group before the first question and stores new ones after the last
answer.  Whatever goes wrong in between, no flag outlives it.

What the network tells is said apart from what the check makes of it.  `Outside.Told` is a server
that answers every question, `Outside.Untold` one that has no address or leaves a question without an
answer, and `Status.Answered` and `Status.Unanswered` put them together for all members, one after
the other, and then the parent.  `Status.Checks` takes one check apart, however it goes, by induction
on the members and on the kinds of records.

Main statement: `Status.flags_of_check`.
-/
import MultiSigner.Proofs.Checks
import MultiSigner.Proofs.Waiting

namespace MultiSigner

open Operation

variable {ω : Type} {o : Outside ω} {s t : Session ω} {zone : DomainName} {w w' : ω}

/-! ## 1. Keys without a tag -/

theorem Report.mem_of_failure? {α : Type} {e : Error} :
    ∀ {r : Report α}, Report.failure? r = some e → .error e ∈ r
  | .error _ :: _, h => by
    cases h
    exact List.mem_cons_self
  | .ok _ :: _, h => List.mem_cons_of_mem _ (Report.mem_of_failure? h)

theorem Report.error_mem_cons_ok {α : Type} {a : α} {e : Error} {r : Report α} :
    .error e ∈ (.ok a :: r : Report α) ↔ .error e ∈ r := by
  rw [List.mem_cons, or_iff_right (by simp)]

theorem Report.keyTag_of_mem_withTag {α : Type} {e : Error} {k : Dnskey} {f : UInt16 → List α}
    (h : .error e ∈ Report.withTag k f) : k.keyTag = .error e := by
  rw [Report.withTag] at h
  split at h
  · rename_i htag
    cases List.mem_singleton.1 h
    exact htag
  · obtain ⟨_, -, h⟩ := List.mem_map.1 h
    cases h

/-- An evaluation fails only for a key whose tag can not be computed. -/
theorem Evaluation.keyTag_of_flags {views : List SignerView} {parent : ParentView}
    {origins : OrderedMap String String} {e : Error}
    (h : (Evaluation.ofViews zone views parent origins).flags = .error e) :
    ∃ v ∈ views, ∃ k ∈ v.dnskeys, k.keyTag = .error e := by
  rw [ofViews] at h
  split at h
  · rename_i hfails
    cases h
    rcases List.mem_append.1 (Report.mem_of_failure? hfails) with hkeys | hcds
    · obtain ⟨v, hv, hkeys⟩ := List.mem_flatMap.1 hkeys
      split at hkeys
      · cases List.mem_singleton.1 hkeys
      · obtain ⟨k, hk, htag⟩ := List.mem_flatMap.1 (Report.error_mem_cons_ok.1 hkeys)
        exact ⟨v, hv, k, (List.mem_filter.1 hk).1, Report.keyTag_of_mem_withTag htag⟩
    · obtain ⟨_, -, hcds⟩ := List.mem_flatMap.1 hcds
      split at hcds
      · cases List.mem_singleton.1 hcds
      · obtain ⟨k, hk, htag⟩ := List.mem_flatMap.1 (Report.error_mem_cons_ok.1 hcds)
        obtain ⟨v, hv, hk⟩ := mem_activeKeys.1 hk
        exact ⟨v, (List.mem_filter.1 hv).1, k, (List.mem_filter.1 hk).1,
          Report.keyTag_of_mem_withTag htag⟩
  · cases h

/-! ## 2. One server -/

namespace Outside

/-- A server with an address is asked for records of some kinds, and answers every question. -/
inductive Told (o : Outside ω) (zone : DomainName) (address : String) (kinds : List RecordKind)
    (w : ω) : List Answer → ω → Prop
  | mk {as : List Answer} {w' : ω} (addressed : address.isEmpty = false)
      (answers : o.Answers zone (kinds.map fun kind => (address, kind)) w as w') :
      Told o zone address kinds w as w'

/-- A server has no address, or answers some questions and fails at the next one. -/
inductive Untold (o : Outside ω) (zone : DomainName) (address : String) (missing : Error)
    (kinds : List RecordKind) (w : ω) : Error → ω → Prop
  | unaddressed (empty : address.isEmpty = true) : Untold o zone address missing kinds w missing w
  | unanswered {asked rest : List RecordKind} {kind : RecordKind} {as : List Answer} {e : Error}
      {u w' : ω} (addressed : address.isEmpty = false) (split : kinds = asked ++ kind :: rest)
      (answers : o.Answers zone (asked.map fun kind => (address, kind)) w as u)
      (fails : o.query address zone kind u = (.error e, w')) :
      Untold o zone address missing kinds w e w'

/-- The members of a group are asked one after the other, and all of them answer. -/
inductive Observed (o : Outside ω) (zone : DomainName) :
    List Member → ω → List SignerView → ω → Prop
  | done (w : ω) : Observed o zone [] w [] w
  | member {m : Member} {members : List Member} {as : List Answer} {views : List SignerView}
      {w w' w'' : ω} (first : o.Told zone m.signer.address Status.signerKinds w as w')
      (later : Observed o zone members w' views w'') :
      Observed o zone (m :: members) w (as.foldl SignerView.absorb { member := m } :: views) w''

end Outside

section Server

variable {kinds : List RecordKind}

/-- **A server is asked for one kind of record after the other**, until it fails. -/
theorem answers_of_foldlM {V : Type} {absorb : V → Answer → V} {address : String}
    {r : Except Error V} {v : V}
    (hp : (kinds.foldlM (fun v kind => return absorb v (← query address zone kind)) v :
      Operation ω V).perform o s = (r, t)) :
    (∃ as, r = .ok (as.foldl absorb v) ∧
        o.Answers zone (kinds.map fun kind => (address, kind)) s.world as t.world) ∨
      ∃ e asked kind rest as u, r = .error e ∧ kinds = asked ++ kind :: rest ∧
        o.Answers zone (asked.map fun kind => (address, kind)) s.world as u ∧
        o.query address zone kind u = (.error e, t.world) := by
  induction kinds generalizing v s with
  | nil =>
    cases hp
    exact .inl ⟨[], rfl, .done _⟩
  | cons kind kinds ih =>
    rw [List.foldlM_cons, perform_bind, perform_bind, perform_query] at hp
    rcases hfirst : o.query address zone kind s.world with ⟨e | a, w⟩
    · rw [hfirst] at hp
      cases hp
      exact .inr ⟨e, [], kind, kinds, [], s.world, rfl, rfl, .done _, hfirst⟩
    · rw [hfirst] at hp
      rcases ih hp with ⟨as, rfl, hlater⟩ | ⟨e, asked, k, rest, as, u, rfl, rfl, hlater, hfails⟩
      · exact .inl ⟨a :: as, rfl, .ask hfirst hlater⟩
      · exact .inr ⟨e, kind :: asked, k, rest, a :: as, u, rfl, rfl, .ask hfirst hlater, hfails⟩

theorem told_of_observeSigner {m : Member} {r : Except Error SignerView}
    (hp : (observeSigner zone kinds m).perform o s = (r, t)) :
    (∃ as, r = .ok (as.foldl SignerView.absorb { member := m }) ∧
        o.Told zone m.signer.address kinds s.world as t.world) ∨
      ∃ e, r = .error e ∧
        o.Untold zone m.signer.address (.missingAddress m.name) kinds s.world e t.world := by
  rw [observeSigner, perform_bind, perform_lift, checkAddress] at hp
  cases haddress : m.signer.address.isEmpty with
  | true =>
    rw [haddress] at hp
    cases hp
    exact .inr ⟨_, rfl, .unaddressed haddress⟩
  | false =>
    rw [haddress] at hp
    rcases answers_of_foldlM hp with ⟨as, hr, hanswers⟩ | ⟨e, _, _, _, _, _, hr, hk, hanswers, hfails⟩
    · exact .inl ⟨as, hr, haddress, hanswers⟩
    · exact .inr ⟨e, hr, .unanswered haddress hk hanswers hfails⟩

theorem told_of_observeParent {g : Group} (hg : s.state.groups.get? zone = some g)
    {r : Except Error ParentView} (hp : (observeParent zone kinds).perform o s = (r, t)) :
    (∃ as, r = .ok (as.foldl ParentView.absorb {}) ∧
        o.Told zone g.parent kinds s.world as t.world) ∨
      ∃ e, r = .error e ∧
        o.Untold zone g.parent (.missingAddress s!"parent of {zone}") kinds s.world e t.world := by
  simp only [observeParent, parentAddress, perform_bind, perform_state, perform_lift,
    State.group_eq_ok.2 hg] at hp
  cases haddress : g.parent.isEmpty with
  | true =>
    rw [haddress] at hp
    cases hp
    exact .inr ⟨_, rfl, .unaddressed haddress⟩
  | false =>
    rw [haddress] at hp
    rcases answers_of_foldlM hp with ⟨as, hr, hanswers⟩ | ⟨e, _, _, _, _, _, hr, hk, hanswers, hfails⟩
    · exact .inl ⟨as, hr, haddress, hanswers⟩
    · exact .inr ⟨e, hr, .unanswered haddress hk hanswers hfails⟩

end Server

namespace Status

/-! ## 3. All of them -/

/-- Every member answers all questions, and then the parent does. -/
inductive Answered (zone : DomainName) (o : Outside ω) (s : Session ω) (members : List Member) :
    List SignerView → ParentView → ω → Prop
  | mk {views : List SignerView} {g : Group} {as : List Answer} {u w : ω}
      (signers : o.Observed zone members s.world views u)
      (group : s.state.groups.get? zone = some g)
      (parent : o.Told zone g.parent parentKinds u as w) :
      Answered zone o s members views (as.foldl ParentView.absorb {}) w

/-- Some members answer and the next one fails, or all members answer and the parent fails. -/
inductive Unanswered (zone : DomainName) (o : Outside ω) (s : Session ω) (members : List Member) :
    Error → ω → Prop
  | signer {before after : List Member} {m : Member} {views : List SignerView} {e : Error} {u w : ω}
      (split : members = before ++ m :: after) (signers : o.Observed zone before s.world views u)
      (untold : o.Untold zone m.signer.address (.missingAddress m.name) signerKinds u e w) :
      Unanswered zone o s members e w
  | parent {views : List SignerView} {g : Group} {e : Error} {u w : ω}
      (signers : o.Observed zone members s.world views u)
      (group : s.state.groups.get? zone = some g)
      (untold : o.Untold zone g.parent (.missingAddress s!"parent of {zone}") parentKinds u e w) :
      Unanswered zone o s members e w

/-- Asks a signer, and tells what it serves. -/
def askSigner (zone : DomainName) (m : Member) : Operation ω SignerView := do
  let v ← observeSigner zone signerKinds m
  lines (describe (← state).dnskeyOrigin v)
  return v

theorem quiet_askSigner (zone : DomainName) (m : Member) :
    Quiet (askSigner zone m : Operation ω SignerView) :=
  leaves_bind (quiet_observeSigner zone signerKinds m) fun v =>
    leaves_bind leaves_state fun _ => leaves_bind (quiet_lines _) fun _ => leaves_pure v

theorem told_of_askSigner {m : Member} {r : Except Error SignerView}
    (hp : (askSigner zone m).perform o s = (r, t)) :
    (∃ as, r = .ok (as.foldl SignerView.absorb { member := m }) ∧
        o.Told zone m.signer.address signerKinds s.world as t.world) ∨
      ∃ e, r = .error e ∧
        o.Untold zone m.signer.address (.missingAddress m.name) signerKinds s.world e t.world := by
  rw [askSigner, perform_bind] at hp
  rcases hasked : (observeSigner zone signerKinds m).perform o s with ⟨q, u⟩
  rcases told_of_observeSigner hasked with ⟨as, rfl, htold⟩ | ⟨e, rfl, huntold⟩
  · rw [hasked] at hp
    cases hp
    exact .inl ⟨as, rfl, htold⟩
  · rw [hasked] at hp
    cases hp
    exact .inr ⟨e, rfl, huntold⟩

/-- **The members are asked in group order**, until one of them fails. -/
theorem observed_of_askSigners {members : List Member} {r : Except Error (List SignerView)}
    (hp : (members.mapM (askSigner zone)).perform o s = (r, t)) :
    (∃ views, r = .ok views ∧ o.Observed zone members s.world views t.world) ∨
      ∃ e before m after views u, r = .error e ∧ members = before ++ m :: after ∧
        o.Observed zone before s.world views u ∧
        o.Untold zone m.signer.address (.missingAddress m.name) signerKinds u e t.world := by
  induction members generalizing s t r with
  | nil =>
    rw [List.mapM_nil] at hp
    cases hp
    exact .inl ⟨[], rfl, .done _⟩
  | cons m members ih =>
    rw [List.mapM_cons, perform_bind] at hp
    rcases hfirst : (askSigner zone m).perform o s with ⟨q, u⟩
    rcases told_of_askSigner hfirst with ⟨as, rfl, htold⟩ | ⟨e, rfl, huntold⟩
    · rw [hfirst] at hp
      simp only [perform_bind] at hp
      rcases hrest : (members.mapM (askSigner zone)).perform o u with ⟨q, v⟩
      rw [hrest] at hp
      rcases ih hrest with ⟨views, rfl, hlater⟩ |
        ⟨e, before, k, after, views, x, rfl, rfl, hlater, huntold⟩
      · cases hp
        exact .inl ⟨_, rfl, .member htold hlater⟩
      · cases hp
        exact .inr ⟨e, m :: before, k, after, _, x, rfl, rfl, .member htold hlater, huntold⟩
    · rw [hfirst] at hp
      cases hp
      exact .inr ⟨e, [], m, members, [], s.world, rfl, rfl, .done _, huntold⟩

/-! ## 4. How a check goes -/

/-- All that a check leaves is the document with new flags: no update, event or task. -/
def Flagged (zone : DomainName) (f : SyncFlags) (s t : Session ω) : Prop :=
  t.lasting = { s with state := withFlags zone f s.state }.lasting

/-- How a check goes. -/
inductive Checks (zone : DomainName) (o : Outside ω) (s : Session ω) :
    Except Error SyncFlags → Session ω → Prop
  | unlisted {e : Error} (unlisted : s.state.members zone = .error e) : Checks zone o s (.error e) s
  | deserted (listed : s.state.members zone = .ok []) :
      Checks zone o s (.error (.groupHasNoSigners zone)) s
  | unanswered {members : List Member} {e : Error} {t : Session ω}
      (listed : s.state.members zone = .ok members) (nonempty : members ≠ [])
      (why : Unanswered zone o s members e t.world) (left : Flagged zone .none s t) :
      Checks zone o s (.error e) t
  | untagged {members : List Member} {views : List SignerView} {parent : ParentView} {e : Error}
      {t : Session ω} (listed : s.state.members zone = .ok members) (nonempty : members ≠ [])
      (answered : Answered zone o s members views parent t.world)
      (why : ∃ v ∈ views, ∃ k ∈ v.dnskeys, k.keyTag = .error e) (left : Flagged zone .none s t) :
      Checks zone o s (.error e) t
  | checked {members : List Member} {views : List SignerView} {parent : ParentView} {f : SyncFlags}
      {t : Session ω} (listed : s.state.members zone = .ok members) (nonempty : members ≠ [])
      (answered : Answered zone o s members views parent t.world)
      (flags : (Evaluation.ofViews zone views parent s.state.dnskeyOrigin).flags = .ok f)
      (left : Flagged zone f s t) :
      Checks zone o s (.ok f) t

theorem ask_eq (zone : DomainName) :
    (ask zone : Operation ω (List SignerView × ParentView)) = (do
      let members ← groupMembers zone
      modifyState (withFlags zone .none)
      let views ← members.mapM (askSigner zone)
      let parent ← observeParent zone parentKinds
      return (views, parent)) := rfl

theorem quiet_askSigners (zone : DomainName) (members : List Member) :
    Quiet (members.mapM (askSigner zone) : Operation ω (List SignerView)) :=
  leaves_mapM (quiet_askSigner zone) members

/-- Once the members are known, the old flags are forgotten and everybody is asked. -/
theorem answered_of_ask {members : List Member} (hlisted : s.state.members zone = .ok members)
    (hnonempty : members ≠ []) {r : Except Error (List SignerView × ParentView)}
    (hp : (ask zone).perform o s = (r, t)) :
    Flagged zone .none s t ∧
      ((∃ views parent, r = .ok (views, parent) ∧
          Answered zone o s members views parent t.world) ∨
        ∃ e, r = .error e ∧ Unanswered zone o s members e t.world) := by
  obtain ⟨g, hg, -⟩ := bind_eq_ok.1 hlisted
  have hg := State.group_eq_ok.1 hg
  rw [ask_eq, perform_bind, groupMembers_eq_ok.2 ⟨hlisted, hnonempty, rfl⟩] at hp
  simp only [perform_bind, perform_modifyState] at hp
  rcases hsigners : (members.mapM (askSigner zone)).perform o
      { s with state := withFlags zone .none s.state } with ⟨q, u⟩
  rw [hsigners] at hp
  have hleft : Flagged zone .none s u := (quiet_askSigners zone members).rel_of_perform hsigners
  rcases observed_of_askSigners hsigners with
    ⟨views, rfl, hobserved⟩ | ⟨e, before, m, after, views, x, rfl, hmembers, hobserved, huntold⟩
  · simp only at hp
    rcases hparent : (observeParent zone parentKinds).perform o u with ⟨q, v⟩
    have hcleared : u.state.groups.get? zone = some { g with synced := .none } := by
      rw [(Session.lasting_eq_iff.1 hleft).1, withFlags, State.get?_modifyGroup, hg, Option.map_some]
    have hquiet := (quiet_observeParent zone parentKinds).rel_of_perform hparent
    rw [hparent] at hp
    rcases told_of_observeParent hcleared hparent with ⟨as, rfl, htold⟩ | ⟨e, rfl, huntold⟩
    · cases hp
      exact ⟨Eq.trans hquiet hleft, .inl ⟨views, _, rfl, .mk hobserved hg htold⟩⟩
    · cases hp
      exact ⟨Eq.trans hquiet hleft, .inr ⟨e, rfl, .parent hobserved hg huntold⟩⟩
  · cases hp
    exact ⟨hleft, .inr ⟨e, rfl, .signer hmembers hobserved huntold⟩⟩

theorem withFlags_withFlags (zone : DomainName) (f f' : SyncFlags) (σ : State) :
    withFlags zone f' (withFlags zone f σ) = withFlags zone f' σ := by
  simp only [withFlags, State.modifyGroup, OrderedMap.modify_modify]
  rfl

/-- **A check, taken apart**, however it goes. -/
theorem checks {r : Except Error SyncFlags} (hp : (check zone).perform o s = (r, t)) :
    Checks zone o s r t := by
  rw [check_eq, perform_bind] at hp
  cases hlisted : s.state.members zone with
  | error e =>
    simp only [ask_eq, groupMembers, perform_bind, perform_state, perform_lift, hlisted] at hp
    cases hp
    exact .unlisted hlisted
  | ok members =>
    rcases eq_or_ne members [] with rfl | hnonempty
    · simp only [ask_eq, groupMembers, perform_bind, perform_state, perform_lift, hlisted] at hp
      cases hp
      exact .deserted hlisted
    rcases hask : (ask zone).perform o s with ⟨q, u⟩
    rw [hask] at hp
    obtain ⟨hleft, hanswered⟩ := answered_of_ask hlisted hnonempty hask
    rcases hanswered with ⟨views, parent, rfl, hanswered⟩ | ⟨e, rfl, hunanswered⟩
    · obtain ⟨hstate, hscheduler, hevents, hdeliveries⟩ := Session.lasting_eq_iff.1 hleft
      have horigins : u.state.dnskeyOrigin = s.state.dnskeyOrigin := by
        rw [hstate]
        rfl
      simp only [conclude, perform_bind, perform_state, perform_lines, perform_lift, horigins] at hp
      cases hflags : (Evaluation.ofViews zone views parent s.state.dnskeyOrigin).flags with
      | error e =>
        rw [hflags] at hp
        cases hp
        exact .untagged hlisted hnonempty hanswered (Evaluation.keyTag_of_flags hflags) hleft
      | ok f =>
        rw [hflags] at hp
        cases hp
        refine .checked hlisted hnonempty hanswered hflags ?_
        refine Session.lasting_eq_iff.2 ⟨?_, hscheduler, hevents, hdeliveries⟩
        simp only [hstate, withFlags_withFlags]
    · cases hp
      exact .unanswered hlisted hnonempty hunanswered hleft

/-- The stored flags after a check, and the rest of what it leaves. -/
theorem Flagged.stored {f : SyncFlags} (h : Flagged zone f s t) {members : List Member}
    (hlisted : s.state.members zone = .ok members) :
    ∃ g, t.state.groups.get? zone = some g ∧ g.synced = f := by
  obtain ⟨g, hg, -⟩ := bind_eq_ok.1 hlisted
  refine ⟨{ g with synced := f }, ?_, rfl⟩
  rw [(Session.lasting_eq_iff.1 h).1, withFlags, State.get?_modifyGroup, State.group_eq_ok.1 hg,
    Option.map_some]

/-- **No flag is stale.**  A check that succeeds gives the flags that follow from what all members
and the parent told it just now, and these are stored; a check that fails once the members are known
leaves all flags unset; and nothing else in the document changes, and no update is sent. -/
theorem flags_of_check (zone : DomainName) (o : Outside ω) (s : Session ω) :
    ∃ r t, (check zone).perform o s = (r, t) ∧ Checks zone o s r t ∧
      (∀ f, r = .ok f → ∃ g, t.state.groups.get? zone = some g ∧ g.synced = f) ∧
      (∀ e members, r = .error e → s.state.members zone = .ok members → members ≠ [] →
        ∃ g, t.state.groups.get? zone = some g ∧ ∀ flag, g.synced.get flag = false) ∧
      (t.state = s.state ∨ ∃ f, t.state = withFlags zone f s.state) ∧
      t.deliveries = s.deliveries := by
  rcases hp : (check zone).perform o s with ⟨r, t⟩
  have hchecks := checks hp
  refine ⟨r, t, rfl, hchecks, ?_, ?_, ?_, ?_⟩
  · rintro f rfl
    cases hchecks with
    | checked listed _ _ _ left => exact left.stored listed
  · rintro e members rfl hmembers hnonempty
    have hnone : ∀ flag, SyncFlags.none.get flag = false := by
      intro flag
      cases flag <;> rfl
    cases hchecks with
    | unlisted unlisted =>
      rw [hmembers] at unlisted
      cases unlisted
    | deserted listed =>
      rw [hmembers] at listed
      cases listed
      exact absurd rfl hnonempty
    | unanswered listed _ _ left | untagged listed _ _ _ left =>
      obtain ⟨g, hg, hflags⟩ := left.stored listed
      exact ⟨g, hg, hflags ▸ hnone⟩
  · cases hchecks with
    | unlisted | deserted => exact .inl rfl
    | unanswered _ _ _ left | untagged _ _ _ _ left | checked _ _ _ _ left =>
      exact .inr ⟨_, (Session.lasting_eq_iff.1 left).1⟩
  · cases hchecks with
    | unlisted | deserted => rfl
    | unanswered _ _ _ left | untagged _ _ _ _ left | checked _ _ _ _ left =>
      exact (Session.lasting_eq_iff.1 left).2.2.2

end Status
end MultiSigner
