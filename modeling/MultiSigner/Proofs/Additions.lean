/-
# The keys that signers are sent

Bringing keys in line sends each signer that stays the keys that it lacks, and a line is reported
for each of them.  A key may be offered by several signers; what is sent once is the record, which
is the key together with the time to live at the signer that offers it.

* `Sync.Dnskeys.Adds` says what one signer is sent: no record twice, nothing that is taken out as
  well, and each offer of a key that it lacks.  A key is sent as often as there are times to live
  among its offers, so every key is sent once just if these agree (`Adds.nodup_iff`).
* `Push.count_of_push` counts a line of the plans in what a push reports.

`additions_of_sync` puts both together for all signers, whatever becomes of the updates.
-/
import Mathlib.Data.List.Dedup
import Mathlib.Data.List.Pairwise
import MultiSigner.Proofs.Planning
import MultiSigner.Proofs.Rehearsal
import MultiSigner.Proofs.Sending
import MultiSigner.Proofs.Serving

namespace MultiSigner

open Operation
open SignerView (staying)

variable {ω : Type} {o : Outside ω} {s t : Session ω} {zone : DomainName}

/-! ## 1. Records that are the same -/

instance : ReflBEq Record where
  rfl := Bool.and_eq_true_iff.2 ⟨BEq.rfl, RecordData.same_refl _⟩

/-- Only names have more than one spelling. -/
theorem Record.eq_of_beq {r q : Record} (h : (r == q) = true) (hq : q.kind ≠ .ns) : r = q := by
  obtain ⟨httl, hdata⟩ := Bool.and_eq_true_iff.1 h
  obtain ⟨x, d⟩ := r
  obtain ⟨y, e⟩ := q
  rw [Record.mk.injEq]
  exact ⟨beq_iff_eq.1 httl, RecordData.eq_of_beq hdata hq⟩

namespace Sync.Dnskeys

variable {views : List SignerView} {origins : OrderedMap String String} {v : SignerView}

/-! ## 2. What a signer lacks -/

/-- The key is not among those that a signer serves, whatever its flags and its algorithm. -/
def Lacks (v : SignerView) (k : Dnskey) : Prop :=
  ∀ l ∈ v.dnskeys, l.sameKey k = false

/-- Another signer that stays offers the key, with this time to live. -/
def Offers (views : List SignerView) (origins : OrderedMap String String) (v : SignerView)
    (k : Dnskey) (ttl : UInt32) : Prop :=
  ∃ w ∈ staying views, w.name ≠ v.name ∧ k ∈ offered views origins w ∧ w.dnskeyTtl = ttl

/-- The other signers agree on how long the keys that a signer lacks may be kept. -/
def Agreed (views : List SignerView) (origins : OrderedMap String String) (v : SignerView) : Prop :=
  ∀ k, Lacks v k → ∀ x y, Offers views origins v k x → Offers views origins v k y → x = y

theorem mem_offersTo {r : Record} :
    r ∈ offersTo views origins v ↔
      ∃ k, r.data = .dnskey k ∧ Offers views origins v k r.ttl := by
  simp only [offersTo, List.mem_flatMap, List.mem_filter, bne_iff_ne, List.mem_map]
  constructor
  · rintro ⟨w, ⟨hw, hname⟩, k, hk, rfl⟩
    exact ⟨k, rfl, w, hw, hname, hk, rfl⟩
  · rintro ⟨k, hdata, w, hw, hname, hk, httl⟩
    refine ⟨w, ⟨hw, hname⟩, k, hk, ?_⟩
    rw [httl, ← hdata]

theorem hasKey_eq_false {r : Record} {k : Dnskey} (h : r.data = .dnskey k) :
    hasKey v r = false ↔ Lacks v k := by
  simp only [hasKey, h, List.any_eq_false, Bool.not_eq_true, Lacks]

theorem dnskey_of_mem_offersTo {r : Record} (h : r ∈ offersTo views origins v) :
    r.kind ≠ .ns := by
  obtain ⟨k, hk, -⟩ := mem_offersTo.1 h
  rw [Record.kind, hk]
  exact fun hkind => by cases hkind

theorem missing_eq : missing views origins v =
    once (fun records r => records.any (r == ·))
      ((offersTo views origins v).filter fun r => !hasKey v r) [] := rfl

/-- **A signer is sent what it lacks and others offer**, and nothing else. -/
theorem mem_missing {r : Record} :
    r ∈ missing views origins v ↔
      ∃ k, r.data = .dnskey k ∧ Lacks v k ∧ Offers views origins v k r.ttl := by
  have hoffers : r ∈ missing views origins v ↔
      r ∈ offersTo views origins v ∧ hasKey v r = false := by
    rw [← Bool.not_eq_true', ← List.mem_filter (p := fun r => !hasKey v r), missing_eq]
    constructor
    · intro h
      exact (mem_of_mem_once h).resolve_left List.not_mem_nil
    · intro h
      have hseen := seen_once (fun records (r : Record) => records.any (r == ·))
        (fun hsub hany => by
          obtain ⟨q, hq, hsame⟩ := List.any_eq_true.1 hany
          exact List.any_eq_true.2 ⟨q, hsub hq, hsame⟩)
        (fun l a ha => List.any_eq_true.2 ⟨a, ha, BEq.rfl⟩) [] h
      obtain ⟨q, hq, hrq⟩ := List.any_eq_true.1 hseen
      have hoffer := (mem_of_mem_once hq).resolve_left List.not_mem_nil
      rwa [Record.eq_of_beq hrq (dnskey_of_mem_offersTo (List.mem_filter.1 hoffer).1)]
  rw [hoffers, mem_offersTo]
  constructor
  · rintro ⟨⟨k, hk, hoffer⟩, hlacks⟩
    exact ⟨k, hk, (hasKey_eq_false hk).1 hlacks, hoffer⟩
  · rintro ⟨k, hk, hlacks, hoffer⟩
    exact ⟨⟨k, hk, hoffer⟩, (hasKey_eq_false hk).2 hlacks⟩

/-- No record is sent twice. -/
theorem nodup_missing : (missing views origins v).Nodup := by
  rw [missing_eq]
  refine pairwise_once (fun acc a hseen b hb hba => ?_) List.Pairwise.nil
  rw [List.any_eq_false] at hseen
  exact hseen b hb (hba ▸ BEq.rfl)

/-! ## 3. What a signer is sent -/

/-- The key of a record. -/
def key? (r : Record) : Option Dnskey :=
  match r.data with
  | .dnskey k => some k
  | _ => none

theorem key?_eq_some {r : Record} {k : Dnskey} : key? r = some k ↔ r.data = .dnskey k := by
  unfold key?
  cases r.data <;> simp

/-- The keys that a change set puts in. -/
def insertedKeys (c : ChangeSet) : List Dnskey :=
  c.inserts.filterMap key?

/-- What a change set puts in and takes out at a signer. -/
structure Adds (views : List SignerView) (origins : OrderedMap String String) (v : SignerView)
    (c : ChangeSet) : Prop where
  /-- Each offer of a key that the signer lacks is put in, and nothing else. -/
  inserted : ∀ r, r ∈ c.inserts ↔
    ∃ k, r.data = .dnskey k ∧ Lacks v k ∧ Offers views origins v k r.ttl
  /-- No record is put in twice. -/
  nodup : c.inserts.Nodup
  /-- No data is both put in and taken out. -/
  apart : ∀ r ∈ c.inserts, ∀ q ∈ c.removes, r.data ≠ q.data
  /-- No record set is taken out. -/
  removeKinds : c.removeKinds = []

theorem adds_plan : Adds views origins v (plan views origins v).changes where
  inserted _ := mem_missing
  nodup := nodup_missing
  apart r hr q hq := by
    obtain ⟨k, hk, hlacks, -⟩ := mem_missing.1 hr
    obtain ⟨l, hl, rfl⟩ := List.mem_map.1 hq
    rintro hsame
    rw [hk] at hsame
    cases hsame
    have hself := hlacks k (List.mem_filter.1 hl).1
    rw [Dnskey.sameKey, beq_self_eq_true] at hself
    cases hself
  removeKinds := rfl

namespace Adds

variable {c : ChangeSet}

theorem length_insertedKeys (h : Adds views origins v c) :
    (insertedKeys c).length = c.inserts.length := by
  rw [insertedKeys, List.length_filterMap_eq_countP, List.countP_eq_length]
  intro r hr
  obtain ⟨k, hk, -⟩ := (h.inserted r).1 hr
  rw [key?_eq_some.2 hk]
  rfl

/-- **Every key is put in once just if its offers agree** on how long it may be kept. -/
theorem nodup_iff (h : Adds views origins v c) :
    (insertedKeys c).Nodup ↔ Agreed views origins v := by
  rw [insertedKeys, List.Nodup, List.pairwise_filterMap]
  constructor
  · intro hapart k hlacks x y hx hy
    by_contra hne
    have hr := (h.inserted ⟨x, .dnskey k⟩).2 ⟨k, rfl, hlacks, hx⟩
    have hq := (h.inserted ⟨y, .dnskey k⟩).2 ⟨k, rfl, hlacks, hy⟩
    have : Std.Symm fun r q : Record => ∀ k, key? r = some k → ∀ l, key? q = some l → k ≠ l :=
      ⟨fun r q hrq l hl k hk hlk => hrq k hk l hl hlk.symm⟩
    exact hapart.forall hr hq (fun hsame => hne (congrArg Record.ttl hsame))
      k (key?_eq_some.2 rfl) k (key?_eq_some.2 rfl) rfl
  · intro hagreed
    refine h.nodup.imp_of_mem fun {r q} hr hq hne k hk l hl hkl => hne ?_
    subst hkl
    rw [key?_eq_some] at hk hl
    obtain ⟨k', hk', hlacks, hx⟩ := (h.inserted r).1 hr
    obtain ⟨l', hl', -, hy⟩ := (h.inserted q).1 hq
    rw [hk] at hk'
    rw [hl] at hl'
    cases hk'
    cases hl'
    obtain ⟨x, d⟩ := r
    obtain ⟨y, e⟩ := q
    rw [Record.mk.injEq]
    exact ⟨hagreed k hlacks _ _ hx hy, hk.trans hl.symm⟩

/-- So there are as many records as keys just then. -/
theorem length_inserts_iff (h : Adds views origins v c) :
    c.inserts.length = (insertedKeys c).dedup.length ↔ Agreed views origins v := by
  rw [← h.nodup_iff, ← h.length_insertedKeys]
  constructor
  · intro hlength
    rw [← List.dedup_eq_self]
    exact (List.dedup_sublist _).eq_of_length hlength.symm
  · intro hnodup
    rw [List.dedup_eq_self.2 hnodup]

end Adds
end Sync.Dnskeys

/-! ## 4. Counting lines -/

/-- How often a line was reported. -/
def Session.count (x : String) (s : Session ω) : Nat :=
  s.transcript.lines.count x

theorem Session.count_append {x : String} {texts : List String} (h : x ∉ texts) (s : Session ω) :
    (s.transcript.append ⟨texts⟩).lines.count x = s.count x := by
  rw [Transcript.lines_append, List.count_append, List.count_eq_zero.2 h, Nat.add_zero]
  rfl

theorem leaves_lines_count {x : String} {texts : List String} (h : x ∉ texts) :
    Leaves (.keeping (Session.count x)) (lines texts : Operation ω Unit) :=
  fun _ s => Session.count_append h s

theorem leaves_line_count {x text : String} (h : text ≠ x) :
    Leaves (.keeping (Session.count x)) (line text : Operation ω Unit) :=
  leaves_lines_count fun hmem => h (List.mem_singleton.1 hmem).symm

namespace Push

variable {x : String}

/-- What is applied reports the lines of its plans, if the updaters do not report the same. -/
theorem Applied.count_said (hlines : ∀ u w, x ∉ (reply o u w).lines) {qs : List (Plan × Update)}
    {w w' : ω} {said : List String} (h : Applied o qs w said w') :
    said.count x = (qs.map fun q => q.1.applied.count x).sum := by
  induction h with
  | none => rfl
  | next _ _ ih =>
    rw [List.count_append, List.count_append, List.count_eq_zero.2 (hlines _ _), ih, List.map_cons,
      List.sum_cons, Nat.zero_add]

/-- **A line of the plans is reported as often as accepted updates account for.** -/
theorem count_of_push {plans : List Plan} {r : Except Error Unit} {g : Delivery → Nat}
    (hskip : ∀ (name : String) (e : Error), s!"Skipping signer {name}: {e.message}" ≠ x)
    (hlines : ∀ u w, x ∉ (reply o u w).lines)
    (haccepted : ∀ p ∈ effective plans, ∀ u, Own zone s.state p u →
      g ⟨u, .ok ()⟩ = p.applied.count x)
    (hrefused : ∀ u e, g ⟨u, .error e⟩ = 0)
    (hp : (push zone plans).perform o s = (r, t)) {ds : List Delivery}
    (hds : t.deliveries = s.deliveries ++ ds) : t.count x = s.count x + (ds.map g).sum := by
  by_cases hready : ∀ p ∈ effective plans, Ready o s.state p.member
  · obtain ⟨qs, k, howns, hstop⟩ := stops_of_push hp hready
    have hsum : ∀ first : List (Plan × Update), first ⊆ qs →
        ((first.map delivered).map g).sum = (first.map fun q => q.1.applied.count x).sum := by
      intro first hsub
      rw [List.map_map]
      refine congrArg List.sum (List.map_congr_left fun q hq => ?_)
      obtain ⟨p, hp, rfl, hown⟩ := exists_mem_of_forall₂ howns (hsub hq)
      exact haccepted q.1 hp q.2 hown
    cases hstop with
    | all applied =>
      rw [← List.append_cancel_left hds, hsum _ (List.Subset.refl _), ← applied.count_said hlines]
      exact List.count_append
    | @short first rest q said w e split applied failed =>
      rw [List.append_assoc] at hds
      rw [← List.append_cancel_left hds, List.map_append, List.sum_append, List.map_singleton,
        List.sum_singleton, hrefused, Nat.add_zero, hsum _ (split ▸ List.subset_append_left _ _),
        ← applied.count_said hlines, Session.count, Transcript.lines_append, List.count_append,
        List.count_append, List.count_eq_zero.2 (hlines q.2 w), Nat.add_zero]
      rfl
  · obtain ⟨e, -, hres⟩ := push_of_unready hp (by simpa using hready)
    have hnone := (Session.lasting_eq_iff.1 ((quiet_resolveAll _).rel_of_perform hres)).2.2.2
    rw [hnone, List.self_eq_append_right] at hds
    subst hds
    exact (leaves_resolveAll (fun name e => leaves_line_count (hskip name e)) _).rel_of_perform hres

end Push

/-! ## 5. Lines about keys -/

namespace Sync.Dnskeys

variable {views : List SignerView} {origins : OrderedMap String String} {v : SignerView}

/-- The line about a key that was added at a signer. -/
def addition (name : String) : String :=
  s!"  Added DNSKEY to {name}"

/-- Lines are told apart by how they start. -/
theorem ne_of_start {a c : String} (n : Nat) (h : (a.toList.take n == c.toList.take n) = false)
    (ha : n ≤ a.toList.length) (hc : n ≤ c.toList.length) (b d : String) : a ++ b ≠ c ++ d := by
  intro heq
  have hstart := congrArg (fun s : String => s.toList.take n) heq
  simp only [String.toList_append, List.take_append_of_le_length ha,
    List.take_append_of_le_length hc] at hstart
  rw [hstart, beq_self_eq_true] at h
  cases h

theorem skipping_ne_addition (name signer : String) (e : Error) :
    s!"Skipping signer {signer}: {e.message}" ≠ addition name := by
  show "Skipping signer " ++ signer ++ ": " ++ e.message ≠ _
  rw [String.append_assoc, String.append_assoc]
  exact ne_of_start 3 (by decide) (by decide) (by decide) _ _

theorem mem_of_ok_mem_withTag {k : Dnskey} {f : UInt16 → List String} {text : String}
    (h : Except.ok text ∈ Report.withTag k f) : ∃ tag, text ∈ f tag := by
  unfold Report.withTag at h
  split at h
  · simp at h
  · obtain ⟨a, ha, hok⟩ := List.mem_map.1 h
    cases hok
    exact ⟨_, ha⟩

theorem ne_of_tag (tag : UInt16) (k : Dnskey) (name : String) :
    s!"- {tag} {k.publicKeyText}" ≠ addition name := by
  show "- " ++ toString tag ++ " " ++ k.publicKeyText ≠ _
  rw [String.append_assoc, String.append_assoc]
  exact ne_of_start 1 (by decide) (by decide) (by decide) _ _

theorem ne_of_withdrawal {text : String} (name : String)
    (h : Except.ok text ∈ withdrawalReport views origins) : text ≠ addition name := by
  rcases List.mem_append.1 h with h | h
  · obtain ⟨v, -, hv⟩ := List.mem_map.1 h
    cases hv
    show "Signer " ++ v.name ++ " is leaving, removing its DNSKEYs from others" ≠ _
    rw [String.append_assoc]
    exact ne_of_start 3 (by decide) (by decide) (by decide) _ _
  · obtain ⟨v, -, h⟩ := List.mem_flatMap.1 h
    obtain ⟨k, -, h⟩ := List.mem_flatMap.1 h
    obtain ⟨tag, htag⟩ := mem_of_ok_mem_withTag h
    rw [List.mem_singleton.1 htag]
    exact ne_of_tag tag k name

theorem ne_of_keyAt {text : String} {k : Dnskey} (name : String) (h : text ∈ keyAt k v) :
    text ≠ addition name := by
  unfold keyAt at h
  split at h
  · cases h
  · split at h
    · rw [List.mem_singleton.1 h]
      exact ne_of_start 3 (by decide) (by decide) (by decide) _ _
    · rw [List.mem_singleton.1 h]
      show "  Found DNSKEY in " ++ v.name ++ " but algorithm mismatch, not syncing" ≠ _
      rw [String.append_assoc]
      exact ne_of_start 3 (by decide) (by decide) (by decide) _ _

theorem ne_of_offer {text : String} (name : String)
    (h : Except.ok text ∈ offerReport views origins) : text ≠ addition name := by
  obtain ⟨v, -, h⟩ := List.mem_flatMap.1 h
  rcases List.mem_cons.1 h with h | h
  · cases h
    show "Syncing " ++ v.name ++ " DNSKEYs" ≠ _
    rw [String.append_assoc]
    exact ne_of_start 3 (by decide) (by decide) (by decide) _ _
  · obtain ⟨k, -, h⟩ := List.mem_flatMap.1 h
    obtain ⟨tag, htag⟩ := mem_of_ok_mem_withTag h
    rcases List.mem_cons.1 htag with rfl | htag
    · exact ne_of_tag tag k name
    · obtain ⟨w, -, hw⟩ := List.mem_flatMap.1 htag
      exact ne_of_keyAt name hw

/-- Nothing of what is told before the updates is about a key that was added. -/
theorem addition_not_mem_report (views : List SignerView) (origins : OrderedMap String String)
    (name : String) :
    addition name ∉ (withdrawalReport views origins ++ offerReport views origins).items := by
  intro h
  rcases List.mem_append.1 (Automation.ok_mem_of_mem_items h) with h | h
  · exact ne_of_withdrawal name h rfl
  · exact ne_of_offer name h rfl

theorem count_plan (name : String) :
    (plan views origins v).applied.count (addition name)
      = if v.name == name then (plan views origins v).changes.inserts.length else 0 := by
  have hremoved : s!"  Removed DNSKEY from {v.name}" ≠ addition name :=
    ne_of_start 3 (by decide) (by decide) (by decide) _ _
  have hadded : (s!"  Added DNSKEY to {v.name}" == addition name) = (v.name == name) := by
    rw [Bool.eq_iff_iff, beq_iff_eq, beq_iff_eq]
    exact String.append_right_inj _
  simp only [plan, List.map_const', List.count_append, List.count_replicate, hadded,
    beq_eq_false_iff_ne.2 hremoved, Bool.false_eq_true, if_false, Nat.zero_add]

/-! ## 6. Bringing keys in line -/

/-- How many records an accepted update adds at a signer. -/
def additions (name : String) (d : Delivery) : Nat :=
  if d.accepted && d.update.target.signer == name then d.update.changes.inserts.length else 0

/-- How many different keys it adds there. -/
def distinct (name : String) (d : Delivery) : Nat :=
  if d.accepted && d.update.target.signer == name then
    (insertedKeys d.update.changes).dedup.length
  else 0

/-- A sum that grows item by item stays the same just if all items do. -/
theorem sum_map_le {α : Type} {f g : α → Nat} : ∀ {l : List α}, (∀ a ∈ l, f a ≤ g a) →
    (l.map f).sum ≤ (l.map g).sum ∧ ((l.map g).sum = (l.map f).sum ↔ ∀ a ∈ l, g a = f a)
  | [], _ => by simp
  | a :: l, h => by
    obtain ⟨ha, hl⟩ := List.forall_mem_cons.1 h
    obtain ⟨hle, heq⟩ := sum_map_le hl
    rw [List.map_cons, List.map_cons, List.sum_cons, List.sum_cons, List.forall_mem_cons, ← heq]
    omega

/-- Asking signers reports nothing. -/
theorem leaves_observeGroup_count (x : String) (zone : DomainName) (kinds : List RecordKind) :
    Leaves (.keeping (Session.count x))
      (observeGroup zone kinds : Operation ω (List SignerView)) := by
  refine leaves_bind (leaves_groupMembers zone) fun members => leaves_mapM (fun m => ?_) members
  refine leaves_bind (leaves_lift _) fun _ => leaves_foldlM (fun v kind => ?_) kinds _
  refine leaves_bind (fun o s => ?_) fun _ => leaves_pure _
  rw [perform_query]
  rfl

/-- **Bringing keys in line, taken apart.**  It ends before its push, having sent nothing; or it is
a push of the plans for the signers that it saw.  No line about a key that was added is reported
before the push. -/
theorem run_cases {r : Except Error Unit} (hp : (run zone).perform o s = (r, t)) :
    (t.deliveries = s.deliveries ∧ ∀ name, t.count (addition name) = s.count (addition name)) ∨
      ∃ views u v, (observeGroup zone [.dnskey]).perform o s = (.ok views, u) ∧
        v.deliveries = s.deliveries ∧
        (∀ name, v.count (addition name) = s.count (addition name)) ∧
        (Push.push zone (plans views t.state.dnskeyOrigin)).perform o v = (r, t) := by
  rw [run, perform_bind] at hp
  rcases hobserved : (observeGroup zone [.dnskey]).perform o s with ⟨e | views, u⟩
  all_goals
    rw [hobserved] at hp
    have hquiet := (quiet_observeGroup _ _).rel_of_perform hobserved
    have hsent := (Session.lasting_eq_iff.1 hquiet).2.2.2
    have hcount := fun name =>
      (leaves_observeGroup_count (addition name) _ _).rel_of_perform hobserved
  · cases hp
    exact .inl ⟨hsent, hcount⟩
  · simp only [perform_bind, perform_modifyState, perform_state, perform_tell] at hp
    have htold := fun origins name =>
      (Session.count_append (addition_not_mem_report views origins name) u).trans (hcount name)
    cases hfailure : (withdrawalReport views (views.foldl recordOrigins u.state).dnskeyOrigin
      ++ offerReport views (views.foldl recordOrigins u.state).dnskeyOrigin).failure? with
    | some e =>
      rw [hfailure] at hp
      cases hp
      exact .inl ⟨hsent, htold _⟩
    | none =>
      rw [hfailure] at hp
      dsimp only at hp
      rw [← congrArg State.dnskeyOrigin (Push.state_of_push hp)] at hp
      refine .inr ⟨views, u, _, rfl, ?_, ?_, hp⟩
      · exact hsent
      · exact htold _

/-- What was delivered is for a signer that stays, and adds to it what others offer and it lacks.  A
key is added once just if those that offer it agree on its time to live. -/
inductive Fitting (views : List SignerView) (origins : OrderedMap String String) (d : Delivery) :
    Prop
  | mk {v : SignerView} (stays : v ∈ staying views) (signer : d.update.target.signer = v.name)
      (adds : Adds views origins v d.update.changes)
      (once : (insertedKeys d.update.changes).Nodup ↔ Agreed views origins v)

theorem fitting_of_update {σ : State} {p : Plan} {d : Delivery}
    (hp : p ∈ Push.effective (plans views origins)) (hd : Push.update zone σ p = .ok d.update) :
    Fitting views origins d := by
  obtain ⟨v, hv, rfl⟩ := List.mem_map.1 (List.mem_filter.1 hp).1
  obtain ⟨-, hsigner, -, hchanges⟩ := Push.update_eq_ok hd
  have hadds : Adds views origins v d.update.changes := hchanges ▸ adds_plan
  exact .mk hv hsigner hadds hadds.nodup_iff

/-- What was delivered adds no less records than keys, and as many just if no key is added twice. -/
theorem Fitting.distinct_le {d : Delivery} (h : Fitting views origins d) (name : String) :
    distinct name d ≤ additions name d ∧ (additions name d = distinct name d ↔ (d.accepted = true →
      d.update.target.signer = name → (insertedKeys d.update.changes).Nodup)) := by
  obtain ⟨-, -, hadds, -⟩ := h
  have hle := (List.dedup_sublist (insertedKeys d.update.changes)).length_le
  rw [hadds.length_insertedKeys] at hle
  simp only [additions, distinct, Bool.and_eq_true, beq_iff_eq]
  by_cases hcounts : d.accepted = true ∧ d.update.target.signer = name
  · simp only [hcounts, and_self, if_true, forall_const]
    exact ⟨hle, hadds.length_inserts_iff.trans hadds.nodup_iff.symm⟩
  · simp only [hcounts, if_false, Nat.le_refl, true_and, true_iff]
    exact fun haccepted hname => absurd ⟨haccepted, hname⟩ hcounts

theorem added_delivered {v : SignerView} {u : Update} {σ : State} (name : String)
    (h : Push.Own zone σ (plan views origins v) u) :
    additions name ⟨u, .ok ()⟩ = (plan views origins v).applied.count (addition name) := by
  rw [count_plan, additions, h.signer, h.changes]
  rfl

/-- **What bringing keys in line sends.**  Each update is for a signer that stays and adds to it
just what others offer and it lacks, no record twice, and no key that is taken out.  A key is added
once just if those that offer it agree on its time to live.  There is one line for each record that
is added by an accepted update; so there is one for each key just if all of these are added once. -/
theorem additions_of_sync {r : Except Error Unit} (hp : (run zone).perform o s = (r, t)) :
    ∃ ds, t.deliveries = s.deliveries ++ ds ∧
      (∀ d ∈ ds, ∃ views u, (observeGroup zone [.dnskey]).perform o s = (.ok views, u) ∧
        Fitting views t.state.dnskeyOrigin d) ∧
      ∀ name, (∀ u w, addition name ∉ (Push.reply o u w).lines) →
        t.count (addition name) = s.count (addition name) + (ds.map (additions name)).sum ∧
        (ds.map (distinct name)).sum ≤ (ds.map (additions name)).sum ∧
        ((ds.map (additions name)).sum = (ds.map (distinct name)).sum ↔
          ∀ d ∈ ds, d.accepted = true → d.update.target.signer = name →
            (insertedKeys d.update.changes).Nodup) := by
  rcases run_cases hp with ⟨hsent, hcount⟩ | ⟨views, u, v, hviews, hsent, hcount, hpush⟩
  · exact ⟨[], by rw [hsent, List.append_nil], fun d hd => absurd hd List.not_mem_nil,
      fun name _ => ⟨hcount name, by simp⟩⟩
  · obtain ⟨ds, hds, hupdates⟩ := Push.sent_of_push hpush
    have hfitting : ∀ d ∈ ds, Fitting views t.state.dnskeyOrigin d := fun d hd => by
      obtain ⟨p, hp, hu⟩ := hupdates d hd
      exact fitting_of_update hp hu
    refine ⟨ds, by rw [hds, hsent], fun d hd => ⟨views, u, hviews, hfitting d hd⟩,
      fun name hlines => ⟨?_, ?_⟩⟩
    · rw [← hcount name]
      refine Push.count_of_push (skipping_ne_addition name) hlines (fun p hp u hown => ?_)
        (fun _ _ => rfl) hpush hds
      obtain ⟨w, -, rfl⟩ := List.mem_map.1 (List.mem_filter.1 hp).1
      exact added_delivered name hown
    · obtain ⟨hle, heq⟩ := sum_map_le fun d hd => ((hfitting d hd).distinct_le name).1
      refine ⟨hle, heq.trans (forall₂_congr fun d hd => ?_)⟩
      exact ((hfitting d hd).distinct_le name).2

end Sync.Dnskeys

namespace Sample

open Sync.Dnskeys

/-- Two of three signers serve the same key, and disagree on how long it may be kept. -/
def disagreeing : List Member :=
  [member 'a' false, member 'b' false, member 'c' false]

def disagreeingServers : List (String × List Record) :=
  [("a", [⟨3600, .dnskey key⟩]), ("b", []), ("c", [⟨300, .dnskey key⟩])]

/-- Their keys are brought in line. -/
def disagreed : Except Error Unit × Session Rehearsal.World :=
  (run Sample.zone).perform (deployment disagreeing).outside
    (departure disagreeing disagreeingServers)

theorem silent_deployment (members : List Member) (u : Update) (w : Rehearsal.World) :
    (Push.reply (deployment members).outside u w).lines = [] := by
  rw [Push.reply]
  cases hx : (deployment members).outside.updaterFor u.target.kind with
  | error e => rfl
  | ok x =>
    rw [Rehearsal.updater_of_outside hx]
    show (Rehearsal.updater.apply u w).lines = []
    simp only [Rehearsal.updater]
    split <;> rfl

/-- The third signer is reported to get a key as often as it is sent a record. -/
theorem additions_of_disagreed : ∃ ds, disagreed.2.deliveries = ds ∧
    (∀ d ∈ ds, ∃ views, Fitting views disagreed.2.state.dnskeyOrigin d) ∧
    disagreed.2.count (addition "b") = (ds.map (additions "b")).sum := by
  have hp : (run Sample.zone).perform (deployment disagreeing).outside
      (departure disagreeing disagreeingServers) = (disagreed.1, disagreed.2) :=
    perform_of_fst rfl
  obtain ⟨ds, hds, hfitting, hlines⟩ := additions_of_sync hp
  refine ⟨ds, hds.trans (List.nil_append _), fun d hd => ?_, ?_⟩
  · obtain ⟨views, -, -, h⟩ := hfitting d hd
    exact ⟨views, h⟩
  · refine ((hlines "b" fun u w => ?_).1).trans (Nat.zero_add _)
    rw [silent_deployment]
    exact List.not_mem_nil

/-- **A key that is sent twice.**  One update puts the same key in twice, and two lines say that it
was added. -/
theorem twice_of_disagreed :
    (disagreed.2.deliveries.map fun d =>
        (d.accepted, d.update.target.signer, insertedKeys d.update.changes))
      = [(true, "b", [key, key])] ∧
    disagreed.2.count (addition "b") = 2 ∧ (disagreed.2.deliveries.map (distinct "b")).sum = 1 := by
  decide +kernel

end Sample
end MultiSigner
