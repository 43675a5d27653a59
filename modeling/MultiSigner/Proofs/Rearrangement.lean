/-
# Whether the order of answers matters

Records and signers come in some order, which means nothing: a server may answer with its records in
another order next time.  `Rearranged` views hold the same in another order, and
`flags_of_rearranged` says what becomes of the flags:

* they are worked out as before, and all but one of them are as before;
* whether keys are found synced depends on the order just if `OrderMatters`.  The check stops at the
  first key of a signer that has the bytes it looks for, so if a signer has these bytes under the
  right algorithm and under another one, the key that comes first decides.
-/
import MultiSigner.Proofs.Checks

namespace MultiSigner

/-! ## 1. Views in another order -/

/-- Two views of a signer with the same records in any order.  Times to live play no role. -/
structure SignerView.Alike (v w : SignerView) : Prop where
  member : w.member = v.member
  dnskeys : v.dnskeys.Perm w.dnskeys
  cds : v.cds.Perm w.cds
  cdnskeys : v.cdnskeys.Perm w.cdnskeys
  ns : v.ns.Perm w.ns

/-- Two views of the parent with the same records in any order. -/
structure ParentView.Alike (p q : ParentView) : Prop where
  ds : p.ds.Perm q.ds
  ns : p.ns.Perm q.ns

theorem ParentView.Alike.refl (p : ParentView) : p.Alike p := ⟨.refl _, .refl _⟩

theorem ParentView.Alike.symm {p q : ParentView} (h : p.Alike q) : q.Alike p :=
  ⟨h.ds.symm, h.ns.symm⟩

namespace SignerView.Alike

variable {v w : SignerView}

theorem symm (h : v.Alike w) : w.Alike v :=
  ⟨h.member.symm, h.dnskeys.symm, h.cds.symm, h.cdnskeys.symm, h.ns.symm⟩

theorem name (h : v.Alike w) : w.name = v.name := congrArg Member.name h.member

theorem leaving (h : v.Alike w) : w.leaving = v.leaving :=
  congrArg (fun m => m.signer.leaving) h.member

theorem nameserver (h : v.Alike w) : w.nameserver = v.nameserver :=
  congrArg (fun m => m.signer.nameserver) h.member

theorem syncedKeys (h : v.Alike w) {k : Dnskey} : k ∈ w.syncedKeys ↔ k ∈ v.syncedKeys := by
  simp only [SignerView.syncedKeys, List.mem_filter, h.member, h.dnskeys.mem_iff]

theorem keySigningKeys (h : v.Alike w) {k : Dnskey} :
    k ∈ w.keySigningKeys ↔ k ∈ v.keySigningKeys := by
  simp only [SignerView.keySigningKeys, List.mem_filter, h.dnskeys.mem_iff]

end SignerView.Alike

namespace Evaluation

/-- The records of each signer, and the signers, in another order. -/
def Rearranged (views views' : List SignerView) : Prop :=
  ∃ reordered, List.Forall₂ SignerView.Alike views reordered ∧ reordered.Perm views'

/-- Each view of one list has its like in the other. -/
structure Interchangeable (views views' : List SignerView) : Prop where
  there : ∀ v ∈ views, ∃ w ∈ views', v.Alike w
  back : ∀ w ∈ views', ∃ v ∈ views, w.Alike v

variable {zone : DomainName} {views views' : List SignerView} {parent parent' : ParentView}
  {origins : OrderedMap String String} {v w o : SignerView} {k l : Dnskey} {name : DomainName}

theorem Interchangeable.symm (h : Interchangeable views views') : Interchangeable views' views :=
  ⟨h.back, h.there⟩

theorem Rearranged.interchangeable (h : Rearranged views views') :
    Interchangeable views views' := by
  obtain ⟨reordered, hlike, hperm⟩ := h
  constructor
  · intro v hv
    obtain ⟨w, hw, hvw⟩ := Operation.exists_mem_of_forall₂ hlike.flip hv
    exact ⟨w, hperm.mem_iff.1 hw, hvw⟩
  · intro w hw
    obtain ⟨v, hv, hvw⟩ := Operation.exists_mem_of_forall₂ hlike (hperm.mem_iff.2 hw)
    exact ⟨v, hv, SignerView.Alike.symm hvw⟩

/-- Views each of which has its records in another order. -/
theorem rearranged_map {f : SignerView → SignerView} (h : ∀ v : SignerView, v.Alike (f v)) :
    Rearranged views (views.map f) :=
  ⟨views.map f, List.forall₂_map_right_iff.2 (List.forall₂_same.2 fun v _ => h v), .refl _⟩

theorem isOneOf_perm {names names' : List DomainName} (h : names.Perm names') :
    isOneOf names name = true ↔ isOneOf names' name = true := by
  simp only [isOneOf_iff, h.mem_iff]

/-! ## 2. Conditions that do not depend on the order -/

theorem FromLeaving.of_interchangeable (hviews : Interchangeable views views')
    (h : FromLeaving views origins k) : FromLeaving views' origins k := by
  obtain ⟨x, hx, hleaves, horigin⟩ := h
  obtain ⟨y, hy, hlike⟩ := hviews.there x hx
  exact ⟨y, hy, by rw [hlike.leaving, hleaves], by rw [hlike.name, horigin]⟩

theorem Tagged.of_interchangeable (hviews : Interchangeable views views') (h : Tagged views) :
    Tagged views' := by
  intro w hw hstays k hk
  obtain ⟨v, hv, hlike⟩ := hviews.back w hw
  refine h v hv (by rw [hlike.leaving, hstays]) k ?_
  rw [List.mem_append] at hk ⊢
  exact hk.imp hlike.syncedKeys.2 hlike.keySigningKeys.2

theorem KeysReferred.of_interchangeable (hviews : Interchangeable views views')
    (h : KeysReferred zone views) : KeysReferred zone views' := by
  constructor
  all_goals
    intro w hw hstays y hy hystays k hk
    obtain ⟨v, hv, hlike⟩ := hviews.back w hw
    obtain ⟨x, hx, hxlike⟩ := hviews.back y hy
    have hstays' : v.leaving = false := by rw [hlike.leaving, hstays]
    have hxstays : x.leaving = false := by rw [hxlike.leaving, hystays]
    have hxk := hxlike.keySigningKeys.2 hk
  · obtain ⟨d, hd, hdigest⟩ := h.cds v hv hstays' x hx hxstays k hxk
    exact ⟨d, hlike.cds.mem_iff.2 hd, hdigest⟩
  · exact hlike.cdnskeys.mem_iff.2 (h.cdnskey v hv hstays' x hx hxstays k hxk)

theorem NamesAgree.of_interchangeable (hviews : Interchangeable views views')
    (h : NamesAgree views) : NamesAgree views' := by
  constructor
  · intro w hw y hy name hname
    obtain ⟨v, hv, hlike⟩ := hviews.back w hw
    obtain ⟨x, hx, hxlike⟩ := hviews.back y hy
    exact (isOneOf_perm hxlike.ns).2 (h.same v hv x hx name ((isOneOf_perm hlike.ns).1 hname))
  · intro w hw y hy hleaves
    obtain ⟨v, hv, hlike⟩ := hviews.back w hw
    obtain ⟨x, hx, hxlike⟩ := hviews.back y hy
    have hstays := h.staying v hv x hx (by rw [hxlike.leaving, hleaves])
    rw [← hxlike.nameserver, ← Bool.not_eq_true, isOneOf_perm hlike.ns, Bool.not_eq_true]
    exact hstays

/-- What signers that stay ask for is asked for in any order. -/
theorem exists_cds_of_interchangeable (hviews : Interchangeable views views') {d : Ds}
    (h : ∃ v ∈ views, v.leaving = false ∧ d ∈ v.cds) :
    ∃ w ∈ views', w.leaving = false ∧ d ∈ w.cds := by
  obtain ⟨v, hv, hstays, hd⟩ := h
  obtain ⟨w, hw, hlike⟩ := hviews.there v hv
  exact ⟨w, hw, by rw [hlike.leaving, hstays], hlike.cds.mem_iff.1 hd⟩

theorem exists_ns_of_interchangeable (hviews : Interchangeable views views')
    (h : ∃ v ∈ views, isOneOf v.ns name = true) : ∃ w ∈ views', isOneOf w.ns name = true := by
  obtain ⟨v, hv, hname⟩ := h
  obtain ⟨w, hw, hlike⟩ := hviews.there v hv
  exact ⟨w, hw, (isOneOf_perm hlike.ns).1 hname⟩

theorem ParentRefers.of_interchangeable (hviews : Interchangeable views views')
    (hparent : parent.Alike parent') (h : ParentRefers views parent) :
    ParentRefers views' parent' := fun d => by
  rw [← hparent.ds.mem_iff, h d]
  exact ⟨exists_cds_of_interchangeable hviews, exists_cds_of_interchangeable hviews.symm⟩

theorem ParentDelegates.of_interchangeable (hviews : Interchangeable views views')
    (hparent : parent.Alike parent') (h : ParentDelegates views parent) :
    ParentDelegates views' parent' := fun name => by
  rw [← isOneOf_perm hparent.ns, h name]
  exact ⟨exists_ns_of_interchangeable hviews, exists_ns_of_interchangeable hviews.symm⟩

/-- **What flags stand for does not depend on the order**, but for the one of keys. -/
theorem Holds.of_interchangeable (hviews : Interchangeable views views')
    (hparent : parent.Alike parent') {flag : SyncFlag} (hflag : flag ≠ .dnskeys)
    (h : Holds zone views parent origins flag) : Holds zone views' parent' origins flag := by
  cases flag with
  | dnskeys => exact absurd rfl hflag
  | cds => exact KeysReferred.of_interchangeable hviews h
  | parentDs => exact ⟨h.1.of_interchangeable hviews, h.2.of_interchangeable hviews hparent⟩
  | ns => exact NamesAgree.of_interchangeable hviews h
  | parentNs => exact ⟨h.1.of_interchangeable hviews, h.2.of_interchangeable hviews hparent⟩

/-! ## 3. Keys of the same bytes -/

/-- The keys that the check looks for at a signer: those shared by the others that stay. -/
def askedAt (views : List SignerView) (o : SignerView) : List Dnskey :=
  ((SignerView.staying views).filter fun v => o.name != v.name).flatMap SignerView.syncedKeys

theorem mem_askedAt : k ∈ askedAt views o ↔
    ∃ v ∈ views, v.leaving = false ∧ o.name ≠ v.name ∧ k ∈ v.syncedKeys := by
  simp only [askedAt, List.mem_flatMap, List.mem_filter, bne_iff_ne, Automation.mem_staying,
    SignerView.leaving, and_assoc]

theorem forall_askedAt {P : SignerView → Dnskey → Prop} :
    (∀ v ∈ views, v.leaving = false → ∀ k ∈ v.syncedKeys,
        ∀ o ∈ views, o.leaving = false → o.name ≠ v.name → P o k) ↔
      ∀ o ∈ views, o.leaving = false → ∀ k ∈ askedAt views o, P o k := by
  simp only [mem_askedAt]
  constructor
  · rintro h o ho hostays k ⟨v, hv, hstays, hname, hk⟩
    exact h v hv hstays k hk o ho hostays hname
  · intro h v hv hstays k hk o ho hostays hname
    exact h o ho hostays k ⟨v, hv, hstays, hname, hk⟩

/-- The same keys are asked for in any order. -/
theorem askedAt_of_interchangeable (hviews : Interchangeable views views') (hlike : o.Alike w)
    (h : k ∈ askedAt views o) : k ∈ askedAt views' w := by
  obtain ⟨v, hv, hstays, hname, hk⟩ := mem_askedAt.1 h
  obtain ⟨y, hy, hylike⟩ := hviews.there v hv
  refine mem_askedAt.2 ⟨y, hy, by rw [hylike.leaving, hstays], ?_, hylike.syncedKeys.2 hk⟩
  rwa [hlike.name, hylike.name]

/-- **The order of keys decides** whether they are found synced: no key comes from a leaving signer,
and every signer has each key that it should have, but one of them has the bytes of such a key under
another algorithm as well. -/
structure OrderMatters (views : List SignerView) (origins : OrderedMap String String) : Prop where
  kept : ∀ v ∈ views, v.leaving = false → ∀ k ∈ v.syncedKeys, ¬ FromLeaving views origins k
  served : ∀ o ∈ views, o.leaving = false → ∀ k ∈ askedAt views o,
    ∃ l ∈ o.dnskeys, l.publicKey = k.publicKey ∧ l.algorithm = k.algorithm
  alike : ∀ o ∈ views, o.leaving = false → ∀ k ∈ askedAt views o, ∀ l ∈ askedAt views o,
    l.publicKey = k.publicKey → l.algorithm = k.algorithm
  odd : ∃ o ∈ views, o.leaving = false ∧ ∃ k ∈ askedAt views o,
    ∃ l ∈ o.dnskeys, l.publicKey = k.publicKey ∧ l.algorithm ≠ k.algorithm

theorem OrderMatters.of_interchangeable (hviews : Interchangeable views views')
    (h : OrderMatters views origins) : OrderMatters views' origins := by
  constructor
  · intro w hw hstays k hk
    obtain ⟨v, hv, hlike⟩ := hviews.back w hw
    exact mt (FromLeaving.of_interchangeable hviews.symm)
      (h.kept v hv (by rw [hlike.leaving, hstays]) k (hlike.syncedKeys.2 hk))
  · intro w hw hstays k hk
    obtain ⟨v, hv, hlike⟩ := hviews.back w hw
    obtain ⟨l, hl, hsame⟩ := h.served v hv (by rw [hlike.leaving, hstays]) k
      (askedAt_of_interchangeable hviews.symm hlike hk)
    exact ⟨l, hlike.dnskeys.mem_iff.2 hl, hsame⟩
  · intro w hw hstays k hk l hl
    obtain ⟨v, hv, hlike⟩ := hviews.back w hw
    exact h.alike v hv (by rw [hlike.leaving, hstays]) k
      (askedAt_of_interchangeable hviews.symm hlike hk) l
      (askedAt_of_interchangeable hviews.symm hlike hl)
  · obtain ⟨o, ho, hstays, k, hk, l, hl, hodd⟩ := h.odd
    obtain ⟨w, hw, hlike⟩ := hviews.there o ho
    exact ⟨w, hw, by rw [hlike.leaving, hstays], k, askedAt_of_interchangeable hviews hlike hk, l,
      hlike.dnskeys.mem_iff.1 hl, hodd⟩

/-- A key that is found has its like, and keys of the same bytes find the same one. -/
theorem FoundAt.exists_mem (h : FoundAt o k) :
    ∃ l ∈ o.dnskeys, l.publicKey = k.publicKey ∧ l.algorithm = k.algorithm := by
  obtain ⟨l, hl, halgorithm⟩ := h
  obtain ⟨hmem, hbytes⟩ := mem_of_find?_sameKey hl
  exact ⟨l, hmem, hbytes, halgorithm⟩

theorem FoundAt.algorithm_eq (h : FoundAt o k) (h' : FoundAt o l)
    (hbytes : l.publicKey = k.publicKey) : l.algorithm = k.algorithm := by
  obtain ⟨x, hx, hk⟩ := h
  obtain ⟨y, hy, hl⟩ := h'
  simp only [Dnskey.sameKey] at hx hy
  rw [hbytes, hx] at hy
  rw [← hl, ← Option.some.inj hy, hk]

/-- A key is found where one of its bytes and algorithm is, unless there is one of its bytes with
another algorithm. -/
theorem foundAt_of_mem (hl : l ∈ o.dnskeys) (hbytes : l.publicKey = k.publicKey)
    (hall : ∀ x ∈ o.dnskeys, x.publicKey = k.publicKey → x.algorithm = k.algorithm) :
    FoundAt o k := by
  cases hx : o.dnskeys.find? fun x => x.sameKey k with
  | none => exact absurd hx (find?_sameKey_ne_none hl hbytes)
  | some x =>
    obtain ⟨hmem, hsame⟩ := mem_of_find?_sameKey hx
    exact ⟨x, hx, hall x hmem hsame⟩

/-- **Keys that are synced are so in any order**, unless the order matters. -/
theorem KeysSynced.of_interchangeable (hviews : Interchangeable views views')
    (hodd : ¬ OrderMatters views origins) (h : KeysSynced views origins) :
    KeysSynced views' origins := by
  have hfound := forall_askedAt.1 h.found
  have hplain : ∀ o ∈ views, o.leaving = false → ∀ k ∈ askedAt views o, ∀ x ∈ o.dnskeys,
      x.publicKey = k.publicKey → x.algorithm = k.algorithm := by
    intro o ho hstays k hk x hx hbytes
    by_contra halgorithm
    exact hodd ⟨h.kept, fun o ho hstays k hk => (hfound o ho hstays k hk).exists_mem,
      fun o ho hstays k hk l hl =>
        (hfound o ho hstays k hk).algorithm_eq (hfound o ho hstays l hl),
      o, ho, hstays, k, hk, x, hx, hbytes, halgorithm⟩
  refine ⟨fun w hw hstays k hk => ?_, forall_askedAt.2 fun w hw hstays k hk => ?_⟩
  · obtain ⟨v, hv, hlike⟩ := hviews.back w hw
    exact mt (FromLeaving.of_interchangeable hviews.symm)
      (h.kept v hv (by rw [hlike.leaving, hstays]) k (hlike.syncedKeys.2 hk))
  · obtain ⟨v, hv, hlike⟩ := hviews.back w hw
    have hvstays : v.leaving = false := by rw [hlike.leaving, hstays]
    have hvk := askedAt_of_interchangeable hviews.symm hlike hk
    obtain ⟨l, hl, hbytes, -⟩ := (hfound v hv hvstays k hvk).exists_mem
    exact foundAt_of_mem (hlike.dnskeys.mem_iff.2 hl) hbytes
      fun x hx => hplain v hv hvstays k hvk x (hlike.dnskeys.mem_iff.1 hx)

/-! ## 4. The two orders that differ -/

/-- A key of a signer does not get in the way of those that it is asked for. -/
def inKeeping (views : List SignerView) (o : SignerView) (l : Dnskey) : Bool :=
  (askedAt views o).all fun k => l.publicKey != k.publicKey || l.algorithm == k.algorithm

/-- The view with some of its keys before the others. -/
def withFirst (p : SignerView → Dnskey → Bool) (v : SignerView) : SignerView :=
  { v with dnskeys := v.dnskeys.filter (p v) ++ v.dnskeys.filter fun k => !p v k }

theorem alike_withFirst (p : SignerView → Dnskey → Bool) (v : SignerView) :
    v.Alike (withFirst p v) :=
  ⟨rfl, (List.filter_append_perm _ _).symm, .refl _, .refl _, .refl _⟩

theorem inKeeping_iff : inKeeping views o l = true ↔
    ∀ k ∈ askedAt views o, l.publicKey = k.publicKey → l.algorithm = k.algorithm := by
  simp only [inKeeping, List.all_eq_true, Bool.or_eq_true, bne_iff_ne, beq_iff_eq,
    ← imp_iff_not_or, ne_eq]

/-- If there is a key of some bytes among those that come first, the first one of these bytes is one
of them. -/
theorem find?_withFirst {p : SignerView → Dnskey → Bool} (hl : l ∈ o.dnskeys)
    (hfirst : p o l = true) (hbytes : l.publicKey = k.publicKey) :
    ∃ x ∈ o.dnskeys, p o x = true ∧ x.publicKey = k.publicKey ∧
      (withFirst p o).dnskeys.find? (fun x => x.sameKey k) = some x := by
  cases hx : (o.dnskeys.filter (p o)).find? fun x => x.sameKey k with
  | none => exact absurd hx (find?_sameKey_ne_none (List.mem_filter.2 ⟨hl, hfirst⟩) hbytes)
  | some x =>
    obtain ⟨hmem, hsame⟩ := mem_of_find?_sameKey hx
    obtain ⟨hmem, hp⟩ := List.mem_filter.1 hmem
    refine ⟨x, hmem, hp, hsame, ?_⟩
    rw [withFirst, List.find?_append, hx, Option.some_or]

section OrderMatters

variable (h : OrderMatters views origins)
include h

/-- With the keys that are in keeping first, keys are synced. -/
theorem OrderMatters.synced :
    KeysSynced (views.map (withFirst (inKeeping views))) origins := by
  have hviews : Interchangeable views (views.map (withFirst (inKeeping views))) :=
    (rearranged_map (alike_withFirst _)).interchangeable
  have hsame := h.of_interchangeable hviews
  refine ⟨hsame.kept, forall_askedAt.2 fun w hw hstays k hk => ?_⟩
  obtain ⟨o, ho, rfl⟩ := List.mem_map.1 hw
  have hok : k ∈ askedAt views o :=
    askedAt_of_interchangeable hviews.symm (alike_withFirst _ o).symm hk
  obtain ⟨l, hl, hbytes, halgorithm⟩ := h.served o ho hstays k hok
  have hkeeping : inKeeping views o l = true := inKeeping_iff.2 fun k' hk' hbytes' => by
    rw [halgorithm, h.alike o ho hstays k' hk' k hok (hbytes.symm.trans hbytes')]
  obtain ⟨x, -, hx, hxbytes, hfind⟩ := find?_withFirst hl hkeeping hbytes
  exact ⟨x, hfind, inKeeping_iff.1 hx k hok hxbytes⟩

/-- With those that are not in keeping first, they are not. -/
theorem OrderMatters.not_synced :
    ¬ KeysSynced (views.map (withFirst fun v l => !inKeeping views v l)) origins := by
  intro hsynced
  have hlike := alike_withFirst fun v l => !inKeeping views v l
  have hviews : Interchangeable views
      (views.map (withFirst fun v l => !inKeeping views v l)) :=
    (rearranged_map hlike).interchangeable
  obtain ⟨o, ho, hstays, k, hk, l, hl, hbytes, halgorithm⟩ := h.odd
  have hodd : (!inKeeping views o l) = true := by
    rw [Bool.not_eq_true', ← Bool.not_eq_true, inKeeping_iff]
    exact fun hkeeping => halgorithm (hkeeping k hk hbytes)
  obtain ⟨x, -, hx, hxbytes, hfind⟩ :=
    find?_withFirst (p := fun v l => !inKeeping views v l) hl hodd hbytes
  obtain ⟨y, hy, hyalgorithm⟩ := forall_askedAt.1 hsynced.found _ (List.mem_map_of_mem ho) hstays k
    (askedAt_of_interchangeable hviews (hlike o) hk)
  rw [hfind] at hy
  obtain rfl := Option.some.inj hy
  -- what is found is at odds with some key that has the same bytes, and so with this one
  rw [Bool.not_eq_true', ← Bool.not_eq_true, inKeeping_iff] at hx
  refine hx fun k' hk' hbytes' => ?_
  rw [hyalgorithm, h.alike o ho hstays k' hk' k hk (hxbytes.symm.trans hbytes')]

end OrderMatters

/-! ## 5. What becomes of the flags -/

/-- **What another order changes.**  Views in another order are evaluated just if they were before,
and four of the flags are as before.  Whether keys are found synced depends on the order just if it
decides which of two keys of the same bytes is found. -/
theorem flags_of_rearranged :
    (∀ views' parent', Rearranged views views' → parent.Alike parent' →
      ((∃ f, (ofViews zone views parent origins).flags = .ok f) ↔
        ∃ f', (ofViews zone views' parent' origins).flags = .ok f') ∧
      ∀ f f', (ofViews zone views parent origins).flags = .ok f →
        (ofViews zone views' parent' origins).flags = .ok f' →
        ∀ flag, flag ≠ .dnskeys → f'.get flag = f.get flag) ∧
    ((∀ views' parent', Rearranged views views' → parent.Alike parent' →
      ∀ f f', (ofViews zone views parent origins).flags = .ok f →
        (ofViews zone views' parent' origins).flags = .ok f' → f'.dnskeys = f.dnskeys) ↔
      ¬ (Tagged views ∧ OrderMatters views origins)) := by
  refine ⟨fun views' parent' hr hp => ⟨?_, fun f f' hf hf' flag hflag => ?_⟩, ?_, ?_⟩
  · have hviews := hr.interchangeable
    rw [exists_flags_iff, exists_flags_iff]
    exact ⟨Tagged.of_interchangeable hviews, Tagged.of_interchangeable hviews.symm⟩
  · have hviews := hr.interchangeable
    rw [Bool.eq_iff_iff, get_iff hf', get_iff hf]
    exact ⟨Holds.of_interchangeable hviews.symm hp.symm hflag,
      Holds.of_interchangeable hviews hp hflag⟩
  · rintro hsame ⟨htagged, hmatters⟩
    obtain ⟨f, hf⟩ := exists_flags_iff.2 htagged
    have hflag : ∀ p, f.dnskeys = true ↔ KeysSynced (views.map (withFirst p)) origins := by
      intro p
      have hr : Rearranged views (views.map (withFirst p)) := rearranged_map (alike_withFirst p)
      obtain ⟨f', hf'⟩ := exists_flags_iff.2 (htagged.of_interchangeable hr.interchangeable)
      rw [← hsame _ parent hr (.refl _) f f' hf hf']
      exact get_iff hf' .dnskeys
    exact hmatters.not_synced ((hflag _).1 ((hflag _).2 hmatters.synced))
  · intro hnot views' parent' hr _ f f' hf hf'
    have hviews := hr.interchangeable
    have hodd : ¬ OrderMatters views origins := fun hodd =>
      hnot ⟨exists_flags_iff.1 ⟨f, hf⟩, hodd⟩
    rw [Bool.eq_iff_iff]
    refine (get_iff hf' .dnskeys).trans (Iff.trans ⟨?_, ?_⟩ (get_iff hf .dnskeys).symm)
    · exact KeysSynced.of_interchangeable hviews.symm
        (mt (OrderMatters.of_interchangeable hviews.symm) hodd)
    · exact KeysSynced.of_interchangeable hviews hodd

end Evaluation

namespace Sample

/-- The bytes of one key under another algorithm and flag, and under its own. -/
def twins : List Dnskey := [⟨true, true, false, 8, [1]⟩, ⟨true, false, false, 13, [1]⟩]

/-- A signer with some keys. -/
def keyedView (name : String) (keys : List Dnskey) : SignerView where
  member := ⟨name, { group := .root, address := name, nameserver := .root }⟩
  dnskeys := keys

/-- One signer has a key, the other has its twins. -/
def twinned (keys : List Dnskey) : List SignerView :=
  [keyedView "a" [⟨true, false, false, 13, [1]⟩], keyedView "b" keys]

theorem rearranged_twinned :
    Evaluation.Rearranged (twinned twins) (twinned twins.reverse) := by
  refine ⟨_, .cons ?_ (.cons ?_ .nil), .refl _⟩
  · exact ⟨rfl, .refl _, .refl _, .refl _, .refl _⟩
  · exact ⟨rfl, (List.reverse_perm _).symm, .refl _, .refl _, .refl _⟩

/-- How keys are found at signers that have them under any flags. -/
def keysFound (views : List SignerView) : Option Bool :=
  (Evaluation.ofViews .root views {} .empty).flags.toOption.map SyncFlags.dnskeys

theorem keysFound_twins : keysFound (twinned twins) = some false := by decide +kernel

theorem keysFound_reversed : keysFound (twinned twins.reverse) = some true := by decide +kernel

theorem exists_of_keysFound {views : List SignerView} {b : Bool} (h : keysFound views = some b) :
    ∃ f, (Evaluation.ofViews .root views {} .empty).flags = .ok f ∧ f.dnskeys = b := by
  obtain ⟨f, hf, hfound⟩ := Option.map_eq_some_iff.1 h
  exact ⟨f, eq_ok_of_toOption hf, hfound⟩

/-- **The order of twins decides** whether the key is found synced. -/
theorem flags_of_twins : ¬ ∀ (zone : DomainName) (views views' : List SignerView)
    (parent parent' : ParentView) (origins : OrderedMap String String) (f f' : SyncFlags),
      Evaluation.Rearranged views views' → parent.Alike parent' →
      (Evaluation.ofViews zone views parent origins).flags = .ok f →
      (Evaluation.ofViews zone views' parent' origins).flags = .ok f' → f' = f := by
  intro hsame
  obtain ⟨f, hf, hfound⟩ := exists_of_keysFound keysFound_twins
  obtain ⟨f', hf', hfound'⟩ := exists_of_keysFound keysFound_reversed
  rw [hsame .root _ _ {} {} .empty f f' rearranged_twinned (.refl _) hf hf', hfound] at hfound'
  cases hfound'

/-- So these are views for which the order matters. -/
theorem flags_of_rearranged_twins :
    Evaluation.Tagged (twinned twins) ∧ Evaluation.OrderMatters (twinned twins) .empty := by
  by_contra hnot
  obtain ⟨f, hf, hfound⟩ := exists_of_keysFound keysFound_twins
  obtain ⟨f', hf', hfound'⟩ := exists_of_keysFound keysFound_reversed
  have hsame := Evaluation.flags_of_rearranged.2.2 hnot _ {} rearranged_twinned (.refl _) f f'
    hf hf'
  rw [hfound, hfound'] at hsame
  cases hsame

end Sample
end MultiSigner
