/-
# How operations run

An operation is a reader of the outside over a failure over a session.  This module opens that
stack once: `perform_bind` says what two operations do one after the other, and every other module
reasons with `perform` only.

Most of what is said later about an operation does not depend on how it goes.  A `Footprint` is a
relation between the session found and the session left that survives sequencing, and
`Leaves F op` says that `op` stays within `F` however it goes, also when it fails.  One lemma for
each way of putting operations together (`leaves_bind`, `leaves_mapM`, ...) makes the footprint of
an operation follow its text.

To say that an operation does succeed, `Achieves o s op Q` is used; it goes along the text of an
operation in the same way.

Main statements: `perform_bind_eq_ok` (an operation that succeeds, taken apart),
`perform_mapM_eq_ok` (the same along a list), `Leaves.rel_of_perform` (what a footprint says of one
run) and `achieves_mapM` (a pass over a list that succeeds).
-/
import Mathlib.Data.List.Forall2
import MultiSigner.Operation.Basic

namespace MultiSigner

variable {ω α β : Type}

theorem bind_eq_ok {r : Except Error α} {f : α → Except Error β} {b : β} :
    (r >>= f) = .ok b ↔ ∃ a, r = .ok a ∧ f a = .ok b := by
  constructor
  · intro h
    cases r with
    | error e => cases h
    | ok a => exact ⟨a, rfl, h⟩
  · rintro ⟨a, rfl, h⟩
    exact h

/-- A pass over a list without a session. -/
theorem mapM_eq_ok {f : α → Except Error β} :
    ∀ {l : List α} {bs : List β}, l.mapM f = .ok bs ↔ List.Forall₂ (fun a b => f a = .ok b) l bs
  | [], bs => by
    rw [List.mapM_nil, List.forall₂_nil_left_iff]
    exact ⟨fun h => by cases h; rfl, fun h => by rw [h]; rfl⟩
  | a :: l, bs => by
    rw [List.mapM_cons, List.forall₂_cons_left_iff]
    constructor
    · intro h
      obtain ⟨b, hb, h⟩ := bind_eq_ok.1 h
      obtain ⟨cs, hcs, h⟩ := bind_eq_ok.1 h
      cases h
      exact ⟨b, cs, hb, mapM_eq_ok.1 hcs, rfl⟩
    · rintro ⟨b, cs, hb, hcs, rfl⟩
      rw [hb, mapM_eq_ok.2 hcs]
      rfl

namespace Operation

/-! ## 1. Single steps -/

section Perform

variable {o : Outside ω} {s : Session ω}

@[simp] theorem perform_pure (a : α) : (pure a : Operation ω α).perform o s = (.ok a, s) := rfl

@[simp] theorem perform_throw (e : Error) :
    (throw e : Operation ω α).perform o s = (.error e, s) := rfl

/-- **Two operations, one after the other.**  The second one runs in the session that the first one
leaves, unless that one failed. -/
@[simp] theorem perform_bind (op : Operation ω α) (f : α → Operation ω β) :
    (op >>= f).perform o s = match op.perform o s with
      | (.ok a, t) => (f a).perform o t
      | (.error e, t) => (.error e, t) := by
  simp only [perform, ReaderT.run, ExceptT.run, StateT.run, bind, ReaderT.bind, ExceptT.bind,
    ExceptT.mk, StateT.bind, ExceptT.bindCont]
  rcases op o s with ⟨a | a, t⟩ <;> rfl

@[simp] theorem perform_lift (r : Except Error α) :
    (liftM r : Operation ω α).perform o s = (r, s) := by
  cases r <;> rfl

@[simp] theorem perform_get : (get : Operation ω (Session ω)).perform o s = (.ok s, s) := rfl

@[simp] theorem perform_set (t : Session ω) :
    (set t : Operation ω PUnit).perform o s = (.ok ⟨⟩, t) := rfl

@[simp] theorem perform_read : (read : Operation ω (Outside ω)).perform o s = (.ok o, s) := rfl

@[simp] theorem perform_attempt (op : Operation ω α) :
    (attempt op).perform o s = (.ok (op.perform o s).1, (op.perform o s).2) := rfl

@[simp] theorem perform_state : (state : Operation ω State).perform o s = (.ok s.state, s) := rfl

@[simp] theorem perform_modifyState (f : State → State) :
    (modifyState f : Operation ω Unit).perform o s = (.ok (), { s with state := f s.state }) := rfl

@[simp] theorem perform_line (text : String) :
    (line text : Operation ω Unit).perform o s
      = (.ok (), { s with transcript := s.transcript.line text }) := rfl

@[simp] theorem perform_lines (texts : List String) :
    (lines texts : Operation ω Unit).perform o s
      = (.ok (), { s with transcript := s.transcript.append ⟨texts⟩ }) := rfl

@[simp] theorem perform_publish (e : Event) :
    (publish e : Operation ω Unit).perform o s = (.ok (), { s with events := s.events ++ [e] }) :=
  rfl

@[simp] theorem perform_now :
    (now : Operation ω Timestamp).perform o s = (.ok (o.now s.world), s) := rfl

@[simp] theorem perform_query (server : String) (zone : DomainName) (kind : RecordKind) :
    (query server zone kind : Operation ω Answer).perform o s
      = ((o.query server zone kind s.world).1,
        { s with world := (o.query server zone kind s.world).2 }) := by
  simp only [query, perform_bind, perform_get, perform_read, perform_set, perform_lift]

@[simp] theorem perform_save :
    (save : Operation ω Unit).perform o s
      = ((o.save s.state s.world).1, { s with world := (o.save s.state s.world).2 }) := by
  simp only [save, perform_bind, perform_get, perform_read, perform_set, perform_lift]

/-- Observers are told, which never fails. -/
@[simp] theorem perform_publishStatus (zone : DomainName) :
    (publishStatus zone).perform o s
      = (.ok (), { s with events := s.events ++ (Event.status? s.state zone).toList }) := by
  simp only [publishStatus, perform_bind, perform_state]
  cases Event.status? s.state zone with
  | none => simp only [perform_pure, Option.toList_none, List.append_nil]
  | some e => simp only [perform_publish, Option.toList_some]

/-- A report is said up to its first failure, with which it fails. -/
@[simp] theorem perform_tell (r : Report String) :
    (tell r : Operation ω Unit).perform o s = (match r.failure? with
      | none => .ok ()
      | some e => .error e, { s with transcript := s.transcript.append ⟨r.items⟩ }) := by
  rw [tell, perform_bind, perform_lines]
  cases r.failure? with
  | none => rfl
  | some e => rfl

@[simp] theorem perform_ite {c : Prop} [Decidable c] (op₁ op₂ : Operation ω α) :
    (if c then op₁ else op₂).perform o s
      = if c then op₁.perform o s else op₂.perform o s := by
  split <;> rfl

/-! ## 2. Taking a run apart -/

theorem perform_bind_eq_ok {op : Operation ω α} {f : α → Operation ω β} {b : β} {t : Session ω} :
    (op >>= f).perform o s = (.ok b, t)
      ↔ ∃ a m, op.perform o s = (.ok a, m) ∧ (f a).perform o m = (.ok b, t) := by
  rw [perform_bind]
  constructor
  · intro h
    rcases hop : op.perform o s with ⟨e | a, m⟩
    · rw [hop] at h
      cases h
    · rw [hop] at h
      exact ⟨a, m, rfl, h⟩
  · rintro ⟨a, m, hop, hf⟩
    rw [hop]
    exact hf

theorem perform_of_fst {op : Operation ω α} {r : Except Error α} (h : (op.perform o s).1 = r) :
    op.perform o s = (r, (op.perform o s).2) := by
  rw [← h]

end Perform

/-! ## 3. Footprints -/

end Operation

/-- What operations do to a session, said so that it holds of two of them in a row if it holds of
each. -/
structure Footprint (ω : Type) where
  rel : Session ω → Session ω → Prop
  refl : ∀ s, rel s s
  trans : ∀ {s t u}, rel s t → rel t u → rel s u

namespace Footprint

/-- Some part of the session stays as it is. -/
def keeping (f : Session ω → α) : Footprint ω where
  rel s t := f t = f s
  refl _ := rfl
  trans h k := k.trans h

/-- The document keeps a property. -/
def preserving (P : State → Prop) : Footprint ω where
  rel s t := P s.state → P t.state
  refl _ := id
  trans h k := k ∘ h

/-- Updates may be sent, each of which is as told. -/
def sending (P : Delivery → Prop) : Footprint ω where
  rel s t := ∃ ds, t.deliveries = s.deliveries ++ ds ∧ ∀ d ∈ ds, P d
  refl s := ⟨[], by simp⟩
  trans := by
    rintro s t u ⟨ds, hds, hP⟩ ⟨es, hes, hQ⟩
    refine ⟨ds ++ es, by rw [hes, hds, List.append_assoc], fun d hd => ?_⟩
    rcases List.mem_append.1 hd with hd | hd
    · exact hP d hd
    · exact hQ d hd

end Footprint

/-- All of a session but the outside and the lines that it reports. -/
def Session.lasting (s : Session ω) : State × Scheduler × List Event × List Delivery :=
  (s.state, s.scheduler, s.events, s.deliveries)

namespace Operation

/-- The operation stays within a footprint, also when it fails. -/
def Leaves (F : Footprint ω) (op : Operation ω α) : Prop :=
  ∀ o s, F.rel s (op.perform o s).2

/-- The operation reports and asks, and does nothing else. -/
abbrev Quiet (op : Operation ω α) : Prop :=
  Leaves (.keeping Session.lasting) op

section Leaves

variable {F : Footprint ω}

theorem Leaves.rel_of_perform {op : Operation ω α} (h : Leaves F op) {o : Outside ω}
    {s t : Session ω} {r : Except Error α} (hp : op.perform o s = (r, t)) : F.rel s t := by
  have := h o s
  rwa [hp] at this

theorem leaves_of_perform_eq {op : Operation ω α}
    (h : ∀ o s, (op.perform o s).2 = s) : Leaves F op := fun o s => by
  rw [h o s]
  exact F.refl s

theorem leaves_pure (a : α) : Leaves F (pure a : Operation ω α) :=
  leaves_of_perform_eq fun _ _ => rfl

theorem leaves_throw (e : Error) : Leaves F (throw e : Operation ω α) :=
  leaves_of_perform_eq fun _ _ => rfl

theorem leaves_lift (r : Except Error α) : Leaves F (liftM r : Operation ω α) :=
  leaves_of_perform_eq fun _ _ => by rw [perform_lift]

theorem leaves_state : Leaves F (state : Operation ω State) :=
  leaves_of_perform_eq fun _ _ => rfl

theorem leaves_get : Leaves F (get : Operation ω (Session ω)) :=
  leaves_of_perform_eq fun _ _ => rfl

theorem leaves_read : Leaves F (read : Operation ω (Outside ω)) :=
  leaves_of_perform_eq fun _ _ => rfl

theorem leaves_now : Leaves F (now : Operation ω Timestamp) :=
  leaves_of_perform_eq fun _ _ => rfl

theorem leaves_bind {op : Operation ω α} {f : α → Operation ω β} (h : Leaves F op)
    (k : ∀ a, Leaves F (f a)) : Leaves F (op >>= f) := by
  intro o s
  have hs := h o s
  rw [perform_bind]
  rcases hop : op.perform o s with ⟨e | a, t⟩
  · rw [hop] at hs
    exact hs
  · rw [hop] at hs
    exact F.trans hs (k a o t)

theorem leaves_ite {c : Prop} [Decidable c] {op₁ op₂ : Operation ω α} (h₁ : Leaves F op₁)
    (h₂ : Leaves F op₂) : Leaves F (if c then op₁ else op₂) := by
  split
  · exact h₁
  · exact h₂

/-- What is refused under a condition, and goes on otherwise. -/
theorem leaves_unless {c : Prop} [Decidable c] {e : Error} {op : Unit → Operation ω α}
    (h : Leaves F (op ())) : Leaves F (if c then throw e >>= op else op ()) :=
  leaves_ite (leaves_bind (leaves_throw e) fun _ => h) h

theorem leaves_mapM {f : α → Operation ω β} (h : ∀ a, Leaves F (f a)) :
    ∀ l : List α, Leaves F (l.mapM f)
  | [] => by
    rw [List.mapM_nil]
    exact leaves_pure []
  | a :: l => by
    rw [List.mapM_cons]
    exact leaves_bind (h a) fun b => leaves_bind (leaves_mapM h l) fun bs => leaves_pure (b :: bs)

theorem leaves_foldlM {f : β → α → Operation ω β} (h : ∀ b a, Leaves F (f b a)) :
    ∀ (l : List α) (b : β), Leaves F (l.foldlM f b)
  | [], b => leaves_pure b
  | a :: l, b => by
    rw [List.foldlM_cons]
    exact leaves_bind (h b a) fun c => leaves_foldlM h l c

theorem leaves_forM {f : α → Operation ω PUnit} : ∀ {l : List α}, (∀ a ∈ l, Leaves F (f a)) →
    Leaves F (l.forM f)
  | [], _ => leaves_pure _
  | a :: _, h =>
    leaves_bind (h a List.mem_cons_self)
      fun _ => leaves_forM fun b hb => h b (List.mem_cons_of_mem _ hb)

/-- Failures that are caught leave what they leave. -/
theorem leaves_attempt {op : Operation ω α} (h : Leaves F op) : Leaves F (attempt op) := h

/-- A footprint may be widened. -/
theorem Leaves.mono {G : Footprint ω} {op : Operation ω α} (h : Leaves F op)
    (hFG : ∀ s t, F.rel s t → G.rel s t) : Leaves G op := fun o s => hFG _ _ (h o s)

/-- **A successful pass over a list, taken apart.**  Each item was dealt with in some session on
the way, and the way stays within the footprint. -/
theorem perform_mapM_eq_ok {f : α → Operation ω β} (h : ∀ a, Leaves F (f a)) {o : Outside ω} :
    ∀ {l : List α} {bs : List β} {s t : Session ω}, (l.mapM f).perform o s = (.ok bs, t) →
      List.Forall₂ (fun a b => ∃ u v, F.rel s u ∧ (f a).perform o u = (.ok b, v) ∧ F.rel v t) l bs
  | [], bs, s, t, hp => by
    rw [List.mapM_nil, perform_pure] at hp
    cases hp
    exact .nil
  | a :: l, bs, s, t, hp => by
    rw [List.mapM_cons, perform_bind_eq_ok] at hp
    obtain ⟨b, u, hb, hp⟩ := hp
    rw [perform_bind_eq_ok] at hp
    obtain ⟨cs, v, hcs, hp⟩ := hp
    cases hp
    have hsu : F.rel s u := (h a).rel_of_perform hb
    have hut : F.rel u t := (leaves_mapM h l).rel_of_perform hcs
    refine .cons ⟨s, u, F.refl s, hb, hut⟩ ((perform_mapM_eq_ok h hcs).imp ?_)
    rintro c d ⟨v, w, huv, hcd, hwt⟩
    exact ⟨v, w, F.trans hsu huv, hcd, hwt⟩

/-- **A successful pass over a list keeps an invariant** that each item keeps, and each result is as
the item makes it. -/
theorem invariant_of_mapM {I : Session ω → Prop} {P : α → β → Prop} {f : α → Operation ω β}
    {o : Outside ω} : ∀ {l : List α} {bs : List β} {s t : Session ω},
      (∀ a ∈ l, ∀ b u v, I u → (f a).perform o u = (.ok b, v) → P a b ∧ I v) →
        (l.mapM f).perform o s = (.ok bs, t) → I s → List.Forall₂ P l bs ∧ I t
  | [], bs, s, t, _, hp, hs => by
    rw [List.mapM_nil, perform_pure] at hp
    cases hp
    exact ⟨.nil, hs⟩
  | a :: l, bs, s, t, h, hp, hs => by
    rw [List.mapM_cons, perform_bind_eq_ok] at hp
    obtain ⟨b, u, hb, hp⟩ := hp
    rw [perform_bind_eq_ok] at hp
    obtain ⟨cs, v, hcs, hp⟩ := hp
    cases hp
    obtain ⟨hab, hu⟩ := h a List.mem_cons_self b s u hs hb
    obtain ⟨hl, ht⟩ := invariant_of_mapM (fun c hc => h c (List.mem_cons_of_mem _ hc)) hcs hu
    exact ⟨.cons hab hl, ht⟩

/-- **Two operations keep an invariant** that each of them keeps, also if one fails. -/
theorem kept_of_bind {I : Session ω → Prop} {op : Operation ω α} {f : α → Operation ω β}
    {o : Outside ω} {s : Session ω} (h : I (op.perform o s).2)
    (k : ∀ a t, op.perform o s = (.ok a, t) → I t → I ((f a).perform o t).2) :
    I ((op >>= f).perform o s).2 := by
  rw [perform_bind]
  rcases hop : op.perform o s with ⟨e | a, t⟩
  all_goals rw [hop] at h
  · exact h
  · exact k a t hop h

/-- So does a pass over a list, also if it ends early. -/
theorem kept_of_mapM {I : Session ω → Prop} {f : α → Operation ω β} {o : Outside ω} :
    ∀ {l : List α} {s : Session ω},
      (∀ a ∈ l, ∀ t, I t → I ((f a).perform o t).2) → I s → I ((l.mapM f).perform o s).2
  | [], _, _, hs => hs
  | a :: l, s, h, hs => by
    rw [List.mapM_cons]
    refine kept_of_bind (h a List.mem_cons_self s hs) fun b t _ ht => ?_
    have hrest := kept_of_mapM (fun c hc => h c (List.mem_cons_of_mem _ hc)) ht
    exact kept_of_bind hrest fun _ _ _ hu => hu

end Leaves

/-- What stands on the right of related lists has its partner on the left. -/
theorem exists_mem_of_forall₂ {R : α → β → Prop} {l : List α} {m : List β}
    (h : List.Forall₂ R l m) {b : β} (hb : b ∈ m) : ∃ a ∈ l, R a b := by
  induction h with
  | nil => cases hb
  | cons hab _ ih =>
    rcases List.mem_cons.1 hb with rfl | hb
    · exact ⟨_, List.mem_cons_self, hab⟩
    · obtain ⟨a, ha, hr⟩ := ih hb
      exact ⟨a, List.mem_cons_of_mem _ ha, hr⟩

/-! ## 4. Operations that only report and ask -/

theorem quiet_line (text : String) : Quiet (line text : Operation ω Unit) := fun _ _ => rfl

theorem quiet_lines (texts : List String) : Quiet (lines texts : Operation ω Unit) :=
  fun _ _ => rfl

theorem quiet_tell (r : Report String) : Quiet (tell r : Operation ω Unit) := by
  refine leaves_bind (quiet_lines _) fun _ => ?_
  cases r.failure? with
  | none => exact leaves_pure _
  | some e => exact leaves_throw e

theorem quiet_query (server : String) (zone : DomainName) (kind : RecordKind) :
    Quiet (query server zone kind : Operation ω Answer) := fun _ _ => by
  rw [perform_query]
  rfl

end Operation

/-- What a quiet operation leaves alone. -/
theorem Session.lasting_eq_iff {s t : Session ω} :
    t.lasting = s.lasting ↔ t.state = s.state ∧ t.scheduler = s.scheduler
      ∧ t.events = s.events ∧ t.deliveries = s.deliveries := by
  simp only [Session.lasting, Prod.mk.injEq]

namespace Operation

theorem Quiet.state_eq {op : Operation ω α} (h : Quiet op) {o : Outside ω} {s t : Session ω}
    {r : Except Error α} (hp : op.perform o s = (r, t)) : t.state = s.state :=
  (Session.lasting_eq_iff.1 (h.rel_of_perform hp)).1

/-! ## 5. Operations that succeed -/

/-- The operation succeeds in the given session, and its result and the session that it leaves are
as told. -/
def Achieves (o : Outside ω) (s : Session ω) (op : Operation ω α) (Q : α → Session ω → Prop) :
    Prop :=
  ∃ a t, op.perform o s = (.ok a, t) ∧ Q a t

section Achieves

variable {o : Outside ω} {s t : Session ω} {Q : α → Session ω → Prop} {R : β → Session ω → Prop}

theorem achieves_pure {a : α} (h : Q a s) : Achieves o s (pure a) Q :=
  ⟨a, s, perform_pure a, h⟩

theorem Achieves.imp {op : Operation ω α} {Q' : α → Session ω → Prop} (h : Achieves o s op Q)
    (k : ∀ a t, Q a t → Q' a t) : Achieves o s op Q' := by
  obtain ⟨a, t, hp, hq⟩ := h
  exact ⟨a, t, hp, k a t hq⟩

/-- Two operations in a row succeed if the first one does and the second one does after it. -/
theorem Achieves.bind {op : Operation ω α} {f : α → Operation ω β} (h : Achieves o s op Q)
    (k : ∀ a t, Q a t → Achieves o t (f a) R) : Achieves o s (op >>= f) R := by
  obtain ⟨a, t, hp, hq⟩ := h
  obtain ⟨b, u, hf, hr⟩ := k a t hq
  exact ⟨b, u, perform_bind_eq_ok.2 ⟨a, t, hp, hf⟩, hr⟩

/-- The same if the outcome of the first one is known. -/
theorem Achieves.after {op : Operation ω α} {f : α → Operation ω β} {a : α}
    (hp : op.perform o s = (.ok a, t)) (k : Achieves o t (f a) R) : Achieves o s (op >>= f) R := by
  obtain ⟨b, u, hf, hr⟩ := k
  exact ⟨b, u, perform_bind_eq_ok.2 ⟨a, t, hp, hf⟩, hr⟩

/-- **A pass over a list succeeds** if each item can be dealt with in every session of a class, and
leaves one of this class. -/
theorem achieves_mapM {I : Session ω → Prop} {f : α → Operation ω β} {P : α → β → Prop} :
    ∀ {l : List α} {s : Session ω},
      (∀ a ∈ l, ∀ s, I s → Achieves o s (f a) fun b t => P a b ∧ I t) → I s →
        Achieves o s (l.mapM f) fun bs t => List.Forall₂ P l bs ∧ I t
  | [], s, _, hs => by
    rw [List.mapM_nil]
    exact achieves_pure ⟨.nil, hs⟩
  | a :: l, s, h, hs => by
    rw [List.mapM_cons]
    refine (h a List.mem_cons_self s hs).bind fun b t ⟨hb, ht⟩ => ?_
    refine (achieves_mapM (fun c hc => h c (List.mem_cons_of_mem _ hc)) ht).bind
      fun bs u ⟨hbs, hu⟩ => ?_
    exact achieves_pure ⟨.cons hb hbs, hu⟩

end Achieves

end Operation
end MultiSigner
