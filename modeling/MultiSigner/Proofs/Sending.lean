/-
# How far a push gets

A push looks up the targets of all plans with changes and then sends their updates one after the
other.  Both halves are said exactly here, including every line of the transcript.

* Looking up goes through all plans and reports those whose signer has no usable credential
  (`perform_resolveAll`).
* Sending applies the updates of a prefix of the plans (`Push.Applied`) and ends with the first
  update that is not accepted (`Push.Stops`, proved by induction along the plans).

`prefix_of_push` puts them together.  The updaters are arbitrary, but an update that fails must not
have changed anything.
-/
import MultiSigner.Proofs.Run
import MultiSigner.Proofs.Targets

namespace MultiSigner

open Operation

variable {ω : Type} {o : Outside ω} {s t : Session ω} {zone : DomainName} {σ : State}

namespace Push

/-! ## 1. Looking up one target -/

/-- A signer has an address, and there is a way to update it. -/
structure Reachable (o : Outside ω) (m : Member) : Prop where
  address : m.signer.address.isEmpty = false
  updater : ∃ x, o.updaterFor m.signer.kind = .ok x

theorem Ready.reachable {m : Member} (h : Ready o σ m) : Reachable o m :=
  ⟨h.address, h.updater⟩

/-- The plan with its target, if there is a credential to use. -/
def found? (σ : State) (p : Plan) : Option (Plan × UpdateTarget) :=
  match credential σ p.member with
  | .ok c => some (p, target σ p.member c)
  | .error _ => none

/-- The line about a signer without a usable credential. -/
def problem? (σ : State) (p : Plan) : Option String :=
  match credential σ p.member with
  | .ok _ => none
  | .error e => some s!"Skipping signer {p.member.name}: {e.message}"

/-- Signers without a usable credential, in the order of their plans. -/
def problems (σ : State) (plans : List Plan) : List String :=
  plans.filterMap (problem? σ)

theorem problems_cons (σ : State) (p : Plan) (plans : List Plan) :
    problems σ (p :: plans) = (problem? σ p).toList ++ problems σ plans := by
  rw [problems, problems, List.filterMap_cons]
  cases problem? σ p <;> rfl

theorem problems_eq_nil {plans : List Plan} (h : ∀ p ∈ plans, Ready o σ p.member) :
    problems σ plans = [] := by
  refine List.filterMap_eq_nil_iff.2 fun p hp => ?_
  obtain ⟨c, hc⟩ := (h p hp).credential
  rw [problem?, hc]

theorem perform_checkMember {m : Member} (h : Reachable o m) :
    (checkMember m).perform o s = (.ok (), s) := by
  obtain ⟨x, hx⟩ := h.updater
  simp only [checkMember, checkAddress, h.address, perform_bind, perform_lift, perform_read, hx,
    Bool.false_eq_true, if_false, perform_pure]

theorem perform_resolve {p : Plan} (h : Reachable o p.member) :
    (resolve p).perform o s = (.ok (found? s.state p), { s with
      transcript := s.transcript.append ⟨(problem? s.state p).toList⟩ }) := by
  simp only [resolve, perform_bind, perform_checkMember h, perform_state, found?, problem?]
  cases credential s.state p.member with
  | ok c => simp [Transcript.append]
  | error e => rfl

theorem perform_mapM_resolve : ∀ {plans : List Plan} {s : Session ω},
    (∀ p ∈ plans, Reachable o p.member) →
      (plans.mapM resolve).perform o s = (.ok (plans.map (found? s.state)), { s with
        transcript := s.transcript.append ⟨problems s.state plans⟩ })
  | [], s, _ => by
    simp only [List.mapM_nil, perform_pure, problems, List.filterMap_nil, List.map_nil,
      Transcript.append, List.append_nil]
  | p :: plans, s, h => by
    obtain ⟨hp, hrest⟩ := List.forall_mem_cons.1 h
    simp only [List.mapM_cons, perform_bind, perform_resolve hp, perform_mapM_resolve hrest,
      perform_pure, List.map_cons, problems_cons, Transcript.append, List.append_assoc]

/-- Each plan has a target or a problem. -/
theorem length_found_add (σ : State) : ∀ plans : List Plan,
    (plans.filterMap (found? σ)).length + (problems σ plans).length = plans.length
  | [] => rfl
  | p :: plans => by
    have ih := length_found_add σ plans
    have hone : (found? σ p).toList.length + (problem? σ p).toList.length = 1 := by
      unfold found? problem?
      cases credential σ p.member <;> rfl
    have hcons : (p :: plans).filterMap (found? σ)
        = (found? σ p).toList ++ plans.filterMap (found? σ) := by
      rw [List.filterMap_cons]
      cases found? σ p <;> rfl
    rw [problems_cons, hcons, List.length_append, List.length_append, List.length_cons]
    omega

/-- **Looking up, said exactly**: the problems are reported, and one of them is enough to fail. -/
theorem perform_resolveAll {plans : List Plan} (h : ∀ p ∈ plans, Reachable o p.member) :
    (resolveAll plans).perform o s =
      (if problems s.state plans = [] then .ok (plans.filterMap (found? s.state))
        else .error (.signersMisconfigured (problems s.state plans).length),
      { s with transcript := s.transcript.append ⟨problems s.state plans⟩ }) := by
  have hlength := length_found_add s.state plans
  simp only [resolveAll, perform_bind, perform_mapM_resolve h, List.filterMap_map,
    Function.comp_def, id]
  rw [perform_ite]
  by_cases hnone : problems s.state plans = []
  · have hall : ¬ (plans.filterMap (found? s.state)).length < plans.length := by
      rw [hnone, List.length_nil] at hlength
      omega
    rw [if_neg hall, if_pos hnone, perform_pure]
  · have hpos := List.length_pos_of_ne_nil hnone
    have hsome : (plans.filterMap (found? s.state)).length < plans.length := by omega
    have hcount : plans.length - (plans.filterMap (found? s.state)).length
      = (problems s.state plans).length := by omega
    rw [if_pos hsome, if_neg hnone, hcount]
    rfl

/-! ## 2. Sending one update -/

/-- What comes of an update; where there is no way to send it, nothing but a failure. -/
def reply (o : Outside ω) (u : Update) (w : ω) : UpdateReply ω :=
  match o.updaterFor u.target.kind with
  | .ok x => x.apply u w
  | .error e => ⟨[], .error e, w⟩

/-- The update of a plan, in full: for the zone, with the changes of the plan, to the address of its
own signer and with the credential of this signer. -/
structure Own (zone : DomainName) (σ : State) (p : Plan) (u : Update) : Prop where
  zone : u.zone = zone
  changes : u.changes = p.changes
  signer : u.target.signer = p.member.name
  kind : u.target.kind = p.member.signer.kind
  address : u.target.address = p.member.signer.address
  credential : credential σ p.member = .ok u.target.credential

theorem own_of_resolved {p : Plan} {q : Plan × UpdateTarget} (h : Resolved σ p q) :
    q.1 = p ∧ Own zone σ p (updateOf zone q) := by
  obtain ⟨c, hc, rfl⟩ := h
  exact ⟨rfl, rfl, rfl, rfl, rfl, rfl, hc⟩

/-- **One update, said exactly.**  Its lines are reported in any case, those of the plan only if it
was accepted. -/
theorem perform_send_eq {q : Plan × UpdateTarget} {x : Updater ω}
    (hx : o.updaterFor q.2.kind = .ok x) :
    (send zone q).perform o s =
      match (reply o (updateOf zone q) s.world).outcome with
      | .ok _ => (.ok (), { s with
          world := (reply o (updateOf zone q) s.world).world
          transcript := s.transcript.append
            ⟨(reply o (updateOf zone q) s.world).lines ++ q.1.applied⟩
          deliveries := s.deliveries ++ [⟨updateOf zone q, .ok ()⟩] })
      | .error e => (.error e, { s with
          world := (reply o (updateOf zone q) s.world).world
          transcript := s.transcript.append ⟨(reply o (updateOf zone q) s.world).lines⟩
          deliveries := s.deliveries ++ [⟨updateOf zone q, .error e⟩] }) := by
  simp only [send, deliver, reply, updateOf, perform_bind, perform_read, perform_lift, perform_get,
    perform_set, perform_lines, hx]
  cases (x.apply ⟨zone, q.2, q.1.changes⟩ s.world).outcome with
  | ok _ => simp only [Transcript.append, List.append_assoc]
  | error e => rfl

/-! ## 3. Sending all -/

/-- The updates of plans are applied, one after the other: each finds what the one before it left,
and is accepted.  What is said meanwhile is what the updaters report and, after each update, the
lines of its plan. -/
inductive Applied (o : Outside ω) : List (Plan × Update) → ω → List String → ω → Prop
  | none (w : ω) : Applied o [] w [] w
  | next {p : Plan} {u : Update} {rest : List (Plan × Update)} {w w' : ω} {said : List String}
      (accepted : (reply o u w).outcome = .ok ())
      (later : Applied o rest (reply o u w).world said w') :
      Applied o ((p, u) :: rest) w ((reply o u w).lines ++ p.applied ++ said) w'

/-- An accepted delivery of an update. -/
def delivered (q : Plan × Update) : Delivery :=
  ⟨q.2, .ok ()⟩

/-- How sending ends: everything is applied, or everything up to one update that fails. -/
inductive Stops (o : Outside ω) (qs : List (Plan × Update)) (s : Session ω) :
    Except Error Unit → Session ω → Nat → Prop
  | all {said : List String} {w : ω} (applied : Applied o qs s.world said w) :
      Stops o qs s (.ok ()) { s with
        world := w
        transcript := s.transcript.append ⟨said⟩
        deliveries := s.deliveries ++ qs.map delivered } qs.length
  | short {first rest : List (Plan × Update)} {q : Plan × Update} {said : List String} {w : ω}
      {e : Error} (split : qs = first ++ q :: rest) (applied : Applied o first s.world said w)
      (failed : (reply o q.2 w).outcome = .error e) :
      Stops o qs s (.error e) { s with
        world := (reply o q.2 w).world
        transcript := s.transcript.append ⟨said ++ (reply o q.2 w).lines⟩
        deliveries := s.deliveries ++ first.map delivered ++ [⟨q.2, .error e⟩] } first.length

/-- A plan with its update, from a plan with its target. -/
def withUpdate (zone : DomainName) (q : Plan × UpdateTarget) : Plan × Update :=
  (q.1, updateOf zone q)

/-- An update that is accepted comes before all that is applied after it. -/
theorem Stops.next {p : Plan} {u : Update} {qs : List (Plan × Update)} {r : Except Error Unit}
    {k : Nat} (accepted : (reply o u s.world).outcome = .ok ())
    (h : Stops o qs { s with
      world := (reply o u s.world).world
      transcript := s.transcript.append ⟨(reply o u s.world).lines ++ p.applied⟩
      deliveries := s.deliveries ++ [⟨u, .ok ()⟩] } r t k) :
    Stops o ((p, u) :: qs) s r t (k + 1) := by
  cases h with
  | all applied =>
    have hstop := Stops.all (s := s) (.next (p := p) accepted applied)
    simp only [List.map_cons, delivered, Transcript.append, List.append_assoc,
      List.cons_append, List.nil_append] at hstop ⊢
    exact hstop
  | @short first rest q said w e split applied failed =>
    have hsplit : (p, u) :: qs = ((p, u) :: first) ++ q :: rest := by rw [split, List.cons_append]
    have hstop := Stops.short (s := s) hsplit (.next accepted applied) failed
    simp only [List.map_cons, delivered, Transcript.append, List.append_assoc,
      List.cons_append, List.nil_append] at hstop ⊢
    exact hstop

/-- **Sending stops at the first update that fails.** -/
theorem stops_of_sends : ∀ {found : List (Plan × UpdateTarget)} {s t : Session ω}
    {r : Except Error Unit}, (∀ q ∈ found, ∃ x, o.updaterFor q.2.kind = .ok x) →
      (found.forM (send zone)).perform o s = (r, t) →
        ∃ k, Stops o (found.map (withUpdate zone)) s r t k
  | [], s, t, r, _, h => by
    cases h
    have hdone : Stops o [] s (.ok ()) { s with
        world := s.world
        transcript := s.transcript.append ⟨[]⟩
        deliveries := s.deliveries ++ [] } 0 := .all (.none s.world)
    simp only [Transcript.append, List.append_nil] at hdone
    exact ⟨0, hdone⟩
  | q :: found, s, t, r, hfound, h => by
    obtain ⟨⟨x, hx⟩, hrest⟩ := List.forall_mem_cons.1 hfound
    rw [show (List.forM (q :: found) (send zone) : Operation ω PUnit) = send zone q >>= fun _ =>
      found.forM (send zone) from rfl, perform_bind, perform_send_eq hx] at h
    cases hout : (reply o (updateOf zone q) s.world).outcome with
    | error e =>
      rw [hout] at h
      cases h
      have hsplit : (q :: found).map (withUpdate zone)
        = [] ++ withUpdate zone q :: found.map (withUpdate zone) := rfl
      have hstop := Stops.short (s := s) hsplit (.none s.world) hout
      rw [List.map_nil, List.append_nil] at hstop
      exact ⟨0, hstop⟩
    | ok _ =>
      rw [hout] at h
      obtain ⟨k, hk⟩ := stops_of_sends hrest h
      exact ⟨k + 1, hk.next hout⟩

/-- Updaters that report nothing leave the lines of the plans. -/
theorem Applied.said_of_silent {qs : List (Plan × Update)} {w w' : ω} {said : List String}
    (hsilent : ∀ u w, (reply o u w).lines = []) (h : Applied o qs w said w') :
    said = qs.flatMap fun q => q.1.applied := by
  induction h with
  | none => rfl
  | next _ _ ih => rw [hsilent, List.nil_append, List.flatMap_cons, ih]

/-! ## 4. Pushing -/

/-- Nothing happened but that lines were reported. -/
def Unsent (s t : Session ω) : Prop :=
  t = { s with transcript := t.transcript }

theorem unsent_of_resolveAll {plans : List Plan} {r : Except Error (List (Plan × UpdateTarget))}
    (h : (resolveAll plans).perform o s = (r, t)) : Unsent s t := by
  have hleaves := leaves_resolveAll (F := .keeping fun s : Session ω =>
    (s.state, s.world, s.scheduler, s.events, s.deliveries)) (fun _ _ _ _ => rfl) plans
  have hsame := hleaves.rel_of_perform h
  simp only [Footprint.keeping, Prod.mk.injEq] at hsame
  obtain ⟨h₁, h₂, h₃, h₄, h₅⟩ := hsame
  cases t
  simp only at h₁ h₂ h₃ h₄ h₅
  rw [Unsent, h₁, h₂, h₃, h₄, h₅]

/-- The first `k` updates were applied and nothing else.  Either that is all, and the push succeeds;
or the next one fails, and the push fails with it. -/
structure Reaches (o : Outside ω) (qs : List (Plan × Update)) (s t : Session ω)
    (r : Except Error Unit) (k : Nat) (said : List String) : Prop where
  settled : t.settled = s.settled
  applied : Applied o (qs.take k) s.world said t.world
  ends : (r = .ok () ∧ k = qs.length ∧
      t.deliveries = s.deliveries ++ (qs.take k).map delivered ∧
      t.transcript = s.transcript.append ⟨said⟩) ∨
    ∃ q e, r = .error e ∧ qs[k]? = some q ∧ (reply o q.2 t.world).outcome = .error e ∧
      t.deliveries = s.deliveries ++ (qs.take k).map delivered ++ [⟨q.2, .error e⟩] ∧
      t.transcript = s.transcript.append ⟨said ++ (reply o q.2 t.world).lines⟩

/-- A failure does not touch the network. -/
def Atomic (o : Outside ω) : Prop :=
  ∀ u w e, (reply o u w).outcome = .error e → (reply o u w).world = w

theorem Stops.reaches {qs : List (Plan × Update)} {r : Except Error Unit} {k : Nat}
    (hatomic : Atomic o) (h : Stops o qs s r t k) : ∃ said, Reaches o qs s t r k said := by
  cases h with
  | @all said w applied =>
    refine ⟨said, rfl, ?_, .inl ⟨rfl, rfl, ?_, rfl⟩⟩
    all_goals rw [List.take_length]
    exact applied
  | @short first rest q said w e split applied failed =>
    subst split
    have hworld := hatomic _ _ _ failed
    refine ⟨said, rfl, ?_, .inr ⟨q, e, rfl, ?_, ?_, ?_, ?_⟩⟩
    · rwa [List.take_left, hworld]
    · simp
    · rwa [hworld]
    · rw [List.take_left]
    · rw [hworld]

/-- **A push that does not find all targets** sends nothing. -/
theorem push_of_unready {plans : List Plan} {r : Except Error Unit}
    (hp : (push zone plans).perform o s = (r, t))
    (hunready : ∃ p ∈ effective plans, ¬ Ready o s.state p.member) :
    ∃ e, r = .error e ∧ (resolveAll (effective plans)).perform o s = (.error e, t) := by
  rw [push, perform_bind] at hp
  rcases hres : (resolveAll (plans.filter fun p => !p.changes.isEmpty)).perform o s
    with ⟨e | found, u⟩
  all_goals rw [hres] at hp
  · cases hp
    exact ⟨e, rfl, hres⟩
  · obtain ⟨p, hp, hnot⟩ := hunready
    obtain ⟨q, -, hready, -⟩ := exists_mem_of_forall₂ (found_of_resolveAll hres).flip hp
    exact absurd hready hnot

/-- **A push that finds all targets** sends their updates until one fails. -/
theorem stops_of_push {plans : List Plan} {r : Except Error Unit}
    (hp : (push zone plans).perform o s = (r, t))
    (hready : ∀ p ∈ effective plans, Ready o s.state p.member) :
    ∃ qs k, List.Forall₂ (fun p q => q.1 = p ∧ Own zone s.state p q.2) (effective plans) qs ∧
      Stops o qs s r t k := by
  rw [push, perform_bind] at hp
  rcases hres : (resolveAll (plans.filter fun p => !p.changes.isEmpty)).perform o s
    with ⟨e | found, u⟩
  all_goals
    rw [hres] at hp
    change (resolveAll (effective plans)).perform o s = _ at hres
    have hall := perform_resolveAll (s := s) fun p hp => (hready p hp).reachable
    rw [problems_eq_nil hready, if_pos rfl, hres] at hall
  · cases hall
  · have hsame : u = s := by
      rw [(Prod.mk.inj hall).2, Transcript.append, List.append_nil]
    subst hsame
    have hfound := found_of_resolveAll hres
    obtain ⟨k, hstop⟩ := stops_of_sends (fun q hq => by
      obtain ⟨p, -, hready, c, -, rfl⟩ := exists_mem_of_forall₂ hfound hq
      exact hready.updater) hp
    refine ⟨_, k, ?_, hstop⟩
    rw [List.forall₂_map_right_iff]
    exact hfound.imp fun p q hq => own_of_resolved hq.2

/-- A push carries out a first part of its plans with changes, which is all of them if it succeeds.
At most one more update is tried, and fails. -/
structure Part (o : Outside ω) (zone : DomainName) (plans : List Plan) (s t : Session ω)
    (r : Except Error Unit) (done : List Plan) (qs : List (Plan × Update)) (w : ω) : Prop where
  first : done <+: effective plans
  whole : r = .ok () → done = effective plans
  owns : List.Forall₂ (fun p q => q.1 = p ∧ Own zone s.state p q.2) done qs
  applied : ∃ said, Applied o qs s.world said w
  ends : (t.world = w ∧ t.deliveries = s.deliveries ++ qs.map delivered) ∨
    ∃ p ∈ effective plans, ∃ u e, Own zone s.state p u ∧ (reply o u w).outcome = .error e ∧
      t.world = (reply o u w).world ∧
      t.deliveries = s.deliveries ++ qs.map delivered ++ [⟨u, .error e⟩]

/-- **Whatever becomes of a push**, a first part of it is carried out. -/
theorem part_of_push {plans : List Plan} {r : Except Error Unit}
    (hp : (push zone plans).perform o s = (r, t)) :
    ∃ done qs w, Part o zone plans s t r done qs w := by
  by_cases hready : ∀ p ∈ effective plans, Ready o s.state p.member
  · obtain ⟨qs, k, howns, hstop⟩ := stops_of_push hp hready
    cases hstop with
    | all applied =>
      exact ⟨_, qs, _, List.prefix_rfl, fun _ => rfl, howns, ⟨_, applied⟩, .inl ⟨rfl, rfl⟩⟩
    | @short first rest q said w e split applied failed =>
      obtain ⟨p, hp, -, hown⟩ := exists_mem_of_forall₂ howns
        (split ▸ List.mem_append_right first List.mem_cons_self)
      have hfirst := List.forall₂_take first.length howns
      rw [split, List.take_left] at hfirst
      exact ⟨_, first, w, List.take_prefix _ _, nofun, hfirst, ⟨_, applied⟩,
        .inr ⟨p, hp, q.2, e, hown, failed, rfl, rfl⟩⟩
  · obtain ⟨e, rfl, hres⟩ := push_of_unready hp (by simpa using hready)
    have hunsent := unsent_of_resolveAll hres
    refine ⟨[], [], s.world, List.nil_prefix, nofun, .nil, ⟨_, .none _⟩, .inl ⟨?_, ?_⟩⟩
    · rw [hunsent]
    · rw [hunsent, List.map_nil, List.append_nil]

/-- **How far a push gets.**  Plans without changes play no part.  If some signer with changes can
not be sent updates, nothing is sent at all; and if all of them have an address and an updater, the
signers without a usable credential are counted and reported, each once and in order.  Otherwise
there is a `k` such that exactly the updates of the first `k` plans with changes are applied, each
of them as its plan has it and at its own signer, and only their lines are reported: all of them if
the push succeeds, and those before the first update that fails if it fails. -/
theorem prefix_of_push {plans : List Plan} {r : Except Error Unit}
    (hp : (push zone plans).perform o s = (r, t)) (hatomic : Atomic o) :
    ((∃ p ∈ effective plans, ¬ Ready o s.state p.member) → Unsent s t ∧ ∃ e, r = .error e ∧
      ((∀ p ∈ effective plans, Reachable o p.member) →
        e = .signersMisconfigured (problems s.state (effective plans)).length ∧
        t.transcript = s.transcript.append ⟨problems s.state (effective plans)⟩)) ∧
    ((∀ p ∈ effective plans, Ready o s.state p.member) → ∃ qs k said,
      List.Forall₂ (fun p q => q.1 = p ∧ Own zone s.state p q.2) (effective plans) qs ∧
      Reaches o qs s t r k said ∧
      ((∀ u w, (reply o u w).lines = []) →
        t.transcript = s.transcript.append ⟨(qs.take k).flatMap fun q => q.1.applied⟩)) := by
  refine ⟨fun hunready => ?_, fun hready => ?_⟩
  · obtain ⟨e, rfl, hres⟩ := push_of_unready hp hunready
    refine ⟨unsent_of_resolveAll hres, e, rfl, fun hreachable => ?_⟩
    rw [perform_resolveAll hreachable] at hres
    split at hres
    · cases hres
    · cases hres
      exact ⟨rfl, rfl⟩
  · obtain ⟨qs, k, howns, hstop⟩ := stops_of_push hp hready
    obtain ⟨said, hreaches⟩ := hstop.reaches hatomic
    refine ⟨qs, k, said, howns, hreaches, fun hsilent => ?_⟩
    rw [← hreaches.applied.said_of_silent hsilent]
    rcases hreaches.ends with ⟨-, -, -, h⟩ | ⟨q, e, -, -, -, -, h⟩
    · exact h
    · rw [h, hsilent, List.append_nil]

end Push

namespace Sample

/-- Updates are counted, and one of the two signers takes none. -/
def picky : Outside Int :=
  { outside with
    updater := fun _ => some ⟨.ok (), fun u w =>
      if u.target.signer = "b" then ⟨[], .error (.updateRejected u.target.address "REFUSED"), w⟩
      else ⟨[], .ok (), w + 1⟩⟩ }

/-- A plan to drop all keys of a signer. -/
def drop (name : String) (letter : UInt8) : Plan where
  member := ⟨name, signer name (Sample.name letter)⟩
  changes := { removeKinds := [.dnskey] }
  applied := ["Dropped keys of " ++ name]

/-- Two plans, and one without changes between them. -/
def drops : List Plan :=
  [drop "a" 97, { drop "b" 98 with changes := {} }, drop "b" 98]

theorem atomic_picky : Push.Atomic picky := by
  intro u w e h
  by_cases hb : u.target.signer = "b"
  · show (if u.target.signer = "b" then _ else _ : UpdateReply Int).world = w
    rw [if_pos hb]
  · change (if u.target.signer = "b" then _ else _ : UpdateReply Int).outcome = _ at h
    rw [if_neg hb] at h
    cases h

theorem ready_drops : ∀ p ∈ Push.effective drops, Push.Ready picky document p.member := by
  have hcredential : ∀ name letter, Push.credential document (drop name letter).member
      = .ok (.tsig "k" [1, 2, 3]) := fun _ _ => by rfl
  intro p hp
  rw [show Push.effective drops = [drop "a" 97, drop "b" 98] from rfl] at hp
  rcases List.mem_cons.1 hp with rfl | hp
  · exact ⟨by decide, ⟨_, rfl⟩, _, hcredential _ _⟩
  · rw [List.mem_singleton.1 hp]
    exact ⟨by decide, ⟨_, rfl⟩, _, hcredential _ _⟩

/-- A push of these plans. -/
def dropped : Except Error Unit × Session Int :=
  (Push.push Sample.zone drops).perform picky (session document 0)

/-- One of the two signers is sent its changes, the other one takes none. -/
theorem prefix_of_drops : ∃ qs k said,
    List.Forall₂ (fun p q => q.1 = p ∧ Push.Own Sample.zone document p q.2)
      (Push.effective drops) qs ∧
    Push.Reaches picky qs (session document 0) dropped.2 dropped.1 k said := by
  have hp : (Push.push Sample.zone drops).perform picky (session document 0)
    = (dropped.1, dropped.2) := perform_of_fst rfl
  obtain ⟨qs, k, said, howns, hreaches, -⟩ := (Push.prefix_of_push hp atomic_picky).2 ready_drops
  exact ⟨qs, k, said, howns, hreaches⟩

end Sample
end MultiSigner
