/-
# Groups on the network in memory

The network in memory is faithful as long as no server rejects updates or keeps silent
(`Rehearsal.faithful`).  If its parent takes over all that is asked of it before every step, groups
walk on it undisturbed: `Rehearsal.journey_snoc` makes a journey longer by one step at any date.
-/
import MultiSigner.Proofs.Journey
import MultiSigner.Rehearsal.Network

namespace MultiSigner.Rehearsal

open Operation Automation Deployment

/-! ## 1. The network is faithful -/

namespace Network

/-- No server rejects updates, and none keeps silent about anything. -/
def isOpen (w : Network) : Bool :=
  w.rejecting.isEmpty && w.muted.isEmpty

/-- The records of a server, if the network is open. -/
def held (w : Network) (server : String) : Option (List Record) :=
  if w.isOpen then w.records? server else none

variable {w : Network} {server : String} {rs : List Record}

theorem get?_of_isEmpty {α : Type} {m : OrderedMap String α} (h : m.isEmpty = true)
    (k : String) : m.get? k = none := by
  rw [OrderedMap.get?, List.isEmpty_iff.1 h]
  rfl

theorem held_eq_some : w.held server = some rs
    ↔ w.isOpen = true ∧ w.records? server = some rs := by
  rw [held]
  split
  · rename_i hopen
    exact (and_iff_right hopen).symm
  · rename_i hopen
    exact iff_of_false (fun h => by cases h) fun h => hopen h.1

theorem query_of_held (h : w.held server = some rs) (kind : RecordKind) :
    w.query server kind = .ok ⟨rs.filter fun r => r.kind == kind⟩ := by
  obtain ⟨hopen, hrs⟩ := held_eq_some.1 h
  have hmuted := get?_of_isEmpty (Bool.and_eq_true_iff.1 hopen).2 server
  simp only [query, hrs, hmuted, Option.getD_none, List.contains_nil, Bool.false_eq_true, if_false]

theorem update_of_held {x : Update} (h : w.held x.target.address = some rs) :
    w.update x = .ok (w.serve x.target.address (x.changes.applyTo rs)) := by
  obtain ⟨hopen, hrs⟩ := held_eq_some.1 h
  have hrejecting := get?_of_isEmpty (Bool.and_eq_true_iff.1 hopen).1 x.target.address
  simp only [update, hrs, hrejecting]

/-- A server that has other records. -/
theorem records?_serve (server : String) (rs : List Record) :
    (w.serve server rs).records? = Function.update w.records? server (some rs) := by
  funext other
  rw [Function.update_apply, records?, serve, OrderedMap.get?_insert]
  by_cases heq : other = server
  · rw [if_pos heq, if_pos (Std.LawfulEqOrd.compare_eq_iff_eq.2 heq)]
  · rw [if_neg heq, if_neg fun hc => heq (Std.LawfulEqOrd.compare_eq_iff_eq.1 hc), records?]

theorem held_of_isOpen (h : w.isOpen = true) : w.held = w.records? :=
  funext fun _ => if_pos h

theorem held_serve (h : w.isOpen = true) (server : String) (rs : List Record) :
    (w.serve server rs).held = Function.update w.held server (some rs) := by
  rw [held_of_isOpen h, held_of_isOpen (w := w.serve server rs) h, records?_serve]

end Network

/-- A group on the network in memory, whose servers take updates of some kinds. -/
def deployment (usable : List UpdaterKind) (zone : DomainName) (members : List Member)
    (parent : String) : Deployment World where
  outside := outside usable
  zone := zone
  members := members
  parent := parent
  holds w := w.network.held
  takes _ := True

variable {usable : List UpdaterKind} {zone : DomainName} {members : List Member} {parent : String}

/-- Whatever can be updated is updated in memory. -/
theorem updater_of_outside {kind : UpdaterKind} {u : Updater World}
    (h : (outside usable).updaterFor kind = .ok u) : u = updater := by
  simp only [Outside.updaterFor, outside] at h
  split at h
  · cases h
  · rename_i hsome
    split at hsome
    · cases hsome
      cases h
      rfl
    · cases hsome

/-- A server that is there is updated. -/
theorem apply_of_held {w : World} {x : Update} {rs : List Record}
    (h : w.network.held x.target.address = some rs) :
    updater.apply x w = ⟨[], .ok (),
      { w with network := w.network.serve x.target.address (x.changes.applyTo rs) }⟩ := by
  simp only [updater, Network.update_of_held h]

/-- **The network in memory is faithful.** -/
theorem faithful (hapart : (parent :: members.map fun m => m.signer.address).Nodup)
    (husable : ∀ m ∈ members, m.signer.kind ∈ usable) :
    (deployment usable zone members parent).Faithful where
  apart := hapart
  query kind {_} {server} {_} h := ⟨Network.query_of_held h kind, rfl⟩
  updater m hm := by
    refine ⟨updater, ?_⟩
    have hkind : usable.contains m.signer.kind = true := List.contains_iff_mem.2 (husable m hm)
    simp only [deployment, Outside.updaterFor, outside, hkind, if_true]
    rfl
  update {kind} {u} hu {w} {x} {rs} _ _ h _ := by
    cases updater_of_outside hu
    rw [apply_of_held h]
    exact Network.held_serve (Network.held_eq_some.1 h).1 _ _
  accept {kind} {u} hu {w} {x} {rs} _ _ h := by
    cases updater_of_outside hu
    rw [apply_of_held h]

/-! ## 2. A parent that takes over what it is asked -/

section Heeded

variable {n : Deployment World} {start s t : Session World} {d : Direction}
  {run : List (Session World)} {date : Timestamp}

/-- The reference that a request is for. -/
def referred : RecordData → Option RecordData
  | .cds d => some (.ds d)
  | _ => none

theorem of_referred {data d : RecordData} (h : referred data = some d) :
    ∃ k, data = .cds k ∧ d = .ds k := by
  cases data with
  | cds k =>
    cases h
    exact ⟨k, rfl, rfl⟩
  | dnskey _ | cdnskey _ | ds _ | ns _ | soa _ | csync _ => cases h

/-- What is asked of the parent: the references that signers which stay ask for, and the names that
signers serve. -/
def requested (n : Deployment World) (s : Session World) : List Record :=
  ((n.members.filter fun m => !m.signer.leaving).flatMap fun m =>
      (n.records s m).filterMap fun r => (referred r.data).map fun d => ⟨r.ttl, d⟩)
    ++ n.members.flatMap fun m => (n.records s m).filter fun r => r.kind == .ns

/-- The session in which the parent has what is asked of it, at a date. -/
def heeded (n : Deployment World) (date : Timestamp) (s : Session World) : Session World :=
  { s with world := { s.world with
    network := s.world.network.serve n.parent (requested n s)
    clock := date } }

theorem serves_ds_requested {k : Ds} : Serves (requested n s) (.ds k)
    ↔ ∃ m, n.Stays m ∧ n.Shows s m (.cds k) := by
  constructor
  · rintro ⟨r, hr, hk⟩
    rcases List.mem_append.1 hr with hr | hr
    · obtain ⟨m, hm, hr⟩ := List.mem_flatMap.1 hr
      obtain ⟨hm, hstays⟩ := List.mem_filter.1 hm
      obtain ⟨x, hx, hxr⟩ := List.mem_filterMap.1 hr
      obtain ⟨data, hdata, rfl⟩ := Option.map_eq_some_iff.1 hxr
      obtain ⟨l, hl, rfl⟩ := of_referred hdata
      refine ⟨m, ⟨hm, by rwa [Bool.not_eq_true'] at hstays⟩, x, hx, ?_⟩
      rw [hl]
      exact hk
    · obtain ⟨m, -, hr⟩ := List.mem_flatMap.1 hr
      have hkind : r.data.kind = .ns := beq_iff_eq.1 (List.mem_filter.1 hr).2
      have hds := RecordData.kind_eq_of_same hk
      rw [hkind] at hds
      cases hds
  · rintro ⟨m, ⟨hm, hstays⟩, r, hr, hk⟩
    have hd : r.data = .cds k := RecordData.eq_of_beq hk nofun
    refine ⟨⟨r.ttl, .ds k⟩, List.mem_append_left _ (List.mem_flatMap.2 ⟨m, ?_, ?_⟩), BEq.rfl⟩
    · exact List.mem_filter.2 ⟨hm, by rw [hstays]; rfl⟩
    · exact List.mem_filterMap.2 ⟨r, hr, by rw [hd]; rfl⟩

theorem serves_ns_requested {name : DomainName} : Serves (requested n s) (.ns name)
    ↔ ∃ m ∈ n.members, n.Shows s m (.ns name) := by
  constructor
  · rintro ⟨r, hr, hk⟩
    rcases List.mem_append.1 hr with hr | hr
    · obtain ⟨m, -, hr⟩ := List.mem_flatMap.1 hr
      obtain ⟨x, -, hxr⟩ := List.mem_filterMap.1 hr
      obtain ⟨data, hdata, rfl⟩ := Option.map_eq_some_iff.1 hxr
      obtain ⟨l, -, rfl⟩ := of_referred hdata
      cases hk
    · obtain ⟨m, hm, hr⟩ := List.mem_flatMap.1 hr
      exact ⟨m, hm, r, (List.mem_filter.1 hr).1, hk⟩
  · rintro ⟨m, hm, r, hr, hk⟩
    have hkind : r.data.kind = .ns := RecordData.kind_eq_of_same hk
    refine ⟨r, List.mem_append_right _ (List.mem_flatMap.2 ⟨m, hm, ?_⟩), hk⟩
    exact List.mem_filter.2 ⟨hr, beq_iff_eq.2 hkind⟩

/-- The deployment is on the network in memory. -/
structure Rehearsed (n : Deployment World) : Prop where
  now : n.outside.now = World.clock
  holds : n.holds = fun w => w.network.held

theorem rehearsed_deployment : Rehearsed (deployment usable zone members parent) :=
  ⟨rfl, rfl⟩

theorem holds_heeded (hr : Rehearsed n) (hs : n.Found s) : n.holds (heeded n date s).world
    = Function.update (n.holds s.world) n.parent (some (requested n s)) := by
  obtain ⟨rs, hrs⟩ := hs.serving.parent
  rw [hr.holds] at hrs ⊢
  exact Network.held_serve (Network.held_eq_some.1 hrs).1 _ _

/-- Nothing else happens. -/
theorem meanwhile_heeded (hr : Rehearsed n) (hn : n.Faithful) (hs : n.Found s)
    (date : Timestamp) : n.Meanwhile s (heeded n date s) where
  state := rfl
  members m hm := by
    have hne : m.signer.address ≠ n.parent := fun heq =>
      (List.nodup_cons.1 hn.apart).1 (List.mem_map.2 ⟨m, hm, heq⟩)
    rw [holds_heeded hr hs, Function.update_of_ne hne]
  parent := by
    rw [holds_heeded hr hs, Function.update_self]
    exact ⟨_, rfl⟩

/-- **Such a parent owes nothing to a step.** -/
theorem heeds_heeded (hr : Rehearsed n) (hn : n.Faithful) (hs : n.Found s) (hdate : date.Dated)
    (a : Activity) : n.Heeds (heeded n date s) a := by
  have hparent : n.parentRecords (heeded n date s) = requested n s := by
    rw [parentRecords, holds_heeded hr hs, Function.update_self, Option.getD_some]
  have hshows : ∀ m ∈ n.members, ∀ data, n.Shows (heeded n date s) m data ↔ n.Shows s m data :=
    fun m hm data => by
      rw [Shows, records, (meanwhile_heeded hr hn hs date).members m hm, ← records, Shows]
  refine ⟨fun _ k => ?_, fun _ name => ?_, fun _ => ?_⟩
  · rw [ParentShows, hparent, serves_ds_requested]
    exact exists_congr fun m => and_congr_right fun hm => (hshows m hm.1 _).symm
  · rw [ParentShows, hparent, serves_ns_requested]
    exact exists_congr fun m => and_congr_right fun hm => (hshows m hm _).symm
  · rw [hr.now]
    exact hdate

/-- **A journey goes on** at any date. -/
theorem journey_snoc (hr : Rehearsed n) (hn : n.Faithful) (hs : n.Found s) (hdate : date.Dated)
    (hj : n.Journey d start run s) :
    n.Journey d start (run ++ [heeded n date s]) (n.left (heeded n date s)) :=
  hj.step (meanwhile_heeded hr hn hs date) fun _ a _ => heeds_heeded hr hn hs hdate a

/-- The sessions that steps at the given dates find. -/
def sessions (n : Deployment World) : Session World → List Timestamp → List (Session World)
  | _, [] => []
  | s, date :: dates => heeded n date s :: sessions n (n.left (heeded n date s)) dates

/-- The session after them. -/
def last (n : Deployment World) : Session World → List Timestamp → Session World
  | s, [] => s
  | s, date :: dates => last n (n.left (heeded n date s)) dates

/-- **Steps at any dates make a journey.** -/
theorem journey_sessions (hr : Rehearsed n) (hn : n.Faithful) (ha : n.Addressed)
    (hs : n.Departs d start) (hdel : n.Delegable start) :
    ∀ {run : List (Session World)} {s : Session World} (dates : List Timestamp),
      (∀ date ∈ dates, date.Dated) → n.Journey d start run s →
        n.Journey d start (run ++ sessions n s dates) (last n s dates)
  | run, s, [], _, hj => by
    rw [sessions, List.append_nil]
    exact hj
  | run, s, date :: dates, hdates, hj => by
    rw [sessions, List.append_cons]
    have hfound := (standing_of_journey hn ha hs hj fun _ => hdel).2.found
    exact journey_sessions hr hn ha hs hdel dates
      (fun other hother => hdates other (List.mem_cons_of_mem _ hother))
      (journey_snoc hr hn hfound (hdates date List.mem_cons_self) hj)

end Heeded

end MultiSigner.Rehearsal

/-! ## 3. Small groups -/

namespace MultiSigner.Sample

open Automation

/-- A signer of the group, which is called and reached by one letter. -/
def member (letter : Char) (leaving : Bool) : Member :=
  ⟨String.singleton letter, { signer (String.singleton letter) (name letter.toNat.toUInt8) with
    leaving := leaving }⟩

/-- A document in which signers of the group are about to join. -/
def departing (members : List Member) : State where
  groups := .ofList [(zone, {
    signers := members.map Member.name, parent := "p", stage := .start .joining })]
  signers := .ofList (members.map fun m => (m.name, m.signer))
  tsigKeys := .ofList [("k", "AQID")]

/-- A session with this document and with some servers on the network in memory. -/
def departure (members : List Member) (servers : List (String × List Record)) :
    Session Rehearsal.World where
  state := departing members
  world := { network := { servers := .ofList servers }, clock := default, saved := .empty }
  scheduler := { interval := 1 }

/-- The group on this network. -/
def deployment (members : List Member) : Deployment Rehearsal.World :=
  Rehearsal.deployment [.nsupdate] zone members "p"

theorem rehearsed (members : List Member) : Rehearsal.Rehearsed (deployment members) :=
  Rehearsal.rehearsed_deployment

/-- What it takes to depart, as far as it can be evaluated. -/
theorem departs {members : List Member} {servers : List (String × List Record)}
    (hmembers : (departing members).members zone = .ok members) (hsome : members ≠ [])
    (hcredentials : ∀ m ∈ members, (Push.credential (departing members) m).toOption.isSome = true)
    (hservers : ∀ m ∈ members, ((deployment members).holds (departure members servers).world
      m.signer.address).isSome = true)
    (hparent : ((deployment members).holds (departure members servers).world "p").isSome = true)
    (hsoa : ∀ m ∈ members, ∃ r ∈ (deployment members).records (departure members servers) m,
      r.data.same (.soa 7) = true)
    (hworkable : (deployment members).Workable (departure members servers)) :
    (deployment members).Departs .joining (departure members servers) where
  group := ⟨{ signers := members.map Member.name, parent := "p", stage := .start .joining }, rfl,
    rfl, rfl, rfl⟩
  found := by
    refine ⟨⟨hmembers, hsome, ⟨_, rfl, rfl⟩, fun m hm => ?_⟩, fun m hm => ?_, ?_⟩
    · have hsome := hcredentials m hm
      cases hc : Push.credential (departing members) m with
      | ok c => exact ⟨c, hc, trivial⟩
      | error e =>
        rw [hc] at hsome
        cases hsome
    · exact Option.isSome_iff_exists.1 (hservers m hm)
    · exact Option.isSome_iff_exists.1 hparent
  started m hm := ⟨7, hsoa m hm⟩
  workable := hworkable

end MultiSigner.Sample
