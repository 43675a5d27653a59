/-
# One step of the automation

`Worked` lists the ways in which the work of a stage can succeed, each with what was asked, what was
sent and which stage it leads to; `Stepped` lists what a whole step can do.  Every later statement
about steps is read off these two, so nothing after this module opens `Automation.step`.

* `worked_of_runStage`: work that succeeds did so in one of these ways.
* `stepped_of_step`: a step did one of these things.
* `Stepped.framed`: a step changes the stage, the error text and the deadlines of its group, origins
  and answers, and nothing else of the document.
-/
import MultiSigner.Proofs.Planning
import MultiSigner.Proofs.Questions

namespace MultiSigner.Automation

open Operation

variable {ω : Type} {o : Outside ω} {s t : Session ω} {zone : DomainName}

/-! ## 1. Work that succeeds -/

/-- The ways in which the work of a stage succeeds, with the stage it leads to and the session it
leaves. -/
inductive Worked (zone : DomainName) (d : Direction) (o : Outside ω) (s : Session ω) :
    Activity → Stage → Session ω → Prop
  /-- All plans were pushed. -/
  | pushed {a : Activity} {plans : List Plan} {m t : Session ω} {us : List Update}
      (acts : acts a = true)
      (plan : (planning zone a).perform o s = (.ok plans, m))
      (updates : List.Forall₂ (fun p u => Push.update zone m.state p = .ok u)
        (Push.effective plans) us)
      (sent : t.deliveries = s.deliveries ++ us.map fun u => ⟨u, .ok ()⟩)
      (state : t.state = m.state) :
      Worked zone d o s a (Stage.walking d a).next t
  /-- The answers to a check were as they should be. -/
  | met {a : Activity} {flag : SyncFlag} {views : List SignerView} {parent : ParentView}
      {u t : Session ω} {f : SyncFlags}
      (check : work zone d a = (.check flag : Work ω))
      (ask : (Status.ask zone).perform o s = (.ok (views, parent), u))
      (flags : (Evaluation.ofViews zone views parent u.state.dnskeyOrigin).flags = .ok f)
      (met : f.get flag = true)
      (rest : t.unflagged zone = s.unflagged zone) :
      Worked zone d o s a (Stage.walking d a).next t
  /-- They were not. -/
  | unmet {a : Activity} {flag : SyncFlag} {t : Session ω}
      (check : work zone d a = (.check flag : Work ω))
      (rest : t.unflagged zone = s.unflagged zone) :
      Worked zone d o s a (Stage.walking d a).retry t
  /-- The deadline of a hold is still to come. -/
  | held {deadline : Timestamp} {t : Session ω}
      (wait : ((holdOf d).wait zone).perform o s = (.ok deadline, t))
      (early : (o.now t.world).isBefore deadline = true) :
      Worked zone d o s .wait (.walking d .wait) t
  /-- It has come, and is forgotten. -/
  | expired {deadline : Timestamp} {u t : Session ω}
      (wait : ((holdOf d).wait zone).perform o s = (.ok deadline, u))
      (late : (o.now u.world).isBefore deadline = false)
      (state : t.state = (holdOf d).clear zone u.state)
      (sent : t.deliveries = u.deliveries) :
      Worked zone d o s .wait (Stage.walking d .wait).next t

/-- **Where work that succeeds can lead**: on, back to the work that a check is about, or nowhere. -/
theorem Worked.leads {d : Direction} {a : Activity} {next : Stage} (h : Worked zone d o s a next t) :
    next = .walking d a ∨ next = (Stage.walking d a).next ∨ next = (Stage.walking d a).retry := by
  cases h with
  | pushed _ _ _ _ _ | met _ _ _ _ _ | expired _ _ _ _ => exact .inr (.inl rfl)
  | unmet _ _ => exact .inr (.inr rfl)
  | held _ _ => exact .inl rfl

theorem worked_of_act {d : Direction} {a : Activity} {op : Operation ω Unit} {next : Stage}
    (hop : work zone d a = .act op)
    (h : (doWork zone (.walking d a) (.act op)).perform o s = (.ok next, t)) :
    Worked zone d o s a next t := by
  obtain ⟨_, u, hu, h⟩ := perform_bind_eq_ok.1 h
  cases h
  obtain ⟨ha, hperform⟩ := perform_of_act hop
  rw [hperform] at hu
  obtain ⟨plans, m, hm, hpush⟩ := perform_bind_eq_ok.1 hu
  obtain ⟨us, hus, hsent⟩ := Push.push_eq_ok hpush
  have hdeliveries : m.deliveries = s.deliveries :=
    congrArg (fun p => p.2.2.2) ((leaves_planning zone a).rel_of_perform hm)
  rw [hdeliveries] at hsent
  exact .pushed ha hm hus hsent (Push.state_of_push hpush)

theorem worked_of_check {d : Direction} {a : Activity} {flag : SyncFlag} {next : Stage}
    (hflag : work zone d a = (.check flag : Work ω))
    (h : (doWork zone (.walking d a) (.check flag)).perform o s = (.ok next, t)) :
    Worked zone d o s a next t := by
  obtain ⟨f, u, hu, h⟩ := perform_bind_eq_ok.1 h
  have hrest : u.unflagged zone = s.unflagged zone :=
    (Status.leaves_check zone).rel_of_perform hu
  simp only [perform_ite] at h
  split at h
  · rename_i hmet
    cases h
    obtain ⟨views, parent, v, hask, hflags⟩ := Status.check_eq_ok hu
    exact .met hflag hask hflags hmet hrest
  · cases h
    exact .unmet hflag hrest

theorem worked_of_hold {d : Direction} {next : Stage}
    (h : (doWork zone (.walking d .wait) (.hold (holdOf d))).perform o s = (.ok next, t)) :
    Worked zone d o s .wait next t := by
  obtain ⟨deadline, u, hu, h⟩ := perform_bind_eq_ok.1 h
  obtain ⟨now, v, hv, h⟩ := perform_bind_eq_ok.1 h
  cases hv
  simp only [perform_ite] at h
  split at h
  · cases h
    exact .held hu ‹_›
  · cases h
    exact .expired hu (Bool.not_eq_true _ ▸ ‹_›) rfl rfl

/-- A hold fails only if its deadline cannot be had. -/
theorem wait_of_hold {d : Direction} {e : Error}
    (h : (runStage zone (.walking d .wait)).perform o s = (.error e, t)) :
    ((holdOf d).wait zone).perform o s = (.error e, t) := by
  simp only [runStage, work, doWork, perform_bind] at h
  rcases hwait : ((holdOf d).wait zone).perform o s with ⟨e' | deadline, u⟩
  · rw [hwait] at h
    cases h
    rfl
  · simp only [hwait, perform_now, perform_ite, perform_bind, perform_line, perform_modifyState,
      perform_pure] at h
    split at h <;> cases h

/-- **Work that succeeds did so in one of the ways listed.** -/
theorem worked_of_runStage {d : Direction} {a : Activity} {next : Stage}
    (h : (runStage zone (.walking d a)).perform o s = (.ok next, t)) :
    Worked zone d o s a next t := by
  cases a with
  | syncDnskeys | syncCds | removeCds | syncNs | addCsync | removeCsync => exact worked_of_act rfl h
  | checkDnskeys | checkCds | checkParentDs | checkNs | checkParentNs => exact worked_of_check rfl h
  | wait => exact worked_of_hold h

/-! ## 2. What the work of a stage leaves alone -/

theorem framed_of_planned {s t : Session ω} (h : t.planned = s.planned) :
    t.framed zone = s.framed zone := by
  simp only [Session.planned, Prod.mk.injEq] at h
  obtain ⟨hstate, hsched, -⟩ := h
  have hreg : t.state.registry = s.state.registry :=
    show t.state.withoutOrigins.registry = s.state.withoutOrigins.registry by rw [hstate]
  simp only [Session.framed, State.groups_of_withoutOrigins hstate, hreg, hsched]

theorem framed_of_settled {s t : Session ω} (h : t.settled = s.settled) :
    t.framed zone = s.framed zone := by
  simp only [Session.settled, Prod.mk.injEq] at h
  obtain ⟨hstate, hsched, -⟩ := h
  simp only [Session.framed, hstate, hsched]

theorem leaves_act (zone : DomainName) (a : Activity) :
    Leaves (.keeping (Session.framed zone))
      (planning zone a >>= Push.push zone : Operation ω Unit) :=
  leaves_bind ((leaves_planning zone a).mono fun _ _ => framed_of_planned)
    fun plans => (Push.leaves_push_settled zone plans).mono fun _ _ => framed_of_settled

theorem leaves_clear (h : Hold) (zone : DomainName) :
    Leaves (.keeping (Session.silent zone)) (modifyState (h.clear zone) : Operation ω Unit) := by
  intro o s
  show Session.silent zone _ = Session.silent zone s
  cases h <;> simp only [perform_modifyState, Session.silent, Session.framed, Hold.clear,
    State.get?_modifyGroup, State.registry_modifyGroup, Option.map_map] <;> rfl

theorem leaves_check (zone : DomainName) (stage : Stage) (flag : SyncFlag) :
    Leaves (.keeping (Session.silent zone))
      (doWork zone stage (.check flag) : Operation ω Stage) := by
  refine leaves_bind ((Status.leaves_check zone).mono fun _ _ => Session.silent_of_unflagged)
    fun flags => ?_
  exact leaves_ite (leaves_bind ((quiet_line _).silent zone) fun _ => leaves_pure _)
    (leaves_bind ((quiet_line _).silent zone) fun _ => leaves_pure _)

theorem leaves_hold (zone : DomainName) (stage : Stage) (h : Hold) :
    Leaves (.keeping (Session.silent zone)) (doWork zone stage (.hold h) : Operation ω Stage) := by
  refine leaves_bind (Hold.leaves_wait h zone) fun deadline => leaves_bind leaves_now fun now => ?_
  refine leaves_ite (leaves_pure _) (leaves_bind ((quiet_line _).silent zone) fun _ => ?_)
  exact leaves_bind (leaves_clear h zone) fun _ => leaves_pure _

/-- Work that changes no records sends nothing. -/
theorem leaves_silent {a : Activity} (ha : acts a = false) (d : Direction) (zone : DomainName) :
    Leaves (.keeping (Session.silent zone)) (runStage zone (.walking d a) : Operation ω Stage) := by
  cases a with
  | syncDnskeys | syncCds | removeCds | syncNs | addCsync | removeCsync => cases ha
  | checkDnskeys | checkCds | checkParentDs | checkNs | checkParentNs => exact leaves_check zone _ _
  | wait => exact leaves_hold zone _ _

/-- Work that changes records plans and pushes. -/
theorem exists_act {a : Activity} (ha : acts a = true) (zone : DomainName) (d : Direction) :
    ∃ op, work zone d a = (.act op : Work ω) := by
  cases a with
  | syncDnskeys | syncCds | removeCds | syncNs | addCsync | removeCsync => exact ⟨_, rfl⟩
  | checkDnskeys | checkCds | checkParentDs | wait | checkNs | checkParentNs => cases ha

theorem perform_runStage_act {a : Activity} (ha : acts a = true) (d : Direction) :
    (runStage zone (.walking d a)).perform o s = ((planning zone a >>= Push.push zone) >>=
      fun _ => pure (Stage.walking d a).next).perform o s := by
  obtain ⟨op, hop⟩ := exists_act ha zone d
  show (doWork zone (.walking d a) (work zone d a)).perform o s = _
  rw [hop, doWork, perform_bind, (perform_of_act hop).2, perform_bind (planning zone a >>= _)]

/-- **The work of a stage keeps to its frame**, also when it fails. -/
theorem leaves_runStage (zone : DomainName) (d : Direction) (a : Activity) :
    Leaves (.keeping (Session.framed zone))
      (runStage zone (.walking d a) : Operation ω Stage) := by
  cases ha : acts a with
  | true =>
    intro o s
    rw [perform_runStage_act ha]
    exact leaves_bind (leaves_act zone a) (fun _ => leaves_pure _) o s
  | false => exact (leaves_silent ha d zone).mono fun _ _ => congrArg Prod.fst

/-! ## 3. What the work of a stage sends -/

/-- An update is that of a plan of an activity, made in the session found, and the document has not
changed since. -/
def Sent (zone : DomainName) (a : Activity) (o : Outside ω) (s t : Session ω) (u : Update) : Prop :=
  ∃ plans m p, (planning zone a).perform o s = (.ok plans, m) ∧ p ∈ plans ∧
    Push.update zone m.state p = .ok u ∧ t.state = m.state

theorem sent_of_act {a : Activity} {r : Except Error Unit}
    (h : (planning zone a >>= Push.push zone).perform o s = (r, t)) :
    ∃ ds, t.deliveries = s.deliveries ++ ds ∧ ∀ x ∈ ds, Sent zone a o s t x.update := by
  rw [perform_bind] at h
  rcases hm : (planning zone a).perform o s with ⟨e | plans, m⟩
  all_goals
    have hdeliveries : m.deliveries = s.deliveries :=
      congrArg (fun p => p.2.2.2) ((leaves_planning zone a).rel_of_perform hm)
    rw [hm] at h
  · cases h
    exact ⟨[], by rw [hdeliveries, List.append_nil], by simp⟩
  · obtain ⟨ds, hds, hsent⟩ := Push.sent_of_push h
    refine ⟨ds, by rw [hds, hdeliveries], fun x hx => ?_⟩
    obtain ⟨p, hp, hu⟩ := hsent x hx
    exact ⟨plans, m, p, hm, (List.mem_filter.1 hp).1, hu, Push.state_of_push h⟩

/-- **Only updates of its plans are sent in the work of a stage.** -/
theorem sent_of_runStage {d : Direction} {a : Activity} {r : Except Error Stage}
    (h : (runStage zone (.walking d a)).perform o s = (r, t)) :
    ∃ ds, t.deliveries = s.deliveries ++ ds ∧ ∀ x ∈ ds, Sent zone a o s t x.update := by
  cases ha : acts a with
  | true =>
    rw [perform_runStage_act ha, perform_bind] at h
    rcases hu : (planning zone a >>= Push.push zone).perform o s with ⟨e | _, u⟩
    all_goals
      rw [hu] at h
      cases h
      exact sent_of_act hu
  | false =>
    have hdeliveries : t.deliveries = s.deliveries :=
      congrArg Prod.snd ((leaves_silent ha d zone).rel_of_perform h)
    exact ⟨[], by rw [hdeliveries, List.append_nil], by simp⟩

/-! ## 4. Steps -/

/-- What a step can do, with its result and the session it leaves. -/
inductive Stepped (zone : DomainName) (o : Outside ω) (s : Session ω) :
    Except Error Unit → Session ω → Prop
  | missing {e : Error} (group : s.state.groups.get? zone = none) : Stepped zone o s (.error e) s
  | resting {g : Group} {t : Session ω} (group : s.state.groups.get? zone = some g)
      (rests : g.stage.isWalking = false) (rest : t.lasting = s.lasting) :
      Stepped zone o s (.ok ()) t
  /-- The work succeeded, and the group is in the stage it leads to. -/
  | moved {g : Group} {d : Direction} {a : Activity} {next : Stage} {u t : Session ω}
      (group : s.state.groups.get? zone = some g) (stage : g.stage = .walking d a)
      (run : (runStage zone (.walking d a)).perform o s = (.ok next, u))
      (state : t.state = if next = .walking d a then u.state else moveTo zone next u.state)
      (sent : t.deliveries = u.deliveries) : Stepped zone o s (.ok ()) t
  /-- The work failed, and the group is in the error stage. -/
  | failed {g : Group} {d : Direction} {a : Activity} {e : Error} {u t : Session ω}
      (group : s.state.groups.get? zone = some g) (stage : g.stage = .walking d a)
      (run : (runStage zone (.walking d a)).perform o s = (.error e, u))
      (state : t.state = fail zone e u.state)
      (sent : t.deliveries = u.deliveries) : Stepped zone o s (.error e) t

theorem stepped_of_walkingStep {g : Group} {d : Direction} {a : Activity} {r : Except Error Unit}
    (hg : s.state.groups.get? zone = some g) (hstage : g.stage = .walking d a)
    (h : (walkingStep zone (.walking d a)).perform o s = (r, t)) : Stepped zone o s r t := by
  simp only [walkingStep, perform_bind, perform_attempt] at h
  rcases hrun : (runStage zone (.walking d a)).perform o s with ⟨e | next, u⟩
  · simp only [hrun, perform_bind, perform_line, perform_modifyState, perform_publishStatus,
      perform_throw] at h
    cases h
    exact .failed hg hstage hrun rfl rfl
  · simp only [hrun, perform_ite, perform_bind, perform_line, perform_modifyState,
      perform_publishStatus, perform_pure] at h
    split at h
    · rename_i hne
      cases h
      exact .moved hg hstage hrun (if_neg hne).symm rfl
    · rename_i heq
      cases h
      exact .moved hg hstage hrun (if_pos (not_not.1 heq)).symm rfl

/-- A step of a group that rests says so. -/
theorem perform_step_of_rests {g : Group} {text : String} (hg : s.state.groups.get? zone = some g)
    (htext : restingLine g.stage = some text) :
    (step zone).perform o s = (line text).perform o s := by
  simp only [step, perform_bind, perform_state, perform_lift, State.group_eq_ok.2 hg, htext]

/-- A step succeeds if the work of the stage does. -/
theorem perform_step_of_runStage {g : Group} {d : Direction} {a : Activity} {next : Stage}
    {u : Session ω} (hg : s.state.groups.get? zone = some g) (hstage : g.stage = .walking d a)
    (hrun : (runStage zone (.walking d a)).perform o s = (.ok next, u)) :
    ∃ t, (step zone).perform o s = (.ok (), t) ∧ t.world = u.world ∧
      t.state = if next = .walking d a then u.state else moveTo zone next u.state := by
  simp only [step, perform_bind, perform_state, perform_lift, State.group_eq_ok.2 hg, hstage,
    restingLine, walkingStep, perform_attempt, hrun, perform_ite, perform_line, perform_modifyState,
    perform_publishStatus, perform_pure]
  by_cases hsame : next = .walking d a
  · rw [if_neg (not_not.2 hsame), if_pos hsame]
    exact ⟨_, rfl, rfl, rfl⟩
  · rw [if_pos hsame, if_neg hsame]
    exact ⟨_, rfl, rfl, rfl⟩

/-- A step fails if the work of the stage does. -/
theorem perform_step_of_failed {g : Group} {d : Direction} {a : Activity} {e : Error}
    {u : Session ω} (hg : s.state.groups.get? zone = some g) (hstage : g.stage = .walking d a)
    (hrun : (runStage zone (.walking d a)).perform o s = (.error e, u)) :
    ((step zone).perform o s).1 = .error e := by
  simp only [step, perform_bind, perform_state, perform_lift, State.group_eq_ok.2 hg, hstage,
    restingLine, walkingStep, perform_attempt, hrun, perform_line, perform_modifyState,
    perform_publishStatus, perform_throw]

/-- **A step did one of the things listed.** -/
theorem stepped_of_step {r : Except Error Unit} (h : (step zone).perform o s = (r, t)) :
    Stepped zone o s r t := by
  simp only [step, perform_bind, perform_state, perform_lift] at h
  cases hg : s.state.group zone with
  | error e =>
    rw [hg] at h
    cases h
    refine .missing ?_
    rw [← Option.not_isSome_iff_eq_none, Option.isSome_iff_exists]
    rintro ⟨g, h⟩
    rw [State.group_eq_ok.2 h] at hg
    cases hg
  | ok g =>
    rw [hg] at h
    have hget := State.group_eq_ok.1 hg
    rcases hstage : g.stage with _ | _ | _ | ⟨d, a⟩
    · simp only [hstage, restingLine, perform_line] at h
      cases h
      exact .resting hget (by rw [hstage]; rfl) rfl
    · simp only [hstage, restingLine, perform_line] at h
      cases h
      exact .resting hget (by rw [hstage]; rfl) rfl
    · simp only [hstage, restingLine, perform_line] at h
      cases h
      exact .resting hget (by rw [hstage]; rfl) rfl
    · simp only [hstage, restingLine] at h
      exact stepped_of_walkingStep hget hstage h

/-! ## 5. What a step changes -/

theorem group_of_run {d : Direction} {a : Activity} {r : Except Error Stage} {g : Group}
    (hg : s.state.groups.get? zone = some g)
    (hrun : (runStage zone (.walking d a)).perform o s = (r, t)) :
    t.state.registry = s.state.registry ∧
      ∃ g', t.state.groups.get? zone = some g' ∧ g'.plain = g.plain := by
  have hframe : t.framed zone = s.framed zone := (leaves_runStage zone d a).rel_of_perform hrun
  simp only [Session.framed, Prod.mk.injEq, hg, Option.map_some, Option.map_eq_some_iff] at hframe
  exact ⟨hframe.2.1, hframe.1⟩

/-- What a step makes of the stage of a group. -/
inductive Led (zone : DomainName) (o : Outside ω) (s : Session ω) : Stage → Stage → Prop
  | rested {stage : Stage} (rests : stage.isWalking = false) : Led zone o s stage stage
  | worked {d : Direction} {a : Activity} {next : Stage} {u : Session ω}
      (run : (runStage zone (.walking d a)).perform o s = (.ok next, u)) :
      Led zone o s (.walking d a) next
  | failed {d : Direction} {a : Activity} {e : Error} {u : Session ω}
      (run : (runStage zone (.walking d a)).perform o s = (.error e, u)) :
      Led zone o s (.walking d a) .error

/-- **Where a step can lead**: on, back to the work that a check is about, nowhere, or to the error
stage. -/
theorem Led.cases {stage next : Stage} (h : Led zone o s stage next) :
    next = stage ∨ next = stage.next ∨ next = stage.retry ∨ next = .error := by
  cases h with
  | rested _ => exact .inl rfl
  | worked hrun =>
    rcases (worked_of_runStage hrun).leads with h | h | h
    · exact .inl h
    · exact .inr (.inl h)
    · exact .inr (.inr (.inl h))
  | failed _ => exact .inr (.inr (.inr rfl))

/-- A group that rests stays where it is. -/
theorem Led.eq_of_rests {stage next : Stage} (h : Led zone o s stage next)
    (hrests : stage.isWalking = false) : next = stage := by
  cases h with
  | rested _ => rfl
  | worked _ | failed _ => cases hrests

/-- **A step keeps to its frame**: the group has its members, parent and time to live after it, and
the document is the same but for groups and origins. -/
theorem Stepped.after {r : Except Error Unit} {g : Group} (h : Stepped zone o s r t)
    (hg : s.state.groups.get? zone = some g) :
    t.state.registry = s.state.registry ∧ ∃ g', t.state.groups.get? zone = some g' ∧
      Led zone o s g.stage g'.stage ∧ g'.Alike g := by
  cases h with
  | missing hnone =>
    rw [hg] at hnone
    cases hnone
  | resting hg' hrests hrest =>
    rw [hg] at hg'
    cases hg'
    rw [(Session.lasting_eq_iff.1 hrest).1]
    exact ⟨rfl, g, hg, .rested hrests, ⟨rfl, rfl, rfl⟩⟩
  | moved hg' hstage hrun hstate _ =>
    rw [hg] at hg'
    cases hg'
    obtain ⟨hreg, g', hget, hplain⟩ := group_of_run hg hrun
    obtain ⟨⟨hsigners, hparent, httl⟩, hstage'⟩ := Group.alike_of_plain hplain
    rw [hstage, hstate]
    split
    · rename_i hsame
      refine ⟨hreg, g', hget, ?_, hsigners, hparent, httl⟩
      rw [hstage', hstage]
      rw [hsame] at hrun
      exact .worked hrun
    · rw [moveTo, State.get?_modifyGroup, hget, Option.map_some]
      exact ⟨hreg, _, rfl, .worked hrun, hsigners, hparent, httl⟩
  | failed hg' hstage hrun hstate _ =>
    rw [hg] at hg'
    cases hg'
    obtain ⟨hreg, g', hget, hplain⟩ := group_of_run hg hrun
    obtain ⟨⟨hsigners, hparent, httl⟩, -⟩ := Group.alike_of_plain hplain
    rw [hstage, hstate, fail, State.get?_modifyGroup, hget, Option.map_some]
    exact ⟨hreg, _, rfl, .failed hrun, hsigners, hparent, httl⟩

/-- **The deadlines after a step** of a group that walks are those that its work left, and its stage
is the one that the work leads to. -/
theorem Stepped.ran {r : Except Error Unit} {g g' : Group} {d : Direction} {a : Activity}
    (h : Stepped zone o s r t) (hg : s.state.groups.get? zone = some g)
    (hstage : g.stage = .walking d a) (hg' : t.state.groups.get? zone = some g') :
    ∃ r' u gu, (runStage zone (.walking d a)).perform o s = (r', u) ∧
      u.state.groups.get? zone = some gu ∧ (∀ h : Hold, h.deadline g' = h.deadline gu) ∧
      t.deliveries = u.deliveries ∧ g'.stage = match r' with
        | .ok next => next
        | .error _ => .error := by
  cases h with
  | missing hnone =>
    rw [hg] at hnone
    cases hnone
  | resting hg'' hrests _ =>
    rw [hg] at hg''
    cases hg''
    rw [hstage] at hrests
    cases hrests
  | moved hg'' hstage' hrun hstate hsent =>
    rw [hg] at hg''
    cases hg''
    rw [hstage] at hstage'
    cases hstage'
    obtain ⟨-, gu, hgu, hplain⟩ := group_of_run hg hrun
    refine ⟨_, _, gu, hrun, hgu, ?_⟩
    rw [hstate] at hg'
    split at hg'
    · rename_i hsame
      rw [hgu] at hg'
      cases hg'
      exact ⟨fun _ => rfl, hsent, (Group.alike_of_plain hplain).2.trans (hstage.trans hsame.symm)⟩
    · rw [moveTo, State.get?_modifyGroup, hgu, Option.map_some] at hg'
      cases hg'
      exact ⟨fun h => by cases h <;> rfl, hsent, rfl⟩
  | failed hg'' hstage' hrun hstate hsent =>
    rw [hg] at hg''
    cases hg''
    rw [hstage] at hstage'
    cases hstage'
    obtain ⟨-, gu, hgu, -⟩ := group_of_run hg hrun
    rw [hstate, fail, State.get?_modifyGroup, hgu, Option.map_some] at hg'
    cases hg'
    exact ⟨_, _, gu, hrun, hgu, fun h => by cases h <;> rfl, hsent, rfl⟩

/-- It failed, or its work succeeded in one of the ways listed. -/
theorem Stepped.worked {r : Except Error Unit} {g g' : Group} {d : Direction} {a : Activity}
    (h : Stepped zone o s r t) (hg : s.state.groups.get? zone = some g)
    (hstage : g.stage = .walking d a) (hg' : t.state.groups.get? zone = some g') :
    g'.stage = .error ∨ ∃ u, Worked zone d o s a g'.stage u ∧ t.deliveries = u.deliveries ∧
      ∀ h : Hold, (u.state.groups.get? zone).map h.deadline = some (h.deadline g') := by
  obtain ⟨r', u, gu, hrun, hgu, hdeadline, hsent, hnext⟩ := h.ran hg hstage hg'
  cases r' with
  | error e => exact .inl hnext
  | ok next =>
    rw [hnext]
    refine .inr ⟨u, worked_of_runStage hrun, hsent, fun h => ?_⟩
    rw [hgu, Option.map_some, hdeadline]

/-- A step of a zone without a group leaves the document as it is. -/
theorem Stepped.state_of_missing {r : Except Error Unit} (h : Stepped zone o s r t)
    (hg : s.state.groups.get? zone = none) : t = s := by
  cases h with
  | missing _ => rfl
  | resting hg' _ _ | moved hg' _ _ _ _ | failed hg' _ _ _ _ =>
    rw [hg] at hg'
    cases hg'

/-- A step of a group that rests does, too. -/
theorem Stepped.state_of_rests {r : Except Error Unit} {g : Group} (h : Stepped zone o s r t)
    (hg : s.state.groups.get? zone = some g) (hrests : g.stage.isWalking = false) :
    t.state = s.state := by
  cases h with
  | missing _ => rfl
  | resting _ _ hrest => exact (Session.lasting_eq_iff.1 hrest).1
  | moved hg' hstage _ _ _ | failed hg' hstage _ _ _ =>
    rw [hg] at hg'
    cases hg'
    rw [hstage] at hrests
    cases hrests

/-- **What a step sends** are updates of the plans of its group's stage. -/
theorem Stepped.sent {r : Except Error Unit} (h : Stepped zone o s r t) :
    ∃ ds, t.deliveries = s.deliveries ++ ds ∧ ∀ x ∈ ds, ∃ g d a u,
      s.state.groups.get? zone = some g ∧ g.stage = .walking d a ∧ Sent zone a o s u x.update ∧
        t.state.dnskeyOrigin = u.state.dnskeyOrigin := by
  cases h with
  | missing _ => exact ⟨[], by rw [List.append_nil], by simp⟩
  | resting _ _ hrest =>
    exact ⟨[], by rw [(Session.lasting_eq_iff.1 hrest).2.2.2, List.append_nil], by simp⟩
  | moved hg hstage hrun hstate hd =>
    obtain ⟨ds, hds, hsent⟩ := sent_of_runStage hrun
    refine ⟨ds, hd.trans hds, fun x hx => ⟨_, _, _, _, hg, hstage, hsent x hx, ?_⟩⟩
    rw [hstate]
    split <;> rfl
  | failed hg hstage hrun hstate hd =>
    obtain ⟨ds, hds, hsent⟩ := sent_of_runStage hrun
    refine ⟨ds, hd.trans hds, fun x hx => ⟨_, _, _, _, hg, hstage, hsent x hx, ?_⟩⟩
    rw [hstate]
    rfl

end MultiSigner.Automation
