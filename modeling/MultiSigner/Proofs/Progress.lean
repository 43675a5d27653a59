/-
# How a walk gets on

On a faithful network the checks and the hold of a walk succeed just as its activities do, and
`Standing.step` puts them all together: a step takes the group to the next stage of its walk, unless
it is held, and what is known of the walk so far (`Underway`) is known after it.

A group is held as long as the clock is before its deadline.  The deadline is the one that is stored
or, if there is none, the one that follows from what the servers hold (`due`).
-/
import MultiSigner.Proofs.Underway

namespace MultiSigner

open Operation Automation

/-! ## 1. Dates that can be written -/

namespace Timestamp

/-- A time of the years 1970 to 8999, as the clocks of computers show it. -/
def Dated (t : Timestamp) : Prop :=
  t.offset = 0 ∧ 0 ≤ t.nanos ∧ t.nanos < 221845392000 * second

instance (t : Timestamp) : Decidable t.Dated :=
  inferInstanceAs (Decidable (_ ∧ _ ∧ _))

theorem text?_isSome {t : Timestamp} (ho : t.offset = 0) (h : 0 ≤ t.nanos)
    (h' : t.nanos < 250000000000 * second) : t.text?.isSome = true := by
  have hdays : 0 ≤ t.nanos / second / 86400 ∧ t.nanos / second / 86400 < 2893519 := by
    rw [second] at h' ⊢
    omega
  have hyear : 0 ≤ (Time.Date.ofDay (t.nanos / second / 86400)).year ∧
      (Time.Date.ofDay (t.nanos / second / 86400)).year ≤ 9999 := by
    obtain ⟨hlow, hhigh⟩ := hdays
    simp only [Time.Date.ofDay]
    omega
  have hshifted : t.nanos + t.offset * 60 * second = t.nanos := by
    rw [ho, Int.zero_mul, Int.zero_mul, Int.add_zero]
  simp only [text?, hshifted, if_pos hyear, Option.isSome_some]

/-- A deadline that is counted from such a time can be written. -/
theorem Dated.text?_isSome {t : Timestamp} (h : t.Dated) (ttl : UInt32) :
    (t.addSeconds (2 * ttl.toNat)).text?.isSome = true := by
  obtain ⟨ho, hlow, hhigh⟩ := h
  have httl := ttl.toNat_lt
  refine Timestamp.text?_isSome ho ?_ ?_
  · simp only [addSeconds, second] at *
    omega
  · simp only [addSeconds, second] at *
    omega

end Timestamp

namespace Deployment

variable {ω : Type} {n : Deployment ω} {start s t u : Session ω} {d : Direction} {a : Activity}

/-! ## 2. What is noted about a group -/

/-- The servers hold what they held, and the document says the same of the members, of the parent
and of where keys come from. -/
structure Unmoved (n : Deployment ω) (s t : Session ω) : Prop where
  documented : n.Documented s.state → n.Documented t.state
  origins : t.state.dnskeyOrigin = s.state.dnskeyOrigin
  holds : n.holds t.world = n.holds s.world

theorem Unmoved.trans (h : n.Unmoved s t) (k : n.Unmoved t u) : n.Unmoved s u :=
  ⟨fun hs => k.documented (h.documented hs), k.origins.trans h.origins, k.holds.trans h.holds⟩

theorem unmoved_of_state (hstate : t.state = s.state)
    (hholds : n.holds t.world = n.holds s.world) : n.Unmoved s t := by
  refine ⟨fun hs => ?_, by rw [hstate], hholds⟩
  rw [hstate]
  exact hs

theorem Still.unmoved (h : n.Still s t) : n.Unmoved s t :=
  unmoved_of_state h.state h.holds

/-- The record of a group may change, as long as it has its members and its parent. -/
theorem unmoved_modifyGroup (f : Group → Group)
    (hf : ∀ g, (f g).signers = g.signers ∧ (f g).parent = g.parent)
    (hstate : t.state = s.state.modifyGroup n.zone f)
    (hholds : n.holds t.world = n.holds s.world) : n.Unmoved s t := by
  refine ⟨fun hs => ?_, by rw [hstate]; rfl, hholds⟩
  rw [hstate]
  refine ⟨?_, hs.populated, ?_, hs.credentials⟩
  · have hmembers : (s.state.modifyGroup n.zone f).members n.zone = s.state.members n.zone := by
      refine State.members_congr ?_ rfl
      rw [State.get?_modifyGroup, Option.map_map]
      exact congrArg (fun h => Option.map h _) (funext fun g => (hf g).1)
    exact hmembers.trans hs.members
  · obtain ⟨g, hg, hparent⟩ := hs.parent
    refine ⟨f g, by rw [State.get?_modifyGroup, hg, Option.map_some], ?_⟩
    rw [(hf g).2, hparent]

theorem Unmoved.records (h : n.Unmoved s t) (m : Member) : n.records t m = n.records s m :=
  records_congr h.holds m

theorem Unmoved.found (h : n.Unmoved s t) (hs : n.Found s) : n.Found t :=
  ⟨h.documented hs.documented, hs.serving.congr h.holds⟩

theorem Unmoved.underway {done : List Activity} (h : n.Unmoved s t)
    (hs : n.Underway start done s) : n.Underway start done t :=
  hs.congr (h.found hs.found) h.origins fun m _ => h.records m

/-! ## 3. Checks -/

theorem achieves_ask (hn : n.Faithful) (ha : n.Addressed) (hs : n.Found s) :
    Achieves n.outside s (Status.ask n.zone) fun answers t =>
      answers = (n.statusViews s, n.statusParent s) ∧ n.Unmoved s t := by
  refine Achieves.after (perform_groupMembers hs) (Achieves.after (perform_modifyState _) ?_)
  have hcleared : n.Unmoved s { s with state := Status.withFlags n.zone .none s.state } :=
    unmoved_modifyGroup (fun g => { g with synced := .none }) (fun _ => ⟨rfl, rfl⟩) rfl rfl
  have hviews : Achieves n.outside { s with state := Status.withFlags n.zone .none s.state }
      (n.members.mapM fun m => do
        let v ← observeSigner n.zone Status.signerKinds m
        lines (Status.describe (← state).dnskeyOrigin v)
        return v) fun vs t => vs = n.statusViews s ∧
          n.Still { s with state := Status.withFlags n.zone .none s.state } t := by
    refine achieves_mapM_members fun m hm t ht => ?_
    refine (achieves_observeSigner hn ha (ht.found (hcleared.found hs)) hm _).bind
      fun v u ⟨hv, hu⟩ => ?_
    refine Achieves.after perform_state ((still_lines _).bind fun _ w hw => ?_)
    refine achieves_pure ⟨?_, hu.trans hw⟩
    rw [hv, ht.records]
    rfl
  refine hviews.bind fun vs t ⟨hvs, ht⟩ => ?_
  have hfound := ht.found (hcleared.found hs)
  refine (achieves_observeParent hn ha hfound _).bind fun p u ⟨hp, hu⟩ => ?_
  refine achieves_pure ⟨?_, hcleared.trans (ht.trans hu).unmoved⟩
  rw [hvs, hp, parentRecords, ht.holds]
  rfl

/-- **A check is met** if what it looks for is the case. -/
theorem achieves_check (hn : n.Faithful) (ha : n.Addressed) (hs : n.Found s) (htags : n.Tagged s)
    {flag : SyncFlag} (hmeets : n.Meets s flag) :
    Achieves n.outside s (Status.check n.zone) fun flags t =>
      flags.get flag = true ∧ n.Unmoved s t := by
  obtain ⟨f, hflags, hget⟩ := flags_of_views htags hmeets
  rw [Status.check_eq]
  refine (achieves_ask hn ha hs).bind fun answers t ⟨hanswers, ht⟩ => ?_
  subst hanswers
  have hf : (Evaluation.ofViews n.zone (n.statusViews s) (n.statusParent s)
      t.state.dnskeyOrigin).flags = .ok f := by
    rw [ht.origins, hflags]
  refine Achieves.after perform_state ((still_lines _).bind fun _ u hu => ?_)
  have hlift : (liftM (Evaluation.ofViews n.zone (n.statusViews s) (n.statusParent s)
      t.state.dnskeyOrigin).flags : Operation ω SyncFlags).perform n.outside u = (.ok f, u) := by
    rw [perform_lift, hf]
  refine Achieves.after hlift (Achieves.after (perform_modifyState _) ?_)
  refine achieves_pure ⟨hget, (ht.trans hu.unmoved).trans ?_⟩
  exact unmoved_modifyGroup (fun g => { g with synced := f }) (fun _ => ⟨rfl, rfl⟩) rfl rfl

/-! ## 4. Holds -/

/-- The stage that the group is found in. -/
def stage? (n : Deployment ω) (s : Session ω) : Option Stage :=
  (s.state.groups.get? n.zone).map Group.stage

/-- The deadline that is stored for the group. -/
def deadline? (n : Deployment ω) (h : Hold) (s : Session ω) : Option Timestamp :=
  (s.state.groups.get? n.zone).bind h.deadline

/-- What the servers answer to a hold. -/
def answersTo (n : Deployment ω) (h : Hold) (s : Session ω) : List Answer :=
  (n.members.map fun m => ⟨(n.records s m).filter fun r => r.kind == h.signerKind⟩)
    ++ [⟨(n.parentRecords s).filter fun r => r.kind == h.parentKind⟩]

/-- **When a hold is over**: at the deadline that is stored or else as long after the present time
as twice the largest time to live that the servers answer. -/
def due (n : Deployment ω) (h : Hold) (s : Session ω) : Timestamp :=
  (n.deadline? h s).getD
    ((n.outside.now s.world).addSeconds (2 * (Hold.largest (n.answersTo h s)).toNat))

theorem achieves_askAnswer (hn : n.Faithful) {server : String} {rs : List Record}
    (h : n.holds s.world server = some rs) (kind : RecordKind) (label : String) :
    Achieves n.outside s (Hold.askAnswer n.zone kind label server) fun a t =>
      a = ⟨rs.filter fun r => r.kind == kind⟩ ∧ n.Still s t := by
  refine (achieves_query hn h kind).bind fun a t ⟨ha, ht⟩ => ?_
  exact (still_lines _).bind fun _ u hu => achieves_pure ⟨ha, ht.trans hu⟩

theorem achieves_answers (hn : n.Faithful) (ha : n.Addressed) (hs : n.Found s) (h : Hold) :
    Achieves n.outside s (h.answers n.zone) fun as t => as = n.answersTo h s ∧ n.Still s t := by
  refine Achieves.after (perform_groupMembers hs) ?_
  have hmembers : Achieves n.outside s (n.members.mapM fun m => do
      checkAddress m
      Hold.askAnswer n.zone h.signerKind m.name m.signer.address) fun as t =>
        as = (n.members.map fun m => ⟨(n.records s m).filter fun r => r.kind == h.signerKind⟩) ∧
          n.Still s t := by
    refine achieves_mapM_members fun m hm t ht => ?_
    refine Achieves.after (perform_checkAddress (ha.members m hm)) ?_
    refine (achieves_askAnswer hn ((ht.found hs).serving.holds_eq hm) _ _).imp
      fun a u ⟨ha, hu⟩ => ⟨?_, hu⟩
    rw [ha, ht.records]
  refine hmembers.bind fun as t ⟨has, ht⟩ => ?_
  refine Achieves.after (perform_parentAddress ha (ht.found hs)) ?_
  refine (achieves_askAnswer hn (ht.found hs).serving.holds_parent _ _).bind
    fun a u ⟨hanswer, hu⟩ => achieves_pure ⟨?_, ht.trans hu⟩
  rw [has, hanswer, answersTo, parentRecords, ht.holds, parentRecords]

theorem still_report {deadline now : Timestamp} (h : deadline.text?.isSome = true) :
    Achieves n.outside s (Hold.report deadline now) fun _ t => n.Still s t := by
  obtain ⟨text, htext⟩ := Option.isSome_iff_exists.1 h
  unfold Hold.report
  rw [htext]
  exact still_line _

/-- **A hold gives its deadline**, and stores it. -/
theorem achieves_wait (hn : n.Faithful) (ha : n.Addressed) (hs : n.Found s) {h : Hold}
    (htext : (n.due h s).text?.isSome = true) :
    Achieves n.outside s (h.wait n.zone) fun deadline t =>
      deadline = n.due h s ∧ n.deadline? h t = some (n.due h s) ∧ n.Unmoved s t := by
  obtain ⟨g, hg, -⟩ := hs.documented.parent
  have hstored : n.deadline? h s = h.deadline g := by rw [deadline?, hg, Option.bind_some]
  refine Achieves.after perform_now (Achieves.after perform_state ?_)
  refine Achieves.after (perform_group hg) ?_
  cases hd : h.deadline g with
  | some deadline =>
    have hdue : n.due h s = deadline := by rw [due, hstored, hd, Option.getD_some]
    rw [hdue] at htext ⊢
    refine (still_report htext).bind fun _ t ht => achieves_pure ⟨rfl, ?_, ht.unmoved⟩
    rw [deadline?, ht.state, ← deadline?, hstored, hd]
  | none =>
    have hdue : n.due h s = (n.outside.now s.world).addSeconds
        (2 * (Hold.largest (n.answersTo h s)).toNat) := by
      rw [due, hstored, hd, Option.getD_none]
    rw [hdue] at htext ⊢
    have hlargest : Achieves n.outside s (h.largestTtl n.zone) fun ttl t =>
        ttl = Hold.largest (n.answersTo h s) ∧ n.Still s t := by
      rw [Hold.largestTtl_eq, map_eq_pure_bind]
      refine (achieves_answers hn ha hs h).bind fun as t ⟨has, ht⟩ => achieves_pure ⟨?_, ht⟩
      rw [has]
    refine hlargest.bind fun ttl t ⟨httl, ht⟩ => (still_line _).bind fun _ u hu => ?_
    subst httl
    refine Achieves.after (perform_modifyState _) ((still_report htext).bind fun _ v hv => ?_)
    have hstate : v.state = s.state.modifyGroup n.zone (h.withDeadline (some
        ((n.outside.now s.world).addSeconds (2 * (Hold.largest (n.answersTo h s)).toNat)))) := by
      rw [hv.state, ← ht.state, ← hu.state]
    refine achieves_pure ⟨rfl, ?_, ?_⟩
    · rw [deadline?, hstate, State.get?_modifyGroup, hg, Option.map_some, Option.bind_some,
        Hold.deadline_withDeadline]
    · refine unmoved_modifyGroup _ (fun g => ?_) hstate (hv.holds.trans (hu.holds.trans ht.holds))
      cases h <;> exact ⟨rfl, rfl⟩

theorem deadline?_congr {h : Hold} (hsame : (t.state.groups.get? n.zone).map h.deadline
    = (s.state.groups.get? n.zone).map h.deadline) : n.deadline? h t = n.deadline? h s := by
  rw [deadline?, deadline?, ← Function.id_comp h.deadline, ← Option.bind_map, hsame,
    Option.bind_map]

/-! ## 5. The work of a stage -/

/-- What the surroundings owe to a step.  At a check of the parent, it refers to just those keys, or
delegates to just those names, that the signers ask it to; at the hold, the clock shows a date. -/
structure Heeds (n : Deployment ω) (s : Session ω) (a : Activity) : Prop where
  refers : a = .checkParentDs → n.ParentRefers s
  delegates : a = .checkParentNs → n.ParentDelegates s
  dated : a = .wait → (n.outside.now s.world).Dated

/-- The group is at an activity of its walk.  Only at the hold it may have a deadline, and any that
it has can be written. -/
structure At (n : Deployment ω) (start : Session ω) (d : Direction) (a : Activity) (s : Session ω) :
    Prop where
  stage : n.stage? s = some (.walking d a)
  underway : n.Underway start (d.before a) s
  idle : a ≠ .wait → n.deadline? (holdOf d) s = none
  written : ∀ deadline, n.deadline? (holdOf d) s = some deadline → deadline.text?.isSome = true

/-- How the work of a stage goes, with the stage that it leads to and the session that it leaves. -/
inductive Goes (n : Deployment ω) (start : Session ω) (d : Direction) (s : Session ω)
    (a : Activity) : Stage → Session ω → Prop
  | on {t : Session ω} (underway : n.Underway start (d.before a ++ [a]) t)
      (deadline : n.deadline? (holdOf d) t = none)
      (expired : a = .wait → (n.outside.now t.world).isBefore (n.due (holdOf d) s) = false) :
      Goes n start d s a (Stage.walking d a).next t
  | held {t : Session ω} (wait : a = .wait) (underway : n.Underway start (d.before a) t)
      (deadline : n.deadline? (holdOf d) t = some (n.due (holdOf d) s))
      (early : (n.outside.now t.world).isBefore (n.due (holdOf d) s) = true) :
      Goes n start d s a (.walking d a) t

theorem At.text?_due (h : n.At start d .wait s) (hdated : (n.outside.now s.world).Dated) :
    (n.due (holdOf d) s).text?.isSome = true := by
  rw [due]
  cases hd : n.deadline? (holdOf d) s with
  | some deadline => exact h.written deadline hd
  | none => exact hdated.text?_isSome _

theorem At.achieves_check (hn : n.Faithful) (ha : n.Addressed) (hwork : n.Workable start)
    (h : n.At start d a s) (hheeds : n.Heeds s a) {flag : SyncFlag}
    (hflag : work n.zone d a = (.check flag : Work ω)) (hacts : acts a = false)
    (hwait : a ≠ .wait) :
    Achieves n.outside s (doWork n.zone (.walking d a) (.check flag)) (n.Goes start d s a) := by
  have htags := hwork.tags.of_keysFrom h.underway.keysFrom
  have hmeets := h.underway.meets hwork.algorithms hheeds.refers hheeds.delegates hflag
  obtain ⟨f, t, hperform, hget, ht⟩ :=
    Deployment.achieves_check hn ha h.underway.found htags hmeets
  have hdeadline := deadline?_congr (deadline_of_unflagged (holdOf d)
    ((Status.leaves_check n.zone).rel_of_perform hperform))
  refine Achieves.after hperform ?_
  simp only [hget, if_true]
  refine (still_line _).bind fun _ u hu => achieves_pure (.on ?_ ?_ fun hw => absurd hw hwait)
  · exact (hu.unmoved.underway (ht.underway h.underway)).pass hacts
  · rw [deadline?, hu.state, ← deadline?, hdeadline, h.idle hwait]

theorem At.achieves_hold (hn : n.Faithful) (ha : n.Addressed) (h : n.At start d .wait s)
    (hheeds : n.Heeds s .wait) :
    Achieves n.outside s (doWork n.zone (.walking d .wait) (.hold (holdOf d)))
      (n.Goes start d s .wait) := by
  refine (achieves_wait hn ha h.underway.found (h.text?_due (hheeds.dated rfl))).bind
    fun deadline t ⟨hdeadline, hstored, ht⟩ => ?_
  subst hdeadline
  have hunderway := ht.underway h.underway
  refine Achieves.after perform_now ?_
  cases hearly : (n.outside.now t.world).isBefore (n.due (holdOf d) s) with
  | true => exact achieves_pure (.held rfl hunderway hstored hearly)
  | false =>
    refine Achieves.after (perform_line _) (Achieves.after (perform_modifyState _) ?_)
    refine achieves_pure (.on ?_ ?_ fun _ => hearly)
    · refine Underway.pass (Unmoved.underway ?_ hunderway) rfl
      refine unmoved_modifyGroup ((holdOf d).withDeadline none) (fun g => ?_) rfl rfl
      cases d <;> exact ⟨rfl, rfl⟩
    · rw [deadline?, Hold.clear, State.get?_modifyGroup, Option.bind_map]
      exact Option.bind_eq_none_iff.2 fun g _ => (holdOf d).deadline_withDeadline none g

/-- **On a walk the work of every stage succeeds.** -/
theorem At.achieves_runStage (hn : n.Faithful) (ha : n.Addressed) (hwork : n.Workable start)
    (hdel : a = .syncCds → n.Delegable start) (h : n.At start d a s) (hheeds : n.Heeds s a) :
    Achieves n.outside s (runStage n.zone (.walking d a)) (n.Goes start d s a) := by
  have hact : acts a = true →
      Achieves n.outside s (runStage n.zone (.walking d a)) (n.Goes start d s a) := by
    intro hacts
    have hwait : a ≠ .wait := by
      rintro rfl
      cases hacts
    obtain ⟨_, t, hperform, hunderway, hgroups⟩ :=
      h.underway.achieves_act hn ha hwork.tags hdel hacts
    refine ⟨_, t, ?_, .on hunderway ?_ fun hw => absurd hw hwait⟩
    · rw [perform_runStage_act hacts, perform_bind, hperform]
      rfl
    · rw [deadline?, hgroups, ← deadline?, h.idle hwait]
  cases a with
  | syncDnskeys | syncCds | removeCds | syncNs | addCsync | removeCsync => exact hact rfl
  | checkDnskeys | checkCds | checkParentDs | checkNs | checkParentNs =>
    exact h.achieves_check hn ha hwork hheeds rfl rfl (by decide)
  | wait => exact h.achieves_hold hn ha hheeds

/-! ## 6. Steps -/

/-- The session that a step of the group leaves. -/
def left (n : Deployment ω) (s : Session ω) : Session ω :=
  ((Automation.step n.zone).perform n.outside s).2

/-- **Whether a step is held**: it finds the group at its hold, and the clock does not show the
deadline yet. -/
def held (n : Deployment ω) (d : Direction) (s : Session ω) : Bool :=
  n.stage? s == some (.walking d .wait) &&
    (n.outside.now (n.left s).world).isBefore (n.due (holdOf d) s)

/-- Where a group on its walk stands: at an activity, or at the end with all of them behind. -/
inductive Standing (n : Deployment ω) (start : Session ω) (d : Direction) :
    Stage → Session ω → Prop
  | walking {a : Activity} {s : Session ω} (here : n.At start d a s) :
      Standing n start d (.walking d a) s
  | arrived {s : Session ω} (stage : n.stage? s = some .ready)
      (underway : n.Underway start d.activities s) (idle : n.deadline? (holdOf d) s = none) :
      Standing n start d .ready s

/-- What a step of a walk achieves.  It leaves a deadline only if it is held. -/
structure Steps (n : Deployment ω) (start : Session ω) (d : Direction) (stage : Stage)
    (s : Session ω) : Prop where
  found : n.stage? s = some stage
  succeeds : ((Automation.step n.zone).perform n.outside s).1 = .ok ()
  standing : n.Standing start d (if n.held d s then stage else stage.next) (n.left s)
  deadline : n.deadline? (holdOf d) (n.left s)
    = if n.held d s then some (n.due (holdOf d) s) else none

theorem stage?_of_runStage {next : Stage} (hs : n.stage? s = some (.walking d a))
    (hrun : (runStage n.zone (.walking d a)).perform n.outside s = (.ok next, t)) :
    n.stage? t = some (.walking d a) := by
  obtain ⟨g, hg, hstage⟩ := Option.map_eq_some_iff.1 hs
  obtain ⟨-, g', hg', hplain⟩ := group_of_run hg hrun
  rw [stage?, hg', Option.map_some, (Group.alike_of_plain hplain).2, hstage]

/-- The stage after an activity that was done. -/
theorem standing_next (hunderway : n.Underway start (d.before a ++ [a]) s)
    (hdeadline : n.deadline? (holdOf d) s = none)
    (hstage : n.stage? s = some (Stage.walking d a).next) :
    n.Standing start d (Stage.walking d a).next s := by
  rcases Stage.next_isWalking_or_ready d a with hready | ⟨b, hb⟩
  · rw [hready] at hstage ⊢
    rw [← Direction.activities_of_next hready] at hunderway
    exact .arrived hstage hunderway hdeadline
  · rw [hb] at hstage ⊢
    rw [← (Direction.before_of_next hb).2] at hunderway
    refine .walking ⟨hstage, hunderway, fun _ => hdeadline, fun deadline hd => ?_⟩
    rw [hdeadline] at hd
    cases hd

theorem At.held_eq (h : n.At start d a s) : n.held d s = (decide (a = .wait) &&
    (n.outside.now (n.left s).world).isBefore (n.due (holdOf d) s)) := by
  rw [held, h.stage]
  congr 1
  rw [Bool.eq_iff_iff, beq_iff_eq, decide_eq_true_eq]
  exact ⟨fun heq => by cases heq; rfl, fun heq => by rw [heq]⟩

/-- The group is taken to the next stage if the work of this one is done. -/
theorem At.steps_on (h : n.At start d a s)
    (hstep : (Automation.step n.zone).perform n.outside s = (.ok (), t))
    (hworld : t.world = u.world) (hstate : t.state = moveTo n.zone (Stage.walking d a).next u.state)
    (hstage : n.stage? u = some (.walking d a))
    (hunderway : n.Underway start (d.before a ++ [a]) u)
    (hdeadline : n.deadline? (holdOf d) u = none)
    (hexpired : a = .wait → (n.outside.now u.world).isBefore (n.due (holdOf d) s) = false) :
    n.Steps start d (.walking d a) s := by
  have hleft : n.left s = t := by rw [left, hstep]
  have hnot : n.held d s = false := by
    rw [h.held_eq, hleft, hworld]
    by_cases hwait : a = .wait
    · rw [hexpired hwait, Bool.and_false]
    · rw [decide_eq_false hwait, Bool.false_and]
  have hmoved : n.Unmoved u t := unmoved_modifyGroup
    (fun g => { g with stage := (Stage.walking d a).next }) (fun _ => ⟨rfl, rfl⟩) hstate
      (by rw [hworld])
  have hidle : n.deadline? (holdOf d) t = none := by
    rw [deadline?, hstate, moveTo, State.get?_modifyGroup, Option.bind_map]
    cases d <;> exact hdeadline
  refine ⟨h.stage, by rw [hstep], ?_, by rw [hnot, hleft, hidle, if_neg Bool.false_ne_true]⟩
  rw [hnot, hleft, if_neg Bool.false_ne_true]
  refine standing_next (hmoved.underway hunderway) hidle ?_
  rw [stage?, hstate, moveTo, State.get?_modifyGroup, Option.map_map]
  obtain ⟨g, hg, -⟩ := Option.map_eq_some_iff.1 hstage
  rw [hg, Option.map_some, Function.comp_apply]

/-- The group stays at its hold, with a deadline that can be written. -/
theorem At.steps_held (h : n.At start d .wait s) (hdated : (n.outside.now s.world).Dated)
    (hstep : (Automation.step n.zone).perform n.outside s = (.ok (), t))
    (hworld : t.world = u.world) (hstate : t.state = u.state)
    (hstage : n.stage? u = some (.walking d .wait))
    (hunderway : n.Underway start (d.before .wait) u)
    (hdeadline : n.deadline? (holdOf d) u = some (n.due (holdOf d) s))
    (hearly : (n.outside.now u.world).isBefore (n.due (holdOf d) s) = true) :
    n.Steps start d (.walking d .wait) s := by
  have hleft : n.left s = t := by rw [left, hstep]
  have hheld : n.held d s = true := by
    rw [h.held_eq, hleft, hworld, hearly]
    rfl
  have hmoved : n.Unmoved u t := unmoved_of_state hstate (by rw [hworld])
  have hstored : n.deadline? (holdOf d) t = some (n.due (holdOf d) s) := by
    rw [deadline?, hstate, ← deadline?, hdeadline]
  refine ⟨h.stage, by rw [hstep], ?_, by rw [hheld, hleft, hstored, if_pos rfl]⟩
  rw [hheld, hleft, if_pos rfl]
  refine .walking ⟨?_, hmoved.underway hunderway, fun hne => absurd rfl hne, fun _ hd => ?_⟩
  · rw [stage?, hstate, ← stage?, hstage]
  · rw [hstored, Option.some.injEq] at hd
    rw [← hd]
    exact h.text?_due hdated

/-- **A step of a walk succeeds**, and takes the group to the next stage unless it is held. -/
theorem At.step (hn : n.Faithful) (ha : n.Addressed) (hwork : n.Workable start)
    (hdel : a = .syncCds → n.Delegable start) (h : n.At start d a s) (hheeds : n.Heeds s a) :
    n.Steps start d (.walking d a) s := by
  obtain ⟨g, hg, hstage⟩ := Option.map_eq_some_iff.1 h.stage
  obtain ⟨next, u, hrun, hgoes⟩ := h.achieves_runStage hn ha hwork hdel hheeds
  obtain ⟨t, hstep, hworld, hstate⟩ := perform_step_of_runStage hg hstage hrun
  have hu := stage?_of_runStage h.stage hrun
  cases hgoes with
  | on hunderway hdeadline hexpired =>
    rw [if_neg (next_ne_self d a)] at hstate
    exact h.steps_on hstep hworld hstate hu hunderway hdeadline hexpired
  | held hwait hunderway hdeadline hearly =>
    subst hwait
    rw [if_pos rfl] at hstate
    exact h.steps_held (hheeds.dated rfl) hstep hworld hstate hu hunderway hdeadline hearly

/-- A step fails if it has to refer to a key for which no reference can be computed. -/
theorem At.fails (hn : n.Faithful) (ha : n.Addressed) (h : n.At start d .syncCds s)
    (hnot : ¬ n.Delegable s) :
    ∃ e, ((Automation.step n.zone).perform n.outside s).1 = .error e := by
  obtain ⟨g, hg, hstage⟩ := Option.map_eq_some_iff.1 h.stage
  obtain ⟨e, t, hplan⟩ := fails_planning_syncCds hn ha h.underway.found hnot
  refine ⟨e, perform_step_of_failed (u := t) hg hstage ?_⟩
  rw [perform_runStage_act (show acts .syncCds = true from rfl), perform_bind, perform_bind, hplan]

/-- **One step of a walk.** -/
theorem Standing.step {stage : Stage} (hn : n.Faithful) (ha : n.Addressed)
    (hwork : n.Workable start) (hdel : stage = .walking d .syncCds → n.Delegable start)
    (h : n.Standing start d stage s)
    (hheeds : ∀ d' a, stage = .walking d' a → n.Heeds s a) : n.Steps start d stage s := by
  cases h with
  | walking here =>
    exact here.step hn ha hwork (fun hsync => hdel (by rw [hsync])) (hheeds _ _ rfl)
  | arrived hstage hunderway hidle =>
    obtain ⟨g, hg, hready⟩ := Option.map_eq_some_iff.1 hstage
    have htext : restingLine g.stage = some "Nothing to do" := by rw [hready]; rfl
    have hstep := perform_step_of_rests (o := n.outside) hg htext
    rw [perform_line] at hstep
    have hnot : n.held d s = false := by
      rw [held, hstage]
      rfl
    have hstate : (n.left s).state = s.state := by rw [left, hstep]
    have hmoved : n.Unmoved s (n.left s) := unmoved_of_state hstate (by rw [left, hstep])
    refine ⟨hstage, by rw [hstep], ?_, ?_⟩
    · rw [hnot, if_neg Bool.false_ne_true]
      refine .arrived ?_ (hmoved.underway hunderway) ?_
      · rw [stage?, hstate, ← stage?, hstage]
      · rw [deadline?, hstate, ← deadline?, hidle]
    · rw [hnot, if_neg Bool.false_ne_true, deadline?, hstate, ← deadline?, hidle]

/-- A step that is neither held nor refers to keys takes the group on. -/
theorem Standing.on (hn : n.Faithful) (ha : n.Addressed) (hwork : n.Workable start)
    (h : n.Standing start d (.walking d a) s) (hheeds : n.Heeds s a) (hwait : a ≠ .wait)
    (hsync : a ≠ .syncCds) : n.Standing start d (Stage.walking d a).next (n.left s) := by
  have hstep := h.step hn ha hwork (fun heq => absurd (Stage.walking.inj heq).2 hsync)
    fun d' b heq => by
      cases heq
      exact hheeds
  have hheld : n.held d s = false := by
    have hne : (some (Stage.walking d a) == some (.walking d .wait)) = false :=
      beq_eq_false_iff_ne.2 fun heq => hwait (Stage.walking.inj (Option.some.inj heq)).2
    rw [held, hstep.found, hne, Bool.false_and]
  have hnext := hstep.standing
  rwa [hheld, if_neg Bool.false_ne_true] at hnext

end Deployment
end MultiSigner
