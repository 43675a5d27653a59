/-
# Checks and holds

Two kinds of work change no records: a check asks all signers and the parent and works out the flags
of the group, and a hold asks them for the time that old records may live on.  Both are taken apart
here into what is asked and what follows from the answers.

* `check_eq_ok`: the flags that a check gives are those of the answers of this very check.
* `wait_eq_ok`: a hold gives the stored deadline, or else one that lies twice the largest time to
  live of the answers of this very step ahead.
-/
import MultiSigner.Proofs.Observation
import MultiSigner.Proofs.Records

namespace MultiSigner

open Operation

variable {ω : Type} {o : Outside ω} {s t : Session ω} {zone : DomainName}

/-- What the work of a stage leaves alone: the group but for its answers and deadlines, and all of
the document but groups and origins. -/
def Session.framed (zone : DomainName) (s : Session ω) :=
  ((s.state.groups.get? zone).map Group.plain, s.state.registry, s.scheduler)

/-- The same for work that sends nothing. -/
def Session.silent (zone : DomainName) (s : Session ω) :=
  (s.framed zone, s.deliveries)

/-- All of a session that a check leaves alone. -/
def Session.unflagged (zone : DomainName) (s : Session ω) :=
  ((s.state.groups.get? zone).map Group.unflagged, s.state.registry, s.state.dnskeyOrigin,
    s.state.nsOrigin, s.scheduler, s.deliveries)

theorem Operation.Quiet.unflagged {α : Type} {op : Operation ω α} (h : Quiet op)
    (zone : DomainName) : Leaves (.keeping (Session.unflagged zone)) op :=
  h.mono fun s t hst => by
    obtain ⟨h₁, h₂, -, h₄⟩ := Session.lasting_eq_iff.1 hst
    show t.unflagged zone = s.unflagged zone
    simp only [Session.unflagged, h₁, h₂, h₄]

theorem Session.silent_of_lasting {s t : Session ω} (h : t.lasting = s.lasting) :
    t.silent zone = s.silent zone := by
  obtain ⟨h₁, h₂, -, h₄⟩ := Session.lasting_eq_iff.1 h
  simp only [Session.silent, Session.framed, h₁, h₂, h₄]

theorem Operation.Quiet.silent {α : Type} {op : Operation ω α} (h : Quiet op)
    (zone : DomainName) : Leaves (.keeping (Session.silent zone)) op :=
  h.mono fun _ _ => Session.silent_of_lasting

/-- What keeps all but answers keeps all but answers and deadlines. -/
theorem Session.silent_of_unflagged {s t : Session ω} (h : t.unflagged zone = s.unflagged zone) :
    t.silent zone = s.silent zone := by
  simp only [Session.unflagged, Prod.mk.injEq] at h
  obtain ⟨hg, hr, -, -, hs, hd⟩ := h
  have hplain := congrArg (Option.map Group.plain) hg
  rw [Option.map_map, Option.map_map] at hplain
  simp only [Session.silent, Session.framed, hr, hs, hd, Prod.mk.injEq, and_true]
  exact hplain

/-! ## 1. Checks -/

namespace Status

/-- What a check asks, and what it is told.  Old answers are forgotten before the first question. -/
def ask (zone : DomainName) : Operation ω (List SignerView × ParentView) := do
  let members ← groupMembers zone
  modifyState (withFlags zone .none)
  let views ← members.mapM fun m => do
    let v ← observeSigner zone signerKinds m
    lines (describe (← state).dnskeyOrigin v)
    return v
  let parent ← observeParent zone parentKinds
  return (views, parent)

/-- What a check makes of the answers. -/
def conclude (zone : DomainName) (answers : List SignerView × ParentView) :
    Operation ω SyncFlags := do
  let e := Evaluation.ofViews zone answers.1 answers.2 (← state).dnskeyOrigin
  lines e.lines
  let flags ← e.flags
  modifyState (withFlags zone flags)
  return flags

/-- A check asks and concludes. -/
theorem check_eq (zone : DomainName) :
    (check zone : Operation ω SyncFlags) = ask zone >>= conclude zone := by
  simp only [check, ask, conclude, bind_assoc, pure_bind]

/-- **The flags of a check are those of its own answers.** -/
theorem check_eq_ok {flags : SyncFlags} (h : (check zone).perform o s = (.ok flags, t)) :
    ∃ views parent u, (ask zone).perform o s = (.ok (views, parent), u) ∧
      (Evaluation.ofViews zone views parent u.state.dnskeyOrigin).flags = .ok flags := by
  rw [check_eq, perform_bind_eq_ok] at h
  obtain ⟨⟨views, parent⟩, u, hu, h⟩ := h
  refine ⟨views, parent, u, hu, ?_⟩
  simp only [conclude, perform_bind, perform_state, perform_lines, perform_lift] at h
  cases hf : (Evaluation.ofViews zone views parent u.state.dnskeyOrigin).flags with
  | error e =>
    rw [hf] at h
    cases h
  | ok f =>
    rw [hf] at h
    cases h
    rfl

theorem leaves_withFlags (zone : DomainName) (f : SyncFlags) :
    Leaves (.keeping (Session.unflagged zone))
      (modifyState (withFlags zone f) : Operation ω Unit) :=
  fun o s => by
    show Session.unflagged zone _ = Session.unflagged zone s
    simp only [perform_modifyState, Session.unflagged, withFlags, State.get?_modifyGroup,
      State.registry_modifyGroup, Option.map_map]
    rfl

/-- Asking reports and forgets the old answers of its group. -/
theorem leaves_ask_within {F : Footprint ω}
    (hquiet : ∀ {α : Type} {op : Operation ω α}, Quiet op → Leaves F op)
    (hflags : Leaves F (modifyState (withFlags zone .none) : Operation ω Unit)) :
    Leaves F (ask zone : Operation ω (List SignerView × ParentView)) := by
  refine leaves_bind (hquiet (quiet_groupMembers zone)) fun members => leaves_bind hflags fun _ => ?_
  refine leaves_bind (leaves_mapM (fun m => ?_) members) fun views => ?_
  · refine leaves_bind (hquiet (quiet_observeSigner zone signerKinds m)) fun v => ?_
    exact leaves_bind leaves_state fun _ =>
      leaves_bind (hquiet (quiet_lines _)) fun _ => leaves_pure v
  · exact leaves_bind (hquiet (quiet_observeParent zone parentKinds)) fun _ => leaves_pure _

/-- A check asks, reports and changes the answers of its group. -/
theorem leaves_check_within {F : Footprint ω}
    (hquiet : ∀ {α : Type} {op : Operation ω α}, Quiet op → Leaves F op)
    (hflags : ∀ f, Leaves F (modifyState (withFlags zone f) : Operation ω Unit)) :
    Leaves F (check zone : Operation ω SyncFlags) := by
  rw [check_eq]
  refine leaves_bind (leaves_ask_within hquiet (hflags .none)) fun answers => ?_
  refine leaves_bind leaves_state fun _ => leaves_bind (hquiet (quiet_lines _)) fun _ => ?_
  exact leaves_bind (leaves_lift _) fun flags =>
    leaves_bind (hflags flags) fun _ => leaves_pure flags

/-- A check changes the answers of its group and nothing else. -/
theorem leaves_check (zone : DomainName) :
    Leaves (.keeping (Session.unflagged zone)) (check zone : Operation ω SyncFlags) :=
  leaves_check_within (fun h => h.unflagged zone) (leaves_withFlags zone)

end Status

/-- Answers of a status are no part of a deadline. -/
theorem deadline_of_unflagged {s t : Session ω} {z : DomainName} (h : Hold)
    (hst : t.unflagged z = s.unflagged z) :
    (t.state.groups.get? z).map h.deadline = (s.state.groups.get? z).map h.deadline := by
  have hgroup : (t.state.groups.get? z).map Group.unflagged
      = (s.state.groups.get? z).map Group.unflagged := congrArg Prod.fst hst
  have hdeadline := congrArg (Option.map h.deadline) hgroup
  rw [Option.map_map, Option.map_map] at hdeadline
  cases h <;> exact hdeadline

/-! ## 2. The largest time to live -/

namespace Hold

/-- Asks one server and reports its records. -/
def askAnswer (zone : DomainName) (kind : RecordKind) (label server : String) :
    Operation ω Answer := do
  let answer ← query server zone kind
  lines (answer.records.map fun r => s!"{label}: {r.data.text} ttl {r.ttl}")
  return answer

/-- All that the signers and the parent answer to a hold. -/
def answers (h : Hold) (zone : DomainName) : Operation ω (List Answer) := do
  let members ← groupMembers zone
  let answers ← members.mapM fun m => do
    checkAddress m
    askAnswer zone h.signerKind m.name m.signer.address
  let parent ← parentAddress zone
  let answer ← askAnswer zone h.parentKind "parent" parent
  return answers ++ [answer]

/-- The largest time to live of the records of some answers. -/
def largest (answers : List Answer) : UInt32 :=
  (answers.map Answer.maxTtl).foldl max 0

theorem mapM_map_result {α β γ : Type} (f : α → Operation ω β) (g : β → γ) :
    ∀ l : List α, (l.mapM fun a => g <$> f a) = List.map g <$> l.mapM f
  | [] => rfl
  | a :: l => by
    rw [List.mapM_cons, List.mapM_cons, mapM_map_result f g l]
    simp only [map_eq_pure_bind, bind_assoc, pure_bind, List.map_cons]

/-- The largest time to live is that of the answers. -/
theorem largestTtl_eq (h : Hold) (zone : DomainName) :
    (h.largestTtl zone : Operation ω UInt32) = largest <$> h.answers zone := by
  have hask : ∀ kind label server, (askTtl zone kind label server : Operation ω UInt32)
      = Answer.maxTtl <$> askAnswer zone kind label server := fun kind label server => by
    simp only [askTtl, askAnswer, map_eq_pure_bind, bind_assoc, pure_bind]
  have hmember : ∀ m : Member, (do
        checkAddress m
        askTtl zone h.signerKind m.name m.signer.address : Operation ω UInt32)
      = Answer.maxTtl <$> (do
        checkAddress m
        askAnswer zone h.signerKind m.name m.signer.address) := fun m => by
    simp only [hask, map_eq_pure_bind, bind_assoc]
  simp only [largestTtl, answers, hmember, mapM_map_result]
  simp only [hask, map_eq_pure_bind, bind_assoc, pure_bind, largest, List.map_append,
    List.map_cons, List.map_nil]

theorem max_cases (a b : UInt32) : a ≤ b ∧ max a b = b ∨ b ≤ a ∧ max a b = a := by
  by_cases h : a ≤ b
  · exact .inl ⟨h, if_pos h⟩
  · exact .inr ⟨(UInt32.le_total a b).resolve_left h, if_neg h⟩

theorem foldl_max_spec : ∀ (l : List UInt32) (b : UInt32),
    b ≤ l.foldl max b ∧ (∀ x ∈ l, x ≤ l.foldl max b) ∧ (l.foldl max b = b ∨ l.foldl max b ∈ l)
  | [], b => ⟨UInt32.le_refl b, by simp, .inl rfl⟩
  | x :: l, b => by
    obtain ⟨hb, hl, hmem⟩ := foldl_max_spec l (max b x)
    rw [List.foldl_cons, List.forall_mem_cons]
    rcases max_cases b x with ⟨hbx, h⟩ | ⟨hxb, h⟩
    · rw [h] at hb hl hmem ⊢
      refine ⟨UInt32.le_trans hbx hb, ⟨hb, hl⟩, .inr ?_⟩
      rcases hmem with h | h
      · rw [h]
        exact List.mem_cons_self
      · exact List.mem_cons_of_mem _ h
    · rw [h] at hb hl hmem ⊢
      exact ⟨hb, ⟨UInt32.le_trans hxb hb, hl⟩, hmem.imp_right (List.mem_cons_of_mem _)⟩

/-- A time to live is the largest one of the records of some answers, and zero if there are
none. -/
structure IsLargest (ttl : UInt32) (as : List Answer) : Prop where
  bound : ∀ a ∈ as, ∀ r ∈ a.records, r.ttl ≤ ttl
  attained : ttl = 0 ∨ ∃ a ∈ as, ∃ r ∈ a.records, r.ttl = ttl

theorem isLargest (as : List Answer) : IsLargest (largest as) as where
  bound a ha r hr := UInt32.le_trans ((foldl_max_spec _ 0).2.1 _ (List.mem_map_of_mem hr))
    ((foldl_max_spec _ 0).2.1 _ (List.mem_map_of_mem ha))
  attained := by
    rcases (foldl_max_spec (as.map Answer.maxTtl) 0).2.2 with h | h
    · exact .inl h
    · obtain ⟨a, ha, hmax⟩ := List.mem_map.1 h
      rcases (foldl_max_spec (a.records.map Record.ttl) 0).2.2 with h₀ | h₀
      · exact .inl (hmax.symm.trans h₀)
      · obtain ⟨r, hr, httl⟩ := List.mem_map.1 h₀
        exact .inr ⟨a, ha, r, hr, httl.trans hmax⟩

/-! ## 3. Holds -/

theorem quiet_askAnswer (zone : DomainName) (kind : RecordKind) (label server : String) :
    Quiet (askAnswer zone kind label server : Operation ω Answer) :=
  leaves_bind (quiet_query _ _ _) fun _ => leaves_bind (quiet_lines _) fun _ => leaves_pure _

theorem quiet_answers (h : Hold) (zone : DomainName) :
    Quiet (h.answers zone : Operation ω (List Answer)) := by
  refine leaves_bind (quiet_groupMembers zone) fun members => ?_
  refine leaves_bind (leaves_mapM (fun m => ?_) members) fun _ => ?_
  · exact leaves_bind (leaves_lift _) fun _ => quiet_askAnswer _ _ _ _
  · exact leaves_bind (quiet_parentAddress zone) fun _ =>
      leaves_bind (quiet_askAnswer _ _ _ _) fun _ => leaves_pure _

theorem quiet_report (deadline now : Timestamp) :
    Quiet (report deadline now : Operation ω Unit) := by
  unfold report
  cases deadline.text? with
  | none => exact leaves_throw _
  | some text => exact quiet_line _

theorem quiet_largestTtl (h : Hold) (zone : DomainName) :
    Quiet (h.largestTtl zone : Operation ω UInt32) := by
  rw [largestTtl_eq, map_eq_pure_bind]
  exact leaves_bind (quiet_answers h zone) fun _ => leaves_pure _

/-- How a hold comes to its deadline: it is stored, or it is worked out from the answers. -/
inductive Sets (h : Hold) (zone : DomainName) (o : Outside ω) (s t : Session ω) (g : Group) :
    Timestamp → Prop
  | stored {deadline : Timestamp} (hd : h.deadline g = some deadline) (ht : t.state = s.state) :
      Sets h zone o s t g deadline
  | fresh {as : List Answer} {u : Session ω} (hd : h.deadline g = none)
      (has : (h.answers zone).perform o s = (.ok as, u))
      (ht : t.state = s.state.modifyGroup zone
        (h.withDeadline (some ((o.now s.world).addSeconds (2 * (largest as).toNat))))) :
      Sets h zone o s t g ((o.now s.world).addSeconds (2 * (largest as).toNat))

/-- **A hold that gives a deadline**, taken apart. -/
theorem wait_eq_ok {h : Hold} {deadline : Timestamp}
    (hp : (h.wait zone).perform o s = (.ok deadline, t)) :
    ∃ g, s.state.groups.get? zone = some g ∧ Sets h zone o s t g deadline := by
  simp only [wait, perform_bind, perform_now, perform_state, perform_lift] at hp
  cases hg : s.state.group zone with
  | error e =>
    rw [hg] at hp
    cases hp
  | ok g =>
    refine ⟨g, State.group_eq_ok.1 hg, ?_⟩
    rw [hg] at hp
    cases hd : h.deadline g with
    | some d =>
      simp only [hd] at hp
      obtain ⟨_, u, hu, hp⟩ := perform_bind_eq_ok.1 hp
      cases hp
      exact .stored hd ((quiet_report _ _).state_eq hu)
    | none =>
      simp only [hd] at hp
      obtain ⟨ttl, u, hu, hp⟩ := perform_bind_eq_ok.1 hp
      have hstate := (quiet_largestTtl h zone).state_eq hu
      rw [largestTtl_eq, map_eq_pure_bind, perform_bind_eq_ok] at hu
      obtain ⟨as, v, has, hu⟩ := hu
      cases hu
      obtain ⟨_, w, hw, hp⟩ := perform_bind_eq_ok.1 hp
      cases hw
      obtain ⟨_, x, hx, hp⟩ := perform_bind_eq_ok.1 hp
      cases hx
      obtain ⟨_, y, hy, hp⟩ := perform_bind_eq_ok.1 hp
      have hstate' := (quiet_report _ _).state_eq hy
      cases hp
      refine .fresh hd has ?_
      rw [hstate', ← hstate]

/-- There is no deadline, or one that cannot be told.  No hold is over by it. -/
def Moot (deadline : Option Timestamp) : Prop :=
  ∀ t, deadline = some t → t.text? = none

theorem perform_report (deadline now : Timestamp) :
    (report deadline now).perform o s = match deadline.text? with
      | none => (.error .timestampFormat, s)
      | some text => (.ok (), { s with
          transcript := s.transcript.line
            s!"Wait until {text} ({deadline.remainingSeconds now}s)" }) := by
  unfold report
  cases deadline.text? with
  | none => rfl
  | some text => rfl

/-- **A hold tells its deadline**, or fails and leaves a moot one. -/
theorem wait_told {h : Hold} {r : Except Error Timestamp} {g : Group}
    (hp : (h.wait zone).perform o s = (r, t)) (hg : t.state.groups.get? zone = some g) :
    (∃ deadline, r = .ok deadline ∧ deadline.text?.isSome) ∨
      (∃ e, r = .error e) ∧ Moot (h.deadline g) := by
  simp only [wait, perform_bind, perform_now, perform_state, perform_lift] at hp
  cases hfound : s.state.group zone with
  | error e =>
    rw [hfound] at hp
    cases hp
    rw [State.group_eq_ok.2 hg] at hfound
    cases hfound
  | ok g₀ =>
    rw [hfound] at hp
    have hg₀ := State.group_eq_ok.1 hfound
    cases hd : h.deadline g₀ with
    | some deadline =>
      simp only [hd, perform_bind, perform_report] at hp
      cases htext : deadline.text? with
      | none =>
        rw [htext] at hp
        cases hp
        rw [hg₀] at hg
        cases hg
        refine .inr ⟨⟨_, rfl⟩, fun t ht => ?_⟩
        rw [hd] at ht
        cases ht
        exact htext
      | some text =>
        rw [htext] at hp
        cases hp
        exact .inl ⟨deadline, rfl, by rw [htext]; rfl⟩
    | none =>
      simp only [hd, perform_bind] at hp
      rcases hask : (h.largestTtl zone).perform o s with ⟨e | ttl, u⟩
      all_goals
        have hstate := (quiet_largestTtl h zone).state_eq hask
        rw [hask] at hp
      · cases hp
        rw [hstate, hg₀] at hg
        cases hg
        refine .inr ⟨⟨_, rfl⟩, fun t ht => ?_⟩
        rw [hd] at ht
        cases ht
      · simp only [perform_line, perform_modifyState, perform_report] at hp
        cases htext : ((o.now s.world).addSeconds (2 * ttl.toNat)).text? with
        | none =>
          rw [htext] at hp
          cases hp
          rw [hstate, State.get?_modifyGroup, hg₀, Option.map_some] at hg
          cases hg
          refine .inr ⟨⟨_, rfl⟩, fun t ht => ?_⟩
          rw [deadline_withDeadline] at ht
          cases ht
          exact htext
        | some text =>
          rw [htext] at hp
          cases hp
          exact .inl ⟨_, rfl, by rw [htext]; rfl⟩

/-- A hold asks, reports and sets its deadline. -/
theorem leaves_wait_within {F : Footprint ω} (h : Hold)
    (hquiet : ∀ {α : Type} {op : Operation ω α}, Quiet op → Leaves F op)
    (hset : ∀ t, Leaves F (modifyState fun s =>
      s.modifyGroup zone (h.withDeadline (some t)) : Operation ω Unit)) :
    Leaves F (h.wait zone : Operation ω Timestamp) := by
  refine leaves_bind leaves_now fun now => leaves_bind leaves_state fun _ => ?_
  refine leaves_bind (leaves_lift _) fun g => ?_
  cases h.deadline g with
  | some t => exact leaves_bind (hquiet (quiet_report t now)) fun _ => leaves_pure t
  | none =>
    refine leaves_bind (hquiet (quiet_largestTtl h zone)) fun ttl => ?_
    refine leaves_bind (hquiet (quiet_line _)) fun _ => leaves_bind (hset _) fun _ => ?_
    exact leaves_bind (hquiet (quiet_report _ now)) fun _ => leaves_pure _

/-- A hold changes its deadline and nothing else, also when it fails. -/
theorem leaves_wait (h : Hold) (zone : DomainName) :
    Leaves (.keeping (Session.silent zone)) (h.wait zone : Operation ω Timestamp) := by
  refine leaves_wait_within h (fun hop => hop.silent zone) fun t o s => ?_
  show Session.silent zone _ = Session.silent zone s
  cases h <;> simp only [perform_modifyState, Session.silent, Session.framed,
    State.get?_modifyGroup, State.registry_modifyGroup, Option.map_map] <;> rfl

end Hold
end MultiSigner
