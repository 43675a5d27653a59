/-
# Runs

A deed is one thing that a controller does: it runs a command, or it steps a group because a task
woke up.  A run is a list of deeds, the earliest one first, each of which finds the document that
the one before it left; everything else, the outside included, may have become anything in between.

What runs have in common is said here once.  `Walked` is the trace that a walk leaves in a run: the
activities before the present one were each passed, in order.  Every way in which a step moves a
group keeps it (`walked_of_led`), which is the step lemma of all statements about runs.
-/
import MultiSigner.Controller
import MultiSigner.Proofs.Membership
import MultiSigner.Proofs.Step

namespace MultiSigner

open Operation Automation

variable {ω : Type}

/-! ## 1. Deeds -/

/-- What a controller can be asked to do. -/
inductive Action
  | command (args : List String)
  | tick (zone : DomainName)

/-- An action in the session that it finds. -/
structure Deed (ω : Type) where
  action : Action
  before : Session ω

namespace Deed

variable (c : Controller ω) (zone : DomainName) (e : Deed ω)

/-- The action as an operation. -/
def operation : Operation ω Unit :=
  match e.action with
  | .command args => Controller.command c.mode args
  | .tick z => Controller.tick z

/-- The session that a deed leaves. -/
def after : Session ω :=
  (e.operation c |>.perform c.outside e.before).2

/-- A delivery of the deed. -/
def Sends (x : Delivery) : Prop :=
  ∃ ds, (e.after c).deliveries = e.before.deliveries ++ ds ∧ x ∈ ds

/-- The stage in which a deed finds the group of the zone. -/
def stage? : Option Stage :=
  (e.before.state.groups.get? zone).map Group.stage

/-- The stage in which a deed leaves it. -/
def stageAfter? : Option Stage :=
  ((e.after c).state.groups.get? zone).map Group.stage

/-- The deed is a step of the automation of the zone: by a task, or by a command while no task
automates the zone. -/
inductive Steps : Prop
  | tick {z : DomainName} (action : e.action = .tick z) (same : (z == zone) = true)
  | command {args : List String} {z : DomainName} (action : e.action = .command args)
      (parse : Command.parse c.mode args = .ok (.automateStep z none))
      (idle : e.before.scheduler.isRunning z = false) (same : (z == zone) = true)

/-- The deed is a command that changes the members of the zone's group. -/
inductive ChangesMembers : Prop
  | add {args : List String} {z : DomainName} {name : String} {nameserver : DomainName}
      {address : String} (action : e.action = .command args)
      (parse : Command.parse c.mode args = .ok (.signerAdd z name nameserver address))
      (same : (z == zone) = true)
  | mark {args : List String} {name : String} {leaving : Bool} (action : e.action = .command args)
      (parse : Command.parse c.mode args = .ok (.signerLeave name leaving))
      (member : ∀ signer, e.before.state.signers.get? name = some signer →
        (signer.group == zone) = true)

/-- The deed is a command that is turned away. -/
inductive TurnedAway : Prop
  | unread {args : List String} {failure : Error} (action : e.action = .command args)
      (parse : Command.parse c.mode args = .error failure)
  | busy {args : List String} {z : DomainName} (action : e.action = .command args)
      (parse : Command.parse c.mode args = .ok (.automateStep z none))
      (running : e.before.scheduler.isRunning z = true)

/-- A signer is turned by the deed. -/
def Turns (d : Direction) (name : String) : Prop :=
  ¬ e.before.state.Bound d name ∧ (e.after c).state.Bound d name

/-- The deed turns a signer and lets its group start to walk. -/
def Starts (d : Direction) : Prop :=
  (∃ name, e.Turns c d name) ∧ e.stageAfter? c zone = some (.start d)

variable {c zone e}

/-! ## 2. What deeds do -/

/-- What is done with the result of an operation: the document is saved. -/
theorem saved_of_attempt {op : Operation ω Unit} {o : Outside ω} {s t : Session ω}
    {r : Except Error Unit} (h : (do
      let result ← attempt op
      let saved ← attempt save
      result
      saved : Operation ω Unit).perform o s = (r, t)) :
    t.lasting = (op.perform o s).2.lasting := by
  simp only [perform_bind, perform_attempt, perform_save, perform_lift] at h
  cases hr : (op.perform o s).1 with
  | error e =>
    rw [hr] at h
    cases h
    rfl
  | ok a =>
    rw [hr] at h
    cases h
    rfl

theorem lasting_of_command {args : List String} (ha : e.action = .command args) :
    (e.after c).lasting = ((do (← Command.parse c.mode args).run : Operation ω Unit).perform
      c.outside e.before).2.lasting := by
  have hop : e.operation c = Controller.command c.mode args := by rw [operation, ha]
  rw [after, hop]
  exact saved_of_attempt (by rfl)

theorem lasting_of_parsed {args : List String} {cmd : Command} (ha : e.action = .command args)
    (hp : Command.parse c.mode args = .ok cmd) :
    (e.after c).lasting = (cmd.run.perform c.outside e.before).2.lasting := by
  rw [lasting_of_command ha, perform_bind, perform_lift, hp]

theorem lasting_of_tick {z : DomainName} (ha : e.action = .tick z) :
    (e.after c).lasting = ((Automation.step z).perform c.outside e.before).2.lasting := by
  have hop : e.operation c = Controller.tick z := by rw [operation, ha]
  rw [after, hop]
  exact saved_of_attempt (by rfl)

theorem perform_requireIdle (z : DomainName) {o : Outside ω} {s : Session ω} :
    (Command.requireIdle z).perform o s
      = (if s.scheduler.isRunning z then .error (.automationRunning z) else .ok (), s) := by
  simp only [Command.requireIdle, perform_bind, perform_get, perform_ite, perform_throw,
    perform_pure]
  split <;> rfl

/-- **A step is a step**, whichever way it was asked for. -/
theorem Steps.stepped (h : e.Steps c zone) : ∃ z r t, (z == zone) = true ∧
    Stepped z c.outside e.before r t ∧ (e.after c).lasting = t.lasting := by
  cases h with
  | @tick z ha hz =>
    rcases hrun : (Automation.step z).perform c.outside e.before with ⟨r, t⟩
    refine ⟨z, r, t, hz, stepped_of_step hrun, (lasting_of_tick ha).trans ?_⟩
    rw [hrun]
  | @command args z ha hp hidle hz =>
    rcases hrun : (Automation.step z).perform c.outside e.before with ⟨r, t⟩
    refine ⟨z, r, t, hz, stepped_of_step hrun, (lasting_of_parsed ha hp).trans ?_⟩
    simp only [Command.run, Command.step, perform_bind, perform_requireIdle, hidle,
      Bool.false_eq_true, if_false, hrun]

/-- A command that is turned away does nothing. -/
theorem TurnedAway.lasting (h : e.TurnedAway c) : (e.after c).lasting = e.before.lasting := by
  cases h with
  | unread ha hp =>
    rw [lasting_of_command ha, perform_bind, perform_lift, hp]
  | busy ha hp hrun =>
    rw [lasting_of_parsed ha hp]
    simp only [Command.run, Command.step, perform_bind, perform_requireIdle, hrun, if_true]

/-- **A change of members turns one signer**, if anything. -/
theorem ChangesMembers.turned (h : e.ChangesMembers c zone) :
    ((e.after c).state = e.before.state ∨
      ∃ d name, Turned zone d name e.before.state (e.after c).state) ∧
      (e.after c).deliveries = e.before.deliveries := by
  cases h with
  | add ha hp hz =>
    obtain ⟨hstate, -, -, hd⟩ := Session.lasting_eq_iff.1 (lasting_of_parsed ha hp)
    rw [hstate, hd]
    obtain ⟨hturned, hsent⟩ := turned_of_addSigner hz rfl
    exact ⟨hturned.imp_right fun h => ⟨_, _, h⟩, hsent⟩
  | mark ha hp hz =>
    obtain ⟨hstate, -, -, hd⟩ := Session.lasting_eq_iff.1 (lasting_of_parsed ha hp)
    rw [hstate, hd]
    obtain ⟨hturned, hsent⟩ := turned_of_markLeave hz rfl
    exact ⟨hturned.imp_right fun h => ⟨_, _, h⟩, hsent⟩

end Deed

/-! ## 3. Walks -/

theorem next_ne_self (d : Direction) (a : Activity) :
    (Stage.walking d a).next ≠ .walking d a := by
  cases d <;> cases a <;> decide

namespace Direction

/-- The activities of a walk before the given one. -/
def before (d : Direction) (a : Activity) : List Activity :=
  d.activities.takeWhile (· ≠ a)

theorem before_first (d : Direction) : d.before d.first = [] := by
  cases d <;> rfl

theorem before_of_next {d d' : Direction} {a b : Activity}
    (h : (Stage.walking d a).next = .walking d' b) : d' = d ∧ d.before b = d.before a ++ [a] := by
  cases d <;> cases a <;> cases h <;> exact ⟨rfl, rfl⟩

theorem before_of_retry {d d' : Direction} {a b : Activity}
    (h : (Stage.walking d a).retry = .walking d' b) : d' = d ∧ d.before b <+: d.before a := by
  cases d <;> cases a <;> cases h <;> exact ⟨rfl, by decide⟩

theorem activities_of_next {d : Direction} {a : Activity}
    (h : (Stage.walking d a).next = .ready) : d.activities = d.before a ++ [a] := by
  cases d <;> cases a <;> cases h <;> rfl

end Direction

/-- The trace of a walk in a run: each activity before the given one was passed, in order. -/
def Walked (P : Activity → Deed ω → Prop) (d : Direction) (a : Activity) (run : List (Deed ω)) :
    Prop :=
  List.SublistForall₂ P (d.before a) run

section Walked

variable {P : Activity → Deed ω → Prop} {d d' : Direction} {a b : Activity} {run : List (Deed ω)}
  {e : Deed ω}

theorem walked_first (P : Activity → Deed ω → Prop) (d : Direction) (run : List (Deed ω)) :
    Walked P d d.first run := by
  rw [Walked, d.before_first]
  exact .nil

theorem sublistForall₂_snoc {α β : Type} {R : α → β → Prop} {l : List α} {m : List β} {x : α}
    {y : β} (h : List.SublistForall₂ R l m) (hxy : R x y) :
    List.SublistForall₂ R (l ++ [x]) (m ++ [y]) := by
  obtain ⟨k, hk, hsub⟩ := List.sublistForall₂_iff.1 h
  exact List.sublistForall₂_iff.2 ⟨k ++ [y], List.rel_append hk (.cons hxy .nil),
    hsub.append (List.Sublist.refl _)⟩

theorem sublistForall₂_prefix {α β : Type} {R : α → β → Prop} {l k : List α} {m m' : List β}
    (h : List.SublistForall₂ R l m) (hk : k <+: l) (hm : m.Sublist m') :
    List.SublistForall₂ R k m' := by
  obtain ⟨n, hn, hsub⟩ := List.sublistForall₂_iff.1 h
  obtain ⟨r, rfl⟩ := hk
  have htake := List.forall₂_take k.length hn
  rw [List.take_left] at htake
  exact List.sublistForall₂_iff.2
    ⟨n.take k.length, htake, (List.take_sublist _ _).trans (hsub.trans hm)⟩

theorem sublistForall₂_imp {α β : Type} {R S : α → β → Prop} {l : List α} {m : List β}
    (h : List.SublistForall₂ R l m) (himp : ∀ a, ∀ b ∈ m, R a b → S a b) :
    List.SublistForall₂ S l m := by
  induction h with
  | nil => exact .nil
  | cons hab _ ih =>
    exact .cons (himp _ _ List.mem_cons_self hab)
      (ih fun a b hb => himp a b (List.mem_cons_of_mem _ hb))
  | cons_right _ ih => exact .cons_right (ih fun a b hb => himp a b (List.mem_cons_of_mem _ hb))

theorem Walked.stay (h : Walked P d a run) (e : Deed ω) : Walked P d a (run ++ [e]) :=
  sublistForall₂_prefix h (List.prefix_refl _) (List.sublist_append_left _ _)

theorem Walked.next (h : Walked P d a run) (he : P a e)
    (hb : (Stage.walking d a).next = .walking d' b) : d' = d ∧ Walked P d b (run ++ [e]) := by
  obtain ⟨rfl, hbefore⟩ := Direction.before_of_next hb
  rw [Walked, hbefore]
  exact ⟨rfl, sublistForall₂_snoc h he⟩

theorem Walked.retry (h : Walked P d a run) (e : Deed ω)
    (hb : (Stage.walking d a).retry = .walking d' b) : d' = d ∧ Walked P d b (run ++ [e]) := by
  obtain ⟨rfl, hbefore⟩ := Direction.before_of_retry hb
  exact ⟨rfl, sublistForall₂_prefix h hbefore (List.sublist_append_left _ _)⟩

/-- A group that walks after a step walked in the same direction before. -/
theorem exists_walking_of_led {zone : DomainName} {o : Outside ω} {s : Session ω} {stage : Stage}
    (h : Led zone o s stage (.walking d b)) : ∃ a, stage = .walking d a := by
  generalize hnext : Stage.walking d b = next at h
  cases h with
  | rested hr =>
    rw [← hnext] at hr
    cases hr
  | failed _ => cases hnext
  | @worked d' a next u hrun =>
    subst hnext
    rcases (Led.worked hrun).cases with hstay | hnext | hretry | herror
    · exact ⟨b, hstay.symm⟩
    · rw [(Direction.before_of_next hnext.symm).1]
      exact ⟨a, rfl⟩
    · rw [(Direction.before_of_retry hretry.symm).1]
      exact ⟨a, rfl⟩
    · cases herror

/-- A walk that ends has passed all of its activities, in order. -/
theorem Walked.ready (h : Walked P d a run) (he : P a e)
    (hr : (Stage.walking d a).next = .ready) :
    List.SublistForall₂ P d.activities (run ++ [e]) := by
  rw [Direction.activities_of_next hr]
  exact sublistForall₂_snoc h he

/-- **A step keeps the trace of a walk.** -/
theorem Walked.led {zone : DomainName} {o : Outside ω} {stage : Stage}
    (h : Walked P d a run) (hled : Led zone o e.before (.walking d a) stage)
    (hpass : stage = (Stage.walking d a).next → P a e) (hb : stage = .walking d' b) :
    d' = d ∧ Walked P d b (run ++ [e]) := by
  subst hb
  rcases hled.cases with hstay | hnext | hretry | herror
  · cases hstay
    exact ⟨rfl, h.stay e⟩
  · exact h.next (hpass hnext) hnext.symm
  · exact h.retry e hretry.symm
  · cases herror

end Walked

/-! ## 4. Runs -/

/-- A run: its deeds, the earliest one first, and the document at its end.  The relation tells what
a deed may find, given the document that the one before it left. -/
inductive Run (c : Controller ω) (meanwhile : State → State → Prop) (allowed : Deed ω → Prop)
    (start : State) : List (Deed ω) → State → Prop
  | start : Run c meanwhile allowed start [] start
  | deed {run : List (Deed ω)} {σ : State} {e : Deed ω} (past : Run c meanwhile allowed start run σ)
      (before : meanwhile σ e.before.state) (fits : allowed e) :
      Run c meanwhile allowed start (run ++ [e]) (e.after c).state

/-- What holds of each item of a list, given those before it, if it does of all but the last one and
of that one. -/
theorem forall_split_snoc {α : Type} {P : List α → α → Prop} {l : List α} {x : α}
    (h : ∀ past y later, l = past ++ y :: later → P past y) (hx : P l x) :
    ∀ past y later, l ++ [x] = past ++ y :: later → P past y := by
  intro past y later hsplit
  rcases List.eq_nil_or_concat later with rfl | ⟨rest, z, rfl⟩
  · obtain ⟨rfl, hy⟩ := List.append_inj' hsplit rfl
    cases hy
    exact hx
  · rw [List.concat_eq_append, ← List.cons_append, ← List.append_assoc] at hsplit
    obtain ⟨rfl, -⟩ := List.append_inj' hsplit rfl
    exact h past y rest rfl

/-! ## 5. A small network

Two signers of one zone serve the same key, and a third server lists the name servers of the zone.
No answer ever changes: the outside is nothing but the time. -/

namespace Sample

def zone : DomainName := ⟨[[120]], true⟩

def key : Dnskey := ⟨true, false, false, 8, [1]⟩

/-- The name of a signer that is called by one letter. -/
def name (letter : UInt8) : DomainName := ⟨[[letter]], true⟩

def records (server : String) : RecordKind → List Record
  | .dnskey => [⟨60, .dnskey key⟩]
  | .soa => [⟨60, .soa 7⟩]
  | .ns => if server = "192.0.2.3:53" then [⟨60, .ns (name 98)⟩, ⟨60, .ns (name 99)⟩] else []
  | _ => []

def outside : Outside Int where
  now w := ⟨w, 0⟩
  query server _ kind w := (.ok ⟨records server kind⟩, w)
  updater _ := some ⟨.ok (), fun _ w => ⟨[], .ok (), w⟩⟩
  save _ w := (.ok (), w)

def controller : Controller Int := ⟨.once, outside⟩

def signer (address : String) (nameserver : DomainName) : Signer where
  group := zone
  address := address
  nameserver := nameserver
  credential := some "k"

def group : Group where
  signers := ["a", "b"]
  parent := "p"

def document : State where
  groups := .ofList [(zone, group)]
  signers := .ofList [("a", signer "a" (name 97)), ("b", signer "b" (name 98))]
  tsigKeys := .ofList [("k", "AQID")]

/-- A session that has only just begun, with the given document and at the given time. -/
def session (s : State) (time : Int) : Session Int where
  state := s
  world := time
  scheduler := { interval := 1 }

/-- A command that is run in a document. -/
def command (args : List String) (s : State) : Deed Int :=
  ⟨.command args, session s 0⟩

/-- A step of the group, at the given time. -/
def tick (s : State) (time : Int) : Deed Int :=
  ⟨.tick zone, session s time⟩

theorem steps_tick (s : State) (time : Int) : (tick s time).Steps controller zone :=
  .tick rfl (DomainName.beq_iff.2 rfl)

theorem sends_tick {s : State} {time : Int} {x : Delivery}
    (h : x ∈ ((tick s time).after controller).deliveries) : (tick s time).Sends controller x :=
  ⟨_, (List.nil_append _).symm, h⟩

/-- Steps of the group, one after the other, at the given times. -/
def ticks : State → List Int → List (Deed Int)
  | _, [] => []
  | s, time :: rest => tick s time :: ticks ((tick s time).after controller).state rest

/-- The document after them. -/
def afterTicks : State → List Int → State
  | s, [] => s
  | s, time :: rest => afterTicks ((tick s time).after controller).state rest

theorem run_append_ticks {meanwhile : State → State → Prop} {allowed : Deed Int → Prop}
    {s : State} (hsame : ∀ σ, meanwhile σ σ) (hallowed : ∀ σ time, allowed (tick σ time)) :
    ∀ {run : List (Deed Int)} {σ : State} (times : List Int),
      Run controller meanwhile allowed s run σ →
        Run controller meanwhile allowed s (run ++ ticks σ times) (afterTicks σ times)
  | run, σ, [], h => by
    rw [ticks, List.append_nil]
    exact h
  | run, σ, time :: rest, h => by
    rw [ticks, List.append_cons]
    exact run_append_ticks hsame hallowed rest (h.deed (hsame σ) (hallowed σ time))

/-- Steps make a run. -/
theorem run_ticks {meanwhile : State → State → Prop} {allowed : Deed Int → Prop}
    (hsame : ∀ σ, meanwhile σ σ) (hallowed : ∀ σ time, allowed (tick σ time)) (s : State)
    (times : List Int) : Run controller meanwhile allowed s (ticks s times) (afterTicks s times) :=
  run_append_ticks hsame hallowed times .start

end Sample
end MultiSigner
