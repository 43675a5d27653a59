/-
# The addresses of servers that commands store

`address_of_stored` says what a command stores that adds a server: a host and the number of a port
with a colon between them, and which host that is.  A text `NamesHost` if it is an address of
version 6, which is put into brackets, or can stand before a port as it is (`IsHost`).  What is
stored then is such a host and a port, and accepted again as it is.

Any other text that is given for a host has a colon in it, and is stored as it was given.  The last
colon still tells the port from what comes before, but together they may be an internet address,
which is then not accepted as it is (`StoredAddress.reread`).
-/
import MultiSigner.Command.Parser
import MultiSigner.Proofs.Addresses.Internet
import MultiSigner.Proofs.Run

namespace MultiSigner

open Net Operation

variable {s host port : String}

/-! ## 1. The last colon -/

namespace Net

theorem toList_append_colon (host port : String) :
    (host ++ ":" ++ port).toList = host.toList ++ ':' :: port.toList := by
  rw [String.toList_append, String.toList_append, List.append_assoc]
  rfl

/-- What comes before and after the last colon of a text, from its end. -/
theorem reverse_eq_iff_span {behind before : List Char} :
    s.toList.reverse.takeWhile (· ≠ ':') = behind ∧
      s.toList.reverse.dropWhile (· ≠ ':') = ':' :: before ↔
    s.toList = before.reverse ++ ':' :: behind.reverse ∧ ':' ∉ behind := by
  rw [span_eq_iff, List.reverse_eq_iff]
  simp only [List.reverse_append, List.reverse_cons, List.append_assoc, List.singleton_append,
    decide_eq_true_eq, List.head?_cons, Option.mem_some_iff, forall_eq', ne_eq, not_true_eq_false,
    decide_false, and_true]
  refine and_congr_right fun _ => ⟨fun h hmem => h ':' hmem rfl, fun h c hc hcolon => ?_⟩
  exact h (hcolon ▸ hc)

/-- **Where a text is split.** -/
theorem splitAtLastColon_eq_some : splitAtLastColon s = some (host, port) ↔
    s = host ++ ":" ++ port ∧ ':' ∉ port.toList := by
  have htext : s = host ++ ":" ++ port ∧ ':' ∉ port.toList ↔
      s.toList.reverse.takeWhile (· ≠ ':') = port.toList.reverse ∧
        s.toList.reverse.dropWhile (· ≠ ':') = ':' :: host.toList.reverse := by
    rw [reverse_eq_iff_span, ← String.toList_inj, toList_append_colon, List.reverse_reverse,
      List.reverse_reverse, List.mem_reverse]
  rw [htext, splitAtLastColon]
  split
  · rename_i c before hdrop
    obtain rfl : c = ':' := by
      have hcolon := (span_eq_iff.1 ⟨rfl, hdrop⟩).2.2 c rfl
      simpa using hcolon
    simp only [Option.some.injEq, Prod.mk.injEq, hdrop, List.cons.injEq, true_and]
    rw [and_comm, ← String.toList_inj, ← String.toList_inj, String.toList_ofList,
      String.toList_ofList, List.reverse_eq_iff, List.reverse_eq_iff]
  · rename_i hdrop
    rw [hdrop]
    exact iff_of_false nofun nofun

end Net

/-! ## 2. Hosts and ports -/

/-- The text is a host as it can stand before a port: an address of version 6 in brackets, with its
zone if it names one, or a text without a colon. -/
inductive IsHost (host : String) : Prop
  | plain (ne_empty : host ≠ "") (colon : ':' ∉ host.toList)
  | bracketed {ip : Ipv6} {t zone : List Char} (spelled : ip.Spells t) (scope : IsZone zone)
      (text : host.toList = '[' :: (t ++ zone ++ [']']))

theorem IsHost.ne_empty (h : IsHost host) : host ≠ "" := by
  cases h with
  | plain h _ => exact h
  | bracketed _ _ htext =>
    rintro rfl
    cases htext

/-- The text consists of a host and the number of a port. -/
structure HostPort (s host port : String) : Prop where
  text : s = host ++ ":" ++ port
  number : ∃ n < 65536, Decimal.ofDigits? port.toList = some n

theorem colon_notMem_of_digits {ds : List Char} {n : Nat} (h : Decimal.ofDigits? ds = some n) :
    ':' ∉ ds := by
  intro hmem
  have hdigits := Decimal.isDigits_iff.1 (Decimal.ofDigits?_eq_some_iff.1 h).1
  exact absurd (hdigits.2 _ hmem) (by decide)

namespace HostPort

theorem split (h : HostPort s host port) : splitAtLastColon s = some (host, port) := by
  obtain ⟨n, -, hn⟩ := h.number
  exact splitAtLastColon_eq_some.2 ⟨h.text, colon_notMem_of_digits hn⟩

/-- A text is a host and a port in one way at most. -/
theorem unique (h : HostPort s host port) {host' port' : String} (h' : HostPort s host' port') :
    host' = host ∧ port' = port :=
  Prod.mk.inj (Option.some.inj (h'.split.symm.trans h.split))

theorem toList (h : HostPort s host port) : s.toList = host.toList ++ ':' :: port.toList := by
  rw [h.text, toList_append_colon]

theorem count_port (h : HostPort s host port) : port.toList.count ':' = 0 := by
  obtain ⟨n, -, hn⟩ := h.number
  exact List.count_eq_zero.2 (colon_notMem_of_digits hn)

/-- With a host that can stand before a port, the text is no internet address itself. -/
theorem ofString?_eq_none (h : HostPort s host port) (hhost : IsHost host) :
    IpAddress.ofString? s = none := by
  refine Option.eq_none_iff_forall_ne_some.2 fun ip hip => ?_
  cases ip with
  | v4 ip =>
    refine IpAddress.ofString?_ne_v4 ?_ hip
    rw [h.toList]
    exact List.mem_append_right _ List.mem_cons_self
  | v6 ip =>
    cases hhost with
    | plain _ hcolon =>
      -- it has one colon, and an address of version 6 has two at least
      have hcount := (IpAddress.ofString?_eq_v6.1 hip).count
      rw [h.toList, List.count_append, List.count_cons_self, h.count_port,
        List.count_eq_zero.2 hcolon] at hcount
      omega
    | bracketed _ _ htext =>
      refine IpAddress.ofString?_ne_v6 ?_ hip
      rw [h.toList, htext]
      rfl

/-- An address with a port is a host and a port. -/
theorem exists_of_ofString? {a : SocketAddress} (h : SocketAddress.ofString? s = some a) :
    ∃ host port, HostPort s host port ∧ IsHost host := by
  obtain ⟨host, port, n, htext, hhost, hport, hn⟩ := SocketAddress.parts_of_ofString? h
  refine ⟨String.ofList host, String.ofList port, ⟨?_, n, hn, ?_⟩, ?_⟩
  · rw [← String.toList_inj, toList_append_colon, String.toList_ofList, String.toList_ofList, htext]
  · rw [String.toList_ofList, hport]
  · cases hhost with
    | @v4 ip _ hspells =>
      refine .plain (fun hempty => ?_) (by rw [String.toList_ofList]; exact hspells.colon_notMem)
      rw [String.ofList_eq_empty_iff] at hempty
      obtain ⟨_, _, _, _, -, -, -, -, hsplit⟩ := hspells
      rw [hempty] at hsplit
      simp at hsplit
    | v6 hspells hzone => exact .bracketed hspells hzone String.toList_ofList

end HostPort

/-! ## 3. What is stored -/

/-- The host in the address of a signer: all of an internet address, and else what comes before the
last colon. -/
def namedHost (text : String) : String :=
  if (IpAddress.ofString? text).isSome then text
  else match splitAtLastColon text with
    | some (host, _) => host
    | none => text

/-- The host that is given in the arguments of a command that adds a server. -/
def givenHost? : List String → Option String
  | "group-add" :: values => values[1]?
  | "signer-add" :: values => values[3]?.map namedHost
  | _ => none

/-- The text names a host: it is an address of version 6, or can stand before a port as it is. -/
def NamesHost (given : String) : Prop :=
  (∃ ip, IpAddress.ofString? given = some (.v6 ip)) ∨ IsHost given

/-- The address that a command stores for a server. -/
def Command.address? : Command → Option String
  | .groupAdd _ parent => some parent
  | .signerAdd _ _ _ address => some address
  | _ => none

/-- The document holds what the command stores. -/
def State.Keeps (σ : State) : Command → Prop
  | .groupAdd zone parent => ∃ g, σ.groups.get? zone = some g ∧ g.parent = parent
  | .signerAdd _ name _ address => ∃ r, σ.signers.get? name = some r ∧ r.address = address
  | _ => True

/-- What is stored for a server whose host is given. -/
structure StoredAddress (given s host port : String) : Prop where
  parts : HostPort s host port
  ne_empty : host ≠ ""
  host_iff : IsHost host ↔ NamesHost given
  /-- What names no host is stored as it was given. -/
  verbatim : ¬ IsHost host → host = given
  /-- The stored text is accepted as it is, unless it is an internet address itself. -/
  reread : Command.signerAddress s = .ok s ↔ IpAddress.ofString? s = none

namespace Command

theorem parsePort_eq_ok {p : String} {n : Nat} :
    parsePort p = .ok n ↔ Decimal.below? 65536 p.toList = some n := by
  rw [parsePort]
  cases Decimal.below? 65536 p.toList <;> simp

/-- Reading the number of a port that was written. -/
theorem parsePort_toString {n : Nat} (h : n < 65536) : parsePort (toString n) = .ok n := by
  have hplus : ∀ rest, Decimal.digits n ≠ '+' :: rest := by
    intro rest hrest
    have hdigit := Decimal.isDigit_of_mem_digits (n := n) (c := '+') (by rw [hrest]; simp)
    revert hdigit
    decide
  have htext : (toString n).toList = Decimal.digits n := String.toList_ofList
  rw [parsePort_eq_ok, htext, Decimal.below?]
  · rw [Decimal.ofDigits?_digits, Option.filter_some, if_pos (decide_eq_true h)]
  · exact hplus

/-- The number of the port, which may be left out. -/
def portNumber : Option String → Except Error Nat
  | some p => parsePort p
  | none => .ok defaultPort

theorem portNumber_lt {p : Option String} {n : Nat} (h : portNumber p = .ok n) : n < 65536 := by
  cases p with
  | none =>
    cases h
    decide
  | some p => exact Decimal.below?_lt (parsePort_eq_ok.1 h)

/-- **What is stored for a host and perhaps a port.** -/
theorem serverAddress_eq_ok {given : String} {p : Option String} : serverAddress given p = .ok s ↔
    given ≠ "" ∧ ∃ n, portNumber p = .ok n ∧ s = hostText given ++ ":" ++ toString n := by
  have hbind : serverAddress given p = portNumber p >>= fun n =>
      if given.isEmpty = true then .error (.invalidArgument "address" "")
      else .ok (hostText given ++ ":" ++ toString n) := by
    cases p <;> rfl
  rw [hbind, bind_eq_ok]
  constructor
  · rintro ⟨n, hn, h⟩
    split at h
    · cases h
    · rename_i hempty
      cases h
      exact ⟨fun hgiven => hempty (String.isEmpty_iff.2 hgiven), n, hn, rfl⟩
  · rintro ⟨hempty, n, hn, rfl⟩
    exact ⟨n, hn, if_neg fun hgiven => hempty (String.isEmpty_iff.1 hgiven)⟩

/-- A host other than an address of version 6 is stored as it was given. -/
theorem hostText_eq {given : String} (h : ∀ ip, IpAddress.ofString? given ≠ some (.v6 ip)) :
    hostText given = given := by
  rw [hostText]
  split
  · exact absurd ‹_› (h _)
  · rfl

theorem hostText_v6 {given : String} {ip : Ipv6}
    (h : IpAddress.ofString? given = some (.v6 ip)) : (hostText given).toList
      = '[' :: (ip.text.toList ++ [] ++ [']']) := by
  rw [hostText, h]
  show ("[" ++ ip.text ++ "]").toList = _
  simp only [String.toList_append, List.append_nil]
  rfl

/-- What is stored for a host is no address of version 6. -/
theorem hostText_ne_v6 (given : String) (ip : Ipv6) :
    IpAddress.ofString? (hostText given) ≠ some (.v6 ip) := by
  by_cases h : ∀ ip, IpAddress.ofString? given ≠ some (.v6 ip)
  · rw [hostText_eq h]
    exact h ip
  · obtain ⟨ip', h⟩ := not_forall.1 h
    exact IpAddress.ofString?_ne_v6 (congrArg List.head? (hostText_v6 (not_not.1 h)))

theorem isHost_hostText {given : String} : IsHost (hostText given) ↔ NamesHost given := by
  by_cases h : ∃ ip, IpAddress.ofString? given = some (.v6 ip)
  · obtain ⟨ip, hip⟩ := h
    exact iff_of_true (.bracketed ip.spells_text .none (hostText_v6 hip)) (.inl ⟨ip, hip⟩)
  · rw [hostText_eq (not_exists.1 h), NamesHost, or_iff_right h]

theorem hostText_ne_empty {given : String} (h : given ≠ "") : hostText given ≠ "" := by
  by_cases hv6 : ∃ ip, IpAddress.ofString? given = some (.v6 ip)
  · obtain ⟨ip, hip⟩ := hv6
    rw [← String.toList_inj.ne, hostText_v6 hip]
    exact List.cons_ne_nil _ _
  · rwa [hostText_eq (not_exists.1 hv6)]

theorem hostPort_hostText (given : String) {n : Nat} (hn : n < 65536) :
    HostPort (hostText given ++ ":" ++ toString n) (hostText given) (toString n) := by
  have hport : (toString n).toList = Decimal.digits n := String.toList_ofList
  exact ⟨rfl, n, hn, by rw [hport, Decimal.ofDigits?_digits]⟩

/-- An address with a port is accepted as it is. -/
theorem signerAddress_of_socket {a : SocketAddress} (h : SocketAddress.ofString? s = some a) :
    signerAddress s = .ok s := by
  rw [signerAddress, h]
  rfl

/-- An internet address gets the port of name servers. -/
theorem signerAddress_of_ip {ip : IpAddress} (hip : IpAddress.ofString? s = some ip) :
    signerAddress s = serverAddress s none := by
  have hsocket : SocketAddress.ofString? s = none := by
    refine Option.eq_none_iff_forall_ne_some.2 fun a ha => ?_
    obtain ⟨host, port, hparts, hhost⟩ := HostPort.exists_of_ofString? ha
    rw [hparts.ofString?_eq_none hhost] at hip
    cases hip
  rw [signerAddress, hsocket, hip]
  rfl

/-- Of other texts, the port is what comes after the last colon. -/
theorem signerAddress_of_other (hsocket : SocketAddress.ofString? s = none)
    (hip : IpAddress.ofString? s = none) : signerAddress s =
      match splitAtLastColon s with
      | some (host, port) => serverAddress host (some port)
      | none => serverAddress s none := by
  rw [signerAddress, hsocket, hip]
  rfl

/-- No internet address is what is stored for it. -/
theorem signerAddress_ne_of_ip {ip : IpAddress} (hip : IpAddress.ofString? s = some ip) :
    signerAddress s ≠ .ok s := by
  intro hsame
  rw [signerAddress_of_ip hip, serverAddress_eq_ok] at hsame
  obtain ⟨-, n, -, htext⟩ := hsame
  have hsplit := congrArg String.toList htext
  rw [toList_append_colon] at hsplit
  cases ip with
  | v4 ip =>
    refine IpAddress.ofString?_ne_v4 ?_ hip
    rw [hsplit]
    exact List.mem_append_right _ List.mem_cons_self
  | v6 ip =>
    refine IpAddress.ofString?_ne_v6 ?_ hip
    rw [hsplit, hostText_v6 hip]
    rfl

/-- **What is stored for a host is accepted as it is**, unless it is an internet address itself. -/
theorem signerAddress_hostText {given : String} (hgiven : given ≠ "") {n : Nat} (hn : n < 65536) :
    signerAddress (hostText given ++ ":" ++ toString n)
        = .ok (hostText given ++ ":" ++ toString n) ↔
      IpAddress.ofString? (hostText given ++ ":" ++ toString n) = none := by
  constructor
  · intro hsame
    exact Option.eq_none_iff_forall_ne_some.2 fun ip hip => signerAddress_ne_of_ip hip hsame
  · intro hip
    cases hsocket : SocketAddress.ofString? (hostText given ++ ":" ++ toString n) with
    | some a => exact signerAddress_of_socket hsocket
    | none =>
      rw [signerAddress_of_other hsocket hip, (hostPort_hostText given hn).split]
      refine serverAddress_eq_ok.2 ⟨hostText_ne_empty hgiven, n, parsePort_toString hn, ?_⟩
      rw [hostText_eq (hostText_ne_v6 given)]

theorem storedAddress_of_serverAddress {given : String} {p : Option String}
    (h : serverAddress given p = .ok s) : ∃ host port, StoredAddress given s host port := by
  obtain ⟨hgiven, n, hnumber, rfl⟩ := serverAddress_eq_ok.1 h
  have hn := portNumber_lt hnumber
  refine ⟨hostText given, toString n, hostPort_hostText given hn, hostText_ne_empty hgiven,
    isHost_hostText, fun hnot => ?_, signerAddress_hostText hgiven hn⟩
  rw [isHost_hostText, NamesHost, not_or] at hnot
  exact hostText_eq (not_exists.1 hnot.1)

theorem namedHost_of_ip {ip : IpAddress} (hip : IpAddress.ofString? s = some ip) :
    namedHost s = s := by
  rw [namedHost, hip]
  rfl

theorem namedHost_of_split (hip : IpAddress.ofString? s = none)
    (hsplit : splitAtLastColon s = some (host, port)) : namedHost s = host := by
  rw [namedHost, hip, hsplit]
  rfl

/-- **What is stored for a signer.** -/
theorem storedAddress_of_signerAddress {text : String}
    (h : signerAddress text = .ok s) : ∃ host port, StoredAddress (namedHost text) s host port := by
  cases hsocket : SocketAddress.ofString? text with
  | some a =>
    obtain rfl : text = s := Except.ok.inj ((signerAddress_of_socket hsocket).symm.trans h)
    obtain ⟨host, port, hparts, hhost⟩ := HostPort.exists_of_ofString? hsocket
    have hip := hparts.ofString?_eq_none hhost
    rw [namedHost_of_split hip hparts.split]
    exact ⟨host, port, hparts, hhost.ne_empty, iff_of_true hhost (.inr hhost), fun _ => rfl,
      iff_of_true h hip⟩
  | none =>
    cases hip : IpAddress.ofString? text with
    | some ip =>
      rw [namedHost_of_ip hip]
      rw [signerAddress_of_ip hip] at h
      exact storedAddress_of_serverAddress h
    | none =>
      rw [signerAddress_of_other hsocket hip] at h
      split at h
      · rename_i host port hsplit
        rw [namedHost_of_split hip hsplit]
        exact storedAddress_of_serverAddress h
      · rename_i hsplit
        have hnamed : namedHost text = text := by
          rw [namedHost, hip, hsplit]
          rfl
        rw [hnamed]
        exact storedAddress_of_serverAddress h

/-! ## 4. Commands -/

theorem get_eq_ok {a : Arguments} {i : Nat} {text : String} :
    a.get i = .ok text ↔ a.values[i]? = some text := by
  rw [Arguments.get, Arguments.get?]
  cases a.values[i]? <;> simp

theorem storedAddress_of_parseArguments {mode : Mode} {name : String} {a : Arguments}
    {cmd : Command} (h : parseArguments mode name a = .ok cmd) (hs : cmd.address? = some s) :
    ∃ given host port, givenHost? (name :: a.values) = some given ∧
      StoredAddress given s host port := by
  unfold parseArguments at h
  split at h
  all_goals try split at h
  all_goals
    repeat obtain ⟨_, _, h⟩ := bind_eq_ok.1 h
    cases h <;> cases hs
  · obtain ⟨host, port, hstored⟩ := storedAddress_of_serverAddress ‹serverAddress _ _ = .ok s›
    exact ⟨_, host, port, get_eq_ok.1 ‹a.get 1 = .ok _›, hstored⟩
  · obtain ⟨host, port, hstored⟩ := storedAddress_of_signerAddress ‹signerAddress _ = .ok s›
    have htext := get_eq_ok.1 ‹a.get 3 = .ok _›
    exact ⟨_, host, port, by rw [givenHost?, htext, Option.map_some], hstored⟩

/-- **What a command stores for a server** is the host that its arguments name, with a port. -/
theorem storedAddress_of_parse {mode : Mode} {args : List String} {cmd : Command}
    (h : parse mode args = .ok cmd) (hs : cmd.address? = some s) :
    ∃ given host port, givenHost? args = some given ∧ StoredAddress given s host port := by
  cases args with
  | nil => cases h
  | cons name values =>
    simp only [parse] at h
    split at h
    · cases h
    · exact storedAddress_of_parseArguments h hs

variable {ω : Type} {o : Outside ω} {before after : Session ω} {zone : DomainName}

theorem keeps_addGroup {parent : String}
    (h : (addGroup zone parent).perform o before = (.ok (), after)) :
    after.state.Keeps (.groupAdd zone parent) := by
  simp only [addGroup, perform_bind, perform_state, perform_lift] at h
  cases hadded : before.state.addGroup zone { parent := parent } with
  | error e =>
    rw [hadded] at h
    cases h
  | ok σ =>
    simp only [hadded, perform_modifyState, perform_line, perform_publishStatus] at h
    cases h
    unfold State.addGroup at hadded
    split at hadded
    · cases hadded
    · cases hadded
      exact ⟨_, (OrderedMap.get?_insert ..).trans (if_pos Std.ReflCmp.compare_self), rfl⟩

theorem keeps_addSigner {name address : String} {nameserver : DomainName}
    (h : (addSigner zone name nameserver address).perform o before = (.ok (), after)) :
    after.state.Keeps (.signerAdd zone name nameserver address) := by
  simp only [addSigner_eq, perform_bind, perform_state, perform_lift] at h
  cases hadded : before.state.addSigner name
      { group := zone, address := address, nameserver := nameserver } with
  | error e =>
    rw [hadded] at h
    cases h
  | ok σ =>
    simp only [hadded, perform_modifyState, perform_line] at h
    obtain ⟨-, -, hsigners, -⟩ := addSigner_eq_ok hadded
    refine ⟨{ group := zone, address := address, nameserver := nameserver }, ?_, rfl⟩
    rw [(state_of_announce h).1, signers_afterChange, hsigners, OrderedMap.get?_insert,
      if_pos Std.ReflCmp.compare_self]

/-- **A command that ends well has stored what it stores for a server.** -/
theorem keeps_of_run {cmd : Command} (h : cmd.run.perform o before = (.ok (), after)) :
    after.state.Keeps cmd := by
  cases cmd with
  | groupAdd zone parent => exact keeps_addGroup h
  | signerAdd zone name nameserver address => exact keeps_addSigner h
  | _ => trivial

end Command

/-! ## 5. Commands of an operator -/

/-- What a command did that ended well. -/
theorem Controller.run_of_execute {c : Controller ω} {args : List String} {cmd : Command}
    (hparse : Command.parse c.mode args = .ok cmd) (h : (c.execute args before).1 = .ok ()) :
    ∃ t, cmd.run.perform c.outside before = (.ok (), t) ∧
      (c.execute args before).2.state = t.state := by
  have hlasting : (c.execute args before).2.lasting
      = (cmd.run.perform c.outside before).2.lasting :=
    Deed.lasting_of_parsed (e := ⟨.command args, before⟩) rfl hparse
  obtain ⟨hstate, -⟩ := Session.lasting_eq_iff.1 hlasting
  rcases hrun : cmd.run.perform c.outside before with ⟨e | _, t⟩
  · simp only [execute, command, perform_bind, perform_attempt, perform_save, perform_lift,
      hparse, hrun] at h
    cases h
  · rw [hrun] at hstate
    exact ⟨t, rfl, hstate⟩

/-- **The address of a server as it is stored**, by a command whose arguments are accepted. -/
theorem address_of_stored (c : Controller ω) (before : Session ω) {args : List String}
    {cmd : Command} (hparse : Command.parse c.mode args = .ok cmd) (hs : cmd.address? = some s) :
    ∃ given host port, givenHost? args = some given ∧ StoredAddress given s host port ∧
      splitAtLastColon s = some (host, port) ∧
      (∀ host' port', HostPort s host' port' → host' = host ∧ port' = port) ∧
      (IsHost host → Command.signerAddress s = .ok s) ∧
      ((c.execute args before).1 = .ok () → (c.execute args before).2.state.Keeps cmd) := by
  obtain ⟨given, host, port, hgiven, hstored⟩ := Command.storedAddress_of_parse hparse hs
  refine ⟨given, host, port, hgiven, hstored, hstored.parts.split,
    fun _ _ hparts => hstored.parts.unique hparts, fun hhost => ?_, fun hdone => ?_⟩
  · exact hstored.reread.2 (hstored.parts.ofString?_eq_none hhost)
  · obtain ⟨t, hrun, hstate⟩ := Controller.run_of_execute hparse hdone
    rw [hstate]
    exact Command.keeps_of_run hrun

namespace Sample

/-- An address of version 6 that is given without brackets is stored with them. -/
theorem address_of_unbracketed :
    Command.parse controller.mode ["group-add", "x.", "2001:db8::1"]
        = .ok (.groupAdd zone "[2001:db8::1]:53") ∧
      StoredAddress "2001:db8::1" "[2001:db8::1]:53" "[2001:db8::1]" "53" ∧
      (controller.execute ["group-add", "x.", "2001:db8::1"] (session {} 0)).2.state.Keeps
        (.groupAdd zone "[2001:db8::1]:53") := by
  have hparse : Command.parse controller.mode ["group-add", "x.", "2001:db8::1"]
      = .ok (.groupAdd zone "[2001:db8::1]:53") := by decide +kernel
  have hknown : splitAtLastColon "[2001:db8::1]:53" = some ("[2001:db8::1]", "53") := by
    decide +kernel
  obtain ⟨given, host, port, hgiven, hstored, hsplit, -, -, hkeeps⟩ :=
    address_of_stored controller (session {} 0) hparse rfl
  cases hgiven
  cases hknown.symm.trans hsplit
  exact ⟨hparse, hstored, hkeeps (by decide +kernel)⟩

/-- Hosts with colons that are stored as they are given: one is an address of version 4 with a port,
and the other one makes an address of version 6 with its port. -/
theorem address_of_colons :
    Command.parse controller.mode ["group-add", "x.", "192.0.2.4:5300"]
        = .ok (.groupAdd zone "192.0.2.4:5300:53") ∧
      (controller.execute ["group-add", "x.", "192.0.2.4:5300"] (session {} 0)).1 = .ok () ∧
      (∀ host port, HostPort "192.0.2.4:5300:53" host port → ¬ IsHost host) ∧
      Command.parse controller.mode ["signer-add", "x.", "b", "b.", "1:2:3:4:5:6:7:+8"]
        = .ok (.signerAdd zone "b" (name 98) "1:2:3:4:5:6:7:8") ∧
      Command.signerAddress "1:2:3:4:5:6:7:8" = .ok "[1:2:3:4:5:6:7:8]:53" := by
  refine ⟨by decide +kernel, by decide +kernel, fun host port hparts hhost => ?_, by decide +kernel,
    by decide +kernel⟩
  have hknown : HostPort "192.0.2.4:5300:53" "192.0.2.4:5300" "53" :=
    ⟨rfl, 53, by decide, by decide +kernel⟩
  obtain ⟨rfl, rfl⟩ := hknown.unique hparts
  cases hhost with
  | plain _ hcolon => exact hcolon (by decide +kernel)
  | bracketed _ _ htext => cases htext

end Sample
end MultiSigner
