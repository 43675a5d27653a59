/-
# Entries are edited one at a time

A key begins with what it is the key of, and the rest says which one: of a secret, a token, the time
to live of a group, an origin, or the one setting.  No text is a key of two kinds
(`EntryKey.ofString_eq_iff`).

What an edit can do to the document is said once.  `State.Written` is a document in which one entry
was set, `State.Erased` one from which one entry was taken, and `State.Vacant` says that an entry is
not there.  `setEntry_eq_ok` and `removeEntry_eq_ok` derive them from the two edits, with the exact
condition under which each of them succeeds.

Main statement: `State.entry_edits`.
-/
import MultiSigner.Command.Run
import MultiSigner.Proofs.Operation
import MultiSigner.Proofs.Records

namespace MultiSigner

open Operation

/-! ## 1. Numbers and keys -/

namespace Decimal

/-- A text denotes a number: it is made of digits, with a plus sign before them or not. -/
def Denotes (cs : List Char) (n : Nat) : Prop :=
  ∃ ds, (cs = ds ∨ cs = '+' :: ds) ∧ isDigits ds = true ∧ Nat.ofDigitChars 10 ds 0 = n

theorem below?_eq_some {bound n : Nat} {cs : List Char} :
    below? bound cs = some n ↔ Denotes cs n ∧ n < bound := by
  have hsigned : ∀ rest, ¬ isDigits ('+' :: rest) = true := by
    intro rest h
    simp [isDigits] at h
  simp only [below?, Option.filter_eq_some_iff, decide_eq_true_eq]
  refine and_congr_left fun _ => ?_
  split
  · rename_i rest
    rw [ofDigits?_eq_some_iff]
    constructor
    · rintro ⟨hdigits, hvalue⟩
      exact ⟨rest, .inr rfl, hdigits, hvalue⟩
    · rintro ⟨ds, rfl | hds, hdigits, hvalue⟩
      · exact absurd hdigits (hsigned rest)
      · cases hds
        exact ⟨hdigits, hvalue⟩
  · rename_i hplain
    rw [ofDigits?_eq_some_iff]
    constructor
    · rintro ⟨hdigits, hvalue⟩
      exact ⟨cs, .inl rfl, hdigits, hvalue⟩
    · rintro ⟨ds, rfl | hds, hdigits, hvalue⟩
      · exact ⟨hdigits, hvalue⟩
      · exact absurd hds (hplain ds)

end Decimal

namespace State

theorem after?_eq_some {start s rest : String} : after? start s = some rest ↔ s = start ++ rest := by
  rw [after?, Option.ite_none_right_eq_some, List.isPrefixOf_iff_prefix, Option.some.injEq]
  constructor
  · rintro ⟨⟨tail, htail⟩, rfl⟩
    rw [← String.toList_inj, String.toList_append, String.toList_ofList, ← htail,
      List.drop_left]
  · rintro rfl
    rw [String.toList_append, List.drop_left, String.ofList_toList]
    exact ⟨List.prefix_append _ _, rfl⟩

namespace EntryKey

/-- How a key is written. -/
def spelling? : EntryKey → Option String
  | tsigKey name => some ("tsigkey:" ++ name)
  | token name => some ("desectoken:" ++ name)
  | groupTtl zone => some ("group-ttl:" ++ zone)
  | dnskeyOrigin fingerprint => some ("dnskey-origin:" ++ fingerprint)
  | nsOrigin name => some ("ns-origin:" ++ name)
  | debugUpdater => some debugSetting
  | other => none

/-- A text does not begin in a way that its own beginning rules out. -/
theorem after?_append {start begin : String} (h : ∀ tail : List Char,
    start.toList.isPrefixOf (begin.toList ++ tail) = false) (rest : String) :
    after? start (begin ++ rest) = none := by
  rw [after?, String.toList_append, h, if_neg Bool.false_ne_true]

theorem after?_self (start rest : String) : after? start (start ++ rest) = some rest :=
  after?_eq_some.2 rfl

theorem ofString_spelling {k : EntryKey} {key : String} (h : k.spelling? = some key) :
    ofString key = k := by
  cases k with
  | tsigKey name =>
    cases h
    rw [ofString, after?_self]
  | token name =>
    cases h
    rw [ofString, after?_append fun _ => rfl, after?_self]
  | groupTtl zone =>
    cases h
    rw [ofString, after?_append fun _ => rfl, after?_append fun _ => rfl, after?_self]
  | dnskeyOrigin fingerprint =>
    cases h
    rw [ofString, after?_append fun _ => rfl, after?_append fun _ => rfl,
      after?_append fun _ => rfl, after?_self]
  | nsOrigin name =>
    cases h
    rw [ofString, after?_append fun _ => rfl, after?_append fun _ => rfl,
      after?_append fun _ => rfl, after?_append fun _ => rfl, after?_self]
  | debugUpdater =>
    cases h
    rfl
  | other => cases h

theorem spelling_ofString (key : String) :
    ofString key = .other ∨ (ofString key).spelling? = some key := by
  rw [ofString]
  split
  · rename_i name h
    exact .inr (congrArg some (after?_eq_some.1 h).symm)
  split
  · rename_i name h
    exact .inr (congrArg some (after?_eq_some.1 h).symm)
  split
  · rename_i zone h
    exact .inr (congrArg some (after?_eq_some.1 h).symm)
  split
  · rename_i fingerprint h
    exact .inr (congrArg some (after?_eq_some.1 h).symm)
  split
  · rename_i name h
    exact .inr (congrArg some (after?_eq_some.1 h).symm)
  split
  · rename_i h
    exact .inr (congrArg some h.symm)
  · exact .inl rfl

/-- **A text is the key of one thing only**, and is written in one way. -/
theorem ofString_eq_iff {k : EntryKey} {key : String} (hk : k ≠ .other) :
    ofString key = k ↔ k.spelling? = some key := by
  refine ⟨fun h => ?_, ofString_spelling⟩
  rcases spelling_ofString key with hother | hspelling
  · exact absurd (h.symm.trans hother) hk
  · rwa [h] at hspelling

end EntryKey

/-! ## 2. What an edit does -/

/-- The documents in which just the entry of a key was given a value. -/
inductive Written (s : State) (value : String) : String → State → Prop
  | secret {name : String} {bytes : List UInt8} (named : name ≠ "")
      (decodes : Base64.decodeString? value = some bytes) :
      Written s value ("tsigkey:" ++ name) { s with tsigKeys := s.tsigKeys.insert name value }
  | token {name : String} (named : name ≠ "") (given : value ≠ "") :
      Written s value ("desectoken:" ++ name) { s with tokens := s.tokens.insert name value }
  | ttl {text : String} {zone : DomainName} {g : Group} {seconds : Nat}
      (parses : DomainName.parseAbsolute text = .ok zone) (there : s.groups.get? zone = some g)
      (denotes : Decimal.Denotes value.toList seconds) (positive : 1 ≤ seconds)
      (bounded : seconds < UInt32.size) :
      Written s value ("group-ttl:" ++ text)
        (s.modifyGroup zone fun g => { g with ttl := UInt32.ofNat seconds })
  | setting (answer : value = "yes" ∨ value = "no") :
      Written s value debugSetting { s with settings := s.settings.insert debugSetting value }

/-- The documents without the entry of a key, which was there. -/
inductive Erased (s : State) : String → State → Prop
  | secret {name : String} (there : s.tsigKeys.contains name = true) :
      Erased s ("tsigkey:" ++ name) { s with tsigKeys := s.tsigKeys.erase name }
  | token {name : String} (there : s.tokens.contains name = true) :
      Erased s ("desectoken:" ++ name) { s with tokens := s.tokens.erase name }
  | ttl {text : String} {zone : DomainName} {g : Group}
      (parses : DomainName.parseAbsolute text = .ok zone) (there : s.groups.get? zone = some g)
      (changed : g.ttl ≠ 300) :
      Erased s ("group-ttl:" ++ text) (s.modifyGroup zone fun g => { g with ttl := 300 })
  | keyOrigin {print : String} (there : s.dnskeyOrigin.contains print = true) :
      Erased s ("dnskey-origin:" ++ print) { s with dnskeyOrigin := s.dnskeyOrigin.erase print }
  | nameOrigin {text : String} {ns : DomainName} (parses : DomainName.parseAbsolute text = .ok ns)
      (there : s.nsOrigin.contains ns = true) :
      Erased s ("ns-origin:" ++ text) { s with nsOrigin := s.nsOrigin.erase ns }
  | setting (there : s.settings.contains debugSetting = true) :
      Erased s debugSetting { s with settings := s.settings.erase debugSetting }

/-- The entry of a key is not there; the time to live of a group is the one that groups have which
set none. -/
def Vacant (s : State) : EntryKey → Prop
  | .tsigKey name => s.tsigKeys.get? name = none
  | .token name => s.tokens.get? name = none
  | .groupTtl text => ∀ zone g, DomainName.parseAbsolute text = .ok zone →
      s.groups.get? zone = some g → g.ttl = 300
  | .dnskeyOrigin fingerprint => s.dnskeyOrigin.get? fingerprint = none
  | .nsOrigin text => ∀ ns, DomainName.parseAbsolute text = .ok ns → s.nsOrigin.get? ns = none
  | .debugUpdater => s.settings.get? debugSetting = none
  | .other => True

variable {s t : State} {key value : String}

theorem parseTtl_eq_ok {ttl : UInt32} : parseTtl value = .ok ttl ↔
    ∃ n, Decimal.Denotes value.toList n ∧ 1 ≤ n ∧ n < UInt32.size ∧ UInt32.ofNat n = ttl := by
  rw [parseTtl]
  constructor
  · intro h
    split at h
    · rename_i n hn
      obtain ⟨hdenotes, hbound⟩ := Decimal.below?_eq_some.1 hn
      split at h
      · rename_i hpositive
        cases h
        exact ⟨n, hdenotes, hpositive, hbound, rfl⟩
      · cases h
    · cases h
  · rintro ⟨n, hdenotes, hpositive, hbound, rfl⟩
    have hbelow : Decimal.below? 0x100000000 value.toList = some n :=
      Decimal.below?_eq_some.2 ⟨hdenotes, hbound⟩
    rw [hbelow]
    exact if_pos hpositive

/-- **Setting an entry** sets this entry only, and succeeds just if key and value are in order. -/
theorem setEntry_eq_ok : s.setEntry key value = .ok t ↔ s.Written value key t := by
  constructor
  · intro h
    unfold setEntry at h
    split at h
    · rename_i name hkey
      cases (EntryKey.ofString_eq_iff (k := .tsigKey name) (by simp)).1 hkey
      split at h
      · cases h
      · rename_i hname
        split at h
        · cases h
        · rename_i hdecodes
          cases h
          rw [Option.isNone_iff_eq_none] at hdecodes
          obtain ⟨bytes, hbytes⟩ := Option.ne_none_iff_exists'.1 hdecodes
          exact .secret (by simpa using hname) hbytes
    · rename_i name hkey
      cases (EntryKey.ofString_eq_iff (k := .token name) (by simp)).1 hkey
      split at h
      · cases h
      · rename_i hname
        split at h
        · cases h
        · rename_i hgiven
          cases h
          exact .token (by simpa using hname) (by simpa using hgiven)
    · rename_i text hkey
      cases (EntryKey.ofString_eq_iff (k := .groupTtl text) (by simp)).1 hkey
      obtain ⟨zone, hzone, h⟩ := bind_eq_ok.1 h
      obtain ⟨ttl, httl, h⟩ := bind_eq_ok.1 h
      obtain ⟨g, hg, h⟩ := bind_eq_ok.1 h
      cases h
      obtain ⟨n, hdenotes, hpositive, hbound, rfl⟩ := parseTtl_eq_ok.1 httl
      exact .ttl hzone (group_eq_ok.1 hg) hdenotes hpositive hbound
    · rename_i hkey
      cases (EntryKey.ofString_eq_iff (k := .debugUpdater) (by simp)).1 hkey
      split at h
      · rename_i hanswer
        cases h
        exact .setting hanswer
      · cases h
    · cases h
  · rintro (⟨hnamed, hdecodes⟩ | ⟨hnamed, hgiven⟩ | ⟨hparses, hthere, hdenotes, hpositive, hbound⟩
      | hanswer)
    · rw [setEntry, EntryKey.ofString_spelling (k := .tsigKey _) rfl]
      simp [hnamed, hdecodes]
    · rw [setEntry, EntryKey.ofString_spelling (k := .token _) rfl]
      simp [hnamed, hgiven]
    · rw [setEntry, EntryKey.ofString_spelling (k := .groupTtl _) rfl]
      exact bind_eq_ok.2 ⟨_, hparses, bind_eq_ok.2
        ⟨_, parseTtl_eq_ok.2 ⟨_, hdenotes, hpositive, hbound, rfl⟩, bind_eq_ok.2
          ⟨_, group_eq_ok.2 hthere, rfl⟩⟩⟩
    · rw [setEntry, EntryKey.ofString_spelling (k := .debugUpdater) rfl]
      exact if_pos hanswer

/-- **Removing an entry** takes this entry only, and tells of a change just if there was one. -/
theorem removeEntry_eq_true : s.removeEntry key = .ok (true, t) ↔ s.Erased key t := by
  constructor
  · intro h
    unfold removeEntry at h
    split at h
    · rename_i name hkey
      cases (EntryKey.ofString_eq_iff (k := .tsigKey name) (by simp)).1 hkey
      obtain ⟨hthere, rfl⟩ := Prod.ext_iff.1 (Except.ok.inj h)
      exact .secret hthere
    · rename_i name hkey
      cases (EntryKey.ofString_eq_iff (k := .token name) (by simp)).1 hkey
      obtain ⟨hthere, rfl⟩ := Prod.ext_iff.1 (Except.ok.inj h)
      exact .token hthere
    · rename_i text hkey
      cases (EntryKey.ofString_eq_iff (k := .groupTtl text) (by simp)).1 hkey
      obtain ⟨zone, hzone, h⟩ := bind_eq_ok.1 h
      obtain ⟨g, hg, h⟩ := bind_eq_ok.1 h
      obtain ⟨hchanged, rfl⟩ := Prod.ext_iff.1 (Except.ok.inj h)
      exact .ttl hzone (group_eq_ok.1 hg) (bne_iff_ne.1 hchanged)
    · rename_i print hkey
      cases (EntryKey.ofString_eq_iff (k := .dnskeyOrigin print) (by simp)).1 hkey
      obtain ⟨hthere, rfl⟩ := Prod.ext_iff.1 (Except.ok.inj h)
      exact .keyOrigin hthere
    · rename_i text hkey
      cases (EntryKey.ofString_eq_iff (k := .nsOrigin text) (by simp)).1 hkey
      obtain ⟨ns, hns, h⟩ := bind_eq_ok.1 h
      obtain ⟨hthere, rfl⟩ := Prod.ext_iff.1 (Except.ok.inj h)
      exact .nameOrigin hns hthere
    · rename_i hkey
      cases (EntryKey.ofString_eq_iff (k := .debugUpdater) (by simp)).1 hkey
      obtain ⟨hthere, rfl⟩ := Prod.ext_iff.1 (Except.ok.inj h)
      exact .setting hthere
    · cases h
  · rintro (hthere | hthere | ⟨hparses, hthere, hchanged⟩ | hthere | ⟨hparses, hthere⟩ | hthere)
    · rw [removeEntry, EntryKey.ofString_spelling (k := .tsigKey _) rfl]
      simp only [hthere]
    · rw [removeEntry, EntryKey.ofString_spelling (k := .token _) rfl]
      simp only [hthere]
    · rename_i text zone g
      rw [removeEntry, EntryKey.ofString_spelling (k := .groupTtl _) rfl]
      have hbne : (g.ttl != Group.defaultTtl) = true := bne_iff_ne.2 hchanged
      refine bind_eq_ok.2 ⟨_, hparses, bind_eq_ok.2 ⟨_, group_eq_ok.2 hthere, ?_⟩⟩
      rw [hbne]
      rfl
    · rw [removeEntry, EntryKey.ofString_spelling (k := .dnskeyOrigin _) rfl]
      simp only [hthere]
    · rw [removeEntry, EntryKey.ofString_spelling (k := .nsOrigin _) rfl]
      refine bind_eq_ok.2 ⟨_, hparses, ?_⟩
      rw [hthere]
      rfl
    · rw [removeEntry, EntryKey.ofString_spelling (k := .debugUpdater) rfl]
      simp only [hthere]

/-- Removing what is not there does nothing. -/
theorem eq_of_removeEntry_false (h : s.removeEntry key = .ok (false, t)) : t = s := by
  unfold removeEntry at h
  split at h
  · obtain ⟨hnone, rfl⟩ := Prod.ext_iff.1 (Except.ok.inj h)
    rw [OrderedMap.erase_eq_self hnone]
  · obtain ⟨hnone, rfl⟩ := Prod.ext_iff.1 (Except.ok.inj h)
    rw [OrderedMap.erase_eq_self hnone]
  · obtain ⟨zone, -, h⟩ := bind_eq_ok.1 h
    obtain ⟨g, hg, h⟩ := bind_eq_ok.1 h
    obtain ⟨hsame, rfl⟩ := Prod.ext_iff.1 (Except.ok.inj h)
    have husual : g.ttl = Group.defaultTtl := by simpa using hsame
    rw [modifyGroup, OrderedMap.modify_eq_self (group_eq_ok.1 hg) (by rw [← husual])]
  · obtain ⟨hnone, rfl⟩ := Prod.ext_iff.1 (Except.ok.inj h)
    rw [OrderedMap.erase_eq_self hnone]
  · obtain ⟨ns, -, h⟩ := bind_eq_ok.1 h
    obtain ⟨hnone, rfl⟩ := Prod.ext_iff.1 (Except.ok.inj h)
    rw [OrderedMap.erase_eq_self hnone]
  · obtain ⟨hnone, rfl⟩ := Prod.ext_iff.1 (Except.ok.inj h)
    rw [OrderedMap.erase_eq_self hnone]
  · cases h

/-- All that removing an entry can do. -/
theorem erased_or_eq {changed : Bool} (h : s.removeEntry key = .ok (changed, t)) :
    s.Erased key t ∨ t = s := by
  cases changed with
  | false => exact .inr (eq_of_removeEntry_false h)
  | true => exact .inl (removeEntry_eq_true.1 h)

/-- **An edit is taken back**: a new entry that is removed again was never there. -/
theorem removeEntry_of_written (h : s.Written value key t) (hvacant : s.Vacant (.ofString key)) :
    ∃ changed, t.removeEntry key = .ok (changed, s) := by
  cases h with
  | @secret name bytes named decodes =>
    rw [EntryKey.ofString_spelling (k := .tsigKey name) rfl] at hvacant
    rw [removeEntry, EntryKey.ofString_spelling (k := .tsigKey name) rfl]
    simp only [OrderedMap.erase_insert hvacant]
    exact ⟨_, rfl⟩
  | @token name named given =>
    rw [EntryKey.ofString_spelling (k := .token name) rfl] at hvacant
    rw [removeEntry, EntryKey.ofString_spelling (k := .token name) rfl]
    simp only [OrderedMap.erase_insert hvacant]
    exact ⟨_, rfl⟩
  | @ttl text zone g seconds parses there denotes positive bounded =>
    rw [EntryKey.ofString_spelling (k := .groupTtl text) rfl] at hvacant
    rw [removeEntry, EntryKey.ofString_spelling (k := .groupTtl text) rfl]
    have husual : g.ttl = Group.defaultTtl := hvacant zone g parses there
    have hset : (s.modifyGroup zone fun g => { g with ttl := UInt32.ofNat seconds }).groups.get? zone
        = some { g with ttl := UInt32.ofNat seconds } := by
      simp [there]
    have hback : ((s.modifyGroup zone fun g => { g with ttl := UInt32.ofNat seconds }).modifyGroup zone
        fun g => { g with ttl := Group.defaultTtl }) = s := by
      simp only [modifyGroup, OrderedMap.modify_modify]
      rw [OrderedMap.modify_eq_self there]
      simp only [Function.comp_apply, ← husual]
    refine ⟨UInt32.ofNat seconds != Group.defaultTtl,
      bind_eq_ok.2 ⟨zone, parses, bind_eq_ok.2 ⟨_, group_eq_ok.2 hset, ?_⟩⟩⟩
    rw [hback]
    rfl
  | setting answer =>
    rw [EntryKey.ofString_spelling (k := .debugUpdater) rfl] at hvacant
    rw [removeEntry, EntryKey.ofString_spelling (k := .debugUpdater) rfl]
    simp only [OrderedMap.erase_insert hvacant]
    exact ⟨_, rfl⟩

/-! ## 3. The commands that edit -/

section Commands

variable {ω : Type} (o : Outside ω) (σ : Session ω) (key value : String)

/-- The command leaves the document that the edit makes, and the session as it is if there is
none. -/
theorem perform_setEntry : match σ.state.setEntry key value with
    | .error e => (Command.setEntry key value).perform o σ = (.error e, σ)
    | .ok t => ((Command.setEntry key value).perform o σ).1 = .ok () ∧
        ((Command.setEntry key value).perform o σ).2.state = t := by
  cases h : σ.state.setEntry key value with
  | error e => simp [Command.setEntry, h]
  | ok t => simp [Command.setEntry, h]

theorem perform_removeEntry : match σ.state.removeEntry key with
    | .error e => (Command.removeEntry key).perform o σ = (.error e, σ)
    | .ok (_, t) => ((Command.removeEntry key).perform o σ).1 = .ok () ∧
        ((Command.removeEntry key).perform o σ).2.state = t := by
  cases h : σ.state.removeEntry key with
  | error e => simp [Command.removeEntry, h]
  | ok r => simp [Command.removeEntry, h]

end Commands

/-- **Entries are edited one at a time.**  Setting an entry succeeds just with the document in which
that entry alone was given the value; removing one tells of a change just with the document without
that entry alone, and otherwise leaves the document as it is; and an entry that was not there is taken
back by removing it.  The commands do to the document of a session what the edits do, and nothing if
the edit fails. -/
theorem entry_edits (s : State) (key value : String) :
    (∀ t, s.setEntry key value = .ok t ↔ s.Written value key t) ∧
      (∀ t, s.removeEntry key = .ok (true, t) ↔ s.Erased key t) ∧
      (∀ t, s.removeEntry key = .ok (false, t) → t = s) ∧
      (∀ t, s.setEntry key value = .ok t → s.Vacant (.ofString key) →
        ∃ changed, t.removeEntry key = .ok (changed, s)) ∧
      ∀ (ω : Type) (o : Outside ω) (σ : Session ω), σ.state = s →
        (match s.setEntry key value with
          | .error e => (Command.setEntry key value).perform o σ = (.error e, σ)
          | .ok t => ((Command.setEntry key value).perform o σ).1 = .ok () ∧
              ((Command.setEntry key value).perform o σ).2.state = t) ∧
        (match s.removeEntry key with
          | .error e => (Command.removeEntry key).perform o σ = (.error e, σ)
          | .ok (_, t) => ((Command.removeEntry key).perform o σ).1 = .ok () ∧
              ((Command.removeEntry key).perform o σ).2.state = t) := by
  refine ⟨fun t => setEntry_eq_ok, fun t => removeEntry_eq_true, fun t => eq_of_removeEntry_false,
    fun t ht hvacant => removeEntry_of_written (setEntry_eq_ok.1 ht) hvacant, ?_⟩
  rintro ω o σ rfl
  exact ⟨perform_setEntry o σ key value, perform_removeEntry o σ key⟩

end State
end MultiSigner
