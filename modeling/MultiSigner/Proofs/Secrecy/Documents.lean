/-
# Documents with other secrets

The secrets of a document are the values of its keys and tokens; their names are none.  Two documents
are alike (`State.Alike`) if they have the same names and differ in nothing but the secrets under
them, where a key that can be used in one of them can be used in the other.

Nothing in a document leads from a secret to anything else:

* `Alike.entries_eq`: the list of entries is the same;
* `Alike.credential`: credentials are found alike, or missing for the same reason;
* `Alike.addGroup`, `Alike.setEntry`, …: whatever is done to both is refused for the same reason, or
  leaves documents that are alike.
-/
import MultiSigner.Proofs.Lockstep
import MultiSigner.State.Entries

namespace MultiSigner

/-! ## 1. Maps with the same keys -/

namespace OrderedMap

variable {κ α β : Type} [Ord κ] {P : α → β → Prop} {m : OrderedMap κ α} {n : OrderedMap κ β}
  {v : α} {w : β}

/-- Two maps have the same keys, and the values under each of them are related. -/
def Rel (P : α → β → Prop) (m : OrderedMap κ α) (n : OrderedMap κ β) : Prop :=
  List.Forall₂ (fun e f => f.1 = e.1 ∧ P e.2 f.2) m.entries n.entries

theorem Rel.keys_eq (h : m.Rel P n) : n.keys = m.keys := by
  rw [← List.forall₂_eq_eq_eq, keys, keys, List.forall₂_map_left_iff, List.forall₂_map_right_iff]
  exact h.flip.imp fun _ _ hef => hef.1

/-- What the maps say of a key is related. -/
theorem Rel.get? (h : m.Rel P n) (k : κ) : Option.Rel P (m.get? k) (n.get? k) := by
  rw [OrderedMap.get?, OrderedMap.get?]
  unfold Rel at h
  generalize m.entries = es at h
  generalize n.entries = fs at h
  induction h with
  | nil => exact .none
  | @cons e f _ _ hef _ ih =>
    obtain ⟨hkey, hvalue⟩ := hef
    rw [List.find?_cons, List.find?_cons, hkey]
    split
    · exact .some hvalue
    · exact ih

theorem Rel.contains_eq (h : m.Rel P n) (k : κ) : n.contains k = m.contains k := by
  have hget := h.get? k
  unfold contains
  generalize m.get? k = a at hget
  generalize n.get? k = b at hget
  cases hget with
  | none => rfl
  | some _ => rfl

theorem Rel.insert [Std.TransOrd κ] (h : m.Rel P n) (k : κ) (hvw : P v w) :
    (m.insert k v).Rel P (n.insert k w) := by
  unfold Rel at h
  rw [Rel, OrderedMap.insert, OrderedMap.insert]
  dsimp only
  generalize m.entries = es at h
  generalize n.entries = fs at h
  induction h with
  | nil => exact .cons ⟨rfl, hvw⟩ .nil
  | @cons e f _ _ hef hrest ih =>
    obtain ⟨l, x⟩ := e
    obtain ⟨l', y⟩ := f
    obtain ⟨hkey, hxy⟩ := hef
    cases hkey
    rw [insertEntry, insertEntry]
    split
    · exact .cons ⟨rfl, hvw⟩ (.cons ⟨rfl, hxy⟩ hrest)
    · exact .cons ⟨rfl, hvw⟩ hrest
    · exact .cons ⟨rfl, hxy⟩ ih

theorem Rel.erase (h : m.Rel P n) (k : κ) : (m.erase k).Rel P (n.erase k) := by
  unfold Rel at h
  rw [Rel, OrderedMap.erase, OrderedMap.erase, OrderedMap.filter, OrderedMap.filter]
  dsimp only
  exact List.rel_filter (fun e f hef => by simp only [hef.1]) h

end OrderedMap

/-! ## 2. Documents that are alike -/

/-- A secret in place of another: the same one, or both can be read. -/
def Exchangeable (secret secret' : String) : Prop :=
  secret' = secret ∨
    ((Base64.decodeString? secret).isSome = true ∧ (Base64.decodeString? secret').isSome = true)

/-- Both can be read, or neither. -/
theorem Exchangeable.rel {secret secret' : String} (h : Exchangeable secret secret') :
    Option.Rel (fun _ _ => True) (Base64.decodeString? secret) (Base64.decodeString? secret') := by
  rcases h with rfl | ⟨hread, hread'⟩
  · cases Base64.decodeString? secret' with
    | none => exact .none
    | some _ => exact .some trivial
  · obtain ⟨bytes, hbytes⟩ := Option.isSome_iff_exists.1 hread
    obtain ⟨bytes', hbytes'⟩ := Option.isSome_iff_exists.1 hread'
    rw [hbytes, hbytes']
    exact .some trivial

/-- Two credentials are the same but for their secrets. -/
inductive Credential.Alike : Credential → Credential → Prop
  | tsig (name : String) (secret secret' : List UInt8) :
      Alike (.tsig name secret) (.tsig name secret')
  | token (name text text' : String) : Alike (.token name text) (.token name text')

namespace State

/-- Whether the values under a key are secrets. -/
def EntryKey.isSecret : EntryKey → Bool
  | .tsigKey _ | .token _ => true
  | _ => false

/-- The document with other keys and tokens. -/
def withSecrets (s : State) (keys tokens : OrderedMap String String) : State :=
  { s with tsigKeys := keys, tokens := tokens }

/-- Two documents are the same but for the secrets under the same names. -/
inductive Alike (σ : State) : State → Prop
  | intro {keys tokens : OrderedMap String String} (hkeys : σ.tsigKeys.Rel Exchangeable keys)
      (htokens : σ.tokens.Rel (fun _ _ => True) tokens) : Alike σ (σ.withSecrets keys tokens)

variable {σ σ' : State} {zone : DomainName} {name key value value' : String}

namespace Alike

section

variable (h : σ.Alike σ')

include h

theorem group_eq (zone : DomainName) : σ'.group zone = σ.group zone := by
  cases h
  rfl

theorem members_eq (zone : DomainName) : σ'.members zone = σ.members zone := by
  cases h
  rfl

theorem status?_eq (zone : DomainName) : Event.status? σ' zone = Event.status? σ zone := by
  cases h
  rfl

/-- What is done to both documents without a look at the secrets. -/
theorem map {f : State → State}
    (hf : ∀ σ keys tokens, f (withSecrets σ keys tokens) = (f σ).withSecrets keys tokens) :
    (f σ).Alike (f σ') := by
  cases h with
  | intro hkeys htokens =>
    have hself : f σ = (f σ).withSecrets σ.tsigKeys σ.tokens := hf σ σ.tsigKeys σ.tokens
    rw [hf]
    refine .intro ?_ ?_
    · rw [hself]
      exact hkeys
    · rw [hself]
      exact htokens

theorem modifyGroup (zone : DomainName) (f : Group → Group) :
    (σ.modifyGroup zone f).Alike (σ'.modifyGroup zone f) :=
  h.map (f := fun s => s.modifyGroup zone f) fun _ _ _ => rfl

theorem modifySigner (name : String) (f : Signer → Signer) :
    (σ.modifySigner name f).Alike (σ'.modifySigner name f) :=
  h.map (f := fun s => s.modifySigner name f) fun _ _ _ => rfl

theorem dnskeyOrigins (views : List SignerView) :
    (views.foldl Sync.Dnskeys.recordOrigins σ).Alike
      (views.foldl Sync.Dnskeys.recordOrigins σ') := by
  refine h.map (f := fun s => views.foldl Sync.Dnskeys.recordOrigins s) fun σ keys tokens => ?_
  refine List.foldl_hom (withSecrets · keys tokens) fun σ v => ?_
  refine List.foldl_hom (withSecrets · keys tokens) fun σ k => ?_
  by_cases hknown : σ.dnskeyOrigin.contains k.fingerprint = true
  all_goals simp only [recordDnskeyOrigin, withSecrets, hknown, reduceIte, Bool.false_eq_true]

theorem nsOrigins (views : List SignerView) :
    (views.foldl Sync.Nameservers.recordOrigins σ).Alike
      (views.foldl Sync.Nameservers.recordOrigins σ') := by
  refine h.map (f := fun s => views.foldl Sync.Nameservers.recordOrigins s) fun σ keys tokens => ?_
  refine List.foldl_hom (withSecrets · keys tokens) fun σ v => ?_
  refine List.foldl_hom (withSecrets · keys tokens) fun σ n => ?_
  by_cases hknown : σ.nsOrigin.contains n = true
  all_goals simp only [recordNsOrigin, withSecrets, hknown, reduceIte, Bool.false_eq_true]

/-! ## 3. What is done to documents that are alike -/

theorem addGroup (zone : DomainName) (g : Group) :
    Corresponds Alike (σ.addGroup zone g) (σ'.addGroup zone g) := by
  cases h with
  | @intro keys tokens hkeys htokens =>
    exact Corresponds.ite (c := σ.groups.contains zone = true) (.error _)
      (.ok (.intro hkeys htokens))

theorem removeGroup (zone : DomainName) :
    Corresponds (fun p p' => p'.1 = p.1 ∧ p.2.Alike p'.2) (σ.removeGroup zone)
      (σ'.removeGroup zone) := by
  cases h with
  | @intro keys tokens hkeys htokens =>
    refine corresponds_bind (r := σ.group zone) fun g => ?_
    exact .ite (.error _) (.ok ⟨rfl, .intro hkeys htokens⟩)

theorem addSigner (name : String) (signer : Signer) :
    Corresponds Alike (σ.addSigner name signer) (σ'.addSigner name signer) := by
  cases h with
  | @intro keys tokens hkeys htokens =>
    refine Corresponds.ite (c := σ.signers.contains name = true) (.error _) ?_
    refine corresponds_bind (r := σ.group signer.group) fun g => ?_
    exact .ok (.intro hkeys htokens)

theorem removeSigner (name : String) :
    Corresponds (fun p p' => p'.1 = p.1 ∧ p.2.Alike p'.2) (σ.removeSigner name)
      (σ'.removeSigner name) := by
  cases h with
  | @intro keys tokens hkeys htokens =>
    refine corresponds_bind (r := σ.signer name) fun r => ?_
    exact .ok ⟨rfl, .intro hkeys htokens⟩

/-! ## 4. Entries and credentials -/

/-- An entry is set in both documents. -/
theorem setEntry (key value : String) :
    Corresponds Alike (σ.setEntry key value) (σ'.setEntry key value) := by
  cases h with
  | @intro keys tokens hkeys htokens =>
    rw [State.setEntry, State.setEntry]
    cases EntryKey.ofString key with
    | tsigKey name =>
      exact .ite (.error _) (.ite (.error _) (.ok (.intro (hkeys.insert name (.inl rfl)) htokens)))
    | token name =>
      exact .ite (.error _) (.ite (.error _) (.ok (.intro hkeys (htokens.insert name trivial))))
    | groupTtl text =>
      refine corresponds_bind fun zone => ?_
      refine corresponds_bind fun ttl => ?_
      refine corresponds_bind (r := σ.group zone) fun g => ?_
      exact .ok (.intro hkeys htokens)
    | debugUpdater => exact .ite (.ok (.intro hkeys htokens)) (.error _)
    | dnskeyOrigin _ | nsOrigin _ | other => exact .error _

/-- An entry is removed from both documents. -/
theorem removeEntry (key : String) :
    Corresponds (fun p p' => p'.1 = p.1 ∧ p.2.Alike p'.2) (σ.removeEntry key)
      (σ'.removeEntry key) := by
  cases h with
  | @intro keys tokens hkeys htokens =>
    rw [State.removeEntry, State.removeEntry]
    cases EntryKey.ofString key with
    | tsigKey name => exact .ok ⟨hkeys.contains_eq name, .intro (hkeys.erase name) htokens⟩
    | token name => exact .ok ⟨htokens.contains_eq name, .intro hkeys (htokens.erase name)⟩
    | groupTtl text =>
      refine corresponds_bind fun zone => ?_
      refine corresponds_bind (r := σ.group zone) fun g => ?_
      exact .ok ⟨rfl, .intro hkeys htokens⟩
    | nsOrigin text =>
      refine corresponds_bind fun ns => ?_
      exact .ok ⟨rfl, .intro hkeys htokens⟩
    | dnskeyOrigin _ | debugUpdater => exact .ok ⟨rfl, .intro hkeys htokens⟩
    | other => exact .error _

/-- **Credentials are found alike**: both are there, with the same name, or both are missing for the
same reason. -/
theorem credential (m : Member) :
    Corresponds Credential.Alike (Push.credential σ m) (Push.credential σ' m) := by
  cases h with
  | @intro keys tokens hkeys htokens =>
    rw [Push.credential, Push.credential]
    cases m.signer.credential with
    | none => exact .error _
    | some name =>
      cases m.signer.kind with
      | nsupdate =>
        have hget := hkeys.get? name
        dsimp only [withSecrets]
        generalize σ.tsigKeys.get? name = a at hget
        generalize keys.get? name = b at hget
        cases hget with
        | none => exact .error _
        | @some secret secret' hexchange =>
          have hread := hexchange.rel
          dsimp only
          generalize Base64.decodeString? secret = a at hread
          generalize Base64.decodeString? secret' = b at hread
          cases hread with
          | none => exact .error _
          | @some bytes bytes' _ => exact .ok (.tsig name bytes bytes')
      | desec =>
        have hget := htokens.get? name
        dsimp only [withSecrets]
        generalize σ.tokens.get? name = a at hget
        generalize tokens.get? name = b at hget
        cases hget with
        | none => exact .error _
        | @some text text' _ => exact .ok (.token name text text')

end

end Alike
end State
end MultiSigner
