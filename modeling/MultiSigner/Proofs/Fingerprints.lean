/-
# Fingerprints tell keys apart

The origin of a key is noted under its fingerprint, a text that is put together from the algorithm
and the public key in base64.  Two keys have one fingerprint just if they have the same algorithm
and the same bytes, whatever their flags (`fingerprint_eq_iff`), for two reasons:

* The number of the algorithm is followed by a dash, which is no digit, so one sees where it ends.
* Base64 has one text for each byte string and reads no other one (`decodeString?_eq_some`): reading
  undoes writing, and a group of letters is read only if writing its bytes makes the same letters,
  as it is strict about pads and about bits that belong to no byte.
-/
import MultiSigner.Proofs.Saving.Text
import MultiSigner.Record.Dnskey
import MultiSigner.State.Basic
import MultiSigner.Text.Decimal

namespace MultiSigner.Base64

/-! ## 1. Base64 has one text for each byte string -/

theorem letter_of_value? {c : Char} {n : Nat} (h : value? c = some n) : n < 64 ∧ letter n = c := by
  have hback : ∀ {m : Nat}, m = c.toNat → Char.ofNat m = c := by
    rintro _ rfl
    exact Char.ofNat_toNat c
  simp only [value?, Char.le_def, UInt32.le_iff_toNat_le] at h
  split at h
  · rename_i hc
    cases h
    change 65 ≤ c.toNat ∧ c.toNat ≤ 90 at hc
    refine ⟨by omega, ?_⟩
    rw [letter, if_pos (by omega)]
    exact hback (by omega)
  split at h
  · rename_i hc
    cases h
    change 97 ≤ c.toNat ∧ c.toNat ≤ 122 at hc
    refine ⟨by omega, ?_⟩
    rw [letter, if_neg (by omega), if_pos (by omega)]
    exact hback (by omega)
  split at h
  · rename_i hc
    cases h
    change 48 ≤ c.toNat ∧ c.toNat ≤ 57 at hc
    refine ⟨by omega, ?_⟩
    rw [letter, if_neg (by omega), if_neg (by omega), if_pos (by omega)]
    exact hback (by omega)
  split at h
  · rename_i hc
    cases h
    exact ⟨by decide, hc ▸ rfl⟩
  split at h
  · rename_i hc
    cases h
    exact ⟨by decide, hc ▸ rfl⟩
  · cases h

variable {p q r s : Char} {bytes : List UInt8}

theorem encodeThree_of_decodeFour? (h : decodeFour? p q r s = some bytes) :
    ∃ a b c, bytes = [a, b, c] ∧ encodeThree a b c = [p, q, r, s] := by
  simp only [decodeFour?, Option.bind_eq_bind, Option.bind_eq_some_iff, Option.pure_def,
    Option.some.injEq] at h
  obtain ⟨v, hv, w, hw, x, hx, y, hy, rfl⟩ := h
  obtain ⟨hv64, rfl⟩ := letter_of_value? hv
  obtain ⟨hw64, rfl⟩ := letter_of_value? hw
  obtain ⟨hx64, rfl⟩ := letter_of_value? hx
  obtain ⟨hy64, rfl⟩ := letter_of_value? hy
  refine ⟨_, _, _, rfl, ?_⟩
  simp only [encodeThree, UInt8.toNat_ofNat', List.cons.injEq, and_true]
  refine ⟨?_, ?_, ?_, ?_⟩ <;> congr 1 <;> omega

theorem encodeTwo_of_decodeThree? (h : decodeThree? p q r = some bytes) :
    ∃ a b, bytes = [a, b] ∧ encodeTwo a b = [p, q, r, '='] := by
  simp only [decodeThree?, Option.bind_eq_bind, Option.bind_eq_some_iff,
    Option.ite_none_right_eq_some, Option.some.injEq] at h
  obtain ⟨v, hv, w, hw, x, hx, hspare, rfl⟩ := h
  obtain ⟨hv64, rfl⟩ := letter_of_value? hv
  obtain ⟨hw64, rfl⟩ := letter_of_value? hw
  obtain ⟨hx64, rfl⟩ := letter_of_value? hx
  refine ⟨_, _, rfl, ?_⟩
  simp only [encodeTwo, UInt8.toNat_ofNat', List.cons.injEq, and_true]
  refine ⟨?_, ?_, ?_⟩ <;> congr 1 <;> omega

theorem encodeOne_of_decodeTwo? (h : decodeTwo? p q = some bytes) :
    ∃ a, bytes = [a] ∧ encodeOne a = [p, q, '=', '='] := by
  simp only [decodeTwo?, Option.bind_eq_bind, Option.bind_eq_some_iff,
    Option.ite_none_right_eq_some, Option.some.injEq] at h
  obtain ⟨v, hv, w, hw, hspare, rfl⟩ := h
  obtain ⟨hv64, rfl⟩ := letter_of_value? hv
  obtain ⟨hw64, rfl⟩ := letter_of_value? hw
  refine ⟨_, rfl, ?_⟩
  simp only [encodeOne, UInt8.toNat_ofNat', List.cons.injEq, and_true]
  refine ⟨?_, ?_⟩ <;> congr 1 <;> omega

theorem encode_of_decodePadded? (h : decodePadded? p q r = some bytes) :
    encode bytes = [p, q, r, '='] := by
  rw [decodePadded?] at h
  split at h
  · rename_i hr
    subst hr
    obtain ⟨a, rfl, ha⟩ := encodeOne_of_decodeTwo? h
    exact ha
  · obtain ⟨a, b, rfl, hab⟩ := encodeTwo_of_decodeThree? h
    exact hab

/-- **Only what writing makes is read.** -/
theorem encode_of_decode? {cs : List Char} {bytes : List UInt8} (h : decode? cs = some bytes) :
    encode bytes = cs := by
  fun_induction decode? cs generalizing bytes with
  | case1 => cases h; rfl
  | case2 a b c rest hrest =>
    rw [List.isEmpty_iff.1 hrest]
    exact encode_of_decodePadded? h
  | case3 => cases h
  | case4 a b c d rest _ ih =>
    simp only [Option.bind_eq_bind, Option.bind_eq_some_iff, Option.pure_def,
      Option.some.injEq] at h
    obtain ⟨first, hfirst, others, hothers, rfl⟩ := h
    obtain ⟨x, y, z, rfl, hxyz⟩ := encodeThree_of_decodeFour? hfirst
    show encodeThree x y z ++ encode others = _
    rw [hxyz, ih hothers]
    rfl
  | case5 => cases h

/-- A text denotes the bytes that it is the text of, and no others. -/
theorem decodeString?_eq_some {s : String} {bytes : List UInt8} :
    decodeString? s = some bytes ↔ encodeString bytes = s := by
  constructor
  · intro h
    rw [encodeString, encode_of_decode? h, String.ofList_toList]
  · rintro rfl
    rw [decodeString?, encodeString, String.toList_ofList, decode?_encode]

theorem encode_inj {l m : List UInt8} : encode l = encode m ↔ l = m := by
  constructor
  · intro h
    rw [← Option.some_inj, ← decode?_encode l, h, decode?_encode]
  · rintro rfl
    rfl

end MultiSigner.Base64

namespace MultiSigner

/-! ## 2. Fingerprints -/

namespace Dnskey

variable {a b : Dnskey}

theorem toList_fingerprint (k : Dnskey) : k.fingerprint.toList
    = '3' :: '-' :: (Decimal.digits k.algorithm.toNat ++ '-' :: Base64.encode k.publicKey) := by
  have htext : k.publicKeyText.toList = Base64.encode k.publicKey := String.toList_ofList
  have hnumber : (toString k.algorithm).toList = Decimal.digits k.algorithm.toNat :=
    String.toList_ofList
  show (toString protocol ++ "-" ++ toString k.algorithm ++ "-" ++ k.publicKeyText).toList = _
  simp only [String.toList_append, hnumber, htext, List.append_assoc]
  rfl

/-- Where the number of the algorithm ends. -/
theorem takeWhile_digits (n : Nat) (rest : List Char) :
    (Decimal.digits n ++ '-' :: rest).takeWhile Char.isDigit = Decimal.digits n :=
  (span_append (fun c hc => Decimal.isDigit_of_mem_digits hc) (by rintro c ⟨⟩; rfl)).1

/-- **Keys have the same fingerprint just if algorithm and bytes are the same**, whatever their
flags. -/
theorem fingerprint_eq_iff : a.fingerprint = b.fingerprint ↔
    a.algorithm = b.algorithm ∧ a.publicKey = b.publicKey := by
  constructor
  · intro h
    have hchars := congrArg String.toList h
    rw [toList_fingerprint, toList_fingerprint, List.cons_inj_right, List.cons_inj_right] at hchars
    have hdigits : Decimal.digits a.algorithm.toNat = Decimal.digits b.algorithm.toNat := by
      rw [← takeWhile_digits _ (Base64.encode a.publicKey), hchars, takeWhile_digits]
    rw [hdigits, List.append_cancel_left_eq, List.cons_inj_right] at hchars
    have halgorithm := congrArg Decimal.ofDigits? hdigits
    rw [Decimal.ofDigits?_digits, Decimal.ofDigits?_digits, Option.some_inj, UInt8.toNat_inj]
      at halgorithm
    exact ⟨halgorithm, Base64.encode_inj.1 hchars⟩
  · rintro ⟨halgorithm, hbytes⟩
    rw [fingerprint, fingerprint, publicKeyText, publicKeyText, halgorithm, hbytes]

/-- **A text is read as a key just if it is how the key's bytes are written.** -/
theorem ofBase64_eq_ok {flags : UInt16} {algorithm : UInt8} {text : String} {k : Dnskey} :
    ofBase64 flags algorithm text = .ok k ↔
      k = ofFlags flags algorithm k.publicKey ∧ k.publicKeyText = text := by
  rw [publicKeyText, ← Base64.decodeString?_eq_some, ofBase64]
  cases Base64.decodeString? text with
  | none => simp
  | some bytes =>
    simp only [Except.ok.injEq, Option.some.injEq]
    constructor
    · rintro rfl
      exact ⟨rfl, rfl⟩
    · rintro ⟨hk, rfl⟩
      exact hk.symm

end Dnskey

/-! ## 3. Origins -/

/-- **Keys are told apart by their fingerprints.**  Two keys have the same fingerprint just if they
have the same algorithm and bytes.  The text of a key's bytes is read as a key with these bytes, and
a text is read as a key just if it is how the key's bytes are written.  And of the entries that a
document has for the origins of two keys, each is the other one just if algorithm and bytes are the
same: two keys never share an entry, and no key has two. -/
theorem keys_told_apart (a b : Dnskey) (flags : UInt16) (algorithm : UInt8) (text : String)
    (σ : State) :
    (a.fingerprint = b.fingerprint ↔ a.algorithm = b.algorithm ∧ a.publicKey = b.publicKey) ∧
    (∃ k, Dnskey.ofBase64 flags algorithm a.publicKeyText = .ok k ∧ k.algorithm = algorithm ∧
      k.publicKey = a.publicKey) ∧
    (∀ k, Dnskey.ofBase64 flags algorithm text = .ok k ↔
      k = Dnskey.ofFlags flags algorithm k.publicKey ∧ k.publicKeyText = text) ∧
    ∀ e ∈ σ.dnskeyOrigin.entries, ∀ e' ∈ σ.dnskeyOrigin.entries,
      e.1 = a.fingerprint → e'.1 = b.fingerprint →
      (e = e' ↔ a.algorithm = b.algorithm ∧ a.publicKey = b.publicKey) := by
  refine ⟨Dnskey.fingerprint_eq_iff, ⟨Dnskey.ofFlags flags algorithm a.publicKey,
    Dnskey.ofBase64_eq_ok.2 ⟨rfl, rfl⟩, rfl, rfl⟩, fun _ => Dnskey.ofBase64_eq_ok, ?_⟩
  intro e he e' he' hea heb
  rw [← Dnskey.fingerprint_eq_iff, ← hea, ← heb]
  constructor
  · rintro rfl
    rfl
  · intro hsame
    have hvalue := OrderedMap.get?_of_mem he
    rw [hsame, OrderedMap.get?_of_mem he'] at hvalue
    exact Prod.ext hsame (Option.some.inj hvalue).symm

namespace Sample

/-- A key under one algorithm. -/
def curveKey : Dnskey := .ofFlags 256 13 [1, 2]

/-- The same bytes under another one. -/
def modulusKey : Dnskey := .ofFlags 257 8 [1, 2]

/-- Both were seen, at different signers. -/
def sighted : State :=
  ((State.empty.recordDnskeyOrigin curveKey.fingerprint "a").2.recordDnskeyOrigin
    modulusKey.fingerprint "b").2

/-- Keys of the same bytes have entries of their own if their algorithms differ. -/
theorem told_apart_by_algorithm :
    ("3-13-AQI=", "a") ∈ sighted.dnskeyOrigin.entries ∧
      ("3-8-AQI=", "b") ∈ sighted.dnskeyOrigin.entries ∧
      "3-13-AQI=" = curveKey.fingerprint ∧ "3-8-AQI=" = modulusKey.fingerprint ∧
      (("3-13-AQI=", "a") = ("3-8-AQI=", "b") ↔
        curveKey.algorithm = modulusKey.algorithm ∧ curveKey.publicKey = modulusKey.publicKey) := by
  have hcurve : ("3-13-AQI=", "a") ∈ sighted.dnskeyOrigin.entries := by decide +kernel
  have hmodulus : ("3-8-AQI=", "b") ∈ sighted.dnskeyOrigin.entries := by decide +kernel
  have hcurvePrint : "3-13-AQI=" = curveKey.fingerprint := by decide +kernel
  have hmodulusPrint : "3-8-AQI=" = modulusKey.fingerprint := by decide +kernel
  exact ⟨hcurve, hmodulus, hcurvePrint, hmodulusPrint,
    (keys_told_apart curveKey modulusKey 256 13 "AQI=" sighted).2.2.2 _ hcurve _ hmodulus
      hcurvePrint hmodulusPrint⟩

end Sample
end MultiSigner
