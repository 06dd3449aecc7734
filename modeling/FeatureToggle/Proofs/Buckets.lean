import FeatureToggle.Proofs.Numerals
import FeatureToggle.Strategy.Gradual

/-!
# Buckets

A digest is a number of 160 bits, and its text writes that number with two digits of base sixteen for
each byte. The first fifteen digits cut the eighth byte in half: they write the number of the sixty
highest bits, which is always read and never too large. The bucket of a user is what that number
leaves over when it is divided by a hundred (`bucketed_highBits`), whatever the hash function.
-/
namespace FeatureToggle

open Text

namespace Digest

/-! ## Digests as numbers -/

/-- The number that bytes make up, the first of them counting most. -/
def numberOfBytes (bytes : List UInt8) : Nat := Nat.ofDigits 256 (bytes.reverse.map UInt8.toNat)

theorem numberOfBytes_append_singleton (bytes : List UInt8) (b : UInt8) :
    numberOfBytes (bytes ++ [b]) = numberOfBytes bytes * 256 + b.toNat := by
  rw [numberOfBytes, List.reverse_append, List.reverse_singleton, List.singleton_append,
    List.map_cons, Nat.ofDigits_cons, numberOfBytes, Nat.mul_comm, Nat.add_comm]

theorem numberOfBytes_lt (bytes : List UInt8) : numberOfBytes bytes < 256 ^ bytes.length := by
  have hbytes : ∀ n ∈ bytes.reverse.map UInt8.toNat, n < 256 := by
    intro n hn
    obtain ⟨b, -, rfl⟩ := List.mem_map.1 hn
    exact b.toNat_lt
  simpa [numberOfBytes] using Nat.ofDigits_lt_base_pow_length (by omega) hbytes

/-- The number of 160 bits. -/
def number (d : Digest) : Nat := numberOfBytes d.toList

/-- The number that the `n` highest of the 160 bits make up. -/
def highBits (d : Digest) (n : Nat) : Nat := d.number >>> (160 - n)

theorem number_lt (d : Digest) : d.number < 2 ^ 160 := by
  have hlt := numberOfBytes_lt d.toList
  rw [Vector.length_toList] at hlt
  exact lt_of_lt_of_eq hlt (by norm_num)

theorem highBits_lt (d : Digest) {n : Nat} (hn : n ≤ 160) : d.highBits n < 2 ^ n := by
  rw [highBits, Nat.shiftRight_eq_div_pow, Nat.div_lt_iff_lt_mul (Nat.two_pow_pos _), ← Nat.pow_add]
  have hbits : n + (160 - n) = 160 := by omega
  rw [hbits]
  exact d.number_lt

/-! ## Hexadecimal text -/

def hexDigits : List Char :=
  ['0', '1', '2', '3', '4', '5', '6', '7', '8', '9', 'a', 'b', 'c', 'd', 'e', 'f']

def hexValue (c : Char) : Nat := (hexDigitValue? c).getD 0

theorem hexDigit_mem_hexDigits : ∀ n < 16, hexDigit n ∈ hexDigits := by decide

theorem hexDigitValue?_hexDigit : ∀ n < 16, hexDigitValue? (hexDigit n) = some n := by decide

-- Deciding goes over the places of the list, not over all characters.
theorem hexDigitValue?_of_mem : ∀ c ∈ hexDigits, hexDigitValue? c = some (hexValue c) := by
  rw [List.forall_mem_iff_forall_getElem]
  decide

theorem hexValue_lt : ∀ c ∈ hexDigits, hexValue c < 16 := by
  rw [List.forall_mem_iff_forall_getElem]
  decide

theorem nibbles_lt (b : UInt8) : b.toNat / 16 < 16 ∧ b.toNat % 16 < 16 := by
  have hlt := b.toNat_lt
  omega

theorem mem_hexDigits_of_mem_hexByte {b : UInt8} {c : Char} (h : c ∈ hexByte b) : c ∈ hexDigits := by
  obtain ⟨hhigh, hlow⟩ := nibbles_lt b
  rcases List.mem_cons.1 h with rfl | h
  · exact hexDigit_mem_hexDigits _ hhigh
  · obtain rfl := List.mem_singleton.1 h
    exact hexDigit_mem_hexDigits _ hlow

theorem placeValue_hexByte (b : UInt8) : placeValue 16 hexValue (hexByte b) = b.toNat := by
  obtain ⟨hhigh, hlow⟩ := nibbles_lt b
  have hvalue {n : Nat} (hn : n < 16) : hexValue (hexDigit n) = n := by
    rw [hexValue, hexDigitValue?_hexDigit n hn, Option.getD_some]
  have hnil : placeValue 16 hexValue [] = 0 := rfl
  rw [hexByte, placeValue_cons, placeValue_cons, hnil, hvalue hhigh, hvalue hlow]
  simp only [List.length_cons, List.length_nil]
  omega

/-- Two digits for each byte write the number of the bytes. -/
theorem placeValue_flatMap_hexByte (bytes : List UInt8) :
    placeValue 16 hexValue (bytes.flatMap hexByte) = numberOfBytes bytes := by
  induction bytes using List.reverseRecOn with
  | nil => rfl
  | append_singleton bytes b ih =>
    have hbyte : 16 ^ (hexByte b).length = 256 := rfl
    rw [List.flatMap_append, List.flatMap_singleton, placeValue_append, ih, placeValue_hexByte, hbyte,
      numberOfBytes_append_singleton]

theorem mem_hexDigits_of_mem_hex {d : Digest} {c : Char} (h : c ∈ d.hex) : c ∈ hexDigits := by
  obtain ⟨b, -, hc⟩ := List.mem_flatMap.1 h
  exact mem_hexDigits_of_mem_hexByte hc

theorem length_hex (d : Digest) : d.hex.length = 40 := by
  have htwo : (fun b => (hexByte b).length) = fun _ => 2 := rfl
  rw [hex, List.length_flatMap, htwo, List.map_const', List.sum_replicate_nat, Vector.length_toList]

/-- Digits are read if, and only if, the number that they come to fits 64 bits. -/
theorem readHex?_eq_some_iff {digits : List Char} {acc n : Nat} (hacc : acc < 2 ^ 64) :
    readHex? acc digits = some n ↔
      (∀ c ∈ digits, hexDigitValue? c = some (hexValue c)) ∧
        acc * 16 ^ digits.length + placeValue 16 hexValue digits = n ∧ n < 2 ^ 64 := by
  induction digits generalizing acc with
  | nil =>
    have hnil : placeValue 16 hexValue [] = 0 := rfl
    simp only [readHex?, hnil, List.length_nil, Option.some.injEq]
    constructor
    · rintro rfl
      exact ⟨fun c hc => absurd hc List.not_mem_nil, by omega, hacc⟩
    · rintro ⟨-, hn, -⟩
      omega
  | cons c digits ih =>
    rw [readHex?, placeValue_cons, List.length_cons, Nat.pow_succ, List.forall_mem_cons]
    cases hc : hexDigitValue? c with
    | none => simp
    | some v =>
      have hv : hexValue c = v := by rw [hexValue, hc, Option.getD_some]
      -- The number that all digits come to, from the one that is at hand after this digit.
      have htotal : acc * (16 ^ digits.length * 16) +
          (v * 16 ^ digits.length + placeValue 16 hexValue digits) =
          (acc * 16 + v) * 16 ^ digits.length + placeValue 16 hexValue digits := by ring
      have hbound : 0x10000000000000000 = 2 ^ 64 := rfl
      rw [hv, htotal]
      simp only [Option.bind_eq_bind, Option.bind_some, true_and, hbound]
      by_cases hfits : acc * 16 + v < 2 ^ 64
      · rw [if_pos hfits, ih hfits]
      · rw [if_neg hfits]
        have hle : acc * 16 + v ≤ (acc * 16 + v) * 16 ^ digits.length :=
          Nat.le_mul_of_pos_right _ (Nat.pow_pos (by omega))
        simp only [reduceCtorEq, false_iff]
        rintro ⟨-, hn, hlt⟩
        omega

/-- The first digits write the highest bits, four bits each. -/
theorem placeValue_take_hex (d : Digest) {n : Nat} (hn : n ≤ 40) :
    placeValue 16 hexValue (d.hex.take n) = d.highBits (4 * n) := by
  have hvalue : placeValue 16 hexValue d.hex = d.number := placeValue_flatMap_hexByte d.toList
  rw [placeValue_take (by omega) fun c hc => hexValue_lt c (mem_hexDigits_of_mem_hex hc), hvalue,
    highBits, Nat.shiftRight_eq_div_pow, List.length_drop, length_hex]
  have hbits : 160 - 4 * n = 4 * (40 - n) := by omega
  rw [hbits, Nat.pow_mul]

/-- The text of a digest, and what is read of it for a bucket. -/
structure Spelled (d : Digest) : Prop where
  length : d.hex.length = 40
  lower : ∀ c ∈ d.hex, c ∈ hexDigits
  value : placeValue 16 hexValue d.hex = d.number
  /-- There are enough digits, and reading them never fails. -/
  enough : Strategy.bucketDigits ≤ d.hex.length
  reads : readHex? 0 (d.hex.take Strategy.bucketDigits) = some (d.highBits 60)
  fits : d.highBits 60 < 2 ^ 60

theorem spelled (d : Digest) : d.Spelled where
  length := d.length_hex
  lower c hc := mem_hexDigits_of_mem_hex hc
  value := placeValue_flatMap_hexByte d.toList
  enough := by
    rw [length_hex, Strategy.bucketDigits]
    omega
  reads := by
    rw [readHex?_eq_some_iff (by omega), Strategy.bucketDigits, d.placeValue_take_hex (by omega)]
    refine ⟨fun c hc => ?_, by rw [Nat.zero_mul, Nat.zero_add], ?_⟩
    · exact hexDigitValue?_of_mem c (mem_hexDigits_of_mem_hex (List.mem_of_mem_take hc))
    · exact lt_trans (d.highBits_lt (by omega)) (by norm_num)
  fits := d.highBits_lt (by omega)

end Digest

/-! ## Bytes of texts -/

theorem toList_loop_eq (bytes : ByteArray) (i : Nat) (front : List UInt8) :
    ByteArray.toList.loop bytes i front = front.reverse ++ bytes.data.toList.drop i := by
  fun_induction ByteArray.toList.loop bytes i front with
  | case1 i front hlt ih =>
    have hi : i < bytes.data.toList.length := by simpa using hlt
    have hget : bytes.get! i = bytes.data.toList[i] := getElem!_pos bytes.data i hlt
    rw [ih, List.drop_eq_getElem_cons hi, hget, List.reverse_cons, List.append_assoc,
      List.singleton_append]
  | case2 i front hge =>
    have hend : bytes.data.toList.length ≤ i := by simpa using hge
    rw [List.drop_eq_nil_of_le hend, List.append_nil]

theorem toList_toUTF8_append (s t : String) :
    (s ++ t).toUTF8.toList = s.toUTF8.toList ++ t.toUTF8.toList := by
  have htoList (bytes : ByteArray) : bytes.toList = bytes.data.toList :=
    toList_loop_eq bytes 0 []
  simp [htoList, String.toUTF8]

namespace Strategy

/-- What is hashed: the bytes of the feature, a point, and those of the user's name, trimmed and in
lower case. -/
def keyBytes (feature name : String) : List UInt8 :=
  feature.toUTF8.toList ++ 0x2e :: (lowercase (trim name)).toUTF8.toList

theorem bucketBy_eq (hash : List UInt8 → Digest) (feature name : String) :
    bucketBy hash feature name = bucketOfDigest (hash (keyBytes feature name)) := by
  have hpoint : ".".toUTF8.toList = [0x2e] := by decide +kernel
  rw [bucketBy, bucketKey, toList_toUTF8_append, toList_toUTF8_append, hpoint, List.append_assoc,
    List.singleton_append, keyBytes]

theorem bucketOfDigest_eq (d : Digest) : bucketOfDigest d = d.highBits 60 % 100 := by
  rw [bucketOfDigest, d.spelled.reads, Option.getD_some]

/-- What `b` is as the bucket of a user, with `hash` as the hash function. -/
structure Bucketed (hash : List UInt8 → Digest) (feature name : String) (b : Nat) : Prop where
  eq : b = (hash (keyBytes feature name)).highBits 60 % 100
  lt : b < 100
  /-- A byte holds it. -/
  byte : (UInt8.ofNat b).toNat = b

theorem bucketed_bucketBy (hash : List UInt8 → Digest) (feature name : String) :
    Bucketed hash feature name (bucketBy hash feature name) := by
  have heq : bucketBy hash feature name = (hash (keyBytes feature name)).highBits 60 % 100 := by
    rw [bucketBy_eq, bucketOfDigest_eq]
  have hlt : bucketBy hash feature name < 100 := heq ▸ Nat.mod_lt _ (by omega)
  refine ⟨heq, hlt, ?_⟩
  rw [UInt8.toNat_ofNat_of_lt']
  exact lt_trans hlt (by decide)

/-- The first digits of every digest are read as its highest bits, and buckets are made of them,
those of the roll-out as those of any other hash function. -/
theorem bucketed_highBits :
    (∀ d : Digest, d.Spelled) ∧
      (∀ hash feature name, Bucketed hash feature name (bucketBy hash feature name)) ∧
      ∀ feature name, Bucketed Sha1.digest feature name (bucket feature name) :=
  ⟨Digest.spelled, bucketed_bucketBy, bucketed_bucketBy Sha1.digest⟩

/-- The blanks around a name and its case do not matter. -/
example : (Sha1.digest (keyBytes "F1" " Bob\n")).highBits 60 % 100 = 1 := by decide +kernel

end Strategy

end FeatureToggle
