import Mathlib

/-!
# Byte strings, big-endian counters and `increment_nonce`

The secure channel of `crypto.rs` keeps one 12-byte counter per direction and advances it
with `increment_nonce`, which walks the slice from its last byte to its first, adds one with
wrap-around and stops at the first byte that does not become zero.  The frame codec writes
and reads the frame length as a big-endian `u32`.  This file models both on lists of bytes
and relates them to natural numbers: the counter is big-endian addition of one modulo
`256 ^ length`, and the `u32` prefix is the length modulo `2 ^ 32`.
-/

namespace PortalTunnel

/-- Byte strings: the `Vec<u8>` and `&[u8]` values of the source. -/
abbrev Bytes := List UInt8

/-! ## Bytes as numbers -/

theorem uint8_toNat_lt (byte : UInt8) : byte.toNat < 256 := byte.toNat_lt_size

theorem uint8_toNat_add_one (byte : UInt8) : (byte + 1).toNat = (byte.toNat + 1) % 256 := by
  show (byte.toBitVec + 1).toNat = _
  simp [BitVec.toNat_add, UInt8.toNat]

theorem uint8_add_one_eq_zero_iff (byte : UInt8) : byte + 1 = 0 ↔ byte.toNat = 255 := by
  constructor
  · intro wraps
    have value := congrArg UInt8.toNat wraps
    rw [uint8_toNat_add_one, UInt8.toNat_zero] at value
    have := uint8_toNat_lt byte
    omega
  · intro top
    apply UInt8.toNat.inj
    rw [uint8_toNat_add_one, top]
    rfl

theorem uint8_toNat_ofNat (value : Nat) : (UInt8.ofNat value).toNat = value % 256 := by
  show (BitVec.ofNat 8 value).toNat = _
  simp

/-- The number a byte string spells in big-endian order, as `u32::from_be_bytes` reads it. -/
def beValue (bytes : Bytes) : Nat :=
  bytes.foldl (fun value byte => 256 * value + byte.toNat) 0

/-- The `width` low bytes of `value`, most significant first, as `to_be_bytes` writes them. -/
def beBytes : Nat → Nat → Bytes
  | 0, _ => []
  | width + 1, value => beBytes width (value / 256) ++ [UInt8.ofNat (value % 256)]

@[simp]
theorem beValue_nil : beValue [] = 0 := rfl

theorem beValue_append_singleton (bytes : Bytes) (byte : UInt8) :
    beValue (bytes ++ [byte]) = 256 * beValue bytes + byte.toNat := by
  simp [beValue, List.foldl_append]

theorem beValue_reverse_cons (byte : UInt8) (rest : Bytes) :
    beValue (byte :: rest).reverse = byte.toNat + 256 * beValue rest.reverse := by
  rw [List.reverse_cons, beValue_append_singleton]
  omega

theorem beValue_lt (bytes : Bytes) : beValue bytes < 256 ^ bytes.length := by
  induction bytes using List.reverseRecOn with
  | nil => simp
  | append_singleton bytes byte ih =>
      rw [beValue_append_singleton, List.length_append, List.length_singleton, Nat.pow_succ]
      have := uint8_toNat_lt byte
      omega

@[simp]
theorem beBytes_length (width value : Nat) : (beBytes width value).length = width := by
  induction width generalizing value with
  | zero => rfl
  | succ width ih => simp [beBytes, ih]

theorem beValue_beBytes (width value : Nat) :
    beValue (beBytes width value) = value % 256 ^ width := by
  induction width generalizing value with
  | zero => simp [beBytes, Nat.mod_one]
  | succ width ih =>
      rw [beBytes, beValue_append_singleton, ih, uint8_toNat_ofNat, Nat.pow_succ', Nat.mod_mul,
        Nat.mod_mod]
      omega

theorem beBytes_mod (width value : Nat) : beBytes width (value % 256 ^ width) = beBytes width value := by
  induction width generalizing value with
  | zero => rfl
  | succ width ih =>
      simp only [beBytes, Nat.pow_succ']
      rw [Nat.mod_mul_right_div_self, ih, Nat.mod_mul_right_mod]

theorem beValue_injective {first second : Bytes} (lengthEq : first.length = second.length)
    (valueEq : beValue first = beValue second) : first = second := by
  induction first using List.reverseRecOn generalizing second with
  | nil => exact (List.eq_nil_of_length_eq_zero (by simpa using lengthEq.symm)).symm
  | append_singleton first byte ih =>
      obtain ⟨second, last, rfl⟩ : ∃ second' last, second = second' ++ [last] := by
        cases second using List.reverseRecOn with
        | nil => simp at lengthEq
        | append_singleton second' last _ => exact ⟨second', last, rfl⟩
      simp only [beValue_append_singleton] at valueEq
      have lowEq : byte.toNat = last.toNat := by
        have := uint8_toNat_lt byte; have := uint8_toNat_lt last; omega
      have highEq : beValue first = beValue second := by
        have := uint8_toNat_lt byte; have := uint8_toNat_lt last; omega
      rw [ih (by simpa using lengthEq) highEq, UInt8.toNat.inj lowEq]

theorem beBytes_beValue (bytes : Bytes) : beBytes bytes.length (beValue bytes) = bytes :=
  beValue_injective (by simp) (by rw [beValue_beBytes, Nat.mod_eq_of_lt (beValue_lt bytes)])

/-! ## `increment_nonce` -/

/-- The loop of `increment_nonce` over the bytes taken last first: each byte is incremented
with wrap-around, and the loop breaks at the first byte that does not become zero. -/
def incrementRev : Bytes → Bytes
  | [] => []
  | byte :: earlier =>
      if byte + 1 ≠ 0 then (byte + 1) :: earlier else (byte + 1) :: incrementRev earlier

/-- `increment_nonce`: the slice, iterated in reverse, advanced in place. -/
def incrementNonce (nonce : Bytes) : Bytes :=
  (incrementRev nonce.reverse).reverse

@[simp]
theorem incrementRev_length (bytes : Bytes) : (incrementRev bytes).length = bytes.length := by
  induction bytes with
  | nil => rfl
  | cons byte earlier ih => by_cases wraps : byte + 1 = 0 <;> simp [incrementRev, wraps, ih]

@[simp]
theorem incrementNonce_length (nonce : Bytes) : (incrementNonce nonce).length = nonce.length := by
  simp [incrementNonce]

/-- Read last byte first, the loop adds one with carry modulo `256 ^ length`. -/
theorem beValue_reverse_incrementRev (bytes : Bytes) :
    beValue (incrementRev bytes).reverse = (beValue bytes.reverse + 1) % 256 ^ bytes.length := by
  induction bytes with
  | nil => rfl
  | cons byte earlier ih =>
      have earlierBound := beValue_lt earlier.reverse
      rw [List.length_reverse] at earlierBound
      by_cases wraps : byte + 1 = 0
      · have top := (uint8_add_one_eq_zero_iff byte).mp wraps
        simp only [incrementRev, wraps, ne_eq, not_true_eq_false, if_false, beValue_reverse_cons,
          ih, List.length_cons, Nat.pow_succ', top]
        rw [UInt8.toNat_zero, Nat.zero_add, show 255 + 256 * beValue earlier.reverse + 1 =
          256 * (beValue earlier.reverse + 1) by omega, Nat.mul_mod_mul_left]
      · have below : byte.toNat < 255 := by
          have := uint8_toNat_lt byte
          have := (uint8_add_one_eq_zero_iff byte).not.mp wraps
          omega
        simp only [incrementRev, wraps, ne_eq, not_false_eq_true, if_true, beValue_reverse_cons,
          uint8_toNat_add_one, List.length_cons, Nat.pow_succ']
        generalize 256 ^ earlier.length = bound at earlierBound
        rw [Nat.mod_eq_of_lt (by omega : byte.toNat + 1 < 256),
          Nat.mod_eq_of_lt (by omega : byte.toNat + 256 * beValue earlier.reverse + 1 < 256 * bound)]
        omega

/-- `increment_nonce` is big-endian addition of one modulo `256 ^ length`. -/
theorem beValue_incrementNonce (nonce : Bytes) :
    beValue (incrementNonce nonce) = (beValue nonce + 1) % 256 ^ nonce.length := by
  have := beValue_reverse_incrementRev nonce.reverse
  rwa [List.reverse_reverse, List.length_reverse] at this

/-! ### The carry, byte by byte -/

/-- Read last byte first, a run of `0xFF`s wraps to zeros and the loop goes on past it. -/
theorem incrementRev_replicate_append (wrapped : Nat) (earlier : Bytes) :
    incrementRev (List.replicate wrapped 255 ++ earlier) =
      List.replicate wrapped 0 ++ incrementRev earlier := by
  induction wrapped with
  | zero => rfl
  | succ wrapped ih =>
      rw [List.replicate_succ, List.cons_append, incrementRev, if_neg (by decide), ih]
      rfl

/-- The first byte that does not wrap is incremented and the loop breaks there. -/
theorem incrementRev_cons_of_ne {byte : UInt8} (noWrap : byte ≠ 255) (earlier : Bytes) :
    incrementRev (byte :: earlier) = (byte + 1) :: earlier :=
  if_pos fun wraps => noWrap (UInt8.toNat.inj ((uint8_add_one_eq_zero_iff byte).mp wraps))

/-- `increment_nonce` on a slice of any length leaves the big-endian encoding of its value plus
one modulo `256 ^ length`: trailing `0xFF`s wrap to zero and the first other byte from the end
takes the carry. -/
theorem incrementNonce_big_endian (nonce : Bytes) :
    incrementNonce nonce = beBytes nonce.length ((beValue nonce + 1) % 256 ^ nonce.length) ∧
      (∀ (untouched : Bytes) (byte : UInt8) (wrapped : Nat),
        nonce = untouched ++ byte :: List.replicate wrapped 255 → byte ≠ 255 →
          incrementNonce nonce = untouched ++ (byte + 1) :: List.replicate wrapped 0) ∧
      (nonce = List.replicate nonce.length 255 →
        incrementNonce nonce = List.replicate nonce.length 0) := by
  refine ⟨?_, fun untouched byte wrapped split noWrap => ?_, fun allWrap => ?_⟩
  · have := beBytes_beValue (incrementNonce nonce)
    rw [incrementNonce_length, beValue_incrementNonce] at this
    exact this.symm
  · simp [split, incrementNonce, incrementRev_replicate_append, incrementRev_cons_of_ne noWrap]
  · rw [incrementNonce, allWrap, List.reverse_replicate, ← List.append_nil (List.replicate _ 255),
      incrementRev_replicate_append]
    simp [incrementRev]

/-! ## Twelve-byte nonces -/

/-- `NONCE_SIZE`. -/
def nonceSize : Nat := 12

theorem nonce_modulus : 256 ^ nonceSize = 2 ^ 96 := by decide

/-- The `[u8; NONCE_SIZE]` counters of `SecureConnection`: a byte array whose length is
fixed by its type. -/
structure Nonce where
  bytes : Bytes
  length_eq : bytes.length = nonceSize
deriving DecidableEq

namespace Nonce

/-- The counter as a number, reading the bytes big-endian. -/
def value (nonce : Nonce) : Nat := beValue nonce.bytes

/-- The counter after `increment_nonce`. -/
def increment (nonce : Nonce) : Nonce :=
  ⟨incrementNonce nonce.bytes, by rw [incrementNonce_length, nonce.length_eq]⟩

/-- The nonce whose big-endian value is `count` modulo `2 ^ 96`. -/
def ofNat (count : Nat) : Nonce :=
  ⟨beBytes nonceSize count, beBytes_length _ _⟩

@[simp]
theorem increment_bytes (nonce : Nonce) : nonce.increment.bytes = incrementNonce nonce.bytes :=
  rfl

theorem ext_bytes {first second : Nonce} (bytesEq : first.bytes = second.bytes) :
    first = second := by
  cases first; cases second; cases bytesEq; rfl

theorem value_lt (nonce : Nonce) : nonce.value < 2 ^ 96 := by
  have := beValue_lt nonce.bytes
  rwa [nonce.length_eq, nonce_modulus] at this

theorem eq_of_value_eq {first second : Nonce} (valueEq : first.value = second.value) :
    first = second :=
  ext_bytes (beValue_injective (first.length_eq.trans second.length_eq.symm) valueEq)

@[simp]
theorem value_ofNat (count : Nat) : (ofNat count).value = count % 2 ^ 96 := by
  rw [value, ofNat, beValue_beBytes, nonce_modulus]

@[simp]
theorem ofNat_value (nonce : Nonce) : ofNat nonce.value = nonce :=
  eq_of_value_eq (by rw [value_ofNat, Nat.mod_eq_of_lt nonce.value_lt])

theorem ofNat_eq_ofNat_iff (first second : Nat) :
    ofNat first = ofNat second ↔ first % 2 ^ 96 = second % 2 ^ 96 :=
  ⟨fun equal => by simpa using congrArg value equal, fun equal => eq_of_value_eq (by simpa using equal)⟩

theorem value_increment (nonce : Nonce) : nonce.increment.value = (nonce.value + 1) % 2 ^ 96 := by
  rw [value, increment_bytes, beValue_incrementNonce, nonce.length_eq, nonce_modulus]
  rfl

@[simp]
theorem increment_ofNat (count : Nat) : (ofNat count).increment = ofNat (count + 1) :=
  eq_of_value_eq (by simp [value_increment, Nat.add_mod])

theorem increment_eq_ofNat (nonce : Nonce) : nonce.increment = ofNat (nonce.value + 1) := by
  rw [← increment_ofNat, ofNat_value]

theorem ofNat_succ_eq_iff {first second : Nat} (equal : ofNat first = ofNat second) :
    ofNat (first + 1) = ofNat (second + 1) := by
  rw [← increment_ofNat, equal, increment_ofNat]

/-- After `steps` increments the counter has moved `steps` places, modulo `2 ^ 96`. -/
theorem iterate_increment (nonce : Nonce) (steps : Nat) :
    increment^[steps] nonce = ofNat (nonce.value + steps) := by
  induction steps with
  | zero => simp
  | succ steps ih => rw [Function.iterate_succ_apply', ih, increment_ofNat, Nat.add_assoc]

/-- The counter never stands still: `2 ^ 96` is more than one. -/
theorem increment_ne (nonce : Nonce) : nonce.increment ≠ nonce := fun same => by
  have := congrArg value same
  rw [value_increment] at this
  have := nonce.value_lt
  rcases Nat.lt_or_ge (nonce.value + 1) (2 ^ 96) with below | top
  · rw [Nat.mod_eq_of_lt below] at *; omega
  · omega

theorem ofNat_iterate_value_add (nonce : Nonce) (steps more : Nat) :
    ofNat ((increment^[steps] nonce).value + more) = ofNat (nonce.value + (steps + more)) := by
  rw [iterate_increment, ofNat_eq_ofNat_iff, value_ofNat, Nat.mod_add_mod, Nat.add_assoc]

end Nonce

end PortalTunnel
