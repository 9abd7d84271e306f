import OperationForge.Proofs.Forms
import OperationForge.Zarith.Integer

/-!
# The forms of an integer

The first byte of an integer holds a sign and six bits of the magnitude, and the bytes
behind it are the other bits as a natural number of their own.  Every integer is read
from its shortest form and from the padded ones.  Zero is read from these with the sign
bit set as well, which no other integer is, and nothing else is read at all.
-/

namespace OperationForge.Zarith

theorem number_encodeSigned (number : Int) : Number (encodeSigned number) := by
  have below := signedHead_lt number
  unfold encodeSigned
  split
  · apply Number.last
    rw [continues_eq_false_iff, UInt8.toNat_ofNat']
    omega
  · refine .more ?_ (number_encodeNat _)
    rw [continues_eq_true_iff, UInt8.toNat_ofNat']
    omega

theorem decodeSigned_eq_ok_iff (groups : Bytes) (number : Int) :
    decodeSigned groups = .ok number ↔ Number groups ∧ intOfGroups groups = number := by
  rw [Number.iff_isNumber, decodeSigned]
  split <;> simp_all

/-! ## Magnitude and sign -/

theorem natAbs_intOfGroups (byte : UInt8) (rest : Bytes) :
    (intOfGroups (byte :: rest)).natAbs = byte.toNat % 64 + 64 * natOfGroups rest := by
  rw [intOfGroups]
  split <;> omega

/-- The bytes with the sign bit of the first one set. -/
def setSign : Bytes → Bytes
  | [] => []
  | byte :: rest => (byte ||| 0x40) :: rest

/-- The sign bit is not part of the magnitude. -/
theorem natAbs_setSign (groups : Bytes) :
    (intOfGroups (setSign groups)).natAbs = (intOfGroups groups).natAbs := by
  cases groups with
  | nil => rfl
  | cons byte rest =>
      have low : (byte.toNat ||| 64) % 2 ^ 6 = byte.toNat % 2 ^ 6 := by
        rw [Nat.or_mod_two_pow, Nat.mod_self, Nat.or_zero]
      rw [setSign, natAbs_intOfGroups, natAbs_intOfGroups, UInt8.toNat_or]
      exact congrArg (· + 64 * natOfGroups rest) low

/-- The sign bit does not tell whether a number goes on. -/
theorem continues_setSign (byte : UInt8) : continues (byte ||| 0x40) = continues byte := by
  have high : (byte.toNat ||| 64) / 2 ^ 7 = byte.toNat / 2 ^ 7 := by
    rw [Nat.or_div_two_pow]
    exact Nat.or_zero _
  have sum : (byte ||| 0x40).toNat = byte.toNat ||| 64 := UInt8.toNat_or byte 0x40
  rw [Bool.eq_iff_iff, continues_eq_true_iff, continues_eq_true_iff, sum]
  omega

theorem number_setSign {groups : Bytes} (number : Number groups) : Number (setSign groups) := by
  cases number with
  | @last byte ends => exact .last ((continues_setSign byte).trans ends)
  | @more byte rest goesOn number => exact .more ((continues_setSign byte).trans goesOn) number

/-! ## Padded forms -/

theorem intOfGroups_pad {groups : Bytes} (number : Number groups) (count : Nat) :
    intOfGroups (pad groups count) = intOfGroups groups := by
  cases number with
  | @more byte rest _ number =>
      rw [pad_cons byte number.ne_nil, intOfGroups, natOfGroups_pad]
      rfl
  | @last byte ends =>
      cases count with
      | zero => rfl
      | succ count =>
          -- The high bit is set in front of zeros, and it is no part of sign or magnitude.
          have low : (byte.toNat ||| 128) % 2 ^ 7 = byte.toNat % 2 ^ 7 := by
            rw [Nat.or_mod_two_pow, Nat.mod_self, Nat.or_zero]
          have sum : (byte ||| 0x80).toNat = byte.toNat ||| 128 := UInt8.toNat_or byte 0x80
          have magnitude : (byte ||| 0x80).toNat % 64 = byte.toNat % 64 := by omega
          have sign : (byte ||| 0x80).toNat / 64 % 2 = byte.toNat / 64 % 2 := by omega
          rw [pad, prolong, List.append_assoc, List.singleton_append, intOfGroups,
            natOfGroups_zeros, magnitude, sign]
          rfl

/-- The shortest form of what groups stand for, unless that is zero with a sign. -/
theorem encodeSigned_intOfGroups {byte : UInt8} {rest : Bytes}
    (proper : ¬(byte.toNat % 128 = 64 ∧ natOfGroups rest = 0)) :
    encodeSigned (intOfGroups (byte :: rest)) =
      if natOfGroups rest = 0 then [UInt8.ofNat (byte.toNat % 128)]
      else UInt8.ofNat (byte.toNat % 128 + 128) :: encodeNat (natOfGroups rest) := by
  have magnitude := natAbs_intOfGroups byte rest
  have head : signedHead (intOfGroups (byte :: rest)) = byte.toNat % 128 := by
    rw [signedHead, magnitude, intOfGroups]
    split <;> split <;> omega
  have higher : (intOfGroups (byte :: rest)).natAbs / 64 = natOfGroups rest := by omega
  rw [encodeSigned, head, higher]
  by_cases small : natOfGroups rest = 0
  · rw [if_pos small, if_pos (by omega)]
  · rw [if_neg small, if_neg (by omega)]

/-- Where the groups behind the first one are zeros, that one is the shortest form, or it
is zero with a sign. -/
theorem exists_pad_of_zeros {byte : UInt8} {rest : Bytes} (goesOn : continues byte = true)
    (number : Number rest) (zero : natOfGroups rest = 0) :
    (∃ count, byte :: rest = pad (encodeSigned (intOfGroups (byte :: rest))) count) ∨
      intOfGroups (byte :: rest) = 0 ∧
        ∃ count, byte :: rest = setSign (pad (encodeSigned 0) count) := by
  have high := (continues_eq_true_iff byte).mp goesOn
  have below := byte.toNat_lt
  rcases number.eq_padded with ⟨count, form⟩
  rw [zero, padded_zero] at form
  by_cases signed : byte.toNat % 128 = 64
  · obtain rfl : byte = 0xc0 := UInt8.toNat_inj.mp (by change byte.toNat = 192; omega)
    right
    refine ⟨?_, count + 1, ?_⟩
    · rw [← Int.natAbs_eq_zero, natAbs_intOfGroups, zero]
      rfl
    · rw [form]
      rfl
  · left
    have proper : ¬(byte.toNat % 128 = 64 ∧ natOfGroups rest = 0) := fun both => signed both.1
    refine ⟨count + 1, ?_⟩
    rw [encodeSigned_intOfGroups proper, if_pos zero, pad, prolong, or_high_bit goesOn, form]
    rfl

/-- Groups are a padded form of what they stand for, or a padded form of zero with the
sign bit set. -/
theorem Number.exists_pad {groups : Bytes} (number : Number groups) :
    (∃ count, groups = pad (encodeSigned (intOfGroups groups)) count) ∨
      intOfGroups groups = 0 ∧ ∃ count, groups = setSign (pad (encodeSigned 0) count) := by
  cases number with
  | @last byte ends =>
      have small := (continues_eq_false_iff byte).mp ends
      by_cases signed : byte.toNat = 64
      · obtain rfl : byte = 0x40 := UInt8.toNat_inj.mp signed
        exact .inr ⟨rfl, 0, rfl⟩
      · left
        have proper : ¬(byte.toNat % 128 = 64 ∧ natOfGroups [] = 0) := by omega
        refine ⟨0, ?_⟩
        rw [encodeSigned_intOfGroups proper, pad, natOfGroups, if_pos rfl, Nat.mod_eq_of_lt small,
          UInt8.ofNat_toNat]
  | @more byte rest goesOn number =>
      by_cases zero : natOfGroups rest = 0
      · exact exists_pad_of_zeros goesOn number zero
      · left
        have high := (continues_eq_true_iff byte).mp goesOn
        have below := byte.toNat_lt
        have first : byte.toNat % 128 + 128 = byte.toNat := by omega
        have proper : ¬(byte.toNat % 128 = 64 ∧ natOfGroups rest = 0) := fun both => zero both.2
        rcases number.eq_padded with ⟨count, form⟩
        refine ⟨count, ?_⟩
        rw [encodeSigned_intOfGroups proper, if_neg zero, first, UInt8.ofNat_toNat,
          pad_cons byte (encodeNat_ne_nil _), ← padded, ← form]

theorem setSign_pad_zero (count : Nat) :
    setSign (pad (encodeSigned 0) count) = pad [0x40] count := by
  cases count <;> rfl

/-- The bytes are the shortest form itself or a padded one. -/
def PaddedForm (shortest groups : Bytes) : Prop :=
  groups = shortest ∨ ∃ count, groups = prolong shortest ++ List.replicate count 0x80 ++ [0x00]

theorem paddedForm_iff (shortest groups : Bytes) :
    PaddedForm shortest groups ↔ ∃ count, groups = pad shortest count :=
  (exists_pad_iff groups shortest).symm

theorem decodeSigned_pad (number : Int) (count : Nat) :
    decodeSigned (pad (encodeSigned number) count) = .ok number := by
  have form := number_encodeSigned number
  rw [decodeSigned_eq_ok_iff, intOfGroups_pad form, intOfGroups_encodeSigned]
  exact ⟨number_pad form count, rfl⟩

/-- Zero stays zero with a sign. -/
theorem decodeSigned_setSign {groups : Bytes} (decoded : decodeSigned groups = .ok 0) :
    decodeSigned (setSign groups) = .ok 0 := by
  rcases (decodeSigned_eq_ok_iff groups 0).mp decoded with ⟨number, zero⟩
  rw [decodeSigned_eq_ok_iff]
  refine ⟨number_setSign number, Int.natAbs_eq_zero.mp ?_⟩
  rw [natAbs_setSign, zero]
  rfl

theorem decodeSigned_eq_ok_iff_paddedForm (groups : Bytes) (number : Int) :
    decodeSigned groups = .ok number ↔
      PaddedForm (encodeSigned number) groups ∨
        number = 0 ∧ ∃ plain, PaddedForm (encodeSigned 0) plain ∧ groups = setSign plain := by
  simp only [paddedForm_iff]
  constructor
  · intro decoded
    rcases (decodeSigned_eq_ok_iff groups number).mp decoded with ⟨form, rfl⟩
    rcases form.exists_pad with padded | ⟨zero, count, equal⟩
    · exact .inl padded
    · exact .inr ⟨zero, _, ⟨count, rfl⟩, equal⟩
  · intro form
    rcases form with ⟨count, equal⟩ | ⟨zero, plain, ⟨count, padded⟩, equal⟩
    · rw [equal]
      exact decodeSigned_pad number count
    · rw [equal, padded, zero]
      exact decodeSigned_setSign (decodeSigned_pad 0 count)

/-! ## The shortest form -/

/-- Whether the bytes are a single one that is not zero with a sign, or more than one of
which the last is not zero. -/
def IsShortestSigned (groups : Bytes) : Prop :=
  groups.length = 1 ∧ groups ≠ [0x40] ∨ 1 < groups.length ∧ groups.getLast? ≠ some 0x00

theorem isShortestSigned_encodeSigned (number : Int) : IsShortestSigned (encodeSigned number) := by
  rw [encodeSigned]
  split
  · next small =>
      refine .inl ⟨rfl, ?_⟩
      intro signed
      have value := congrArg UInt8.toNat (List.singleton_inj.mp signed)
      rw [UInt8.toNat_ofNat', signedHead] at value
      split at value <;> simp at value <;> omega
  · next large =>
      have more := encodeNat_ne_nil (number.natAbs / 64)
      have positive := List.length_pos_of_ne_nil more
      refine .inr ⟨Nat.lt_add_of_pos_left positive, ?_⟩
      rw [List.getLast?_cons_of_ne_nil more]
      exact getLast?_encodeNat (by omega)

theorem not_isShortestSigned_pad {groups : Bytes} (more : groups ≠ []) (count : Nat) :
    ¬IsShortestSigned (pad groups (count + 1)) := by
  intro shortest
  rw [IsShortestSigned, length_pad] at shortest
  have positive := List.length_pos_of_ne_nil more
  rcases shortest with ⟨single, -⟩ | ⟨-, nonzero⟩
  · omega
  · exact nonzero (List.getLast?_concat ..)

/-- The first and the last byte tell the shortest form, which is the one that is written. -/
theorem encodeSigned_eq_iff {groups : Bytes} {number : Int}
    (decoded : decodeSigned groups = .ok number) :
    encodeSigned number = groups ↔ IsShortestSigned groups := by
  constructor
  · intro written
    rw [← written]
    exact isShortestSigned_encodeSigned number
  · intro shortest
    rcases (decodeSigned_eq_ok_iff groups number).mp decoded with ⟨form, rfl⟩
    rcases form.exists_pad with ⟨count, equal⟩ | ⟨-, count, equal⟩
    · cases count with
      | zero => exact equal.symm
      | succ count =>
          rw [equal] at shortest
          exact absurd shortest (not_isShortestSigned_pad (number_encodeSigned _).ne_nil count)
    · rw [equal, setSign_pad_zero] at shortest
      cases count with
      | zero =>
          have refused : ¬IsShortestSigned [0x40] := by simp [IsShortestSigned]
          exact absurd shortest refused
      | succ count => exact absurd shortest (not_isShortestSigned_pad (by simp) count)

/-! ## Bits -/

/-- The groups, each shifted to its place from the given one on, joined bit by bit. -/
def joinGroupsAt (place : Nat) (groups : Bytes) : Nat :=
  groups.zipIdx.foldl (fun number group =>
    number ||| (group.1.toNat &&& 0x7f) <<< (place + 7 * group.2)) 0

theorem joinGroupsAt_eq (place : Nat) (groups : Bytes) :
    joinGroupsAt place groups = natOfGroups groups <<< place := by
  have step (number : Nat) (group : UInt8 × Nat) :
      number <<< place ||| (group.1.toNat &&& 0x7f) <<< (place + 7 * group.2) =
        (number ||| (group.1.toNat &&& 0x7f) <<< (7 * group.2)) <<< place := by
    rw [Nat.shiftLeft_or_distrib, ← Nat.shiftLeft_add, Nat.add_comm]
  have shifted : groups.zipIdx.foldl (fun number group =>
      number ||| (group.1.toNat &&& 0x7f) <<< (place + 7 * group.2)) (0 <<< place) =
        joinGroups groups <<< place :=
    List.foldl_hom (· <<< place) step
  rw [Nat.zero_shiftLeft] at shifted
  rw [joinGroupsAt, shifted, joinGroups_eq]

/-- The low six bits, the bits from the seventh on, and the sign between them. -/
theorem intOfGroups_eq_join (byte : UInt8) (rest : Bytes) :
    intOfGroups (byte :: rest) =
      let magnitude := (byte.toNat &&& 0x3f) ||| joinGroupsAt 6 rest
      if byte &&& 0x40 = 0 then (magnitude : Int) else -magnitude := by
  have low : byte.toNat &&& 0x3f = byte.toNat % 64 := Nat.and_two_pow_sub_one_eq_mod _ 6
  have below : byte.toNat % 64 < 2 ^ 6 := Nat.mod_lt _ (by decide)
  have join : (byte.toNat &&& 0x3f) ||| joinGroupsAt 6 rest =
      byte.toNat % 64 + 64 * natOfGroups rest := by
    rw [low, joinGroupsAt_eq, Nat.or_comm, ← Nat.shiftLeft_add_eq_or_of_lt below, Nat.shiftLeft_eq]
    omega
  have clear : byte &&& 0x40 = 0 ↔ byte.toNat / 64 % 2 = 0 := by
    have same : (byte &&& 0x40).toNat = byte.toNat &&& 64 := UInt8.toNat_and byte 0x40
    have higher : (byte.toNat &&& 64) / 2 ^ 6 = byte.toNat / 64 % 2 := by
      rw [Nat.and_div_two_pow]
      exact Nat.and_one_is_mod _
    have lower : (byte.toNat &&& 64) % 2 ^ 6 = 0 := by
      rw [Nat.and_mod_two_pow, Nat.mod_self, Nat.and_zero]
    rw [← UInt8.toNat_inj, same, UInt8.toNat_zero]
    omega
  simp only [intOfGroups, join, clear]
  split <;> split <;> omega

theorem signedHead_eq_or (number : Int) :
    UInt8.ofNat (signedHead number) =
      UInt8.ofNat (number.natAbs &&& 0x3f) ||| if number < 0 then 0x40 else 0x00 := by
  have low : number.natAbs &&& 0x3f = number.natAbs % 64 := Nat.and_two_pow_sub_one_eq_mod _ 6
  rw [low, signedHead]
  split
  · have below : number.natAbs % 64 < 2 ^ 6 := Nat.mod_lt _ (by decide)
    have join : 64 + number.natAbs % 64 = 64 ||| number.natAbs % 64 :=
      Nat.two_pow_add_eq_or_of_lt below 1
    rw [Nat.add_comm, join, Nat.or_comm]
    exact UInt8.ofNat_or ..
  · rw [Nat.add_zero, UInt8.or_zero]

/-- Writing puts the low six bits and the sign into the first byte, and the bits above
them behind it as a natural number. -/
theorem encodeSigned_eq_shift (number : Int) :
    encodeSigned number =
      let first := UInt8.ofNat (number.natAbs &&& 0x3f) ||| if number < 0 then 0x40 else 0x00
      if (number.natAbs >>> 6).size = 0 then [first]
      else (first ||| 0x80) :: encodeNat (number.natAbs >>> 6) := by
  have higher : number.natAbs >>> 6 = number.natAbs / 64 := Nat.shiftRight_eq_div_pow _ 6
  simp only [Nat.size_eq_zero, higher, ← signedHead_eq_or]
  rw [encodeSigned]
  by_cases small : number.natAbs < 64
  · rw [if_pos small, if_pos (Nat.div_eq_of_lt small)]
  · have below : signedHead number < 2 ^ 7 := signedHead_lt number
    have mark : signedHead number + 128 = signedHead number ||| 128 := by
      rw [Nat.add_comm, Nat.or_comm]
      exact Nat.two_pow_add_eq_or_of_lt below 1
    rw [if_neg small, if_neg (by omega), mark]
    exact congrArg (· :: _) (UInt8.ofNat_or ..)

/-- An integer is read from its shortest form and from the padded ones, zero from these
with the sign bit set as well, and nothing else is read.  So reading undoes writing, and
writing what was read gives the same bytes unless they were padded or zero with a sign.
The magnitude is joined from the six low bits and the groups behind, and written by
cutting it there. -/
theorem decodeSigned_forms :
    (∀ groups number, decodeSigned groups = .ok number ↔
      PaddedForm (encodeSigned number) groups ∨
        number = 0 ∧ ∃ plain, PaddedForm (encodeSigned 0) plain ∧ groups = setSign plain) ∧
    (∀ number, decodeSigned (encodeSigned number) = .ok number) ∧
    (∀ plain, PaddedForm (encodeSigned 0) plain → decodeSigned (setSign plain) = .ok 0) ∧
    (∀ groups number, decodeSigned groups = .ok number →
      (encodeSigned number = groups ↔ IsShortestSigned groups)) ∧
    (∀ byte rest, Number (byte :: rest) → decodeSigned (byte :: rest) = .ok (
      let magnitude := (byte.toNat &&& 0x3f) ||| joinGroupsAt 6 rest
      if byte &&& 0x40 = 0 then (magnitude : Int) else -magnitude)) ∧
    ∀ number, encodeSigned number =
      let first := UInt8.ofNat (number.natAbs &&& 0x3f) ||| if number < 0 then 0x40 else 0x00
      if (number.natAbs >>> 6).size = 0 then [first]
      else (first ||| 0x80) :: encodeNat (number.natAbs >>> 6) := by
  refine ⟨decodeSigned_eq_ok_iff_paddedForm, ?_, ?_, ?_, ?_, encodeSigned_eq_shift⟩
  · intro number
    exact (decodeSigned_eq_ok_iff_paddedForm _ number).mpr (.inl (.inl rfl))
  · intro plain padded
    exact (decodeSigned_eq_ok_iff_paddedForm _ 0).mpr (.inr ⟨rfl, plain, padded, rfl⟩)
  · intro groups number decoded
    exact encodeSigned_eq_iff decoded
  · intro byte rest number
    exact (decodeSigned_eq_ok_iff _ _).mpr ⟨number, intOfGroups_eq_join byte rest⟩

/-- A negative number with a group of zeros behind it, and zero with a sign. -/
theorem paddedDebt_forms :
    decodeSigned [0x41] = .ok (-1) ∧
      decodeSigned [0xc1, 0x80, 0x00] = .ok (-1) ∧
      encodeSigned (-1) ≠ [0xc1, 0x80, 0x00] ∧
      decodeSigned [0xc0, 0x00] = .ok 0 := by
  rcases decodeSigned_forms with ⟨forms, -, signed, shortest, joined, -⟩
  have written : encodeSigned (-1) = [0x41] := by decide +kernel
  have padded : decodeSigned [0xc1, 0x80, 0x00] = .ok (-1) := by
    apply (forms _ _).mpr
    rw [written]
    exact .inl (.inr ⟨1, rfl⟩)
  refine ⟨joined 0x41 [] (.last rfl), padded, ?_, signed [0x80, 0x00] (.inr ⟨0, rfl⟩)⟩
  rw [Ne, shortest _ _ padded]
  simp [IsShortestSigned]

end OperationForge.Zarith
