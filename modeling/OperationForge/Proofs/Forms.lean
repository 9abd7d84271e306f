import Mathlib.Algebra.BigOperators.Fin
import Mathlib.Data.Nat.Bitwise
import Mathlib.Data.Nat.Size
import Mathlib.Tactic.Ring
import OperationForge.Proofs.Padding

/-!
# The forms of a natural number

A number is read from its shortest form and from the padded ones, and from nothing
else.  In every form its groups of seven bits add up to the number, and it makes no
difference whether they are added or joined bit by bit, since they do not overlap.
The shortest form takes up one byte for every seven bits that the number has.
-/

namespace OperationForge.Zarith

/-! ## Padded forms -/

theorem natOfGroups_append (front back : Bytes) :
    natOfGroups (front ++ back) = natOfGroups front + 128 ^ front.length * natOfGroups back := by
  induction front with
  | nil => simp [natOfGroups]
  | cons byte front ih =>
      simp only [List.cons_append, natOfGroups, ih, List.length_cons]
      ring

/-- The high bit of a byte is not part of its group. -/
theorem natOfGroups_prolong (groups : Bytes) :
    natOfGroups (prolong groups) = natOfGroups groups := by
  fun_induction prolong groups with
  | case1 => rfl
  | case2 last =>
      have group : (last.toNat ||| 128) % 2 ^ 7 = last.toNat % 2 ^ 7 := by
        rw [Nat.or_mod_two_pow, Nat.mod_self, Nat.or_zero]
      simpa [natOfGroups] using group
  | case3 byte rest more ih => simp [natOfGroups, ih]

theorem natOfGroups_zeros (count : Nat) :
    natOfGroups (List.replicate count 0x80 ++ [0x00]) = 0 := by
  induction count with
  | zero => rfl
  | succ count ih => simp [List.replicate_succ, natOfGroups, ih]

theorem Number.zeros (count : Nat) : Number (List.replicate count 0x80 ++ [0x00]) := by
  induction count with
  | zero => exact .last rfl
  | succ count ih => exact .more rfl ih

/-- With the high bit of its last byte set, a number goes on with another one. -/
theorem Number.prolong_append {groups tail : Bytes} (number : Number groups)
    (others : Number tail) : Number (prolong groups ++ tail) := by
  induction number with
  | @last byte _ =>
      have high : 128 ≤ (byte ||| 0x80).toNat := by
        rw [UInt8.toNat_or]
        exact Nat.right_le_or
      exact .more ((continues_eq_true_iff _).mpr high) others
  | @more byte rest goesOn number ih =>
      rw [prolong_cons byte number.ne_nil]
      exact .more goesOn ih

theorem number_pad {groups : Bytes} (number : Number groups) (count : Nat) :
    Number (pad groups count) := by
  cases count with
  | zero => exact number
  | succ count =>
      rw [pad, List.append_assoc]
      exact number.prolong_append (.zeros count)

theorem natOfGroups_pad (groups : Bytes) (count : Nat) :
    natOfGroups (pad groups count) = natOfGroups groups := by
  cases count with
  | zero => rfl
  | succ count =>
      rw [pad, List.append_assoc, natOfGroups_append, natOfGroups_zeros, natOfGroups_prolong,
        Nat.mul_zero, Nat.add_zero]

theorem exists_pad_iff (groups shortest : Bytes) :
    (∃ count, groups = pad shortest count) ↔
      groups = shortest ∨
        ∃ count, groups = prolong shortest ++ List.replicate count 0x80 ++ [0x00] := by
  constructor
  · intro form
    rcases form with ⟨_ | count, equal⟩
    · exact .inl equal
    · exact .inr ⟨count, equal⟩
  · intro form
    rcases form with equal | ⟨count, equal⟩
    · exact ⟨0, equal⟩
    · exact ⟨count + 1, equal⟩

theorem number_padded (number count : Nat) : Number (padded number count) :=
  number_pad (number_encodeNat number) count

theorem natOfGroups_padded (number count : Nat) :
    natOfGroups (padded number count) = number := by
  rw [padded, natOfGroups_pad, natOfGroups_encodeNat]

theorem decodeUnsigned_eq_ok_iff_padded (groups : Bytes) (number : Nat) :
    decodeUnsigned groups = .ok number ↔ ∃ count, groups = padded number count := by
  rw [decodeUnsigned_eq_ok_iff]
  constructor
  · intro form
    rcases form with ⟨form, equal⟩
    rw [← equal]
    exact form.eq_padded
  · intro form
    rcases form with ⟨count, equal⟩
    rw [equal]
    exact ⟨number_padded number count, natOfGroups_padded number count⟩

/-! ## Groups -/

theorem natOfGroups_eq_sum (groups : Bytes) :
    natOfGroups groups =
      ∑ index : Fin groups.length, groups[index].toNat % 128 * 128 ^ index.val := by
  induction groups with
  | nil => rfl
  | cons byte rest ih =>
      have higher (index : Fin rest.length) :
          (byte :: rest)[index.succ].toNat % 128 * 128 ^ index.succ.val =
            128 * (rest[index].toNat % 128 * 128 ^ index.val) := by
        simp only [Fin.getElem_fin, Fin.val_succ, List.getElem_cons_succ]
        ring
      have split := Fin.sum_univ_succ fun index : Fin (rest.length + 1) =>
        (byte :: rest)[index].toNat % 128 * 128 ^ index.val
      rw [natOfGroups, ih, Finset.mul_sum]
      refine Eq.trans ?_ split.symm
      simp only [higher]
      simp

/-- The groups, each shifted to its place, joined bit by bit. -/
def joinGroups (groups : Bytes) : Nat :=
  groups.zipIdx.foldl (fun number group =>
    number ||| (group.1.toNat &&& 0x7f) <<< (7 * group.2)) 0

/-- Groups never overlap: what is joined so far stays below the place of the next group. -/
theorem foldl_join (groups : Bytes) {number place : Nat} (below : number < 2 ^ (7 * place)) :
    (groups.zipIdx place).foldl (fun number group =>
      number ||| (group.1.toNat &&& 0x7f) <<< (7 * group.2)) number =
      number + 2 ^ (7 * place) * natOfGroups groups := by
  induction groups generalizing number place with
  | nil => simp [natOfGroups]
  | cons byte rest ih =>
      have group : byte.toNat &&& 0x7f = byte.toNat % 128 := Nat.and_two_pow_sub_one_eq_mod _ 7
      have join : number ||| (byte.toNat % 128) <<< (7 * place) =
          number + 2 ^ (7 * place) * (byte.toNat % 128) := by
        rw [Nat.shiftLeft_eq, Nat.or_comm, Nat.mul_comm, ← Nat.two_pow_add_eq_or_of_lt below,
          Nat.add_comm]
      have next : 2 ^ (7 * (place + 1)) = 2 ^ (7 * place) * 128 := by
        rw [Nat.mul_add, Nat.pow_add]
      have small : number + 2 ^ (7 * place) * (byte.toNat % 128) < 2 ^ (7 * (place + 1)) := by
        have last : byte.toNat % 128 ≤ 127 := by omega
        have most := Nat.mul_le_mul_left (2 ^ (7 * place)) last
        omega
      rw [List.zipIdx_cons, List.foldl_cons, group, join, ih small, next, natOfGroups]
      ring

theorem joinGroups_eq (groups : Bytes) : joinGroups groups = natOfGroups groups := by
  have below : 0 < 2 ^ (7 * 0) := by decide
  rw [joinGroups, foldl_join groups below]
  simp

/-- Writing takes a group off the low end until no bit is left above it. -/
theorem encodeNat_eq_shift (number : Nat) :
    encodeNat number =
      if (number >>> 7).size = 0 then [UInt8.ofNat (number &&& 0x7f)]
      else (UInt8.ofNat (number &&& 0x7f) ||| 0x80) :: encodeNat (number >>> 7) := by
  have group : number &&& 0x7f = number % 128 := Nat.and_two_pow_sub_one_eq_mod _ 7
  have higher : number >>> 7 = number / 128 := Nat.shiftRight_eq_div_pow number 7
  simp only [Nat.size_eq_zero, group, higher]
  rw [encodeNat]
  by_cases small : number < 128
  · rw [if_pos small, if_pos (Nat.div_eq_of_lt small), Nat.mod_eq_of_lt small]
  · have first : (UInt8.ofNat (number % 128 + 128)).toNat = number % 128 + 128 := by
      rw [UInt8.toNat_ofNat']
      omega
    have goesOn : continues (UInt8.ofNat (number % 128 + 128)) = true := by
      rw [continues_eq_true_iff, first]
      exact Nat.le_add_left 128 _
    have marked := or_high_bit goesOn
    rw [first, Nat.add_mod_right, Nat.mod_mod] at marked
    rw [if_neg small, if_neg (by omega), marked]

/-! ## Lengths -/

/-- Shifting a number takes as many bits off its length. -/
theorem size_div_two_pow (number places : Nat) :
    (number / 2 ^ places).size = number.size - places := by
  apply eq_of_forall_ge_iff
  intro bound
  rw [Nat.size_le, Nat.div_lt_iff_lt_mul (Nat.two_pow_pos places), ← Nat.pow_add,
    ← Nat.size_le, Nat.sub_le_iff_le_add]

/-- One byte for every seven bits, rounded up, and one byte for zero. -/
theorem length_encodeNat (number : Nat) :
    (encodeNat number).length = max 1 ((number.size + 6) / 7) := by
  fun_induction encodeNat number with
  | case1 number small =>
      have bits : number.size ≤ 7 := Nat.size_le.mpr small
      rw [List.length_singleton]
      omega
  | case2 number large ih =>
      have bits : 7 < number.size := Nat.lt_size.mpr (Nat.le_of_not_lt large)
      have fewer : (number / 128).size = number.size - 7 := size_div_two_pow number 7
      rw [List.length_cons, ih, fewer]
      omega

theorem eq_encodeNat_of_length {groups : Bytes} {number : Nat}
    (decoded : decodeUnsigned groups = .ok number)
    (short : groups.length ≤ (encodeNat number).length) : groups = encodeNat number := by
  rcases (decodeUnsigned_eq_ok_iff_padded groups number).mp decoded with ⟨count, equal⟩
  rw [equal, length_padded] at short
  have none : count = 0 := by omega
  rw [equal, none, padded, pad]

/-- A number is read from its shortest form, from that form continued with any count of
zeros, and from nothing else.  So reading undoes writing, and what is read is the sum of
the groups, joined or added, as what is written is cut off the number by shifts.  No
other form is as short as the one that is written, whose length is that of the number in
bits, cut into sevens. -/
theorem decodeUnsigned_forms :
    (∀ groups number, decodeUnsigned groups = .ok number ↔
      groups = encodeNat number ∨
        ∃ count, groups = prolong (encodeNat number) ++ List.replicate count 0x80 ++ [0x00]) ∧
    (∀ number, decodeUnsigned (encodeNat number) = .ok number) ∧
    (∀ groups number, decodeUnsigned groups = .ok number →
      number = ∑ index : Fin groups.length, groups[index].toNat % 128 * 128 ^ index.val ∧
        number = joinGroups groups) ∧
    (∀ groups number, decodeUnsigned groups = .ok number →
      (encodeNat number).length ≤ groups.length ∧
        (groups.length ≤ (encodeNat number).length → groups = encodeNat number)) ∧
    (∀ number, encodeNat number =
      if (number >>> 7).size = 0 then [UInt8.ofNat (number &&& 0x7f)]
      else (UInt8.ofNat (number &&& 0x7f) ||| 0x80) :: encodeNat (number >>> 7)) ∧
    ∀ number, (encodeNat number).length = max 1 ((number.size + 6) / 7) := by
  have forms (groups : Bytes) (number : Nat) : decodeUnsigned groups = .ok number ↔
      groups = encodeNat number ∨
        ∃ count, groups = prolong (encodeNat number) ++ List.replicate count 0x80 ++ [0x00] :=
    (decodeUnsigned_eq_ok_iff_padded groups number).trans (exists_pad_iff groups (encodeNat number))
  refine ⟨forms, ?_, ?_, ?_, encodeNat_eq_shift, length_encodeNat⟩
  · intro number
    exact (forms _ number).mpr (.inl rfl)
  · intro groups number decoded
    have value := ((decodeUnsigned_eq_ok_iff groups number).mp decoded).2
    rw [← natOfGroups_eq_sum, joinGroups_eq]
    exact ⟨value.symm, value.symm⟩
  · intro groups number decoded
    have form := (decodeUnsigned_eq_ok_iff groups number).mp decoded
    refine ⟨?_, eq_encodeNat_of_length decoded⟩
    rw [← form.2]
    exact form.1.length_encodeNat_le

/-- Two forms of one number, the shortest and one with two groups of zeros behind it. -/
theorem paddedNumber_forms :
    encodeNat 321 = [0xc1, 0x02] ∧
      decodeUnsigned [0xc1, 0x82, 0x80, 0x00] = .ok 321 ∧
      joinGroups [0xc1, 0x82, 0x80, 0x00] = 321 ∧
      (encodeNat 321).length ≤ 4 := by
  rcases decodeUnsigned_forms with ⟨forms, -, groups, lengths, -, -⟩
  have shortest : encodeNat 321 = [0xc1, 0x02] := by decide +kernel
  have padded : decodeUnsigned [0xc1, 0x82, 0x80, 0x00] = .ok 321 := by
    apply (forms _ _).mpr
    rw [shortest]
    exact .inr ⟨1, rfl⟩
  exact ⟨shortest, padded, (groups _ _ padded).2.symm, (lengths _ _ padded).1⟩

end OperationForge.Zarith
