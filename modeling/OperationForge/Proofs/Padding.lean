import OperationForge.Proofs.Readers
import OperationForge.Zarith.Natural

/-!
# Shortest and padded numbers

A natural number is read from its shortest form, and from every longer form that
continues the shortest one with groups of zeros.  This module shows that there are
no other forms, and that the last byte tells whether a form is the shortest.
-/

namespace OperationForge.Zarith

theorem continues_eq_true_iff (byte : UInt8) : continues byte = true ↔ 128 ≤ byte.toNat := by
  simp [continues, UInt8.le_iff_toNat_le]

theorem continues_eq_false_iff (byte : UInt8) : continues byte = false ↔ byte.toNat < 128 := by
  simp [continues, UInt8.le_iff_toNat_le]

theorem isNumber_cons (byte : UInt8) {rest : Bytes} (more : rest ≠ []) :
    isNumber (byte :: rest) = (continues byte && isNumber rest) := by
  cases rest with
  | nil => contradiction
  | cons next rest =>
      rw [isNumber, isNumber, List.getLast?_cons_cons, List.getLast?_eq_some_getLast more,
        List.dropLast_cons_cons, List.all_cons]
      exact Bool.and_left_comm ..

/-- The bytes of one number: the last byte ends it, and no byte before does. -/
inductive Number : Bytes → Prop where
  | last {byte : UInt8} : continues byte = false → Number [byte]
  | more {byte : UInt8} {rest : Bytes} :
      continues byte = true → Number rest → Number (byte :: rest)

namespace Number

theorem ne_nil {groups : Bytes} (number : Number groups) : groups ≠ [] := by
  cases number <;> simp

/-- The inductive description agrees with the check of whole byte strings. -/
theorem iff_isNumber (groups : Bytes) : Number groups ↔ isNumber groups = true := by
  constructor
  · intro number
    induction number with
    | last ends => simp [isNumber, ends]
    | more goesOn number ih =>
        rw [isNumber_cons _ number.ne_nil, goesOn, ih]
        rfl
  · intro accepted
    induction groups with
    | nil => cases accepted
    | cons byte rest ih =>
        by_cases alone : rest = []
        · subst rest
          exact .last (by simpa [isNumber] using accepted)
        · rw [isNumber_cons byte alone, Bool.and_eq_true] at accepted
          exact .more accepted.1 (ih accepted.2)

end Number

theorem decodeUnsigned_eq_ok_iff (groups : Bytes) (number : Nat) :
    decodeUnsigned groups = .ok number ↔ Number groups ∧ natOfGroups groups = number := by
  rw [Number.iff_isNumber, decodeUnsigned]
  split <;> simp_all

/-! ## Reading -/

/-- A reader of groups takes one number and nothing behind it. -/
theorem readGroups_recognizes :
    readGroups.Recognizes fun groups used => used = groups ∧ Number groups := by
  intro input groups rest
  change scan input = ⟨.ok groups, rest⟩ ↔ _
  constructor
  · intro scanned
    induction input generalizing groups with
    | nil => cases scanned
    | cons byte tail ih =>
        unfold scan at scanned
        split at scanned
        · next goesOn =>
            cases answer : scan tail with
            | mk outcome left =>
                rw [answer] at scanned
                cases outcome with
                | error _ => cases scanned
                | ok others =>
                    cases scanned
                    rcases ih others answer with ⟨used, ⟨rfl, number⟩, rfl⟩
                    exact ⟨byte :: used, ⟨rfl, .more goesOn number⟩, rfl⟩
        · next ends =>
            cases scanned
            exact ⟨[byte], ⟨rfl, .last (by simpa using ends)⟩, rfl⟩
  · intro spelled
    rcases spelled with ⟨used, ⟨rfl, number⟩, rfl⟩
    induction number with
    | last ends => simp [scan, ends]
    | more goesOn number ih =>
        rw [List.cons_append, scan, if_pos goesOn, ih]
        rfl

/-- What the groups of a number stand for is read from any byte string that is one. -/
theorem groups_recognizes {α : Type} (meaning : Bytes → α) :
    (meaning <$> readGroups).Recognizes fun value used =>
      Number used ∧ meaning used = value := by
  apply (readGroups_recognizes.map meaning).congr
  intro value used
  constructor
  · intro spelled
    rcases spelled with ⟨groups, ⟨rfl, number⟩, rfl⟩
    exact ⟨number, rfl⟩
  · intro spelled
    rcases spelled with ⟨number, rfl⟩
    exact ⟨used, ⟨rfl, number⟩, rfl⟩

theorem natural_recognizes :
    natural.read.Recognizes fun number used => Number used ∧ natOfGroups used = number :=
  groups_recognizes natOfGroups

theorem number_encodeNat (number : Nat) : Number (encodeNat number) := by
  fun_induction encodeNat number with
  | case1 number small =>
      apply Number.last
      rw [continues_eq_false_iff, UInt8.toNat_ofNat']
      omega
  | case2 number large ih =>
      refine .more ?_ ih
      rw [continues_eq_true_iff, UInt8.toNat_ofNat']
      omega

/-! ## Padding -/

/-- The groups with the high bit of the last one set, so that more can follow. -/
def prolong : Bytes → Bytes
  | [] => []
  | [last] => [last ||| 0x80]
  | byte :: rest => byte :: prolong rest

/-- The groups, and `count` groups of zeros behind them. -/
def pad (groups : Bytes) : (count : Nat) → Bytes
  | 0 => groups
  | count + 1 => prolong groups ++ List.replicate count 0x80 ++ [0x00]

/-- The form of a number that ends in `count` groups of zeros more than needed. -/
def padded (number count : Nat) : Bytes := pad (encodeNat number) count

/-- The byte strings are forms of one number: the shortest form, each with some
groups of zeros more than needed. -/
def PaddedAlike (left right : Bytes) : Prop :=
  ∃ number leftCount rightCount,
    left = padded number leftCount ∧ right = padded number rightCount

/-- Whether the form of a number is the shortest one: it is a single byte, or does
not end in a group of zeros. -/
def IsShortest (groups : Bytes) : Prop :=
  groups.length = 1 ∨ groups.getLast? ≠ some 0x00

instance (groups : Bytes) : Decidable (IsShortest groups) :=
  inferInstanceAs (Decidable (_ ∨ _))

@[simp] theorem length_prolong (groups : Bytes) : (prolong groups).length = groups.length := by
  fun_induction prolong groups with
  | case1 => rfl
  | case2 => rfl
  | case3 byte rest more ih => simp [ih]

theorem prolong_cons (byte : UInt8) {rest : Bytes} (more : rest ≠ []) :
    prolong (byte :: rest) = byte :: prolong rest := by
  cases rest with
  | nil => contradiction
  | cons next rest => rfl

@[simp] theorem length_pad (groups : Bytes) (count : Nat) :
    (pad groups count).length = groups.length + count := by
  cases count with
  | zero => rfl
  | succ count => simp [pad]

@[simp] theorem length_padded (number count : Nat) :
    (padded number count).length = (encodeNat number).length + count :=
  length_pad (encodeNat number) count

theorem pad_cons (byte : UInt8) {rest : Bytes} (more : rest ≠ []) (count : Nat) :
    pad (byte :: rest) count = byte :: pad rest count := by
  cases count with
  | zero => rfl
  | succ count =>
      rw [pad, prolong_cons byte more]
      rfl

/-- A byte that calls for more is its group of seven bits with the high bit set. -/
theorem or_high_bit {byte : UInt8} (goesOn : continues byte = true) :
    UInt8.ofNat (byte.toNat % 128) ||| 0x80 = byte := by
  have high := (continues_eq_true_iff byte).mp goesOn
  have below := byte.toNat_lt
  have split := Nat.two_pow_add_eq_or_of_lt (i := 7) (b := byte.toNat % 128) (by omega) 1
  apply UInt8.toNat_inj.mp
  rw [UInt8.toNat_or, UInt8.toNat_ofNat', Nat.mod_eq_of_lt (by omega : byte.toNat % 128 < 2 ^ 8),
    Nat.or_comm]
  exact split.symm.trans (by omega)

theorem encodeNat_small {group : Nat} (small : group < 128) :
    encodeNat group = [UInt8.ofNat group] := by
  rw [encodeNat, if_pos small]

/-- The first byte of a number that goes on in front of its other groups. -/
theorem encodeNat_cons {byte : UInt8} (goesOn : continues byte = true) {higher : Nat}
    (positive : 0 < higher) :
    encodeNat (byte.toNat % 128 + 128 * higher) = byte :: encodeNat higher := by
  have high := (continues_eq_true_iff byte).mp goesOn
  have below := byte.toNat_lt
  rw [encodeNat, if_neg (by omega)]
  have group : (byte.toNat % 128 + 128 * higher) % 128 + 128 = byte.toNat := by omega
  have others : (byte.toNat % 128 + 128 * higher) / 128 = higher := by omega
  rw [group, others, UInt8.ofNat_toNat]

theorem padded_zero (count : Nat) : padded 0 count = List.replicate count 0x80 ++ [0x00] := by
  cases count with
  | zero => exact encodeNat_small (by decide)
  | succ count =>
      rw [padded, encodeNat_small (by decide)]
      rfl

theorem padded_cons {byte : UInt8} (goesOn : continues byte = true) {higher : Nat}
    (positive : 0 < higher) (count : Nat) :
    padded (byte.toNat % 128 + 128 * higher) count = byte :: padded higher count := by
  rw [padded, encodeNat_cons goesOn positive, pad_cons byte (encodeNat_ne_nil higher), padded]

/-- Every form of a number is a padded one. -/
theorem Number.eq_padded {groups : Bytes} (number : Number groups) :
    ∃ count, groups = padded (natOfGroups groups) count := by
  induction number with
  | @last byte ends =>
      have small := (continues_eq_false_iff byte).mp ends
      refine ⟨0, ?_⟩
      rw [padded, pad, natOfGroups, natOfGroups, Nat.mod_eq_of_lt small,
        encodeNat_small (by omega)]
      simp
  | @more byte rest goesOn number ih =>
      rcases ih with ⟨count, form⟩
      rw [natOfGroups]
      by_cases zero : natOfGroups rest = 0
      · -- The groups behind are zeros, so the shortest form is the first group alone.
        refine ⟨count + 1, ?_⟩
        rw [zero, padded_zero] at form
        rw [zero, padded, Nat.mul_zero, Nat.add_zero,
          encodeNat_small (Nat.mod_lt _ (by decide)), pad, prolong, or_high_bit goesOn, form]
        rfl
      · refine ⟨count, ?_⟩
        rw [padded_cons goesOn (Nat.pos_of_ne_zero zero), ← form]

example : padded 1 2 = [0x81, 0x80, 0x00] := by decide +kernel

/-- All forms of one number are paddings of its shortest form. -/
theorem Number.paddedAlike {left right : Bytes} (leftNumber : Number left)
    (rightNumber : Number right) (same : natOfGroups left = natOfGroups right) :
    PaddedAlike left right := by
  rcases leftNumber.eq_padded with ⟨leftCount, leftForm⟩
  rcases rightNumber.eq_padded with ⟨rightCount, rightForm⟩
  exact ⟨natOfGroups left, leftCount, rightCount, leftForm, same ▸ rightForm⟩

/-- No form is shorter than the one that is written. -/
theorem Number.length_encodeNat_le {groups : Bytes} (number : Number groups) :
    (encodeNat (natOfGroups groups)).length ≤ groups.length := by
  rcases number.eq_padded with ⟨count, form⟩
  have length := congrArg List.length form
  rw [length_padded] at length
  omega

theorem getLast?_encodeNat {number : Nat} (positive : 0 < number) :
    (encodeNat number).getLast? ≠ some 0x00 := by
  fun_induction encodeNat number with
  | case1 number small =>
      intro last
      have zero : UInt8.ofNat number = 0 := by simpa using last
      have value := congrArg UInt8.toNat zero
      rw [UInt8.toNat_ofNat', Nat.mod_eq_of_lt (by omega)] at value
      exact absurd value (Nat.ne_of_gt positive)
  | case2 number large ih =>
      rw [List.getLast?_cons_of_ne_nil (encodeNat_ne_nil _)]
      exact ih (by omega)

theorem isShortest_encodeNat (number : Nat) : IsShortest (encodeNat number) := by
  cases number with
  | zero => exact .inl (by rw [encodeNat_small (by decide)]; rfl)
  | succ number => exact .inr (getLast?_encodeNat number.succ_pos)

/-- The last byte tells the shortest form, which is the one that is written. -/
theorem Number.isShortest_iff {groups : Bytes} (number : Number groups) :
    IsShortest groups ↔ encodeNat (natOfGroups groups) = groups := by
  constructor
  · intro shortest
    rcases number.eq_padded with ⟨count, form⟩
    cases count with
    | zero => exact form.symm
    | succ count =>
        rw [form, IsShortest, length_padded, padded, pad] at shortest
        have positive := List.length_pos_iff.mpr (encodeNat_ne_nil (natOfGroups groups))
        rcases shortest with single | nonzero
        · omega
        · exact absurd (List.getLast?_concat ..) nonzero
  · intro written
    rw [← written]
    exact isShortest_encodeNat (natOfGroups groups)

end OperationForge.Zarith
