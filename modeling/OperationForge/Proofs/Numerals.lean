import Mathlib.Data.List.TakeWhile
import Mathlib.Data.Nat.Digits.Lemmas
import OperationForge.Base58.Numeral

/-!
# Changing the base of a numeral

The digits of a number do not start with a zero, and they are the only digits of the
number that do not.  A numeral that does start with zeros is carried over into another
base digit by digit where it is zero, and by its value behind that.  The way back
gives the numeral that was there before, so that byte strings and texts over the base
58 alphabet stand for each other.
-/

namespace OperationForge

namespace Numeral

theorem value_eq_ofDigits (base : Nat) (digits : List Nat) :
    value base digits = Nat.ofDigits base digits.reverse := by
  induction digits using List.reverseRecOn with
  | nil => rfl
  | append_singleton front digit ih =>
      rw [value_append_singleton, List.reverse_concat, Nat.ofDigits_cons, ih, Nat.add_comm]

theorem digits_eq_reverse {base : Nat} (two_le : 2 ≤ base) (number : Nat) :
    digits base number = (Nat.digits base number).reverse := by
  fun_induction digits base number with
  | case1 number positive ih =>
      rw [Nat.digits_def' two_le positive.2, List.reverse_cons, ih]
  | case2 number small =>
      have zero : number = 0 := Nat.eq_zero_of_not_pos fun positive => small ⟨two_le, positive⟩
      rw [zero, Nat.digits_zero, List.reverse_nil]

theorem lt_of_mem_digits {base number digit : Nat} (two_le : 2 ≤ base)
    (member : digit ∈ digits base number) : digit < base := by
  rw [digits_eq_reverse two_le, List.mem_reverse] at member
  exact Nat.digits_lt_base two_le member

theorem head?_digits {base : Nat} (two_le : 2 ≤ base) (number : Nat) :
    (digits base number).head? ≠ some 0 := by
  rw [digits_eq_reverse two_le, List.head?_reverse]
  intro last
  rcases List.getLast?_eq_some_iff.mp last with ⟨front, split⟩
  have positive : number ≠ 0 := by
    rintro rfl
    simp at split
  apply Nat.getLast_digit_ne_zero base positive
  simp [split]

/-! ## Leading zeros -/

theorem eq_zero_of_mem_takeWhile {numeral : List Nat} {digit : Nat}
    (leading : digit ∈ numeral.takeWhile (· = 0)) : digit = 0 := by
  have holds := List.mem_takeWhile_imp leading
  exact of_decide_eq_true holds

theorem value_cons_zero (base : Nat) (numeral : List Nat) :
    value base (0 :: numeral) = value base numeral :=
  rfl

theorem value_dropWhile (base : Nat) (digits : List Nat) :
    value base (digits.dropWhile (· = 0)) = value base digits := by
  induction digits with
  | nil => rfl
  | cons digit digits ih =>
      by_cases zero : digit = 0
      · rw [List.dropWhile_cons_of_pos (by simpa using zero), ih, zero, value_cons_zero]
      · rw [List.dropWhile_cons_of_neg (by simpa using zero)]

theorem value_takeWhile_append (base : Nat) (digits others : List Nat) :
    value base (digits.takeWhile (· = 0) ++ others) = value base others := by
  induction digits with
  | nil => rfl
  | cons digit digits ih =>
      by_cases zero : digit = 0
      · rw [List.takeWhile_cons_of_pos (by simpa using zero), List.cons_append, zero,
          value_cons_zero, ih]
      · rw [List.takeWhile_cons_of_neg (by simpa using zero), List.nil_append]

/-- Behind its leading zeros, a numeral has the digits of its value. -/
theorem digits_value {base : Nat} (two_le : 2 ≤ base) {numeral : List Nat}
    (bounded : ∀ digit ∈ numeral, digit < base) :
    digits base (value base numeral) = numeral.dropWhile (· = 0) := by
  rw [← value_dropWhile, value_eq_ofDigits, digits_eq_reverse two_le,
    Nat.digits_ofDigits base two_le, List.reverse_reverse]
  · intro digit member
    exact bounded digit ((List.dropWhile_suffix _).subset (List.mem_reverse.mp member))
  · intro nonempty
    rw [List.getLast_reverse]
    exact of_decide_eq_false (List.head_dropWhile_not (· = 0) _)

/-! ## Another base -/

/-- The numeral of the same value in another base, behind as many zeros. -/
def rebase (source target : Nat) (numeral : List Nat) : List Nat :=
  numeral.takeWhile (· = 0) ++ digits target (value source numeral)

theorem lt_of_mem_rebase {source target : Nat} (two_le : 2 ≤ target) {numeral : List Nat}
    {digit : Nat} (member : digit ∈ rebase source target numeral) : digit < target := by
  rcases List.mem_append.mp member with leading | behind
  · rw [eq_zero_of_mem_takeWhile leading]
    exact Nat.lt_of_lt_of_le Nat.zero_lt_two two_le
  · exact lt_of_mem_digits two_le behind

/-- There and back again. -/
theorem rebase_rebase {source target : Nat} (source_two_le : 2 ≤ source)
    (target_two_le : 2 ≤ target) {numeral : List Nat}
    (bounded : ∀ digit ∈ numeral, digit < source) :
    rebase target source (rebase source target numeral) = numeral := by
  have zeros : (rebase source target numeral).takeWhile (· = 0) = numeral.takeWhile (· = 0) := by
    have others : (digits target (value source numeral)).takeWhile (· = 0) = [] := by
      have first := head?_digits target_two_le (value source numeral)
      cases split : digits target (value source numeral) with
      | nil => rfl
      | cons digit rest =>
          rw [split, List.head?_cons] at first
          rw [List.takeWhile_cons_of_neg]
          simpa using first
    rw [rebase, List.takeWhile_append_of_pos, others, List.append_nil]
    intro digit leading
    exact decide_eq_true (eq_zero_of_mem_takeWhile leading)
  have same : value target (rebase source target numeral) = value source numeral := by
    rw [rebase, value_takeWhile_append, value_digits _ target_two_le]
  rw [rebase, zeros, same, digits_value source_two_le bounded, List.takeWhile_append_dropWhile]

end Numeral

namespace Base58

/-! ## Characters -/

theorem digitOfChar?_charOfDigit {digit : Nat} (bounded : digit < 58) :
    digitOfChar? (charOfDigit digit) = some digit := by
  have every : ∀ digit < 58, digitOfChar? (charOfDigit digit) = some digit := by decide +kernel
  exact every digit bounded

theorem charOfDigit_of_digitOfChar? {char : Char} {digit : Nat}
    (found : digitOfChar? char = some digit) : digit < 58 ∧ charOfDigit digit = char := by
  rcases List.findIdx?_eq_some_iff_getElem.mp found with ⟨inside, same, -⟩
  have length : alphabet.length = 58 := by decide +kernel
  refine ⟨length ▸ inside, ?_⟩
  rw [charOfDigit, List.getD_eq_getElem?_getD, List.getElem?_eq_getElem inside, Option.getD_some]
  exact of_decide_eq_true same

theorem digits_map_charOfDigit {numeral : List Nat} (bounded : ∀ digit ∈ numeral, digit < 58) :
    digits (numeral.map charOfDigit) = .ok numeral := by
  induction numeral with
  | nil => rfl
  | cons digit numeral ih =>
      rcases List.forall_mem_cons.mp bounded with ⟨first, others⟩
      rw [List.map_cons, digits, digitOfChar?_charOfDigit first, ih others]
      rfl

theorem eq_map_of_digits {chars : List Char} {numeral : List Nat}
    (read : digits chars = .ok numeral) :
    (∀ digit ∈ numeral, digit < 58) ∧ chars = numeral.map charOfDigit := by
  induction chars generalizing numeral with
  | nil =>
      cases read
      exact ⟨List.forall_mem_nil _, rfl⟩
  | cons char chars ih =>
      rw [digits] at read
      cases found : digitOfChar? char with
      | none =>
          rw [found] at read
          cases read
      | some digit =>
          cases others : digits chars with
          | error byte =>
              rw [found, others] at read
              cases read
          | ok behind =>
              rw [found, others] at read
              cases read
              rcases charOfDigit_of_digitOfChar? found with ⟨first, same⟩
              rcases ih others with ⟨bounded, rfl⟩
              exact ⟨List.forall_mem_cons.mpr ⟨first, bounded⟩, by rw [List.map_cons, same]⟩

/-! ## Bytes -/

theorem lt_of_mem_map_toNat {bytes : Bytes} {digit : Nat}
    (member : digit ∈ bytes.map UInt8.toNat) : digit < 256 := by
  rcases List.mem_map.mp member with ⟨byte, -, rfl⟩
  exact byte.toNat_lt

theorem map_ofNat_map_toNat (bytes : Bytes) :
    (bytes.map UInt8.toNat).map UInt8.ofNat = bytes := by
  rw [List.map_map]
  exact List.map_id'' (fun _ => UInt8.ofNat_toNat) bytes

theorem map_toNat_map_ofNat {numeral : List Nat} (bounded : ∀ digit ∈ numeral, digit < 256) :
    (numeral.map UInt8.ofNat).map UInt8.toNat = numeral := by
  rw [List.map_map]
  refine (List.map_congr_left ?_).trans (List.map_id numeral)
  intro digit member
  exact (UInt8.toNat_ofNat').trans (Nat.mod_eq_of_lt (bounded digit member))

/-! ## Texts -/

/-- A text is the numeral of the bytes in base 58. -/
theorem encode_eq (bytes : Bytes) :
    encode bytes =
      String.ofList ((Numeral.rebase 256 58 (bytes.map UInt8.toNat)).map charOfDigit) := by
  have zeros : (bytes.takeWhile (· = 0)).map (fun _ => charOfDigit 0) =
      ((bytes.map UInt8.toNat).takeWhile (· = 0)).map charOfDigit := by
    have test : ((fun digit => decide (digit = 0)) ∘ UInt8.toNat) = fun byte => decide (byte = 0) := by
      funext byte
      exact decide_eq_decide.mpr (UInt8.toNat_inj : byte.toNat = UInt8.toNat 0 ↔ byte = 0)
    rw [List.takeWhile_map, List.map_map, test]
    apply List.map_congr_left
    intro byte leading
    have holds := List.mem_takeWhile_imp leading
    rw [of_decide_eq_true holds]
    rfl
  rw [encode, Numeral.rebase, List.map_append, ← zeros]
  rfl

/-- The bytes are the numeral of the text in base 256. -/
theorem decode_eq (text : String) :
    decode text = (digits text.toList).map fun numeral =>
      (Numeral.rebase 58 256 numeral).map UInt8.ofNat := by
  have zeros (numeral : List Nat) : (numeral.takeWhile (· = 0)).map (fun _ => (0 : UInt8)) =
      (numeral.takeWhile (· = 0)).map UInt8.ofNat := by
    apply List.map_congr_left
    intro digit leading
    rw [Numeral.eq_zero_of_mem_takeWhile leading]
    rfl
  rw [decode]
  cases digits text.toList with
  | error byte => rfl
  | ok numeral =>
      change _ = Except.ok ((Numeral.rebase 58 256 numeral).map UInt8.ofNat)
      rw [Numeral.rebase, List.map_append, ← zeros]
      rfl

/-- Every byte string is read back from its text. -/
theorem decode_encode (bytes : Bytes) : decode (encode bytes) = .ok bytes := by
  have bounded : ∀ digit ∈ bytes.map UInt8.toNat, digit < 256 := fun _ => lt_of_mem_map_toNat
  have small : ∀ digit ∈ Numeral.rebase 256 58 (bytes.map UInt8.toNat), digit < 58 :=
    fun _ => Numeral.lt_of_mem_rebase (by decide)
  rw [decode_eq, encode_eq, String.toList_ofList, digits_map_charOfDigit small]
  change Except.ok ((Numeral.rebase 58 256 _).map UInt8.ofNat) = _
  rw [Numeral.rebase_rebase (by decide) (by decide) bounded, map_ofNat_map_toNat]

/-- Every text that is read is the text of its bytes. -/
theorem encode_of_decode {text : String} {bytes : Bytes} (read : decode text = .ok bytes) :
    encode bytes = text := by
  rw [decode_eq] at read
  cases answer : digits text.toList with
  | error byte =>
      rw [answer] at read
      cases read
  | ok numeral =>
      rw [answer] at read
      cases read
      rcases eq_map_of_digits answer with ⟨bounded, chars⟩
      have small : ∀ digit ∈ Numeral.rebase 58 256 numeral, digit < 256 :=
        fun _ => Numeral.lt_of_mem_rebase (by decide)
      rw [encode_eq, map_toNat_map_ofNat small,
        Numeral.rebase_rebase (by decide) (by decide) bounded, ← chars, String.ofList_toList]

theorem decode_eq_ok_iff (text : String) (bytes : Bytes) :
    decode text = .ok bytes ↔ encode bytes = text := by
  constructor
  · intro read
    exact encode_of_decode read
  · rintro rfl
    exact decode_encode bytes

end Base58

end OperationForge
