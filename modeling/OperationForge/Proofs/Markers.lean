import Mathlib.Data.Nat.Log
import OperationForge.Proofs.CheckedTexts
import OperationForge.Proofs.Digits

/-!
# Markers of checked texts

The text of every payload starts with the marker of its prefix and is as long as the
marker says, although the marker comes from two payloads only.  A text is a numeral.
Its checksum stands at the low end, so texts of one prefix are in the order of their
payloads, and all lie between the texts of the least and the greatest.  These two have
the same count of digits, since no power of 58 falls between them; and what two
numerals of one length have in common at their front, all between them have as well.
-/

namespace OperationForge

/-! ## Numerals of one length -/

namespace Numeral

variable {base : Nat} {left right : List Nat}

theorem value_append (base : Nat) (left right : List Nat) :
    value base (left ++ right) = value base left * base ^ right.length + value base right := by
  rw [value_eq_ofDigits, value_eq_ofDigits, value_eq_ofDigits, List.reverse_append,
    Nat.ofDigits_append, List.length_reverse, Nat.add_comm, Nat.mul_comm]

theorem value_lt (two_le : 2 ≤ base) (bounded : ∀ digit ∈ left, digit < base) :
    value base left < base ^ left.length := by
  rw [value_eq_ofDigits, ← List.length_reverse]
  apply Nat.ofDigits_lt_base_pow_length two_le
  simpa using bounded

theorem eq_of_value_eq (two_le : 2 ≤ base) (leftBounded : ∀ digit ∈ left, digit < base)
    (rightBounded : ∀ digit ∈ right, digit < base) (lengths : left.length = right.length)
    (values : value base left = value base right) : left = right := by
  rw [value_eq_ofDigits, value_eq_ofDigits] at values
  apply List.reverse_injective
  apply Nat.ofDigits_inj_of_len_eq two_le _ _ _ values
  · simpa using lengths
  · simpa using leftBounded
  · simpa using rightBounded

/-- The front of a numeral is the number without its low digits. -/
theorem value_take (two_le : 2 ≤ base) (bounded : ∀ digit ∈ left, digit < base) (count : Nat) :
    value base (left.take count) = value base left / base ^ (left.length - count) := by
  have low : value base (left.drop count) < base ^ (left.drop count).length :=
    value_lt two_le fun digit member => bounded digit (List.mem_of_mem_drop member)
  have split := value_append base (left.take count) (left.drop count)
  rw [List.take_append_drop] at split
  rw [split, ← List.length_drop, Nat.add_comm, Nat.mul_comm,
    Nat.add_mul_div_left _ _ (Nat.zero_lt_of_lt low), Nat.div_eq_of_lt low, Nat.zero_add]

/-- What the least and the greatest of three numerals start with in common, the one
between them starts with as well. -/
theorem take_eq_of_between {middle : List Nat} (two_le : 2 ≤ base)
    (leftBounded : ∀ digit ∈ left, digit < base)
    (middleBounded : ∀ digit ∈ middle, digit < base)
    (rightBounded : ∀ digit ∈ right, digit < base)
    (leftLength : left.length = middle.length) (rightLength : right.length = middle.length)
    (least : value base left ≤ value base middle)
    (greatest : value base middle ≤ value base right) {count : Nat}
    (common : left.take count = right.take count) : middle.take count = left.take count := by
  have fronts : value base (left.take count) = value base (right.take count) := by rw [common]
  have leftFront := value_take two_le leftBounded count
  have middleFront := value_take two_le middleBounded count
  have rightFront := value_take two_le rightBounded count
  rw [leftLength] at leftFront
  rw [rightLength] at rightFront
  have lower := Nat.div_le_div_right (c := base ^ (middle.length - count)) least
  have upper := Nat.div_le_div_right (c := base ^ (middle.length - count)) greatest
  apply eq_of_value_eq two_le
  · intro digit member
    exact middleBounded digit (List.mem_of_mem_take member)
  · intro digit member
    exact leftBounded digit (List.mem_of_mem_take member)
  · rw [List.length_take, List.length_take, leftLength]
  · omega

theorem length_digits (two_le : 2 ≤ base) {number : Nat} (positive : number ≠ 0) :
    (digits base number).length = Nat.log base number + 1 := by
  rw [digits_eq_reverse two_le, List.length_reverse, Nat.length_digits base number two_le positive]

end Numeral

/-! ## Bytes in order -/

namespace BigEndian

theorem decode_append (front back : Bytes) :
    decode (front ++ back) = decode front * 256 ^ back.length + decode back := by
  rw [decode, List.map_append, Numeral.value_append, List.length_map]
  rfl

theorem decode_zeros (count : Nat) : decode (List.replicate count 0x00) = 0 := by
  induction count with
  | zero => rfl
  | succ count ih => rw [List.replicate_succ', decode_concat, ih]; rfl

theorem decode_ones (count : Nat) : decode (List.replicate count 0xff) + 1 = 256 ^ count := by
  induction count with
  | zero => rfl
  | succ count ih =>
      have last : UInt8.toNat 0xff = 255 := rfl
      rw [List.replicate_succ', decode_concat, last, Nat.pow_succ', ← ih]
      omega

theorem eq_of_decode_eq {left right : Bytes} (lengths : left.length = right.length)
    (values : decode left = decode right) : left = right := by
  rw [← encode_decode left, ← encode_decode right, lengths, values]

end BigEndian

namespace Prefix

variable {kind : Prefix} {payload : Bytes}

/-- The number that the text of a payload is the numeral of. -/
def number (kind : Prefix) (payload : Bytes) : Nat :=
  BigEndian.decode (kind.bytes ++ payload ++ Base58.checksum (kind.bytes ++ payload))

theorem number_eq (kind : Prefix) (payload : Bytes) :
    kind.number payload =
      (BigEndian.decode kind.bytes * 256 ^ payload.length + BigEndian.decode payload) * 256 ^ 4 +
        BigEndian.decode (Base58.checksum (kind.bytes ++ payload)) := by
  rw [number, BigEndian.decode_append, BigEndian.decode_append, Base58.length_checksum]
  rfl

theorem decode_checksum_lt (body : Bytes) :
    BigEndian.decode (Base58.checksum body) < 256 ^ 4 := by
  have small := BigEndian.decode_lt (Base58.checksum body)
  rwa [Base58.length_checksum] at small

/-- Checksums have no order, but they only decide between texts of one payload. -/
theorem number_le_number {left right : Bytes} (lengths : left.length = right.length)
    (order : BigEndian.decode left ≤ BigEndian.decode right) :
    kind.number left ≤ kind.number right := by
  rcases Nat.eq_or_lt_of_le order with same | less
  · rw [BigEndian.eq_of_decode_eq lengths same]
  · have leftSum := decode_checksum_lt (kind.bytes ++ left)
    rw [number_eq, number_eq, lengths]
    omega

theorem number_between (exact : payload.length = kind.payloadLength) :
    kind.number (List.replicate kind.payloadLength 0x00) ≤ kind.number payload ∧
      kind.number payload ≤ kind.number (List.replicate kind.payloadLength 0xff) := by
  constructor
  · apply number_le_number
    · rw [List.length_replicate, exact]
    · rw [BigEndian.decode_zeros]
      exact Nat.zero_le _
  · apply number_le_number
    · rw [List.length_replicate, exact]
    · have most := BigEndian.decode_lt payload
      rw [exact, ← BigEndian.decode_ones] at most
      exact Nat.le_of_lt_succ most

/-! ## The numbers of a prefix -/

/-- The numbers of a prefix start here and end below those of `span (start + 1)`. -/
def span (kind : Prefix) (start : Nat) : Nat := start * 256 ^ (kind.payloadLength + 4)

/-- No power of 58 falls between the numbers of one prefix. -/
theorem log_span (kind : Prefix) :
    kind.span (BigEndian.decode kind.bytes) ≠ 0 ∧
      Nat.log 58 (kind.span (BigEndian.decode kind.bytes)) =
        Nat.log 58 (kind.span (BigEndian.decode kind.bytes + 1) - 1) := by
  cases kind <;> decide +kernel

theorem span_le_number (exact : payload.length = kind.payloadLength) :
    kind.span (BigEndian.decode kind.bytes) ≤ kind.number payload := by
  rw [number_eq, span, exact, Nat.pow_add, ← Nat.mul_assoc, Nat.add_mul, Nat.add_assoc]
  exact Nat.le_add_right _ _

theorem number_lt_span (exact : payload.length = kind.payloadLength) :
    kind.number payload < kind.span (BigEndian.decode kind.bytes + 1) := by
  have small := BigEndian.decode_lt payload
  have sum := decode_checksum_lt (kind.bytes ++ payload)
  rw [exact] at small
  rw [number_eq, span, exact, Nat.pow_add, ← Nat.mul_assoc, Nat.add_mul _ 1, Nat.one_mul]
  omega

theorem log_number (exact : payload.length = kind.payloadLength) :
    Nat.log 58 (kind.number payload) = Nat.log 58 (kind.span (BigEndian.decode kind.bytes)) := by
  have lower : Nat.log 58 (kind.span (BigEndian.decode kind.bytes)) ≤
      Nat.log 58 (kind.number payload) := Nat.log_mono_right (span_le_number exact)
  have upper : Nat.log 58 (kind.number payload) ≤
      Nat.log 58 (kind.span (BigEndian.decode kind.bytes + 1) - 1) :=
    Nat.log_mono_right (Nat.le_sub_one_of_lt (number_lt_span exact))
  rw [← kind.log_span.2] at upper
  exact Nat.le_antisymm upper lower

/-- The digits of a text. -/
def digits (kind : Prefix) (payload : Bytes) : List Nat :=
  Numeral.digits 58 (kind.number payload)

theorem lt_of_mem_digits {digit : Nat} (member : digit ∈ kind.digits payload) : digit < 58 :=
  Numeral.lt_of_mem_digits (by decide) member

theorem value_digits (kind : Prefix) (payload : Bytes) :
    Numeral.value 58 (kind.digits payload) = kind.number payload :=
  Numeral.value_digits _ (by decide)

theorem length_digits (exact : payload.length = kind.payloadLength) :
    (kind.digits payload).length = Nat.log 58 (kind.span (BigEndian.decode kind.bytes)) + 1 := by
  have positive : kind.number payload ≠ 0 :=
    Nat.ne_zero_of_lt (Nat.lt_of_lt_of_le (Nat.pos_of_ne_zero kind.log_span.1)
      (span_le_number exact))
  rw [digits, Numeral.length_digits (by decide) positive, log_number exact]

/-! ## Texts -/

/-- No prefix starts with a zero, so that texts have no leading digits but those of the
number. -/
theorem textOf_eq (kind : Prefix) (payload : Bytes) :
    Base58.textOf kind payload =
      String.ofList ((kind.digits payload).map Base58.charOfDigit) := by
  have leading : (kind.bytes ++ payload ++ Base58.checksum (kind.bytes ++ payload)).takeWhile
      (· = 0) = [] := by
    cases kind <;> rfl
  rw [Base58.textOf, Base58.encode, leading]
  rfl

theorem map_charOfDigit_injective {left right : List Nat} (leftBounded : ∀ digit ∈ left, digit < 58)
    (rightBounded : ∀ digit ∈ right, digit < 58)
    (same : left.map Base58.charOfDigit = right.map Base58.charOfDigit) : left = right := by
  have read := Base58.digits_map_charOfDigit leftBounded
  rw [same, Base58.digits_map_charOfDigit rightBounded] at read
  exact Except.ok.inj read.symm

theorem commonStart_prefix (left right : List Char) :
    commonStart left right <+: left ∧ commonStart left right <+: right := by
  fun_induction commonStart left right with
  | case1 left lefts rights ih => simpa using ih
  | case2 left lefts right rights differ => simp
  | case3 left right differ => simp

/-- A common start of two texts is one of their numerals. -/
theorem take_eq_of_prefix {left right : List Nat} {start : List Char}
    (leftBounded : ∀ digit ∈ left, digit < 58) (rightBounded : ∀ digit ∈ right, digit < 58)
    (leftStart : start <+: left.map Base58.charOfDigit)
    (rightStart : start <+: right.map Base58.charOfDigit) :
    left.take start.length = right.take start.length := by
  apply map_charOfDigit_injective
  · intro digit member
    exact leftBounded digit (List.mem_of_mem_take member)
  · intro digit member
    exact rightBounded digit (List.mem_of_mem_take member)
  · rw [List.map_take, List.map_take, ← List.prefix_iff_eq_take.mp leftStart,
      ← List.prefix_iff_eq_take.mp rightStart]

theorem marker_prefix (exact : payload.length = kind.payloadLength) :
    kind.marker.toList <+: (Base58.textOf kind payload).toList := by
  let low := kind.digits (List.replicate kind.payloadLength 0x00)
  let high := kind.digits (List.replicate kind.payloadLength 0xff)
  let start := commonStart (low.map Base58.charOfDigit) (high.map Base58.charOfDigit)
  have marked : kind.marker.toList = start := by
    rw [marker, uniformText, uniformText, textOf_eq, textOf_eq, String.toList_ofList,
      String.toList_ofList, String.toList_ofList]
  have starts := commonStart_prefix (low.map Base58.charOfDigit) (high.map Base58.charOfDigit)
  have common := take_eq_of_prefix (fun _ => lt_of_mem_digits) (fun _ => lt_of_mem_digits)
    starts.1 starts.2
  have between := number_between exact
  have shared : (kind.digits payload).take start.length = low.take start.length := by
    apply Numeral.take_eq_of_between (by decide) (fun _ => lt_of_mem_digits)
      (fun _ => lt_of_mem_digits) (fun _ => lt_of_mem_digits) _ _ _ _ common
    · rw [length_digits exact, length_digits List.length_replicate]
    · rw [length_digits exact, length_digits List.length_replicate]
    · rw [value_digits, value_digits]
      exact between.1
    · rw [value_digits, value_digits]
      exact between.2
  rw [marked, textOf_eq, String.toList_ofList, List.prefix_iff_eq_take, ← List.map_take, shared,
    List.map_take]
  exact List.prefix_iff_eq_take.mp starts.1

theorem length_textOf (exact : payload.length = kind.payloadLength) :
    (Base58.textOf kind payload).length = kind.textLength := by
  rw [textLength, uniformText, textOf_eq, textOf_eq, String.length_ofList, String.length_ofList,
    List.length_map, List.length_map, length_digits exact, length_digits List.length_replicate]

/-- A character of a text is one byte. -/
theorem utf8ByteSize_textOf (kind : Prefix) (payload : Bytes) :
    (Base58.textOf kind payload).utf8ByteSize = (Base58.textOf kind payload).length := by
  have single : ∀ digit < 58, (Base58.charOfDigit digit).utf8Size = 1 := by decide +kernel
  have count (numeral : List Nat) (bounded : ∀ digit ∈ numeral, digit < 58) :
      (String.ofList (numeral.map Base58.charOfDigit)).utf8ByteSize = numeral.length := by
    induction numeral with
    | nil => rfl
    | cons digit rest ih =>
        rcases List.forall_mem_cons.mp bounded with ⟨first, others⟩
        rw [List.map_cons, String.ofList_cons, String.utf8ByteSize_append,
          String.utf8ByteSize_singleton, single digit first, ih others, List.length_cons,
          Nat.add_comm]
  rw [textOf_eq, String.length_ofList, List.length_map]
  exact count _ fun _ => lt_of_mem_digits

/-- Every payload of the right length has a text that starts with what a prefix is shown
as, and has as many characters, and bytes, as that says. -/
theorem encode_of_display (kind : Prefix) (payload : Bytes)
    (exact : payload.length = kind.payloadLength) :
    ∃ text behind, CheckedText.encode kind payload = .ok text ∧
      text = kind.marker ++ behind ∧
      kind.display = s!"{kind.marker}({text.length})" ∧
      text.utf8ByteSize = text.length := by
  have written := CheckedText.encode_eq_ok_iff.mpr ⟨exact, rfl⟩
  rcases marker_prefix exact with ⟨behind, split⟩
  refine ⟨_, String.ofList behind, written, ?_, ?_, utf8ByteSize_textOf kind payload⟩
  · apply String.toList_inj.mp
    rw [String.toList_append, String.toList_ofList, split]
  · rw [display, length_textOf exact]

/-- The identifier of a chain. -/
theorem chainText_display :
    ([0x7a, 0x06, 0xa7, 0x70] : Bytes).length = Prefix.chainId.payloadLength ∧
      Prefix.chainId.display = "Net(15)" ∧
      ∃ behind, CheckedText.encode .chainId [0x7a, 0x06, 0xa7, 0x70] = .ok ("Net" ++ behind) := by
  have marked : Prefix.chainId.marker = "Net" := by decide +kernel
  rcases encode_of_display .chainId [0x7a, 0x06, 0xa7, 0x70] rfl with
    ⟨text, behind, written, split, shown, -⟩
  have shown : Prefix.chainId.display = "Net(15)" := by decide +kernel
  rw [split, marked] at written
  exact ⟨rfl, shown, behind, written⟩

end Prefix

end OperationForge
