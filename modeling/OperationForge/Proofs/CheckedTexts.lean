import Mathlib.Data.List.Infix
import OperationForge.Base58.Checked
import OperationForge.Proofs.Numerals
import OperationForge.Proofs.Results

/-!
# Checked texts and what they carry

Reading a checked text undoes writing it, and nothing else can be read: base 58 texts and
byte strings stand for each other, the checksum has a fixed length and is cut off at the
end, and no prefix starts the bytes of another one.  For the last reason the order in
which reading tries the prefixes does not matter, although payloads are arbitrary bytes
and prefixes have different lengths.
-/

namespace OperationForge

/-! ## Checksums -/

namespace Base58

variable {kind : Prefix} {payload : Bytes}

@[simp] theorem length_checksum (body : Bytes) : (checksum body).length = checksumLength := by
  simp [checksum, checksumLength]

theorem checkLength_eq_ok_iff {expected : Nat} {answer : Bytes} :
    checkLength kind expected payload = .ok answer ↔
      payload.length = expected ∧ answer = payload := by
  rw [checkLength]
  split
  · next exact =>
      constructor
      · intro equal
        cases equal
        exact ⟨exact, rfl⟩
      · intro facts
        rw [facts.2]
  · next other =>
      constructor
      · intro impossible
        cases impossible
      · intro facts
        exact absurd facts.1 other

end Base58

/-! ## Prefixes -/

namespace Prefix

theorem bytes_ne_nil (kind : Prefix) : kind.bytes ≠ [] := by
  cases kind <;> exact List.cons_ne_nil _ _

/-- At most one prefix starts a byte string. -/
theorem eq_of_starts {left right : Prefix} {body : Bytes}
    (first : left.bytes <+: body) (second : right.bytes <+: body) : left = right := by
  rcases List.prefix_or_prefix_of_prefix first second with starts | starts
  · exact eq_of_bytes_prefix starts
  · have same := eq_of_bytes_prefix starts
    exact same.symm

end Prefix

namespace CheckedText

variable {kind : Prefix} {text : String} {payload : Bytes}

/-! ## The steps of reading -/

/-- What is left of the bytes is what the checksum at their end is of. -/
theorem dropChecksum_eq_ok_iff {bytes body : Bytes} :
    dropChecksum bytes = .ok body ↔ body ≠ [] ∧ bytes = body ++ Base58.checksum body := by
  rw [dropChecksum]
  constructor
  · intro answer
    split at answer
    · cases answer
    · next long =>
        dsimp only at answer
        split at answer
        · next matching =>
            cases answer
            refine ⟨?_, by rw [matching, List.length_take_of_le (Nat.sub_le _ _),
              List.take_append_drop]⟩
            apply List.ne_nil_of_length_pos
            rw [List.length_take_of_le (Nat.sub_le _ _)]
            exact Nat.sub_pos_of_lt (Nat.lt_of_not_le long)
        · cases answer
  · rintro ⟨nonempty, rfl⟩
    have long : ¬ (body ++ Base58.checksum body).length ≤ Base58.checksumLength := by
      rw [List.length_append, Base58.length_checksum]
      have positive := List.length_pos_iff.mpr nonempty
      omega
    have cut : (body ++ Base58.checksum body).take
        ((body ++ Base58.checksum body).length - Base58.checksumLength) = body := by
      rw [List.length_append, Base58.length_checksum, Nat.add_sub_cancel, List.take_left]
    rw [if_neg long, cut]
    exact if_pos List.drop_left.symm

section Tables

variable {table : List Prefix} {body : Bytes}

/-- A table that leaves out no prefix finds the one that starts the bytes. -/
theorem findKind_eq_ok_iff (complete : ∀ kind, kind ∈ table) :
    findKind table body = .ok kind ↔ kind.bytes <+: body := by
  rw [findKind]
  cases found : table.find? (fun kind => kind.bytes.isPrefixOf body) with
  | none =>
      have none_starts := List.find?_eq_none.mp found kind (complete kind)
      rw [List.isPrefixOf_iff_prefix] at none_starts
      constructor
      · intro impossible
        cases impossible
      · intro starts
        exact absurd starts none_starts
  | some first =>
      have starts : first.bytes <+: body := by
        have holds := List.find?_some found
        exact List.isPrefixOf_iff_prefix.mp holds
      constructor
      · intro answer
        cases answer
        exact starts
      · intro other
        rw [Prefix.eq_of_starts starts other]

/-- It does not matter where in the table a prefix stands. -/
theorem findKind_of_complete {others : List Prefix} (complete : ∀ kind, kind ∈ table)
    (complete_others : ∀ kind, kind ∈ others) (body : Bytes) :
    findKind table body = findKind others body := by
  cases answer : findKind others body with
  | ok kind =>
      have starts := (findKind_eq_ok_iff complete_others).mp answer
      exact (findKind_eq_ok_iff complete).mpr starts
  | error error =>
      have unknown : error = .unknownPrefix := by
        rw [findKind] at answer
        split at answer <;> cases answer
        rfl
      rw [unknown, findKind]
      cases found : table.find? (fun kind => kind.bytes.isPrefixOf body) with
      | none => rfl
      | some kind =>
          have holds := List.find?_some found
          have same := (findKind_eq_ok_iff complete_others).mpr
            (List.isPrefixOf_iff_prefix.mp holds)
          rw [answer] at same
          cases same

/-- Whatever the order of the prefixes, reading gives the same answer or the same error. -/
theorem decodeFrom_of_complete (complete : ∀ kind, kind ∈ table) (text : String) :
    decodeFrom table text = decode text := by
  rw [decode, decodeFrom, decodeFrom]
  simp only [findKind_of_complete complete Prefix.mem_all]

end Tables

/-! ## Reading and writing -/

theorem encode_eq_ok_iff :
    encode kind payload = .ok text ↔
      payload.length = kind.payloadLength ∧ text = Base58.textOf kind payload := by
  rw [encode, Except.bind_eq_ok_iff]
  simp only [Base58.checkLength_eq_ok_iff]
  constructor
  · rintro ⟨_, ⟨exact, rfl⟩, answer⟩
    cases answer
    exact ⟨exact, rfl⟩
  · rintro ⟨exact, rfl⟩
    exact ⟨payload, ⟨exact, rfl⟩, rfl⟩

/-- The texts that can be read are the texts of payloads of the right length. -/
theorem decode_eq_ok_iff :
    decode text = .ok (kind, payload) ↔
      payload.length = kind.payloadLength ∧ text = Base58.textOf kind payload := by
  rw [decode, decodeFrom]
  simp only [Except.bind_eq_ok_iff, Except.mapError_eq_ok_iff, Base58.checkLength_eq_ok_iff,
    dropChecksum_eq_ok_iff, findKind_eq_ok_iff Prefix.mem_all, Base58.decode_eq_ok_iff]
  constructor
  · rintro ⟨_, rfl, body, ⟨-, rfl⟩, found, starts, _, ⟨exact, rfl⟩, answer⟩
    cases answer
    rcases starts with ⟨payload, rfl⟩
    rw [List.drop_left] at exact
    rw [List.drop_left]
    exact ⟨exact, rfl⟩
  · rintro ⟨exact, rfl⟩
    have nonempty := List.append_ne_nil_of_left_ne_nil kind.bytes_ne_nil payload
    refine ⟨_, rfl, kind.bytes ++ payload, ⟨nonempty, rfl⟩, kind, List.prefix_append _ _,
      payload, ⟨?_, ?_⟩, rfl⟩
    · rw [List.drop_left]
      exact exact
    · rw [List.drop_left]

/-- Reading without an expectation finds no prefix unexpected. -/
theorem decode_ne_unexpectedPrefix (text : String) (kind : Prefix) :
    decode text ≠ .error (.unexpectedPrefix kind) := by
  intro refused
  rw [decode, decodeFrom] at refused
  rcases Except.bind_eq_error_iff.mp refused with noBytes | ⟨bytes, -, refused⟩
  · cases answer : Base58.decode text <;> rw [answer] at noBytes <;> cases noBytes
  rcases Except.bind_eq_error_iff.mp refused with noBody | ⟨body, -, refused⟩
  · rw [dropChecksum] at noBody
    dsimp only at noBody
    split at noBody
    · cases noBody
    · split at noBody <;> cases noBody
  rcases Except.bind_eq_error_iff.mp refused with noKind | ⟨kind, -, refused⟩
  · rw [findKind] at noKind
    split at noKind <;> cases noKind
  rcases Except.bind_eq_error_iff.mp refused with noPayload | ⟨payload, -, answered⟩
  · rw [Base58.checkLength] at noPayload
    split at noPayload <;> cases noPayload
  · cases answered

/-- Reading is the inverse of writing: a text carries a prefix and a payload exactly if it is
what they are written as.  So payloads have the length of their prefix, all payloads of that
length survive, texts have one prefix only, and a text can be read whatever the order in
which the prefixes are tried, with the same answer or the same error. -/
theorem decode_inverts_encode :
    (∀ text kind payload,
      decode text = .ok (kind, payload) ↔ encode kind payload = .ok text) ∧
    (∀ text kind payload,
      decode text = .ok (kind, payload) → payload.length = kind.payloadLength) ∧
    (∀ kind payload, payload.length = kind.payloadLength →
      ∃ text, encode kind payload = .ok text ∧ decode text = .ok (kind, payload)) ∧
    (∀ text kind payload other behind, encode kind payload = .ok text →
      encode other behind = .ok text → kind = other ∧ payload = behind) ∧
    (∀ body (kind other : Prefix), kind.bytes <+: body → other.bytes <+: body → kind = other) ∧
    (∀ table text, table.Perm Prefix.all → decodeFrom table text = decode text) := by
  have inverse (text kind payload) :
      decode text = .ok (kind, payload) ↔ encode kind payload = .ok text :=
    decode_eq_ok_iff.trans encode_eq_ok_iff.symm
  refine ⟨inverse, ?length, ?survives, ?single, fun _ _ _ => Prefix.eq_of_starts, ?order⟩
  case length =>
    intro text kind payload read
    exact (decode_eq_ok_iff.mp read).1
  case survives =>
    intro kind payload exact
    have written := encode_eq_ok_iff.mpr ⟨exact, rfl⟩
    exact ⟨_, written, (inverse _ _ _).mpr written⟩
  case single =>
    intro text kind payload other behind written rewritten
    have read := (inverse _ _ _).mpr written
    rw [(inverse _ _ _).mpr rewritten] at read
    cases read
    exact ⟨rfl, rfl⟩
  case order =>
    intro table text same
    exact decodeFrom_of_complete (fun kind => same.mem_iff.mpr (Prefix.mem_all kind)) text

/-- The identifier of a chain, read back with the prefixes in reverse order. -/
theorem chainText_decode :
    encode .chainId [0x7a, 0x06, 0xa7, 0x70] = .ok "NetXdQprcVkpaWU" ∧
      decode "NetXdQprcVkpaWU" = .ok (.chainId, [0x7a, 0x06, 0xa7, 0x70]) ∧
      decodeFrom Prefix.all.reverse "NetXdQprcVkpaWU" =
        .ok (.chainId, [0x7a, 0x06, 0xa7, 0x70]) := by
  rcases decode_inverts_encode with ⟨-, -, survives, -, -, order⟩
  have written : encode .chainId [0x7a, 0x06, 0xa7, 0x70] = .ok "NetXdQprcVkpaWU" := by
    decide +kernel
  rcases survives .chainId [0x7a, 0x06, 0xa7, 0x70] rfl with ⟨text, rewritten, read⟩
  rw [written] at rewritten
  cases rewritten
  exact ⟨written, read, (order _ _ (List.reverse_perm _)).trans read⟩

end CheckedText

end OperationForge
