import OperationForge.Proofs.Forms
import OperationForge.Proofs.Operations

/-!
# The wire form, written out

The bytes of every part of an operation, given once more as plain functions with all
tags, markers and orders spelled out, and without the formats or anything they are
built from.  What an operation is encoded as are these bytes.  Their count follows
field by field, with one byte for every seven bits of a natural number.
-/

namespace OperationForge

namespace WireForm

/-! ## Numbers -/

/-- One byte for every seven bits, rounded up, and one byte for zero. -/
def naturalLength (number : Nat) : Nat := max 1 ((number.size + 6) / 7)

/-- The groups of seven bits, the lowest one first.  The high bit tells of each but the
last that another one follows. -/
def natural (number : Nat) : Bytes :=
  (List.range (naturalLength number)).map fun index =>
    UInt8.ofNat ((number >>> (7 * index)) % 128 +
      if index + 1 < naturalLength number then 128 else 0)

/-- The four bytes of a number, the highest one first. -/
def uint32 (number : Nat) : Bytes :=
  [UInt8.ofNat (number >>> 24), UInt8.ofNat (number >>> 16), UInt8.ofNat (number >>> 8),
    UInt8.ofNat number]

/-- Four bytes in two's complement, the highest one first. -/
def int32 (number : Int32) : Bytes := uint32 (number.toInt % 2 ^ 32).toNat

/-! ## Accounts and keys -/

/-- The byte for a curve. -/
def curve : Curve → UInt8
  | .ed25519 => 0x00
  | .secp256k1 => 0x01
  | .p256 => 0x02

/-- The curve, and the 20 bytes of the hash. -/
def keyHash (owner : KeyHash) : Bytes := curve owner.curve :: owner.hash.toList

/-- The curve, and the bytes of the key. -/
def publicKey (key : PublicKey) : Bytes := curve key.curve :: key.bytes.toList

/-- `00` and a key hash, or `01`, the 20 bytes of the hash of a contract, and `00`. -/
def address : Address → Bytes
  | .implicit owner => 0x00 :: keyHash owner
  | .originated hash => 0x01 :: (hash.toList ++ [0x00])

/-! ## Calls and scripts -/

/-- `00`, or `ff` and the value. -/
def optional {α : Type} (form : α → Bytes) : Option α → Bytes
  | none => [0x00]
  | some value => 0xff :: form value

/-- The length in four bytes, and the bytes. -/
def payload (value : Payload) : Bytes := uint32 value.bytes.length ++ value.bytes

/-- The tag, and for a name its length in one byte and its bytes. -/
def entrypoint : Entrypoint → Bytes
  | .default => [0x00]
  | .root => [0x01]
  | .doLambda => [0x02]
  | .setDelegate => [0x03]
  | .removeDelegate => [0x04]
  | .named name => 0xff :: UInt8.ofNat (Utf8.encode name).length :: Utf8.encode name

/-- The entrypoint, and the argument. -/
def parameters (call : Parameters) : Bytes := entrypoint call.entrypoint ++ payload call.value

/-- The code, and the storage. -/
def script (script : Script) : Bytes := payload script.code ++ payload script.storage

/-! ## Entries -/

/-- The source, the fee, the counter, the gas limit and the storage limit. -/
def manager (manager : Manager) : Bytes :=
  keyHash manager.source ++ natural manager.fee ++ natural manager.counter ++
    natural manager.gasLimit ++ natural manager.storageLimit

/-- The tag, and the fields of the kind. -/
def entry : Contents → Bytes
  | .revelation entry => 107 :: (manager entry.manager ++ publicKey entry.publicKey)
  | .transaction entry =>
      108 :: (manager entry.manager ++ natural entry.amount ++ address entry.destination ++
        optional parameters entry.parameters)
  | .origination entry =>
      109 :: (manager entry.manager ++ natural entry.balance ++ optional keyHash entry.delegate ++
        script entry.script)
  | .delegation entry => 110 :: (manager entry.manager ++ optional keyHash entry.delegate)
  | .endorsement entry => 0 :: int32 entry.level

/-- The branch, and the entries in order. -/
def operation (operation : Operation) : Bytes :=
  operation.branch.bytes.toList ++ operation.contents.flatMap entry

/-! ## Lengths -/

def publicKeyLength : Curve → Nat
  | .ed25519 => 32
  | .secp256k1 | .p256 => 33

def payloadLength (value : Payload) : Nat := 4 + value.bytes.length

def entrypointLength : Entrypoint → Nat
  | .named name => 1 + 1 + (Utf8.encode name).length
  | _ => 1

def parametersLength (call : Parameters) : Nat :=
  entrypointLength call.entrypoint + payloadLength call.value

def managerLength (manager : Manager) : Nat :=
  21 + naturalLength manager.fee + naturalLength manager.counter +
    naturalLength manager.gasLimit + naturalLength manager.storageLimit

def optionalLength {α : Type} (length : α → Nat) : Option α → Nat
  | none => 1
  | some value => 1 + length value

/-- The lengths of the fields of an entry, with its tag. -/
def entryLength : Contents → Nat
  | .revelation entry =>
      1 + managerLength entry.manager + (1 + publicKeyLength entry.publicKey.curve)
  | .transaction entry =>
      1 + managerLength entry.manager + naturalLength entry.amount + 22 +
        optionalLength parametersLength entry.parameters
  | .origination entry =>
      1 + managerLength entry.manager + naturalLength entry.balance +
        optionalLength (fun _ => 21) entry.delegate + payloadLength entry.script.code +
        payloadLength entry.script.storage
  | .delegation entry =>
      1 + managerLength entry.manager + optionalLength (fun _ => 21) entry.delegate
  | .endorsement _ => 1 + 4

@[simp] theorem length_natural (number : Nat) :
    (natural number).length = naturalLength number := by
  simp [natural]

@[simp] theorem length_keyHash (owner : KeyHash) : (keyHash owner).length = 21 := by
  simp [keyHash]

@[simp] theorem length_publicKey (key : PublicKey) :
    (publicKey key).length = 1 + publicKeyLength key.curve := by
  rcases key with ⟨curve, bytes⟩
  cases curve <;> simp [publicKey, publicKeyLength, Curve.publicKeyLength]

@[simp] theorem length_address (address : Address) : (WireForm.address address).length = 22 := by
  cases address <;> simp [WireForm.address]

@[simp] theorem length_payload (value : Payload) : (payload value).length = payloadLength value :=
  List.length_append

@[simp] theorem length_entrypoint (entrypoint : Entrypoint) :
    (WireForm.entrypoint entrypoint).length = entrypointLength entrypoint := by
  cases entrypoint with
  | named name =>
      rw [WireForm.entrypoint, entrypointLength, List.length_cons, List.length_cons]
      omega
  | default | root | doLambda | setDelegate | removeDelegate => rfl

@[simp] theorem length_parameters (call : Parameters) :
    (parameters call).length = parametersLength call := by
  simp [parameters, parametersLength]

@[simp] theorem length_manager (manager : Manager) :
    (WireForm.manager manager).length = managerLength manager := by
  simp only [WireForm.manager, managerLength, List.length_append, length_keyHash, length_natural]

theorem length_optional {α : Type} {form : α → Bytes} {length : α → Nat}
    (same : ∀ value, (form value).length = length value) (value : Option α) :
    (optional form value).length = optionalLength length value := by
  cases value with
  | none => rfl
  | some value => rw [optional, List.length_cons, same, optionalLength, Nat.add_comm]

theorem length_entry (entry : Contents) : (WireForm.entry entry).length = entryLength entry := by
  have call := length_optional length_parameters
  have delegate := length_optional length_keyHash
  cases entry with
  | revelation entry =>
      simp [WireForm.entry, entryLength]
      omega
  | transaction entry =>
      simp [WireForm.entry, entryLength, call]
      omega
  | origination entry =>
      simp [WireForm.entry, entryLength, delegate, script]
      omega
  | delegation entry =>
      simp [WireForm.entry, entryLength, delegate]
      omega
  | endorsement entry => rfl

theorem length_operation (operation : Operation) :
    (WireForm.operation operation).length = 32 + (operation.contents.map entryLength).sum := by
  simp [WireForm.operation, List.length_flatMap, length_entry]

end WireForm

/-! ## The formats write these bytes -/

theorem Zarith.encodeNat_eq_wireForm (number : Nat) :
    encodeNat number = WireForm.natural number := by
  fun_induction encodeNat number with
  | case1 number small =>
      have one : WireForm.naturalLength number = 1 := by
        rw [WireForm.naturalLength, ← length_encodeNat, encodeNat, if_pos small]
        rfl
      rw [WireForm.natural, one]
      simp [Nat.mod_eq_of_lt small]
  | case2 number large ih =>
      have more : WireForm.naturalLength number = WireForm.naturalLength (number / 128) + 1 := by
        rw [WireForm.naturalLength, ← length_encodeNat, encodeNat, if_neg large, List.length_cons,
          length_encodeNat, WireForm.naturalLength]
      have positive : 0 < WireForm.naturalLength (number / 128) :=
        Nat.lt_of_lt_of_le Nat.zero_lt_one (Nat.le_max_left ..)
      have shifted (index : Nat) :
          number >>> (7 * (index + 1)) = (number / 128) >>> (7 * index) := by
        rw [Nat.mul_succ, Nat.add_comm, Nat.shiftRight_add, Nat.shiftRight_eq_div_pow number]
      rw [ih, WireForm.natural, WireForm.natural, more, List.range_succ_eq_map, List.map_cons,
        List.map_map]
      simp [Function.comp_def, positive, shifted]

theorem BigEndian.encode_four_eq_wireForm (number : Nat) :
    encode 4 number = WireForm.uint32 number := by
  simp only [encode, Nat.div_div_eq_div_mul, List.nil_append, List.cons_append]
  simp only [WireForm.uint32, Nat.shiftRight_eq_div_pow]

/-- Two's complement is the remainder on division by the count of all patterns. -/
theorem Endorsement.level_eq_wireForm (entry : Endorsement) :
    BigEndian.encode 4 entry.level.toUInt32.toNat = WireForm.int32 entry.level := by
  have pattern : entry.level.toInt % 2 ^ 32 = entry.level.toUInt32.toNat := by
    change _ % ((2 ^ 32 : Nat) : Int) = _
    rw [Int32.toInt, BitVec.toInt_eq_toNat_bmod, Int.bmod_emod]
    exact Int.emod_eq_of_lt (Int.natCast_nonneg _) (by exact_mod_cast entry.level.toUInt32.toNat_lt)
  rw [BigEndian.encode_four_eq_wireForm, WireForm.int32, pattern, Int.toNat_natCast]

theorem Curve.tag_eq_wireForm (curve : Curve) : curve.tag = WireForm.curve curve := by
  cases curve <;> rfl

namespace Layout

theorem shortest_keyHash (owner : KeyHash) : owner.layout.shortest = WireForm.keyHash owner := by
  simp [KeyHash.layout, shortest, WireForm.keyHash, Curve.tag_eq_wireForm]

theorem shortest_publicKey (key : PublicKey) : key.layout.shortest = WireForm.publicKey key := by
  simp [PublicKey.layout, shortest, WireForm.publicKey, Curve.tag_eq_wireForm]

theorem shortest_address (address : Address) :
    address.layout.shortest = WireForm.address address := by
  cases address with
  | implicit owner =>
      simp [Address.layout, Address.body, shortest, shortest_keyHash, WireForm.address]
      rfl
  | originated hash =>
      simp [Address.layout, Address.body, shortest, WireForm.address]
      rfl

theorem shortest_optional {α : Type} {layout : α → Layout} {form : α → Bytes}
    (same : ∀ value, (layout value).shortest = form value) (value : Option α) :
    (Format.optionLayout layout value).shortest = WireForm.optional form value := by
  cases value with
  | none => rfl
  | some value => exact congrArg (0xff :: ·) (same value)

theorem shortest_payload (value : Payload) : value.layout.shortest = WireForm.payload value := by
  simp [Blob.layout, shortest, WireForm.payload, BigEndian.encode_four_eq_wireForm]

theorem shortest_entrypoint (entrypoint : Entrypoint) :
    entrypoint.layout.shortest = WireForm.entrypoint entrypoint := by
  cases entrypoint with
  | named name =>
      simp [Entrypoint.layout, Entrypoint.body, shortest, WireForm.entrypoint, Entrypoint.tag]
  | default | root | doLambda | setDelegate | removeDelegate => rfl

theorem shortest_parameters (call : Parameters) :
    call.layout.shortest = WireForm.parameters call := by
  rw [Parameters.layout, shortest_append, shortest_entrypoint, shortest_payload]
  rfl

theorem shortest_script (script : Script) : script.layout.shortest = WireForm.script script := by
  rw [Script.layout, shortest_append, shortest_payload, shortest_payload]
  rfl

theorem shortest_manager (manager : Manager) :
    manager.layout.shortest = WireForm.manager manager := by
  rw [Manager.layout, shortest_append, shortest_keyHash]
  simp [shortest, Zarith.encodeNat_eq_wireForm, WireForm.manager]

theorem shortest_entry (entry : Contents) : entry.layout.shortest = WireForm.entry entry := by
  have call := shortest_optional shortest_parameters
  have delegate := shortest_optional shortest_keyHash
  cases entry with
  | revelation entry =>
      simp [Contents.layout, Contents.body, Contents.kind, ContentsKind.tag, Revelation.body,
        shortest, shortest_manager, shortest_publicKey, WireForm.entry]
  | transaction entry =>
      simp [Contents.layout, Contents.body, Contents.kind, ContentsKind.tag, Transaction.body,
        shortest, shortest_manager, Zarith.encodeNat_eq_wireForm, shortest_address, call,
        WireForm.entry]
  | origination entry =>
      simp [Contents.layout, Contents.body, Contents.kind, ContentsKind.tag, Origination.body,
        shortest, shortest_manager, Zarith.encodeNat_eq_wireForm, delegate, shortest_script,
        WireForm.entry]
  | delegation entry =>
      simp [Contents.layout, Contents.body, Contents.kind, ContentsKind.tag, Delegation.body,
        shortest, shortest_manager, delegate, WireForm.entry]
  | endorsement entry =>
      simp [Contents.layout, Contents.body, Contents.kind, ContentsKind.tag, Endorsement.body,
        shortest, Endorsement.level_eq_wireForm, WireForm.entry]

theorem shortest_operation (operation : Operation) :
    operation.layout.shortest = WireForm.operation operation := by
  have entries : shortest (operation.contents.flatMap Contents.layout) =
      operation.contents.flatMap WireForm.entry := by
    induction operation.contents with
    | nil => rfl
    | cons entry entries ih =>
        rw [List.flatMap_cons, List.flatMap_cons, shortest_append, shortest_entry, ih]
  rw [Operation.layout, shortest_append, entries]
  simp [Identifier.layout, shortest, WireForm.operation]

end Layout

namespace Operation

/-- An operation that can be written is encoded as its wire form and as nothing else, and
the lengths of the fields add up to the length of the whole.  No form of a natural number
is shorter than the one that stands there. -/
theorem encode_eq_wireForm :
    (∀ operation bytes, format.encode operation = .ok bytes ↔
      operation.Writable ∧ bytes = WireForm.operation operation) ∧
    (∀ operation, (WireForm.operation operation).length =
      32 + (operation.contents.map WireForm.entryLength).sum) ∧
    (∀ number, Zarith.decodeUnsigned (WireForm.natural number) = .ok number) ∧
    ∀ number groups, Zarith.decodeUnsigned groups = .ok number →
      WireForm.naturalLength number ≤ groups.length := by
  refine ⟨?_, WireForm.length_operation, ?_, ?_⟩
  · intro operation bytes
    rw [encode_eq_ok_iff, Layout.shortest_operation]
  · intro number
    rw [← Zarith.encodeNat_eq_wireForm, Zarith.decodeUnsigned_eq_ok_iff]
    exact ⟨Zarith.number_encodeNat number, Zarith.natOfGroups_encodeNat number⟩
  · intro number groups decoded
    rcases (Zarith.decodeUnsigned_eq_ok_iff groups number).mp decoded with ⟨form, rfl⟩
    rw [WireForm.naturalLength, ← Zarith.length_encodeNat]
    exact form.length_encodeNat_le

/-- The bytes of the withdrawal, and a longer form of its fee. -/
theorem withdrawal_wireForm :
    format.encode withdrawal = .ok (List.replicate 32 0x0b ++ [0x6e, 0x00] ++
      List.replicate 20 0x0a ++ [0x01, 0x02, 0x03, 0x04, 0x00]) ∧
      WireForm.naturalLength 1 ≤ ([0x81, 0x80, 0x00] : Bytes).length := by
  rcases encode_eq_wireForm with ⟨encoded, -, -, least⟩
  constructor
  · apply (encoded _ _).mpr
    decide +kernel
  · apply least
    decide +kernel

end Operation

end OperationForge
