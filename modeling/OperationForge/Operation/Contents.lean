import OperationForge.Key.Public
import OperationForge.Operation.Parameters
import OperationForge.Zarith.Natural

/-!
# Contents of operations

An operation holds entries of five kinds.  Each starts with the tag of its kind.  All kinds but the
endorsement are paid for and signed by a source account, and begin with the same manager fields.
-/

namespace OperationForge

/-- What all entries with a source begin with. -/
structure Manager where
  source : KeyHash
  fee : Nat
  counter : Nat
  gasLimit : Nat
  storageLimit : Nat
  deriving DecidableEq

/-- Makes the public key of the source known. -/
structure Revelation where
  manager : Manager
  publicKey : PublicKey
  deriving DecidableEq

/-- Moves funds, and may call a contract. -/
structure Transaction where
  manager : Manager
  amount : Nat
  destination : Address
  parameters : Option Parameters
  deriving DecidableEq

/-- Makes the account of a new contract. -/
structure Origination where
  manager : Manager
  balance : Nat
  delegate : Option KeyHash
  script : Script
  deriving DecidableEq

/-- Sets or withdraws the delegate of the source. -/
structure Delegation where
  manager : Manager
  delegate : Option KeyHash
  deriving DecidableEq

/-- Endorses the block of a level. -/
structure Endorsement where
  level : Int32
  deriving DecidableEq

/-- One entry of an operation. -/
inductive Contents where
  | revelation (entry : Revelation)
  | transaction (entry : Transaction)
  | origination (entry : Origination)
  | delegation (entry : Delegation)
  | endorsement (entry : Endorsement)
  deriving DecidableEq

/-- The kind of an entry. -/
inductive ContentsKind where
  | endorsement
  | revelation
  | transaction
  | origination
  | delegation
  deriving DecidableEq, Repr

namespace ContentsKind

/-- The byte that an entry of the kind starts with. -/
def tag : ContentsKind → UInt8
  | endorsement => 0
  | revelation => 107
  | transaction => 108
  | origination => 109
  | delegation => 110

/-- The kind with the given tag. -/
def ofTag? (tag : UInt8) : Option ContentsKind :=
  [endorsement, revelation, transaction, origination, delegation].find? fun kind => kind.tag = tag

@[simp] theorem ofTag?_tag (kind : ContentsKind) : ofTag? kind.tag = some kind := by
  cases kind <;> rfl

theorem tag_of_ofTag? {tag : UInt8} {kind : ContentsKind} (found : ofTag? tag = some kind) :
    kind.tag = tag := by
  simpa using List.find?_some found

end ContentsKind

/-- The source, and then the four numbers. -/
def Manager.format : Format Manager where
  read := do
    let source ← KeyHash.format.read
    let fee ← Zarith.natural.read
    let counter ← Zarith.natural.read
    let gasLimit ← Zarith.natural.read
    let storageLimit ← Zarith.natural.read
    pure { source, fee, counter, gasLimit, storageLimit }
  write manager :=
    KeyHash.format.write manager.source ++ Zarith.natural.write manager.fee ++
      Zarith.natural.write manager.counter ++ Zarith.natural.write manager.gasLimit ++
      Zarith.natural.write manager.storageLimit

/-- An entry of a known kind: its tag, and then what `body` describes. -/
def ContentsKind.tagged {α : Type} (kind : ContentsKind) (body : Format α) : Format α where
  read := do
    Reader.expectTag kind.tag
    body.read
  write entry := .wrote [kind.tag] ++ body.write entry

/-- The manager fields, and then the key. -/
def Revelation.format : Format Revelation :=
  ContentsKind.revelation.tagged {
    read := do
      let manager ← Manager.format.read
      let publicKey ← PublicKey.format.read
      pure { manager, publicKey }
    write := fun entry =>
      Manager.format.write entry.manager ++ PublicKey.format.write entry.publicKey }

/-- The manager fields, the amount, the destination and the call if there is one. -/
def Transaction.format : Format Transaction :=
  ContentsKind.transaction.tagged {
    read := do
      let manager ← Manager.format.read
      let amount ← Zarith.natural.read
      let destination ← Address.format.read
      let parameters ← Parameters.format.option.read
      pure { manager, amount, destination, parameters }
    write := fun entry =>
      Manager.format.write entry.manager ++ Zarith.natural.write entry.amount ++
        Address.format.write entry.destination ++
        Parameters.format.option.write entry.parameters }

/-- The manager fields, the balance, the delegate if there is one and the script. -/
def Origination.format : Format Origination :=
  ContentsKind.origination.tagged {
    read := do
      let manager ← Manager.format.read
      let balance ← Zarith.natural.read
      let delegate ← KeyHash.format.option.read
      let script ← Script.format.read
      pure { manager, balance, delegate, script }
    write := fun entry =>
      Manager.format.write entry.manager ++ Zarith.natural.write entry.balance ++
        KeyHash.format.option.write entry.delegate ++ Script.format.write entry.script }

/-- The manager fields, and the delegate if there is one. -/
def Delegation.format : Format Delegation :=
  ContentsKind.delegation.tagged {
    read := do
      let manager ← Manager.format.read
      let delegate ← KeyHash.format.option.read
      pure { manager, delegate }
    write := fun entry =>
      Manager.format.write entry.manager ++ KeyHash.format.option.write entry.delegate }

/-- The level in four bytes. -/
def Endorsement.format : Format Endorsement :=
  ContentsKind.endorsement.tagged
    (Format.int32.translate Endorsement.mk Endorsement.level)

namespace Contents

/-- The kind of an entry. -/
def kind : Contents → ContentsKind
  | revelation _ => .revelation
  | transaction _ => .transaction
  | origination _ => .origination
  | delegation _ => .delegation
  | endorsement _ => .endorsement

/-- The manager fields of an entry that has a source. -/
def manager? : Contents → Option Manager
  | revelation entry => some entry.manager
  | transaction entry => some entry.manager
  | origination entry => some entry.manager
  | delegation entry => some entry.manager
  | endorsement _ => none

/-- The account that an entry comes from, if it has a source. -/
def source? (entry : Contents) : Option Address :=
  entry.manager?.map fun manager => .implicit manager.source

/-- Reads an entry of a known kind, with its tag. -/
def readKind : ContentsKind → Reader Contents
  | .revelation => revelation <$> Revelation.format.read
  | .transaction => transaction <$> Transaction.format.read
  | .origination => origination <$> Origination.format.read
  | .delegation => delegation <$> Delegation.format.read
  | .endorsement => endorsement <$> Endorsement.format.read

/-- The tag that comes next decides how the entry is read.  A tag of no kind stays unread. -/
def read : Reader Contents := do
  match ← Reader.peek with
  | none => Reader.fail .outOfBounds
  | some tag =>
      match ContentsKind.ofTag? tag with
      | none => Reader.fail (.invalidVariant .contents tag)
      | some kind => readKind kind

theorem rest_readKind_suffix (kind : ContentsKind) (tag : UInt8) (body : Bytes) :
    ((readKind kind).run (tag :: body)).rest <:+ body := by
  have tagged {α : Type} (kind : ContentsKind) (inner : Format α) :
      ((kind.tagged inner).read.run (tag :: body)).rest <:+ body := by
    simpa [ContentsKind.tagged] using
      Reader.rest_bind_suffix (Reader.expectTag kind.tag) (fun _ => inner.read) (tag :: body)
  cases kind <;> simp only [readKind, Reader.rest_map] <;> exact tagged _ _

/-- An entry that was read has taken up some of the input. -/
theorem rest_shorter {input rest : Bytes} {entry : Contents}
    (answer : read.run input = ⟨.ok entry, rest⟩) : rest.length < input.length := by
  unfold read at answer
  rw [Reader.run_bind, Reader.run_peek] at answer
  match input with
  | [] => simp at answer
  | tag :: body =>
      simp only [List.head?_cons] at answer
      split at answer
      · simp at answer
      · next kind _ =>
          have shorter := (rest_readKind_suffix kind tag body).length_le
          rw [answer] at shorter
          simpa using Nat.lt_succ_of_le shorter

/-- Entries of any kind. -/
def format : Format Contents where
  read := read
  write
    | revelation entry => Revelation.format.write entry
    | transaction entry => Transaction.format.write entry
    | origination entry => Origination.format.write entry
    | delegation entry => Delegation.format.write entry
    | endorsement entry => Endorsement.format.write entry

end Contents

end OperationForge
