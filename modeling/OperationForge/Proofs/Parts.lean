import OperationForge.Operation.Contents
import OperationForge.Operation.Identifier
import OperationForge.Proofs.Conformance

/-!
# Layouts of the parts of an entry

The wire forms of hashes, keys, addresses, calls, scripts and manager fields, part
by part, and the proofs that the formats follow them.  Among these only the names
of entrypoints can be too long to write, and only the manager fields hold numbers
that may be padded.
-/

namespace OperationForge

/-! ## Hashes, keys and addresses -/

/-- The bytes of the hash. -/
def Identifier.layout {kind : Prefix} (identifier : Identifier kind) : Layout :=
  [.fixed identifier.bytes.toList]

@[simp] theorem Identifier.numbers_layout {kind : Prefix} (identifier : Identifier kind) :
    identifier.layout.numbers = [] :=
  rfl

theorem Identifier.format_follows (kind : Prefix) :
    (Identifier.format kind).Follows (fun _ => True) Identifier.layout := by
  apply (Format.block_follows 32).translate
  · intro identifier
    rfl
  · intro block
    rfl

theorem Curve.tag_of_ofTag? {tag : UInt8} {curve : Curve}
    (found : Curve.ofTag? tag = some curve) : curve.tag = tag := by
  simpa using List.find?_some found

/-- The tag of the curve and the hash. -/
def KeyHash.layout (owner : KeyHash) : Layout :=
  [.fixed [owner.curve.tag], .fixed owner.hash.toList]

@[simp] theorem KeyHash.numbers_layout (owner : KeyHash) : owner.layout.numbers = [] := rfl

theorem KeyHash.format_follows : KeyHash.format.Follows (fun _ => True) KeyHash.layout where
  recognizes := by
    apply Reader.Recognizes.tagged (fun _ _ => Curve.tag_of_ofTag?) (fun _ => Curve.ofTag?_tag _)
    intro _ curve _
    apply ((Reader.Recognizes.take 20).bind fun hash _ _ =>
      Reader.Recognizes.pure (KeyHash.mk curve hash)).congr
    intro owner used
    rw [Layout.spelledBy_singleton_iff]
    constructor
    · intro spelled
      rcases spelled with ⟨hash, _, _, rfl, ⟨rfl, rfl⟩, rfl⟩
      exact ⟨rfl, trivial, List.append_nil _⟩
    · intro spelled
      rcases spelled with ⟨rfl, -, rfl⟩
      exact ⟨owner.hash, _, [], rfl, ⟨rfl, rfl⟩, (List.append_nil _).symm⟩
  write_eq owner _ := by
    simp [KeyHash.format, KeyHash.layout, Layout.shortest]
  writable_of_write _ _ _ := trivial

/-- The tag of the curve and the bytes of the key. -/
def PublicKey.layout (key : PublicKey) : Layout :=
  [.fixed [key.curve.tag], .fixed key.bytes.toList]

@[simp] theorem PublicKey.numbers_layout (key : PublicKey) : key.layout.numbers = [] := rfl

theorem PublicKey.format_follows :
    PublicKey.format.Follows (fun _ => True) PublicKey.layout where
  recognizes := by
    apply Reader.Recognizes.tagged (fun _ _ => Curve.tag_of_ofTag?) (fun _ => Curve.ofTag?_tag _)
    intro _ curve _
    apply ((Reader.Recognizes.take curve.publicKeyLength).bind fun bytes _ _ =>
      Reader.Recognizes.pure (PublicKey.mk curve bytes)).congr
    intro key used
    rw [Layout.spelledBy_singleton_iff]
    constructor
    · intro spelled
      rcases spelled with ⟨bytes, _, _, rfl, ⟨rfl, rfl⟩, rfl⟩
      exact ⟨rfl, trivial, List.append_nil _⟩
    · intro spelled
      rcases spelled with ⟨rfl, -, rfl⟩
      exact ⟨key.bytes, _, [], rfl, ⟨rfl, rfl⟩, (List.append_nil _).symm⟩
  write_eq key _ := by
    simp [PublicKey.format, PublicKey.layout, Layout.shortest]
  writable_of_write _ _ _ := trivial

/-- The byte for a kind of account. -/
def AccountKind.tag : AccountKind → UInt8
  | implicit => 0
  | originated => 1

namespace Address

/-- What stands behind the byte for the kind of account.  The hash of a contract is
filled up with a zero to the length of a key hash with its tag. -/
def body : Address → Layout
  | implicit owner => owner.layout
  | originated hash => [.fixed hash.toList, .fixed [0]]

/-- The kind of account, and then what names it. -/
def layout (address : Address) : Layout :=
  .fixed [address.kind.tag] :: address.body

@[simp] theorem numbers_layout (address : Address) : address.layout.numbers = [] := by
  cases address <;> rfl

theorem tag_of_kindOfTag? {byte : UInt8} {kind : AccountKind}
    (found : kindOfTag? byte = some kind) : kind.tag = byte := by
  unfold kindOfTag? at found
  split at found
  · cases found
    simp_all [AccountKind.tag]
  · split at found
    · cases found
      simp_all [AccountKind.tag]
    · cases found

@[simp] theorem kindOfTag?_tag (kind : AccountKind) : kindOfTag? kind.tag = some kind := by
  cases kind <;> rfl

theorem readPadding_recognizes : readPadding.Recognizes fun _ used => used = [0] := by
  apply (Reader.Recognizes.choose .addressPadding _).congr
  intro value used
  simp

theorem format_follows : format.Follows (fun _ => True) layout where
  recognizes := by
    apply Reader.Recognizes.tagged (fun _ _ => tag_of_kindOfTag?) (fun _ => kindOfTag?_tag _)
    intro _ kind _
    cases kind with
    | implicit =>
        apply (KeyHash.format_follows.recognizes.map implicit).congr
        intro address used
        cases address <;> simp [Address.kind, body]
    | originated =>
        apply ((Reader.Recognizes.take 20).bind fun hash _ _ =>
          readPadding_recognizes.bind fun _ _ _ => Reader.Recognizes.pure (originated hash)).congr
        intro address used
        cases address with
        | implicit owner => simp [Address.kind]
        | originated hash => simp [Address.kind, body, Layout.spelledBy_fixed_iff]
  write_eq address _ := by
    cases address with
    | implicit owner =>
        change Output.wrote [0] ++ KeyHash.format.write owner = _
        rw [KeyHash.format_follows.write_eq owner trivial]
        rfl
    | originated hash =>
        simp [format, layout, body, Address.kind, AccountKind.tag, Layout.shortest]
  writable_of_write _ _ _ := trivial

end Address

/-! ## Calls and scripts -/

namespace Blob

variable {bound : Nat}

/-- The length in four bytes, and then the bytes. -/
def layout (blob : Blob bound) : Layout :=
  [.fixed (BigEndian.encode 4 blob.bytes.length), .fixed blob.bytes]

@[simp] theorem numbers_layout (blob : Blob bound) : blob.layout.numbers = [] := rfl

theorem length_lt (blob : Blob bound) : blob.bytes.length < 2 ^ 32 := by
  have short : blob.bytes.length ≤ hardLimit := Nat.le_trans blob.length_le (Nat.min_le_right ..)
  exact Nat.lt_of_le_of_lt short (by decide)

theorem toNat_length (blob : Blob bound) :
    (UInt32.ofNat blob.bytes.length).toNat = blob.bytes.length := by
  rw [UInt32.toNat_ofNat', Nat.mod_eq_of_lt blob.length_lt]

theorem readBody_recognizes (length : Nat) :
    (readBody length : Reader (Blob bound)).Recognizes fun blob used =>
      blob.bytes = used ∧ used.length = length := by
  unfold readBody
  split
  · next short =>
      apply ((Reader.Recognizes.take length).map _).congr
      intro blob used
      constructor
      · intro spelled
        rcases spelled with ⟨body, rfl, rfl⟩
        exact ⟨rfl, body.length_toList⟩
      · intro spelled
        rcases spelled with ⟨rfl, exact⟩
        exact ⟨⟨blob.bytes, exact⟩, rfl, rfl⟩
  · next long =>
      apply (Reader.Recognizes.fail _).congr
      intro blob used
      constructor
      · intro impossible
        contradiction
      · intro spelled
        rcases spelled with ⟨rfl, rfl⟩
        exact long blob.length_le

theorem format_follows (bound : Nat) : (format bound).Follows (fun _ => True) layout where
  recognizes := by
    apply (Format.uint32_follows.recognizes.bind fun length _ _ =>
      readBody_recognizes length.toNat).congr
    intro blob used
    rw [layout, Layout.spelledBy_fixed_iff]
    simp only [Layout.spelledBy_singleton_iff]
    constructor
    · intro spelled
      rcases spelled with ⟨length, _, _, ⟨-, rfl⟩, ⟨rfl, exact⟩, rfl⟩
      exact ⟨trivial, _, rfl, by rw [exact]⟩
    · intro spelled
      rcases spelled with ⟨-, _, rfl, rfl⟩
      exact ⟨UInt32.ofNat blob.bytes.length, _, _, ⟨trivial, by rw [blob.toNat_length]⟩,
        ⟨rfl, blob.toNat_length.symm⟩, rfl⟩
  write_eq blob _ := by
    have fits : ¬capacity bound < blob.bytes.length := Nat.not_lt.mpr blob.length_le
    simp only [format, fits, if_false, Format.uint32_follows.write_eq _ trivial]
    simp [layout, Layout.shortest, blob.toNat_length]
  writable_of_write _ _ _ := trivial

end Blob

namespace Entrypoint

/-- Whether the entrypoint can be written: one byte has to hold the length of a name. -/
def Writable : Entrypoint → Prop
  | named name => (Utf8.encode name).length ≤ maxNameLength
  | _ => True

instance : DecidablePred Writable := fun entrypoint =>
  match entrypoint with
  | named name => inferInstanceAs (Decidable ((Utf8.encode name).length ≤ maxNameLength))
  | default | root | doLambda | setDelegate | removeDelegate =>
      inferInstanceAs (Decidable True)

/-- What the tag of an entrypoint announces. -/
def announcement : Entrypoint → Option Entrypoint
  | named _ => none
  | reserved => some reserved

/-- The tag that makes an announcement. -/
def announcementTag : Option Entrypoint → UInt8
  | none => 255
  | some reserved => reserved.tag

/-- What stands behind the tag: a name with its length in one byte. -/
def body : Entrypoint → Layout
  | named name => [.fixed [UInt8.ofNat (Utf8.encode name).length], .fixed (Utf8.encode name)]
  | _ => []

/-- The tag, and for a named entrypoint the length of the name and the name. -/
def layout (entrypoint : Entrypoint) : Layout :=
  .fixed [entrypoint.tag] :: entrypoint.body

@[simp] theorem numbers_layout (entrypoint : Entrypoint) : entrypoint.layout.numbers = [] := by
  cases entrypoint <;> rfl

theorem announcementTag_of_announced? {tag : UInt8} {announced : Option Entrypoint}
    (found : announced? tag = some announced) : announcementTag announced = tag := by
  unfold announced? at found
  split at found
  · next isName =>
      cases found
      exact isName.symm
  · rcases Option.map_eq_some_iff.mp found with ⟨entrypoint, selected, rfl⟩
    simpa [announcementTag] using List.find?_some selected

@[simp] theorem announced?_announcementTag (entrypoint : Entrypoint) :
    announced? (announcementTag entrypoint.announcement) = some entrypoint.announcement := by
  cases entrypoint <;> rfl

theorem announcementTag_announcement (entrypoint : Entrypoint) :
    announcementTag entrypoint.announcement = entrypoint.tag := by
  cases entrypoint <;> rfl

/-- The end of reading a name, once its bytes are there. -/
theorem ofUtf8_recognizes (bytes : Bytes) :
    (match Utf8.decode bytes with
      | .ok name => pure (named name)
      | .error fault => Reader.fail (.invalidUtf8 fault) : Reader Entrypoint).Recognizes
        fun entrypoint used =>
          ∃ name, Utf8.encode name = bytes ∧ entrypoint = named name ∧ used = [] := by
  split
  · next name decoded =>
      apply (Reader.Recognizes.pure (named name)).congr
      intro entrypoint used
      constructor
      · intro spelled
        exact ⟨name, Utf8.encode_of_decode decoded, spelled.1, spelled.2⟩
      · intro spelled
        rcases spelled with ⟨other, rfl, rfl, rfl⟩
        rw [Utf8.decode_encode] at decoded
        cases decoded
        exact ⟨rfl, rfl⟩
  · next fault refused =>
      apply (Reader.Recognizes.fail _).congr
      intro entrypoint used
      constructor
      · intro impossible
        contradiction
      · intro spelled
        rcases spelled with ⟨name, rfl, -, -⟩
        rw [Utf8.decode_encode] at refused
        cases refused

theorem readName_recognizes :
    readName.Recognizes fun entrypoint used =>
      entrypoint.announcement = none ∧ entrypoint.Writable ∧
        entrypoint.body.SpelledBy used := by
  apply (Reader.Recognizes.byte.bind fun length _ _ =>
    (Reader.Recognizes.takeList length.toNat).bind fun bytes _ _ => ofUtf8_recognizes bytes).congr
  intro entrypoint used
  constructor
  · intro spelled
    rcases spelled with
      ⟨length, _, _, rfl, ⟨_, _, _, ⟨rfl, exact⟩, ⟨name, rfl, rfl, rfl⟩, rfl⟩, rfl⟩
    refine ⟨rfl, ?_, ?_⟩
    · rw [Writable, exact]
      exact Nat.le_of_lt_succ length.toNat_lt
    · rw [body, Layout.spelledBy_fixed_iff]
      refine ⟨Utf8.encode name, Layout.spelledBy_singleton_iff _ _ |>.mpr rfl, ?_⟩
      rw [exact, UInt8.ofNat_toNat, List.append_nil]
  · intro spelled
    rcases spelled with ⟨unnamed, short, spelled⟩
    cases entrypoint with
    | named name =>
        rw [body, Layout.spelledBy_fixed_iff] at spelled
        simp only [Layout.spelledBy_singleton_iff] at spelled
        rcases spelled with ⟨_, rfl, rfl⟩
        refine ⟨UInt8.ofNat (Utf8.encode name).length, _, _, rfl,
          ⟨Utf8.encode name, _, [], ⟨rfl, ?_⟩, ⟨name, rfl, rfl, rfl⟩, (List.append_nil _).symm⟩, rfl⟩
        have below : (Utf8.encode name).length < 2 ^ 8 := Nat.lt_succ_of_le short
        rw [UInt8.toNat_ofNat', Nat.mod_eq_of_lt below]
    | default | root | doLambda | setDelegate | removeDelegate => cases unnamed

theorem announcement_of_announced? {tag : UInt8} {reserved : Entrypoint}
    (found : announced? tag = some (some reserved)) : reserved.announcement = some reserved := by
  unfold announced? at found
  split at found
  · cases found
  · rcases Option.map_eq_some_iff.mp found with ⟨entrypoint, selected, equal⟩
    cases equal
    have member := List.mem_of_find?_eq_some selected
    cases reserved with
    | named name => simp [Entrypoint.reserved] at member
    | default | root | doLambda | setDelegate | removeDelegate => rfl

theorem eq_of_announcement {entrypoint reserved : Entrypoint}
    (announces : entrypoint.announcement = some reserved) : entrypoint = reserved := by
  cases entrypoint <;> cases announces <;> rfl

theorem reserved_recognizes {reserved : Entrypoint}
    (announces : reserved.announcement = some reserved) :
    (pure reserved : Reader Entrypoint).Recognizes fun entrypoint used =>
      entrypoint.announcement = some reserved ∧ entrypoint.Writable ∧
        entrypoint.body.SpelledBy used := by
  apply (Reader.Recognizes.pure reserved).congr
  intro entrypoint used
  constructor
  · intro spelled
    rcases spelled with ⟨rfl, rfl⟩
    refine ⟨announces, ?_⟩
    cases entrypoint with
    | named name => cases announces
    | default | root | doLambda | setDelegate | removeDelegate =>
        exact ⟨trivial, (Layout.spelledBy_nil_iff []).mpr rfl⟩
  · intro spelled
    rcases spelled with ⟨same, -, spelled⟩
    obtain rfl := eq_of_announcement same
    refine ⟨rfl, ?_⟩
    cases entrypoint with
    | named name => cases announces
    | default | root | doLambda | setDelegate | removeDelegate =>
        exact (Layout.spelledBy_nil_iff used).mp spelled

theorem format_follows : format.Follows Writable layout where
  recognizes := by
    apply (Reader.Recognizes.tagged (fun _ _ => announcementTag_of_announced?)
      announced?_announcementTag fun _ announced found =>
        match announced, found with
        | none, _ => readName_recognizes
        | some _, found => reserved_recognizes (announcement_of_announced? found)).congr
    intro entrypoint used
    rw [announcementTag_announcement, layout]
  write_eq entrypoint short := by
    cases entrypoint with
    | named name =>
        have fits : ¬ maxNameLength < (Utf8.encode name).length := Nat.not_lt.mpr short
        simp [format, writeName, fits, layout, body, Layout.shortest]
    | default | root | doLambda | setDelegate | removeDelegate => rfl
  writable_of_write entrypoint bytes written := by
    cases entrypoint with
    | named name =>
        apply Nat.le_of_not_lt
        intro long
        simp only [format, writeName, long, if_true] at written
        cases congrArg Output.error? written
    | default | root | doLambda | setDelegate | removeDelegate => trivial

end Entrypoint

namespace Parameters

/-- Whether the call can be written. -/
def Writable (call : Parameters) : Prop := call.entrypoint.Writable

instance : DecidablePred Writable := fun call =>
  inferInstanceAs (Decidable call.entrypoint.Writable)

/-- The entrypoint, and then the argument. -/
def layout (call : Parameters) : Layout := call.entrypoint.layout ++ call.value.layout

@[simp] theorem numbers_layout (call : Parameters) : call.layout.numbers = [] := by
  simp [layout]

theorem format_eq_pair :
    format = (Entrypoint.format.pair (Blob.format Blob.hardLimit)).translate
      (fun parts => ⟨parts.1, parts.2⟩) (fun call => (call.entrypoint, call.value)) := by
  simp [format, Format.pair, Format.translate]

theorem format_follows : format.Follows Writable layout := by
  rw [format_eq_pair]
  have parts := Entrypoint.format_follows.pair (Blob.format_follows Blob.hardLimit)
  apply (parts.translate (fun _ => rfl) (fun _ => rfl)).congr
  · intro call
    exact and_iff_left trivial
  · intro call
    rfl

end Parameters

namespace Script

/-- The code, and then the storage. -/
def layout (script : Script) : Layout := script.code.layout ++ script.storage.layout

@[simp] theorem numbers_layout (script : Script) : script.layout.numbers = [] := by
  simp [layout]

theorem format_eq_pair :
    format = ((Blob.format Blob.hardLimit).pair (Blob.format Blob.hardLimit)).translate
      (fun parts => ⟨parts.1, parts.2⟩) (fun script => (script.code, script.storage)) := by
  simp [format, Format.pair, Format.translate]

theorem format_follows : format.Follows (fun _ => True) layout := by
  rw [format_eq_pair]
  have part := Blob.format_follows Blob.hardLimit
  apply ((part.pair part).translate (fun _ => rfl) (fun _ => rfl)).congr
  · intro script
    exact and_self_iff
  · intro script
    rfl

end Script

/-! ## Manager fields -/

namespace Manager

/-- The source, and then the four numbers. -/
def layout (manager : Manager) : Layout :=
  manager.source.layout ++
    [.number manager.fee, .number manager.counter, .number manager.gasLimit,
      .number manager.storageLimit]

/-- The natural numbers, in the order of the wire. -/
def naturals (manager : Manager) : List Nat :=
  [manager.fee, manager.counter, manager.gasLimit, manager.storageLimit]

@[simp] theorem numbers_layout (manager : Manager) : manager.layout.numbers = manager.naturals :=
  rfl

theorem format_eq_pair :
    format = (KeyHash.format.pair (Zarith.natural.pair (Zarith.natural.pair
      (Zarith.natural.pair Zarith.natural)))).translate
        (fun parts => ⟨parts.1, parts.2.1, parts.2.2.1, parts.2.2.2.1, parts.2.2.2.2⟩)
        (fun manager => (manager.source, manager.fee, manager.counter, manager.gasLimit,
          manager.storageLimit)) := by
  simp [format, Format.pair, Format.translate, Output.append_assoc]

theorem format_follows : format.Follows (fun _ => True) layout := by
  rw [format_eq_pair]
  have number := Zarith.natural_follows
  have parts := KeyHash.format_follows.pair
    (number.pair (number.pair (number.pair number)))
  apply (parts.translate (fun _ => rfl) (fun _ => rfl)).congr
  · intro manager
    simp
  · intro manager
    rfl

end Manager

end OperationForge
