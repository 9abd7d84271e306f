import OperationForge.Operation.Basic
import OperationForge.Proofs.Entries
import OperationForge.Proofs.Results

/-!
# Layout of operations

An operation is spelled by its branch and its entries, one after the other.  Nothing
on the wire tells how many entries there are: reading goes on to the end of the
input, and every entry takes some of it.  What is decoded are exactly the spellings
of operations, and what is encoded is the shortest spelling.
-/

namespace OperationForge.Operation

/-- The branch, and then the entries. -/
def layout (operation : Operation) : Layout :=
  operation.branch.layout ++ operation.contents.flatMap Contents.layout

/-- The natural numbers of all entries, in the order of the wire. -/
def naturals (operation : Operation) : List Nat :=
  operation.contents.flatMap Contents.naturals

theorem numbers_layout (operation : Operation) :
    operation.layout.numbers = operation.naturals := by
  rw [layout, naturals, Layout.numbers_append, Identifier.numbers_layout, List.nil_append]
  induction operation.contents with
  | nil => rfl
  | cons entry entries ih =>
      rw [List.flatMap_cons, List.flatMap_cons, Layout.numbers_append, Contents.numbers_layout, ih]

/-- Whether the operation can be written. -/
def Writable (operation : Operation) : Prop :=
  ∀ entry ∈ operation.contents, entry.Writable

instance : DecidablePred Writable := fun operation =>
  inferInstanceAs (Decidable (∀ entry ∈ operation.contents, entry.Writable))

/-! ## Reading up to the end -/

/-- One entry more is read in front of the others. -/
theorem scanContents_of_run_read {input rest : Bytes} {entry : Contents}
    (answer : Contents.read.run input = ⟨.ok entry, rest⟩) :
    scanContents input =
      ⟨(scanContents rest).outcome.map (entry :: ·), (scanContents rest).rest⟩ := by
  rcases Contents.exists_tag_of_run_read answer with ⟨kind, behind, rfl⟩
  rw [scanContents]
  split
  · next error left refused =>
      rw [answer] at refused
      cases refused
  · next other left again =>
      rw [answer] at again
      cases again
      rfl

/-- Entries that were read are spelled by the whole input. -/
theorem spelled_of_scanContents (input rest : Bytes) (contents : List Contents) :
    scanContents input = ⟨.ok contents, rest⟩ →
      rest = [] ∧ (∀ entry ∈ contents, entry.Writable) ∧
        Layout.SpelledBy (contents.flatMap Contents.layout) input := by
  fun_induction scanContents input generalizing contents with
  | case1 =>
      intro answer
      cases answer
      exact ⟨rfl, List.forall_mem_nil _, (Layout.spelledBy_nil_iff []).mpr rfl⟩
  | case2 tag behind error left refused =>
      intro answer
      cases answer
  | case3 tag behind entry left first tail ih =>
      intro answer
      cases others : tail.outcome with
      | error error =>
          rw [others] at answer
          cases answer
      | ok entries =>
          rw [others] at answer
          cases answer
          rcases ih entries (congrArg (Read.mk · tail.rest) others) with
            ⟨nothingLeft, othersCan, othersSpelled⟩
          -- The input splits where reading the first entry stopped.
          rcases (Contents.read_recognizes _ _ _).mp first with ⟨used, ⟨firstCan, spelled⟩, split⟩
          rw [split]
          exact ⟨nothingLeft, List.forall_mem_cons.mpr ⟨firstCan, othersCan⟩,
            spelled.append othersSpelled⟩

/-- The entries are read from each of their spellings. -/
theorem scanContents_of_spelled {contents : List Contents} {input : Bytes}
    (canWrite : ∀ entry ∈ contents, entry.Writable)
    (spelled : Layout.SpelledBy (contents.flatMap Contents.layout) input) :
    scanContents input = ⟨.ok contents, []⟩ := by
  induction contents generalizing input with
  | nil =>
      cases (Layout.spelledBy_nil_iff input).mp spelled
      rw [scanContents]
  | cons entry entries ih =>
      rw [List.flatMap_cons, Layout.spelledBy_append_iff] at spelled
      rcases spelled with ⟨front, back, first, others, rfl⟩
      rcases List.forall_mem_cons.mp canWrite with ⟨firstCan, othersCan⟩
      have answer := Contents.read_recognizes.run_append ⟨firstCan, first⟩ back
      rw [scanContents_of_run_read answer, ih othersCan others]
      rfl

/-! ## Whole operations -/

/-- What is decoded are the spellings of operations that can be written. -/
theorem decode_eq_ok_iff (input : Bytes) (operation : Operation) :
    format.decode input = .ok operation ↔
      operation.Writable ∧ operation.layout.SpelledBy input := by
  rw [Format.decode, Reader.exactly_eq_ok_iff, layout, Layout.spelledBy_append_iff]
  have branch := (Identifier.format_follows .blockHash).recognizes
  constructor
  · intro answer
    rcases Reader.run_bind_eq_ok_iff.mp answer with ⟨block, between, blockRead, answer⟩
    rcases Reader.run_bind_eq_ok_iff.mp answer with ⟨contents, left, contentsRead, answer⟩
    split at answer
    · cases answer
      rcases (branch _ _ _).mp blockRead with ⟨front, ⟨-, blockSpelled⟩, rfl⟩
      rcases spelled_of_scanContents _ _ _ contentsRead with ⟨-, canWrite, contentsSpelled⟩
      exact ⟨canWrite, front, between, blockSpelled, contentsSpelled, rfl⟩
    · cases answer
  · intro spelled
    rcases spelled with ⟨canWrite, front, back, blockSpelled, contentsSpelled, rfl⟩
    apply Reader.run_bind_eq_ok_iff.mpr
    refine ⟨operation.branch, back, branch.run_append ⟨trivial, blockSpelled⟩ back, ?_⟩
    apply Reader.run_bind_eq_ok_iff.mpr
    refine ⟨operation.contents, [], scanContents_of_spelled canWrite contentsSpelled, ?_⟩
    rw [dif_pos operation.contents_ne_nil]
    rfl

theorem concat_write_eq_wrote_iff (contents : List Contents) (bytes : Bytes) :
    Output.concat (contents.map Contents.format.write) = .wrote bytes ↔
      (∀ entry ∈ contents, entry.Writable) ∧
        bytes = Layout.shortest (contents.flatMap Contents.layout) := by
  induction contents generalizing bytes with
  | nil =>
      constructor
      · intro written
        exact ⟨List.forall_mem_nil _, (congrArg Output.bytes written).symm⟩
      · intro spelled
        rw [spelled.2]
        rfl
  | cons entry entries ih =>
      rw [List.map_cons, Output.concat_cons, Output.append_eq_wrote_iff, List.forall_mem_cons,
        List.flatMap_cons, Layout.shortest_append]
      simp only [Contents.format_follows.write_eq_wrote_iff, ih]
      constructor
      · intro written
        rcases written with ⟨_, _, ⟨first, rfl⟩, ⟨others, rfl⟩, rfl⟩
        exact ⟨⟨first, others⟩, rfl⟩
      · intro spelled
        rcases spelled with ⟨⟨first, others⟩, rfl⟩
        exact ⟨_, _, ⟨first, rfl⟩, ⟨others, rfl⟩, rfl⟩

/-- There always are entries, and the bytes of the branch never stop the writing. -/
theorem write_eq (operation : Operation) :
    format.write operation =
      .wrote operation.branch.bytes.toList ++
        Output.concat (operation.contents.map Contents.format.write) := by
  have nonempty : ¬operation.contents = [] := operation.contents_ne_nil
  simp only [format, nonempty, if_false]
  rfl

/-- What is encoded is the shortest spelling. -/
theorem encode_eq_ok_iff (operation : Operation) (bytes : Bytes) :
    format.encode operation = .ok bytes ↔
      operation.Writable ∧ bytes = operation.layout.shortest := by
  have branch : operation.branch.layout.shortest = operation.branch.bytes.toList :=
    List.append_nil _
  rw [Format.encode, Output.toExcept_eq_ok_iff, layout, Layout.shortest_append, branch, write_eq]
  simp only [Output.append_eq_wrote_iff, concat_write_eq_wrote_iff]
  constructor
  · intro written
    rcases written with ⟨_, _, equal, ⟨canWrite, rfl⟩, rfl⟩
    cases equal
    exact ⟨canWrite, rfl⟩
  · intro spelled
    rcases spelled with ⟨canWrite, rfl⟩
    exact ⟨_, _, rfl, ⟨canWrite, rfl⟩, rfl⟩

theorem encode_eq_shortest {operation : Operation} (canWrite : operation.Writable) :
    format.encode operation = .ok operation.layout.shortest :=
  (encode_eq_ok_iff operation _).mpr ⟨canWrite, rfl⟩

theorem decode_shortest {operation : Operation} (canWrite : operation.Writable) :
    format.decode operation.layout.shortest = .ok operation :=
  (decode_eq_ok_iff _ operation).mpr ⟨canWrite, operation.layout.spelledBy_shortest⟩

theorem decode_of_encode {operation : Operation} {bytes : Bytes}
    (encoded : format.encode operation = .ok bytes) : format.decode bytes = .ok operation := by
  rcases (encode_eq_ok_iff operation bytes).mp encoded with ⟨canWrite, rfl⟩
  exact decode_shortest canWrite

theorem signableHash_eq {operation : Operation} {body : Bytes}
    (encoded : format.encode operation = .ok body) :
    operation.signableHash = .ok (Watermark.operation.signingDigest body) := by
  rw [signableHash, encoded]
  rfl

theorem signableHash_eq_ok_iff (operation : Operation) (digest : FixedBytes 32) :
    operation.signableHash = .ok digest ↔
      ∃ body, format.encode operation = .ok body ∧
        Watermark.operation.signingDigest body = digest := by
  constructor
  · intro hashed
    rcases Except.bind_eq_ok_iff.mp hashed with ⟨body, encoded, equal⟩
    exact ⟨body, Except.mapError_eq_ok_iff.mp encoded, Except.ok.inj equal⟩
  · intro hashed
    rcases hashed with ⟨body, encoded, rfl⟩
    exact signableHash_eq encoded

/-! ## Trips over the wire -/

/-- An operation that can be written is encoded, and decoding gives it back. -/
theorem decode_encode_of_writable (operation : Operation) (canWrite : operation.Writable) :
    ∃ bytes, format.encode operation = .ok bytes ∧ format.decode bytes = .ok operation := by
  refine ⟨operation.layout.shortest, ?_, ?_⟩
  · exact encode_eq_shortest canWrite
  · exact decode_shortest canWrite

/-- An operation with an entry of every kind, both kinds of addresses, a named
entrypoint and numbers of one byte and of many. -/
def sampler : Operation where
  branch := ⟨⟨List.replicate 32 0x0b, rfl⟩⟩
  contents :=
    let source : KeyHash := ⟨.ed25519, ⟨List.replicate 20 0x0a, rfl⟩⟩
    let other : KeyHash := ⟨.p256, ⟨List.replicate 20 0x0c, rfl⟩⟩
    let manager : Manager := ⟨source, 1274, 2 ^ 70, 10307, 0⟩
    [ .endorsement ⟨-7⟩,
      .revelation ⟨manager, ⟨.ed25519, ⟨List.replicate 32 0x0d, rfl⟩⟩⟩,
      .transaction ⟨manager, 2 ^ 64, .originated ⟨List.replicate 20 0x0e, rfl⟩,
        some ⟨.named "transfer", ⟨[0x03, 0x0b], by decide⟩⟩⟩,
      .transaction ⟨manager, 0, .implicit other, none⟩,
      .origination ⟨manager, 128, some other, ⟨⟨[0x02], by decide⟩, ⟨[], by decide⟩⟩⟩,
      .delegation ⟨manager, none⟩ ]
  contents_ne_nil := by simp

theorem sampler_decode_encode :
    sampler.Writable ∧
      ∃ bytes, format.encode sampler = .ok bytes ∧ format.decode bytes = .ok sampler := by
  have canWrite : sampler.Writable := by decide +kernel
  exact ⟨canWrite, decode_encode_of_writable sampler canWrite⟩

/-- What decodes to an operation fills its layout: apart from the natural numbers of
the entries there is nothing to choose, and these are padded with groups of zeros or
not.  Encoding gives the bytes without padding, which are no longer than any others. -/
theorem decode_eq_ok_up_to_padding (input : Bytes) (operation : Operation)
    (decoded : format.decode input = .ok operation) :
    ∃ canonical forms,
      format.encode operation = .ok canonical ∧
      format.decode canonical = .ok operation ∧
      canonical.length ≤ input.length ∧
      (∀ others, Layout.Spelling operation.layout others input ↔ others = forms) ∧
      List.Forall₂ (fun form value => Zarith.decodeUnsigned form = .ok value)
        forms operation.naturals ∧
      (canonical = input ↔ ∀ form ∈ forms, Zarith.IsShortest form) ∧
      ∀ other, format.decode other = .ok operation ↔
        ∃ others, Layout.Spelling operation.layout others other ∧
          List.Forall₂ Zarith.PaddedAlike forms others := by
  rcases (decode_eq_ok_iff input operation).mp decoded with ⟨canWrite, forms, spelling⟩
  have elsewhere (other : Bytes) :
      format.decode other = .ok operation ↔
        ∃ others, Layout.Spelling operation.layout others other ∧
          List.Forall₂ Zarith.PaddedAlike forms others := by
    rw [decode_eq_ok_iff]
    constructor
    · intro spelled
      rcases spelled with ⟨-, others, second⟩
      exact ⟨others, second, spelling.paddedAlike second⟩
    · intro padded
      rcases padded with ⟨others, second, -⟩
      exact ⟨canWrite, others, second⟩
  have reads := spelling.forms_read
  rw [numbers_layout] at reads
  exact ⟨operation.layout.shortest, forms, encode_eq_shortest canWrite, decode_shortest canWrite,
    spelling.length_shortest_le, spelling.spelling_iff, reads, spelling.shortest_eq_iff, elsewhere⟩

/-- An operation with a delegation, which is withdrawn for a fee of one. -/
def withdrawal : Operation where
  branch := ⟨⟨List.replicate 32 0x0b, rfl⟩⟩
  contents := [.delegation ⟨⟨⟨.ed25519, ⟨List.replicate 20 0x0a, rfl⟩⟩, 1, 2, 3, 4⟩, none⟩]
  contents_ne_nil := by simp

/-- The withdrawal, with two groups of zeros behind the fee. -/
def paddedWithdrawal : Bytes :=
  List.replicate 32 0x0b ++ [110, 0] ++ List.replicate 20 0x0a ++
    [0x81, 0x80, 0x00, 0x02, 0x03, 0x04, 0x00]

theorem paddedWithdrawal_up_to_padding :
    format.decode paddedWithdrawal = .ok withdrawal ∧
      ∃ canonical, format.encode withdrawal = .ok canonical ∧
        format.decode canonical = .ok withdrawal ∧
        canonical.length ≤ paddedWithdrawal.length := by
  have decoded : format.decode paddedWithdrawal = .ok withdrawal := by decide +kernel
  rcases decode_eq_ok_up_to_padding paddedWithdrawal withdrawal decoded with
    ⟨canonical, _, encoded, again, shorter, -⟩
  exact ⟨decoded, canonical, encoded, again, shorter⟩

end OperationForge.Operation
