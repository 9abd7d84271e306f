import OperationForge.Proofs.Positions

/-!
# Two ways to read an entry

An entry can be read by a reader that looks at its tag first and takes it for whatever
kind it is of, or by the reader of one kind, which takes the tag and then compares it.
Where the tag is that of the kind, both come to the same in every respect.  Otherwise
the reader of the kind has taken the tag when it fails, and the other one never does:
a tag of no kind stays where it is.
-/

namespace OperationForge

namespace ContentsKind

/-- The entries of a kind. -/
def Entry : ContentsKind → Type
  | endorsement => Endorsement
  | revelation => Revelation
  | transaction => Transaction
  | origination => Origination
  | delegation => Delegation

/-- The format of the entries of a kind. -/
def format : (kind : ContentsKind) → Format kind.Entry
  | endorsement => Endorsement.format
  | revelation => Revelation.format
  | transaction => Transaction.format
  | origination => Origination.format
  | delegation => Delegation.format

/-- An entry of a kind, among the entries of any kind. -/
def wrap : (kind : ContentsKind) → kind.Entry → Contents
  | endorsement => Contents.endorsement
  | revelation => Contents.revelation
  | transaction => Contents.transaction
  | origination => Contents.origination
  | delegation => Contents.delegation

theorem tag_injective : Function.Injective tag := by
  intro left right same
  have found := congrArg ofTag? same
  rw [ofTag?_tag, ofTag?_tag] at found
  exact Option.some.inj found

theorem exists_wrap (entry : Contents) :
    ∃ inner : entry.kind.Entry, entry = entry.kind.wrap inner := by
  cases entry with
  | revelation entry => exact ⟨entry, rfl⟩
  | transaction entry => exact ⟨entry, rfl⟩
  | origination entry => exact ⟨entry, rfl⟩
  | delegation entry => exact ⟨entry, rfl⟩
  | endorsement entry => exact ⟨entry, rfl⟩

/-- The kinds differ in their tags and in what stands behind them, and in nothing else. -/
theorem exists_tagged (kind : ContentsKind) : ∃ body, kind.format = kind.tagged body := by
  cases kind <;> exact ⟨_, rfl⟩

theorem write_wrap (kind : ContentsKind) (entry : kind.Entry) :
    Contents.format.write (kind.wrap entry) = kind.format.write entry := by
  cases kind <;> rfl

theorem readKind_eq_map (kind : ContentsKind) :
    Contents.readKind kind = kind.wrap <$> kind.format.read := by
  cases kind <;> rfl

theorem run_format_nil (kind : ContentsKind) :
    kind.format.read.run [] = ⟨.error .outOfBounds, []⟩ := by
  rcases kind.exists_tagged with ⟨body, equal⟩
  rw [equal]
  rfl

/-- The reader of a kind takes a tag of another one, too. -/
theorem run_format_of_ne {kind : ContentsKind} {byte : UInt8} (other : kind.tag ≠ byte)
    (behind : Bytes) :
    kind.format.read.run (byte :: behind) = ⟨.error (.wrongTag kind.tag byte), behind⟩ := by
  rcases kind.exists_tagged with ⟨body, equal⟩
  have refused : (Reader.expectTag kind.tag).run (byte :: behind) =
      ⟨.error (.wrongTag kind.tag byte), behind⟩ := by
    rw [Reader.expectTag, Reader.run_bind, Reader.run_byte_cons]
    simp [other.symm]
  rw [equal]
  exact Reader.run_bind_of_error refused fun _ => body.read

/-- A tag of no kind is not selected. -/
theorem ofTag?_eq_none {byte : UInt8} (unknown : ∀ kind : ContentsKind, kind.tag ≠ byte) :
    ofTag? byte = none := by
  cases found : ofTag? byte with
  | none => rfl
  | some kind => exact absurd (tag_of_ofTag? found) (unknown kind)

end ContentsKind

/-! ## At a cursor -/

namespace Cursor

/-- The cursor behind the next byte. -/
def next (cursor : Cursor) : Cursor where
  buffer := cursor.buffer
  rest := cursor.rest.tail
  rest_suffix := (List.tail_suffix cursor.rest).trans cursor.rest_suffix

theorem position_next {cursor : Cursor} {byte : UInt8} {behind : Bytes}
    (rest : cursor.rest = byte :: behind) : cursor.next.position = cursor.position + 1 := by
  have split : cursor.rest = [byte] ++ cursor.next.rest := by
    change cursor.rest = byte :: cursor.rest.tail
    rw [rest, List.tail_cons]
  have same : cursor.next.buffer = cursor.buffer := rfl
  exact position_of_rest same split

theorem read_of_run_eq_tail {α : Type} {cursor : Cursor} {reader : Reader α}
    {outcome : Except WireError α} (run : reader.run cursor.rest = ⟨outcome, cursor.rest.tail⟩) :
    cursor.read reader = (outcome, cursor.next) := by
  simp only [read, next, run]

theorem read_map {α β : Type} (cursor : Cursor) (image : α → β) (reader : Reader α) :
    cursor.read (image <$> reader) = Prod.map (Except.map image) id (cursor.read reader) := by
  have run := Reader.run_map image reader cursor.rest
  simp only [read, run, Prod.map, id]

end Cursor

/-! ## The source of an entry -/

/-- The bytes of a key hash tell it, whatever stands behind them. -/
theorem KeyHash.eq_of_bytes {left right : KeyHash} {rest other : Bytes}
    (same : left.curve.tag :: (left.hash.toList ++ rest) =
      right.curve.tag :: (right.hash.toList ++ other)) : left = right := by
  rcases List.cons.inj same with ⟨sameTag, sameBytes⟩
  have sameLength : left.hash.toList.length = right.hash.toList.length := by simp
  have sameHash := (List.append_inj sameBytes sameLength).1
  have sameCurve := congrArg Curve.ofTag? sameTag
  rw [Curve.ofTag?_tag, Curve.ofTag?_tag] at sameCurve
  exact KeyHash.ext (Option.some.inj sameCurve) (FixedBytes.ext sameHash)

namespace Contents

/-- The curve and the hash of a source stand right behind the tag. -/
theorem exists_layout_of_source {entry : Contents} {owner : KeyHash}
    (source : entry.source? = some (.implicit owner)) :
    ∃ layout, entry.layout = .fixed [entry.kind.tag] :: .fixed [owner.curve.tag] ::
      .fixed owner.hash.toList :: layout := by
  cases entry with
  | endorsement => cases source
  | revelation | transaction | origination | delegation =>
      cases source
      exact ⟨_, rfl⟩

/-- All entries but endorsements have a source, and it is the account of a key. -/
theorem exists_source_iff (entry : Contents) :
    (∃ owner, entry.source? = some (.implicit owner)) ↔ entry.kind ≠ .endorsement := by
  cases entry <;> simp [source?, manager?, kind]

/-- What is written starts with the tag, even where the writing is stopped. -/
theorem exists_bytes_write (entry : Contents) :
    ∃ behind, (format.write entry).bytes = entry.kind.tag :: behind := by
  rcases ContentsKind.exists_wrap entry with ⟨inner, equal⟩
  rcases entry.kind.exists_tagged with ⟨body, tagged⟩
  have written := ContentsKind.write_wrap entry.kind inner
  rw [← equal, tagged] at written
  rw [written]
  exact ⟨_, rfl⟩

/-- An entry that was read starts with the tag of its kind, and its source with it. -/
theorem source_iff_of_run_read {input rest : Bytes} {entry : Contents}
    (answer : read.run input = ⟨.ok entry, rest⟩) :
    (∃ behind, input = entry.kind.tag :: behind) ∧
      ∀ owner, entry.source? = some (.implicit owner) ↔ entry.kind ≠ .endorsement ∧
        ∃ behind, input = entry.kind.tag :: owner.curve.tag :: (owner.hash.toList ++ behind) := by
  rcases (read_recognizes _ _ _).mp answer with ⟨used, ⟨-, spelled⟩, rfl⟩
  have starts {owner : KeyHash} (source : entry.source? = some (.implicit owner)) :
      ∃ behind, used = entry.kind.tag :: owner.curve.tag :: (owner.hash.toList ++ behind) := by
    rcases exists_layout_of_source source with ⟨layout, equal⟩
    rw [equal] at spelled
    simp only [Layout.spelledBy_fixed_iff] at spelled
    rcases spelled with ⟨_, ⟨_, ⟨behind, -, rfl⟩, rfl⟩, rfl⟩
    exact ⟨behind, rfl⟩
  constructor
  · rcases (Layout.spelledBy_fixed_iff _ _ _).mp spelled with ⟨behind, -, rfl⟩
    exact ⟨behind ++ rest, rfl⟩
  · intro owner
    constructor
    · intro source
      rcases starts source with ⟨behind, rfl⟩
      refine ⟨(exists_source_iff entry).mp ⟨owner, source⟩, behind ++ rest, ?_⟩
      simp
    · intro spelledSource
      rcases spelledSource with ⟨sourced, behind, split⟩
      rcases (exists_source_iff entry).mpr sourced with ⟨other, source⟩
      rcases starts source with ⟨left, rfl⟩
      -- Both sources take up the same bytes, so they are one.
      simp only [List.cons_append, List.append_assoc] at split
      obtain rfl := KeyHash.eq_of_bytes (List.cons.inj split).2
      exact source

variable {cursor : Cursor}

theorem read_of_nil (rest : cursor.rest = []) :
    cursor.read read = (.error .outOfBounds, cursor) := by
  apply Cursor.read_of_rest
  rw [rest, run_read_nil]

theorem read_of_tag {kind : ContentsKind} {behind : Bytes}
    (rest : cursor.rest = kind.tag :: behind) :
    cursor.read read = Prod.map (Except.map kind.wrap) id (cursor.read kind.format.read) := by
  have same : read.run cursor.rest = (kind.wrap <$> kind.format.read).run cursor.rest := by
    rw [rest, run_read_tag, kind.readKind_eq_map]
  rw [← Cursor.read_map]
  simp only [Cursor.read, same]

theorem read_of_unknown {byte : UInt8} {behind : Bytes} (rest : cursor.rest = byte :: behind)
    (unknown : ∀ kind : ContentsKind, kind.tag ≠ byte) :
    cursor.read read = (.error (.invalidVariant .contents byte), cursor) := by
  apply Cursor.read_of_rest
  rw [rest, run_read_of_ofTag? (ContentsKind.ofTag?_eq_none unknown)]

end Contents

namespace ContentsKind

variable {cursor : Cursor}

theorem read_of_nil (kind : ContentsKind) (rest : cursor.rest = []) :
    cursor.read kind.format.read = (.error .outOfBounds, cursor) := by
  apply Cursor.read_of_rest
  rw [rest, run_format_nil]

theorem read_of_ne {kind : ContentsKind} {byte : UInt8} {behind : Bytes}
    (rest : cursor.rest = byte :: behind) (other : kind.tag ≠ byte) :
    cursor.read kind.format.read = (.error (.wrongTag kind.tag byte), cursor.next) := by
  apply Cursor.read_of_run_eq_tail
  rw [rest, run_format_of_ne other, List.tail_cons]

end ContentsKind

namespace Contents

/-- An entry is read in the same way by the reader that looks at the tag and by the one
of the kind that the tag stands for: the value, the error and the cursor are the same.
The readers of the other kinds take the tag and refuse it, as all five do with a byte
that is no tag, which the first reader leaves where it is.  What is written starts with
the tag, and what is read back has the kind and the source that were written. -/
theorem read_dispatches :
    (∀ cursor : Cursor, cursor.rest = [] →
      cursor.read format.read = (.error .outOfBounds, cursor) ∧
        ∀ kind : ContentsKind, cursor.read kind.format.read = (.error .outOfBounds, cursor)) ∧
    (∀ (cursor : Cursor) (kind : ContentsKind) behind, cursor.rest = kind.tag :: behind →
      cursor.read format.read =
          Prod.map (Except.map kind.wrap) id (cursor.read kind.format.read) ∧
        cursor.next.position = cursor.position + 1 ∧
        ∀ other ≠ kind, cursor.read other.format.read =
          (.error (.wrongTag other.tag kind.tag), cursor.next)) ∧
    (∀ (cursor : Cursor) byte behind, cursor.rest = byte :: behind →
      (∀ kind : ContentsKind, kind.tag ≠ byte) →
      cursor.read format.read = (.error (.invalidVariant .contents byte), cursor) ∧
        cursor.next.position = cursor.position + 1 ∧
        ∀ kind : ContentsKind, cursor.read kind.format.read =
          (.error (.wrongTag kind.tag byte), cursor.next)) ∧
    (∀ entry, ∃ behind, (format.write entry).bytes = entry.kind.tag :: behind) ∧
    (∀ entry bytes, format.encode entry = .ok bytes →
      ∀ (cursor : Cursor) behind, cursor.rest = bytes ++ behind →
        ∃ after, cursor.read format.read = (.ok entry, after) ∧
          after.buffer = cursor.buffer ∧ after.rest = behind) ∧
    ∀ (cursor : Cursor) entry after, cursor.read format.read = (.ok entry, after) →
      (∃ behind, cursor.rest = entry.kind.tag :: behind) ∧
      ∀ owner, entry.source? = some (.implicit owner) ↔ entry.kind ≠ .endorsement ∧
        ∃ behind, cursor.rest =
          entry.kind.tag :: owner.curve.tag :: (owner.hash.toList ++ behind) := by
  refine ⟨?_, ?_, ?_, exists_bytes_write, ?_, ?_⟩
  · intro cursor rest
    exact ⟨read_of_nil rest, fun kind => kind.read_of_nil rest⟩
  · intro cursor kind behind rest
    refine ⟨read_of_tag rest, Cursor.position_next rest, ?_⟩
    intro other different
    exact ContentsKind.read_of_ne rest (ContentsKind.tag_injective.ne different)
  · intro cursor byte behind rest unknown
    refine ⟨read_of_unknown rest unknown, Cursor.position_next rest, ?_⟩
    intro kind
    exact ContentsKind.read_of_ne rest (unknown kind)
  · intro entry bytes encoded cursor behind rest
    rcases (format_follows.encode_eq_ok_iff entry bytes).mp encoded with ⟨canWrite, rfl⟩
    apply cursor.exists_read
    rw [rest]
    exact read_recognizes.run_append ⟨canWrite, entry.layout.spelledBy_shortest⟩ behind
  · intro cursor entry after answer
    have run : read.run cursor.rest = ⟨.ok entry, (read.run cursor.rest).rest⟩ :=
      congrArg (Read.mk · (read.run cursor.rest).rest) (congrArg Prod.fst answer)
    exact source_iff_of_run_read run

/-- An endorsement in front of a byte that is no tag. -/
theorem endorsement_dispatches :
    (Cursor.start []).read format.read = (.error .outOfBounds, Cursor.start []) ∧
    (Cursor.start [0x6f]).read format.read =
      (.error (.invalidVariant .contents 0x6f), Cursor.start [0x6f]) ∧
    let cursor := Cursor.start [0x00, 0x00, 0x00, 0x00, 0x09, 0x6f]
    cursor.read format.read =
        Prod.map (Except.map .endorsement) id (cursor.read Endorsement.format.read) ∧
      cursor.read Revelation.format.read = (.error (.wrongTag 0x6b 0x00), cursor.next) ∧
      (∃ after, cursor.read format.read = (.ok (.endorsement ⟨9⟩), after) ∧
        after.rest = [0x6f]) ∧
      ∃ behind, cursor.rest = 0x00 :: behind := by
  rcases read_dispatches with ⟨empty, known, unknown, -, back, source⟩
  have none : ∀ kind : ContentsKind, kind.tag ≠ 0x6f := by
    intro kind
    cases kind <;> decide
  rcases known (Cursor.start _) .endorsement [0x00, 0x00, 0x00, 0x09, 0x6f] rfl with
    ⟨same, -, others⟩
  have encoded : format.encode (.endorsement ⟨9⟩) = .ok [0x00, 0x00, 0x00, 0x00, 0x09] := by
    decide +kernel
  rcases back _ _ encoded (Cursor.start [0x00, 0x00, 0x00, 0x00, 0x09, 0x6f]) [0x6f] rfl with
    ⟨after, answer, -, rest⟩
  exact ⟨(empty _ rfl).1, (unknown _ 0x6f [] rfl none).1, same, others .revelation (by decide),
    ⟨after, answer, rest⟩, (source _ _ _ answer).1⟩

end Contents

end OperationForge
