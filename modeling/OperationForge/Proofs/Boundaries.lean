import OperationForge.Proofs.Malformed
import OperationForge.Proofs.Operations

/-!
# Boundaries between entries

Nothing on the wire tells where one entry ends and the next one begins, and still an
operation falls apart in one way only: into a branch and pieces that are entries by
themselves.  Reading takes these pieces off the front, five bytes or more in every
round.  An operation that is cut short at the end of a piece is the operation with the
entries up to there, and cut anywhere else it is too little input.
-/

namespace OperationForge

namespace Contents

/-- No entry is shorter than an endorsement. -/
theorem five_le_length_shortest (entry : Contents) : 5 ≤ entry.layout.shortest.length := by
  cases entry with
  | endorsement entry => simp [layout, body, Endorsement.body, Layout.shortest]
  | revelation entry =>
      simp [layout, body, Revelation.body, Manager.layout, KeyHash.layout, Layout.shortest]
      omega
  | transaction entry =>
      simp [layout, body, Transaction.body, Manager.layout, KeyHash.layout, Layout.shortest]
      omega
  | origination entry =>
      simp [layout, body, Origination.body, Manager.layout, KeyHash.layout, Layout.shortest]
      omega
  | delegation entry =>
      simp [layout, body, Delegation.body, Manager.layout, KeyHash.layout, Layout.shortest]
      omega

theorem five_le_length {entry : Contents} {used : Bytes} (spelled : entry.layout.SpelledBy used) :
    5 ≤ used.length := by
  rcases spelled with ⟨_, spelling⟩
  exact Nat.le_trans entry.five_le_length_shortest spelling.length_shortest_le

/-- What is left behind an entry is five bytes shorter or more. -/
theorem length_of_run_read {input rest : Bytes} {entry : Contents}
    (answer : read.run input = ⟨.ok entry, rest⟩) : 5 + rest.length ≤ input.length := by
  rcases (read_recognizes _ _ _).mp answer with ⟨used, ⟨-, spelled⟩, rfl⟩
  rw [List.length_append]
  exact Nat.add_le_add_right (five_le_length spelled) rest.length

/-- What is an entry by itself is read as that entry in front of anything. -/
theorem run_read_append {piece : Bytes} {entry : Contents}
    (decoded : format.decode piece = .ok entry) (rest : Bytes) :
    read.run (piece ++ rest) = ⟨.ok entry, rest⟩ := by
  rw [format_follows.decode_eq_ok_iff] at decoded
  exact read_recognizes.run_append decoded rest

/-- Every piece is an entry by itself, in order. -/
abbrev AllDecode (pieces : List Bytes) (entries : List Contents) : Prop :=
  List.Forall₂ (fun piece entry => format.decode piece = .ok entry) pieces entries

end Contents

namespace Operation

/-! ## Rounds of reading -/

/-- Rounds of reading: each takes one more entry off the front of what is left. -/
inductive Rounds : Bytes → List Contents → Bytes → Prop where
  | nil (input : Bytes) : Rounds input [] input
  | cons {input between rest : Bytes} {entry : Contents} {entries : List Contents} :
      Contents.read.run input = ⟨.ok entry, between⟩ → Rounds between entries rest →
      Rounds input (entry :: entries) rest

namespace Rounds

variable {input rest : Bytes} {entries : List Contents}

/-- Every round uses up input, so that there is no endless run. -/
theorem length_le (rounds : Rounds input entries rest) :
    5 * entries.length + rest.length ≤ input.length := by
  induction rounds with
  | nil input => simp
  | cons answer _ ih =>
      have used := Contents.length_of_run_read answer
      rw [List.length_cons]
      omega

theorem scanContents_eq (rounds : Rounds input entries rest) :
    scanContents input =
      ⟨(scanContents rest).outcome.map (entries ++ ·), (scanContents rest).rest⟩ := by
  induction rounds with
  | nil input =>
      cases scanContents input with
      | mk outcome left => cases outcome <;> rfl
  | @cons _ _ rest entry entries answer _ ih =>
      rw [scanContents_of_run_read answer, ih]
      cases (scanContents rest).outcome <;> rfl

end Rounds

theorem scanContents_of_error {input left : Bytes} {error : WireError} (more : input ≠ [])
    (answer : Contents.read.run input = ⟨.error error, left⟩) :
    scanContents input = ⟨.error error, left⟩ := by
  cases input with
  | nil => contradiction
  | cons tag body =>
      rw [scanContents]
      split
      · next _ _ again =>
          rw [answer] at again
          cases again
          rfl
      · next _ _ again =>
          rw [answer] at again
          cases again

/-- With too little input for the first entry there is too little for all. -/
theorem starved_of_run_read {input : Bytes} (more : input ≠ [])
    (starved : (Contents.read.run input).Starved) : (scanContents input).Starved := by
  cases answer : Contents.read.run input with
  | mk outcome left =>
      rw [answer] at starved
      rcases starved with ⟨error, shortage, failed⟩
      cases failed
      rw [scanContents_of_error more answer]
      exact ⟨error, shortage, rfl⟩

/-- Reading goes on until nothing is left, or until what is left starts with no entry. -/
theorem exists_rounds (input : Bytes) :
    ∃ entries rest, Rounds input entries rest ∧
      ((rest = [] ∧ scanContents input = ⟨.ok entries, []⟩) ∨
        ∃ error left, rest ≠ [] ∧ Contents.read.run rest = ⟨.error error, left⟩ ∧
          scanContents input = ⟨.error error, left⟩) := by
  fun_induction scanContents input with
  | case1 => exact ⟨[], [], .nil [], .inl ⟨rfl, rfl⟩⟩
  | case2 tag body error left answer =>
      exact ⟨[], _, .nil _, .inr ⟨error, left, List.cons_ne_nil tag body, answer, rfl⟩⟩
  | case3 tag body entry between answer tail ih =>
      rcases ih with ⟨entries, rest, rounds, ends⟩
      refine ⟨entry :: entries, rest, .cons answer rounds, ?_⟩
      rcases ends with ⟨nothingLeft, whole⟩ | ⟨error, left, more, stuck, failed⟩
      · left
        exact ⟨nothingLeft, by rw [show tail = _ from whole]; rfl⟩
      · right
        exact ⟨error, left, more, stuck, by rw [show tail = _ from failed]; rfl⟩

/-- Entries cannot be read for want of input, or because the input is malformed. -/
theorem error_of_scanContents {input : Bytes} {error : WireError}
    (failed : (scanContents input).outcome = .error error) :
    error.Shortage ∨ error.Malformed := by
  rcases exists_rounds input with ⟨_, _, -, ⟨-, whole⟩ | ⟨_, _, -, stuck, broken⟩⟩
  · rw [whole] at failed
    cases failed
  · rw [broken] at failed
    cases failed
    exact Contents.error_of_read (congrArg Read.outcome stuck)

/-! ## Branch and entries -/

/-- The operation with the entries that were read, of which there has to be one. -/
def ofEntries (branch : BlockId) (entries : List Contents) : Except WireError Operation :=
  if nonempty : entries ≠ [] then .ok ⟨branch, entries, nonempty⟩ else .error .noContents

/-- A branch in front of anything is read, and the entries are what follows it. -/
theorem decode_append (branch : BlockId) (body : Bytes) :
    format.decode (branch.bytes.toList ++ body) =
      (scanContents body).outcome >>= ofEntries branch := by
  have front : (Identifier.format .blockHash).read.run (branch.bytes.toList ++ body) =
      ⟨.ok branch, body⟩ :=
    (Identifier.format_follows .blockHash).recognizes.run_append
      ⟨trivial, (Layout.spelledBy_singleton_iff _ _).mpr rfl⟩ body
  rw [Format.decode, Reader.exactly, format, Reader.run_bind_of_ok front]
  cases answer : scanContents body with
  | mk outcome rest =>
      cases outcome with
      | error error =>
          have broken : readContents.run body = ⟨.error error, rest⟩ := answer
          rw [Reader.run_bind_of_error broken]
          rfl
      | ok entries =>
          have whole : readContents.run body = ⟨.ok entries, rest⟩ := answer
          obtain rfl := (spelled_of_scanContents body rest entries answer).1
          rw [Reader.run_bind_of_ok whole]
          change _ = ofEntries branch entries
          by_cases nonempty : entries ≠ []
          · simp [ofEntries, nonempty]
          · simp [ofEntries, nonempty]

theorem decode_of_length_lt {input : Bytes} (short : input.length < 32) :
    format.decode input = .error .outOfBounds := by
  have starved : (Identifier.format .blockHash).read.run input = ⟨.error .outOfBounds, input⟩ :=
    Reader.run_map_take_of_length_lt Identifier.mk short
  rw [Format.decode, Reader.exactly, format, Reader.run_bind_of_error starved]

/-- An input that is long enough starts with a branch. -/
theorem exists_branch {input : Bytes} (enough : 32 ≤ input.length) :
    ∃ (branch : BlockId) (body : Bytes), input = branch.bytes.toList ++ body :=
  ⟨⟨.ofPrefix 32 input enough⟩, input.drop 32, (List.take_append_drop 32 input).symm⟩

/-- An operation cannot be read for want of input or of entries, or because the input
is malformed. -/
theorem error_of_decode {input : Bytes} {error : WireError}
    (failed : format.decode input = .error error) :
    error.Shortage ∨ error = .noContents ∨ error.Malformed := by
  by_cases enough : 32 ≤ input.length
  · rcases exists_branch enough with ⟨branch, body, rfl⟩
    rw [decode_append] at failed
    cases outcome : (scanContents body).outcome with
    | error other =>
        rw [outcome] at failed
        cases failed
        exact (error_of_scanContents outcome).imp_right .inr
    | ok entries =>
        rw [outcome] at failed
        change ofEntries branch entries = .error error at failed
        rw [ofEntries] at failed
        split at failed
        · cases failed
        · cases failed
          exact .inr (.inl rfl)
  · rw [decode_of_length_lt (Nat.lt_of_not_le enough)] at failed
    cases failed
    exact .inl .outOfBounds

/-! ## Pieces -/

/-- The input is the branch of the operation and then the pieces, which are its entries. -/
structure Pieces (input : Bytes) (operation : Operation) (pieces : List Bytes) : Prop where
  input_eq : input = operation.branch.bytes.toList ++ pieces.flatten
  allDecode : Contents.AllDecode pieces operation.contents

/-- Entries are spelled one after the other by pieces that are entries by themselves. -/
theorem exists_allDecode_iff (entries : List Contents) (input : Bytes) :
    (∃ pieces, input = pieces.flatten ∧ Contents.AllDecode pieces entries) ↔
      (∀ entry ∈ entries, entry.Writable) ∧
        Layout.SpelledBy (entries.flatMap Contents.layout) input := by
  induction entries generalizing input with
  | nil => simp
  | cons entry entries ih =>
      rw [List.flatMap_cons, Layout.spelledBy_append_iff, List.forall_mem_cons]
      constructor
      · intro divided
        rcases divided with ⟨_, rfl, _ | ⟨first, others⟩⟩
        rcases (Contents.format_follows.decode_eq_ok_iff _ _).mp first with ⟨canWrite, spelled⟩
        rcases (ih _).mp ⟨_, rfl, others⟩ with ⟨othersCan, othersSpelled⟩
        exact ⟨⟨canWrite, othersCan⟩, _, _, spelled, othersSpelled, rfl⟩
      · intro spelled
        rcases spelled with ⟨⟨canWrite, othersCan⟩, piece, _, first, others, rfl⟩
        rcases (ih _).mpr ⟨othersCan, others⟩ with ⟨pieces, rfl, allDecode⟩
        have decoded := (Contents.format_follows.decode_eq_ok_iff _ _).mpr ⟨canWrite, first⟩
        exact ⟨piece :: pieces, rfl, .cons decoded allDecode⟩

theorem decode_eq_ok_iff_exists_pieces (input : Bytes) (operation : Operation) :
    format.decode input = .ok operation ↔ ∃ pieces, Pieces input operation pieces := by
  rw [decode_eq_ok_iff, layout, Layout.spelledBy_append_iff]
  constructor
  · intro spelled
    rcases spelled with ⟨canWrite, front, back, branch, entries, rfl⟩
    rcases (exists_allDecode_iff _ back).mpr ⟨canWrite, entries⟩ with ⟨pieces, rfl, allDecode⟩
    rw [(Layout.spelledBy_singleton_iff _ front).mp branch]
    exact ⟨pieces, rfl, allDecode⟩
  · intro divided
    rcases divided with ⟨pieces, rfl, allDecode⟩
    rcases (exists_allDecode_iff _ _).mp ⟨pieces, rfl, allDecode⟩ with ⟨canWrite, entries⟩
    exact ⟨canWrite, _, _, (Layout.spelledBy_singleton_iff _ _).mpr rfl, entries, rfl⟩

end Operation

namespace Contents.AllDecode

variable {pieces others : List Bytes} {entries otherEntries : List Contents}

theorem piece_ne_nil {piece : Bytes} {entry : Contents}
    (decoded : format.decode piece = .ok entry) : piece ≠ [] := by
  rintro rfl
  cases decoded

/-- Entries mark their own ends, so that bytes are divided into entries in one way. -/
theorem unique (left : AllDecode pieces entries) (right : AllDecode others otherEntries)
    (same : pieces.flatten = others.flatten) : pieces = others ∧ entries = otherEntries := by
  induction left generalizing others otherEntries with
  | nil =>
      cases right with
      | nil => exact ⟨rfl, rfl⟩
      | cons decoded _ =>
          have empty := (List.append_eq_nil_iff.mp same.symm).1
          exact absurd empty (piece_ne_nil decoded)
  | cons decoded _ ih =>
      cases right with
      | nil =>
          have empty := (List.append_eq_nil_iff.mp same).1
          exact absurd empty (piece_ne_nil decoded)
      | cons otherDecoded right =>
          rw [format_follows.decode_eq_ok_iff] at decoded otherDecoded
          rcases read_recognizes.unique decoded otherDecoded same with ⟨rfl, rfl, remainder⟩
          rcases ih right remainder with ⟨rfl, rfl⟩
          exact ⟨rfl, rfl⟩

/-- Reading takes the pieces off the front, whatever follows them. -/
theorem rounds (allDecode : AllDecode pieces entries) (rest : Bytes) :
    Operation.Rounds (pieces.flatten ++ rest) entries rest := by
  induction allDecode with
  | nil => exact .nil rest
  | cons decoded _ ih =>
      rw [List.flatten_cons, List.append_assoc]
      exact .cons (run_read_append decoded _) ih

theorem scanContents_eq (allDecode : AllDecode pieces entries) :
    Operation.scanContents pieces.flatten = ⟨.ok entries, []⟩ := by
  have whole := (allDecode.rounds []).scanContents_eq
  rw [List.append_nil, Operation.scanContents] at whole
  rw [whole]
  simp [Except.map]

end Contents.AllDecode

namespace Operation

theorem Pieces.unique {input : Bytes} {left right : Operation} {pieces others : List Bytes}
    (first : Pieces input left pieces) (second : Pieces input right others) :
    left = right ∧ pieces = others := by
  have same := first.input_eq.symm.trans second.input_eq
  rcases List.append_inj same (by simp) with ⟨branches, bodies⟩
  rcases first.allDecode.unique second.allDecode bodies with ⟨equal, contents⟩
  exact ⟨Operation.ext (Identifier.ext (FixedBytes.ext branches)) contents, equal⟩

/-- What is accepted behind a branch is accepted behind other entries as well. -/
theorem Pieces.append {branch : BlockId} {front back : Bytes} {left right : Operation}
    {pieces others : List Bytes} (first : Pieces (branch.bytes.toList ++ front) left pieces)
    (second : Pieces (branch.bytes.toList ++ back) right others) :
    Pieces (branch.bytes.toList ++ front ++ back)
      ⟨branch, left.contents ++ right.contents, by simp [left.contents_ne_nil]⟩
      (pieces ++ others) where
  input_eq := by
    rcases List.append_inj first.input_eq (by simp) with ⟨-, rfl⟩
    rcases List.append_inj second.input_eq (by simp) with ⟨-, rfl⟩
    rw [List.flatten_append, List.append_assoc]
  allDecode := List.rel_append first.allDecode second.allDecode

/-- An input is read as an operation exactly if it is the branch and then pieces that
are read as the entries by themselves, and it is divided in one way only.  What two
inputs hold behind the same branch is therefore read in one go as well.  The rounds of
reading come to an end on every input, since each uses up five bytes or more, and what
they leave behind is never reported as input too much. -/
theorem decode_concatenation :
    (∀ input operation,
      format.decode input = .ok operation ↔ ∃ pieces, Pieces input operation pieces) ∧
    (∀ input left right pieces others,
      Pieces input left pieces → Pieces input right others → left = right ∧ pieces = others) ∧
    (∀ (branch : BlockId) front back left right,
      format.decode (branch.bytes.toList ++ front) = .ok left →
      format.decode (branch.bytes.toList ++ back) = .ok right →
      ∃ both, format.decode (branch.bytes.toList ++ front ++ back) = .ok both ∧
        both.branch = branch ∧ both.contents = left.contents ++ right.contents) ∧
    (∀ input entry rest, Contents.read.run input = ⟨.ok entry, rest⟩ →
      5 + rest.length ≤ input.length) ∧
    (∀ input entries rest, Rounds input entries rest →
      5 * entries.length + rest.length ≤ input.length) ∧
    (∀ input, ∃ entries rest, Rounds input entries rest ∧
      ((rest = [] ∧ scanContents input = ⟨.ok entries, []⟩) ∨
        ∃ error left, rest ≠ [] ∧ Contents.read.run rest = ⟨.error error, left⟩ ∧
          scanContents input = ⟨.error error, left⟩)) ∧
    ∀ input, format.decode input ≠ .error .extraInput := by
  refine ⟨decode_eq_ok_iff_exists_pieces, ?_, ?_, ?_, ?_, exists_rounds, ?_⟩
  · intro input left right pieces others first second
    exact first.unique second
  · intro branch front back left right accepted accepts
    rcases (decode_eq_ok_iff_exists_pieces _ _).mp accepted with ⟨pieces, first⟩
    rcases (decode_eq_ok_iff_exists_pieces _ _).mp accepts with ⟨others, second⟩
    have both := (decode_eq_ok_iff_exists_pieces _ _).mpr ⟨_, first.append second⟩
    exact ⟨_, both, rfl, rfl⟩
  · intro input entry rest answer
    exact Contents.length_of_run_read answer
  · intro input entries rest rounds
    exact rounds.length_le
  · intro input failed
    rcases error_of_decode failed with shortage | impossible | malformed
    · cases shortage
    · cases impossible
    · cases malformed

/-- The withdrawal, padded or not, and an endorsement behind its branch. -/
theorem withdrawal_concatenation :
    ∃ both, format.decode (paddedWithdrawal ++ [0, 0, 0, 0, 9]) = .ok both ∧
      both.contents = withdrawal.contents ++ [.endorsement ⟨9⟩] := by
  let endorsed : Operation :=
    ⟨withdrawal.branch, [.endorsement ⟨9⟩], List.cons_ne_nil _ _⟩
  have accepted : format.decode (withdrawal.branch.bytes.toList ++ paddedWithdrawal.drop 32) =
      .ok withdrawal := by decide +kernel
  have accepts : format.decode (withdrawal.branch.bytes.toList ++ [0, 0, 0, 0, 9]) =
      .ok endorsed := by decide +kernel
  rcases decode_concatenation.2.2.1 _ _ _ _ _ accepted accepts with ⟨both, decoded, -, contents⟩
  exact ⟨both, decoded, contents⟩

end Operation

end OperationForge
