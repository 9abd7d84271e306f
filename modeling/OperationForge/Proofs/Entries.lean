import OperationForge.Proofs.Parts

/-!
# Layouts of entries

An entry is spelled by the tag of its kind and what the kind puts behind it.  The
kinds share one argument: a body that follows a layout follows it behind a tag too.
The reader of an entry looks at the tag before it takes it, and the tag of one kind
never starts an entry of another.
-/

namespace OperationForge

/-- A tag in front of what follows a layout. -/
theorem ContentsKind.tagged_follows {α : Type} (kind : ContentsKind) {body : Format α}
    {writable : α → Prop} {layout : α → Layout} (follows : body.Follows writable layout) :
    (kind.tagged body).Follows writable fun entry => .fixed [kind.tag] :: layout entry where
  recognizes := by
    apply ((Reader.Recognizes.expectTag kind.tag).bind fun _ _ _ => follows.recognizes).congr
    intro entry used
    rw [Layout.spelledBy_fixed_iff]
    constructor
    · intro spelled
      rcases spelled with ⟨_, _, back, rfl, ⟨canWrite, spelled⟩, rfl⟩
      exact ⟨canWrite, back, spelled, rfl⟩
    · intro spelled
      rcases spelled with ⟨canWrite, back, spelled, rfl⟩
      exact ⟨(), _, back, rfl, ⟨canWrite, spelled⟩, rfl⟩
  write_eq entry canWrite := by
    simp only [ContentsKind.tagged, follows.write_eq entry canWrite]
    rfl
  writable_of_write entry bytes written := by
    rcases (Output.append_eq_wrote_iff _ _ _).mp written with ⟨_, back, -, written, -⟩
    exact follows.writable_of_write entry back written

/-! ## What the kinds put behind the tag -/

namespace Revelation

/-- The manager fields, and then the key. -/
def body (entry : Revelation) : Layout := entry.manager.layout ++ entry.publicKey.layout

theorem format_eq_pair :
    format = ContentsKind.revelation.tagged
      ((Manager.format.pair PublicKey.format).translate (fun parts => ⟨parts.1, parts.2⟩)
        (fun entry => (entry.manager, entry.publicKey))) := by
  simp [format, Format.pair, Format.translate]

theorem format_follows :
    format.Follows (fun _ => True)
      fun entry => .fixed [ContentsKind.revelation.tag] :: entry.body := by
  rw [format_eq_pair]
  apply ContentsKind.tagged_follows
  have parts := Manager.format_follows.pair PublicKey.format_follows
  apply (parts.translate (fun _ => rfl) (fun _ => rfl)).congr
  · intro entry
    exact and_self_iff
  · intro entry
    rfl

end Revelation

namespace Transaction

/-- Whether the entry can be written. -/
def Writable (entry : Transaction) : Prop := ∀ call ∈ entry.parameters, call.Writable

instance : DecidablePred Writable := fun entry =>
  inferInstanceAs (Decidable (∀ call ∈ entry.parameters, call.Writable))

/-- The manager fields, the amount, the destination and the call if there is one. -/
def body (entry : Transaction) : Layout :=
  entry.manager.layout ++ .number entry.amount :: (entry.destination.layout ++
    Format.optionLayout Parameters.layout entry.parameters)

theorem format_eq_pair :
    format = ContentsKind.transaction.tagged
      ((Manager.format.pair (Zarith.natural.pair (Address.format.pair
        Parameters.format.option))).translate
          (fun parts => ⟨parts.1, parts.2.1, parts.2.2.1, parts.2.2.2⟩)
          (fun entry => (entry.manager, entry.amount, entry.destination, entry.parameters))) := by
  simp [format, Format.pair, Format.translate, Output.append_assoc]

theorem format_follows :
    format.Follows Writable fun entry => .fixed [ContentsKind.transaction.tag] :: entry.body := by
  rw [format_eq_pair]
  apply ContentsKind.tagged_follows
  have parts := Manager.format_follows.pair (Zarith.natural_follows.pair
    (Address.format_follows.pair Parameters.format_follows.option))
  apply (parts.translate (fun _ => rfl) (fun _ => rfl)).congr
  · intro entry
    simp only [true_and]
    rfl
  · intro entry
    rfl

end Transaction

namespace Origination

/-- The manager fields, the balance, the delegate if there is one and the script. -/
def body (entry : Origination) : Layout :=
  entry.manager.layout ++ .number entry.balance ::
    (Format.optionLayout KeyHash.layout entry.delegate ++ entry.script.layout)

theorem format_eq_pair :
    format = ContentsKind.origination.tagged
      ((Manager.format.pair (Zarith.natural.pair (KeyHash.format.option.pair
        Script.format))).translate
          (fun parts => ⟨parts.1, parts.2.1, parts.2.2.1, parts.2.2.2⟩)
          (fun entry => (entry.manager, entry.balance, entry.delegate, entry.script))) := by
  simp [format, Format.pair, Format.translate, Output.append_assoc]

theorem format_follows :
    format.Follows (fun _ => True)
      fun entry => .fixed [ContentsKind.origination.tag] :: entry.body := by
  rw [format_eq_pair]
  apply ContentsKind.tagged_follows
  have parts := Manager.format_follows.pair (Zarith.natural_follows.pair
    (KeyHash.format_follows.option.pair Script.format_follows))
  apply (parts.translate (fun _ => rfl) (fun _ => rfl)).congr
  · intro entry
    simp
  · intro entry
    rfl

end Origination

namespace Delegation

/-- The manager fields, and the delegate if there is one. -/
def body (entry : Delegation) : Layout :=
  entry.manager.layout ++ Format.optionLayout KeyHash.layout entry.delegate

theorem format_eq_pair :
    format = ContentsKind.delegation.tagged
      ((Manager.format.pair KeyHash.format.option).translate
        (fun parts => ⟨parts.1, parts.2⟩) (fun entry => (entry.manager, entry.delegate))) := by
  simp [format, Format.pair, Format.translate]

theorem format_follows :
    format.Follows (fun _ => True)
      fun entry => .fixed [ContentsKind.delegation.tag] :: entry.body := by
  rw [format_eq_pair]
  apply ContentsKind.tagged_follows
  have parts := Manager.format_follows.pair KeyHash.format_follows.option
  apply (parts.translate (fun _ => rfl) (fun _ => rfl)).congr
  · intro entry
    simp
  · intro entry
    rfl

end Delegation

namespace Endorsement

/-- The level in four bytes. -/
def body (entry : Endorsement) : Layout :=
  [.fixed (BigEndian.encode 4 entry.level.toUInt32.toNat)]

theorem format_follows :
    format.Follows (fun _ => True)
      fun entry => .fixed [ContentsKind.endorsement.tag] :: entry.body := by
  apply ContentsKind.tagged_follows
  exact Format.int32_follows.translate (fun _ => rfl) (fun _ => rfl)

end Endorsement

/-! ## Entries of any kind -/

namespace Contents

/-- Whether the entry can be written: only the call of a transaction can stop it. -/
def Writable : Contents → Prop
  | transaction entry => entry.Writable
  | _ => True

instance : DecidablePred Writable := fun entry =>
  match entry with
  | transaction entry => inferInstanceAs (Decidable entry.Writable)
  | revelation _ | origination _ | delegation _ | endorsement _ =>
      inferInstanceAs (Decidable True)

/-- What stands behind the tag. -/
def body : Contents → Layout
  | revelation entry => entry.body
  | transaction entry => entry.body
  | origination entry => entry.body
  | delegation entry => entry.body
  | endorsement entry => entry.body

/-- The tag of the kind, and what stands behind it. -/
def layout (entry : Contents) : Layout := .fixed [entry.kind.tag] :: entry.body

/-- The natural numbers of an entry, in the order of the wire. -/
def naturals : Contents → List Nat
  | revelation entry => entry.manager.naturals
  | transaction entry => entry.manager.naturals ++ [entry.amount]
  | origination entry => entry.manager.naturals ++ [entry.balance]
  | delegation entry => entry.manager.naturals
  | endorsement _ => []

@[simp] theorem numbers_layout (entry : Contents) : entry.layout.numbers = entry.naturals := by
  have noDelegate := Format.numbers_optionLayout KeyHash.numbers_layout
  have noCall := Format.numbers_optionLayout Parameters.numbers_layout
  cases entry with
  | revelation entry => simp [layout, body, Revelation.body, Layout.numbers, naturals]
  | transaction entry => simp [layout, body, Transaction.body, Layout.numbers, naturals, noCall]
  | origination entry => simp [layout, body, Origination.body, Layout.numbers, naturals, noDelegate]
  | delegation entry => simp [layout, body, Delegation.body, Layout.numbers, naturals, noDelegate]
  | endorsement entry => rfl

/-- The reader of a kind takes the entries of that kind. -/
theorem readKind_recognizes (kind : ContentsKind) :
    (readKind kind).Recognizes fun entry used =>
      entry.kind = kind ∧ entry.Writable ∧ entry.layout.SpelledBy used := by
  cases kind
  case' endorsement => apply (Endorsement.format_follows.recognizes.map endorsement).congr
  case' revelation => apply (Revelation.format_follows.recognizes.map revelation).congr
  case' transaction => apply (Transaction.format_follows.recognizes.map transaction).congr
  case' origination => apply (Origination.format_follows.recognizes.map origination).congr
  case' delegation => apply (Delegation.format_follows.recognizes.map delegation).congr
  all_goals
    intro entry used
    cases entry <;> simp [Contents.kind, layout, body, Writable]

/-- The tag that comes next selects the reader of its kind. -/
theorem run_read_tag (kind : ContentsKind) (rest : Bytes) :
    read.run (kind.tag :: rest) = (readKind kind).run (kind.tag :: rest) := by
  rw [read, Reader.run_bind, Reader.run_peek]
  simp

/-- What is read starts with the tag of some kind. -/
theorem exists_tag_of_run_read {input rest : Bytes} {entry : Contents}
    (answer : read.run input = ⟨.ok entry, rest⟩) :
    ∃ kind behind, input = ContentsKind.tag kind :: behind := by
  rw [read, Reader.run_bind, Reader.run_peek] at answer
  cases input with
  | nil => simp at answer
  | cons tag behind =>
      cases selected : ContentsKind.ofTag? tag with
      | none => simp [selected] at answer
      | some kind => exact ⟨kind, behind, by rw [ContentsKind.tag_of_ofTag? selected]⟩

theorem read_recognizes :
    read.Recognizes fun entry used => entry.Writable ∧ entry.layout.SpelledBy used := by
  intro input entry rest
  constructor
  · intro answer
    rcases exists_tag_of_run_read answer with ⟨kind, behind, rfl⟩
    rw [run_read_tag] at answer
    rcases (readKind_recognizes kind _ _ _).mp answer with ⟨used, ⟨-, spelled⟩, split⟩
    exact ⟨used, spelled, split⟩
  · intro spelled
    rcases spelled with ⟨used, ⟨canWrite, spelled⟩, rfl⟩
    have answer := (readKind_recognizes entry.kind).run_append ⟨rfl, canWrite, spelled⟩ rest
    rcases (Layout.spelledBy_fixed_iff _ _ _).mp spelled with ⟨behind, -, rfl⟩
    exact (run_read_tag entry.kind (behind ++ rest)).trans answer

theorem format_follows : format.Follows Writable layout where
  recognizes := read_recognizes
  write_eq entry canWrite := by
    cases entry with
    | revelation entry => exact Revelation.format_follows.write_eq entry trivial
    | transaction entry => exact Transaction.format_follows.write_eq entry canWrite
    | origination entry => exact Origination.format_follows.write_eq entry trivial
    | delegation entry => exact Delegation.format_follows.write_eq entry trivial
    | endorsement entry => exact Endorsement.format_follows.write_eq entry trivial
  writable_of_write entry bytes written := by
    cases entry with
    | transaction entry => exact Transaction.format_follows.writable_of_write entry bytes written
    | revelation | origination | delegation | endorsement => trivial

end Contents

end OperationForge
