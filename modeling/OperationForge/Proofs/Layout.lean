import Mathlib.Data.List.Forall2
import OperationForge.Proofs.Padding

/-!
# Layouts

A layout describes the wire form of a value without readers and writers: bytes
that have one form only, and natural numbers, which may be padded.  The spellings
of a layout are the byte strings that fill it.  Two spellings of one layout differ
in the padding of their numbers and in nothing else, and the one whose numbers are
all in their shortest form is the shortest of them.
-/

namespace OperationForge

/-- A part of a wire form. -/
inductive Field where
  /-- Bytes with one form only. -/
  | fixed (bytes : Bytes)
  /-- A natural number of variable length. -/
  | number (value : Nat)
  deriving DecidableEq, Repr

/-- The parts of a wire form, in order. -/
abbrev Layout := List Field

namespace Layout

/-- The layout filled with the shortest form of every number. -/
def shortest : Layout → Bytes
  | [] => []
  | .fixed bytes :: layout => bytes ++ shortest layout
  | .number value :: layout => Zarith.encodeNat value ++ shortest layout

/-- The numbers of a layout, in order. -/
def numbers : Layout → List Nat
  | [] => []
  | .fixed _ :: layout => numbers layout
  | .number value :: layout => value :: numbers layout

/-- The bytes fill the layout, and `forms` are the stretches of them that stand for
its numbers, in order. -/
inductive Spelling : Layout → (forms : List Bytes) → Bytes → Prop where
  | nil : Spelling [] [] []
  | fixed {layout : Layout} {forms : List Bytes} {rest : Bytes} (bytes : Bytes) :
      Spelling layout forms rest →
      Spelling (.fixed bytes :: layout) forms (bytes ++ rest)
  | number {layout : Layout} {forms : List Bytes} {rest form : Bytes} {value : Nat} :
      Zarith.decodeUnsigned form = .ok value → Spelling layout forms rest →
      Spelling (.number value :: layout) (form :: forms) (form ++ rest)

/-- The bytes fill the layout. -/
def SpelledBy (layout : Layout) (bytes : Bytes) : Prop :=
  ∃ forms, Spelling layout forms bytes

@[simp] theorem shortest_append (left right : Layout) :
    shortest (left ++ right) = shortest left ++ shortest right := by
  induction left with
  | nil => rfl
  | cons field layout ih =>
      cases field <;> simp [shortest, ih]

@[simp] theorem numbers_append (left right : Layout) :
    numbers (left ++ right) = numbers left ++ numbers right := by
  induction left with
  | nil => rfl
  | cons field layout ih =>
      cases field <;> simp [numbers, ih]

/-- The shortest forms are a way to fill the layout. -/
theorem spelling_shortest (layout : Layout) :
    Spelling layout (layout.numbers.map Zarith.encodeNat) layout.shortest := by
  induction layout with
  | nil => exact .nil
  | cons field layout ih =>
      cases field with
      | fixed bytes => exact .fixed bytes ih
      | number value =>
          refine .number ?_ ih
          rw [Zarith.decodeUnsigned_eq_ok_iff]
          exact ⟨Zarith.number_encodeNat value, Zarith.natOfGroups_encodeNat value⟩

theorem spelledBy_shortest (layout : Layout) : layout.SpelledBy layout.shortest :=
  ⟨_, layout.spelling_shortest⟩

namespace Spelling

variable {layout left right : Layout} {forms others : List Bytes}
variable {bytes other front back rest otherRest : Bytes}

theorem append (first : Spelling left forms front) (second : Spelling right others back) :
    Spelling (left ++ right) (forms ++ others) (front ++ back) := by
  induction first with
  | nil => exact second
  | fixed bytes _ ih =>
      rw [List.append_assoc]
      exact .fixed bytes ih
  | number reads _ ih =>
      rw [List.append_assoc]
      exact .number reads ih

/-- What fills two layouts in a row is what fills the first and what fills the
second. -/
theorem split (spelling : Spelling (left ++ right) forms bytes) :
    ∃ leftForms rightForms front back, Spelling left leftForms front ∧
      Spelling right rightForms back ∧ bytes = front ++ back := by
  induction left generalizing forms bytes with
  | nil => exact ⟨[], forms, [], bytes, .nil, spelling, rfl⟩
  | cons field layout ih =>
      cases spelling with
      | fixed fixed spelling =>
          rcases ih spelling with ⟨leftForms, rightForms, front, back, first, second, rfl⟩
          exact ⟨leftForms, rightForms, fixed ++ front, back, .fixed fixed first, second,
            (List.append_assoc ..).symm⟩
      | number reads spelling =>
          rcases ih spelling with ⟨leftForms, rightForms, front, back, first, second, rfl⟩
          exact ⟨_ :: leftForms, rightForms, _ ++ front, back, .number reads first, second,
            (List.append_assoc ..).symm⟩

/-- A layout tells where its spelling ends and which stretches are its numbers. -/
theorem unique (first : Spelling layout forms bytes) (second : Spelling layout others other)
    (same : bytes ++ rest = other ++ otherRest) :
    forms = others ∧ bytes = other ∧ rest = otherRest := by
  induction first generalizing others other with
  | nil =>
      cases second
      exact ⟨rfl, rfl, same⟩
  | fixed bytes _ ih =>
      cases second with
      | fixed _ second =>
          rw [List.append_assoc, List.append_assoc, List.append_cancel_left_eq] at same
          rcases ih second same with ⟨rfl, rfl, rfl⟩
          exact ⟨rfl, rfl, rfl⟩
  | number reads _ ih =>
      cases second with
      | number otherReads second =>
          rw [List.append_assoc, List.append_assoc] at same
          rw [Zarith.decodeUnsigned_eq_ok_iff] at reads otherReads
          -- A number marks its own end, so both spellings leave the same bytes behind it.
          have ends := Zarith.readGroups_recognizes.unique
            ⟨rfl, reads.1⟩ ⟨rfl, otherReads.1⟩ same
          rcases ends with ⟨rfl, -, remainder⟩
          rcases ih second remainder with ⟨rfl, rfl, rfl⟩
          exact ⟨rfl, rfl, rfl⟩

/-- The bytes alone determine the stretches. -/
theorem spelling_iff (spelling : Spelling layout forms bytes) (others : List Bytes) :
    Spelling layout others bytes ↔ others = forms := by
  constructor
  · intro second
    have same : bytes ++ [] = bytes ++ [] := rfl
    exact (second.unique spelling same).1
  · intro equal
    rw [equal]
    exact spelling

/-- The stretches are forms of the numbers of the layout. -/
theorem forms_read (spelling : Spelling layout forms bytes) :
    List.Forall₂ (fun form value => Zarith.decodeUnsigned form = .ok value)
      forms layout.numbers := by
  induction spelling with
  | nil => exact .nil
  | fixed _ _ ih => exact ih
  | number reads _ ih => exact .cons reads ih

/-- Spellings of one layout differ in the padding of their numbers only. -/
theorem paddedAlike (first : Spelling layout forms bytes)
    (second : Spelling layout others other) : List.Forall₂ Zarith.PaddedAlike forms others := by
  induction first generalizing others other with
  | nil =>
      cases second
      exact .nil
  | fixed bytes _ ih =>
      cases second with
      | fixed _ second => exact ih second
  | number reads _ ih =>
      cases second with
      | number otherReads second =>
          rw [Zarith.decodeUnsigned_eq_ok_iff] at reads otherReads
          exact .cons (reads.1.paddedAlike otherReads.1 (reads.2.trans otherReads.2.symm))
            (ih second)

theorem length_shortest_le (spelling : Spelling layout forms bytes) :
    layout.shortest.length ≤ bytes.length := by
  induction spelling with
  | nil => exact Nat.le_refl 0
  | fixed bytes _ ih =>
      rw [shortest, List.length_append, List.length_append]
      exact Nat.add_le_add_left ih bytes.length
  | number reads _ ih =>
      rw [Zarith.decodeUnsigned_eq_ok_iff] at reads
      rw [shortest, List.length_append, List.length_append, ← reads.2]
      exact Nat.add_le_add reads.1.length_encodeNat_le ih

/-- A spelling is the shortest one exactly when each of its numbers is. -/
theorem shortest_eq_iff (spelling : Spelling layout forms bytes) :
    layout.shortest = bytes ↔ ∀ form ∈ forms, Zarith.IsShortest form := by
  constructor
  · intro equal
    have same : bytes ++ [] = layout.shortest ++ [] := by rw [equal]
    rcases spelling.unique layout.spelling_shortest same with ⟨rfl, -, -⟩
    intro form member
    rcases List.mem_map.mp member with ⟨number, -, rfl⟩
    exact Zarith.isShortest_encodeNat number
  · intro every
    induction spelling with
    | nil => rfl
    | fixed bytes _ ih => rw [shortest, ih every]
    | @number layout forms rest form value reads _ ih =>
        rcases List.forall_mem_cons.mp every with ⟨head, tail⟩
        rw [Zarith.decodeUnsigned_eq_ok_iff] at reads
        rw [shortest, ih tail, ← reads.2, reads.1.isShortest_iff.mp head]

end Spelling

theorem SpelledBy.append {left right : Layout} {front back : Bytes}
    (first : left.SpelledBy front) (second : right.SpelledBy back) :
    (left ++ right : Layout).SpelledBy (front ++ back) := by
  rcases first with ⟨_, first⟩
  rcases second with ⟨_, second⟩
  exact ⟨_, first.append second⟩

theorem spelledBy_append_iff (left right : Layout) (bytes : Bytes) :
    (left ++ right : Layout).SpelledBy bytes ↔
      ∃ front back, left.SpelledBy front ∧ right.SpelledBy back ∧ bytes = front ++ back := by
  constructor
  · intro filled
    rcases filled with ⟨_, spelling⟩
    rcases spelling.split with ⟨_, _, front, back, first, second, rfl⟩
    exact ⟨front, back, ⟨_, first⟩, ⟨_, second⟩, rfl⟩
  · intro filled
    rcases filled with ⟨front, back, first, second, rfl⟩
    exact first.append second

@[simp] theorem spelledBy_nil_iff (bytes : Bytes) : SpelledBy [] bytes ↔ bytes = [] := by
  constructor
  · intro filled
    rcases filled with ⟨_, spelling⟩
    cases spelling
    rfl
  · rintro rfl
    exact ⟨[], .nil⟩

theorem spelledBy_fixed_iff (fixed : Bytes) (layout : Layout) (bytes : Bytes) :
    SpelledBy (.fixed fixed :: layout) bytes ↔
      ∃ rest, layout.SpelledBy rest ∧ bytes = fixed ++ rest := by
  constructor
  · intro filled
    rcases filled with ⟨_, spelling⟩
    cases spelling with
    | fixed _ spelling => exact ⟨_, ⟨_, spelling⟩, rfl⟩
  · intro filled
    rcases filled with ⟨rest, ⟨_, spelling⟩, rfl⟩
    exact ⟨_, .fixed fixed spelling⟩

@[simp] theorem spelledBy_singleton_iff (fixed bytes : Bytes) :
    SpelledBy [.fixed fixed] bytes ↔ bytes = fixed := by
  simp [spelledBy_fixed_iff]

theorem spelledBy_singleton_number_iff (value : Nat) (bytes : Bytes) :
    SpelledBy [.number value] bytes ↔ Zarith.decodeUnsigned bytes = .ok value := by
  constructor
  · intro filled
    rcases filled with ⟨_, spelling⟩
    cases spelling with
    | number reads spelling =>
        cases spelling
        rwa [List.append_nil]
  · intro reads
    have spelling : Spelling [.number value] [bytes] (bytes ++ []) := .number reads .nil
    rw [List.append_nil] at spelling
    exact ⟨[bytes], spelling⟩

end Layout

end OperationForge
