import OperationForge.Operation.Signed
import OperationForge.Proofs.Signatures

/-!
# Labels of signatures

Two tables put a label on a signature.  A key labels what it signs by its own curve,
and reading labels a signature by the curve of the first source among the entries.
The tables agree for Ed25519 keys and sources, and for other keys where there is no
source at all.
-/

namespace OperationForge

/-! ## Labels given by keys -/

/-- The label that keys on the curve give to their signatures. -/
def Curve.signingKind : Curve → SignatureKind
  | ed25519 => .onCurve .ed25519
  | secp256k1 | p256 => .generic

/-- Keys on the other curves do not tell theirs. -/
theorem Curve.signingKind_of_ne {curve : Curve} (other : curve ≠ .ed25519) :
    curve.signingKind = .generic := by
  cases curve with
  | ed25519 => contradiction
  | secp256k1 | p256 => rfl

/-- Checks take the label that every key gives. -/
theorem Curve.checkKind_signingKind (curve : Curve) :
    Signature.checkKind curve.signingKind = .ok () := by
  cases curve <;> rfl

theorem SecretKey.Signs.kind_eq {key : SecretKey} {digest : FixedBytes 32} {signature : Signature}
    (signs : key.Signs digest signature) : signature.kind = key.curve.signingKind := by
  cases signs <;> rfl

/-! ## Labels drawn from entries -/

/-- Endorsements have no source, and all other entries do. -/
theorem Contents.manager?_eq_none_iff (entry : Contents) :
    entry.manager? = none ↔ entry.kind = .endorsement := by
  cases entry <;> simp [manager?, kind]

namespace Inference

/-- What the entries tell about the label: the first entry with a source gives its
curve, and without any source there is nothing to go by. -/
inductive Drawn : List Contents → Inference → Prop where
  | fromSource {front back : List Contents} {entry : Contents} {manager : Manager} :
      (∀ earlier ∈ front, earlier.kind = .endorsement) → entry.manager? = some manager →
      Drawn (front ++ entry :: back) (.fromSource manager.source.curve)
  | fallback {contents : List Contents} :
      (∀ entry ∈ contents, entry.kind = .endorsement) → Drawn contents .fallback

/-- The inference from a list of entries. -/
def ofContents (contents : List Contents) : Inference :=
  ((contents.filterMap Contents.source?).findSome? ofSource?).getD fallback

theorem ofContents_cons_of_manager? {entry : Contents} {manager : Manager}
    (found : entry.manager? = some manager) (entries : List Contents) :
    ofContents (entry :: entries) = fromSource manager.source.curve := by
  simp [ofContents, Contents.source?, found, ofSource?, List.findSome?_cons]

theorem ofContents_cons_of_endorsement {entry : Contents} (sourceless : entry.kind = .endorsement)
    (entries : List Contents) : ofContents (entry :: entries) = ofContents entries := by
  simp [ofContents, Contents.source?, entry.manager?_eq_none_iff.mpr sourceless]

theorem Drawn.cons_endorsement {entry : Contents} (sourceless : entry.kind = .endorsement)
    {entries : List Contents} {inference : Inference} (drawn : Drawn entries inference) :
    Drawn (entry :: entries) inference := by
  cases drawn with
  | fromSource earlier found =>
      rw [← List.cons_append]
      exact .fromSource (List.forall_mem_cons.mpr ⟨sourceless, earlier⟩) found
  | fallback every => exact .fallback (List.forall_mem_cons.mpr ⟨sourceless, every⟩)

theorem drawn_ofContents (contents : List Contents) : Drawn contents (ofContents contents) := by
  induction contents with
  | nil => exact .fallback (List.forall_mem_nil _)
  | cons entry entries ih =>
      cases found : entry.manager? with
      | some manager =>
          rw [ofContents_cons_of_manager? found, ← List.nil_append (entry :: entries)]
          exact .fromSource (List.forall_mem_nil _) found
      | none =>
          have sourceless := entry.manager?_eq_none_iff.mp found
          rw [ofContents_cons_of_endorsement sourceless]
          exact ih.cons_endorsement sourceless

/-- Endorsements in front do not change what the other entries tell. -/
theorem ofContents_append_of_endorsements {front : List Contents}
    (sourceless : ∀ entry ∈ front, entry.kind = .endorsement) (back : List Contents) :
    ofContents (front ++ back) = ofContents back := by
  induction front with
  | nil => rfl
  | cons entry entries ih =>
      rcases List.forall_mem_cons.mp sourceless with ⟨first, others⟩
      rw [List.cons_append, ofContents_cons_of_endorsement first, ih others]

theorem Drawn.ofContents_eq {contents : List Contents} {inference : Inference}
    (drawn : Drawn contents inference) : ofContents contents = inference := by
  cases drawn with
  | fromSource earlier found =>
      rw [ofContents_append_of_endorsements earlier, ofContents_cons_of_manager? found]
  | fallback every =>
      rw [← List.append_nil contents, ofContents_append_of_endorsements every]
      rfl

theorem Drawn.unique {contents : List Contents} {left right : Inference}
    (first : Drawn contents left) (second : Drawn contents right) : left = right :=
  first.ofContents_eq.symm.trans second.ofContents_eq

/-- Reading draws what the entries tell, and they do not tell two things. -/
theorem drawn_iff (operation : Operation) (inference : Inference) :
    Drawn operation.contents inference ↔ ofOperation operation = inference := by
  constructor
  · intro drawn
    exact drawn.ofContents_eq
  · intro equal
    rw [← equal]
    exact drawn_ofContents operation.contents

/-- A key gives the label that reading draws in two cases only. -/
theorem signingKind_eq_kind_iff (curve : Curve) (inference : Inference) :
    curve.signingKind = inference.kind ↔
      (curve = .ed25519 ∧ inference = .fromSource .ed25519) ∨
        (curve ≠ .ed25519 ∧ inference = .fallback) := by
  cases inference with
  | fallback => cases curve <;> simp [Curve.signingKind, kind]
  | fromSource source => cases curve <;> simp [Curve.signingKind, kind, eq_comm]

end Inference

end OperationForge
