import OperationForge.Key.Watermark
import OperationForge.Operation.Contents
import OperationForge.Operation.Identifier

/-!
# Operations

An operation is anchored to a block and holds at least one entry.  On the wire the entries follow
the branch, up to the end of the input; neither their number nor their length is written.
-/

namespace OperationForge

/-- A branch and the entries, of which there is at least one. -/
@[ext] structure Operation where
  branch : BlockId
  contents : List Contents
  contents_ne_nil : contents ≠ []
  deriving DecidableEq

namespace Operation

/-- The operation with the given entries, if there are any. -/
def ofContents (branch : BlockId) (contents : List Contents) : Except OperationError Operation :=
  if nonempty : contents ≠ [] then .ok ⟨branch, contents, nonempty⟩ else .error (.wire .noContents)

/-- The operation with one more entry at its end. -/
def append (operation : Operation) (entry : Contents) : Operation where
  branch := operation.branch
  contents := operation.contents ++ [entry]
  contents_ne_nil := by simp

/-- Reads entries up to the end of the input. -/
def scanContents (input : Bytes) : Read (List Contents) :=
  match input with
  | [] => ⟨.ok [], []⟩
  | tag :: body =>
      match _ : Contents.read.run (tag :: body) with
      | ⟨.error error, rest⟩ => ⟨.error error, rest⟩
      | ⟨.ok entry, rest⟩ =>
          let tail := scanContents rest
          ⟨tail.outcome.map (entry :: ·), tail.rest⟩
termination_by input.length
decreasing_by exact Contents.rest_shorter ‹_›

theorem rest_scanContents_suffix (input : Bytes) : (scanContents input).rest <:+ input := by
  fun_induction scanContents input with
  | case1 => exact List.suffix_rfl
  | case2 tag body error rest answer =>
      simpa [answer] using Contents.read.rest_suffix (tag :: body)
  | case3 tag body entry rest answer tail ih =>
      exact ih.trans (by simpa [answer] using Contents.read.rest_suffix (tag :: body))

/-- Reads all entries. -/
def readContents : Reader (List Contents) :=
  ⟨scanContents, rest_scanContents_suffix⟩

/-- The branch, and then the entries.  Writing looks again whether there are any before anything is
written. -/
def format : Format Operation where
  read := do
    let branch ← (Identifier.format .blockHash).read
    let contents ← readContents
    if nonempty : contents ≠ [] then pure ⟨branch, contents, nonempty⟩ else Reader.fail .noContents
  write operation :=
    if operation.contents = [] then .stopped .noContents
    else
      (Identifier.format .blockHash).write operation.branch ++
        Output.concat (operation.contents.map Contents.format.write)

/-- The digest that a signer of the operation signs. -/
def signableHash (operation : Operation) : Except OperationError (FixedBytes 32) := do
  let bytes ← (format.encode operation).mapError .wire
  return Watermark.operation.signingDigest bytes

end Operation

end OperationForge
