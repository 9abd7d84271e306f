import OperationForge.Operation.Error
import OperationForge.Text.Utf8

/-!
# Entrypoints

The entrypoint of a contract is one of five reserved ones or has a name.  A name takes up at most
255 bytes on the wire, where one byte holds its length.  Names read from the wire obey that; a name
given by hand is looked at when it is written, or at once by `ofName`.
-/

namespace OperationForge

/-- Which entrypoint of a contract is called. -/
inductive Entrypoint where
  | default
  | root
  | doLambda
  | setDelegate
  | removeDelegate
  | named (name : String)
  deriving DecidableEq

namespace Entrypoint

/-- The greatest length of a name in bytes. -/
def maxNameLength : Nat := 255

/-- The entrypoint of a name that is short enough. -/
def ofName (name : String) : Except OperationError Entrypoint :=
  let length := (Utf8.encode name).length
  if maxNameLength < length then .error (.wire (.overflowContainer length)) else .ok (named name)

/-- The tag of an entrypoint on the wire. -/
def tag : Entrypoint → UInt8
  | default => 0
  | root => 1
  | doLambda => 2
  | setDelegate => 3
  | removeDelegate => 4
  | named _ => 255

/-- The name of an entrypoint, which must not be empty. -/
def name : Entrypoint → Except OperationError String
  | default => .ok "default"
  | root => .ok "root"
  | doLambda => .ok "do"
  | setDelegate => .ok "set_delegate"
  | removeDelegate => .ok "remove_delegate"
  | named name => if name = "" then .error .entrypointNotNamed else .ok name

/-- How an entrypoint is shown. -/
def display (entrypoint : Entrypoint) : String :=
  match entrypoint.name with
  | .ok name => "%" ++ name
  | .error _ => "<unnamed entrypoint>"

instance : Inhabited Entrypoint := ⟨default⟩

/-- The entrypoints that need no name. -/
def reserved : List Entrypoint :=
  [default, root, doLambda, setDelegate, removeDelegate]

/-- What a tag announces: a reserved entrypoint, or a name that follows. -/
def announced? (tag : UInt8) : Option (Option Entrypoint) :=
  if tag = (named "").tag then some none
  else (reserved.find? fun entrypoint => entrypoint.tag = tag).map some

/-- A length in one byte, and a name of that many bytes. -/
def readName : Reader Entrypoint := do
  let length ← Reader.byte
  let bytes ← Reader.takeList length.toNat
  match Utf8.decode bytes with
  | .ok name => pure (named name)
  | .error fault => Reader.fail (.invalidUtf8 fault)

/-- What is written after the tag. -/
def writeName (name : String) : Output :=
  let bytes := Utf8.encode name
  if maxNameLength < bytes.length then .stopped (.overflowContainer bytes.length)
  else .wrote [UInt8.ofNat bytes.length] ++ .wrote bytes

/-- The tag, and for a named entrypoint the length of the name and the name. -/
def format : Format Entrypoint where
  read := do
    match ← Reader.choose .entrypoint announced? with
    | some reserved => pure reserved
    | none => readName
  write
    | named name => .wrote [tag (named name)] ++ writeName name
    | reserved => .wrote [reserved.tag]

end Entrypoint

end OperationForge
