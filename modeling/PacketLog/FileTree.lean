/-
Loading a log from a tree of files.

A path is followed component by component from the root or from the working directory.  Regular
files are mapped into memory unless they are empty; everything else is read to its end.
-/
import PacketLog.Failure

namespace PacketLog

/-- A loaded log: its path, its bytes, and whether it is mapped into memory. -/
structure LoadedFile where
  path : Path
  content : Bytes
  mapped : Bool
  deriving DecidableEq, Repr

/-- What a path can lead to. -/
inductive Node where
  | file (content : Bytes)
  /-- A pipe or a device: bytes that can only be read in order, to their end. -/
  | stream (content : Bytes)
  | directory (entries : List (Path × Node))

/-- A root directory, and the directories from the working directory upwards. -/
structure FileTree where
  root : Node
  here : List Node

namespace Path

/-- The slash that separates the components of a path. -/
def separator : UInt8 := 0x2F

def current : Path := [0x2E]

def parent : Path := [0x2E, 0x2E]

/-- The length that a path does not reach. -/
def maxLength : Nat := 4096

/-- The length that no component exceeds. -/
def maxComponentLength : Nat := 255

/-- The pieces of a path between its slashes. -/
def components : Path → List Path
  | [] => [[]]
  | b :: rest =>
    if b = separator then [] :: components rest
    else
      match components rest with
      | [] => [[b]]
      | name :: names => (b :: name) :: names

end Path

namespace FileTree

/-- Goes up from the first directory of a trail.  Above the root is the root. -/
def up : List Node → List Node
  | _ :: above :: rest => if rest.isEmpty then [above] else above :: rest
  | trail => trail

/-- Follows the components of a path from the first node of a trail, the others being the
directories that it lies in. -/
def follow (trail : List Node) : List Path → Except IoError Node
  | [] =>
    match trail with
    | node :: _ => .ok node
    | [] => .error .noSuchFile
  | name :: names =>
    match trail with
    | .directory entries :: _ =>
      if name = [] ∨ name = Path.current then follow trail names
      else if name = Path.parent then follow (up trail) names
      else if Path.maxComponentLength < name.length then .error .nameTooLong
      else
        match entries.lookup name with
        | some node => follow (node :: trail) names
        | none => .error .noSuchFile
    | _ => .error .notADirectory

def find (t : FileTree) (path : Path) : Except IoError Node :=
  if path.contains 0 then .error .zeroByteInName
  else if path.isEmpty then .error .noSuchFile
  else if Path.maxLength ≤ path.length then .error .nameTooLong
  else
    follow (if path.head? = some Path.separator then [t.root] else t.here) (Path.components path)

def load (t : FileTree) (path : Path) : Except IoError LoadedFile :=
  match t.find path with
  | .error e => .error e
  | .ok (.file content) => .ok ⟨path, content, !content.isEmpty⟩
  | .ok (.stream content) => .ok ⟨path, content, false⟩
  | .ok (.directory _) => .error .isADirectory

end FileTree

end PacketLog
