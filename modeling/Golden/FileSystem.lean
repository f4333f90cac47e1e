import Golden.Path
import Golden.Text.Utf8

/-! # File systems

What a run of tests asks of the files around it. A state of type `σ` is a file system if it can
list, read, and write (`FileSystem`). A path that leads nowhere is told apart from every other
failure, because a missing file of expected output is not an error. -/

namespace Golden

/-- What may be asked of a file system and refused. -/
inductive FileOperation where
  | list
  | read
  | write
  | createDirectory
  deriving DecidableEq, Inhabited

/-- The words for an operation. -/
def FileOperation.text : FileOperation → String
  | list => "list"
  | read => "read"
  | write => "write"
  | createDirectory => "create directory"

/-- Why a file system refused. -/
inductive FileSystemError where
  | notFound (path : Path)
  | operationFailed (operation : FileOperation) (path : Path) (reason : String)
  deriving DecidableEq, Inhabited

/-- The text of a refusal. -/
def FileSystemError.message : FileSystemError → String
  | notFound path => "no such file or directory: " ++ path.spelling
  | operationFailed operation path reason =>
    "failed to " ++ operation.text ++ " " ++ path.spelling ++ ": " ++ reason

/-- The reason for a refusal, in the words of the operating system. -/
def FileSystemError.reason : FileSystemError → String
  | notFound _ => "No such file or directory (os error 2)"
  | operationFailed _ _ reason => reason

/-- A state in which there are files. What is read does not change it. -/
class FileSystem (σ : Type) where
  /-- The names in a directory, in any order. -/
  list : σ → Path → Except FileSystemError (List String)
  /-- Whether there is anything at the path. -/
  has : σ → Path → Bool
  /-- Whether there is a directory at the path. -/
  isDirectory : σ → Path → Bool
  /-- The contents of a file. -/
  read : σ → Path → Except FileSystemError Bytes
  /-- Puts the contents into a file, in place of what was there. -/
  write : σ → Path → Bytes → Except FileSystemError Unit × σ
  /-- Creates a directory with all directories above it. -/
  makeDirectories : σ → Path → Except FileSystemError Unit × σ

/-- The source file of a test. -/
def sourcePath (root : Path) (name extension : String) : Path :=
  root.join (name ++ "." ++ extension)

end Golden
