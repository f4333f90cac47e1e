import Golden.Host.Launch
import Golden.Host.Tree.Access
import Golden.Program

/-! # The command

Reads the files that the manifest of the working directory lists, runs the program on them, shows
what it has written, and lets the files follow what has become of them. -/

namespace Golden.Main

open Host

/-- The name of the manifest. -/
def manifestFile : String := "MANIFEST"

/-- What the program asks of a tree of files. -/
def machine : Program.Machine Tree := ⟨launcher, fun directory t => t.pathsBelow directory⟩

/-- Adds a file to a tree, if it can be read. -/
def addFile (here : Place) (t : Tree) (e : Listed) : IO Tree := do
  try
    return t.addListed here e (← IO.FS.readBinFile e.path).toList
  catch _ => return t

/-- The text of a file, which is empty if it cannot be read. -/
def readText (path : String) : IO String := do
  try IO.FS.readFile path catch _ => return ""

/-- The usual place of the configuration file. -/
def usualFile : IO (Option Path) := do
  let directory := match ← IO.getEnv "XDG_CONFIG_HOME", ← IO.getEnv "HOME" with
    | some d, home => if d.startsWith "/" then some d else home.map (· ++ "/.config")
    | none, home => home.map (· ++ "/.config")
  return directory.map fun d => ⟨d ++ "/regrtest/config.toml"⟩

/-- The path of a place. -/
def pathOf (p : Place) : String := Octets.toText (Tree.spell p)

/-- Lets a file follow a change. -/
def follow (c : Change) : IO Unit :=
  match c with
  | .made p => IO.FS.createDirAll (pathOf p)
  | .wrote p bs => IO.FS.writeBinFile (pathOf p) ⟨bs.toArray⟩
  | .removed p => IO.FS.removeFile (pathOf p)

/-- Writes octets to a stream. -/
def put (stream : IO.FS.Stream) (bs : Bytes) : IO Unit := do
  stream.write ⟨bs.toArray⟩
  stream.flush

end Golden.Main

open Golden Golden.Main Golden.Host in
/-- Runs the program with the arguments of the command. -/
def main (args : List String) : IO UInt32 := do
  let usual ← usualFile
  let directory := (← IO.getEnv "PWD").getD "/"
  let here := Tree.placeOf [] directory
  let listed := Manifest.parse (← readText manifestFile)
  let files := (usual.toList.map fun p => ⟨p.spelling, false⟩) ++ listed
  let before ← files.foldlM (addFile here) (Tree.start here)
  let invocation : Program.Invocation :=
    { arguments := args
      configFile := ← IO.getEnv "REGRTEST_CONFIG"
      usualFile := usual
      terminal := ← (← IO.getStdout).isTty
      entropy := ← IO.rand 0 (UInt64.size - 1) }
  let start := World.start (Watched.ofHost before) (⟨[]⟩ : Memory)
  let (ended, w) := Program.run machine invocation start
  put (← IO.getStdout) w.stream.sink.contents
  put (← IO.getStderr) ended.errors
  (before.changes w.host.host []).forM follow
  return UInt32.ofNat ended.code
