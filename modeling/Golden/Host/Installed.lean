import Golden.Host.Awk.Start
import Golden.Host.Compare.Start
import Golden.Host.Find.Start
import Golden.Host.Sed.Start
import Golden.Host.Shell.Start
import Golden.Host.Tool.Answers
import Golden.Host.Tool.Blocks
import Golden.Host.Tool.Calculating
import Golden.Host.Tool.Characters
import Golden.Host.Tool.Checking
import Golden.Host.Tool.Coding
import Golden.Host.Tool.Comparing
import Golden.Host.Tool.Copying
import Golden.Host.Tool.Fields
import Golden.Host.Tool.Grep
import Golden.Host.Tool.Listing
import Golden.Host.Tool.Making
import Golden.Host.Tool.Moments
import Golden.Host.Tool.Moving
import Golden.Host.Tool.Parts
import Golden.Host.Tool.Pieces
import Golden.Host.Tool.Removing
import Golden.Host.Tool.Running
import Golden.Host.Tool.Sorting
import Golden.Host.Tree

/-! # What is installed

The programs that every machine has, and the tree of files that a machine begins with: the programs
under their names, devices, and directories for all purposes. -/

namespace Golden.Host

namespace Installed

/-- Shells. -/
def shells : List (String × Program) :=
  [("bash", Shell.Start.program), ("dash", Shell.Start.program), ("sh", Shell.Start.program)]

/-- Tools that read what others have written. -/
def readers : List (String × Program) :=
  [("awk", Awk.program), ("base32", Tool.encodeAs Tool.base32Encoding),
   ("base64", Tool.encodeAs Tool.base64Encoding), ("cat", Tool.cat), ("cksum", Tool.cksum),
   ("cmp", Tool.cmp), ("comm", Tool.comm), ("cut", Tool.cut), ("diff", Compare.program),
   ("egrep", Tool.grepAs "-E"), ("expand", Tool.expand), ("fgrep", Tool.grepAs "-F"),
   ("fold", Tool.fold), ("grep", Tool.grep), ("head", Tool.head), ("join", Tool.join),
   ("mawk", Awk.program), ("nl", Tool.nl), ("od", Tool.od), ("paste", Tool.paste),
   ("rev", Tool.rev), ("sed", Sed.program), ("sort", Tool.sort), ("sum", Tool.sum),
   ("tac", Tool.tac), ("tail", Tool.tail), ("tee", Tool.tee), ("tr", Tool.tr),
   ("unexpand", Tool.unexpand), ("uniq", Tool.uniq), ("wc", Tool.wc)] ++ Tool.digests

/-- Tools that change or tell which files there are. -/
def keepers : List (String × Program) :=
  [("chgrp", Tool.chgrp), ("chmod", Tool.chmod), ("chown", Tool.chown), ("cp", Tool.cp),
   ("dd", Tool.dd), ("find", Find.program), ("link", Tool.link), ("ln", Tool.ln),
   ("ls", Tool.ls), ("mkdir", Tool.mkdir), ("mkfifo", Tool.mkfifo), ("mktemp", Tool.mktemp),
   ("mv", Tool.mv),
   ("readlink", Tool.readlink), ("realpath", Tool.realpath), ("rm", Tool.rm),
   ("rmdir", Tool.rmdir), ("split", Tool.split), ("stat", Tool.stat), ("touch", Tool.touch),
   ("truncate", Tool.truncate), ("unlink", Tool.unlink)]

/-- Tools that answer from their arguments and from what they know. -/
def answerers : List (String × Program) :=
  [("[", Tool.bracket), ("arch", Tool.arch), ("basename", Tool.basename), ("date", Tool.date),
   ("dirname", Tool.dirname), ("echo", Tool.echo), ("expr", Tool.expr), ("factor", Tool.factor),
   ("false", Tool.refuse), ("groups", Tool.groups), ("hostname", Tool.hostname),
   ("id", Tool.identity), ("logname", Tool.logname), ("nproc", Tool.nproc),
   ("printenv", Tool.printenv), ("printf", Tool.printf), ("pwd", Tool.pwd), ("seq", Tool.seq),
   ("sync", Tool.sync), ("test", Tool.test), ("true", Tool.succeed), ("tty", Tool.tty),
   ("uname", Tool.uname), ("users", Tool.loggedIn), ("which", Tool.which),
   ("who", Tool.loggedIn), ("whoami", Tool.whoami),
   ("yes", Tool.yes)]

/-- Tools that run others. -/
def runners : List (String × Program) :=
  [("env", Tool.env), ("kill", Tool.kill), ("nice", Tool.nice), ("nohup", Tool.nohup),
   ("setsid", Tool.setsid), ("sleep", Tool.sleep), ("stdbuf", Tool.stdbuf),
   ("timeout", Tool.timeout), ("xargs", Tool.xargs)]

/-- The programs with their names. -/
def table : List (String × Program) := shells ++ readers ++ keepers ++ answerers ++ runners

/-- The program with a name. -/
def program? (name : String) : Option Program := table.lookup name

/-- The devices with their places. -/
def devices : List (Place × Device) :=
  [(["dev", "null"], .null), (["dev", "zero"], .zero), (["dev", "full"], .full),
   (["dev", "random"], .random), (["dev", "urandom"], .random), (["dev", "tty"], .terminal),
   (["dev", "stdin"], .descriptor 0), (["dev", "stdout"], .descriptor 1),
   (["dev", "stderr"], .descriptor 2)] ++
    (List.range 10).map fun n => (["dev", "fd", toString n], .descriptor n)

/-- The directories that are there. -/
def directories : List Place :=
  [["dev", "fd"], ["etc"], ["home"], ["lib"], ["opt"], ["proc"], ["root"], ["run"], ["srv"],
   ["sys"], ["tmp"], ["usr", "bin"], ["usr", "lib"], ["usr", "local", "bin"], ["usr", "sbin"],
   ["usr", "share"], ["var", "tmp"]]

/-- Where the clock stands at first, in nanoseconds. -/
def firstTime : Nat := 1700000000000000000

end Installed

/-- The tree that a machine begins with, in a working directory. -/
def Tree.start (here : Place) : Tree :=
  let root : Node := ⟨.directory 0 [], 0o755, 1, Installed.firstTime⟩
  let t : Tree := ⟨#[root], Tree.root, Installed.firstTime⟩
  let t := Installed.directories.foldl putDirectory t
  let t := Installed.devices.foldl (fun t d => t.putNode d.1 (.device d.2) 0o666) t
  let t := Installed.table.foldl
    (fun t p => t.putNode ["usr", "bin", p.1] (.program p.1) 0o755) t
  let t := t.putNode ["bin"] (.link "usr/bin") 0o777
  let t := t.putNode ["sbin"] (.link "usr/sbin") 0o777
  let t := t.putDirectory here
  { t with here := (t.walk manySteps linkLimit Tree.root here).toOption.getD Tree.root }

end Golden.Host
