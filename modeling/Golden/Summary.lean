import Golden.Paint
import Golden.SuiteResult

/-! # Summaries

The summary of a run counts the good units and names the bad and the skipped ones. It compares the
skips with those that are expected on the platform: on every platform some tests are known to
decline, and a skip that is not among these is a surprise. About other platforms nothing is known. A
quiet summary speaks of bad units only.

A list of names is shown on lines of at most 70 octets, indented by four spaces, with a space
between the names. A name that is too long for any line stands alone. -/

namespace Golden

/-! ### Lists of names -/

namespace NameList

/-- The greatest length of a line. -/
def width : Nat := 70

/-- What every line begins with. -/
def indent : String := "    "

/-- What stands between a line and the next name on it. -/
def pad (line : String) : String := if line.endsWith " " then "" else " "

/-- The lines for the names, when `line` has been begun already. -/
def wrapFrom (line : String) : List String → List String
  | [] => if indent.utf8ByteSize < line.utf8ByteSize then [line] else []
  | item :: items =>
    if width < line.utf8ByteSize + (pad line).utf8ByteSize + item.utf8ByteSize then
      line :: wrapFrom (indent ++ item) items
    else wrapFrom (line ++ pad line ++ item) items

/-- The lines for the names. -/
def wrap (items : List String) : List String := wrapFrom indent items

end NameList

/-! ### Expected skips -/

/-- Tests that cannot run on FreeBSD. -/
def skipsOnFreebsd : List String :=
  ["test_al", "test_cd", "test_cl", "test_curses", "test_email_codecs", "test_gdbm", "test_gl",
   "test_imgfile", "test_linuxaudiodev", "test_locale", "test_minidom", "test_nis",
   "test_pyexpat", "test_sax", "test_socket_ssl", "test_socketserver", "test_sunaudiodev",
   "test_unicode_file", "test_winreg", "test_winsound"]

/-- Tests that cannot run on Linux. -/
def skipsOnLinux : List String :=
  ["test_al", "test_cd", "test_cl", "test_curses", "test_dl", "test_email_codecs", "test_gl",
   "test_imgfile", "test_largefile", "test_nis", "test_ntpath", "test_socket_ssl",
   "test_socketserver", "test_sunaudiodev", "test_unicode_file", "test_winreg", "test_winsound"]

/-- Tests that cannot run on macOS. -/
def skipsOnMacos : List String :=
  ["test_al", "test_cd", "test_cl", "test_curses", "test_dl", "test_email_codecs", "test_gdbm",
   "test_gl", "test_imgfile", "test_largefile", "test_locale", "test_linuxaudiodev",
   "test_minidom", "test_nis", "test_ntpath", "test_poll", "test_socket_ssl", "test_socketserver",
   "test_sunaudiodev", "test_unicode_file", "test_winreg", "test_winsound"]

/-- Tests that cannot run on Solaris. -/
def skipsOnSolaris : List String :=
  ["test_al", "test_bsddb", "test_cd", "test_cl", "test_curses", "test_dbm", "test_email_codecs",
   "test_gdbm", "test_gl", "test_gzip", "test_imgfile", "test_linuxaudiodev", "test_mpz",
   "test_openpty", "test_socketserver", "test_zipfile", "test_zlib"]

/-- Tests that cannot run on Windows. -/
def skipsOnWindows : List String :=
  ["test_al", "test_cd", "test_cl", "test_commands", "test_crypt", "test_curses", "test_dbm",
   "test_dl", "test_email_codecs", "test_fcntl", "test_fork1", "test_gdbm", "test_gl", "test_grp",
   "test_imgfile", "test_largefile", "test_linuxaudiodev", "test_mhlib", "test_nis",
   "test_openpty", "test_poll", "test_pty", "test_pwd", "test_signal", "test_socket_ssl",
   "test_socketserver", "test_sunaudiodev", "test_timing"]

/-- The platforms that are known, with their expected skips. -/
def knownSkips : List (String × List String) :=
  [("freebsd", skipsOnFreebsd), ("linux", skipsOnLinux), ("macos", skipsOnMacos),
   ("solaris", skipsOnSolaris), ("windows", skipsOnWindows)]

/-- Names in ascending order, each of them once. -/
def distinctNames (names : List String) : List String :=
  (names.mergeSort fun a b => !(b < a)).eraseReps

/-- A platform, and the tests that are expected to be skipped on it if that is known. -/
structure ExpectedSkips where
  platform : String
  expected : Option (List String)
  deriving DecidableEq, Inhabited

namespace ExpectedSkips

/-- What is known about a platform. -/
def ofPlatform (platform : String) : ExpectedSkips := ⟨platform, knownSkips.lookup platform⟩

/-- A platform with the given expectations. -/
def ofNames (platform : String) (names : List String) : ExpectedSkips := ⟨platform, some names⟩

/-- Whether the platform is known. -/
def isKnown (e : ExpectedSkips) : Bool := e.expected.isSome

/-- The skipped tests that were not expected to be, if the platform is known. -/
def surprising (e : ExpectedSkips) (skipped : List String) : Option (List String) :=
  e.expected.map fun names => distinctNames (skipped.filter fun s => !names.contains s)

end ExpectedSkips

/-! ### Summaries -/

/-- A number of things. -/
def count (n : Nat) (word : String) : String :=
  toString n ++ " " ++ word ++ (if n = 1 then "" else "s")

namespace Summary

/-- How a summary is written. -/
structure Manner where
  verbose : Nat
  quiet : Bool
  painter : Painter
  deriving DecidableEq, Inhabited

/-- The lines about an interruption. -/
def interruptedLines (m : Manner) (r : SuiteResult) : List String :=
  if r.interrupted then [m.painter.paint .notice "Interrupted; results are partial."] else []

/-- The lines about good units. -/
def goodLines (m : Manner) (r : SuiteResult) : List String :=
  if r.good = [] || m.quiet then []
  else
    let all := if r.bad = [] && r.skipped = [] && 1 < r.good.length then "All " else ""
    m.painter.paint .success (all ++ count r.good.length "test" ++ " OK.") ::
      if m.verbose = 0 then []
      else
        ["CAUTION:  stdout isn't compared in verbose mode:  a test",
         "that passes in verbose mode may fail without it."]

/-- The lines about bad units. -/
def badLines (m : Manner) (r : SuiteResult) : List String :=
  if r.bad = [] then []
  else
    m.painter.paint .failure (count r.bad.length "test" ++ " failed:") ::
      NameList.wrap (r.bad.map (·.display r.severalRoots))

/-- The lines about skips that were not expected. -/
def surpriseLines (m : Manner) (e : ExpectedSkips) (r : SuiteResult) : List String :=
  match e.surprising (r.skipped.map UnitId.name) with
  | some [] => ["Those skips are all expected on " ++ e.platform ++ "."]
  | some names =>
    let heading := count names.length "skip" ++ " unexpected on " ++ e.platform ++ ":"
    m.painter.paint .failure heading :: NameList.wrap names
  | none =>
    ["Ask someone to teach regrtest about which tests are",
     "expected to get skipped on " ++ e.platform ++ "."]

/-- The lines about skipped units. -/
def skippedLines (m : Manner) (e : ExpectedSkips) (r : SuiteResult) : List String :=
  if r.skipped = [] || m.quiet then []
  else
    m.painter.paint .notice (count r.skipped.length "test" ++ " skipped:") ::
      (NameList.wrap (r.skipped.map (·.display r.severalRoots)) ++ surpriseLines m e r)

/-- The lines of a summary. -/
def lines (m : Manner) (e : ExpectedSkips) (r : SuiteResult) : List String :=
  interruptedLines m r ++ goodLines m r ++ badLines m r ++ skippedLines m e r

/-- The summary of a run. -/
def text (m : Manner) (e : ExpectedSkips) (r : SuiteResult) : String :=
  String.join ((lines m e r).map (· ++ "\n"))

end Summary

end Golden
