import Golden.FileSystem

/-! # Errors of configuration

What makes a run impossible before it begins. -/

namespace Golden

/-- Why a run cannot begin. -/
inductive ConfigError where
  /-- Expected output is to be written, and output is not to be captured. -/
  | generateVerbose
  /-- A request for resources with a word that is not understood. -/
  | invalidResource (request : String)
  /-- An argument file in which a quote is not closed on its line. -/
  | unterminatedQuote (path : Path) (line : Nat)
  /-- An argument file that cannot be read. -/
  | unreadableArgumentFile (path : Path) (cause : FileSystemError)
  deriving DecidableEq, Inhabited

/-- The text of an error of configuration. -/
def ConfigError.message : ConfigError → String
  | generateVerbose => "-g and -v don't go together!"
  | invalidResource request => "Invalid -u/--use option: " ++ request
  | unterminatedQuote path line =>
    path.spelling ++ ":" ++ toString line ++ ": expected closing quote for argument"
  | unreadableArgumentFile path cause =>
    "failed to read argument file " ++ path.spelling ++ ": " ++ cause.message

end Golden
