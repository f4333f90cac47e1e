/-! # Refusals of the operating system -/

namespace Golden.Host

/-- Why the operating system refuses. -/
inductive Errno where
  | notPermitted
  | noEntry
  | noProcess
  | interrupted
  | noDeviceOrAddress
  | tooManyArguments
  | badFormat
  | badDescriptor
  | noChild
  | tryAgain
  | noPermission
  | busy
  | alreadyThere
  | notDirectory
  | isDirectory
  | invalid
  | notTerminal
  | textBusy
  | tooLarge
  | noSpace
  | illegalSeek
  | brokenPipe
  | nameTooLong
  | notEmpty
  | manyLinks
  /-- A path that no operating system accepts. -/
  | nul
  deriving DecidableEq, Inhabited

namespace Errno

/-- The words of the operating system. -/
def words : Errno → String
  | notPermitted => "Operation not permitted"
  | noEntry => "No such file or directory"
  | noProcess => "No such process"
  | interrupted => "Interrupted system call"
  | noDeviceOrAddress => "No such device or address"
  | tooManyArguments => "Argument list too long"
  | badFormat => "Exec format error"
  | badDescriptor => "Bad file descriptor"
  | noChild => "No child processes"
  | tryAgain => "Resource temporarily unavailable"
  | noPermission => "Permission denied"
  | busy => "Device or resource busy"
  | alreadyThere => "File exists"
  | notDirectory => "Not a directory"
  | isDirectory => "Is a directory"
  | invalid => "Invalid argument"
  | notTerminal => "Inappropriate ioctl for device"
  | textBusy => "Text file busy"
  | tooLarge => "File too large"
  | noSpace => "No space left on device"
  | illegalSeek => "Illegal seek"
  | brokenPipe => "Broken pipe"
  | nameTooLong => "File name too long"
  | notEmpty => "Directory not empty"
  | manyLinks => "Too many levels of symbolic links"
  | nul => "file name contained an unexpected NUL byte"

/-- The number of a refusal. -/
def number : Errno → Nat
  | notPermitted => 1
  | noEntry => 2
  | noProcess => 3
  | interrupted => 4
  | noDeviceOrAddress => 6
  | tooManyArguments => 7
  | badFormat => 8
  | badDescriptor => 9
  | noChild => 10
  | tryAgain => 11
  | noPermission => 13
  | busy => 16
  | alreadyThere => 17
  | notDirectory => 20
  | isDirectory => 21
  | invalid => 22
  | notTerminal => 25
  | textBusy => 26
  | tooLarge => 27
  | noSpace => 28
  | illegalSeek => 29
  | brokenPipe => 32
  | nameTooLong => 36
  | notEmpty => 39
  | manyLinks => 40
  | nul => 22

/-- The text of a refusal. -/
def message (e : Errno) : String :=
  if e = nul then e.words else e.words ++ " (os error " ++ toString e.number ++ ")"

end Errno

end Golden.Host
