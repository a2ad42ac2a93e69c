import LayoutCheck.Decimal
import LayoutCheck.Text

/-! # Faults

Everything that can go wrong, as causes. A fault in the configuration ends a run; any other is
recorded against the file it happened on. System calls fail with a number, for which Linux has
words. -/

namespace LayoutCheck

structure Errno where
  code : Int
  deriving DecidableEq, Repr

namespace Errno

def noEntry : Errno := ⟨2⟩
def badExecutable : Errno := ⟨8⟩
def noPermission : Errno := ⟨13⟩
def exists_ : Errno := ⟨17⟩
def notDirectory : Errno := ⟨20⟩
def isDirectory : Errno := ⟨21⟩
def noSpace : Errno := ⟨28⟩
def nameTooLong : Errno := ⟨36⟩
def notEmpty : Errno := ⟨39⟩
def tooManyLinks : Errno := ⟨40⟩

def descriptions : List (Int × String) :=
  [(0, "Success"),
   (1, "Operation not permitted"),
   (2, "No such file or directory"),
   (3, "No such process"),
   (4, "Interrupted system call"),
   (5, "Input/output error"),
   (6, "No such device or address"),
   (7, "Argument list too long"),
   (8, "Exec format error"),
   (9, "Bad file descriptor"),
   (10, "No child processes"),
   (11, "Resource temporarily unavailable"),
   (12, "Cannot allocate memory"),
   (13, "Permission denied"),
   (14, "Bad address"),
   (15, "Block device required"),
   (16, "Device or resource busy"),
   (17, "File exists"),
   (18, "Invalid cross-device link"),
   (19, "No such device"),
   (20, "Not a directory"),
   (21, "Is a directory"),
   (22, "Invalid argument"),
   (23, "Too many open files in system"),
   (24, "Too many open files"),
   (25, "Inappropriate ioctl for device"),
   (26, "Text file busy"),
   (27, "File too large"),
   (28, "No space left on device"),
   (29, "Illegal seek"),
   (30, "Read-only file system"),
   (31, "Too many links"),
   (32, "Broken pipe"),
   (33, "Numerical argument out of domain"),
   (34, "Numerical result out of range"),
   (35, "Resource deadlock avoided"),
   (36, "File name too long"),
   (37, "No locks available"),
   (38, "Function not implemented"),
   (39, "Directory not empty"),
   (40, "Too many levels of symbolic links"),
   (42, "No message of desired type"),
   (43, "Identifier removed"),
   (44, "Channel number out of range"),
   (45, "Level 2 not synchronized"),
   (46, "Level 3 halted"),
   (47, "Level 3 reset"),
   (48, "Link number out of range"),
   (49, "Protocol driver not attached"),
   (50, "No CSI structure available"),
   (51, "Level 2 halted"),
   (52, "Invalid exchange"),
   (53, "Invalid request descriptor"),
   (54, "Exchange full"),
   (55, "No anode"),
   (56, "Invalid request code"),
   (57, "Invalid slot"),
   (59, "Bad font file format"),
   (60, "Device not a stream"),
   (61, "No data available"),
   (62, "Timer expired"),
   (63, "Out of streams resources"),
   (64, "Machine is not on the network"),
   (65, "Package not installed"),
   (66, "Object is remote"),
   (67, "Link has been severed"),
   (68, "Advertise error"),
   (69, "Srmount error"),
   (70, "Communication error on send"),
   (71, "Protocol error"),
   (72, "Multihop attempted"),
   (73, "RFS specific error"),
   (74, "Bad message"),
   (75, "Value too large for defined data type"),
   (76, "Name not unique on network"),
   (77, "File descriptor in bad state"),
   (78, "Remote address changed"),
   (79, "Can not access a needed shared library"),
   (80, "Accessing a corrupted shared library"),
   (81, ".lib section in a.out corrupted"),
   (82, "Attempting to link in too many shared libraries"),
   (83, "Cannot exec a shared library directly"),
   (84, "Invalid or incomplete multibyte or wide character"),
   (85, "Interrupted system call should be restarted"),
   (86, "Streams pipe error"),
   (87, "Too many users"),
   (88, "Socket operation on non-socket"),
   (89, "Destination address required"),
   (90, "Message too long"),
   (91, "Protocol wrong type for socket"),
   (92, "Protocol not available"),
   (93, "Protocol not supported"),
   (94, "Socket type not supported"),
   (95, "Operation not supported"),
   (96, "Protocol family not supported"),
   (97, "Address family not supported by protocol"),
   (98, "Address already in use"),
   (99, "Cannot assign requested address"),
   (100, "Network is down"),
   (101, "Network is unreachable"),
   (102, "Network dropped connection on reset"),
   (103, "Software caused connection abort"),
   (104, "Connection reset by peer"),
   (105, "No buffer space available"),
   (106, "Transport endpoint is already connected"),
   (107, "Transport endpoint is not connected"),
   (108, "Cannot send after transport endpoint shutdown"),
   (109, "Too many references: cannot splice"),
   (110, "Connection timed out"),
   (111, "Connection refused"),
   (112, "Host is down"),
   (113, "No route to host"),
   (114, "Operation already in progress"),
   (115, "Operation now in progress"),
   (116, "Stale file handle"),
   (117, "Structure needs cleaning"),
   (118, "Not a XENIX named type file"),
   (119, "No XENIX semaphores available"),
   (120, "Is a named type file"),
   (121, "Remote I/O error"),
   (122, "Disk quota exceeded"),
   (123, "No medium found"),
   (124, "Wrong medium type"),
   (125, "Operation canceled"),
   (126, "Required key not available"),
   (127, "Key has expired"),
   (128, "Key has been revoked"),
   (129, "Key was rejected by service"),
   (130, "Owner died"),
   (131, "State not recoverable"),
   (132, "Operation not possible due to RF-kill"),
   (133, "Memory page has hardware error")]

def description (e : Errno) : Text :=
  match descriptions.lookup e.code with
  | some s => s.toList
  | none => "Unknown error ".toList ++ Text.ofInt e.code

def message (e : Errno) : Text :=
  e.description ++ " (os error ".toList ++ Text.ofInt e.code ++ [')']

end Errno

inductive IoCause where
  | system (errno : Errno)
  | notUtf8
  | nulInPath
  | nulInArgument
  | other (text : Text)
  deriving DecidableEq, Repr

def IoCause.message : IoCause → Text
  | system e => e.message
  | notUtf8 => "stream did not contain valid UTF-8".toList
  | nulInPath => "file name contained an unexpected NUL byte".toList
  | nulInArgument => "nul byte found in provided data".toList
  | other t => t

inductive FaultKind where
  | configurationInvalid
  | fileUnreadable
  | formatterInvocationFailed
  | formatterTimeout
  deriving DecidableEq, Repr

namespace FaultKind

def isFatal (k : FaultKind) : Bool := k == configurationInvalid

def name : FaultKind → Text
  | configurationInvalid => "ConfigurationInvalid".toList
  | fileUnreadable => "FileUnreadable".toList
  | formatterInvocationFailed => "FormatterInvocationFailed".toList
  | formatterTimeout => "FormatterTimeout".toList

end FaultKind

inductive Fault where
  | missingExecutable (path : Path)
  | missingFixtureDir (path : Path)
  | configUnreadable (path : Path) (cause : IoCause)
  | configInvalid (path : Path) (reason : Text)
  | zeroTimeout
  | summaryWrite (path : Path) (cause : IoCause)
  | discovery (path : Path) (reasons : List Text)
  | fileUnreadable (path : Path) (cause : IoCause)
  | formatterLaunch (executable : Path) (cause : IoCause)
  | formatterExit (code : Option Int) (stderr : Text)
  | formatterOutput
  | formatterTimeout (bound : Duration)
  deriving DecidableEq, Repr

namespace Fault

def kind : Fault → FaultKind
  | missingExecutable _ => .configurationInvalid
  | missingFixtureDir _ => .configurationInvalid
  | configUnreadable _ _ => .configurationInvalid
  | configInvalid _ _ => .configurationInvalid
  | zeroTimeout => .configurationInvalid
  | summaryWrite _ _ => .configurationInvalid
  | discovery _ _ => .configurationInvalid
  | fileUnreadable _ _ => .fileUnreadable
  | formatterLaunch _ _ => .formatterInvocationFailed
  | formatterExit _ _ => .formatterInvocationFailed
  | formatterOutput => .formatterInvocationFailed
  | formatterTimeout _ => .formatterTimeout

def isFatal (f : Fault) : Bool := f.kind.isFatal

def message : Fault → Text
  | missingExecutable p => "formatter executable not found at ".toList ++ p.display
  | missingFixtureDir p => "fixture directory not found at ".toList ++ p.display
  | configUnreadable p _ => "could not read config file ".toList ++ p.display
  | configInvalid p _ => "invalid config file ".toList ++ p.display
  | zeroTimeout => "formatter timeout must be at least one second".toList
  | summaryWrite p _ => "could not write JSON summary to ".toList ++ p.display
  | discovery p _ => "failed to scan fixture directory ".toList ++ p.display
  | fileUnreadable p c =>
    "could not read file ".toList ++ p.display ++ ": ".toList ++ c.message
  | formatterLaunch p c =>
    "could not launch formatter ".toList ++ p.display ++ ": ".toList ++ c.message
  | formatterExit (some code) _ => "formatter exited with code ".toList ++ Text.ofInt code
  | formatterExit none _ => "formatter was terminated by a signal".toList
  | formatterOutput => "formatter output is not valid UTF-8".toList
  | formatterTimeout d => "formatter timed out after ".toList ++ d.render ++ ['s']

/-- The texts of the faults beneath this one, each the reason of the one before. -/
def causes : Fault → List Text
  | configUnreadable _ c => [c.message]
  | configInvalid _ reason => [reason]
  | summaryWrite _ c => [c.message]
  | discovery _ reasons => reasons
  | fileUnreadable _ c => [c.message]
  | formatterLaunch _ c => [c.message]
  | formatterOutput => ["invalid utf-8 sequence".toList]
  | _ => []

def code (f : Fault) : Text :=
  "fmtequiv::".toList ++ match f with
  | missingExecutable _ => "config::missing_executable".toList
  | missingFixtureDir _ => "config::missing_fixture_dir".toList
  | configUnreadable _ _ => "config::unreadable".toList
  | configInvalid _ _ => "config::invalid".toList
  | zeroTimeout => "config::zero_timeout".toList
  | summaryWrite _ _ => "config::summary_write".toList
  | discovery _ _ => "config::discovery".toList
  | fileUnreadable _ _ => "file::unreadable".toList
  | formatterLaunch _ _ => "formatter::launch".toList
  | formatterExit _ _ => "formatter::exit_status".toList
  | formatterOutput => "formatter::output".toList
  | formatterTimeout _ => "formatter::timeout".toList

def help : Fault → Option Text
  | missingExecutable _ =>
    some "build the formatter first, or pass its location with --formatter".toList
  | missingFixtureDir _ => some "pass an existing directory with --fixtures".toList
  | configInvalid _ _ =>
    some ("recognized keys: executable_to_test, fixture_dir, fixture_extension, ".toList
      ++ "timeout_secs, show_canonical".toList)
  | zeroTimeout => some "set timeout_secs to 1 or more".toList
  | formatterTimeout _ =>
    some "raise the bound with --timeout-secs if the formatter is just slow".toList
  | _ => none

/-- What the formatter wrote to its error stream, unless it is blank. -/
def capturedStderr : Fault → Option Text
  | formatterExit _ stderr => if stderr.all isBlank then none else some stderr
  | _ => none

end Fault

end LayoutCheck
