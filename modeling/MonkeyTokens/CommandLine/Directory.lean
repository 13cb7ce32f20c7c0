import MonkeyTokens.Stream.Basic

/-!
A working directory and the system around it.

A `Directory` lists files and directories by their paths, and is the directory in which
the program runs. A path is followed from there, or from the root of the system if it
begins with a slash, and through directories only: a part that is missing, and a part
that is a file but not the last one, are faults of their own. A directory can be opened
like a file, but fails when it is read.

Of the system, only what every system has is known: the directories under its root, the
empty device and the standard input. The working directory lies among the temporary
files under a name that is not known, so no path from the root leads back to it.
-/

namespace MonkeyTokens.CommandLine

/-- What a path leads to. -/
inductive Entry where
  | file (bytes : List UInt8)
  | directory
  /-- The standard input under the name of a file. -/
  | standardInput
deriving DecidableEq, Repr

/-- The parts of a path. A doubled slash and a part that is a single dot lead nowhere
else. -/
def pathParts (path : String) : List String :=
  (path.splitOn "/").filter fun part => part != "" && part != "."

/-! ### The system -/

namespace System

/-- The longest part that a path may have, in bytes. -/
def longestPart : Nat := 255

/-- The longest path, in bytes. -/
def longestPath : Nat := 4095

/-- The directories that every system has. -/
def directories : List String :=
  ["/", "/bin", "/boot", "/dev", "/etc", "/home", "/lib", "/media", "/mnt", "/opt", "/proc",
   "/root", "/run", "/sbin", "/srv", "/sys", "/tmp", "/usr", "/var", "/dev/fd", "/dev/shm",
   "/etc/opt", "/proc/self", "/proc/self/fd", "/usr/bin", "/usr/include", "/usr/lib",
   "/usr/local", "/usr/local/bin", "/usr/local/lib", "/usr/sbin", "/usr/share", "/usr/src",
   "/var/cache", "/var/lib", "/var/log", "/var/tmp"]

/-- The names of the standard input. -/
def standardInput : List String := ["/dev/stdin", "/dev/fd/0", "/proc/self/fd/0"]

/-- What a list of parts leads to from the root. -/
def entry? (path : List String) : Option Entry :=
  if directories.any (pathParts · == path) then some .directory
  else if standardInput.any (pathParts · == path) then some .standardInput
  else if path = ["dev", "null"] then some (.file [])
  else none

end System

/-! ### The working directory -/

/-- Entries by path, with slashes between the parts of a path. -/
abbrev Directory := List (String × Entry)

/-- What a list of parts leads to. The directory itself and everything that lies on
the way to an entry is a directory. -/
def Directory.entry? (d : Directory) (path : List String) : Option Entry :=
  match d.find? fun (name, _) => pathParts name == path with
  | some (_, entry) => some entry
  | none =>
    if path.isEmpty || d.any fun (name, _) => path.isPrefixOf (pathParts name) then
      some .directory
    else none

/-- Where a path has come to. -/
inductive Place where
  /-- At the parts of a path from the working directory. -/
  | inside (path : List String)
  /-- At the parts of a path from the root of the system. -/
  | system (path : List String)
deriving DecidableEq, Repr

namespace Place

/-- The directory around a directory. The root lies in itself. -/
def parent : Place → Place
  | .inside [] => .system ["tmp"]
  | .inside path => .inside path.dropLast
  | .system path => .system path.dropLast

/-- The place with the given name in a directory. -/
def child (part : String) : Place → Place
  | .inside path => .inside (path ++ [part])
  | .system path => .system (path ++ [part])

/-- What lies at a place. -/
def entry? (d : Directory) : Place → Option Entry
  | .inside path => d.entry? path
  | .system path => System.entry? path

end Place

namespace Directory

/-- Follows the parts of a path from a place. -/
def follow (d : Directory) (place : Place) : List String → Except Fault Entry
  | [] =>
    match place.entry? d with
    | some entry => .ok entry
    | none => .error (.ofKind .notFound)
  | part :: rest =>
    match place.entry? d with
    | none => .error (.ofKind .notFound)
    | some .directory =>
      if System.longestPart < part.utf8ByteSize then .error (.ofKind .nameTooLong)
      else if part = ".." then d.follow place.parent rest
      else d.follow (place.child part) rest
    | some _ => .error (.ofKind .notDirectory)

/-- Where a path begins. -/
def start (path : String) : Place :=
  if path.startsWith "/" then .system [] else .inside []

/-- Whether a path insists on a directory. -/
def endsInDirectory (path : String) : Bool := path.endsWith "/" || path.endsWith "/."

/-- Opens what a path leads to, where the given stream is the standard input. -/
def openFile (d : Directory) (input : ByteStream) (path : String) : Except Fault ByteStream :=
  if System.longestPath < path.utf8ByteSize then .error (.ofKind .nameTooLong)
  else
    match d.follow (start path) (pathParts path) with
    | .error f => .error f
    | .ok .directory => .ok [.fault (.ofKind .isDirectory) 1]
    | .ok (.file bytes) =>
      if endsInDirectory path then .error (.ofKind .notDirectory) else .ok [.bytes bytes]
    | .ok .standardInput =>
      if endsInDirectory path then .error (.ofKind .notDirectory) else .ok input

end Directory

end MonkeyTokens.CommandLine
