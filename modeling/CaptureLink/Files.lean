import CaptureLink.Text.Utf8

/-
  Files and directories by their names, and why a file cannot
  be read or written.  A name is followed part by part, and
  every part in front of the last has to be a directory that
  is there.

  Key definitions include:
    * `FileProblem`
    * `FileProblem.message`
    * `FileProblem.ofName?`
    * `Files`
    * `Files.enter`
    * `Files.place`
    * `Files.read`
    * `Files.write`
-/

namespace CaptureLink

------------------------------------------------------------
-- Problems
------------------------------------------------------------

/- Why a file cannot be used. -/
inductive FileProblem where
| missing
| directory
/- A part of the name in front is a file. -/
| notDirectory
/- The name or a part of it has too many bytes. -/
| tooLong
/- The name has a character that no name can have. -/
| zeroInName
| notText
/- Something else that the system says. -/
| other (message : String)
deriving DecidableEq, Repr

namespace FileProblem

/- A problem in the words of the system. -/
def message : FileProblem → String
| .missing => "No such file or directory (os error 2)"
| .directory => "Is a directory (os error 21)"
| .notDirectory => "Not a directory (os error 20)"
| .tooLong => "File name too long (os error 36)"
| .zeroInName => "file name contained an unexpected NUL byte"
| .notText => "stream did not contain valid UTF-8"
| .other message => message

/- The text in a file. -/
def textOf
    (content : List UInt8) : Except FileProblem String :=
  match Text.ofBytes? content with
  | some text => .ok text
  | none => .error .notText

/- The most bytes that a name may have. -/
def longestName : Nat := 4095

/- The most bytes that a part of a name may have. -/
def longestPart : Nat := 255

/- What is wrong with a name, wherever it may lead. -/
def ofName? (name : String) : Option FileProblem :=
  if name.toList.contains '\x00' then some .zeroInName
  else if name = "" then some .missing
  else if longestName < name.utf8ByteSize then some .tooLong
  else none

end FileProblem

------------------------------------------------------------
-- Files in memory
------------------------------------------------------------

/-
  The files of a system, by the parts of their full names,
  and the directory in which names start that are not full.
  Further directories may be empty.
-/
structure Files where
  current : List String
  contents : List (List String × List UInt8)
  directories : List (List String)

namespace Files

/- There is a directory with this full name. -/
def isDirectory (fs : Files) (full : List String) : Bool :=
  full.isPrefixOf fs.current ||
    fs.directories.any full.isPrefixOf ||
    fs.contents.any fun f => full.isPrefixOf f.1.dropLast

/- The content of a file with this full name. -/
def content? (fs : Files) (full : List String) : Option (List UInt8) :=
  (fs.contents.find? (·.1 = full)).map (·.2)

/- A part of a name that leads to a directory by itself. -/
def isStep (part : String) : Bool :=
  part = "." || part = ".."

/- The directory that a part of a name leads to from a directory. -/
def enter
    (fs : Files)
    (base : List String)
    (part : String) : Except FileProblem (List String) :=
  let full := base ++ [part]
  if part = "." then .ok base
  else if part = ".." then .ok base.dropLast
  else if FileProblem.longestPart < part.utf8ByteSize then
    .error .tooLong
  else if fs.isDirectory full then .ok full
  else if (fs.content? full).isSome then .error .notDirectory
  else .error .missing

/- Where a name leads. -/
inductive Place where
/- To a directory, by the way it is written. -/
| directory
/- To a part in a directory, whatever that part is. -/
| inside (full : List String)
deriving DecidableEq, Repr

/- Follow a name up to its last part. -/
def place
    (fs : Files)
    (name : String) : Except FileProblem Place :=
  match FileProblem.ofName? name with
  | some problem => .error problem
  | none => do
      let parts := (name.splitOn "/").filter (· ≠ "")
      let start := if name.startsWith "/" then [] else fs.current
      let front ← parts.dropLast.foldlM fs.enter start
      match parts.getLast? with
      | none => .ok .directory
      | some last =>
          if isStep last then .ok .directory
          else .ok (.inside (front ++ [last]))

/- A last part of a full name that is too long. -/
def lastTooLong (full : List String) : Bool :=
  match full.getLast? with
  | some last => FileProblem.longestPart < last.utf8ByteSize
  | none => false

/- Read a file.  The name of a file does not end in a slash. -/
def read
    (fs : Files)
    (name : String) : Except FileProblem (List UInt8) := do
  match ← fs.place name with
  | .directory => .error .directory
  | .inside full =>
      if lastTooLong full then .error .tooLong
      else if fs.isDirectory full then .error .directory
      else
        match fs.content? full with
        | none => .error .missing
        | some content =>
            if name.endsWith "/" then .error .notDirectory
            else .ok content

/- There is a file or a directory of this name. -/
def exists? (fs : Files) (name : String) : Bool :=
  match fs.read name with
  | .ok _ => true
  | .error problem => problem = .directory

/-
  Write a file, in the place of another one if need be.  A
  name that ends in a slash can only be that of a directory.
-/
def write
    (fs : Files)
    (name : String)
    (content : List UInt8) : Except FileProblem Files := do
  match ← fs.place name with
  | .directory => .error .directory
  | .inside full =>
      if name.endsWith "/" then .error .directory
      else if lastTooLong full then .error .tooLong
      else if fs.isDirectory full then .error .directory
      else
        .ok { fs with
          contents :=
            (full, content) :: fs.contents.filter (·.1 ≠ full) }

end Files

end CaptureLink
