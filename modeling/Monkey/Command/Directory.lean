/-!
Files and directories by path. A path is walked component by component from the directory that it
starts in, and the first component that cannot be followed decides the error; what the path leads to
is read as text. The length of a path is limited before the walk, that of a name when the walk comes
to it.
-/
namespace Monkey

inductive ReadError
  | notFound
  | isDirectory
  | notDirectory
  | nameTooLong
  | notText
  | other (details : String)
  deriving DecidableEq, Repr

def ReadError.message : ReadError → String
  | .notFound => "No such file or directory (os error 2)"
  | .isDirectory => "Is a directory (os error 21)"
  | .notDirectory => "Not a directory (os error 20)"
  | .nameTooLong => "File name too long (os error 36)"
  | .notText => "stream did not contain valid UTF-8"
  | .other details => details

def decodeText (bytes : ByteArray) : Except ReadError String :=
  match String.fromUTF8? bytes with
  | some text => .ok text
  | none => .error .notText

inductive Entry
  | file (bytes : ByteArray)
  | directory (entries : List (String × Entry))

def nameLimit : Nat := 255

def pathLimit : Nat := 4095

namespace Entry

/-- Follows the components of a path from `here`. `above` holds the directories around it, the
nearest first; the outermost is its own parent. -/
def walk (above : List Entry) (here : Entry) : List String → Except ReadError Entry
  | [] => .ok here
  | name :: path =>
    match here with
    | file _ => .error .notDirectory
    | directory entries =>
      if name = "" ∨ name = "." then walk above here path
      else if name = ".." then
        match above with
        | [] => walk [] here path
        | parent :: higher => walk higher parent path
      else if nameLimit < name.utf8ByteSize then .error .nameTooLong
      else
        match entries.lookup name with
        | none => .error .notFound
        | some entry => walk (here :: above) entry path

def find (working : Entry) (path : String) : Except ReadError Entry :=
  let root := directory []
  let components := path.splitOn "/"
  if pathLimit < path.utf8ByteSize then .error .nameTooLong
  else if path.startsWith "/" then walk [] root components
  else walk [root] working components

def read (working : Entry) (path : String) : Except ReadError String := do
  match ← working.find path with
  | file bytes => decodeText bytes
  | directory _ => throw .isDirectory

end Entry

end Monkey
