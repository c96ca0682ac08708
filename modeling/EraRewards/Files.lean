import EraRewards.Failure
import EraRewards.Text.Encoding
import EraRewards.Text.Split

/-!
# Files

Files are found by paths from a working directory or, behind a leading slash, from the root.  A single
point in a path stays where it is, two points lead to the directory above, and slashes that are
repeated or stand at the end do not count.
-/

namespace EraRewards

/-- Files with their texts, by their paths. -/
structure Files where
  /-- Paths and texts. -/
  texts : List (String × String)
  /-- Paths of directories besides those in which the files are. -/
  directories : List String

namespace Files

/-- No files. -/
def none : Files := ⟨[], []⟩

/-- The one part that begins the parts of a path from the root. -/
def root : String := "/"

/-- Parts of a path, without those that stay where they are. -/
def parts (path : String) : List String :=
  let names := ((Text.splitAt '/' path.toList).map String.ofList).filter fun name =>
    name != "" && name != "."
  if path.toList.head? == some '/' then root :: names else names

/-- The last part of a path. -/
def lastName (path : String) : String := ((parts path).getLast?).getD ""

/-- The most bytes in a name. -/
def maxNameBytes : Nat := 255

/-- The most bytes in a path. -/
def maxPathBytes : Nat := 4095

/-- Number of bytes of a text. -/
def byteCount (s : String) : Nat := (Text.utf8 s.toList).length

/-- Text of the file that some parts lead to. -/
def textAt? (files : Files) (place : List String) : Option String :=
  (files.texts.find? fun entry => parts entry.1 == place).map (·.2)

/-- Whether some parts lead to a directory. -/
def isDirectory (files : Files) (place : List String) : Bool :=
  place == [root] ||
    (files.texts.map (·.1) ++ files.directories.map (· ++ "/.")).any fun path =>
      place.isPrefixOf (parts path) && files.textAt? place == Option.none

/-- Text of the file at the end of a way.  `place` has been reached, `above` levels above the working
directory, of which nothing is known but the way back. -/
def follow (files : Files) : Nat → List String → List String → Except Failure String
  | _, _, [] => .error .isDirectory
  | above, place, name :: rest =>
    if maxNameBytes < byteCount name then .error .nameTooLong
    else if name == ".." then
      match place with
      | [] => files.follow (above + 1) [] rest
      | [only] => files.follow above (if only == root then [root] else []) rest
      | _ => files.follow above place.dropLast rest
    else if 0 < above then .error .fileNotFound
    else
      let here := place ++ [name]
      match files.textAt? here, rest with
      | some text, [] => .ok text
      | some _, _ => .error .notDirectory
      | Option.none, _ =>
        if files.isDirectory here then files.follow above here rest else .error .fileNotFound

/-- Text of the file at a path. -/
def read (files : Files) (path : String) : Except Failure String :=
  if path.toList.contains '\x00' then .error .unreadable
  else if maxPathBytes < byteCount path then .error .nameTooLong
  else files.follow 0 [] (parts path)

/-- Where the homes of those lie that a path may name behind a tilde. -/
def homes : List (String × String) :=
  [("~", "/root"), ("~root", "/root"), ("~daemon", "/usr/sbin"), ("~bin", "/bin"), ("~sys", "/dev"),
    ("~nobody", "/nonexistent")]

/-- A path with its first part replaced by a home, if it begins with a tilde. -/
def expandHome (path : String) : Except Failure String :=
  match parts path with
  | first :: rest =>
    if first.toList.head? == some '~' then
      match homes.lookup first with
      | some home => .ok ("/".intercalate (home :: rest))
      | Option.none => .error .noHome
    else .ok path
  | [] => .ok path

/-- Text of the file at a path, if there is one. -/
def read? (files : Files) (path : String) : Option String := (files.read path).toOption

end Files
end EraRewards
