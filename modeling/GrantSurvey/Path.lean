import GrantSurvey.Text.Split

/-!
# Paths

A path is a text whose parts are divided by slashes. Empty parts and single dots say nothing about
where a path leads, except that what stands before them has to be a directory.
-/

namespace GrantSurvey.Path

def parts (path : String) : List String :=
  (Text.split '/' path.toList).map String.ofList

/-- Does a part say nothing about where a path leads? -/
def isIdle (part : String) : Bool :=
  part.isEmpty || part == "."

def isAbsolute (path : String) : Bool :=
  path.startsWith "/"

/-- The path that an entry names from a base. An absolute entry stands for itself. -/
def join (base entry : String) : String :=
  if isAbsolute entry then entry
  else if base.isEmpty || base.endsWith "/" then base ++ entry
  else base ++ "/" ++ entry

/-- The name of the file that a path leads to, if its last part that matters is a name. -/
def fileName? (path : String) : Option String :=
  match ((parts path).filter fun part => !isIdle part).getLast? with
  | some name => if name == ".." then none else some name
  | none => none

/-- What follows the last dot of the file name. A name whose only dot is its first character has no
extension. -/
def extension? (path : String) : Option String := do
  let name ← fileName? path
  let reversed := name.toList.reverse
  if (reversed.dropWhile (· != '.')).length ≤ 1 then none
  else some (String.ofList (reversed.takeWhile (· != '.')).reverse)

/-- The single name that a relative path consists of, when idle parts may follow it. -/
def isName (name path : String) : Bool :=
  match parts path with
  | first :: others => first == name && others.all isIdle
  | [] => false

/-- The absolute path of a place, which is given by the names that lead to it. -/
def ofPlace (place : List String) : String :=
  "/" ++ "/".intercalate place

end GrantSurvey.Path
