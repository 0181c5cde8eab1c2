/-!
Path names as texts: what a path leads through, and where it ends.
-/

namespace CloudProvider.PathName

/-- What stands between the slashes, where empty components and `.` stand for no step. -/
def components (path : String) : List String := path.splitToList (· = '/')

/-- Whether a component is a step. -/
def isStep (component : String) : Bool := component ≠ "" && component ≠ "."

/-- The last component of a path, unless that is a step up. -/
def baseName? (path : String) : Option String :=
  match ((components path).filter isStep).getLast? with
  | some ".." | none => none
  | some name => some name

/-- A path within a directory. -/
def join (directory name : String) : String :=
  if name.toList.head? = some '/' then name
  else if directory.toList.getLast? = some '/' then directory ++ name
  else directory ++ "/" ++ name

end CloudProvider.PathName
