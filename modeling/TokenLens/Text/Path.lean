import TokenLens.Split
import TokenLens.Text.Basic

/-!
# Paths of files

A path is names with slashes between them. Empty names and single dots stay where they are, so many
paths lead to one file: `t.json`, `./t.json` and `.//t.json`. The whole name of a file, `absolute`,
is the same for all of them, and two dots in a path lead back by one name.
-/

namespace TokenLens.Path

/-- The names in a path, empty ones and dots included. -/
def split (path : Text) : List Text :=
  Split.atAll (· = .char '/') path

/-- Whether a name leads on. -/
def leadsOn (name : Text) : Bool :=
  !(name.isEmpty || name = ".")

/-- The name of a file without the directories in front of it. -/
def baseName (path : Text) : Text :=
  ((split path).filter leadsOn).getLast?.getD []

/-- The shortest path to the file that a path leads to, seen from the directory where it starts. A
path that starts at the root, and one that ends in a directory, lead to no such file. -/
def relative? (path : Text) : Option Text :=
  let names := split path
  if path.head? = some (.char '/') || !(names.getLast?.any leadsOn) then none
  else some (List.intercalate "/" (names.filter leadsOn))

/-- Whether a path ends in a directory, whatever files there are. -/
def endsInDirectory (path : Text) : Bool :=
  (split path).getLast?.any fun name : Text => !leadsOn name || name = ".."

/-- A path put behind the directory where it starts, unless it starts at the root. -/
def join (directory path : Text) : Text :=
  if path.head? = some (.char '/') then path
  else if directory.getLast? = some (.char '/') then directory ++ path
  else directory ++ "/" ++ path

/-- The names that a path from the root leads through, the last one first. Two dots lead back. -/
def walk (names : List Text) : List Text :=
  names.foldl
    (fun walked (name : Text) =>
      if name = ".." then walked.drop 1 else if leadsOn name then name :: walked else walked)
    []

/-- The root that a path starts at. Two slashes are a root of their own, three and more are one. -/
def root (path : Text) : Text :=
  if List.isPrefixOf ("//" : Text) path && !List.isPrefixOf ("///" : Text) path then "//" else "/"

/-- The whole name of the file that a path leads to, seen from a directory with a whole name. -/
def absolute (directory path : Text) : Text :=
  root (join directory path) ++ List.intercalate "/" (walk (split (join directory path))).reverse

end TokenLens.Path
