/-!
# Paths

The parts of a path are separated by slashes.  A path that begins with a slash
starts at the root; any other starts at a working directory.  Empty parts and
single dots lead nowhere, except for a dot at the very beginning, which stands
for the working directory.
-/

namespace CommandShell
namespace Path

def splitParts : List Char → List (List Char)
  | [] => [[]]
  | '/' :: rest => [] :: splitParts rest
  | c :: rest =>
      match splitParts rest with
      | [] => [[c]]
      | part :: parts => (c :: part) :: parts

/-- Drop parts that lead nowhere from the end of a reversed list of parts. -/
def dropIdle : List (List Char) → List (List Char)
  | [] => []
  | [part] => [part]
  | part :: parts =>
      if part.isEmpty || part == ['.'] then dropIdle parts
      else part :: parts

/-- The path without its last part; the root and the empty path have none. -/
def parent? (path : String) : Option String :=
  match dropIdle (splitParts path.toList).reverse with
  | [] | [[]] => none
  | [_] => some ""
  | _ :: parts =>
      match dropIdle parts with
      | [[]] => some "/"
      | parts =>
          some (String.ofList (List.intercalate ['/'] parts.reverse))

/-- A path that starts where another one ends. -/
def join (base path : String) : String :=
  if path.startsWith "/" then path
  else if base.isEmpty || base.endsWith "/" then base ++ path
  else base ++ "/" ++ path

def isAbsolute (path : String) : Bool := path.startsWith "/"

/-- The names that lead from the root to the end of a path. -/
def resolve (workingDirectory : List String) (path : String) : List String :=
  let start := if isAbsolute path then [] else workingDirectory
  (splitParts path.toList).foldl
    (fun names part =>
      if part.isEmpty || part == ['.'] then names
      else if part == ['.', '.'] then names.dropLast
      else names ++ [String.ofList part])
    start

/-- The beginnings of a list of names, from the empty one to all of it. -/
def beginnings : List String → List (List String)
  | [] => [[]]
  | name :: names => [] :: (beginnings names).map (name :: ·)

end Path
end CommandShell
