/-! # Paths — the file name at the end of a path, and its extension

    The extension of a path is what follows the last dot of its file name,
    unless nothing stands before that dot. -/

namespace GuardedCnf.Path

/-- The parts of a text between separators. -/
def split (separator : Char) : List Char → List (List Char)
  | [] => [[]]
  | c :: cs =>
      if c = separator then [] :: split separator cs
      else match split separator cs with
        | [] => [[c]]
        | w :: ws => (c :: w) :: ws

/-- The parts of a path that name something: neither empty nor a single dot. -/
def names (path : String) : List (List Char) :=
  (split '/' path.toList).filter fun part => part != [] && part != ['.']

/-- The file name of a path, unless the path ends by going up. -/
def fileName? (path : String) : Option (List Char) :=
  match (names path).getLast? with
  | some ['.', '.'] => none
  | name => name

/-- The extension of a path; empty if it has none. -/
def extension (path : String) : String :=
  match fileName? path with
  | none => ""
  | some name =>
      let after := name.reverse.takeWhile (· != '.')
      if name.length ≤ after.length + 1 then "" else String.ofList after.reverse

end GuardedCnf.Path
