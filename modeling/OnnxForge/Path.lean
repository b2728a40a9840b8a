/-!
# Paths

Paths of files, taken apart at slashes. Slashes at the end and steps of a single dot count
for nothing, except for one dot at the beginning. The last dot of a file name, unless it is
the first character, begins the extension. Two paths name one file if their steps lead to
one place.
-/

namespace OnnxForge.Path

/-- The parts of characters between slashes. -/
def parts : List Char → List (List Char)
  | [] => [[]]
  | c :: rest =>
    if c = '/' then [] :: parts rest
    else
      match parts rest with
      | [] => [[c]]
      | first :: more => (c :: first) :: more

/-- Whether a part of a path takes no step. -/
def isIdle (part : List Char) : Bool :=
  part == [] || part == ['.']

/-- The directory and the name of the file that a path ends in, if it ends in one. The
directory keeps its slash. -/
def split? (path : String) : Option (String × String) :=
  match (parts path.toList).reverse.dropWhile isIdle with
  | [] => none
  | ['.', '.'] :: _ => none
  | name :: before =>
    some (String.ofList (before.reverse.flatMap (· ++ ['/'])), String.ofList name)

/-- A file name without its extension. -/
def stemOf (name : String) : String :=
  match name.toList.reverse.dropWhile (· != '.') with
  | [] | [_] => name
  | _ :: stem => String.ofList stem.reverse

/-- The stem of the file name that a path ends in. -/
def stem? (path : String) : Option String :=
  (split? path).map fun (_, name) => stemOf name

/-- A path with another extension, as long as it ends in a file name. -/
def withExtension? (path extension : String) : Option String :=
  (split? path).map fun (directory, name) => directory ++ stemOf name ++ "." ++ extension

/-- A path below another one, unless it is absolute. -/
def join (base path : String) : String :=
  if path.startsWith "/" then path
  else if base.endsWith "/" || base == "" then base ++ path
  else base ++ "/" ++ path

/-- The name of a file directly in a directory, by its path. -/
def nameIn? (directory path : String) : Option String :=
  (split? path).bind fun (before, name) =>
    if before = join directory "" then some name else none

/-- Takes the steps of a path after those already `taken`, the last of which comes first. A
step up takes back a step into a directory. -/
def follow? (isDirectory : List (List Char) → Bool) (taken : List (List Char)) :
    List (List Char) → Option (List (List Char))
  | [] => some taken
  | ['.', '.'] :: rest =>
    match taken with
    | [] => none
    | _ :: before => if isDirectory taken then follow? isDirectory before rest else none
  | part :: rest => follow? isDirectory (part :: taken) rest

/-- The place below the working directory that a path leads to: its steps, the last of which
comes first. A path that begins with a slash leads elsewhere. -/
def place? (isDirectory : List (List Char) → Bool) (path : String) :
    Option (List (List Char)) :=
  if path.startsWith "/" then none
  else follow? isDirectory [] ((parts path.toList).filter (!isIdle ·))

/-- The place of the file that a path leads to. A path with an idle step or a step up at the
end leads to no file. -/
def filePlace? (isDirectory : List (List Char) → Bool) (path : String) :
    Option (List (List Char)) :=
  match (parts path.toList).getLast? with
  | some part =>
    if isIdle part || part == ['.', '.'] then none else place? isDirectory path
  | none => none

end OnnxForge.Path
