import OnnxForge.Bytes
import OnnxForge.Path

/-!
# Working directories

The files below a directory, which paths lead to step by step. Paths with other steps lead
to one file if they come to one place.
-/

namespace OnnxForge

/-- The files below a working directory: their places, as steps of which the last comes
first, and their octets. -/
structure WorkingDirectory where
  files : List (List (List Char) × Bytes)
  /-- The place of a further directory. -/
  target : Option (List (List Char))

namespace WorkingDirectory

/-- The working directory with the given files and a directory `target`. Of the files that
are written to one place the last counts. -/
def ofFiles (files : List (String × Bytes)) (target : String) : WorkingDirectory where
  files := files.reverse.filterMap fun (path, octets) =>
    (Path.filePlace? (fun _ => false) path).map fun place => (place, octets)
  target := Path.place? (fun _ => true) target

/-- Whether there is a directory at a place: one with a file below it, or the target or one
that leads there. -/
def isDirectory (working : WorkingDirectory) (place : List (List Char)) : Bool :=
  (working.files.map (·.1.tail) ++ working.target.toList).any (place.isSuffixOf ·)

/-- The octets of the file that a path leads to. -/
def read? (working : WorkingDirectory) (path : String) : Option Bytes :=
  (Path.filePlace? working.isDirectory path).bind fun place => List.lookup place working.files

end WorkingDirectory

end OnnxForge
