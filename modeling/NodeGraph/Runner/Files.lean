import NodeGraph.Runner.Settings

/-!
# Paths and files

Slash-separated paths as the runner uses them: the parent of a path (none for an empty path or the
root; otherwise the text before its last piece, as written), joining a relative path to a
directory, and the graph file named by the settings, which is resolved against the directory of
the settings file unless it is absolute.

A `FileSet` is a directory of text files given by relative path, for running without a file
system. Reading from it follows the usual rules: `.` and empty pieces are skipped, `..` goes up
from an existing directory, a file cannot be gone through as a directory, and reading a directory
fails.
-/

namespace NodeGraph

/-- Why a file could not be read. -/
inductive FileError where
  | notFound
  | isDirectory
  | notDirectory
  | other (text : String)
deriving Inhabited

namespace FileError

/-- The message of a file error. -/
def message : FileError → String
  | .notFound => "No such file or directory (os error 2)"
  | .isDirectory => "Is a directory (os error 21)"
  | .notDirectory => "Not a directory (os error 20)"
  | .other t => t

end FileError

namespace Path

/-- A piece of a path. -/
inductive Piece where
  | current
  | up
  | name (s : String)
deriving DecidableEq, Inhabited

/-- Whether a path starts at the root. -/
def isAbsolute (p : String) : Bool := p.startsWith "/"

/-- The pieces of a path after its root: empty pieces dropped, `.` kept only in front. -/
def pieces (p : String) : List Piece :=
  let raw := Text.splitString '/' p
  let rec go : Bool → List String → List Piece
    | _, [] => []
    | first, s :: rest =>
      if s = "" then go first rest
      else if s = "." then (if first && !isAbsolute p then [Piece.current] else []) ++ go false rest
      else if s = ".." then .up :: go false rest
      else .name s :: go false rest
  go true raw

/-- Whether a piece of a path's text names something: it is neither empty nor `.`. -/
def isNamed (s : String) : Bool := s ≠ "" && s ≠ "."

/-- The parent of a path, as the text in front of its last named piece with the separators and
`.` pieces before that piece dropped; the text keeps its other separators and pieces as written.
A path's leading root or `.` stays. A path with no named piece has no parent when it is empty or
the root, and the empty parent when it is `.`. -/
def parent? (p : String) : Option String :=
  let cs := p.toList
  let head : List Char :=
    match cs with
    | '/' :: _ => ['/']
    | ['.'] => ['.']
    | '.' :: '/' :: _ => ['.']
    | _ => []
  let segments := Text.splitString '/' (String.ofList (cs.drop head.length))
  match (segments.reverse.dropWhile (!isNamed ·)) with
  | [] => if head = ['.'] then some "" else none
  | _ :: before =>
    let kept := (before.dropWhile (!isNamed ·)).reverse
    some (String.ofList head ++ "/".intercalate kept)

/-- A path joined below a directory; an absolute path stays as it is. -/
def join (dir file : String) : String :=
  if isAbsolute file then file
  else if dir.isEmpty then file
  else if dir.endsWith "/" then dir ++ file
  else dir ++ "/" ++ file

end Path

namespace Settings

/-- The graph file of the settings read from `settingsPath`: relative graph paths are resolved
against the settings file's directory. -/
def graphPath (s : Settings) (settingsPath : String) : String :=
  match Path.parent? settingsPath with
  | some dir => if Path.isAbsolute s.graph then s.graph else Path.join dir s.graph
  | none => s.graph

end Settings

/-- Text files by relative path. -/
structure FileSet where
  files : List (String × String)
deriving Inhabited

namespace FileSet

/-- The files under their normalised paths. -/
def entries (fs : FileSet) : List (List String × String) :=
  fs.files.map fun (p, text) =>
    ((Path.pieces p).filterMap fun | .name s => some s | _ => none, text)

/-- The text of the file at a list of names. -/
def fileAt? (fs : FileSet) (names : List String) : Option String :=
  (fs.entries.find? (·.1 == names)).map (·.2)

/-- Whether a list of names is a directory: the top, or a proper prefix of a file's names. -/
def isDir (fs : FileSet) (names : List String) : Bool :=
  names.isEmpty || fs.entries.any fun (n, _) => names.length < n.length && names.isPrefixOf n

/-- Walks the pieces of a path from the top, giving the names reached. -/
def walk (fs : FileSet) : List String → List Path.Piece → Except FileError (List String)
  | here, [] => .ok here
  | here, .current :: rest => walk fs here rest
  | here, .up :: rest =>
    if (fs.fileAt? here).isSome then .error .notDirectory
    else if !fs.isDir here then .error .notFound
    else match here.reverse with
      | [] => .error .notFound
      | _ :: up => walk fs up.reverse rest
  | here, .name s :: rest =>
    if (fs.fileAt? here).isSome then .error .notDirectory
    else walk fs (here ++ [s]) rest

/-- Reads the file at a path. -/
def read (fs : FileSet) (p : String) : Except FileError String := do
  if p.isEmpty || Path.isAbsolute p then throw .notFound
  let names ← fs.walk [] (Path.pieces p)
  match fs.fileAt? names with
  | some text => if p.endsWith "/" then throw .notDirectory else return text
  | none => if fs.isDir names then throw .isDirectory else throw .notFound

end FileSet

end NodeGraph
