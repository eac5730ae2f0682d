import ModemDialog.Text.Utf8

/-! A tree of files, the paths into it, and why a path leads nowhere. -/
namespace ModemDialog

inductive Node where
  | file (data : Bytes)
  | directory
  /-- A terminal. -/
  | terminal
  /-- Some other device, which holds nothing. -/
  | device
  deriving DecidableEq, Repr

inductive FileFault where
  | noSuchFile
  | notADirectory
  | isADirectory
  | nameTooLong
  | nulInName
  | notUtf8
  deriving DecidableEq, Repr

def FileFault.message : FileFault → Text
  | .noSuchFile => "No such file or directory (os error 2)".toList
  | .notADirectory => "Not a directory (os error 20)".toList
  | .isADirectory => "Is a directory (os error 21)".toList
  | .nameTooLong => "File name too long (os error 36)".toList
  | .nulInName => "file name contained an unexpected NUL byte".toList
  | .notUtf8 => "stream did not contain valid UTF-8".toList

/-- Nodes by their names from the root, and the directory that paths start at. -/
structure FileTree where
  here : List Text
  nodes : List (List Text × Node)
  deriving DecidableEq, Repr

namespace FileTree

def bare : FileTree where
  here := ["tmp".toList, "work".toList]
  nodes := [
    ([], .directory),
    (["tmp".toList], .directory),
    (["tmp".toList, "work".toList], .directory),
    (["dev".toList], .directory),
    (["dev".toList, "null".toList], .device),
    (["dev".toList, "zero".toList], .device),
    (["etc".toList], .directory),
    (["etc".toList, "passwd".toList], .file []),
    (["etc".toList, "hosts".toList], .file []),
    (["bin".toList], .directory),
    (["usr".toList], .directory),
    (["usr".toList, "bin".toList], .directory)]

def node? (tree : FileTree) (names : List Text) : Option Node :=
  (tree.nodes.find? (·.1 = names)).map (·.2)

def set (tree : FileTree) (names : List Text) (n : Node) : FileTree :=
  { tree with nodes := (names, n) :: tree.nodes.filter (·.1 ≠ names) }

def split : Text → List Text
  | [] => [[]]
  | '/' :: rest => [] :: split rest
  | c :: rest =>
      match split rest with
      | [] => [[c]]
      | name :: more => (c :: name) :: more

/-- Longest name, and longest path, in bytes. -/
def longestName : Nat := 255

def longestPath : Nat := 4095

/-- Follow names from a directory. An empty name and `.` stay, `..` goes up. -/
def walk (tree : FileTree) : (place : List Text) → List Text → Except FileFault (List Text)
  | place, [] => .ok place
  | place, name :: rest =>
      if tree.node? place ≠ some .directory then .error .notADirectory
      else if name = [] || name = ['.'] then walk tree place rest
      else if name = ['.', '.'] then walk tree place.dropLast rest
      else if longestName < (Utf8.encode name).length then .error .nameTooLong
      else if (tree.node? (place ++ [name])).isNone then .error .noSuchFile
      else walk tree (place ++ [name]) rest

def route (tree : FileTree) (path : Text) : Except FileFault (List Text × List Text) :=
  if Char.ofNat 0 ∈ path then .error .nulInName
  else if path.isEmpty then .error .noSuchFile
  else if longestPath < (Utf8.encode path).length then .error .nameTooLong
  else .ok (if path.head? = some '/' then ([], split path) else (tree.here, split path))

def resolve (tree : FileTree) (path : Text) : Except FileFault (List Text) := do
  let (start, names) ← tree.route path
  tree.walk start names

def find (tree : FileTree) (path : Text) : Except FileFault Node := do
  let names ← tree.resolve path
  match tree.node? names with
  | some n => .ok n
  | none => .error .noSuchFile

def readText (tree : FileTree) (path : Text) : Except FileFault Text := do
  match ← tree.find path with
  | .directory => .error .isADirectory
  | .file data =>
      match Utf8.decode? data with
      | some t => .ok t
      | none => .error .notUtf8
  | _ => .ok []

def forWriting (tree : FileTree) (path : Text) : Except FileFault (List Text) := do
  let (start, names) ← tree.route path
  match tree.walk start names with
  | .ok place =>
      if tree.node? place = some .directory then .error .isADirectory else .ok place
  | .error .noSuchFile =>
      match names.getLast? with
      | none => .error .noSuchFile
      | some name =>
          let place ← tree.walk start names.dropLast
          if tree.node? place ≠ some .directory then .error .notADirectory
          else if name = [] || name = ['.'] || name = ['.', '.'] then .error .isADirectory
          else if longestName < (Utf8.encode name).length then .error .nameTooLong
          else .ok (place ++ [name])
  | .error fault => .error fault

def plant (tree : FileTree) (path : Text) (n : Node) : FileTree :=
  let start := if path.head? = some '/' then [] else tree.here
  let names := (split path).filter fun name => name ≠ [] && name ≠ ['.']
  let above := (List.range names.length).foldl (fun (t : FileTree) k =>
    let place := start ++ names.take k
    if (t.node? place).isSome then t else t.set place .directory) tree
  above.set (start ++ names) n

end FileTree
end ModemDialog
