import StatementView.Text.Utf8

namespace StatementView.Command

inductive Node where
  | missing
  | directory
  | beyondFile
  | file (content : List UInt8)

inductive ReadFault where
  | missing
  | directory
  | beyondFile
  | undecodable

def ReadFault.message : ReadFault → Text
  | .missing => "No such file or directory (os error 2)".toList
  | .directory => "Is a directory (os error 21)".toList
  | .beyondFile => "Not a directory (os error 20)".toList
  | .undecodable => "stream did not contain valid UTF-8".toList

def readBytes (content : List UInt8) : Except ReadFault Text :=
  match Text.decode? content with
  | some t => .ok t
  | none => .error .undecodable

def Node.read : Node → Except ReadFault Text
  | .missing => .error .missing
  | .directory => .error .directory
  | .beyondFile => .error .beyondFile
  | .file content => readBytes content

def Node.isThere : Node → Bool
  | .directory => true
  | .file _ => true
  | _ => false

abbrev Tree := List (List Text × List UInt8)

namespace Tree

def names (path : Text) : List Text := (path.splitOn '/').filter (· ≠ [])

def ofFiles (files : List (Text × List UInt8)) : Tree :=
  files.map fun (path, content) ↦ (names path, content)

def nodeAt (tree : Tree) (way : List Text) : Node :=
  match tree.find? fun entry ↦ entry.1 = way with
  | some (_, content) => .file content
  | none =>
    if way = [] ∨ tree.any (fun entry ↦ way.isPrefixOf entry.1) then .directory else .missing

/-- What the names lead to from a directory of the tree; one dot stays and two go up. Above the tree
nothing is known. -/
def walk (tree : Tree) (way : List Text) : List Text → Node
  | [] => tree.nodeAt way
  | name :: rest =>
    match tree.nodeAt way with
    | .directory =>
      if name = ['.'] then tree.walk way rest
      else if name = ['.', '.'] then
        if way = [] then (if rest = [] then .directory else .missing)
        else tree.walk way.dropLast rest
      else tree.walk (way ++ [name]) rest
    | .file _ => .beyondFile
    | node => node

def look (tree : Tree) (path : Text) : Node :=
  if path = [] then .missing
  else if path.head? = some '/' then (if names path = [] then .directory else .missing)
  else
    match tree.walk [] (names path) with
    -- a path that ends with a slash leads to a directory only
    | .file content => if path.getLast? = some '/' then .beyondFile else .file content
    | node => node

end Tree

end StatementView.Command
