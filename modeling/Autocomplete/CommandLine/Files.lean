import Autocomplete.Text.Quoted

namespace Autocomplete.CommandLine

inductive FileFault where
  | missing
  | notFolder
  | isFolder
  | nullCharacter
  /-- The path, or a name in it, is too long, or the file is kept from being read, or it has half
  of a surrogate pair. -/
  | unreadable
  deriving DecidableEq, Repr

def FileFault.message? (path : String) : FileFault → Option String
  | missing => some ("[Errno 2] No such file or directory: " ++ Text.quoted path)
  | nullCharacter => some "embedded null byte"
  | notFolder | isFolder | unreadable => none

abbrev Files := String → Except FileFault String

inductive FileTree where
  | file (text : String)
  | folder (entries : List (String × FileTree))

structure Place where
  here : FileTree
  around : List FileTree := []

namespace Place

def maxNameSize : Nat := 255

def step (place : Place) (name : String) : Except FileFault Place :=
  match place.here with
  | .file _ => .error .notFolder
  | .folder entries =>
    if name = "" ∨ name = "." then .ok place
    else if name = ".." then
      match place.around with
      | [] => .ok place
      | outer :: around => .ok ⟨outer, around⟩
    else if maxNameSize < name.utf8ByteSize then .error .unreadable
    else match entries.lookup name with
    | some next => .ok ⟨next, place.here :: place.around⟩
    | none => .error .missing

def walk (place : Place) (names : List String) : Except FileFault Place := names.foldlM step place

def text (place : Place) : Except FileFault String :=
  match place.here with
  | .file text => .ok text
  | .folder _ => .error .isFolder

end Place

def pathNames (path : List Char) : List (List Char) :=
  if '/' ∈ path then
    path.takeWhile (· != '/') :: pathNames ((path.dropWhile (· != '/')).drop 1)
  else [path]
termination_by path.length
decreasing_by
  rename_i slash
  have nonempty := List.length_pos_of_mem slash
  have suffix := (List.dropWhile_suffix (l := path) (· != '/')).length_le
  rw [List.length_drop]
  omega

def pathSizeLimit : Nat := 4096

def FileTree.read (tree : FileTree) (working : List String) : Files := fun path =>
  let root : Place := ⟨tree, []⟩
  let cs := path.toList
  if '\x00' ∈ cs then .error .nullCharacter
  else if cs = [] then .error .missing
  else if pathSizeLimit ≤ path.utf8ByteSize then .error .unreadable
  else do
    let start ← if cs.head? = some '/' then .ok root else root.walk working
    (← start.walk ((pathNames cs).map String.ofList)).text

end Autocomplete.CommandLine
