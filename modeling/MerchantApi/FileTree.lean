import MerchantApi.ApiError
/-!
# Trees of files

The files below a working directory, by their paths.  A path is followed step
by step: every step but the last leads through a directory, a single dot stays
and two dots go back.  Of what lies outside the working directory nothing is
known but the directories that lead to it.
-/

namespace MerchantApi

structure FileTree where
  files : List (List String × ByteArray)
  directories : List (List String)

namespace FileTree

def steps (path : String) : List String :=
  ((path.toList.splitOn '/').map String.ofList).filter fun s => s ≠ "" ∧ s ≠ "."

def ofPaths (files : List (String × ByteArray)) (directories : List String) : FileTree where
  files := files.map fun file => (steps file.1, file.2)
  directories := directories.map steps

inductive Place where
  | outside (levels : Nat)
  | directory (path : List String)
  | file (content : ByteArray)

def find? (tree : FileTree) (path : List String) : Option Place :=
  if path.isEmpty then some (.directory [])
  else
    match tree.files.find? fun file => file.1 = path with
    | some file => some (.file file.2)
    | none =>
      if tree.directories.any path.isPrefixOf || tree.files.any fun file => path.isPrefixOf file.1
      then some (.directory path)
      else none

def walk (tree : FileTree) (place : Place) (step : String) : Except FileError Place :=
  let missing : FileError := if 255 < step.utf8ByteSize then .nameTooLong else .notFound
  match place with
  | .file _ => .error .notADirectory
  | .outside levels => if step = ".." then .ok (.outside (levels + 1)) else .error missing
  | .directory path =>
    if step = ".." then
      .ok (if path.isEmpty then .outside 1 else .directory path.dropLast)
    else
      match tree.find? (path ++ [step]) with
      | some next => .ok next
      | none => .error missing

def wantsDirectory (path : List Char) : Bool :=
  match path.reverse with
  | '/' :: _ => true
  | '.' :: '/' :: _ => true
  | _ => false

def read (tree : FileTree) (path : String) : Except FileError ByteArray :=
  let cs := path.toList
  if cs.any fun c => c.toNat = 0 then .error .nulInName
  else if cs.isEmpty then .error .notFound
  else if 4096 ≤ path.utf8ByteSize then .error .nameTooLong
  else do
    let start : Place := if cs.head? = some '/' then .outside 0 else .directory []
    match ← (steps path).foldlM tree.walk start with
    | .file content => if wantsDirectory cs then .error .notADirectory else .ok content
    | _ => .error .isADirectory

end FileTree

end MerchantApi
