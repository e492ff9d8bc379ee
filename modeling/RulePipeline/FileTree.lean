import RulePipeline.Host

/-! A directory with files in it, held in memory. Paths are taken relative to the directory; what
is above it is known only to exist. -/
namespace RulePipeline

structure FileTree where
  files : List (String × ByteArray)

namespace FileTree

def isDirectory (tree : FileTree) (path : List String) : Bool :=
  path.isEmpty || tree.files.any fun f =>
    let parts := f.1.splitOn "/"
    path.length < parts.length && parts.take path.length == path

def find? (tree : FileTree) (path : List String) : Option ByteArray :=
  (tree.files.find? fun f => f.1.splitOn "/" == path).map Prod.snd

/-- The longest name, in bytes. -/
def maxName : Nat := 255

/-- The longest path, in bytes. -/
def maxPath : Nat := 4095

/-- One name after the other, from a directory on; `none` is above the tree. A path that has an end
in a directory is read as one, and a file has nothing below it. -/
def walk (tree : FileTree) : Option (List String) → List String → Except FileError ByteArray
  | _, [] => .error .isDirectory
  | dir, name :: rest =>
    if name = "" ∨ name = "." then tree.walk dir rest
    else if name = ".." then
      tree.walk (dir.bind fun path => if path.isEmpty then none else some path.dropLast) rest
    else if maxName < name.utf8ByteSize then .error .nameTooLong
    else match dir with
      | none => .error .notFound
      | some path =>
        let path := path ++ [name]
        if tree.isDirectory path then tree.walk (some path) rest
        else match tree.find? path with
          | none => .error .notFound
          | some bytes => if rest.isEmpty then .ok bytes else .error .notDirectory

def read (tree : FileTree) (path : String) : Except FileError ByteArray :=
  if path.contains '\x00' then .error .zeroInName
  else if path = "" then .error .notFound
  else if maxPath < path.utf8ByteSize then .error .nameTooLong
  else tree.walk (if path.startsWith "/" then none else some []) (path.splitOn "/")

end FileTree

end RulePipeline
