import VersionedAssets.FileTree.Writing
import VersionedAssets.Text.Numeral

/-! # Listings of file trees

A file tree written as lines of columns with tabs between them: `d` and a path for a directory, `l`,
a path and a target for a link, and `f`, a path and the milliseconds of the last change for a file.
A listing says what is there and since when, not what files hold. Other lines, and lines that describe
what cannot be made, mean nothing.
-/

namespace VersionedAssets.FileTree

/-- The tree with what a line describes, or as it was if that cannot be made. -/
def addLine (tree : FileTree) (line : String) : FileTree :=
  let made := match Text.pieces '\t' line with
    | ["d", path] => tree.makeDirectory (FilePath.names path)
    | ["l", path, target] => tree.makeLink (FilePath.names path) target
    | ["f", path, millis] =>
      match Text.Numeral.read millis with
      | .ok n => tree.writeFile (FilePath.names path) [] (n * 1000000)
      | .error fault => .error (.value (.numeral fault))
    | _ => .ok tree
  made.toOption.getD tree

/-- The tree that lines describe. -/
def ofLines (lines : List String) : FileTree := lines.foldl addLine {}

end VersionedAssets.FileTree
