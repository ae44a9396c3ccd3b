import QueryAlgebra.Text.Lines

/-!
# Frames

Which places of a profile belong to the audited project.  A place is given by
the path of its file; the places without a file start with a tilde or an angle bracket.
-/

namespace QueryAlgebra
namespace Audit

namespace Path

/-- One component after others, given in reverse: a parent component removes the last of them. -/
def push (done : List Text) (component : Text) : List Text :=
  if component = [] ∨ component = ['.'] then done
  else if component = ['.', '.'] then done.tail
  else component :: done

/-- The components of a path without empty, current and parent components. -/
def components (path : Text) : List Text :=
  ((Text.pieces '/' path).foldl push []).reverse

/-- The path from the root with its components only. -/
def normal (path : Text) : Text :=
  '/' :: Text.join ['/'] (components path)

/-- The last component of a path as it is written. -/
def name (path : Text) : Text :=
  Text.afterLast '/' path

end Path

namespace Frame

/-- The directory of the project. -/
def root : Text :=
  "/repo/".toList

/-- The file that holds the benches. -/
def benchFile : Text :=
  "microbench.py".toList

/-- The start of the names of the audit's own files. -/
def auditMark : Text :=
  "_pti_".toList

/-- Directories that hold the work of others. -/
def foreignDirectories : List Text :=
  ["site-packages", "dist-packages", ".venv", "venv", ".tox", "node_modules", "vendor", "vendored",
    "_vendor", "third_party", "thirdparty", "build", "dist", ".eggs"].map String.toList

/-- Texts that occur in a path within a foreign directory. -/
def foreignMarks : List Text :=
  ".egg-info/".toList :: foreignDirectories.map fun directory => '/' :: directory ++ ['/']

/-- The path stands for a place without a file. -/
def isFileless (path : Text) : Bool :=
  path.head? == some '~' || path.head? == some '<'

/-- The path from the root; a path that does not start there starts at the project. -/
def fromRoot (path : Text) : Text :=
  if path.head? = some '/' then path else root ++ path

/--
The file at a path belongs to the project: it lies in its directory, is neither
the file of the benches nor one of the audit, and lies in no foreign directory.
-/
def isProject (path : Text) : Bool :=
  let p := Path.normal (fromRoot path)
  !isFileless path && root.isPrefixOf p && p != root ++ benchFile &&
    !auditMark.isPrefixOf (Path.name p) && !foreignMarks.any fun mark => Text.occursIn mark p

/-- The path of everything that is built in. -/
def builtIn : Text :=
  ['~']

/-- The path is of something built in or of a compiled library. -/
def isCompiled (path : Text) : Bool :=
  path == builtIn || Text.endsWith path ".so".toList || Text.endsWith path ".pyd".toList

/-- The text without an ending. -/
def withoutEnding (ending s : Text) : Text :=
  if Text.endsWith s ending then s.take (s.length - ending.length) else s

/-- The ending of the files of a program. -/
def sourceEnding : Text :=
  ".py".toList

/-- The name under which the time of a path is shown. -/
def label (path : Text) : Text :=
  if path = builtIn then "builtins".toList
  else
    match withoutEnding sourceEnding (Path.name path) with
    | [] => path
    | short => if short = withoutEnding sourceEnding benchFile then "<run() body>".toList else short

end Frame
end Audit
end QueryAlgebra
