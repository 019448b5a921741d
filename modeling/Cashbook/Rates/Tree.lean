/-!
# A directory tree

`TreeFile` is a file or a directory by its path, and a tree is the list of what is in it.  A
directory may be left out of the list, unless it is empty: it exists as soon as the tree has
something below it.

`Tree.write` puts a text into a tree, at a path that is followed from the top of the tree:
`Place.walk?` gives the places that the path leads through.  Two paths that end at one place name
one file, and the text that is written last is the one that the file holds.
-/

namespace Cashbook

/-- A file of a directory tree, or a directory of it. -/
structure TreeFile where
  /-- The path, with slashes between its parts, and one at the end if it leads to a directory. -/
  path : String
  /-- The text, unless the file holds none. -/
  text : Option String

/-- The path of `name` in a directory; that of the directory itself if `name` is empty. -/
def pathIn (directory name : String) : String :=
  if directory.toList.getLast? = some '/' then directory ++ name else directory ++ "/" ++ name

/-! ## Following a path -/

/-- The parts of a path between its slashes, if the characters `read`, latest first, stand before
the rest of it. -/
def pathParts (read : List Char) : List Char → List String
  | [] => [String.ofList read.reverse]
  | c :: cs =>
      if c = '/' then String.ofList read.reverse :: pathParts [] cs else pathParts (c :: read) cs

/-- A place in a tree: the names that lead to it from the top, the last one first. -/
abbrev Place := List String

namespace Place

/-- The path that names the place. -/
def path (here : Place) : String := String.intercalate "/" here.reverse

/-- The place that one part of a path leads to.  Nothing is above the top of a tree. -/
def step? (here : Place) (part : String) : Option Place :=
  if part = "" ∨ part = "." then some here
  else if part = ".." then
    match here with
    | [] => none
    | _ :: above => some above
  else some (part :: here)

/-- The places that the parts of a path lead through, in that order, from `here` to where they end;
nothing if they lead out of the tree. -/
def walk? (here : Place) : List String → Option (List Place)
  | [] => some [here]
  | part :: parts =>
      match here.step? part with
      | none => none
      | some next => (next.walk? parts).map (here :: ·)

/-- The places that a path leads through from the top of a tree, unless it starts above that top. -/
def ofPath? (path : String) : Option (List Place) :=
  if path.toList.head? = some '/' then none else walk? [] (pathParts [] path.toList)

end Place

/-! ## Writing -/

/-- What is in a directory tree. -/
abbrev Tree := List TreeFile

namespace Tree

/-- The tree with a text written at the end of a path, and with the directories that the path leads
through.  A path that leads out of the tree leaves it as it is. -/
def write (tree : Tree) (path text : String) : Tree :=
  match (Place.ofPath? path).map List.reverse with
  | some (file :: directories) =>
      let passed := (directories.filter (· ≠ [])).map fun place : Place =>
        TreeFile.mk (pathIn place.path "") none
      tree.filter (·.path ≠ Place.path file) ++ passed ++ [⟨Place.path file, some text⟩]
  | _ => tree

/-- The text of the file at a path, if there is one. -/
def text? (tree : Tree) (path : String) : Option String :=
  tree.findSome? fun f => if f.path = path then f.text else none

/-- A file holds the text that was written to it last, by whichever path. -/
theorem text?_write {path : String} {file : Place} {directories : List Place}
    (h : (Place.ofPath? path).map List.reverse = some (file :: directories)) (tree : Tree)
    (text : String) : (tree.write path text).text? file.path = some text := by
  have kept : (tree.filter (·.path ≠ file.path)).findSome?
      (fun f => if f.path = file.path then f.text else none) = none :=
    List.findSome?_eq_none_iff.2 fun f hf => if_neg (by simpa using (List.mem_filter.1 hf).2)
  have passed (places : List Place) :
      (places.map fun place : Place => TreeFile.mk (pathIn place.path "") none).findSome?
        (fun f => if f.path = file.path then f.text else none) = none := by
    simp [List.findSome?_eq_none_iff]
  simp only [write, h, text?, List.findSome?_append, kept, passed, Option.none_or]
  simp

end Tree

end Cashbook
