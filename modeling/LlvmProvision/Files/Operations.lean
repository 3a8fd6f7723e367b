import LlvmProvision.Files.Walk

/-!
# Operations on files

What a program can ask about a path and do with it.  All of them take the tree, the
directory that relative paths start from, and the path as it was spelled.  A question
never fails: whatever keeps the path from being reached, nothing is there.  A change
either gives the changed tree or a fault and no change.  Only `createAll`, which makes
several directories, and `removeDirectory`, which removes several entries, can fail with
some of their changes made, so they give the tree in either case.
-/
namespace LlvmProvision.Files.Tree

/-! ### Questions -/

/-- The location at which a walk has arrived, if there is an entry. -/
def placeOf : Except Fault Arrival → Except Fault Location
  | .ok (.found place) => .ok place
  | .ok (.missing ..) => .error (.system .noEntry)
  | .error fault => .error fault

/-- The location of the entry that a path leads to through links. -/
def resolve (tree : Tree) (here : Location) (path : Path) : Except Fault Location :=
  placeOf (tree.find here path)

/-- The same location, found by the paths from the root of all entries on the way. -/
def resolveFromRoot (tree : Tree) (here : Location) (path : Path) : Except Fault Location :=
  placeOf (tree.findFromRoot here path)

/-- The entry that a path leads to through links. -/
def lookup? (tree : Tree) (here : Location) (path : Path) : Option Entry :=
  match tree.resolve here path with
  | .ok place => tree.node? place
  | .error _ => none

/-- Something is there. -/
def isPresent (tree : Tree) (here : Location) (path : Path) : Bool :=
  (tree.lookup? here path).isSome

/-- A directory is there. -/
def isDirectory (tree : Tree) (here : Location) (path : Path) : Bool :=
  tree.lookup? here path = some .directory

/-- The text of the file that is there. -/
def readFile? (tree : Tree) (here : Location) (path : Path) : Option String :=
  match tree.lookup? here path with
  | some (.file text) => some text
  | _ => none

/-- The names and entries in the directory that is there. -/
def listDirectory (tree : Tree) (here : Location) (path : Path) : List (String × Entry) :=
  match tree.resolve here path with
  | .ok place => tree.children place
  | .error _ => []

/-! ### Changes -/

/-- Adds an entry where a walk has arrived.  Whatever is there already, even a link that
leads nowhere, is in the way. -/
def addAt (tree : Tree) (entry : Entry) : Except Fault Arrival → Except Fault Tree
  | .ok (.found _) => .error (.system .alreadyExists)
  | .ok (.missing parent name []) => .ok (tree.add parent name entry)
  | .ok (.missing _ _ (_ :: _)) => .error (.system .noEntry)
  | .error fault => .error fault

/-- Makes one directory.  Its path may end in a slash. -/
def createDirectory (tree : Tree) (here : Location) (path : Path) : Except Fault Tree :=
  tree.addAt .directory (tree.findSlot here path)

/-- Makes a link that holds `target`, which may lead anywhere but must not be empty. -/
def createLink (tree : Tree) (here : Location) (path target : Path) : Except Fault Tree :=
  if '\x00' ∈ target.text.toList then .error .nulInPath
  else if target.text = "" then .error (.system .noEntry)
  else if pathLimit ≤ target.text.utf8ByteSize then .error (.system .nameTooLong)
  else tree.addAt (.link target) (tree.findEntry here path)

/-- Makes a directory.  If its parent is missing, the parent is made in the same way, and
the directory is tried again.  If it cannot be made, it is enough that there is a directory
already.  The names of the path, the last name first, tell which path is the parent. -/
def createFrom (tree : Tree) (here : Location) (start : String) (path : Path)
    (names : List String) : Except Fault Unit × Tree :=
  if path.text = "" then (.ok (), tree)
  else
    match tree.createDirectory here path with
    | .ok made => (.ok (), made)
    | .error (.system .noEntry) =>
      match names with
      | [] => (.error (.other "failed to create whole tree"), tree)
      | _ :: names =>
        match createFrom tree here start (Path.along start names) names with
        | (.error fault, tree) => (.error fault, tree)
        | (.ok (), tree) => settle tree (tree.createDirectory here path)
    | refused => settle tree refused
where
  /-- The end of an attempt: the tree with the directory made, or the old tree, which is a
  success if the directory was there. -/
  settle (tree : Tree) : Except Fault Tree → Except Fault Unit × Tree
    | .ok made => (.ok (), made)
    | .error fault => (if tree.isDirectory here path then .ok () else .error fault, tree)

/-- Makes a directory with all that are missing on the way to it. -/
def createAll (tree : Tree) (here : Location) (path : Path) : Except Fault Unit × Tree :=
  tree.createFrom here path.start path path.significantNames.reverse

/-- Writes a file, replacing its text or making it.  A link is followed, also to where
nothing is yet. -/
def writeFile (tree : Tree) (here : Location) (path : Path) (text : String) :
    Except Fault Tree :=
  match tree.find here path with
  | .ok (.found place) =>
    match tree.node? place with
    | some (.file _) => .ok (tree.rewrite place text)
    | _ => .error (.system .isDirectory)
  | .ok (.missing parent name []) => .ok (tree.add parent name (.file text))
  | .ok (.missing _ _ [.slash]) => .error (.system .isDirectory)
  | .ok (.missing _ _ _) => .error (.system .noEntry)
  | .error fault => .error fault

/-- Removes a file, or a link for itself. -/
def removeFile (tree : Tree) (here : Location) (path : Path) : Except Fault Tree :=
  match tree.findEntry here path with
  | .ok (.found place) =>
    match tree.node? place with
    | some .directory => .error (.system .isDirectory)
    | _ => .ok (tree.remove place)
  | .ok (.missing ..) => .error (.system .noEntry)
  | .error fault => .error fault

/-- Removes an empty directory.  Its path may end in a slash, but not in a dot. -/
def removeEmpty (tree : Tree) (here : Location) (path : Path) : Except Fault Tree :=
  match tree.findSlot here path with
  | .ok (.found place) =>
    if path.entrySteps.getLast? = some .stay then .error (.system .invalidArgument)
    else
      match tree.node? place with
      | some .directory =>
        if (tree.children place).isEmpty then .ok (tree.remove place)
        else .error (.system .notEmpty)
      | _ => .error (.system .notDirectory)
  | .ok (.missing ..) => .error (.system .noEntry)
  | .error fault => .error fault

/-- Removes a directory with its contents, or a link for itself.  The contents go first,
then the directory is looked up again.  If its path has led through its own contents, it
is not found any more, which is no fault, and the empty directory stays. -/
def removeDirectory (tree : Tree) (here : Location) (path : Path) :
    Except Fault Unit × Tree :=
  match tree.findEntry here path with
  | .ok (.found place) =>
    match tree.node? place with
    | some .directory =>
      let cleared := tree.clear place
      match cleared.removeEmpty here path with
      | .ok removed => (.ok (), removed)
      | .error (.system .noEntry) => (.ok (), cleared)
      | .error fault => (.error fault, cleared)
    | some (.link _) => (.ok (), tree.remove place)
    | _ => (.error (.system .notDirectory), tree)
  | .ok (.missing ..) => (.error (.system .noEntry), tree)
  | .error fault => (.error fault, tree)

end LlvmProvision.Files.Tree
