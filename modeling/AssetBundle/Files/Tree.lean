import AssetBundle.Failure
import AssetBundle.Files.Path

/-!
# AssetBundle.Files.Tree

A tree of files, and the directory in it from which relative paths start. Paths are resolved step
by step, links included; an operation either gives its result or the condition that a file system
would report. Reading can fail for single paths although the file is there.
-/

namespace AssetBundle

inductive Node where
  | file (s : Bytes)
  | directory
  | link (target : Text)
deriving DecidableEq, Repr

structure Tree where
  /-- What stands at each place, except on the way to the current directory. -/
  nodes : List (Place × Node)
  /-- Paths that cannot be read, with the reason that is reported. -/
  unreadable : List (Text × Text)
  /-- The current directory. It and what is above it are directories. -/
  home : Place

namespace Tree

/-- A tree with nothing in the current directory. -/
def empty : Tree := ⟨[], [], ["tmp", "session"]⟩

instance : Inhabited Tree := ⟨empty⟩

/-- Whether a place is the current directory or above it. -/
def isOnWay (t : Tree) (place : Place) : Bool := place.isPrefixOf t.home

/-- What stands at a place. -/
def at? (t : Tree) (place : Place) : Option Node :=
  if t.isOnWay place then some .directory else t.nodes.lookup place

def erase (t : Tree) (place : Place) : Tree :=
  { t with nodes := t.nodes.filter fun entry => entry.1 ≠ place }

/-- Sets a node at a place, in place of what stands there. -/
def set (t : Tree) (place : Place) (node : Node) : Tree :=
  let t := t.erase place
  { t with nodes := t.nodes ++ [(place, node)] }

/-- Drops a place and everything below it. -/
def clear (t : Tree) (place : Place) : Tree :=
  { t with nodes := t.nodes.filter fun entry => !place.isPrefixOf entry.1 }

/-- Sets a node at a place that is told from the current directory. -/
def put (t : Tree) (place : Place) (node : Node) : Tree := t.set (t.home ++ place) node

/-- Drops a place that is told from the current directory, and everything below it. -/
def prune (t : Tree) (place : Place) : Tree := t.clear (t.home ++ place)

/-- The next name on the way from a place to the current directory. -/
def wayFrom? (t : Tree) (place : Place) : Option Text :=
  if t.isOnWay place then t.home[place.length]? else none

/-- The name of an entry that stands directly in a directory, with its node. -/
def childOf? (t : Tree) (place : Place) (entry : Place × Node) : Option (Text × Node) :=
  match entry.1.getLast? with
  | some name =>
    if entry.1.dropLast = place && !t.isOnWay entry.1 then some (name, entry.2) else none
  | none => none

/-- The names that stand directly in a directory, with their nodes. -/
def children (t : Tree) (place : Place) : List (Text × Node) :=
  (t.wayFrom? place).toList.map (·, .directory) ++ t.nodes.filterMap (t.childOf? place)

/-- Where the steps of a path lead: to a node, or to a free name in a directory. -/
inductive Spot where
  | node (place : Place) (node : Node)
  | free (place : Place)
deriving DecidableEq, Repr

/-- The most links that are followed on one path. -/
def linkLimit : Nat := 40

def longestName : Nat := 255

def longestPath : Nat := 4095

/-- What is meant by the last step of a path. -/
inductive Ending where
  /-- What stands there, even if it is a link. -/
  | itself
  /-- What stands there, links followed. -/
  | followed
  /-- A file that is to be written. A slash behind its name is refused, also in a link to it. -/
  | written
deriving DecidableEq, Repr

/-- Where the steps of a path begin. -/
def start (here : Place) (path : Text) : Place := if Path.isAbsolute path then [] else here

/-- Follows steps from a directory. At a link that is to be followed, `follow` goes on from the
directory in which the link stands, with the target of the link and the steps behind it. -/
def walkSteps (t : Tree) (ending : Ending)
    (follow : Place → Text → List Text → Except Errno Spot) :
    Place → List Text → Except Errno Spot
  | here, [] => .ok (.node here .directory)
  | here, step :: rest =>
    if step.isEmpty || step = Path.dot then walkSteps t ending follow here rest
    else if step = Path.dotDot then walkSteps t ending follow here.dropLast rest
    else if ending = .written && rest = [[]] then .error .isDirectory
    else if Path.byteLength step > longestName then .error .nameTooLong
    else
      let place := here ++ [step]
      match t.at? place with
      | none => if rest.isEmpty then .ok (.free place) else .error .noEntry
      | some .directory => walkSteps t ending follow place rest
      | some (.file s) => if rest.isEmpty then .ok (.node place (.file s)) else .error .notDirectory
      | some (.link target) =>
        if rest.isEmpty && ending = .itself then .ok (.node place (.link target))
        else follow here target rest

/-- Follows steps over at most so many links. -/
def walk (t : Tree) (ending : Ending) : Nat → Place → List Text → Except Errno Spot
  | 0 => walkSteps t ending fun _ _ _ => .error .tooManyLinks
  | links + 1 => walkSteps t ending fun here target rest =>
    walk t ending links (start here target) (Path.route target ++ rest)

/-- Resolves a path. -/
def resolve (t : Tree) (ending : Ending) (path : Text) : Except Errno Spot :=
  if path.isEmpty then .error .noEntry
  else if Path.byteLength path > longestPath then .error .nameTooLong
  else walk t ending linkLimit (start t.home path) (Path.route path)

/-- What a path leads to, links followed. -/
def find (t : Tree) (path : Text) : Except Errno Node :=
  match t.resolve .followed path with
  | .error e => .error e
  | .ok (.free _) => .error .noEntry
  | .ok (.node _ node) => .ok node

def isFile (t : Tree) (path : Text) : Bool :=
  match t.find path with
  | .ok (.file _) => true
  | _ => false

def isDirectory (t : Tree) (path : Text) : Bool :=
  match t.find path with
  | .ok .directory => true
  | _ => false

/-- The names in a directory. -/
def list (t : Tree) (path : Text) : Except Errno (List Text) :=
  match t.resolve .followed path with
  | .error e => .error e
  | .ok (.free _) => .error .noEntry
  | .ok (.node place .directory) => .ok ((t.children place).map Prod.fst)
  | .ok (.node _ _) => .error .notDirectory

/-- The contents of a file. -/
def read (t : Tree) (path : Text) : Except Errno Bytes :=
  match t.find path with
  | .error e => .error e
  | .ok (.file s) => .ok s
  | .ok _ => .error .isDirectory

/-- The contents of a file, or the reason why it cannot be read. -/
def readOrReason (t : Tree) (path : Text) : Except Text Bytes :=
  match t.unreadable.lookup path with
  | some reason => .error reason
  | none =>
    match t.read path with
    | .ok s => .ok s
    | .error e => .error e.reason

/-- Where a file that is opened for writing stands. -/
def target (t : Tree) (path : Text) : Except Errno Place :=
  match t.resolve .written path with
  | .error e => .error e
  | .ok (.node _ .directory) => .error .isDirectory
  | .ok (.node place _) | .ok (.free place) => .ok place

/-- Writes a file, in place of the one that stands there. -/
def write (t : Tree) (path : Text) (s : Bytes) : Except Errno Tree :=
  match t.target path with
  | .error e => .error e
  | .ok place => .ok (t.set place (.file s))

/-- A path without the slashes at its end. -/
def withoutEnd (path : Text) : Text := Sequence.trimRight (· = Path.slash) path

/-- Removes a file or a link. -/
def remove (t : Tree) (path : Text) : Except Errno Tree :=
  match t.resolve .itself (withoutEnd path) with
  | .error e => .error e
  | .ok (.free _) => .error .noEntry
  | .ok (.node _ .directory) => .error .isDirectory
  | .ok (.node place _) =>
    if Path.asksDirectory path then .error .notDirectory else .ok (t.erase place)

/-- Whether the last step of a path is one or two dots. -/
def endsInDots (path : Text) : Bool :=
  match (Path.steps path).getLast? with
  | some step => step = Path.dot || step = Path.dotDot
  | none => true

/-- Moves a file or a link onto another path, in one step. -/
def rename (t : Tree) (source path : Text) : Except Errno Tree :=
  match t.resolve .itself source with
  | .error e => .error e
  | .ok (.free _) => .error .noEntry
  | .ok (.node origin node) =>
    if path.isEmpty then .error .noEntry
    else if Path.byteLength path > longestPath then .error .nameTooLong
    else if endsInDots path then
      match t.resolve .followed path with
      | .error e => .error e
      | .ok _ => .error .busy
    else
      match t.resolve .itself (withoutEnd path) with
      | .error e => .error e
      | .ok spot =>
        if Path.asksDirectory path then .error .notDirectory
        else
          match spot with
          | .node _ .directory => .error .isDirectory
          | .node place _ | .free place =>
            if place = origin then .ok t else .ok ((t.erase origin).set place node)

/-- The reason that a refusal reports: its own text, or code and text together if that is empty,
or all it has. -/
def reasonOf (refusal : List Value) : Text :=
  match refusal with
  | code :: reason :: _ =>
    if reason.truthy then reason.written
    else ("[Errno " : Text) ++ (code.written ++ (("] " : Text) ++ reason.written))
  | [text] => text.written
  | [] => []

/-- From now on a path cannot be read, as spelled. -/
def refuse (t : Tree) (path : Text) (refusal : List Value) : Tree :=
  { t with unreadable := (path, reasonOf refusal) :: t.unreadable }

/-- The place of a path by spelling alone. -/
def placeOf (t : Tree) (path : Text) : Place := Path.normalizeFrom (start t.home path) path

/-- Creates a directory and those above it. -/
def makeDirectory (t : Tree) (path : Text) : Tree :=
  let place := t.placeOf path
  (List.range place.length).foldl (fun t n =>
    match t.at? (place.take (n + 1)) with
    | none => t.set (place.take (n + 1)) .directory
    | some _ => t) t

/-- Directories of compiled code, which no listing shows. -/
def cacheName : Text := "__pycache__"

/-- Whether a place below the current directory is shown: no name on the way to it mentions the
cache. -/
def isShown (place : Place) : Bool :=
  !place.isEmpty && !place.any fun name => Sequence.contains cacheName name

/-- A place as a listing shows it: what leads to a directory has a slash behind it. -/
def shownAs (t : Tree) (place : Place) : Text :=
  let path := Path.ofPlace place
  if t.isDirectory path then path ++ [Path.slash] else path

/-- Everything there is below the current directory, sorted. -/
def listing (t : Tree) : List Text :=
  let below := t.nodes.filterMap fun (place, _) =>
    if t.home.isPrefixOf place then some (place.drop t.home.length) else none
  ((below.filter isShown).map (shownAs t)).mergeSort Text.le

end Tree
end AssetBundle
