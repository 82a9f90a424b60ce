import FramedLines.Bytes
import FramedLines.Host.Path

-- A tree of files, with as much in it as sockets need.

namespace FramedLines

inductive Node where
  | directory
  | regular (contents : Bytes)
  -- a stream socket, and the listener that made it when that is known
  | socket (listener : Option Nat)
  -- a symbolic link to wherever its path leads from where the link stands
  | link (target : Path)
  -- a named pipe or a device
  | special
deriving DecidableEq

-- Everything by its place below the root.
structure Files where
  nodes : List (List String × Node) := []
  -- where relative paths start
  home : List String := []
deriving DecidableEq

-- Where a path leads.
inductive Place where
  -- to a directory that it does not name
  | folder (location : List String)
  -- to a name in a directory, which may be free; a slash after it asks for a directory
  | entry (location : List String) (trailing : Bool)
deriving DecidableEq

namespace Files

def node? (files : Files) (location : List String) : Option Node :=
  if location.isEmpty then some .directory else files.nodes.lookup location

def isLink (files : Files) (location : List String) : Bool :=
  match files.node? location with
  | some (.link _) => true
  | _ => false

-- Follows the parts of a path from a directory. They have to lead through directories, and the
-- last one is only named. At a link on the way `onward` takes over with what is left of the path,
-- and when `follows` it does so at a link at the end.
def walk (files : Files) (follows trailing : Bool)
    (onward : (location : List String) → Path → Except Errno Place) :
    (location parts : List String) → Except Errno Place
  | location, [] => .ok (.folder location)
  | location, part :: parts =>
      if part = "." then walk files follows trailing onward location parts
      else if part = ".." then walk files follows trailing onward location.dropLast parts
      else
        let here := location ++ [part]
        if parts.isEmpty && !(follows && files.isLink here) then .ok (.entry here trailing)
        else
          match files.node? here with
          | some .directory => walk files follows trailing onward here parts
          | some (.link target) => onward location (target.append parts trailing)
          | some _ => .error .notDirectory
          | none => .error .noEntry

-- Where a path leads from a directory, over no more than so many links.
def lead (files : Files) (follows : Bool) :
    (links : Nat) → (location : List String) → Path → Except Errno Place
  | 0, location, path =>
      files.walk follows path.trailing (fun _ _ => .error .tooManyLinks) (path.start location)
        path.parts
  | links + 1, location, path =>
      files.walk follows path.trailing (files.lead follows links) (path.start location) path.parts

-- So many links are followed for one path, and no more.
def mostLinks : Nat := 40

-- Where a path leads, when a link at its end is not followed and when it is.
def locate (files : Files) (path : Path) : Except Errno Place :=
  files.lead false mostLinks files.home path

def resolve (files : Files) (path : Path) : Except Errno Place :=
  files.lead true mostLinks files.home path

-- What stands where a path leads.
def find (files : Files) (path : Path) : Except Errno Node :=
  match files.resolve path with
  | .error errno => .error errno
  | .ok (.folder _) => .ok .directory
  | .ok (.entry location trailing) =>
      match files.node? location with
      | none => .error .noEntry
      | some node => if trailing && node != .directory then .error .notDirectory else .ok node

def put (files : Files) (location : List String) (node : Node) : Files :=
  { files with nodes := (location, node) :: files.nodes.filter (·.1 != location) }

def erase (files : Files) (location : List String) : Files :=
  { files with nodes := files.nodes.filter (·.1 != location) }

-- Puts a socket where nothing stands yet, not even a link.
def bind (files : Files) (path : Path) (listener : Nat) : Except Errno Files :=
  match files.locate path with
  | .error errno => .error errno
  | .ok (.folder _) => .error .addressInUse
  | .ok (.entry location trailing) =>
      if (files.node? location).isSome then .error .addressInUse
      else if trailing then .error .noEntry
      else .ok (files.put location (.socket listener))

-- Takes away what is no directory. A link goes itself, and what it leads to stays.
def unlink (files : Files) (path : Path) : Except Errno Files :=
  match files.locate path with
  | .error errno => .error errno
  | .ok (.folder _) => .error .isDirectory
  | .ok (.entry location trailing) =>
      match files.node? location with
      | none => .error .noEntry
      | some .directory => .error .isDirectory
      | some _ => if trailing then .error .notDirectory else .ok (files.erase location)

-- Puts anything anywhere its directory exists. Elsewhere nothing happens.
def make (files : Files) (path : Path) (node : Node) : Files :=
  match files.locate path with
  | .ok (.entry location _) => files.put location node
  | _ => files

end Files

end FramedLines
