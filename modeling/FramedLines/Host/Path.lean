import FramedLines.Fault
import FramedLines.Text.Utf8

-- Paths as they are spelled, and which of them a socket can stand at.

namespace FramedLines

structure Path where
  absolute : Bool
  -- what stands between slashes, dots included
  parts : List String
  -- a slash follows the last part
  trailing : Bool
deriving DecidableEq

namespace Path

-- The stretches between the slashes, empty ones included.
def segments : List Char → List (List Char)
  | [] => [[]]
  | c :: rest =>
      if c = '/' then [] :: segments rest
      else
        match segments rest with
        | [] => [[c]]
        | segment :: others => (c :: segment) :: others

def parse (text : String) : Path :=
  let pieces := segments text.toList
  let parts := (pieces.filter (!·.isEmpty)).map String.ofList
  { absolute := text.toList.head? == some '/'
    parts
    trailing := !parts.isEmpty && pieces.getLast? == some [] }

-- Where its first part is looked up, when relative paths start at `location`.
def start (path : Path) (location : List String) : List String :=
  if path.absolute then [] else location

-- The path that goes on behind its end, where a slash may follow.
def append (path : Path) (parts : List String) (trailing : Bool) : Path :=
  { path with
    parts := path.parts ++ parts
    trailing := trailing || (parts.isEmpty && path.trailing) }

-- What a path is known by in a process that works in `home`. Nothing is looked up, so `..` stays.
-- A path without any text is known by nothing.
def key (home : List String) (text : String) : List String :=
  let path := parse text
  let parts := path.parts.filter (· != ".")
  if path.absolute then "/" :: parts
  else if text.isEmpty then []
  else "/" :: home ++ parts

-- A socket address has room for a path of 107 octets and the zero behind it.
def longest : Nat := 107

def checked (text : String) : Except IoError Path :=
  let octets := Utf8.encode text.toList
  if octets.contains 0 then
    .error (.worded .invalidInput "paths must not contain interior null bytes")
  else if longest < octets.length then
    .error (.worded .invalidInput "path must be shorter than SUN_LEN")
  else .ok (parse text)

end Path

end FramedLines
