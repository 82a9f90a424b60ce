import FramedLines.Fault
import FramedLines.Text.Cut

-- Endpoints: a scheme, the mark `://` and an address.

namespace FramedLines

inductive Scheme where
  | tcp | inproc | local
deriving DecidableEq

namespace Scheme

def text : Scheme → String
  | tcp => "tcp"
  | inproc => "inproc"
  | .local => "local"

def all : List Scheme := [tcp, inproc, .local]

def parse (text : String) : Except Fault Scheme :=
  match all.find? (·.text == text) with
  | some scheme => .ok scheme
  | none => .error ((Fault.resolve text).withContext s!"unknown scheme '{text}'")

end Scheme

-- Where to connect or listen. What the address means depends on the scheme.
structure Endpoint where
  scheme : Scheme
  address : String
deriving DecidableEq

namespace Endpoint

-- What stands between scheme and address.
def mark : String := "://"

def text (endpoint : Endpoint) : String := endpoint.scheme.text ++ mark ++ endpoint.address

-- The scheme is judged before the address.
def parse (uri : String) : Except Fault Endpoint :=
  match Text.cut mark.toList uri.toList with
  | none => .error ((Fault.resolve uri).withContext s!"'{uri}' has no scheme")
  | some (before, after) =>
      match Scheme.parse (String.ofList before) with
      | .error fault => .error fault
      | .ok scheme =>
          if after.isEmpty then
            .error ((Fault.resolve uri).withContext s!"'{uri}' has an empty address")
          else .ok ⟨scheme, String.ofList after⟩

end Endpoint

end FramedLines
