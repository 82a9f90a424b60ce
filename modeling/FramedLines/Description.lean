import FramedLines.Line
import FramedLines.Text.Quoted
import FramedLines.Text.Unseen

-- Descriptions of what lines and acceptors are, for people who look into a running program.

namespace FramedLines

def describeText (text : String) : String :=
  String.ofList (Quoted.quote (!Unseen.contains ·) text.toList)

-- A name and its fields.
def describeFields (name : String) (fields : List (String × String)) : String :=
  let inner := fields.map fun (field, value) => field ++ ": " ++ value
  name ++ " \x7b " ++ String.intercalate ", " inner ++ " \x7d"

def Scheme.description : Scheme → String
  | tcp => "Tcp"
  | inproc => "Inproc"
  | .local => "Local"

def Endpoint.description (endpoint : Endpoint) : String :=
  describeFields "Endpoint"
    [("scheme", endpoint.scheme.description), ("address", describeText endpoint.address)]

def describeLimit : Option Duration → String
  | none => "None"
  | some limit => "Some(" ++ limit.text ++ ")"

def LineOptions.description (options : LineOptions) : String :=
  describeFields "LineOptions"
    [("receive_timeout", describeLimit options.receiveTimeout),
      ("send_timeout", describeLimit options.sendTimeout)]

def describeTruth (value : Bool) : String := if value then "true" else "false"

def Line.description (line : Line) : String :=
  describeFields "Line"
    [("endpoint", line.endpoint.description), ("options", line.options.description),
      ("closed", describeTruth line.closed)]

-- An acceptor shows where it listens and whether it still does.
def describeAcceptor (endpoint : Endpoint) (closed : Bool) : String :=
  describeFields "Acceptor"
    [("endpoint", endpoint.description), ("closed", describeTruth closed)]

end FramedLines
