import ScriptBridge.Node.Text

/-!
# Properties

The six value formats of the property protocol, values tagged with one of them, and the reading of a stored value in
a requested format.
-/
namespace ScriptBridge

/-- A format in which property values cross to the host. -/
inductive PropertyFormat where
  | string
  | osdString
  | flag
  | int64
  | double
  | node
  deriving DecidableEq, Repr

namespace PropertyFormat

/-- Every format, in the order of the wire codes. -/
def all : List PropertyFormat := [.string, .osdString, .flag, .int64, .double, .node]

def code : PropertyFormat → Int64
  | .string => 1
  | .osdString => 2
  | .flag => 3
  | .int64 => 4
  | .double => 5
  | .node => 6

def ofCode? (code : Int64) : Option PropertyFormat := all.find? fun format => format.code = code

def name : PropertyFormat → String
  | .string => "string"
  | .osdString => "osd-string"
  | .flag => "flag"
  | .int64 => "int64"
  | .double => "double"
  | .node => "node"

def ofName? (name : String) : Option PropertyFormat := all.find? fun format => format.name = name

end PropertyFormat

/-- A property value tagged with its format. -/
inductive PropertyValue where
  | string (value : String)
  | osdString (value : String)
  | flag (value : Bool)
  | int64 (value : Int64)
  | double (value : Double)
  | node (value : Node)
  deriving Repr

namespace PropertyValue

def format : PropertyValue → PropertyFormat
  | .string _ => .string
  | .osdString _ => .osdString
  | .flag _ => .flag
  | .int64 _ => .int64
  | .double _ => .double
  | .node _ => .node

/-- The integer that a flag crosses the boundary as. -/
def flagCode? : PropertyValue → Option Int
  | .flag value => some (if value then 1 else 0)
  | _ => none

/-- The content of the value without its tag. -/
def toNode : PropertyValue → Node
  | .string value => .string value
  | .osdString value => .string value
  | .flag value => .flag value
  | .int64 value => .int64 value
  | .double value => .double value
  | .node value => value

/-- A node in a requested format: every node has a text, flags and integers are read only from themselves, and a
double also from an integer. -/
def ofNode? (node : Node) : PropertyFormat → Option PropertyValue
  | .string => some (.string node.text)
  | .osdString => some (.osdString node.text)
  | .node => some (.node node)
  | .flag => match node with
    | .flag value => some (.flag value)
    | _ => none
  | .int64 => match node with
    | .int64 value => some (.int64 value)
    | _ => none
  | .double => match node with
    | .double value => some (.double value)
    | .int64 value => some (.double (Double.ofInt value.toInt))
    | _ => none

/-- A stored value in a requested format. A value that has the format already is handed out as it is. -/
def readAs? (value : PropertyValue) (format : PropertyFormat) : Option PropertyValue :=
  if value.format = format then some value else ofNode? value.toNode format

end PropertyValue
end ScriptBridge
