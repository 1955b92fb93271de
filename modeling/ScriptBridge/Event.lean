import ScriptBridge.QualifiedName
import ScriptBridge.Node.Basic

/-!
# Events

The host numbers its events; the numbers that are missing are retired. An event carries its number, which may be one
that is not known here, and a node.
-/
namespace ScriptBridge

inductive EventKind where
  | none
  | shutdown
  | logMessage
  | getPropertyReply
  | setPropertyReply
  | commandReply
  | startFile
  | endFile
  | fileLoaded
  | clientMessage
  | videoReconfig
  | audioReconfig
  | seek
  | playbackRestart
  | propertyChange
  | queueOverflow
  | hook
  deriving DecidableEq, Repr

namespace EventKind

def all : List EventKind :=
  [.none, .shutdown, .logMessage, .getPropertyReply, .setPropertyReply, .commandReply, .startFile, .endFile,
   .fileLoaded, .clientMessage, .videoReconfig, .audioReconfig, .seek, .playbackRestart, .propertyChange,
   .queueOverflow, .hook]

def id : EventKind → Int32
  | .none => 0
  | .shutdown => 1
  | .logMessage => 2
  | .getPropertyReply => 3
  | .setPropertyReply => 4
  | .commandReply => 5
  | .startFile => 6
  | .endFile => 7
  | .fileLoaded => 8
  | .clientMessage => 16
  | .videoReconfig => 17
  | .audioReconfig => 18
  | .seek => 20
  | .playbackRestart => 21
  | .propertyChange => 22
  | .queueOverflow => 24
  | .hook => 25

def ofId? (id : Int32) : Option EventKind := all.find? fun kind => kind.id = id

def name : EventKind → String
  | .none => "none"
  | .shutdown => "shutdown"
  | .logMessage => "log-message"
  | .getPropertyReply => "get-property-reply"
  | .setPropertyReply => "set-property-reply"
  | .commandReply => "command-reply"
  | .startFile => "start-file"
  | .endFile => "end-file"
  | .fileLoaded => "file-loaded"
  | .clientMessage => "client-message"
  | .videoReconfig => "video-reconfig"
  | .audioReconfig => "audio-reconfig"
  | .seek => "seek"
  | .playbackRestart => "playback-restart"
  | .propertyChange => "property-change"
  | .queueOverflow => "queue-overflow"
  | .hook => "hook"

def ofName? (name : String) : Option EventKind := all.find? fun kind => kind.name = name

end EventKind

structure Event where
  id : Int32
  data : Node
  deriving Repr, Inhabited

namespace Event

def ofKind (kind : EventKind) (data : Node) : Event := ⟨kind.id, data⟩

def kind? (event : Event) : Option EventKind := EventKind.ofId? event.id

def isKind (event : Event) (kind : EventKind) : Bool := event.id = kind.id

/-- The client message that the host sends for a script's key binding. -/
def ofKey (key : QualifiedName) (state : String) : Event :=
  ofKind .clientMessage (.array [.string "key-binding", .string key.encode, .string state])

def shutdown : Event := ofKind .shutdown .none

def isShutdown (event : Event) : Bool := event.isKind .shutdown

end Event
end ScriptBridge
