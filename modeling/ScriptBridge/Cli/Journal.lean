import ScriptBridge.Config.Writing

/-!
# The journal of a run

What a run of the program reports about itself, line by line, and which of the lines go to the log file. A filter is a
list of rules: a level for everything, or for the sources whose names start with a word; the longest such word decides.
-/
namespace ScriptBridge.Cli

inductive Severity where
  | error
  | warn
  | info
  | debug
  | trace
  deriving DecidableEq, Repr

/-- The more severe, the lower the rank. -/
def Severity.rank : Severity → Nat
  | .error => 1
  | .warn => 2
  | .info => 3
  | .debug => 4
  | .trace => 5

def Severity.word : Severity → String
  | .error => "ERROR"
  | .warn => "WARN"
  | .info => "INFO"
  | .debug => "DEBUG"
  | .trace => "TRACE"

structure JournalLine where
  severity : Severity
  /-- The part of the program that reports. -/
  source : String
  text : String
  deriving Repr

def JournalLine.render (line : JournalLine) : String :=
  line.severity.word ++ " " ++ line.source ++ ": " ++ line.text ++ "\n"

/-- One rule of a filter: lines of these sources up to this rank. -/
structure FilterRule where
  source : List Char
  rank : Nat
  deriving DecidableEq, Repr

abbrev LogFilter := List FilterRule

namespace LogFilter

/-- The rank that a word for a level, or its number, stands for. -/
def rank? (word : List Char) : Option Nat :=
  match String.ofList (word.map Char.toLower) with
  | "off" | "0" => some 0
  | "error" | "1" => some 1
  | "warn" | "2" => some 2
  | "info" | "3" => some 3
  | "debug" | "4" => some 4
  | "trace" | "5" => some 5
  | _ => none

/-- The rule that a piece of a filter stands for: a level, a source, or a source with a level. -/
def rule? (piece : List Char) : Option FilterRule :=
  match piece.dropWhile (· ≠ '=') with
  | [] =>
    match rank? piece with
    | some rank => some ⟨[], rank⟩
    | none => some ⟨piece, Severity.trace.rank⟩
  | _ :: word => (rank? word).map fun rank => ⟨piece.takeWhile (· ≠ '='), rank⟩

/-- The pieces of a filter, between commas. -/
def pieces (text : String) : List (List Char) := (text.toList.splitOn ',').filter (!·.isEmpty)

/-- The rules of a filter. Without any, errors alone pass. -/
def orErrors (rules : LogFilter) : LogFilter := if rules.isEmpty then [⟨[], Severity.error.rank⟩] else rules

/-- The filter of a text; pieces that are no rules do not count. -/
def parse (text : String) : LogFilter := orErrors ((pieces text).filterMap rule?)

/-- The filter of a text all of whose pieces are rules. -/
def parse? (text : String) : Option LogFilter := ((pieces text).mapM rule?).map orErrors

/-- The filter in force: the one that the environment gives, or else the configured one. -/
def inForce (environment : Environment) (settings : LoggingSettings) : LogFilter :=
  ((Table.get? "RUST_LOG" environment).bind parse?).getD (parse settings.effectiveFilter)

/-- The rule with the longest source that a name starts with; of equal ones the later. -/
def ruleFor? (filter : LogFilter) (name : String) : Option FilterRule :=
  (filter.filter fun rule => rule.source.isPrefixOf name.toList).foldl (fun best rule =>
    match best with
    | none => some rule
    | some other => some (if other.source.length ≤ rule.source.length then rule else other)) none

def passes (filter : LogFilter) (line : JournalLine) : Bool :=
  (filter.ruleFor? line.source).any fun rule => line.severity.rank ≤ rule.rank

end LogFilter

def logDirectory (directories : AppDirectories) : Path := directories.data.join (.ofString "logs")

def logFile (directories : AppDirectories) : Path := (logDirectory directories).join (.ofString "cli.log")

/-- The size from which on a log file is emptied before it is used. -/
def maxLogSize : Nat := 1048576

def fileSize (files : FileSystem) (path : Path) : Nat :=
  match files.entry? path with
  | some (.file content _) => content.size
  | _ => 0

def truncateLog (files : FileSystem) (path : Path) : Except SystemError FileSystem :=
  if maxLogSize < fileSize files path then files.write path .empty else .ok files

/-- Opens the log file: makes its directory and the file itself. What was done stays when a later step fails. -/
def openLog (files : FileSystem) (directories : AppDirectories) : Except SystemError Unit × FileSystem :=
  match files.makeDirectories (logDirectory directories) with
  | (.error cause, made) => (.error cause, made)
  | (.ok (), made) =>
    match truncateLog made (logFile directories) with
    | .error cause => (.error cause, made)
    | .ok truncated =>
      match truncated.append (logFile directories) .empty with
      | .error cause => (.error cause, truncated)
      | .ok opened => (.ok (), opened)

/-- Adds the lines that pass to the log file. -/
def writeLog (files : FileSystem) (path : Path) (filter : LogFilter) (lines : List JournalLine) : FileSystem :=
  let text := String.join ((lines.filter filter.passes).map JournalLine.render)
  match files.append path text.toUTF8 with
  | .ok after => after
  | .error _ => files

end ScriptBridge.Cli
