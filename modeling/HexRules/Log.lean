import HexRules.Log.Format
import HexRules.Settings
import HexRules.Table

/-!
# Logging

Loggers have dotted names and form a tree below the root. A logger has a level, which counts if
it is not zero, and handlers, which write to the console or to a file. A record goes to the
handlers of its logger and of all loggers above, if it is at least as urgent as the nearest level
that counts. A record of a warning or worse that finds no handler at all goes to the console
bare.

Setting up a logger again changes its level, but adds no second handler for the console or for a
file that has one; the handlers that are there keep their formats. Files are told apart by their
absolute paths: a name that does not begin with a slash is taken from the working directory, and
detours in it are cut short.

A handler for a file makes the directories on the way to it, and opens the file. That fails if there
is a file where a directory is needed, or a directory in place of the file, or if the name has a
zero character in it; the handler for the console is attached by then. A file is read back by any
path whose parts exist one by one, and with one kind of line end.

Results:
* `handlers_prefix_attach`: attaching a handler removes and reorders none.
* `nodup_attach`: a logger that has one handler for each target keeps it so.
-/

namespace HexRules.Log

/-- A path from the root. A root that is spelled with two slashes is not taken for the usual one,
    though the same files are below it. -/
structure AbsolutePath where
  twoSlashes : Bool
  parts : List String
  deriving DecidableEq, Repr

/-- Where records are written. -/
inductive Target
  | console
  | file (path : AbsolutePath)
  deriving DecidableEq, Repr

/-- A place where records are written, in a format. -/
structure Handler where
  target : Target
  format : Format
  deriving DecidableEq, Repr

/-- A node in the tree of loggers. -/
structure Logger where
  level : Level
  handlers : List Handler
  deriving DecidableEq, Repr

namespace Logger

/-- A logger that was not set up. -/
def fresh : Logger := ⟨.notset, []⟩

/-- Adds a handler, unless there is one with its target. -/
def attach (logger : Logger) (handler : Handler) : Logger :=
  if logger.handlers.any (·.target = handler.target) then logger
  else { logger with handlers := logger.handlers ++ [handler] }

theorem handlers_prefix_attach (logger : Logger) (handler : Handler) :
    logger.handlers <+: (logger.attach handler).handlers := by
  unfold attach
  split
  · exact List.prefix_refl _
  · exact List.prefix_append _ _

theorem nodup_attach {logger : Logger} (handler : Handler)
    (h : (logger.handlers.map Handler.target).Nodup) :
    ((logger.attach handler).handlers.map Handler.target).Nodup := by
  unfold attach
  split
  · exact h
  · rename_i hnew
    rw [List.map_append]
    refine List.nodup_append.2 ⟨h, by simp, fun t ht t' ht' heq => hnew ?_⟩
    obtain ⟨old, hold, rfl⟩ := List.mem_map.1 ht
    rw [List.map_singleton, List.mem_singleton] at ht'
    exact List.any_eq_true.2 ⟨old, hold, by simp [heq, ht']⟩

end Logger

/-- All loggers, and what was written so far. -/
structure State where
  /-- The loggers by name; the root has the empty name. -/
  loggers : Table String Logger
  console : String
  /-- The names of the directories from the root to the one where names of files begin. -/
  workingDirectory : List String
  /-- The contents of the files, by the parts of their paths from the root. -/
  files : Table (List String) String
  /-- The directories there are beside the working directory and those around it. -/
  directories : List (List String)

namespace State

/-- No logger but the root, and nothing written. -/
def start (workingDirectory : List String) : State :=
  ⟨Table.ofList [("", ⟨.warning, []⟩)], "", workingDirectory, .empty, []⟩

/-- The name under which the root writes. -/
def rootName : String := "root"

/-- The key of a logger: the root has two names. -/
def keyOf (name : String) : String := if name = rootName then "" else name

/-- The name under which a logger writes. -/
def shownName (name : String) : String := if keyOf name = "" then rootName else name

/-- A logger, which springs up when it is named. -/
def logger (log : State) (name : String) : Logger := (log.loggers.get? (keyOf name)).getD .fresh

end State

/-! ## The tree of loggers -/

/-- What stands before the last dot of a name, both reversed; nothing without dot. -/
def beforeDot (cs : List Char) : List Char := (cs.dropWhile (· != '.')).drop 1

theorem length_beforeDot_lt {cs : List Char} (h : beforeDot cs ≠ []) :
    (beforeDot cs).length < cs.length := by
  have hle : (cs.dropWhile (· != '.')).length ≤ cs.length := (List.dropWhile_sublist _).length_le
  have hpos := List.length_pos_iff.2 h
  unfold beforeDot at hpos ⊢
  rw [List.length_drop] at hpos ⊢
  omega

/-- The names above a name that count, nearest first; all reversed. Above a name stands what comes
    before its last dot. If that does not count, the search for a dot goes on before its last
    character. What counts may depend on the name `below`, for which the search is made. -/
def above (counts : List Char → List Char → Bool) (below cs : List Char) : List (List Char) :=
  if h : beforeDot cs = [] then []
  else
    have := length_beforeDot_lt h
    if counts below (beforeDot cs) then
      beforeDot cs :: above counts (beforeDot cs) (beforeDot cs)
    else above counts below ((beforeDot cs).drop 1)
  termination_by cs.length
  decreasing_by
    · exact this
    · rw [List.length_drop]
      omega

namespace State

/-- Whether a logger came up before another one. -/
def isOlder (log : State) (name other : String) : Bool :=
  log.loggers.keys.idxOf name < log.loggers.keys.idxOf other

/-- Whether a known logger counts as being above another one. One whose name is the beginning of
    the root's shown name counts only for younger ones: the older ones stay below the root. -/
def isAbove (log : State) (below name : String) : Bool :=
  log.loggers.contains name &&
    (!name.toList.isPrefixOf rootName.toList || log.isOlder name below)

/-- The loggers that a record of a logger passes: itself, those above it, and the root. -/
def chain (log : State) (name : String) : List Logger :=
  if keyOf name = "" then [log.logger ""]
  else
    let text := fun cs : List Char => String.ofList cs.reverse
    let names := above (fun below cs => log.isAbove (text below) (text cs)) name.toList.reverse
      name.toList.reverse
    (name :: names.map text ++ [""]).map log.logger

/-- The level of a logger that counts: the nearest that is not zero. -/
def effectiveLevel (log : State) (name : String) : Level :=
  (((log.chain name).map Logger.level).find? (· ≠ .notset)).getD .notset

/-! ## Writing -/

/-- Writes a record to a handler. -/
def write (log : State) (handler : Handler) (r : Record) : State :=
  let line := handler.format.line r
  match handler.target with
  | .console => { log with console := log.console ++ line }
  | .file path =>
    { log with
      files := log.files.insert path.parts ((log.files.get? path.parts).getD "" ++ line) }

/-- The handlers that a record of a logger passes. -/
def handlersFor (log : State) (name : String) : List Handler :=
  (log.chain name).flatMap Logger.handlers

/-- Names a logger. -/
def touch (log : State) (name : String) : State :=
  { log with loggers := log.loggers.insert (keyOf name) (log.logger name) }

/-- Logs a text. -/
def emit (log : State) (name : String) (level : Level) (text : String) : State :=
  let log := log.touch name
  let r : Record := ⟨shownName name, level, text⟩
  if level.value ≤ 0 ∨ level.value < (log.effectiveLevel name).value then log
  else
    match log.handlersFor name with
    | [] => if level.value < Level.warning.value then log else log.write ⟨.console, .plain⟩ r
    | handlers => handlers.foldl (fun log handler => log.write handler r) log

end State

/-! ## Setting up -/

/-- A level as it is asked for. -/
inductive LevelChoice
  | number (n : Int)
  | word (w : String)
  deriving DecidableEq, Repr

/-- How a logger is to be set up. -/
structure Setup where
  name : String
  level : LevelChoice
  console : Bool
  file : Option String
  template : String

/-- Why a setup is refused. -/
inductive SetupError
  /-- A level without meaning, in upper case. -/
  | unknownLevel (word : String)
  /-- A format without fields. -/
  | invalidFormat (template : String)
  /-- A file name with a zero character in it. -/
  | zeroInName
  /-- A path where there is a file in place of a directory, or a directory in place of a file. -/
  | obstructed (path : List String)
  deriving DecidableEq, Repr

/-- The complaint about a setup. -/
def SetupError.message : SetupError → String
  | .unknownLevel word =>
    String.join ["Unknown level: ", Text.quote (String.join ["Level ", word])]
  | .invalidFormat template =>
    String.join ["Invalid format \x27", template, "\x27 for \x27%\x27 style"]
  | .zeroInName => "embedded null byte"
  | .obstructed path => String.join ["Cannot be opened: /", String.intercalate "/" path]

/-- The level that is asked for. -/
def LevelChoice.level : LevelChoice → Except SetupError Level
  | .number n => .ok ⟨n⟩
  | .word w =>
    match Level.ofName? (Text.upper w) with
    | some level => .ok level
    | none => .error (.unknownLevel (Text.upper w))

/-- Adds a part to a path from the root, and goes up for two dots; above the root is the root. -/
def addPart (path : List String) (part : String) : List String :=
  if part = "" ∨ part = "." then path
  else if part = ".." then path.dropLast
  else path ++ [part]

/-- The parts of a file name, as they are given. -/
def partsOf (file : String) : List String := file.splitToList (· == '/')

/-- The number of slashes that a file name begins with. -/
def slashes (file : String) : Nat := (file.toList.takeWhile (· == '/')).length

/-- The directory where a file name begins: the root after a slash, else the working directory. -/
def origin (workingDirectory : List String) (file : String) : List String :=
  if slashes file = 0 then workingDirectory else []

/-- The absolute path of a file, without detours. Only exactly two slashes in front are kept. -/
def absolute (workingDirectory : List String) (file : String) : AbsolutePath where
  twoSlashes := slashes file = 2
  parts := (partsOf file).foldl addPart (origin workingDirectory file)

/-- The parts of a file name that lead somewhere. -/
def wayOf (file : String) : List String :=
  (partsOf file).filter fun part => part ≠ "" ∧ part ≠ "."

/-- Whether there is a zero character in a part of a file name. -/
def hasZero (part : String) : Bool := part.toList.contains '\x00'

/-- The directories that the parts of a file name lead through, from a path on. -/
def passed (path : List String) : List String → List (List String)
  | part :: next :: rest =>
    addPart path part :: passed (addPart path part) (next :: rest)
  | _ => []

/-- The text with one line feed for every line end: a line feed, a carriage return, or both. -/
def unifyLineEnds : List Char → List Char
  | '\r' :: '\n' :: cs => '\n' :: unifyLineEnds cs
  | '\r' :: cs => '\n' :: unifyLineEnds cs
  | c :: cs => c :: unifyLineEnds cs
  | [] => []

namespace State

/-- Attaches a handler to a logger; a file that is written to for the first time begins empty. -/
def attach (log : State) (name : String) (format : Format) (target : Target) : State :=
  let files :=
    match target with
    | .file path => log.files.insert path.parts ((log.files.get? path.parts).getD "")
    | .console => log.files
  { log with
    loggers := log.loggers.insert (keyOf name) ((log.logger name).attach ⟨target, format⟩)
    files := files }

/-- Whether there is a directory at a path from the root. -/
def isDirectory (log : State) (path : List String) : Bool :=
  path.isPrefixOf log.workingDirectory || log.directories.contains path

/-- Makes the directories at some paths, up to one where there is a file. -/
def makeDirectories (log : State) : List (List String) → Except SetupError Unit × State
  | [] => (.ok (), log)
  | path :: rest =>
    if log.files.contains path then (.error (.obstructed path), log)
    else makeDirectories { log with directories := log.directories ++ [path] } rest

/-- Makes the way to a file, and sees whether the file can be opened. The names of all directories
    are looked at before the first one is made. -/
def reach (log : State) (file : String) : Except SetupError Unit × State :=
  if (wayOf file).dropLast.any hasZero then (.error .zeroInName, log)
  else
    match log.makeDirectories (passed (origin log.workingDirectory file) (wayOf file)) with
    | (.error e, made) => (.error e, made)
    | (.ok (), made) =>
      if (wayOf file).getLast?.any hasZero then (.error .zeroInName, made)
      else if made.isDirectory (absolute log.workingDirectory file).parts then
        (.error (.obstructed (absolute log.workingDirectory file).parts), made)
      else (.ok (), made)

/-- Attaches a handler for a file to a logger, unless there is one. -/
def attachFile (log : State) (name : String) (format : Format) (file : String) :
    Except SetupError Unit × State :=
  if (log.logger name).handlers.any (·.target = .file (absolute log.workingDirectory file)) then
    (.ok (), log)
  else
    match log.reach file with
    | (.error e, made) => (.error e, made)
    | (.ok (), made) =>
      (.ok (), made.attach name format (.file (absolute log.workingDirectory file)))

/-- Sets the level of a logger. -/
def setLevel (log : State) (name : String) (level : Level) : State :=
  { log with loggers := log.loggers.insert (keyOf name) { log.logger name with level := level } }

/-- Sets up a logger. The level is set before the format is looked at, and the console has its
    handler before the file is opened. -/
def setup (log : State) (s : Setup) : Except SetupError Unit × State :=
  match s.level.level with
  | .error e => (.error e, log.touch s.name)
  | .ok level =>
    let log := log.setLevel s.name level
    match Format.ofTemplate? s.template with
    | none => (.error (.invalidFormat s.template), log)
    | some format =>
      let log := if s.console then log.attach s.name format .console else log
      match s.file with
      | none => (.ok (), log)
      | some file => log.attachFile s.name format file

/-- Where the parts of a file name lead, from a path on; all but the last must lead to
    directories. -/
def locate? (log : State) (path : List String) : List String → Option (List String)
  | [] => some path
  | [part] => some (addPart path part)
  | part :: rest =>
    if log.isDirectory (addPart path part) then log.locate? (addPart path part) rest else none

/-- The content of a file, if it exists. -/
def read? (log : State) (file : String) : Option String :=
  (log.locate? (origin log.workingDirectory file) (partsOf file)).bind fun path =>
    (log.files.get? path).map fun content => String.ofList (unifyLineEnds content.toList)

end State

/-- The name of a logger of this library: names outside its tree are put below it. -/
def libraryName (name : String) : String :=
  if name = "hexorder" ∨ "hexorder.".toList.isPrefixOf name.toList then name
  else String.join ["hexorder.", name]

end HexRules.Log
