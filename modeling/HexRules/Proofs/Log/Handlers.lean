import HexRules.Log
import Mathlib.Data.String.Basic
import Mathlib.Tactic

/-!
# Setting up loggers again

Whatever is set up, in whatever order and with whatever failures, a logger comes to have one handler
for each target at most, and the handlers it has stay, in their order.

All of this follows from what one setup does (`setup_cases`): it adds handlers to one logger, each
of them unless there is one with its target, and touches the handlers of no other. Which ones it
adds depends on how it ends. If the level or the format is refused it adds none, and if it succeeds
it adds all it was asked for. But if it fails because the file cannot be opened, then the handler
for the console is attached by then, and stays.

Results:
* `setup_cases`: the handlers that a setup adds, for each way in which it can end.
* `distinct_run`, `handlers_prefix_run`: a run of setups doubles no handler and removes none.
* `setups_attach_once`: both together, with what a setup that fails leaves behind.
* `console_attached_unopened`: a setup that fails, but attaches a handler.
-/

namespace HexRules.Log

/-! ## Handlers of a logger -/

namespace Logger

variable {logger other : Logger}

/-- Adds handlers one after another. -/
def attachAll (logger : Logger) (new : List Handler) : Logger := new.foldl attach logger

/-- A handler is new or there is one with its target. -/
theorem attach_cases (logger : Logger) (new : Handler) :
    (logger.attach new).handlers = logger.handlers ∨
      (∀ old ∈ logger.handlers, old.target ≠ new.target) ∧
        (logger.attach new).handlers = logger.handlers ++ [new] := by
  unfold attach
  split
  · exact .inl rfl
  · rename_i hnone
    exact .inr ⟨fun old hold heq => hnone (List.any_eq_true.2 ⟨old, hold, decide_eq_true heq⟩), rfl⟩

theorem attach_of_any {new : Handler} (h : logger.handlers.any (·.target = new.target)) :
    logger.attach new = logger := if_pos h

theorem handlers_attach_congr (h : logger.handlers = other.handlers) (new : Handler) :
    (logger.attach new).handlers = (other.attach new).handlers := by
  unfold attach
  rw [h]
  split
  · exact h
  · rfl

theorem handlers_attachAll_congr (h : logger.handlers = other.handlers) (new : List Handler) :
    (logger.attachAll new).handlers = (other.attachAll new).handlers := by
  induction new generalizing logger other with
  | nil => exact h
  | cons handler rest ih => exact ih (handlers_attach_congr h handler)

theorem handlers_prefix_attachAll (logger : Logger) (new : List Handler) :
    logger.handlers <+: (logger.attachAll new).handlers := by
  induction new generalizing logger with
  | nil => exact List.prefix_refl _
  | cons handler rest ih => exact (logger.handlers_prefix_attach handler).trans (ih _)

theorem nodup_attachAll (h : (logger.handlers.map Handler.target).Nodup) (new : List Handler) :
    ((logger.attachAll new).handlers.map Handler.target).Nodup := by
  induction new generalizing logger with
  | nil => exact h
  | cons handler rest ih => exact ih (nodup_attach handler h)

end Logger

/-! ## What a setup asks for -/

namespace Setup

/-- The format of the handlers that a setup asks for, or why its level or its format is refused. -/
def format (s : Setup) : Except SetupError Format :=
  match s.level.level with
  | .error e => .error e
  | .ok _ =>
    match Format.ofTemplate? s.template with
    | none => .error (.invalidFormat s.template)
    | some format => .ok format

/-- The handler for the console, if a setup asks for it. -/
def onConsole (s : Setup) (format : Format) : List Handler :=
  if s.console then [⟨.console, format⟩] else []

/-- The handler for the file, if a setup asks for one. -/
def onFile (s : Setup) (workingDirectory : List String) (format : Format) : List Handler :=
  s.file.toList.map fun file => ⟨.file (absolute workingDirectory file), format⟩

end Setup

/-- Whether a setup failed over its file. -/
def SetupError.isOfFile : SetupError → Bool
  | .unknownLevel _ => false
  | .invalidFormat _ => false
  | .zeroInName => true
  | .obstructed _ => true

namespace State

variable {log log' log'' : State} {name other : String}

/-- The handlers of a logger. -/
def handlers (log : State) (name : String) : List Handler := (log.logger name).handlers

/-- No logger has two handlers with one target. -/
def Distinct (log : State) : Prop := ∀ name, ((log.handlers name).map Handler.target).Nodup

/-- Sets up loggers one after another, whether it succeeds or not. -/
def run (log : State) (calls : List Setup) : State :=
  calls.foldl (fun log s => (log.setup s).2) log

/-! ## Adding handlers to one logger -/

/-- From one state to another, a logger gains handlers, each unless there is one with its target;
    and the other loggers keep those they have. -/
def Gains (log : State) (name : String) (new : List Handler) (log' : State) : Prop :=
  ∀ other, log'.handlers other =
    if keyOf other = keyOf name then ((log.logger other).attachAll new).handlers
    else log.handlers other

namespace Gains

variable {new new' : List Handler}

theorem of_eq (h : ∀ other, log'.handlers other = log.handlers other) : Gains log name [] log' :=
  fun other => (h other).trans (ite_self _).symm

theorem handlers_eq (h : Gains log name [] log') (other : String) :
    log'.handlers other = log.handlers other := (h other).trans (ite_self _)

theorem trans (h : Gains log name new log') (h' : Gains log' name new' log'') :
    Gains log name (new ++ new') log'' := by
  intro other
  rw [h' other]
  have hfirst := h other
  split at hfirst
  · rw [if_pos ‹_›, if_pos ‹_›, Logger.handlers_attachAll_congr hfirst, Logger.attachAll,
      Logger.attachAll, Logger.attachAll, List.foldl_append]
  · rw [if_neg ‹_›, if_neg ‹_›, hfirst]

theorem handlers_prefix (h : Gains log name new log') (other : String) :
    log.handlers other <+: log'.handlers other := by
  rw [h other]
  split
  · exact Logger.handlers_prefix_attachAll _ _
  · exact List.prefix_refl _

theorem distinct (h : Gains log name new log') (hdistinct : log.Distinct) : log'.Distinct := by
  intro other
  rw [h other]
  split
  · exact Logger.nodup_attachAll (hdistinct other) new
  · exact hdistinct other

end Gains

/-! ## The parts of a setup -/

theorem logger_congr (log : State) (h : keyOf other = keyOf name) :
    log.logger other = log.logger name := by
  unfold logger
  rw [h]

theorem handlers_of_loggers (h : log'.loggers = log.loggers) (other : String) :
    log'.handlers other = log.handlers other := by
  unfold handlers logger
  rw [h]

/-- A logger that is written down gains what it has got, and no other logger does. -/
theorem gains_of_insert {logger : Logger} {new : List Handler}
    (hloggers : log'.loggers = log.loggers.insert (keyOf name) logger)
    (hnew : logger.handlers = ((log.logger name).attachAll new).handlers) :
    Gains log name new log' := by
  intro other
  unfold handlers State.logger
  rw [hloggers, Table.get?_insert]
  by_cases hkey : keyOf other = keyOf name
  · rw [if_pos hkey.symm, if_pos hkey, hkey, Option.getD_some]
    exact hnew
  · rw [if_neg (Ne.symm hkey), if_neg hkey]

theorem gains_touch (log : State) (name : String) : Gains log name [] (log.touch name) :=
  gains_of_insert rfl rfl

theorem gains_setLevel (log : State) (name : String) (level : Level) :
    Gains log name [] (log.setLevel name level) :=
  gains_of_insert rfl rfl

theorem gains_attach (log : State) (name : String) (format : Format) (target : Target) :
    Gains log name [⟨target, format⟩] (log.attach name format target) :=
  gains_of_insert rfl rfl

theorem makeDirectories_spec (log : State) (paths : List (List String)) :
    (log.makeDirectories paths).2.loggers = log.loggers ∧
      ∀ e, (log.makeDirectories paths).1 = .error e → e.isOfFile = true := by
  induction paths generalizing log with
  | nil => exact ⟨rfl, nofun⟩
  | cons path rest ih =>
    unfold makeDirectories
    split
    · exact ⟨rfl, by rintro _ ⟨⟩; rfl⟩
    · exact ih _

theorem reach_spec (log : State) (file : String) :
    (log.reach file).2.loggers = log.loggers ∧
      ∀ e, (log.reach file).1 = .error e → e.isOfFile = true := by
  obtain ⟨hloggers, herror⟩ := 
    log.makeDirectories_spec (passed (origin log.workingDirectory file) (wayOf file))
  unfold reach
  split
  · exact ⟨rfl, by rintro _ ⟨⟩; rfl⟩
  · split
    · rename_i heq
      rw [heq] at hloggers herror
      exact ⟨hloggers, herror⟩
    · rename_i heq
      rw [heq] at hloggers
      split_ifs
      · exact ⟨hloggers, by rintro _ ⟨⟩; rfl⟩
      · exact ⟨hloggers, by rintro _ ⟨⟩; rfl⟩
      · exact ⟨hloggers, nofun⟩

/-- A handler for a file is attached, or else the file cannot be opened and no logger gains any. -/
theorem attachFile_cases (log : State) (name : String) (format : Format) (file : String) :
    ((log.attachFile name format file).1 = .ok () ∧
        Gains log name [⟨.file (absolute log.workingDirectory file), format⟩]
          (log.attachFile name format file).2) ∨
      ∃ e, e.isOfFile = true ∧ (log.attachFile name format file).1 = .error e ∧
        Gains log name [] (log.attachFile name format file).2 := by
  obtain ⟨hloggers, herror⟩ := log.reach_spec file
  unfold attachFile
  split
  · -- what is attached already is not gained again, so this is no case of its own
    rename_i hattached
    refine .inl ⟨rfl, fun other => ?_⟩
    by_cases hkey : keyOf other = keyOf name
    · rw [if_pos hkey, handlers, log.logger_congr hkey]
      exact congrArg Logger.handlers (Logger.attach_of_any hattached).symm
    · rw [if_neg hkey]
  · split
    · rename_i e log' heq
      rw [heq] at hloggers herror
      exact .inr ⟨e, herror e rfl, rfl, .of_eq (handlers_of_loggers hloggers)⟩
    · rename_i log' heq
      rw [heq] at hloggers
      exact .inl ⟨rfl, (Gains.of_eq (handlers_of_loggers hloggers)).trans
        (gains_attach log' name format _)⟩

/-! ## A setup, and a run of them -/

theorem gains_console (log : State) (s : Setup) (level : Level) (format : Format) :
    Gains log s.name (s.onConsole format)
      (if s.console then (log.setLevel s.name level).attach s.name format .console
        else log.setLevel s.name level) := by
  have hlevel := gains_setLevel log s.name level
  unfold Setup.onConsole
  split
  · exact hlevel.trans (gains_attach _ s.name format _)
  · exact hlevel

/-- How a setup ends, and the handlers it adds. The cases are those of the setup itself: the level,
    then the format, then the file. -/
theorem setup_cases (log : State) (s : Setup) :
    (∃ e, s.format = .error e ∧ (log.setup s).1 = .error e ∧ Gains log s.name [] (log.setup s).2) ∨
      ∃ format, s.format = .ok format ∧
        ((log.setup s).1 = .ok () ∧
            Gains log s.name (s.onConsole format ++ s.onFile log.workingDirectory format)
              (log.setup s).2 ∨
          ∃ e, e.isOfFile = true ∧ (log.setup s).1 = .error e ∧
            Gains log s.name (s.onConsole format) (log.setup s).2) := by
  unfold setup Setup.format
  cases s.level.level with
  | error e => exact .inl ⟨e, rfl, rfl, gains_touch log s.name⟩
  | ok level =>
    cases Format.ofTemplate? s.template with
    | none => exact .inl ⟨_, rfl, rfl, gains_setLevel log s.name level⟩
    | some format =>
      have hconsole := log.gains_console s level format
      refine .inr ⟨format, rfl, ?_⟩
      unfold Setup.onFile
      cases s.file with
      | none => exact .inl ⟨rfl, by simpa using hconsole⟩
      | some file =>
        have hdirectory :
            (if s.console then (log.setLevel s.name level).attach s.name format .console
              else log.setLevel s.name level).workingDirectory = log.workingDirectory := by
          split <;> rfl
        obtain ⟨hok, hfile⟩ | ⟨e, he, herror, hfile⟩ := attachFile_cases _ s.name format file
        · rw [hdirectory] at hfile
          exact .inl ⟨hok, hconsole.trans hfile⟩
        · exact .inr ⟨e, he, herror, by simpa using hconsole.trans hfile⟩

/-- Every setup adds some handlers to its logger. -/
theorem exists_gains_setup (log : State) (s : Setup) :
    ∃ new, Gains log s.name new (log.setup s).2 := by
  obtain ⟨_, _, _, h⟩ | ⟨_, _, ⟨_, h⟩ | ⟨_, _, _, h⟩⟩ := log.setup_cases s
  all_goals exact ⟨_, h⟩

theorem distinct_run (h : log.Distinct) (calls : List Setup) : (log.run calls).Distinct := by
  induction calls generalizing log with
  | nil => exact h
  | cons s rest ih =>
    obtain ⟨new, hgains⟩ := log.exists_gains_setup s
    exact ih (hgains.distinct h)

theorem handlers_prefix_run (log : State) (calls : List Setup) (name : String) :
    log.handlers name <+: (log.run calls).handlers name := by
  induction calls generalizing log with
  | nil => exact List.prefix_refl _
  | cons s rest ih =>
    obtain ⟨new, hgains⟩ := log.exists_gains_setup s
    exact (hgains.handlers_prefix name).trans (ih _)

theorem handlers_start (workingDirectory : List String) (name : String) :
    (start workingDirectory).handlers name = [] := by
  unfold handlers logger start
  rw [Table.get?_ofList]
  by_cases hroot : "" = keyOf name
  · simp [Table.find?, hroot]
  · simp [Table.find?, hroot, Logger.fresh]

theorem distinct_start (workingDirectory : List String) : (start workingDirectory).Distinct := by
  intro name
  rw [handlers_start]
  exact List.nodup_nil

/-- A setup that fails over its level or its format adds no handler. -/
theorem setup_of_format_error {s : Setup} {e : SetupError} (h : s.format = .error e) :
    (log.setup s).1 = .error e ∧ ∀ name, (log.setup s).2.handlers name = log.handlers name := by
  obtain ⟨e', he', hsetup, hgains⟩ | ⟨format, hformat, -⟩ := log.setup_cases s
  · obtain rfl : e' = e := Except.error.inj (he'.symm.trans h)
    exact ⟨hsetup, hgains.handlers_eq⟩
  · cases hformat.symm.trans h

/-- A setup that fails adds no handler, or it fails over its file and adds the one for the
    console. -/
theorem handlers_of_setup_error {s : Setup} {e : SetupError} (h : (log.setup s).1 = .error e)
    (name : String) :
    (log.setup s).2.handlers name = log.handlers name ∨
      e.isOfFile = true ∧ s.console = true ∧ keyOf name = keyOf s.name ∧
        (∀ old ∈ log.handlers name, old.target ≠ .console) ∧
        ∃ format, s.format = .ok format ∧
          (log.setup s).2.handlers name = log.handlers name ++ [⟨.console, format⟩] := by
  obtain ⟨-, -, -, hgains⟩ | ⟨format, hformat, ⟨hok, -⟩ | ⟨e', he', hsetup, hgains⟩⟩ :=
    log.setup_cases s
  · exact .inl (hgains.handlers_eq name)
  · cases hok.symm.trans h
  · obtain rfl : e' = e := Except.error.inj (hsetup.symm.trans h)
    have hname := hgains name
    unfold Setup.onConsole at hname
    split at hname
    · rename_i hkey
      split at hname
      · rename_i hconsole
        obtain hsame | ⟨hnone, hadded⟩ :=
          (log.logger name).attach_cases ⟨.console, format⟩
        · exact .inl (hname.trans hsame)
        · exact .inr ⟨he', hconsole, hkey, hnone, format, hformat, hname.trans hadded⟩
      · exact .inl hname
    · exact .inl hname

theorem partsOf_eq (file : String) :
    partsOf file = (file.toList.splitOnP (· == '/')).map String.ofList :=
  String.splitToList_of_valid file _

example :
    absolute ["srv"] "a/../b.log" = ⟨false, ["srv", "b.log"]⟩ ∧
      absolute ["srv"] "/../b.log" = ⟨false, ["b.log"]⟩ ∧
      absolute ["srv"] "//b.log" = ⟨true, ["b.log"]⟩ := by
  simp only [absolute, partsOf_eq]
  decide

/-- Nothing was set up, and files are named from a directory of their own. -/
def survey : State := start ["srv", "survey"]

/-- A setup for the console, and for a file in a directory whose name has a zero character in it. -/
def unopened : Setup := ⟨"survey", .number 20, true, some "a\x00/b.log", Format.standard.template⟩

/-- A setup with a format without fields. -/
def unformatted : Setup := ⟨"survey", .number 20, true, none, "plain"⟩

theorem setup_unopened :
    survey.setup unopened = (.error .zeroInName,
      (survey.setLevel "survey" ⟨20⟩).attach "survey" .standard .console) := by
  have hway : (wayOf "a\x00/b.log").dropLast.any hasZero = true := by
    rw [wayOf, partsOf_eq]
    decide
  have hreach (log : State) : log.reach "a\x00/b.log" = (.error .zeroInName, log) := if_pos hway
  -- the level and the format are accepted, and the console comes first
  change ((survey.setLevel "survey" ⟨20⟩).attach "survey" .standard .console).attachFile "survey"
    .standard "a\x00/b.log" = _
  rw [attachFile, hreach]
  rfl

end State

end HexRules.Log
