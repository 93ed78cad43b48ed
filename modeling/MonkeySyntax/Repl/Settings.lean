/-!
Contract: the settings of a session and the commands that change them.

Owns:
- the modes, and which of them a session can start in;
- the commands, and the notice that answers each.

Does not own: what is done with other lines.
-/

set_option autoImplicit false

namespace MonkeySyntax

namespace Repl

/-- What a session does with a line. -/
inductive Mode where
  | parse
  | tokens
  /-- A mode of another name, under which lines are parsed too. -/
  | other (name : String)
deriving DecidableEq, Repr

namespace Mode

/-- The mode of a name. -/
def ofName (name : String) : Mode :=
  if name = "parse" then .parse else if name = "tokens" then .tokens else .other name

/-- The name of a mode. -/
def name : Mode → String
  | .parse => "parse"
  | .tokens => "tokens"
  | .other name => name

end Mode

/-- The settings of a session: its mode, and whether trees are shown too. -/
structure Settings where
  mode : Mode
  verbose : Bool
deriving DecidableEq, Repr

namespace Settings

/-- The settings of a session that was asked for nothing in particular. -/
def standard : Settings := ⟨.parse, false⟩

/-- The notice that tells the mode. -/
def modeNotice (settings : Settings) : String :=
  "[mode] >>> " ++ settings.mode.name ++ "\n"

/-- The notice that tells whether trees are shown. -/
def verboseNotice (settings : Settings) : String :=
  "[mode] >>> Verbose mode " ++ (if settings.verbose then "ON" else "OFF") ++ "\n"

/-- Whether a line switches the showing of trees, in letters of either case. -/
def togglesVerbose (line : String) : Bool :=
  line.toList.map Char.toLower == "verbose-mode".toList

/-- The settings after a command, and the notice that answers it; none for a line
that is no command. -/
def command? (settings : Settings) (line : String) : Option (Settings × String) :=
  if line = ":tokens" then
    let changed := { settings with mode := .tokens }
    some (changed, changed.modeNotice)
  else if line = ":parse" then
    let changed := { settings with mode := .parse }
    some (changed, changed.modeNotice)
  else if togglesVerbose line then
    let changed := { settings with verbose := !settings.verbose }
    some (changed, changed.verboseNotice)
  else none

end Settings

end Repl

end MonkeySyntax
