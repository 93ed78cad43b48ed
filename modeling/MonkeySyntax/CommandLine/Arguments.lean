import MonkeySyntax.CommandLine.Options
import MonkeySyntax.Text.Numeral
import MonkeySyntax.Text.Quoted

/-!
Contract: how the arguments of the command are read.

Owns:
- the sorting of arguments into options, plain arguments and the separator;
- the reading of sorted arguments from left to right, to a request;
- the faults of arguments, with their messages.

Does not own: what a request leads to.

All arguments are sorted before the first one is read, so a fault of sorting
wins over all others.
-/

set_option autoImplicit false

namespace MonkeySyntax

namespace CommandLine

/-- What is wrong with the arguments. -/
inductive UsageFault where
  /-- An abbreviation fits several names. -/
  | ambiguous (argument : String) (candidates : List String)
  /-- An option is given a value. -/
  | unwantedValue (flag : Flag) (value : String)
  /-- Arguments are left over. -/
  | unrecognized (arguments : List String)
deriving DecidableEq, Repr

/-- The message of a fault. -/
def UsageFault.message : UsageFault → String
  | .ambiguous argument candidates =>
      "ambiguous option: " ++ argument ++ " could match " ++ ", ".intercalate candidates
  | .unwantedValue flag value =>
      "argument " ++ flag.label ++ ": ignored explicit argument " ++ Quoted.quote value
  | .unrecognized arguments => "unrecognized arguments: " ++ " ".intercalate arguments

/-! ### Sorting -/

/-- An argument as it is understood. -/
inductive Word where
  /-- The first double dash. -/
  | separator
  | plain (text : String)
  /-- An option with the text that is attached to its name. Behind a short name
  this may be more short names. -/
  | option (flag : Flag) (short : Bool) (attached : Option (List Char))
  /-- An argument that looks like an option and is none. -/
  | unknown (text : String)
deriving DecidableEq, Repr

/-- A text before its first equals sign, and the text behind that sign. -/
def splitValue (text : List Char) : List Char × Option (List Char) :=
  match text.dropWhile (· != '=') with
  | [] => (text, none)
  | _ :: value => (text.takeWhile (· != '='), some value)

/-- Whether a text is a run of decimal digits, of any script. -/
def areDigits (text : List Char) : Bool :=
  text.all fun char => (Numeral.digitValue? char).isSome

/-- Whether an argument looks like a negative number: a dash, digits, and
possibly a point with digits behind it. One newline at the end does not count. -/
def looksNegative (text : List Char) : Bool :=
  match text with
  | '-' :: number =>
      let number := if number.getLast? = some '\n' then number.dropLast else number
      let whole := number.takeWhile (· != '.')
      match number.dropWhile (· != '.') with
      | [] => !whole.isEmpty && areDigits whole
      | _ :: fraction => areDigits whole && !fraction.isEmpty && areDigits fraction
  | _ => false

/-- The names that an argument may stand for when it is no name itself: long names
that it abbreviates, or the short name that it starts with. -/
def candidates (text : List Char) : List (String × Word) :=
  match text with
  | '-' :: '-' :: _ =>
      let (stem, value) := splitValue text
      (Flag.table.filter fun (name, _) => stem.isPrefixOf name.toList).map
        fun (name, flag) => (name, .option flag false value)
  | '-' :: letter :: attached =>
      (Flag.table.filter fun (name, _) => name.toList == ['-', letter]).map
        fun (name, flag) => (name, .option flag true (some attached))
  | _ => []

/-- Whether a name is short, which is a dash and a letter. -/
def isShort (name : List Char) : Bool := name.length == 2

/-- Sorts an argument that stands before the separator. -/
def sortOne (argument : String) : Except UsageFault Word :=
  let text := argument.toList
  if text.head? ≠ some '-' then .ok (.plain argument)
  else
    match Flag.ofName? argument with
    | some flag => .ok (.option flag (isShort text) none)
    | none =>
        if text = ['-'] then .ok (.plain argument)
        else
          let (stem, value) := splitValue text
          match value, Flag.ofName? (String.ofList stem) with
          | some value, some flag => .ok (.option flag (isShort stem) (some value))
          | _, _ =>
              match candidates text with
              | [(_, word)] => .ok word
              | [] =>
                  if looksNegative text || text.contains ' ' then .ok (.plain argument)
                  else .ok (.unknown argument)
              | several => .error (.ambiguous argument (several.map Prod.fst))

/-- Sorts the arguments. All those behind the separator are plain. -/
def sort : List String → Except UsageFault (List Word)
  | [] => .ok []
  | argument :: others =>
      if argument = "--" then .ok (.separator :: others.map .plain)
      else do
        let word ← sortOne argument
        return word :: (← sort others)

/-! ### Reading -/

/-- The options of a short name and the letters attached to it. -/
def cluster : Flag → List Char → Except UsageFault (List Flag)
  | flag, [] => .ok [flag]
  | flag, letter :: others =>
      match Flag.ofName? (String.ofList ['-', letter]) with
      | none => .error (.unwantedValue flag (String.ofList (letter :: others)))
      | some following => (cluster following others).map (flag :: ·)

/-- The options that an option with an attached text stands for. -/
def flagsOf (flag : Flag) (short : Bool) : Option (List Char) → Except UsageFault (List Flag)
  | none => .ok [flag]
  | some [] => .error (.unwantedValue flag "")
  | some attached =>
      if short then cluster flag attached
      else .error (.unwantedValue flag (String.ofList attached))

/-- What has been read: the request so far, whether the place of the source is
taken, and the arguments left over with the latest one first. -/
structure Reading where
  request : Request
  sourceTaken : Bool
  surplus : List String
deriving DecidableEq, Repr

/-- What the arguments come to. -/
inductive Interpretation where
  | help
  | request (request : Request)
deriving DecidableEq, Repr

namespace Reading

/-- Nothing has been read. -/
def start : Reading := ⟨.blank, false, []⟩

/-- Adds options to the request. -/
def addFlags (reading : Reading) (flags : List Flag) : Reading :=
  { reading with request := flags.foldl Request.add reading.request }

/-- Leaves an argument over. -/
def leave (reading : Reading) (text : String) : Reading :=
  { reading with surplus := text :: reading.surplus }

/-- Takes the place of the source, with a source or without one. -/
def takeSource (reading : Reading) (source : Option String) : Reading :=
  { reading with request := { reading.request with source }, sourceTaken := true }

/-- Reads words from left to right. The source is the first plain argument; a
separator directly before or behind it is dropped. -/
def read (reading : Reading) : List Word → Except UsageFault Interpretation
  | [] =>
      if reading.surplus.isEmpty then .ok (.request reading.request)
      else .error (.unrecognized reading.surplus.reverse)
  | .option flag short attached :: others => do
      let flags ← flagsOf flag short attached
      if flags.contains .help then return .help
      else (reading.addFlags flags).read others
  | .unknown text :: others => (reading.leave text).read others
  | .plain text :: .separator :: others =>
      if reading.sourceTaken then ((reading.leave text).leave "--").read others
      else (reading.takeSource (some text)).read others
  | .plain text :: others =>
      if reading.sourceTaken then (reading.leave text).read others
      else (reading.takeSource (some text)).read others
  | .separator :: .plain text :: others =>
      if reading.sourceTaken then ((reading.leave "--").leave text).read others
      else (reading.takeSource (some text)).read others
  | .separator :: others =>
      if reading.sourceTaken then (reading.leave "--").read others
      else (reading.takeSource none).read others

end Reading

/-- What some arguments come to. -/
def interpret (arguments : List String) : Except UsageFault Interpretation := do
  Reading.start.read (← sort arguments)

end CommandLine

end MonkeySyntax
