/-!
# Command lines

The arguments of a command, taken apart by what they look like: options by their name behind two
dashes, options by a letter behind one dash, and operands. Letters may stand together. An option may
take a value: behind an equals sign, directly behind its letter, or as the next argument, which then
must not look like an option itself. Two dashes alone end the options.

What the arguments say is taken in one after the other: `help` counts as soon as it is met, and a
mistake does not count behind it. No option may be given twice.
-/

namespace Perfmon

/-- An option of a command. -/
structure CommandOption where
  /-- The name. -/
  name : String
  /-- The letter that may stand for the name. -/
  letter : Option Char
  /-- Which values the option takes; none if it takes no value. -/
  accepts : Option (String → Bool)

namespace CommandOption

/-- An option that is given or not. -/
def flag (name : String) (letter : Option Char) : CommandOption :=
  ⟨name, letter, none⟩

/-- An option with a value. -/
def value (name : String) (letter : Option Char) (accepts : String → Bool) : CommandOption :=
  ⟨name, letter, some accepts⟩

/-- The option that asks for help. -/
def help : CommandOption :=
  .flag "help" (some 'h')

end CommandOption

/-- Something that the arguments of a command say. -/
inductive Argument where
  /-- An option is given. -/
  | flag (name : String)
  /-- An option is given a value. -/
  | setting (name value : String)
  /-- Something that is no option. -/
  | operand (text : String)
  /-- Something that no option fits. -/
  | mistake
  deriving DecidableEq, Repr

namespace Argument

/-- What an argument looks like. -/
inductive Look where
  /-- Two dashes alone. -/
  | dashes
  /-- The name of an option, and what stands behind an equals sign. -/
  | name (name : List Char) (value : Option (List Char))
  /-- The letters of options. -/
  | letters (cs : List Char)
  /-- Anything else; a single dash is no option. -/
  | plain
  deriving DecidableEq, Repr

/-- What stands behind the first equals sign, if there is one. -/
def behindEquals (cs : List Char) : Option (List Char) :=
  match cs.dropWhile (· ≠ '=') with
  | _ :: r => some r
  | [] => none

/-- What an argument looks like. -/
def look : List Char → Look
  | '-' :: '-' :: [] => .dashes
  | '-' :: '-' :: r => .name (r.takeWhile (· ≠ '=')) (behindEquals r)
  | '-' :: c :: r => .letters (c :: r)
  | _ => .plain

/-- What an option says that is given by its name, and the name of it if its value is still to come.
-/
def ofName (options : List CommandOption) (name : List Char) (value : Option (List Char)) :
    List Argument × Option String :=
  match options.find? (·.name == String.ofList name) with
  | none => ([.mistake], none)
  | some o =>
    match o.accepts.isSome, value with
    | false, none => ([.flag o.name], none)
    | false, some _ => ([.mistake], none)
    | true, none => ([], some o.name)
    | true, some v => ([.setting o.name (String.ofList v)], none)

/-- What options say that are given by their letters. -/
def ofLetters (options : List CommandOption) : List Char → List Argument × Option String
  | [] => ([], none)
  | c :: r =>
    match options.find? (·.letter == some c) with
    | none => ([.mistake], none)
    | some o =>
      match o.accepts.isSome, r with
      | false, r =>
        let (found, waiting) := ofLetters options r
        (.flag o.name :: found, waiting)
      | true, [] => ([], some o.name)
      | true, '=' :: v => ([.setting o.name (String.ofList v)], none)
      | true, v => ([.setting o.name (String.ofList v)], none)

/-- What an argument says that is not the value of an option. -/
def ofText (options : List CommandOption) (text : String) : List Argument × Option String :=
  match look text.toList with
  | .name name value => ofName options name value
  | .letters cs => ofLetters options cs
  | .dashes | .plain => ([.operand text], none)

/-- What the arguments of a command say. -/
def ofTexts (options : List CommandOption) : List String → List Argument
  | [] => []
  | text :: rest =>
    if look text.toList = .dashes then rest.map .operand
    else
      match ofText options text, rest with
      | (found, none), rest => found ++ ofTexts options rest
      | (found, some name), value :: rest =>
        if look value.toList = .plain then found ++ .setting name value :: ofTexts options rest
        else found ++ [.mistake]
      | (found, some _), [] => found ++ [.mistake]

end Argument

/-- What a command takes. -/
structure CommandGrammar where
  /-- The options. -/
  options : List CommandOption
  /-- The largest number of operands, none of which may be empty. -/
  operands : Nat

/-- What has been taken in of the arguments of a command. -/
structure Settings where
  /-- The options without a value, the last first. -/
  flags : List String
  /-- The options with their values, the last first. -/
  values : List (String × String)
  /-- The operands, the last first. -/
  operands : List String
  deriving DecidableEq, Repr

/-- Why arguments lead to no command. -/
inductive Interruption where
  /-- Help is asked for. -/
  | help
  /-- There is a mistake in the arguments. -/
  | mistake
  deriving DecidableEq, Repr

namespace Settings

/-- Nothing has been taken in. -/
def empty : Settings :=
  ⟨[], [], []⟩

/-- The value of an option. -/
def get? (s : Settings) (name : String) : Option String :=
  s.values.lookup name

/-- Whether an option is given. -/
def has (s : Settings) (name : String) : Bool :=
  s.flags.contains name

/-- Whether an option takes a value. -/
def accepts (g : CommandGrammar) (name value : String) : Bool :=
  match g.options.find? (·.name == name) with
  | some ⟨_, _, some accepts⟩ => accepts value
  | _ => false

/-- Takes in what an argument says. -/
def add (g : CommandGrammar) (s : Settings) : Argument → Except Interruption Settings
  | .mistake => .error .mistake
  | .flag name =>
    if name = CommandOption.help.name then .error .help
    else if s.has name then .error .mistake
    else .ok { s with flags := name :: s.flags }
  | .setting name value =>
    if (s.get? name).isSome || !accepts g name value then .error .mistake
    else .ok { s with values := (name, value) :: s.values }
  | .operand text =>
    if text = "" ∨ g.operands ≤ s.operands.length then .error .mistake
    else .ok { s with operands := text :: s.operands }

/-- What the arguments of a command come to. -/
def ofTexts (g : CommandGrammar) (texts : List String) : Except Interruption Settings :=
  (Argument.ofTexts g.options texts).foldlM (add g) empty

end Settings

end Perfmon
