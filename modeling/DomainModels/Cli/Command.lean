/-! Describing a command line: a program's options, flags and positional arguments, and its
subcommands, each with a line of help. From the description come the help page and the
usage line of every command.

A help page is the command's description, its usage line, then its sections: the
subcommands, the positional arguments and the options, each entry's help aligned two
spaces after the widest entry of its section. The usage line names the command, then
`[OPTIONS]` when it has options other than help, then its positional arguments and a
subcommand placeholder. -/
namespace DomainModels.Cli

/-- What an option does with the text after it. -/
inductive Takes where
  /-- Nothing: the option is a flag. -/
  | nothing
  /-- One value, shown by its name. -/
  | value (name : String)
  /-- Nothing: the option asks for the help page. -/
  | help
  deriving DecidableEq

/-- An option or flag, written with its long name or its short letter. -/
structure Switch where
  id : String
  short : Option Char := none
  long : String
  takes : Takes := .nothing
  help : String := ""
  /-- Why a value is refused, if it is. -/
  refuses : String → Option String := fun _ => none

/-- A positional argument. -/
structure Positional where
  id : String
  valueName : String
  help : String := ""
  required : Bool := true
  /-- Whether it takes every remaining value. -/
  many : Bool := false

/-- A command: its name as usage lines give it, its description, its options and its
positional arguments. -/
structure Command where
  name : String
  usageName : String
  about : String
  switches : List Switch
  positionals : List Positional := []

/-- The flag that asks for the help page. -/
def helpSwitch : Switch := { id := "help", short := some 'h', long := "help", takes := .help, help := "Print help" }

/-- An option as errors and help show it: `--name <VALUE>` or `--name`. -/
def Switch.display (s : Switch) : String :=
  match s.takes with
  | .value n => "--" ++ s.long ++ " <" ++ n ++ ">"
  | _ => "--" ++ s.long

/-- A positional argument as errors and help show it: `<NAME>` when required, `[NAME]`
when not, followed by `...` when it takes many values. -/
def Positional.display (p : Positional) : String :=
  (if p.required then "<" ++ p.valueName ++ ">" else "[" ++ p.valueName ++ "]") ++ (if p.many then "..." else "")

/-- `n` spaces. -/
def spaces (n : Nat) : String := String.ofList (List.replicate n ' ')

/-- Text without the blanks at its end. -/
def trimEnd (s : String) : String :=
  String.ofList ((s.toList.reverse.dropWhile Char.isWhitespace).reverse)

namespace Command

/-- The option with a long name. -/
def switchByLong? (c : Command) (long : String) : Option Switch := c.switches.find? (·.long == long)

/-- The option with a short letter. -/
def switchByShort? (c : Command) (ch : Char) : Option Switch := c.switches.find? (·.short == some ch)

/-- How an argument of the command is shown, by its id. -/
def display (c : Command) (id : String) : String :=
  match c.switches.find? (·.id == id) with
  | some s => s.display
  | none => ((c.positionals.find? (·.id == id)).map Positional.display).getD id

/-- Whether the usage line says `[OPTIONS]`: some option other than help exists. -/
def hasOptions (c : Command) : Bool := c.switches.any fun s => s.long != "help" && s.long != "version"

/-- The full usage line, without its title. -/
def usage (c : Command) (subcommands : Bool) : String :=
  c.usageName ++ (if c.hasOptions then " [OPTIONS]" else "") ++
    String.join (c.positionals.map fun p => " " ++ p.display) ++ (if subcommands then " <COMMAND>" else "")

/-- The usage line naming the arguments given: the options given, then the required
positional arguments and those given, then the subcommand placeholder. -/
def usageOf (c : Command) (used : List String) (subcommands : Bool) : String :=
  let switches := (c.switches.filter fun s => used.contains s.id).map fun s => (used.idxOf s.id, s.display)
  let ordered := (switches.mergeSort fun a b => a.1 ≤ b.1).map Prod.snd
  let positionals := c.positionals.filter fun p => p.required || used.contains p.id
  c.usageName ++ String.join (ordered.map (" " ++ ·)) ++
    String.join (positionals.map fun p => " " ++ p.display) ++ (if subcommands then " <COMMAND>" else "")

/-- The usage line with its title: the full one when no argument was given. -/
def usageLine (c : Command) (used : List String) (subcommands : Bool) : String :=
  "Usage: " ++ (if used.isEmpty then c.usage subcommands else c.usageOf used subcommands)

/-- The entries of a section, each help aligned two spaces after the widest entry. -/
def helpSection (heading : String) (entries : List (String × String × String)) : String :=
  let widest := (entries.map fun (_, shown, _) => shown.length).foldl max 0
  heading ++ ":\n" ++ "\n".intercalate (entries.map fun (lead, shown, help) =>
    "  " ++ lead ++ shown ++ spaces (widest - shown.length + 2) ++ help)

/-- The help page, listing the given subcommands by name and description. -/
def helpPage (c : Command) (subcommands : List (String × String)) : String :=
  let commands := if subcommands.isEmpty then []
    else [helpSection "Commands" (subcommands.map fun (n, a) => ("", n, a))]
  let arguments := if c.positionals.isEmpty then []
    else [helpSection "Arguments" (c.positionals.map fun p => ("", p.display, p.help))]
  let options := if c.switches.isEmpty then []
    else [helpSection "Options" (c.switches.map fun s =>
      ((s.short.map fun ch => "-" ++ String.singleton ch ++ ", ").getD "    ", s.display, s.help))]
  trimEnd (c.about ++ "\n\n" ++ c.usageLine [] (!subcommands.isEmpty) ++ "\n\n" ++
    "\n\n".intercalate (commands ++ arguments ++ options)) ++ "\n"

end Command

/-- A program: the command at its root and its subcommands. A subcommand is required. -/
structure Program where
  root : Command
  commands : List Command

/-- The subcommands' names and descriptions. -/
def Program.listing (p : Program) : List (String × String) := p.commands.map fun c => (c.name, c.about)

/-- The help page of the root. -/
def Program.helpPage (p : Program) : String := p.root.helpPage p.listing

end DomainModels.Cli
