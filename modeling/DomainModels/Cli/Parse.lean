import DomainModels.Cli.Command
import DomainModels.Text.Jaro
/-! Reading a command line against a program's description.

The words are read left to right. At the root, a word that names a subcommand starts it,
and the rest of the words belong to it; `help` instead shows the help page of the
subcommands named after it. A word `--name` or `--name=value` is an option by its long
name, a word `-abc` a cluster of short letters, where the first letter taking a value takes
the rest of the word (after an optional `=`) or else the next word. Other words are values
of the option waiting for one, or else positional arguments in order; after `--` every word
is positional.

An option's value is checked when the next option or positional argument is met, or at the
end: a missing value, a refused value and an option given twice are errors. At the end the
required positional arguments must all be there, and the root must have got a subcommand;
a root given no words at all shows its help page instead, as an error.

Help pages go to standard output with status zero. Errors go to standard error with status
two, with the usage line and a hint at `--help`; an unknown name also gets the most similar
known one as a tip. -/
namespace DomainModels.Cli

/-- How a run ends: what it printed on standard output and standard error, and its exit
status. -/
structure Exit where
  code : Nat
  out : String := ""
  err : String := ""

/-- An error's text: the message, the tips, the usage line and the hint at `--help`. -/
def errorText (message : String) (tips : List String) (usage : Option String) : String :=
  "error: " ++ message ++
    (if tips.isEmpty then "" else "\n" ++ String.join (tips.map ("\n  tip: " ++ ·))) ++
    ((usage.map ("\n\n" ++ ·)).getD "") ++ "\n\nFor more information, try '--help'.\n"

/-- A usage error. -/
def usageError (message : String) (tips : List String) (usage : Option String) : Exit :=
  { code := 2, err := errorText message tips usage }

/-- The arguments read for one command: each argument's values, in the order first given. -/
abbrev Given := List (String × List String)

/-- Reading one command's words. -/
structure Reader where
  given : Given := []
  /-- The argument whose values are being collected, and those values. -/
  pending : Option (String × List String) := none
  /-- Whether the pending option still waits for its value. -/
  expecting : Bool := false
  /-- How many positional arguments are taken. -/
  position : Nat := 0
  /-- Whether `--` was met. -/
  trailing : Bool := false

/-- What a command's words came to: the reader at the end, and the subcommand started with
the words after it. -/
structure Reading where
  reader : Reader
  subcommand : Option (String × List String)

section

variable (c : Command) (subcommands : List String)

/-- The ids of the arguments given. -/
def Reader.used (r : Reader) : List String := r.given.map Prod.fst

/-- The usage line with the arguments given. -/
def usageWith (used : List String) : String := c.usageLine used (!subcommands.isEmpty)

/-- Take an argument's values: an option needs a value, takes one only once and only one
it does not refuse; a flag is given once; the help flag shows the help page. -/
def take (helpPage : String) (r : Reader) (id : String) (values : List String) : Except Exit Reader :=
  match c.switches.find? (·.id == id) with
  | some s =>
    match s.takes with
    | .help => .error { code := 0, out := helpPage }
    | .value _ =>
      match values with
      | [] => .error (usageError ("a value is required for '" ++ s.display ++ "' but none was supplied") [] none)
      | v :: _ =>
        if r.given.any (·.1 == id) then
          .error (usageError ("the argument '" ++ s.display ++ "' cannot be used multiple times") []
            (some (usageWith c subcommands [])))
        else match s.refuses v with
          | some why => .error (usageError ("invalid value '" ++ v ++ "' for '" ++ s.display ++ "': " ++ why) [] none)
          | none => .ok { r with given := r.given ++ [(id, values)] }
    | .nothing =>
      if r.given.any (·.1 == id) then
        .error (usageError ("the argument '" ++ s.display ++ "' cannot be used multiple times") []
          (some (usageWith c subcommands [])))
      else .ok { r with given := r.given ++ [(id, ["true"])] }
  | none =>
    match r.given.find? (·.1 == id) with
    | some _ => .ok { r with given := r.given.map fun (k, vs) => if k == id then (k, vs ++ values) else (k, vs) }
    | none => .ok { r with given := r.given ++ [(id, values)] }

/-- Take the pending argument's values. -/
def settle (helpPage : String) (r : Reader) : Except Exit Reader :=
  match r.pending with
  | none => .ok r
  | some (id, values) => take c subcommands helpPage { r with pending := none, expecting := false } id values

/-- Take the pending argument's values if they are good, forget them if not: before an
error about a later word. -/
def settleQuietly (helpPage : String) (r : Reader) : Reader :=
  match settle c subcommands helpPage r with
  | .ok r' => r'
  | .error _ => { r with pending := none, expecting := false }

/-- The tip of passing a word that looks like an option as a value. -/
def trailingTip (word : String) : String := "to pass '" ++ word ++ "' as a value, use '-- " ++ word ++ "'"

/-- The error of a word that is neither an option nor a place for a value. -/
def unplaced (word : String) : Exit :=
  if subcommands.isEmpty then
    usageError ("unexpected argument '" ++ word ++ "' found") [] (some (usageWith c subcommands []))
  else
    match Text.similarTo word subcommands with
    | [] => usageError ("unrecognized subcommand '" ++ word ++ "'") [] (some (usageWith c subcommands []))
    | similar =>
      let tip := if similar.length == 1 then "a similar subcommand exists: '" ++ similar.head! ++ "'"
        else "some similar subcommands exist: " ++ ", ".intercalate (similar.map fun s => "'" ++ s ++ "'")
      usageError ("unrecognized subcommand '" ++ word ++ "'") [tip] (some (usageWith c subcommands []))

/-- The error of an unknown long option, with the most similar long name as a tip. -/
def unknownLong (r : Reader) (name : String) : Exit :=
  let longs := c.switches.map (·.long)
  match (Text.similarTo name longs).getLast? with
  | some best =>
    let id := ((c.switchByLong? best).map (·.id)).getD best
    let used := if r.used.contains id then r.used else r.used ++ [id]
    usageError ("unexpected argument '--" ++ name ++ "' found") ["a similar argument exists: '--" ++ best ++ "'"]
      (some (usageWith c subcommands used))
  | none =>
    let tips := if !r.trailing && !c.positionals.isEmpty then [trailingTip ("--" ++ name)] else []
    usageError ("unexpected argument '--" ++ name ++ "' found") tips (some (usageWith c subcommands r.used))

/-- Read an option's value or a positional argument. A positional argument taking many
values keeps its place. -/
def readValue (helpPage : String) (r : Reader) (word : String) : Except Exit Reader :=
  match r.pending, r.expecting with
  | some (id, values), true => .ok { r with pending := some (id, values ++ [word]), expecting := false }
  | _, _ =>
    match c.positionals[r.position]? with
    | some p => do
      let r ← settle c subcommands helpPage r
      pure { r with pending := some (p.id, [word]), position := if p.many then r.position else r.position + 1 }
    | none => .error (unplaced c subcommands word)

/-- Read a word `--name` or `--name=value`. -/
def readLong (helpPage : String) (r : Reader) (body : String) : Except Exit Reader :=
  let (name, attached) := match body.splitOn "=" with
    | [] => (body, none)
    | n :: rest => if rest.isEmpty then (n, none) else (n, some ("=".intercalate rest))
  match c.switchByLong? name with
  | none => .error (unknownLong c subcommands (settleQuietly c subcommands helpPage r) name)
  | some s =>
    match s.takes, attached with
    | .value _, some v => do
      let r ← settle c subcommands helpPage r
      take c subcommands helpPage r s.id [v]
    | .value _, none => do
      let r ← settle c subcommands helpPage r
      pure { r with pending := some (s.id, []), expecting := true }
    | _, some v =>
      let r := settleQuietly c subcommands helpPage r
      let used := if r.used.contains s.id then r.used else r.used ++ [s.id]
      .error (usageError ("unexpected value '" ++ v ++ "' for '" ++ s.display ++ "' found; no more were expected") []
        (some (usageWith c subcommands used)))
    | _, none => do
      let r ← settle c subcommands helpPage r
      take c subcommands helpPage r s.id []

/-- Read a cluster of short letters. -/
def readShort (helpPage : String) : Reader → List Char → Except Exit Reader
  | r, [] => .ok r
  | r, ch :: rest =>
    match c.switchByShort? ch with
    | none =>
      let word := "-" ++ String.singleton ch
      let tips := if !r.trailing && !c.positionals.isEmpty then [trailingTip word] else []
      .error (usageError ("unexpected argument '" ++ word ++ "' found") tips
        (some (usageWith c subcommands [])))
    | some s =>
      match s.takes with
      | .value _ => do
        let r ← settle c subcommands helpPage r
        let value := match rest with
          | '=' :: v => v
          | v => v
        if value.isEmpty then pure { r with pending := some (s.id, []), expecting := true }
        else take c subcommands helpPage r s.id [String.ofList value]
      | _ => do
        let r ← settle c subcommands helpPage r
        let r ← take c subcommands helpPage r s.id []
        readShort helpPage r rest

/-- Read the words of a command. At the root a subcommand's name ends the reading. -/
def readWords (helpPage : String) (helpFor : List String → Exit) : Reader → List String → Except Exit Reading
  | r, [] => do
    let r ← settle c subcommands helpPage r
    pure { reader := r, subcommand := none }
  | r, word :: rest =>
    if !r.trailing && subcommands.contains word then
      if word == "help" then .error (helpFor rest)
      else .ok { reader := r, subcommand := some (word, rest) }
    else if r.trailing then do
      let r ← readValue c subcommands helpPage r word
      readWords helpPage helpFor r rest
    else if word == "--" then
      readWords helpPage helpFor { r with trailing := true } rest
    else if word.startsWith "--" then do
      let r ← readLong c subcommands helpPage r (String.ofList (word.toList.drop 2))
      readWords helpPage helpFor r rest
    else if word.startsWith "-" && word.length > 1 then do
      let r ← readShort c subcommands helpPage r (word.toList.drop 1)
      readWords helpPage helpFor r rest
    else do
      let r ← readValue c subcommands helpPage r word
      readWords helpPage helpFor r rest

/-- The required positional arguments not given, as an error. -/
def checkRequired (given : Given) : Except Exit Unit :=
  let missing := c.positionals.filter fun p => p.required && !given.any (·.1 == p.id)
  if missing.isEmpty then .ok ()
  else
    let used := given.map Prod.fst ++ missing.map (·.id)
    .error (usageError ("the following required arguments were not provided:" ++
      String.join (missing.map fun p => "\n  " ++ p.display)) [] (some (usageWith c subcommands used)))

end

/-- A command line read: the root's arguments, the subcommand's name and its arguments. -/
structure Invocation where
  root : Given
  command : String
  args : Given

/-- The values given for an argument. -/
def Given.values (g : Given) (id : String) : List String := ((g.find? (·.1 == id)).map Prod.snd).getD []

/-- The value given for an argument, if any. -/
def Given.value? (g : Given) (id : String) : Option String := (g.values id).head?

/-- Whether a flag was given. -/
def Given.flag (g : Given) (id : String) : Bool := g.any (·.1 == id)

namespace Program

/-- The help subcommand: the help page of the command its words name. -/
def helpCommand : Command :=
  { name := "help", usageName := "", about := "Print this message or the help of the given subcommand(s)",
    switches := [],
    positionals := [{ id := "subcommand", valueName := "COMMAND", help := "Print help for the subcommand(s)",
                      required := false, many := true }] }

/-- The subcommands with the help subcommand last. -/
def withHelp (p : Program) : List Command :=
  p.commands ++ [{ helpCommand with usageName := p.root.usageName ++ " help" }]

/-- The names of the subcommands, the help subcommand included. -/
def names (p : Program) : List String := (p.withHelp).map (·.name)

/-- What `help` shows for the words after it. -/
def helpFor (p : Program) : List String → Exit
  | [] => { code := 0, out := p.root.helpPage (p.withHelp.map fun c => (c.name, c.about)) }
  | name :: more =>
    match p.withHelp.find? (·.name == name) with
    | none => usageError ("unrecognized subcommand '" ++ name ++ "'") [] (some (p.root.usageLine [] true))
    | some c =>
      match more with
      | [] => { code := 0, out := c.helpPage [] }
      | next :: _ => usageError ("unrecognized subcommand '" ++ next ++ "'") [] (some (c.usageLine [] false))

/-- Read a command line. -/
def read (p : Program) (words : List String) : Except Exit Invocation := do
  let listing := p.withHelp.map fun c => (c.name, c.about)
  let rootHelp := p.root.helpPage listing
  let top ← readWords p.root p.names rootHelp p.helpFor {} words
  match top.subcommand with
  | none =>
    if top.reader.given.isEmpty then throw { code := 2, err := rootHelp }
    throw (usageError ("'" ++ p.root.usageName ++ "' requires a subcommand but one was not provided\n  [subcommands: " ++
      ", ".intercalate p.names ++ "]") [] (some (p.root.usageLine [] true)))
  | some (name, rest) =>
    match p.commands.find? (·.name == name) with
    | none => throw (usageError ("unrecognized subcommand '" ++ name ++ "'") [] (some (p.root.usageLine [] true)))
    | some c =>
      let sub ← readWords c [] (c.helpPage []) p.helpFor {} rest
      checkRequired c [] sub.reader.given
      let root ← settle p.root p.names rootHelp top.reader
      pure { root := root.given, command := name, args := sub.reader.given }

end Program

end DomainModels.Cli
