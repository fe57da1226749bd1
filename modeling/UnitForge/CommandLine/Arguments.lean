import UnitForge.CommandLine.Suggestion
import UnitForge.CommandLine.Usage
import UnitForge.FileTree.Disk

set_option autoImplicit false

/-!
# Options and arguments

A command takes options, which begin with a dash, and arguments. The value of an option follows it
as the next word, or after an equals sign. Two dashes end the options.

## Main definitions

* `UnitForge.CommandLine.CommandForm`: which options and arguments a command takes.
* `UnitForge.CommandLine.CommandForm.read`: the options and arguments among some words.
* `UnitForge.CommandLine.CommandForm.check`: whether they are all there, with values that will do.
-/

namespace UnitForge

/-- What a path given as a text leads to. A text that ends in a slash leads to a directory only. -/
def Disk.entryAt? (d : Disk) (path : Text) : Option Entry :=
  if path.isEmpty then none
  else
    match d.find? (Path.parse path) with
    | some (.directory entries) => some (.directory entries)
    | some e => if path.getLast? = some '/' then none else some e
    | none => none

namespace CommandLine

/-- What the values of an option or argument have to be. -/
inductive ValueRule where
  /-- Any text. -/
  | any
  /-- A path to something of that kind, which may have to be there. -/
  | path (kind : PathKind) (mustExist : Bool)
  /-- One of some texts. -/
  | oneOf (choices : List Text)
  deriving DecidableEq, Repr

/-- Whether an entry is of a kind. -/
def PathKind.fits (kind : PathKind) (e : Entry) : Bool :=
  match kind, e with
  | .file, .directory _ => false
  | .directory, .file _ => false
  | _, _ => true

/-- What is wrong with a value, if anything is. -/
def ValueRule.fault? (d : Disk) (value : Text) : ValueRule → Option ValueFault
  | .any => none
  | .path kind mustExist =>
    match d.entryAt? value with
    | none => if mustExist then some (.missing kind value) else none
    | some e => if kind.fits e then none else some (.wrongKind kind value)
  | .oneOf choices => if choices.contains value then none else some (.notChosen value choices)

/-- An option of a command. -/
structure OptionForm where
  /-- Its long name, with two dashes. -/
  name : Text
  /-- Its short name, with one dash, if it has one. -/
  short : Option Text := none
  /-- Whether it takes a value. -/
  takesValue : Bool := true
  /-- Whether all of its values count; if not, the last one does. -/
  repeatable : Bool := false
  /-- Whether it must be given. -/
  required : Bool := false
  /-- What its values have to be. -/
  rule : ValueRule := .any
  /-- What it is for. -/
  help : Text

/-- The option that asks for help. -/
def helpOption : OptionForm where
  name := Text.lit "--help"
  takesValue := false
  help := Text.lit "Show this message and exit."

/-- The argument of a command. -/
structure ArgumentForm where
  /-- The word for it. -/
  name : Text
  /-- Whether any number of words may stand for it. -/
  repeatable : Bool := false
  /-- What its values have to be. -/
  rule : ValueRule := .any

/-- The word for an argument in messages. -/
def ArgumentForm.title (a : ArgumentForm) : Text :=
  if a.repeatable then a.name ++ Text.lit "..." else a.name

/-- Which options and arguments a command takes. -/
structure CommandForm where
  /-- Its name. -/
  name : Text
  /-- What it does, by paragraphs. -/
  help : List Text
  /-- Its options but for the one that asks for help. -/
  options : List OptionForm
  /-- Its argument. -/
  argument : ArgumentForm

/-- What was given on a command line. -/
structure Given where
  /-- The long names of the options and their values, in order. -/
  options : List (Text × Option Text) := []
  /-- The arguments. -/
  arguments : List Text := []
  deriving DecidableEq, Repr

namespace Given

/-- What is given with an option before it. -/
def withOption (g : Given) (name : Text) (value : Option Text) : Given :=
  { g with options := (name, value) :: g.options }

/-- What is given with an argument before it. -/
def withArgument (g : Given) (value : Text) : Given := { g with arguments := value :: g.arguments }

/-- Whether an option is given. -/
def has (g : Given) (name : Text) : Bool := g.options.any (·.1 == name)

/-- The values of an option. -/
def values (g : Given) (name : Text) : List Text :=
  (g.options.filter (·.1 == name)).filterMap (·.2)

/-- The value of an option that counts. -/
def value? (g : Given) (name : Text) : Option Text := (g.values name).getLast?

end Given

/-- The options that a word stands for: those with their values, and one whose value is the next
word. -/
structure ReadOptions where
  /-- The options read, with their values. -/
  complete : List (Text × Option Text) := []
  /-- The option that needs the next word, as it is called in the word and by its long name. -/
  pending : Option (Text × Text) := none

/-- Reads the letters after a single dash. -/
def readShort (options : List OptionForm) : Text → Except UsageError ReadOptions
  | [] => .ok {}
  | c :: rest =>
    let name := ['-', c]
    match options.find? (·.short == some name) with
    | none => .error (.noSuchOption name [])
    | some o =>
      if o.takesValue then
        if rest.isEmpty then .ok { pending := some (name, o.name) }
        else .ok { complete := [(o.name, some rest)] }
      else
        (readShort options rest).map fun r => { r with complete := (o.name, none) :: r.complete }

/-- Reads a word that begins with a dash. -/
def readOption (options : List OptionForm) (word : Text) : Except UsageError ReadOptions :=
  let (name, value) := match Text.cut '=' word with
    | none => (word, none)
    | some (name, value) => (name, some value)
  match options.find? (·.name == name) with
  | none =>
    if Text.startsWith word ['-', '-'] then
      .error (.noSuchOption name (suggestions name (options.map (·.name))))
    else readShort options (word.drop 1)
  | some o =>
    match o.takesValue, value with
    | true, some value => .ok { complete := [(o.name, some value)] }
    | true, none => .ok { pending := some (name, o.name) }
    | false, some _ => .error (.valueRefused name)
    | false, none => .ok { complete := [(o.name, none)] }

/-- Whether a word stands for options. -/
def isOptionWord (word : Text) : Bool := word.head? = some '-' && 1 < word.length

/-- Reads the words of a command line. If `mixed`, options may follow arguments; if not, the first
argument ends the options. -/
def readWords (options : List OptionForm) (mixed : Bool) : List Text → Except UsageError Given
  | [] => .ok {}
  | word :: rest =>
    if word = ['-', '-'] then .ok { arguments := rest }
    else if isOptionWord word then
      match readOption options word with
      | .error e => .error e
      | .ok read =>
        let put (g : Given) : Given :=
          read.complete.foldr (fun (name, value) g => g.withOption name value) g
        match read.pending, rest with
        | none, rest => (readWords options mixed rest).map put
        | some (name, _), [] => .error (.valueNeeded name)
        | some (_, name), value :: rest =>
          (readWords options mixed rest).map fun g => put (g.withOption name (some value))
    else if mixed then (readWords options mixed rest).map (·.withArgument word)
    else .ok { arguments := word :: rest }

namespace CommandForm

/-- All options of a command. -/
def allOptions (f : CommandForm) : List OptionForm := f.options ++ [helpOption]

/-- The options and arguments of a command among some words. -/
def read (f : CommandForm) (words : List Text) : Except UsageError Given :=
  readWords f.allOptions true words

/-- Checks values in order. -/
def checkValues (d : Disk) (subject : Text) (rule : ValueRule) (values : List Text) :
    Except UsageError Unit :=
  match values.findSome? fun value => rule.fault? d value with
  | some fault => .error (.badValue subject fault)
  | none => .ok ()

/-- Checks the values of an option that is given. -/
def checkOption (f : CommandForm) (d : Disk) (g : Given) (name : Text) : Except UsageError Unit :=
  match f.options.find? (·.name == name) with
  | none => .ok ()
  | some o =>
    checkValues d o.name o.rule (if o.repeatable then g.values name else (g.value? name).toList)

/-- The arguments that are taken. -/
def taken (f : CommandForm) (g : Given) : List Text :=
  if f.argument.repeatable then g.arguments else g.arguments.take 1

/-- Checks the argument. -/
def checkArgument (f : CommandForm) (d : Disk) (g : Given) : Except UsageError Unit :=
  if g.arguments.isEmpty then .error (.missingArgument f.argument.title)
  else checkValues d f.argument.title f.argument.rule (f.taken g)

/-- Checks what is given: first the options in the order in which they were given, then the
argument, then whether an option is missing, and at last whether there are further arguments. -/
def check (f : CommandForm) (d : Disk) (g : Given) : Except UsageError Unit := do
  ((g.options.map (·.1)).eraseDups).forM (f.checkOption d g)
  f.checkArgument d g
  match f.options.find? fun o => o.required && !g.has o.name with
  | some o => throw (.missingOption o.name)
  | none => pure ()
  let extra := g.arguments.drop (f.taken g).length
  if extra.isEmpty then pure () else throw (.extraArguments extra)

end CommandForm

end CommandLine

end UnitForge
