import StatementView.Decimal.Digits

namespace StatementView.Command

inductive Topic where
  | root
  | minify
  | subst
  | escape
  | html

structure SummaryOptions where
  config : Text
  width : Option Nat

inductive Source where
  | nothing
  | inline (document : Text)
  | file (path : Text)

structure MarkupOptions where
  config : Text
  highlightOnly : Bool

structure Arguments (α : Type) where
  options : α
  files : List Text

inductive Request where
  | help (topic : Topic)
  | minify (arguments : Arguments SummaryOptions)
  | subst (arguments : Arguments Source)
  | escape (document : Text)
  | html (arguments : Arguments MarkupOptions)

inductive ArgumentFault where
  | unknownCommand (name : Text)
  | missingValue (flag : Text)
  | unfitWidth (value : Text)
  | unknownArgument (argument : Text)
  | twoSources
  | unexpectedArgument (argument : Text)
  | noDocument

def ArgumentFault.message : ArgumentFault → Text
  | .unknownCommand name => "unknown command: ".toList ++ name
  | .missingValue flag => flag ++ " requires a value".toList
  | .unfitWidth value => "--width must be a positive integer, got ".toList ++ value
  | .unknownArgument argument => "unknown argument: ".toList ++ argument
  | .twoSources => "--params and --params-file are mutually exclusive".toList
  | .unexpectedArgument argument => "unexpected argument: ".toList ++ argument
  | .noDocument => "escape requires a JSON value".toList

def defaultConfig : Text := "sqlpeek.toml".toList

def configFlag : Text := "--config".toList

def widthFlag : Text := "--width".toList

def sourceFlag : Text := "--params".toList

def sourceFileFlag : Text := "--params-file".toList

def highlightSwitch : Text := "--highlight-only".toList

def isHelp (token : Text) : Bool := token = "-h".toList || token = "--help".toList

/-- An argument sorted: a request for help, an option with its value, an option whose value is
missing, a switch, an argument that looks like an option and is none, or a file. -/
inductive Item where
  | help
  | option (flag value : Text)
  | dangling (flag : Text)
  | switch (name : Text)
  | unknown (argument : Text)
  | file (path : Text)

structure Options where
  flags : List Text
  switches : List Text

namespace Options

def joined? (flag token : Text) : Option Text :=
  (Text.after? flag token).bind (Text.after? ['='])

def single (o : Options) (token : Text) : Item :=
  if isHelp token then .help
  else
    match o.flags.findSome? fun flag ↦ (joined? flag token).map (flag, ·) with
    | some (flag, value) => .option flag value
    | none =>
      if o.switches.contains token then .switch token
      else if "--".toList.isPrefixOf token then .unknown token
      else .file token

/-- The arguments sorted; a flag on its own takes the next argument as its value, whatever that is.
-/
def items (o : Options) : List Text → List Item
  | [] => []
  | [token] => [if o.flags.contains token then .dangling token else o.single token]
  | token :: next :: rest =>
    if o.flags.contains token then .option token next :: o.items rest
    else o.single token :: o.items (next :: rest)

end Options

def width (t : Text) : Except ArgumentFault Nat :=
  match Decimal.word? t with
  -- a zero is told without its sign and the zeros before it
  | some 0 => .error (.unfitWidth ['0'])
  | some n => .ok n
  | none => .error (.unfitWidth t)

/-- How a command on files is used: the options and switches that it knows, and what each of them
makes of the options taken before it. -/
structure Usage (α : Type) where
  known : Options
  initial : α
  option : α → Text → Text → Except ArgumentFault α
  switch : α → α

namespace Usage

variable {α : Type}

def take (u : Usage α) (a : Arguments α) : List Item → Except ArgumentFault (Option (Arguments α))
  | [] => .ok (some a)
  | .help :: _ => .ok none
  | .option flag value :: items =>
    match u.option a.options flag value with
    | .ok options => u.take { a with options := options } items
    | .error fault => .error fault
  | .dangling flag :: _ => .error (.missingValue flag)
  | .switch _ :: items => u.take { a with options := u.switch a.options } items
  | .unknown argument :: _ => .error (.unknownArgument argument)
  | .file path :: items => u.take { a with files := a.files ++ [path] } items

def read (u : Usage α) (arguments : List Text) : Except ArgumentFault (Option (Arguments α)) :=
  u.take ⟨u.initial, []⟩ (u.known.items arguments)

def request (u : Usage α) (topic : Topic) (ask : Arguments α → Request) (arguments : List Text) :
    Except ArgumentFault Request :=
  (u.read arguments).map fun
    | some a => ask a
    | none => .help topic

end Usage

def minifyUsage : Usage SummaryOptions where
  known := ⟨[configFlag, widthFlag], []⟩
  initial := ⟨defaultConfig, none⟩
  option o flag value :=
    if flag = configFlag then .ok { o with config := value }
    else (width value).map fun n ↦ { o with width := some n }
  switch := id

def substUsage : Usage Source where
  known := ⟨[sourceFileFlag, sourceFlag], []⟩
  initial := .nothing
  option source flag value :=
    match source with
    | .nothing => .ok (if flag = sourceFileFlag then .file value else .inline value)
    | _ => .error .twoSources
  switch := id

def htmlUsage : Usage MarkupOptions where
  known := ⟨[configFlag], [highlightSwitch]⟩
  initial := ⟨defaultConfig, false⟩
  option o _ value := .ok { o with config := value }
  switch o := { o with highlightOnly := true }

/-- The one argument of `escape`, which may look like an option. -/
def takeEscape : Option Text → List Text → Except ArgumentFault Request
  | none, [] => .error .noDocument
  | some document, [] => .ok (.escape document)
  | document, token :: rest =>
    if isHelp token then .ok (.help .escape)
    else if document.isSome then .error (.unexpectedArgument token)
    else takeEscape (some token) rest

def parse : List Text → Except ArgumentFault Request
  | [] => .ok (.help .root)
  | name :: rest =>
    if isHelp name then .ok (.help .root)
    else if name = "minify".toList then minifyUsage.request .minify .minify rest
    else if name = "subst".toList then substUsage.request .subst .subst rest
    else if name = "escape".toList then takeEscape none rest
    else if name = "html".toList then htmlUsage.request .html .html rest
    else .error (.unknownCommand name)

end StatementView.Command
