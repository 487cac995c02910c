import JavaComments.Job

namespace JavaComments

/-- The pages of help: on the program, on rendering, and on the help itself. -/
inductive Page where
  | program
  | render
  | help
deriving DecidableEq

inductive Command where
  | version
  | help (page : Page)
  | render (job : Job)
deriving DecidableEq

namespace CommandLine

/-- One thing that the arguments of a rendering say. -/
inductive Setting where
  | input (path : Text)
  | output (path : Text)
  | indent (spaces : Nat)
  | noEscape
  | raw
deriving DecidableEq

/-- What a setting is about. -/
inductive Topic where
  | input
  | output
  | indent
  | noEscape
  | raw
deriving DecidableEq

def Setting.topic : Setting → Topic
  | input _ => .input
  | output _ => .output
  | indent _ => .indent
  | noEscape => .noEscape
  | raw => .raw

/-- A path is not empty. -/
def path? (make : Text → Setting) (value : Text) : Option Setting :=
  if value.isEmpty then none else some (make value)

/-- An indent is written with digits, perhaps behind a plus sign, and fits in 64 bits. -/
def indent? (value : Text) : Option Setting :=
  let digits := if value.head? = some '+' then value.tail else value
  if digits.isEmpty || !digits.all Char.isDigit then none
  else
    let spaces := digits.foldl (fun n c => n * 10 + (c.toNat - '0'.toNat)) 0
    if spaces < UInt64.size then some (.indent spaces) else none

/-- An argument says something by itself, or together with the value in the next one. -/
inductive Argument where
  | complete (setting : Setting)
  | awaiting (setting? : Text → Option Setting)

def valued (setting? : Text → Option Setting) : Option Text → Option Argument
  | none => some (.awaiting setting?)
  | some value => (setting? value).map .complete

/-- An option that begins with two dashes, and the value behind its equals sign. -/
def longOption (name : Text) (value? : Option Text) : Option Argument :=
  if name = "output".toList then valued (path? .output) value?
  else if name = "indent".toList then valued indent? value?
  else if name = "no-escape".toList ∧ value? = none then some (.complete .noEscape)
  else if name = "raw".toList ∧ value? = none then some (.complete .raw)
  else none

/-- The value of a short option may be attached to it, with or without an equals sign. -/
def attached? : Text → Option Text
  | [] => none
  | '=' :: value => some value
  | value => some value

/-- A lone dash is an ordinary word. -/
def argument? : Text → Option Argument
  | '-' :: '-' :: option =>
    let value := option.dropWhile (· != '=')
    longOption (option.takeWhile (· != '=')) (if value.isEmpty then none else some value.tail)
  | '-' :: 'o' :: value => valued (path? .output) (attached? value)
  | '-' :: _ :: _ => none
  | word => (path? .input word).map .complete

/-- A value in an argument of its own does not look like an option. -/
def isWord (value : Text) : Bool := value.head? != some '-' || value = ['-']

/-- A flag is given in its long form, or in its short one with whatever is attached. -/
def IsFlag (long short arg : Text) : Prop := arg = long ∨ short <+: arg

instance (long short arg : Text) : Decidable (IsFlag long short arg) :=
  inferInstanceAs (Decidable (arg = long ∨ short <+: arg))

abbrev AsksVersion (arg : Text) : Prop := IsFlag "--version".toList "-V".toList arg

abbrev AsksHelp (arg : Text) : Prop := IsFlag "--help".toList "-h".toList arg

/-- The settings that are read, and whether help is asked for behind them. -/
structure Reading where
  settings : List Setting
  asksHelp : Bool

def Reading.after (before : List Setting) (reading : Reading) : Reading :=
  { reading with settings := before ++ reading.settings }

/-- What the arguments of a rendering say, in their order; two dashes end the options. Nothing
behind a question for help is read. -/
def reading? : List Text → Option Reading
  | [] => some ⟨[], false⟩
  | arg :: args =>
    if arg = ['-', '-'] then (args.mapM (path? .input)).map (⟨·, false⟩)
    else if AsksHelp arg then some ⟨[], true⟩
    else match argument? arg, args with
      | none, _ => none
      | some (.complete setting), args => (reading? args).map (.after [setting])
      | some (.awaiting _), [] => none
      | some (.awaiting setting?), value :: args =>
        if isWord value then do
          let setting ← setting? value
          let reading ← reading? args
          return reading.after [setting]
        else none

/-- Nothing is said twice. -/
def SayOnce (settings : List Setting) : Prop := (settings.map Setting.topic).Nodup

instance (settings : List Setting) : Decidable (SayOnce settings) :=
  inferInstanceAs (Decidable (settings.map Setting.topic).Nodup)

def Setting.input? : Setting → Option Text
  | input path => some path
  | _ => none

def Setting.output? : Setting → Option Text
  | output path => some path
  | _ => none

def Setting.indent? : Setting → Option Nat
  | indent spaces => some spaces
  | _ => none

/-- Only the input may not be left out. -/
def job? (settings : List Setting) : Option Job :=
  (settings.findSome? Setting.input?).map fun input => {
    input := input
    output := settings.findSome? Setting.output?
    indent := (settings.findSome? Setting.indent?).getD 0
    noEscape := settings.contains .noEscape
    raw := settings.contains .raw }

def rendering? (args : List Text) : Option Command := do
  let reading ← reading? args
  if ¬ SayOnce reading.settings then none
  else if reading.asksHelp then some (.help .render)
  else (job? reading.settings).map .render

/-- The page that the names of commands lead to. -/
def page? : List Text → Option Page
  | [] => some .program
  | [name] =>
    if name = "render".toList then some .render
    else if name = "help".toList then some .help
    else none
  | _ => none

/-- The version and help may be asked for before any command, and nothing behind that matters. -/
def command? : List Text → Option Command
  | [] => none
  | first :: args =>
    if AsksVersion first then some .version
    else if AsksHelp first then some (.help .program)
    else if first = "help".toList then (page? args).map .help
    else if first = "render".toList then rendering? args
    else none

end CommandLine

end JavaComments
