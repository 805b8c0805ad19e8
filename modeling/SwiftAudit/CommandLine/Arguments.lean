import SwiftAudit.Text.Digit

namespace SwiftAudit.CommandLine

inductive Switch where
  | help
  | check
  | listChecks
  | report
  | legacyCategories
  | config
  | verbose
  | quiet
  deriving DecidableEq, Repr

namespace Switch

def longNames : List (String × Switch) :=
  [("--help", help), ("--check", check), ("--list-checks", listChecks), ("--report", report),
    ("--legacy-categories", legacyCategories), ("--config", config), ("--verbose", verbose),
    ("--quiet", quiet)]

def ofLetter? : Char → Option Switch
  | 'h' => some help
  | 'v' => some verbose
  | 'q' => some quiet
  | _ => none

-- The long names that begin like a word.
def candidates (word : List Char) : List Switch :=
  (longNames.filter fun (name, _) => word.isPrefixOf name.toList).map (·.2)

def ofName? (word : List Char) : Option Switch := longNames.lookup (String.ofList word)

end Switch

-- Help was asked for, or the arguments are of no use.
inductive Stop where
  | help
  | badUsage
  deriving DecidableEq, Repr

-- One argument, by what it looks like. `long` may bring a value after an equals sign, and
-- `letters` are switches of one letter each that share a dash.
inductive Item where
  | word (text : String)
  | separator
  | long (switch : Switch) (value : Option String)
  | letters (first : Switch) (rest : List Char)
  | unknown
  deriving DecidableEq, Repr

-- A dash and a number in digits of any script, which is a word and no switch.
def isNegativeNumber (afterDash : List Char) : Bool :=
  let isDigit (c : Char) := (Text.digitValue? c).isSome
  let body := if afterDash.getLast? == some '\n' then afterDash.dropLast else afterDash
  let fraction := match body.dropWhile isDigit with
    | [] => body
    | '.' :: rest => rest
    | _ => []
  !fraction.isEmpty && fraction.all isDigit

-- What starts like a switch but is none is a word only if it is a number or has a space.
def unknownOrWord (afterDash : List Char) : Item :=
  if isNegativeNumber afterDash || afterDash.contains ' ' then
    .word (String.ofList ('-' :: afterDash))
  else .unknown

-- The parts of a long switch before and after its first equals sign.
def splitValue (text : List Char) : List Char × Option String :=
  match text.span (· != '=') with
  | (name, '=' :: value) => (name, some (String.ofList value))
  | (name, _) => (name, none)

-- A long switch may be cut short as long as it stays the only one.
def longItem (text : List Char) : Except Stop Item :=
  let (name, value) := splitValue text
  match Switch.ofName? text, Switch.ofName? name with
  | some switch, _ => .ok (.long switch none)
  | none, some switch => .ok (.long switch value)
  | none, none =>
    match Switch.candidates name with
    | [] => .ok (unknownOrWord text.tail)
    | [switch] => .ok (.long switch value)
    | _ => .error .badUsage

def item (argument : String) : Except Stop Item :=
  match argument.toList with
  | '-' :: '-' :: [] => .ok .separator
  | '-' :: '-' :: rest => longItem ('-' :: '-' :: rest)
  | '-' :: letter :: rest =>
    match Switch.ofLetter? letter with
    | some switch => .ok (.letters switch rest)
    | none => .ok (unknownOrWord (letter :: rest))
  | _ => .ok (.word argument)

-- After the separator everything is a word.
def items : List String → Except Stop (List Item)
  | [] => .ok []
  | "--" :: rest => .ok (.separator :: rest.map .word)
  | argument :: rest => do return (← item argument) :: (← items rest)

structure Options where
  source : Option String
  checks : List String
  listChecks : Bool
  report : Option String
  legacyCategories : Bool
  config : Option String
  verbose : Bool
  quiet : Bool
  deriving DecidableEq, Repr

def Options.none : Options :=
  ⟨Option.none, [], false, Option.none, false, Option.none, false, false⟩

-- The options so far. The place for the source is used up by the first word or separator;
-- words after that are surplus.
structure Progress where
  options : Options
  sourcePassed : Bool
  surplus : Bool
  deriving DecidableEq, Repr

namespace Progress

def addSurplus (progress : Progress) : Progress := { progress with surplus := true }

def addWord (progress : Progress) (text : String) : Progress :=
  if progress.sourcePassed then progress.addSurplus
  else
    { progress with
      options := { progress.options with source := some text }
      sourcePassed := true }

def addSeparator (progress : Progress) : Progress :=
  if progress.sourcePassed then progress.addSurplus else { progress with sourcePassed := true }

-- A switch that is given without a value.
def addSwitch (progress : Progress) : Switch → Except Stop Progress
  | .help => .error .help
  | .check => .error .badUsage
  | .config => .error .badUsage
  | .listChecks =>
    .ok { progress with options := { progress.options with listChecks := true } }
  | .report => .ok { progress with options := { progress.options with report := some "" } }
  | .legacyCategories =>
    .ok { progress with options := { progress.options with legacyCategories := true } }
  | .verbose => .ok { progress with options := { progress.options with verbose := true } }
  | .quiet => .ok { progress with options := { progress.options with quiet := true } }

def addValue (progress : Progress) (value : String) : Switch → Except Stop Progress
  | .check =>
    let checks := progress.options.checks ++ [value]
    .ok { progress with options := { progress.options with checks } }
  | .config => .ok { progress with options := { progress.options with config := some value } }
  | .report => .ok { progress with options := { progress.options with report := some value } }
  | _ => .error .badUsage

end Progress

def takesValue : Switch → Bool
  | .check => true
  | .config => true
  | .report => true
  | _ => false

-- The switches of a cluster of letters, and whether it ends in letters that are none. None
-- of these switches takes a value.
def cluster (switch : Switch) : List Char → Except Stop (List Switch × Bool)
  | [] => .ok ([switch], false)
  | letter :: rest =>
    if letter == '=' || letter == '-' then .error .badUsage
    else match Switch.ofLetter? letter with
      | none => .ok ([switch], true)
      | some next => do
        let (later, surplus) ← cluster next rest
        return (switch :: later, surplus)

def Progress.addCluster (progress : Progress) (switch : Switch) (rest : List Char) :
    Except Stop Progress := do
  let (switches, surplus) ← cluster switch rest
  let progress ← switches.foldlM addSwitch progress
  return if surplus then progress.addSurplus else progress

-- Goes through the items in order. A switch takes the word after it as its value, unless it
-- brings one; a separator next to a word goes with it.
def consume (progress : Progress) : List Item → Except Stop Progress
  | [] => .ok progress
  | .word text :: .separator :: rest => consume (progress.addWord text) rest
  | .word text :: rest => consume (progress.addWord text) rest
  | .separator :: .word text :: rest => consume (progress.addWord text) rest
  | .separator :: rest => consume progress.addSeparator rest
  | .unknown :: rest => consume progress.addSurplus rest
  | .letters switch letters :: rest => do consume (← progress.addCluster switch letters) rest
  | .long switch (some value) :: rest => do consume (← progress.addValue value switch) rest
  | .long switch none :: .word text :: rest =>
    if takesValue switch then do consume (← progress.addValue text switch) rest
    else do consume (← progress.addSwitch switch) (.word text :: rest)
  | .long switch none :: rest => do consume (← progress.addSwitch switch) rest

def parse (arguments : List String) : Except Stop Options := do
  let progress ← consume ⟨Options.none, false, false⟩ (← items arguments)
  if progress.surplus then .error .badUsage else return progress.options

end SwiftAudit.CommandLine
