import TapeMachine.Text.DecimalDigit

set_option autoImplicit false

namespace TapeMachine

/-- What an option does. -/
inductive OptionKind
  | value
  | switch
  | help
  deriving DecidableEq

/-- An option of a command: its names, the first of which identifies it. -/
structure OptionRule where
  names : List String
  kind : OptionKind

def OptionRule.key (o : OptionRule) : String := o.names.headD ""

/-- A command's options, and the pairs of them that exclude each other. -/
structure Usage where
  options : List OptionRule
  exclusive : List (String × String)
  /-- Values that an option has anyway; giving such a value excludes nothing. -/
  defaults : List (String × String)

/-- The arguments of a command after they have been understood. -/
structure Arguments where
  operand : String
  /-- The options given with a value, in order. -/
  values : List (String × String)
  switches : List String

/-- What becomes of the arguments of a command. -/
inductive Reading
  | accepted (arguments : Arguments)
  | refused
  | helped

namespace Arguments

def value? (key : String) (a : Arguments) : Option String :=
  (a.values.reverse.find? fun entry => entry.1 == key).map Prod.snd

def has (key : String) (a : Arguments) : Bool := a.switches.contains key

/-- What one argument is. -/
inductive Piece
  | operand (text : String)
  | separator
  | option (rule : OptionRule)
  /-- An option with a value behind an equals sign. -/
  | assigned (rule : OptionRule) (value : String)
  /-- An option of one letter with more characters directly behind it. -/
  | joined (rule : OptionRule) (more : String)
  | unknown

/-- An argument up to its first equals sign and, if there is one, what follows. -/
def splitEquals (text : List Char) : List Char × Option (List Char) :=
  match text.dropWhile (· != '=') with
  | [] => (text, none)
  | _ :: value => (text.takeWhile (· != '='), some value)

def namedOptions (u : Usage) : List (List Char × OptionRule) :=
  u.options.flatMap fun o => o.names.map fun name => (name.toList, o)

def named? (u : Usage) (name : List Char) : Option OptionRule :=
  ((namedOptions u).find? fun entry => entry.1 == name).map Prod.snd

/-- The options that an argument which is no exact name may mean. -/
def candidates (u : Usage) (text : List Char) : List Piece :=
  let string := fun (value : List Char) => String.ofList value
  if text.take 2 = ['-', '-'] then
    let (short, value) := splitEquals text
    (namedOptions u).filterMap fun (name, o) =>
      if !short.isPrefixOf name then none
      else match value with
        | some value => some (.assigned o (string value))
        | none => some (.option o)
  else
    (namedOptions u).filterMap fun (name, o) =>
      if name = text.take 2 then some (.joined o (string (text.drop 2)))
      else if text.isPrefixOf name then some (.option o)
      else none

/-- Whether an argument is a hyphen with a number behind it; a line feed may end it. -/
def isNegativeNumber (text : List Char) : Bool :=
  let isDigit := fun c => (Text.decimalDigit? c).isSome
  match if text.getLast? = some '\n' then text.dropLast else text with
  | '-' :: rest =>
    match rest.dropWhile isDigit with
    | [] => !rest.isEmpty
    | '.' :: places => !places.isEmpty && places.all isDigit
    | _ => false
  | _ => false

/-- What an argument before the separator is; none if several options may be meant. -/
def classify (u : Usage) (argument : String) : Option Piece :=
  let text := argument.toList
  if text.head? ≠ some '-' then some (.operand argument)
  else
    match named? u text with
    | some o => some (.option o)
    | none =>
      if text = ['-'] then some (.operand argument)
      else
        let (name, value) := splitEquals text
        match value, named? u name with
        | some value, some o => some (.assigned o (String.ofList value))
        | _, _ =>
          match candidates u text with
          | [piece] => some piece
          | [] =>
            if isNegativeNumber text || text.contains ' ' then some (.operand argument)
            else some .unknown
          | _ => none

/-- What all arguments are; behind the separator they are operands. -/
def pieces (u : Usage) : List String → Option (List Piece)
  | [] => some []
  | argument :: rest =>
    if argument = "--" then some (.separator :: rest.map .operand)
    else return (← classify u argument) :: (← pieces u rest)

/-- What has been read so far; the flag tells that something has no place. -/
structure Progress where
  operand : Option String
  values : List (String × String)
  switches : List String
  surplus : Bool

def excludes (u : Usage) (key value : String) : Bool := !u.defaults.contains (key, value)

/-- Whether an option is excluded by an option that has been read. -/
def isExcluded (u : Usage) (key value : String) (p : Progress) : Bool :=
  excludes u key value &&
    p.values.any fun (other, given) =>
      excludes u other given &&
        (u.exclusive.contains (key, other) || u.exclusive.contains (other, key))

/--
Whether letters behind an option of one letter ask for help together with it. Each may be an option
of its own, the last one with a value; `followed` tells whether an operand could be that value. What
is no option does not keep the help back, but a value that none of them can take does.
-/
def asksForHelp (u : Usage) (followed : Bool) : List Char → Bool
  | [] => true
  | '-' :: _ => false
  | '=' :: _ => false
  | c :: more =>
    match named? u ['-', c] with
    | none => true
    | some o =>
      match o.kind with
      | .value => !more.isEmpty || followed
      | _ => asksForHelp u followed more

def isFollowed : List Piece → Bool
  | .operand _ :: _ => true
  | _ => false

/-- Take over the value of an option, unless the option is excluded. -/
def takeValue (u : Usage) (o : OptionRule) (value : String) (p : Progress) : Option Progress :=
  if isExcluded u o.key value p then none
  else some { p with values := p.values ++ [(o.key, value)] }

def readPieces (u : Usage) : List Piece → Progress → Reading
  | [], p =>
    match p.operand with
    | some operand => if p.surplus then .refused else .accepted ⟨operand, p.values, p.switches⟩
    | none => .refused
  | .unknown :: rest, p => readPieces u rest { p with surplus := true }
  | .separator :: .operand text :: rest, p =>
    if p.operand.isSome then readPieces u rest { p with surplus := true }
    else readPieces u rest { p with operand := some text }
  | .operand text :: .separator :: rest, p =>
    if p.operand.isSome then readPieces u rest { p with surplus := true }
    else readPieces u rest { p with operand := some text }
  | .operand text :: rest, p =>
    if p.operand.isSome then readPieces u rest { p with surplus := true }
    else readPieces u rest { p with operand := some text }
  | .separator :: rest, p => readPieces u rest { p with surplus := true }
  | .option o :: rest, p =>
    match o.kind with
    | .help => .helped
    | .switch => readPieces u rest { p with switches := p.switches ++ [o.key] }
    | .value =>
      match rest with
      | .operand value :: more =>
        match takeValue u o value p with
        | some next => readPieces u more next
        | none => .refused
      | _ => .refused
  | .assigned o value :: rest, p =>
    match takeValue u o value p with
    | some next => if o.kind = .value then readPieces u rest next else .refused
    | none => .refused
  | .joined o more :: rest, p =>
    if o.kind = .help then
      if asksForHelp u (isFollowed rest) more.toList then .helped else .refused
    else
      match takeValue u o more p with
      | some next => if o.kind = .value then readPieces u rest next else .refused
      | none => .refused

def read (u : Usage) (arguments : List String) : Reading :=
  match pieces u arguments with
  | some all => readPieces u all ⟨none, [], [], false⟩
  | none => .refused

end Arguments

end TapeMachine
