import TokenLens.Number.Numeral

/-!
# Command-line arguments

The first argument names a command; before it there may be a request for help. The others are
options, the values of options, and the one positional argument that every command but `sigs` takes.
They may come in any order.

- An option is known by its name or by any start of it that fits no other option of the command. Its
  value follows as the next argument, or after an equals sign. Two dashes after an equals sign are
  dropped, which leaves the option without a value.
- An argument that starts with a dash is a value only if it is the dash alone, a negative number, or
  holds a space.
- After two dashes alone every argument is a value. The two dashes themselves may stand just before
  or just after the positional argument, and nowhere else.
- Where an option is repeated the last one counts, but each of them has to be well formed.

Arguments are read from the left. A start that fits several options is refused before anything else;
what is malformed is refused where it stands; help is given where it is asked for; and only then is
refused what was left over or is missing.
-/

namespace TokenLens

/-- The commands. -/
inductive CommandName where
  | abi
  | bytecode
  | sigs
  | proxy
  | address
deriving DecidableEq, Repr

/-- The options. -/
inductive OptionName where
  | help
  | percent
  | abi
  | bytecode
  | describe
  | rpcUrl
  | maxNodes
deriving DecidableEq, Repr

namespace CommandName

/-- The commands with their names. -/
def named : List (Text × CommandName) :=
  [("abi", .abi), ("bytecode", .bytecode), ("sigs", .sigs), ("proxy", .proxy),
   ("address", .address)]

/-- The command of a name. -/
def ofText? (name : Text) : Option CommandName :=
  named.lookup name

/-- The options of a command. -/
def options : CommandName → List OptionName
  | .abi => [.help, .percent]
  | .bytecode => [.help, .percent]
  | .sigs => [.help, .abi, .bytecode, .describe]
  | .proxy => [.help, .rpcUrl]
  | .address => [.help, .rpcUrl, .maxNodes]

/-- Whether a command takes a positional argument. -/
def takesPositional : CommandName → Bool
  | .sigs => false
  | _ => true

end CommandName

namespace OptionName

/-- How an option is written. -/
def text : OptionName → Text
  | .help => "--help"
  | .percent => "--percent"
  | .abi => "--abi"
  | .bytecode => "--bytecode"
  | .describe => "--describe"
  | .rpcUrl => "--rpc-url"
  | .maxNodes => "--max-nodes"

/-- Whether an option takes a value. -/
def takesValue : OptionName → Bool
  | .help => false
  | .describe => false
  | _ => true

/-- Whether an option can be given a value. -/
def admits (value : Text) : OptionName → Bool
  | .percent => (Numeral.readDecimal? value).isSome
  | .maxNodes => (Numeral.readInteger? value).isSome
  | _ => true

/-- Whether two options exclude each other. -/
def excludes : OptionName → OptionName → Bool
  | .abi, .bytecode => true
  | .bytecode, .abi => true
  | _, _ => false

end OptionName

/-- What an argument is by its own form. -/
inductive Token where
  | value (text : Text)
  | option (name : OptionName) (attached : Option Text)
  | separator
  | unknown
  | ambiguous
deriving DecidableEq, Repr

namespace Token

/-- Whether a code point is a decimal digit of some script. -/
def isDigit (point : CodePoint) : Bool :=
  (Text.decimalDigitValue? point).isSome

/-- Whether a text is digits with at most one point before the last of them. -/
def isUnsignedNumber (text : Text) : Bool :=
  match text.dropWhile isDigit with
  | [] => !text.isEmpty
  | .char '.' :: fraction => !fraction.isEmpty && fraction.all isDigit
  | _ => false

/-- A text without the line feed that may end it. -/
def dropFinalLineFeed (text : Text) : Text :=
  if text.getLast? = some (.char '\n') then text.dropLast else text

/-- Whether a text is a negative number. -/
def isNegativeNumber : Text → Bool
  | .char '-' :: magnitude => isUnsignedNumber (dropFinalLineFeed magnitude)
  | _ => false

/-- A text up to its first equals sign, and what follows the sign if there is one. -/
def splitAttached (text : Text) : Text × Option Text :=
  match text.dropWhile (· ≠ .char '=') with
  | [] => (text, none)
  | _ :: attached => (text.takeWhile (· ≠ .char '='), some attached)

/-- What a text that starts with a dash is when it names no option. -/
def ofUnnamed (text : Text) : Token :=
  if isNegativeNumber text || text.contains (.char ' ') then .value text else .unknown

/-- What a text that starts with two dashes and goes on is. -/
def ofLong (options : List OptionName) (text : Text) : Token :=
  let (start, attached) := splitAttached text
  match options.filter fun name => start.isPrefixOf name.text with
  | [] => ofUnnamed text
  | [name] => .option name attached
  | _ => .ambiguous

/-- What an argument is before two dashes alone have been met. What follows the letter that asks for
help is more of the same letter, or attached to it. -/
def ofArgument (options : List OptionName) (argument : Text) : Token :=
  match argument with
  | [.char '-', .char '-'] => .separator
  | .char '-' :: .char '-' :: rest => ofLong options (.char '-' :: .char '-' :: rest)
  | [.char '-'] => .value argument
  | .char '-' :: .char 'h' :: rest =>
      .option .help (if rest.all (· = .char 'h') then none else some rest)
  | .char '-' :: rest => ofUnnamed (.char '-' :: rest)
  | _ => .value argument

/-- What arguments are. -/
def ofArguments (options : List OptionName) : List Text → List Token
  | [] => []
  | argument :: rest =>
      match ofArgument options argument with
      | .separator => .separator :: rest.map .value
      | token => token :: ofArguments options rest

end Token

/-- What an option was given: it is absent, stands without a value, or has one. -/
inductive Given (α : Type) where
  | absent
  | vacant
  | value (content : α)
deriving DecidableEq, Repr

namespace Given

variable {α β : Type}

/-- The value, if there is one. -/
def value? : Given α → Option α
  | .value content => some content
  | _ => none

/-- What was given, with its value read. -/
def read? (reader : α → Option β) : Given α → Option (Given β)
  | .absent => some .absent
  | .vacant => some .vacant
  | .value content => (reader content).map .value

end Given

/-- The positional argument, if one has been met, the options in order with the values that they
have, and whether something was left over. -/
structure Arguments where
  positional : Option Text
  options : List (OptionName × Option Text)
  leftover : Bool
deriving DecidableEq, Repr

/-- Why arguments are not taken to their end. -/
inductive Interruption where
  | refused
  | help
deriving DecidableEq, Repr

namespace Arguments

/-- No arguments yet. -/
def none : Arguments := ⟨.none, [], false⟩

/-- All that an option was given, in order. -/
def valuesOf (arguments : Arguments) (name : OptionName) : List (Option Text) :=
  (arguments.options.filter fun option => option.1 = name).map (·.2)

/-- Whether an option was given. -/
def has (arguments : Arguments) (name : OptionName) : Bool :=
  !(arguments.valuesOf name).isEmpty

/-- What an option was given last. -/
def given (arguments : Arguments) (name : OptionName) : Given Text :=
  match (arguments.valuesOf name).getLast? with
  | .none => .absent
  | some .none => .vacant
  | some (some content) => .value content

/-- Arguments with something left over. -/
def leave (arguments : Arguments) : Arguments :=
  { arguments with leftover := true }

/-- Arguments with one more option. -/
def addOption (arguments : Arguments) (name : OptionName) (value : Option Text) :
    Except Interruption Arguments :=
  if value.any fun content => !name.admits content then .error .refused
  else if arguments.options.any fun option => name.excludes option.1 then .error .refused
  else .ok { arguments with options := arguments.options ++ [(name, value)] }

/-- Arguments with an option that takes no value. -/
def addFlag (arguments : Arguments) (name : OptionName) : Except Interruption Arguments :=
  if name = .help then .error .help else arguments.addOption name .none

/-- The value that an attached text leaves. -/
def attachedValue (attached : Text) : Option Text :=
  if attached = "--" then .none else some attached

/-- The arguments that tokens make up, in addition to those already met. -/
def ofTokens (met : Arguments) (takesPositional : Bool) :
    List Token → Except Interruption Arguments
  | [] => .ok met
  | .option name (some attached) :: rest => do
      if !name.takesValue then .error .refused
      else ofTokens (← met.addOption name (attachedValue attached)) takesPositional rest
  | .option name .none :: rest => do
      if !name.takesValue then ofTokens (← met.addFlag name) takesPositional rest
      else match rest with
        | .value value :: rest => ofTokens (← met.addOption name value) takesPositional rest
        | _ => .error .refused
  | .value value :: rest =>
      if takesPositional && met.positional.isNone then
        let met := { met with positional := some value }
        match rest with
        | .separator :: rest => ofTokens met takesPositional rest
        | rest => ofTokens met takesPositional rest
      else ofTokens met.leave takesPositional rest
  | .separator :: .value value :: rest =>
      if takesPositional && met.positional.isNone then
        ofTokens { met with positional := some value } takesPositional rest
      else ofTokens met.leave takesPositional rest
  | .separator :: rest => ofTokens met.leave takesPositional rest
  | .unknown :: rest => ofTokens met.leave takesPositional rest
  | .ambiguous :: _ => .error .refused
termination_by structural tokens => tokens

/-- The arguments that all tokens make up. -/
def ofAllTokens (takesPositional : Bool) (tokens : List Token) : Except Interruption Arguments :=
  if tokens.contains .ambiguous then .error .refused else none.ofTokens takesPositional tokens

/-- Whether nothing is left over and no positional argument is missing. -/
def isComplete (arguments : Arguments) (takesPositional : Bool) : Bool :=
  !arguments.leftover && (arguments.positional.isSome || !takesPositional)

end Arguments

/-- Where selectors are to be listed from. -/
inductive SelectorSource where
  | abi (source : Text)
  | bytecode (source : Text)
  | nowhere
deriving DecidableEq, Repr

/-- A command with its arguments. -/
inductive Command where
  | abi (source : Text) (percent : Given Binary64)
  | bytecode (source : Text) (percent : Given Binary64)
  | sigs (source : SelectorSource) (describe : Bool)
  | proxy (address : Text) (rpcUrl : Option Text)
  | address (address : Text) (rpcUrl : Option Text) (maxNodes : Option Int)
deriving DecidableEq, Repr

/-- What a list of arguments asks for. -/
inductive Invocation where
  | help
  | command (command : Command)
deriving DecidableEq, Repr

namespace Command

/-- The one of two sources that was given. -/
def selectorSource? (arguments : Arguments) : Option SelectorSource :=
  match arguments.given .abi, arguments.given .bytecode with
  | .absent, .absent => none
  | .value source, _ => some (.abi source)
  | _, .value source => some (.bytecode source)
  | _, _ => some .nowhere

/-- The command of a name with its arguments. -/
def ofParsed? (name : CommandName) (arguments : Arguments) : Option Command := do
  match name with
  | .abi =>
      let percent ← (arguments.given .percent).read? Numeral.readDecimal?
      return .abi (← arguments.positional) percent
  | .bytecode =>
      let percent ← (arguments.given .percent).read? Numeral.readDecimal?
      return .bytecode (← arguments.positional) percent
  | .sigs => return .sigs (← selectorSource? arguments) (arguments.has .describe)
  | .proxy => return .proxy (← arguments.positional) (arguments.given .rpcUrl).value?
  | .address =>
      let maxNodes ← (arguments.given .maxNodes).read? Numeral.readInteger?
      return .address (← arguments.positional) (arguments.given .rpcUrl).value? maxNodes.value?

end Command

namespace Invocation

/-- What the arguments of a command ask for, when something may have been left over before them. -/
def ofTokens? (leftover : Bool) (name : CommandName) (tokens : List Token) : Option Invocation :=
  match Arguments.ofAllTokens name.takesPositional tokens with
  | .error .refused => none
  | .error .help => some .help
  | .ok arguments =>
      if !leftover && arguments.isComplete name.takesPositional then
        (Command.ofParsed? name arguments).map .command
      else none

/-- What a list of arguments asks for, when something may have been left over before them. -/
def ofRest? (leftover : Bool) : List Text → Option Invocation
  | [] => none
  | argument :: rest =>
      match Token.ofArgument [.help] argument with
      | .option _ none => some .help
      | .unknown => ofRest? true rest
      | .value text => do
          let name ← CommandName.ofText? text
          ofTokens? leftover name (Token.ofArguments name.options rest)
      | _ => none

/-- What a list of arguments asks for, if it is well formed. -/
def ofArguments? (arguments : List Text) : Option Invocation :=
  ofRest? false arguments

end Invocation

end TokenLens
