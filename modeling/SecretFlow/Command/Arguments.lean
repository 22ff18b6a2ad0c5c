set_option autoImplicit false
set_option relaxedAutoImplicit false

/-!
Arguments of a command: words, flags, and options with a value. A value stands in the next
argument or in the same one, after an equals sign or, for a short name, directly. Two hyphens end
the options.
-/

namespace SecretFlow.Command

structure OptionName where
  long : String
  short : Option Char := none
  deriving DecidableEq, Repr

/-- An option with a value, which may have to be a path. -/
structure ValueOption extends OptionName where
  isPath : Bool := false
  deriving DecidableEq, Repr

structure Usage where
  flags : List OptionName := []
  values : List ValueOption := []
  /-- The number of words, if it is limited. -/
  maxWords : Option Nat := some 0
  wordsArePaths : Bool := false
  deriving DecidableEq, Repr

inductive UsageFault where
  | unexpected (arg : String)
  | missingValue (option : String)
  | unneededValue (option : String)
  | repeated (option : String)
  | emptyPath
  | missing (what : String)
  deriving DecidableEq, Repr

def UsageFault.message : UsageFault → String
  | unexpected arg => s!"unexpected argument '{arg}' found"
  | missingValue option => s!"a value is required for '{option}' but none was supplied"
  | unneededValue option => s!"unexpected value for '{option}' found; no more were expected"
  | repeated option => s!"the argument '{option}' cannot be used multiple times"
  | emptyPath => "a path is required but none was supplied"
  | missing what => s!"the following required arguments were not provided: {what}"

/-- Why reading stops: help was asked for, or something is wrong. -/
inductive Stop where
  | help
  | fault (fault : UsageFault)
  deriving DecidableEq, Repr

structure Given where
  flags : List String := []
  values : List (String × String) := []
  words : List String := []
  deriving DecidableEq, Repr

namespace Given

def value? (g : Given) (long : String) : Option String :=
  g.values.lookup long

def addFlag (g : Given) (flag : OptionName) : Except Stop Given :=
  if g.flags.contains flag.long then .error (.fault (.repeated flag.long))
  else .ok { g with flags := g.flags ++ [flag.long] }

def addValue (g : Given) (option : ValueOption) (value : String) : Except Stop Given :=
  if (g.value? option.long).isSome then .error (.fault (.repeated option.long))
  else if option.isPath && value.isEmpty then .error (.fault .emptyPath)
  else .ok { g with values := g.values ++ [(option.long, value)] }

def addWord (g : Given) (u : Usage) (word : String) : Except Stop Given :=
  if u.maxWords.any fun most => g.words.length ≥ most then .error (.fault (.unexpected word))
  else if u.wordsArePaths && word.isEmpty then .error (.fault .emptyPath)
  else .ok { g with words := g.words ++ [word] }

def addWords (g : Given) (u : Usage) : List String → Except Stop Given
  | [] => .ok g
  | word :: rest =>
      match g.addWord u word with
      | .ok next => next.addWords u rest
      | .error e => .error e

end Given

inductive ArgumentForm where
  | endOfOptions
  | long (name : String) (value : Option String)
  | cluster (letters : List Char)
  | word
  deriving DecidableEq, Repr

/-- The form of an argument. A single hyphen is a word. -/
def formOf (arg : String) : ArgumentForm :=
  match arg.toList with
  | ['-', '-'] => .endOfOptions
  | '-' :: '-' :: body =>
      let value := match body.dropWhile (· ≠ '=') with
        | _ :: rest => some (String.ofList rest)
        | [] => none
      .long (String.ofList (body.takeWhile (· ≠ '='))) value
  | '-' :: c :: rest => .cluster (c :: rest)
  | _ => .word

/-- Read letters after a hyphen: flags, and at the end perhaps an option, with its value or without
one. -/
def readCluster (u : Usage) (arg : String) :
    Given → List Char → Except Stop (Given × Option ValueOption)
  | g, [] => .ok (g, none)
  | g, c :: rest =>
      if c = 'h' then .error .help
      else
        match u.flags.find? (·.short = some c), u.values.find? (·.short = some c) with
        | some flag, _ =>
            match g.addFlag flag with
            | .ok next => readCluster u arg next rest
            | .error e => .error e
        | none, some option =>
            match rest with
            | [] => .ok (g, some option)
            | d :: value =>
                let text := if d = '=' then value else d :: value
                (g.addValue option (String.ofList text)).map (·, none)
        | none, none => .error (.fault (.unexpected arg))

/-- Read a long name: a flag, or an option with its value or without one. -/
def readLong (u : Usage) (arg : String) (g : Given) (name : String) (value : Option String) :
    Except Stop (Given × Option ValueOption) :=
  let flag := if name = "help" then none else u.flags.find? (·.long = name)
  match flag, u.values.find? (·.long = name), value with
  | some flag, _, none => (g.addFlag flag).map (·, none)
  | some flag, _, some _ => .error (.fault (.unneededValue flag.long))
  | none, some option, some v => (g.addValue option v).map (·, none)
  | none, some option, none => .ok (g, some option)
  | none, none, _ =>
      if name = "help" then
        .error (if value.isNone then .help else .fault (.unneededValue name))
      else .error (.fault (.unexpected arg))

def readArguments (u : Usage) : Given → List String → Except Stop Given
  | g, [] => .ok g
  | g, arg :: rest =>
      let step : Except Stop (Given × Option ValueOption) :=
        match formOf arg with
        | .endOfOptions => .ok (g, none)
        | .long name value => readLong u arg g name value
        | .cluster letters => readCluster u arg g letters
        | .word => (g.addWord u arg).map (·, none)
      match formOf arg, step with
      | .endOfOptions, _ => g.addWords u rest
      | _, .error e => .error e
      | _, .ok (next, none) => readArguments u next rest
      | _, .ok (next, some option) =>
          match rest with
          | value :: others =>
              if formOf value = .word then
                match next.addValue option value with
                | .ok after => readArguments u after others
                | .error e => .error e
              else .error (.fault (.missingValue option.long))
          | [] => .error (.fault (.missingValue option.long))

end SecretFlow.Command
