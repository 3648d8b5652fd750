/-!
# Command lines

How the words of a command line are read. A command has options, written `--name value` or
`--name=value`, flags, and `-h` or `--help`. A word after an option without a value is its value
unless it starts with a dash. Words that are neither are the names of subcommands, if the command
has any.

An option is settled when the next one begins or the words end: then it must have a value, must not
have been given before, and its value must be accepted.
-/

namespace RedemptionWatch.Cli

/-- Why a command line is not carried out. -/
inductive UsageError where
  | unknownArgument
  | invalidSubcommand
  /-- A value is missing, or is none of the possible ones. -/
  | invalidValue
  /-- A value cannot be read. -/
  | unreadableValue
  | missingRequired
  | missingSubcommand
  /-- An option is given twice. -/
  | repeated
  /-- A flag is given a value. -/
  | surplusValue
  /-- Help is asked for. -/
  | help
  /-- Nothing is given at all. -/
  | nothingGiven
  deriving DecidableEq, Repr

/-- What goes with the name of an option. -/
inductive Arity where
  /-- A value, unless the function says that it is refused. -/
  | value (refuses : String → Option UsageError)
  | flag
  | help

/-- What a command understands. -/
structure Grammar where
  options : List (String × Arity)
  subcommands : List String

/-- Any value is accepted. -/
def anyText : Arity := .value fun _ => none

/-- An option whose values are read by a function. -/
def readBy {α : Type} (read : String → Option α) : Arity :=
  .value fun s => if (read s).isSome then none else some .unreadableValue

/-- An option whose values are some words. -/
def oneOf (words : List String) : Arity :=
  .value fun s => if s ∈ words then none else some .invalidValue

/-- An option that is not settled yet. -/
structure Pending where
  name : String
  refuses : String → Option UsageError
  given : Option String

/-- The words that have been read. -/
structure Reading where
  /-- Settled options with their values, a flag with an empty one. -/
  given : List (String × String)
  pending : Option Pending
  /-- Has there been a `--`? -/
  trailing : Bool

/-- The word for a subcommand, and the words after it. -/
abbrev Subcommand := String × List String

namespace Reading

/-- Nothing has been read. -/
def start : Reading := ⟨[], none, false⟩

/-- Adds an option. -/
def add (r : Reading) (name value : String) : Except UsageError Reading :=
  if r.given.any (·.1 = name) then .error .repeated
  else .ok { r with given := r.given ++ [(name, value)], pending := none }

/-- Settles the pending option. -/
def settle (r : Reading) : Except UsageError Reading :=
  match r.pending with
  | none => .ok r
  | some ⟨_, _, none⟩ => .error .invalidValue
  | some ⟨name, refuses, some value⟩ => do
    let r ← r.add name value
    match refuses value with
    | some e => throw e
    | none => return r

/-- Is a value waited for? -/
def awaits (r : Reading) : Bool :=
  match r.pending with
  | some ⟨_, _, none⟩ => true
  | _ => false

/-- Begins an option, which may have its value with it. -/
def begin (r : Reading) (name : String) (value : Option String) (arity : Arity) :
    Except UsageError Reading :=
  match arity, value with
  | .value refuses, _ => do
    let r ← r.settle
    let r := { r with pending := some ⟨name, refuses, value⟩ }
    if value.isSome then r.settle else return r
  | _, some _ => .error .surplusValue
  | .flag, none => do
    let r ← r.settle
    r.add name ""
  | .help, none => do
    let _ ← r.settle
    throw .help

/-- The value of a settled option. -/
def get? (r : Reading) (name : String) : Option String :=
  r.given.lookup name

end Reading

/-- The name and the value of a word that starts with `--`. -/
def longOption? (word : String) : Option (String × Option String) :=
  match word.toList with
  | '-' :: '-' :: cs =>
    let name := String.ofList (cs.takeWhile (· ≠ '='))
    match cs.dropWhile (· ≠ '=') with
    | _ :: value => some (name, some (String.ofList value))
    | [] => some (name, none)
  | _ => none

/-- The letters of a word that starts with one dash. -/
def letters? (word : String) : Option (List Char) :=
  match word.toList with
  | '-' :: c :: cs => some (c :: cs)
  | _ => none

namespace Grammar

/-- The error of a word that is no option. -/
def strayWord (c : Grammar) (trailing : Bool) (word : String) : UsageError :=
  if c.subcommands.isEmpty ∨ (trailing ∧ word ∈ c.subcommands) then .unknownArgument
  else .invalidSubcommand

/-- Reads words up to the name of a subcommand. -/
def read (c : Grammar) (r : Reading) :
    List String → Except UsageError (Reading × Option Subcommand)
  | [] => do return (← r.settle, none)
  | word :: rest =>
    if r.trailing then .error (c.strayWord true word)
    else if ¬r.awaits ∧ word ∈ c.subcommands then .ok (r, some (word, rest))
    else if word = "--" then read c { r with trailing := true } rest
    else match longOption? word, letters? word with
      | some (name, value), _ =>
        match c.options.lookup name with
        | some arity => do read c (← r.begin name value arity) rest
        | none => .error .unknownArgument
      | none, some letters =>
        if letters.head? = some 'h' then do
          let _ ← r.settle
          throw .help
        else .error .unknownArgument
      | none, none =>
        match r.pending with
        | some ⟨name, refuses, none⟩ =>
          read c { r with pending := some ⟨name, refuses, some word⟩ } rest
        | _ => .error (c.strayWord false word)

/-- Reads all words of a command without subcommands, of which some options are required. -/
def readAll (c : Grammar) (required : List String) (words : List String) :
    Except UsageError Reading := do
  let (r, _) ← c.read .start words
  if required.all fun name => (r.get? name).isSome then return r else throw .missingRequired

end Grammar

end RedemptionWatch.Cli
