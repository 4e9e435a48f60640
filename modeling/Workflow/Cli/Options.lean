import Workflow.Cli.Word

/-!
# Options and places

How the words after a program's name are taken apart. A word that starts with two hyphens is an
option; its value, if it takes one, is what follows an equals sign in the same word, or else the
next word, which must not look like an option. Two hyphens alone end the options. Other words name
a subcommand, to which the rest belongs, or fill places in their order. No option may be given
twice, and values and what is in places must have a meaning.

Words are read from left to right, and the first that makes no sense or asks for help decides. A
word of its own that is a value or fills a place is judged when the next option or place is read,
or at the end; words that belong to a subcommand are judged before it.
-/

namespace Workflow

/-- What the words of a command may be. -/
structure CommandForm where
  /-- Options with a value. -/
  valued : List (String × WordKind)
  /-- Options without one. -/
  flags : List String
  places : List WordKind
  subcommands : List String
  /-- Whether the program's version can be asked for. -/
  hasVersion : Bool
deriving DecidableEq, Repr

/-- A word that is not judged yet. -/
inductive PendingWord where
  | value (option word : String)
  | place (word : String)
deriving DecidableEq, Repr

/-- The words of a command, sorted. -/
structure CommandWords where
  values : List (String × String)
  flags : List String
  places : List String
  pending : Option PendingWord
  /-- The subcommand and the words that belong to it. -/
  subcommand : Option (String × List String)
deriving DecidableEq, Repr

/-- Why the words of a command lead no further. -/
inductive Interruption where
  /-- The words make no sense. -/
  | misuse
  | helpWanted
  | versionWanted
deriving DecidableEq, Repr

/-- Words that make no sense unless they have a meaning. -/
def orMisuse {α : Type} : Option α → Except Interruption α
  | some a => .ok a
  | none => .error .misuse

namespace CommandWords

/-- No words at all. -/
def empty : CommandWords :=
  ⟨[], [], [], none, none⟩

/-- The value of an option. -/
def value? (words : CommandWords) (name : String) : Option String :=
  words.values.lookup name

/-- Whether an option without value is given. -/
def has (words : CommandWords) (name : String) : Bool :=
  words.flags.contains name

/-- The word in a place. -/
def place? (words : CommandWords) (index : Nat) : Option String :=
  words.places[index]?

end CommandWords

namespace CommandForm

/-- The name of an option and the value in the same word, if the word is an option. -/
def option? (word : String) : Option (String × Option String) :=
  match word.toList with
  | '-' :: '-' :: rest =>
    match rest.dropWhile (· ≠ '=') with
    | _ :: value => some (.ofList (rest.takeWhile (· ≠ '=')), some (.ofList value))
    | [] => some (.ofList rest, none)
  | _ => none

/-- Whether a word can be the value of the option before it. -/
def isPlain (word : String) : Bool :=
  match word.toList with
  | '-' :: _ :: _ => false
  | _ => true

/-- Judge the word that is pending. -/
def settle (form : CommandForm) (words : CommandWords) : Except Interruption CommandWords :=
  let rest := { words with pending := none }
  match words.pending with
  | none => .ok words
  | some (.value name word) => do
    let kind ← orMisuse (form.valued.lookup name)
    if (words.value? name).isNone ∧ kind.accepts word then
      return { rest with values := words.values ++ [(name, word)] }
    else .error .misuse
  | some (.place word) => do
    let kind ← orMisuse form.places[words.places.length]?
    if kind.accepts word then return { rest with places := words.places ++ [word] }
    else .error .misuse

/-- Put a word in the next place. -/
def fill (form : CommandForm) (words : CommandWords) (word : String) :
    Except Interruption CommandWords := do
  let words ← form.settle words
  if words.places.length < form.places.length then
    return { words with pending := some (.place word) }
  else .error .misuse

/-- What a word of one hyphen and letters leads to. -/
def interruption (form : CommandForm) (word : String) : Interruption :=
  match word.toList.drop 1 with
  | 'h' :: _ => .helpWanted
  | 'V' :: _ => if form.hasVersion then .versionWanted else .misuse
  | _ => .misuse

/-- What asking for help on a subcommand leads to. -/
def helpOn (form : CommandForm) : List String → Interruption
  | [] => .helpWanted
  | [word] => if form.subcommands.contains word ∨ word = "help" then .helpWanted else .misuse
  | _ => .misuse

/-- Sort the words of a command, given those before. A word is left pending before a subcommand. -/
def sort (form : CommandForm) (before : CommandWords) :
    List String → Except Interruption CommandWords
  | [] => form.settle before
  | word :: rest =>
    if form.subcommands.contains word then .ok { before with subcommand := some (word, rest) }
    else if word = "help" ∧ form.subcommands ≠ [] then .error (form.helpOn rest)
    else if word = "--" then do form.settle (← rest.foldlM form.fill before)
    else
      match option? word with
      | some (name, value) => do
        let before ← form.settle before
        if (form.valued.lookup name).isSome then
          match value, rest with
          | some value, rest => do
            let words ← form.settle { before with pending := some (.value name value) }
            form.sort words rest
          | none, value :: rest =>
            if isPlain value then form.sort { before with pending := some (.value name value) } rest
            else .error .misuse
          | none, [] => .error .misuse
        else if value.isSome ∨ before.has name then .error .misuse
        else if form.flags.contains name then
          form.sort { before with flags := before.flags ++ [name] } rest
        else if name = "help" then .error .helpWanted
        else if name = "version" ∧ form.hasVersion then .error .versionWanted
        else .error .misuse
      | none =>
        if isPlain word then do
          let words ← form.fill before word
          form.sort words rest
        else do
          let _ ← form.settle before
          .error (form.interruption word)
termination_by words => words.length

end CommandForm

end Workflow
