import PortMap.Text.Likeness

/-!
# Options among the words of a command line

The words of a command line are options with their values, and arguments. A long option begins with two
dashes, and its value follows an equals sign or is the next word; a short option is a dash and a
character, several of them may share a dash, and a value is what follows in the same word or the next
word. After the word `--` there are no more options.

`Words.split` separates the two. Options are looked for up to the first argument, or among the arguments
as well.
-/

namespace PortMap.Cli

/-- What an option may be given. -/
inductive Given where
  /-- A value. -/
  | value (text : String)
  /-- Nothing: the option is a switch, and this is its position. -/
  | switch (on : Bool)
  deriving DecidableEq, Repr

/-- What an option is given. -/
inductive Arity where
  /-- A value. -/
  | takesValue
  /-- Nothing; the option puts a switch into a position. -/
  | switches (on : Bool)
  deriving DecidableEq, Repr

/-- A spelling of an option. -/
structure Spelling (α : Type) where
  /-- How it is spelled, with its dashes. -/
  word : List Char
  /-- The option. -/
  option : α
  /-- What it is given. -/
  arity : Arity

/-- Why words are no options. -/
inductive Words.Fault where
  /-- No option is spelled so; some are spelled nearly so. -/
  | noSuchOption (word : String) (near : List String)
  /-- The value is missing. -/
  | needsArgument (word : String)
  /-- The option has a value and takes none. -/
  | takesNoValue (word : String)
  deriving DecidableEq, Repr

namespace Words

variable {α : Type}

/-- The options of a word, what they are given, and how many of the next words are used up. -/
structure Taken (α : Type) where
  /-- The options, in order. -/
  options : List (α × Given)
  /-- How many of the next words are used up. -/
  used : Nat

/-- The value of an option from the next words. -/
def nextValue (s : Spelling α) (next : List (List Char)) : Except Fault (Taken α) :=
  match next with
  | [] => .error (.needsArgument (String.ofList s.word))
  | w :: _ => .ok ⟨[(s.option, .value (String.ofList w))], 1⟩

/-- Reads a long option with the value after its equals sign, if it has one. -/
def takeLong (s : Spelling α) (value : Option (List Char)) (next : List (List Char)) :
    Except Fault (Taken α) :=
  match s.arity, value with
  | .takesValue, some v => .ok ⟨[(s.option, .value (String.ofList v))], 0⟩
  | .takesValue, none => nextValue s next
  | .switches _, some _ => .error (.takesNoValue (String.ofList s.word))
  | .switches on, none => .ok ⟨[(s.option, .switch on)], 0⟩

/-- Reads the short options that share a dash. -/
def takeShort (spellings : List (Spelling α)) (next : List (List Char)) :
    List Char → Except Fault (Taken α)
  | [] => .ok ⟨[], 0⟩
  | c :: rest =>
    match spellings.find? fun s => s.word == ['-', c] with
    | none => .error (.noSuchOption (String.ofList ['-', c]) [])
    | some s =>
      match s.arity with
      | .takesValue =>
        if rest.isEmpty then nextValue s next
        else .ok ⟨[(s.option, .value (String.ofList rest))], 0⟩
      | .switches on =>
        (takeShort spellings next rest).map fun t => ⟨(s.option, .switch on) :: t.options, t.used⟩

/-- The spelling of a word before an equals sign, and the value after it. -/
def splitEquals (word : List Char) : List Char × Option (List Char) :=
  let name := word.takeWhile (· != '=')
  match word.drop name.length with
  | _ :: value => (name, some value)
  | [] => (name, none)

/-- Whether a word begins with two dashes. -/
def isLong (word : List Char) : Bool := word.take 2 == ['-', '-']

/-- The fault of a long option that is not known. -/
def unknownLong (spellings : List (Spelling α)) (name : List Char) : Fault :=
  let known := (spellings.filter fun s => isLong s.word).map fun s => String.ofList s.word
  .noSuchOption (String.ofList name) (Text.closest known (String.ofList name))

/-- Reads the options of a word. -/
def take (spellings : List (Spelling α)) (word : List Char) (next : List (List Char)) :
    Except Fault (Taken α) :=
  let (name, value) := splitEquals word
  match spellings.find? fun s => isLong s.word && s.word == name with
  | some s => takeLong s value next
  | none =>
    if isLong word then .error (unknownLong spellings name)
    else takeShort spellings next (word.drop 1)

/-- Whether a word holds options: it is a dash with something after it. -/
def isOptions (word : List Char) : Bool := word.head? == some '-' && 1 < word.length

/-- Separates the options from the arguments; `mixed` says whether options may follow arguments. -/
def splitWords (spellings : List (Spelling α)) (mixed : Bool) :
    List (List Char) → Except Fault (List (α × Given) × List (List Char))
  | [] => .ok ([], [])
  | word :: next =>
    if word = ['-', '-'] then .ok ([], next)
    else if isOptions word then
      match take spellings word next with
      | .error e => .error e
      | .ok t =>
        (splitWords spellings mixed (next.drop t.used)).map fun (options, arguments) =>
          (t.options ++ options, arguments)
    else if mixed then
      (splitWords spellings mixed next).map fun (options, arguments) => (options, word :: arguments)
    else .ok ([], word :: next)
  termination_by words => words.length

/-- Separates the options from the arguments. -/
def split (spellings : List (Spelling α)) (mixed : Bool) (words : List String) :
    Except Fault (List (α × Given) × List String) :=
  (splitWords spellings mixed (words.map String.toList)).map fun (options, arguments) =>
    (options, arguments.map String.ofList)

end Words

/-! ### What options were given -/

variable {α : Type} [BEq α]

/-- What an option was given last. -/
def lastGiven (options : List (α × Given)) (o : α) : Option Given := options.reverse.lookup o

/-- How often an option was given. -/
def timesGiven (options : List (α × Given)) (o : α) : Nat := options.countP fun x => x.1 == o

/-- The options that were given, in the order in which they were given first. -/
def optionsGiven (options : List (α × Given)) : List α := (options.map (·.1)).eraseDups

end PortMap.Cli
