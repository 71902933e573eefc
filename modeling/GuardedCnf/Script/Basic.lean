/-! # Scripts — commands for a shell

    A tool of a run may be a shell with a script, which `Script.launcher` then plays.
    A script is a list of commands.  A simple command is made of words, and words
    of parts: characters, quotes and expansions.  Compound commands hold other
    commands.  Every command that can fail knows its line, for messages.

    Scripts have two dialects.  All shells know the portable one; in the extended
    one there are also lists, conditions and sums as commands of their own, and
    more treatments of values. -/

namespace GuardedCnf.Script

/-- What an expansion makes of the value of a parameter. -/
inductive Treatment where
  | value
  /-- The number of characters, or of items. -/
  | length
  /-- A word instead of the value that is missing. -/
  | otherwise
  /-- The same, which the parameter gets too. -/
  | assignOtherwise
  /-- An error if the value is missing. -/
  | demand
  /-- A word if the value is there. -/
  | instead
  /-- Without the shortest or longest beginning that matches a pattern. -/
  | dropStart (longest : Bool)
  /-- Without the shortest or longest end that matches a pattern. -/
  | dropEnd (longest : Bool)
  /-- The part between places. -/
  | slice
  /-- Another text instead of what matches a pattern: everywhere, or once, perhaps
      only at the start or at the end. -/
  | replace (everywhere : Bool) (anchor : Option Char)
  /-- With a large or small first letter, or only such letters. -/
  | letters (large all : Bool)
  /-- In the form that a letter names. -/
  | form (letter : Char)
  /-- The value of the parameter that the value names. -/
  | indirect
  /-- The keys of the items. -/
  | keys
  /-- An error, with the text of the expansion. -/
  | bad (text : String)

/-- What a redirection does. -/
inductive Direction where
  | read
  | write
  /-- Writes even if files are protected. -/
  | overwrite
  | append
  | update
  /-- Makes a stream the same as another one. -/
  | duplicate
  /-- Writes what goes to the standard output and to the standard error output,
      perhaps at the end of a file. -/
  | writeBoth (append : Bool)
  /-- Reads a word. -/
  | line
  /-- Reads the text at a place in the table of texts. -/
  | here (place : Nat)

/-- A change of the streams of a command. -/
structure Redirection (Word : Type) where
  stream : Nat
  direction : Direction
  target : Word

/-- What a command sets: a variable or one of its items. -/
structure Setting (Word : Type) where
  name : String
  index : Option Word
  /-- Whether the value is added to what is there. -/
  adds : Bool
  value : Word

/-- What comes after a case that matches. -/
inductive AfterCase where
  | stop
  /-- The commands of the next case. -/
  | through
  /-- The next case that matches. -/
  | again
deriving DecidableEq

mutual

/-- A part of a word. -/
inductive Part where
  | char (c : Char)
  /-- Characters that have no meaning of their own. -/
  | exact (text : String)
  /-- What is between two quotes in which expansions take place. -/
  | quoted (parts : List Part)
  /-- The value of a parameter, or of one or all of its items, where an empty value
      is a missing one if `orEmpty`. -/
  | param (name : String) (index : Option (List Part)) (treatment : Treatment) (orEmpty : Bool)
      (word : List Part)
  /-- The output of commands. -/
  | output (commands : Option Command)
  /-- The path of a stream with the output of commands. -/
  | feed (commands : Option Command)
  /-- The value of an arithmetic expression. -/
  | sum (expression : List Part)
  /-- The items of a list, some of which have keys. -/
  | items (values : List (Option (List Part) × List Part))

/-- A condition that is a command. -/
inductive Check where
  | unary (operator : String) (a : List Part)
  | binary (operator : String) (a b : List Part)
  | not (a : Check)
  | both (a b : Check)
  | either (a b : Check)

/-- A command. -/
inductive Command where
  | simple (line : Nat) (settings : List (Setting (List Part))) (words : List (List Part))
      (redirections : List (Redirection (List Part)))
  | pipe (commands : List Command)
  | negated (command : Command)
  | both (first second : Command)
  | either (first second : Command)
  | sequence (commands : List Command)
  | background (command : Command)
  | redirected (line : Nat) (command : Command) (redirections : List (Redirection (List Part)))
  | subshell (line : Nat) (command : Command) (redirections : List (Redirection (List Part)))
  | choice (condition yes : Command) (no : Option Command)
  /-- Repeats as long as the condition fails if `failing`, and holds if not. -/
  | loop (failing : Bool) (condition body : Command)
  /-- Repeats for each word, or for each parameter. -/
  | each (line : Nat) (name : String) (words : Option (List (List Part))) (body : Command)
  /-- Repeats as long as a sum is not zero, with a sum before and after each round. -/
  | count (line : Nat) (start condition next : List Part) (body : Command)
  | select (line : Nat) (word : List Part)
      (cases : List (List (List Part) × Option Command × AfterCase))
  | check (line : Nat) (condition : Check)
  /-- Tells whether a sum is not zero. -/
  | sum (line : Nat) (expression : List Part)
  | function (name : String) (body : Command)

end

/-- A word. -/
abbrev Word := List Part

/-- Whether a character can begin the name of a variable. -/
def isNameStart (c : Char) : Bool := c.isAlpha || c = '_'

/-- Whether a character can be in the name of a variable. -/
def isNameChar (c : Char) : Bool := c.isAlphanum || c = '_'

/-- Whether a text is the name of a variable. -/
def isName (s : String) : Bool :=
  match s.toList with
  | c :: cs => isNameStart c && cs.all isNameChar
  | [] => false

/-- Whether a character names a parameter of its own. -/
def isSpecial (c : Char) : Bool := ['@', '*', '#', '?', '-', '$', '!', '0'].contains c || c.isDigit

end GuardedCnf.Script
