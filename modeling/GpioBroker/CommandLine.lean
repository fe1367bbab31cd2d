import GpioBroker.Text.Quoted
import GpioBroker.Text.Digit

/-!
# Command lines

Programs whose options are flags, with positional words where a program takes them.  A flag may be
written in full, as an unambiguous beginning of a long name, or joined with other short flags in one
word.  The flags act from left to right; one that prints something ends the program there.  Words
that are nobody's are collected and refused at the end.
-/

namespace GpioBroker

namespace CommandLine

/-- What a flag does when it is met. -/
inductive Effect (φ : Type) where
  /-- Prints the help of the program and ends it. -/
  | showHelp
  /-- Prints a line and ends the program. -/
  | showLine (text : Text)
  | turnOn (flag : φ)
deriving Inhabited

/-- A flag: its names, each with its dashes, and its effect. -/
structure Flag (φ : Type) where
  names : List Text
  effect : Effect φ
deriving Inhabited

/-- The command line of a program. -/
structure Grammar (φ : Type) where
  program : Text
  usage : Text
  /-- What follows the usage in the help of the program. -/
  help : Text
  flags : List (Flag φ)
  /-- Whether the program takes positional words. -/
  hasWords : Bool

/-- What a program was told, or why it ends at once. -/
inductive Outcome (φ : Type) where
  | accepted (flags : List φ) (words : List Text)
  | printed (text : Text)
  | refused (reason : Text)
deriving Inhabited

variable {φ : Type}

/-- How a word of a command line is read. -/
inductive Reading (φ : Type) where
  | word
  /-- The mark after which every word is positional. -/
  | mark
  | unknown
  /-- A flag under one of its names, and what is attached to it. -/
  | flag (flag : Flag φ) (name : Text) (attached : Option Text)
  | ambiguous (candidates : List Text)
deriving Inhabited

namespace Grammar

/-- Every name of every flag, in order. -/
def named (g : Grammar φ) : List (Text × Flag φ) :=
  g.flags.flatMap fun f => f.names.map fun name => (name, f)

/-- The flag with a name. -/
def flag? (g : Grammar φ) (name : Text) : Option (Flag φ) := g.named.lookup name

end Grammar

/-- Splits a text at its first equals sign. -/
def splitAtEquals (t : Text) : Option (Text × Text) :=
  if t.toList.contains '=' then
    some (⟨t.toList.takeWhile (· != .char '=')⟩, ⟨(t.toList.dropWhile (· != .char '=')).drop 1⟩)
  else none

/-- The flags that a word may begin, with the name of each and what is attached to it. -/
def candidates (g : Grammar φ) (word : Text) : List (Flag φ × Text × Option Text) :=
  match word.toList with
  | .char '-' :: .char '-' :: _ =>
    let (start, attached) : Text × Option Text :=
      match splitAtEquals word with
      | some (start, attached) => (start, some attached)
      | none => (word, none)
    g.named.filterMap fun (name, f) =>
      if name.startsWith start then some (f, name, attached) else none
  | .char '-' :: c :: rest =>
    g.named.filterMap fun (name, f) =>
      if name = ⟨['-', c]⟩ then some (f, name, some ⟨rest⟩)
      else if name.startsWith word then some (f, name, none)
      else none
  | _ => []

/-- Whether a text is a run of decimal digits, perhaps with one line feed behind it. -/
def isDigits (cs : List CodePoint) : Bool := cs.all fun c => (Text.digitValue? c).isSome

/-- Whether a word is a negative number: digits behind a dash, or a fraction. -/
def isNegativeNumber (word : Text) : Bool :=
  match word.toList with
  | .char '-' :: body =>
    let body := if body.getLast? = some (.char '\n') then body.dropLast else body
    let whole := body.takeWhile (· != .char '.')
    match body.dropWhile (· != .char '.') with
    | [] => !whole.isEmpty && isDigits whole
    | _ :: fraction => isDigits whole && !fraction.isEmpty && isDigits fraction
  | _ => false

/-- Reads one word of a command line. -/
def read (g : Grammar φ) (word : Text) : Reading φ :=
  match word.toList with
  | .char '-' :: rest =>
    match g.flag? word with
    | some f => .flag f word none
    | none =>
      if rest.isEmpty then .word
      else
        let split := (splitAtEquals word).bind fun (name, attached) =>
          (g.flag? name).map fun f => (f, name, attached)
        match split with
        | some (f, name, attached) => .flag f name (some attached)
        | none =>
          match candidates g word with
          | [(f, name, attached)] => .flag f name attached
          | [] =>
            if isNegativeNumber word || word.toList.contains ' ' then .word else .unknown
          | several => .ambiguous (several.map fun c => c.2.1)
  | _ => .word

/-- Reads a command line; behind the first mark every word is positional. -/
def readAll (g : Grammar φ) : List Text → List (Text × Reading φ)
  | [] => []
  | word :: rest =>
    if word = "--" then (word, .mark) :: rest.map fun w => (w, .word)
    else (word, read g word) :: readAll g rest

/-- The reason for which a command line is refused before any flag acts. -/
def ambiguity? : List (Text × Reading φ) → Option Text
  | [] => none
  | (word, .ambiguous names) :: _ =>
    some ("ambiguous option: " ++ word ++ " could match " ++ Text.intercalate ", " names)
  | _ :: rest => ambiguity? rest

/-- The refusal of something attached to a flag. -/
def attachedReason (f : Flag φ) (attached : Text) : Text :=
  "argument " ++ Text.intercalate "/" f.names ++ ": ignored explicit argument " ++ attached.quoted

/-- The flags that one word stands for: the one it names and those joined to it. -/
def joined (g : Grammar φ) (f : Flag φ) (isShort : Bool) :
    Option (List CodePoint) → Except Text (List (Flag φ))
  | none => .ok [f]
  | some [] => .error (attachedReason f "")
  | some (c :: rest) =>
    if isShort then
      match g.flag? ⟨['-', c]⟩ with
      | some next =>
        match rest with
        | [] => .ok [f, next]
        | d :: more => (joined g next true (some (d :: more))).map (f :: ·)
      | none => .error (attachedReason f ⟨c :: rest⟩)
    else .error (attachedReason f ⟨c :: rest⟩)

/-- Whether a name has a single dash. -/
def isShortName (name : Text) : Bool :=
  match name.toList with
  | .char '-' :: .char '-' :: _ => false
  | _ => true

/-- What has been gathered from a command line so far. -/
structure Gathered (φ : Type) where
  flags : List φ := []
  /-- The positional words; none as long as there were none. -/
  words : Option (List Text) := none
  extras : List Text := []

/-- Lets flags act in order: what was gathered, or what is printed. -/
def act (g : Grammar φ) (s : Gathered φ) : List (Flag φ) → Except (Outcome φ) (Gathered φ)
  | [] => .ok s
  | f :: rest =>
    match f.effect with
    | .showHelp => .error (.printed (g.usage ++ "\n" ++ g.help))
    | .showLine text => .error (.printed (text ++ "\n"))
    | .turnOn flag => act g { s with flags := s.flags ++ [flag] } rest

/-- Whether a word is positional or the mark before positional words. -/
def isPositional : Reading φ → Bool
  | .word | .mark => true
  | _ => false

/-- Takes a run of positional words; only the first run counts, and one mark in it is dropped. -/
def takeRun (g : Grammar φ) (s : Gathered φ) (run : List Text) : Gathered φ :=
  if run.isEmpty then s
  else if g.hasWords && s.words.isNone then { s with words := some (run.erase "--") }
  else { s with extras := s.extras ++ run }

/-- Goes through a command line that was read, with the positional words met since the last flag. -/
def gather (g : Grammar φ) (s : Gathered φ) (run : List Text) :
    List (Text × Reading φ) → Except (Outcome φ) (Gathered φ)
  | [] => .ok (takeRun g s run)
  | (word, reading) :: rest =>
    match reading with
    | .word | .mark => gather g s (run ++ [word]) rest
    | .flag f name attached =>
      let s := takeRun g s run
      match joined g f (isShortName name) (attached.map Text.toList) with
      | .error reason => .error (.refused reason)
      | .ok flags =>
        match act g s flags with
        | .error outcome => .error outcome
        | .ok s => gather g s [] rest
    | .unknown | .ambiguous _ =>
      let s := takeRun g s run
      gather g { s with extras := s.extras ++ [word] } [] rest

/-- What a program is told by its command line. -/
def parse (g : Grammar φ) (argv : List Text) : Outcome φ :=
  let readings := readAll g argv
  match ambiguity? readings with
  | some reason => .refused reason
  | none =>
    match gather g {} [] readings with
    | .error outcome => outcome
    | .ok s =>
      if s.extras.isEmpty then .accepted s.flags (s.words.getD [])
      else .refused ("unrecognized arguments: " ++ Text.intercalate " " s.extras)

/-- What a refused program writes. -/
def refusal (g : Grammar φ) (reason : Text) : Text :=
  g.usage ++ "\n" ++ g.program ++ ": error: " ++ reason ++ "\n"

end CommandLine

end GpioBroker
