import EraRewards.Environment
import EraRewards.Files
import EraRewards.Text.Case
import EraRewards.Text.Lines

/-!
# Variables from a file

A file of assignments, one a line, may supply variables that the environment lacks.  A value may
stand between quotes, in which backslash escapes are read and line breaks are kept; an unquoted
value ends at a comment.  A value may refer to variables, for which the environment is asked before
the file.  A line that is not understood is skipped, but a variable that no process can have makes the
whole file fail.
-/

namespace EraRewards
namespace Dotenv

/-- A line of a file: nothing, or a variable with its value. -/
structure Binding where
  /-- The variable; none for an empty or malformed line. -/
  name? : Option String
  /-- Its value; none without an equals sign. -/
  value? : Option String

/-- Whether a character is a blank within a line. -/
def isInnerBlank (c : Char) : Bool := Text.isBlank c && c != '\n' && c != '\r'

/-- A text without the blanks of the line at its beginning. -/
def skipBlanks (cs : List Char) : List Char := cs.dropWhile isInnerBlank

/-- A text without a leading export mark. -/
def skipExport (cs : List Char) : List Char :=
  if cs.take 6 == "export".toList && (cs.drop 6).head?.any isInnerBlank then skipBlanks (cs.drop 6)
  else cs

/-- The name of a variable, and the text after it; no name before a comment.  Like every reader of
a part of a line, it fails with the text from which the rest of the line is skipped. -/
def readName (cs : List Char) : Except (List Char) (Option String × List Char) :=
  match cs with
  | '#' :: _ => .ok (none, cs)
  | '\x27' :: rest =>
    let name := rest.takeWhile (· != '\x27')
    match name, rest.drop name.length with
    | _ :: _, _ :: after => .ok (some (String.ofList name), after)
    | _, _ => .error cs
  | _ =>
    let isNameChar (c : Char) : Bool := c != '=' && c != '#' && !Text.isBlank c
    match cs.takeWhile isNameChar with
    | [] => .error cs
    | name => .ok (some (String.ofList name), cs.dropWhile isNameChar)

/-- Length of a quoted value up to its closing quote.  A backslash takes the next character with it,
also a quote, another backslash or a line break. -/
def closedLength? (quote : Char) : List Char → Option Nat
  | [] => none
  | '\\' :: rest =>
    match rest with
    | [] => none
    | _ :: rest => (closedLength? quote rest).map (· + 2)
  | c :: rest => if c == quote then some 0 else (closedLength? quote rest).map (· + 1)

/-- A quoted value and the text after it. -/
def readQuoted (quote : Char) (cs : List Char) : Option (List Char × List Char) :=
  (closedLength? quote cs).map fun length => (cs.take length, cs.drop (length + 1))

/-- A value with its escapes read; an escape that is not in the table stays. -/
def unescape (table : List (Char × Char)) : List Char → List Char
  | '\\' :: c :: rest =>
    match table.lookup c with
    | some decoded => decoded :: unescape table rest
    | none => '\\' :: unescape table (c :: rest)
  | c :: rest => c :: unescape table rest
  | [] => []

/-- Escapes between apostrophes. -/
def singleEscapes : List (Char × Char) := [('\\', '\\'), ('\x27', '\x27')]

/-- Escapes between double quotes. -/
def doubleEscapes : List (Char × Char) :=
  singleEscapes ++ [('\x22', '\x22'), ('a', '\x07'), ('b', '\x08'), ('f', '\x0c'), ('n', '\n'),
    ('r', '\r'), ('t', '\t'), ('v', '\x0b')]

/-- An unquoted value without the comment that follows a blank. -/
def dropComment : List Char → List Char
  | [] => []
  | c :: rest =>
    if Text.isBlank c && (rest.dropWhile Text.isBlank).head? == some '#' then []
    else c :: dropComment rest

/-- A value, read behind the equals sign.  Blanks before it do not belong to it, but one of them must
stand before a comment. -/
def readValue (cs : List Char) : Except (List Char) (String × List Char) :=
  let start := skipBlanks cs
  let quotedValue (quote : Char) (table : List (Char × Char)) (rest : List Char) :
      Except (List Char) (String × List Char) :=
    match readQuoted quote rest with
    | some (value, after) => .ok (String.ofList (unescape table value), after)
    | none => .error start
  match start with
  | '\x27' :: rest => quotedValue '\x27' singleEscapes rest
  | '\x22' :: rest => quotedValue '\x22' doubleEscapes rest
  | _ =>
    let line := cs.takeWhile fun c => c != '\n' && c != '\r'
    .ok (String.ofList (Text.trimBy Text.isBlank (dropComment line)), cs.drop line.length)

/-- What follows a binding on its line: a comment at most. -/
def endLine (cs : List Char) : Except (List Char) (List Char) :=
  let rest := skipBlanks cs
  let rest := if rest.head? == some '#' then rest.dropWhile fun c => c != '\n' && c != '\r' else cs
  match skipBlanks rest with
  | [] => .ok []
  | '\n' :: after => .ok after
  | _ => .error rest

/-- A line that begins with something else than a blank. -/
def readLine (cs : List Char) : Except (List Char) (Binding × List Char) := do
  let (name?, rest) ← readName (skipExport cs)
  let rest := skipBlanks rest
  let (value?, rest) ← match rest with
    | '=' :: after => (readValue after).map fun found => (some found.1, found.2)
    | _ => .ok (none, rest)
  return (⟨name?, value?⟩, ← endLine rest)

/-- The bindings of a text. -/
def readBindings : Nat → List Char → List Binding
  | 0, _ => []
  | fuel + 1, cs =>
    match cs.dropWhile Text.isBlank with
    | [] => []
    | start =>
      match readLine start with
      | .ok (binding, rest) => binding :: readBindings fuel rest
      | .error rest => readBindings fuel ((rest.dropWhile (· != '\n')).drop 1)

/-- A text without a byte order mark before it. -/
def dropMark : List Char → List Char
  | '\uFEFF' :: rest => rest
  | cs => cs

/-- Named variables of a file in order, each with its value if it has one. -/
def entries (text : String) : List (String × Option String) :=
  let cs := Text.unifyBreaks (dropMark text.toList)
  (readBindings (cs.length + 1) cs).filterMap fun binding =>
    binding.name?.map fun name => (name, binding.value?)

/-- Text of a reference behind its opening brace: the variable, a default, and what follows. -/
def readReference (cs : List Char) : Option (String × String × List Char) :=
  let name := cs.takeWhile fun c => c != '\x7d' && c != ':'
  match cs.drop name.length with
  | '\x7d' :: after => some (String.ofList name, "", after)
  | ':' :: '-' :: rest =>
    let fallback := rest.takeWhile (· != '\x7d')
    match rest.drop fallback.length with
    | _ :: after => some (String.ofList name, String.ofList fallback, after)
    | [] => none
  | _ => none

/-- A value with its references replaced. -/
def interpolate (value? : String → Option String) : Nat → List Char → List Char
  | 0, _ => []
  | fuel + 1, cs =>
    match cs with
    | [] => []
    | '$' :: '\x7b' :: rest =>
      match readReference rest with
      | some (name, fallback, after) =>
        ((value? name).getD fallback).toList ++ interpolate value? fuel after
      | none => '$' :: interpolate value? fuel ('\x7b' :: rest)
    | c :: rest => c :: interpolate value? fuel rest

/-- Value of a variable to which a later line refers: the environment comes first, and a variable
without a value is empty. -/
def referenced (env : Environment) (found : List (String × Option String)) (name : String) :
    Option String :=
  match env.get? name with
  | some value => some value
  | none => (found.reverse.lookup name).map (·.getD "")

/-- The variables of a file with their references replaced, in order. -/
def resolve (env : Environment) (lines : List (String × Option String)) :
    List (String × Option String) :=
  lines.foldl
    (fun found line =>
      let value := line.2.map fun value =>
        String.ofList (interpolate (referenced env found) (value.length + 1) value.toList)
      found ++ [(line.1, value)])
    []

/-- The last line of each name. -/
def lastLines (lines : List (String × Option String)) : List (String × Option String) :=
  lines.foldr (fun line rest => if rest.any (·.1 == line.1) then rest else line :: rest) []

/-- Whether a process can have a variable of this name with this value: neither holds a NUL, and an
equals sign would end the name. -/
def isPossible (name value : String) : Bool :=
  name.toList.all (fun c => c != '=' && c != '\x00') && value.toList.all (· != '\x00')

/-- The environment with a variable of a file, if it lacks it. -/
def applyLine (env : Environment) (line : String × Option String) : Except Failure Environment :=
  match line.2, env.get? line.1 with
  | some value, none =>
    if isPossible line.1 value then .ok (env.setDefault line.1 value)
    else .error .impossibleVariable
  | _, _ => .ok env

/-- The environment with the variables of a file that it lacks. -/
def apply (env : Environment) (text : String) : Except Failure Environment :=
  (lastLines (resolve env (entries text))).foldlM applyLine env

end Dotenv

/-- The environment of a process, which reads a file of variables at most once. -/
structure Startup where
  /-- Variables. -/
  environment : Environment
  /-- Whether a file has been looked for. -/
  attempted : Bool

namespace Startup

/-- The file of variables: the one asked for, else the one that a variable names. -/
def dotenvPath (env : Environment) (path : String) : String :=
  if path.isEmpty then (env.get? "ERALEDGER_DOTENV_PATH").getD ".env" else path

/-- Words that turn the reading of files off. -/
def offWords : List String := ["1", "true", "t", "yes", "y"]

/-- Whether files of variables are not to be read, whatever they hold.  Case does not count, and
neither does the form of an s. -/
def isTurnedOff (env : Environment) : Bool :=
  match env.get? "PYTHON_DOTENV_DISABLED" with
  | some word =>
    let plain := (Text.lower word).toList.map fun c => if c == '\u017F' then 's' else c
    offWords.contains (String.ofList plain)
  | none => false

/-- Reads the file of variables unless one has been looked for, and answers whether it was found. -/
def loadDotenv (startup : Startup) (path : String) (files : Files) :
    Except Failure Bool × Startup :=
  let attempted := { startup with attempted := true }
  if startup.attempted then (.ok false, startup)
  else
    match (Files.expandHome (dotenvPath startup.environment path)).bind files.read with
    | .error .nameTooLong => (.error .nameTooLong, attempted)
    | .error .noHome => (.error .noHome, attempted)
    | .error _ => (.ok false, attempted)
    | .ok text =>
      if isTurnedOff startup.environment then (.ok true, attempted)
      else
        match Dotenv.apply startup.environment text with
        | .ok environment => (.ok true, ⟨environment, true⟩)
        | .error failure => (.error failure, attempted)

end Startup
end EraRewards
