import LineTemplate.Text.Basic

/-!
# The command line

The words of a command line: options, which may be written together, and one template.
-/

namespace LineTemplate

/-- Which settings file is read. -/
inductive SettingsChoice where
  /-- The first one in the usual places. -/
  | search
  | skip
  | explicit (path : Text)
  deriving DecidableEq

inductive Input where
  | stdin
  | path (path : Text)
  deriving DecidableEq

structure CommandLine where
  settings : SettingsChoice := .search
  /-- Options and variables to set, in order. -/
  defines : List (Text × Text) := []
  includeDirs : List Text := []
  strict : Bool := false
  /-- Where the document goes, if not to standard output. -/
  output : Option Text := none
  input : Input := .stdin
  deriving DecidableEq

inductive UsageFault where
  | missingValue (option : Char)
  | unknownOption (option : Char)
  | missingName (define : Text)
  | missingTemplate
  | tooManyTemplates (count : Nat)
  deriving DecidableEq

def UsageFault.message : UsageFault → String
  | missingValue option => s!"-{Text.str [option]} requires an argument"
  | unknownOption option => s!"unknown option: -{Text.str [option]}"
  | missingName define => s!"-D: missing name in '{define.str}'"
  | missingTemplate => "missing template argument"
  | tooManyTemplates count => s!"too many arguments ({(Text.ofNat count).str})"

namespace CommandLine

def usage : String :=
  "Usage: stencil [-f[<file>]] [-D<name>=<value>]... [-I<dir>]... [-s] [-o<out>] <template>"

def isOption (word : Text) : Bool :=
  word.head? = some '-'

/-- A word that may name the template. -/
def isTemplate (word : Text) : Bool :=
  !isOption word || word = ['-']

/-- Whether `-f` takes the next word as its file: only if another word can be the template. -/
def takesFile : List Text → Bool
  | [] => false
  | next :: rest => !isOption next && rest.any isTemplate

/-- Splits `name=value`; a name alone gets the value 1. -/
def readDefine (s : Text) : Except UsageFault (Text × Text) :=
  let (name, value) := (Text.splitOnce? '=' s).getD (s, ['1'])
  if name.isEmpty then .error (.missingName s) else .ok (name, value)

/-- Sets an option that has a value; only `D`, `I` and `o` have one. -/
def setValue (line : CommandLine) (option : Char) (value : Text) :
    Except UsageFault CommandLine :=
  if option = 'D' then
    (readDefine value).map fun define => { line with defines := line.defines ++ [define] }
  else if option = 'I' then .ok { line with includeDirs := line.includeDirs ++ [value] }
  else .ok { line with output := some value }

/-- Reads the options of one word, where `next` are the words after it. The answer also says whether
the next word was taken as a value. -/
def readOptions (line : CommandLine) (next : List Text) :
    Text → Except UsageFault (CommandLine × Bool)
  | [] => .ok (line, false)
  | option :: rest =>
    if option = 's' then readOptions { line with strict := true } next rest
    else if option = 'f' then
      if !rest.isEmpty then .ok ({ line with settings := .explicit rest }, false)
      else if takesFile next then
        .ok ({ line with settings := (next.head?.map .explicit).getD .skip }, true)
      else .ok ({ line with settings := .skip }, false)
    else if option = 'D' || option = 'I' || option = 'o' then
      if !rest.isEmpty then (setValue line option rest).map (·, false)
      else match next with
        | [] => .error (.missingValue option)
        | value :: _ => (setValue line option value).map (·, true)
    else .error (.unknownOption option)

/-- Reads words; the second part of the answer are those that name a template. -/
def readWords (line : CommandLine) : List Text → Except UsageFault (CommandLine × List Text)
  | [] => .ok (line, [])
  | word :: rest =>
    if word = ['-', '-'] then .ok (line, rest)
    else if isTemplate word then
      (readWords line rest).map fun (line, templates) => (line, word :: templates)
    else match readOptions line rest word.tail with
      | .error e => .error e
      | .ok (line, false) => readWords line rest
      | .ok (line, true) => match rest with
        | [] => .ok (line, [])
        | _ :: rest => readWords line rest

def ofWords (words : List Text) : Except UsageFault CommandLine :=
  match readWords {} words with
  | .error e => .error e
  | .ok (_, []) => .error .missingTemplate
  | .ok (line, [template]) =>
    .ok (if template = ['-'] then line else { line with input := .path template })
  | .ok (_, templates) => .error (.tooManyTemplates templates.length)

end CommandLine

end LineTemplate
