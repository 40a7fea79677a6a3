import LogSieve.Profile.Decode
import LogSieve.Toml.Reader

/-! Profiles from files. What reading the file came to is given; from there on all is decided here. -/

namespace LogSieve.Profile

/-- Why a file could not be read as text. -/
inductive ReadFailure where
  | notThere
  | isDirectory
  | notText
  | other (reason : String)
  deriving DecidableEq

def ReadFailure.message : ReadFailure → String
  | notThere => "No such file or directory (os error 2)"
  | isDirectory => "Is a directory (os error 21)"
  | notText => "stream did not contain valid UTF-8"
  | other reason => reason

inductive LoadError where
  | unreadable (path : String) (failure : ReadFailure)
  /-- The cause has a wording of its own only if a setting was refused by one of our own rules. -/
  | unparsed (path : String) (cause : Option String)
  | flawed (path : String) (flaw : Flaw)
  deriving DecidableEq

def LoadError.message : LoadError → String
  | unreadable path failure => "Failed to read config file '" ++ path ++ "': " ++ failure.message
  | unparsed path _ => "Failed to parse config file '" ++ path ++ "': TOML parse error"
  | flawed path flaw => "Invalid config file '" ++ path ++ "': " ++ flaw.message

def ofText (path : String) (text : String) : Except LoadError Profile :=
  match Toml.read? text with
  | none => throw (.unparsed path none)
  | some tree =>
    match ofJson .toml tree with
    | .error cause => throw (.unparsed path cause.message?)
    | .ok profile =>
      match profile.flaw? with
      | some flaw => throw (.flawed path flaw)
      | none => pure profile

def ofFile (path : String) (file : Except ReadFailure String) : Except LoadError Profile :=
  match file with
  | .error failure => throw (.unreadable path failure)
  | .ok text => ofText path text

end LogSieve.Profile
