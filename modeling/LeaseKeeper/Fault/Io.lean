/-
# Input and output errors

An error is a number of the operating system, a bare kind, a kind with a text, or a kind with any
other error in it.  Each has a text for its reader and a debug text that names its parts.  An error
with another one in it shows that error's text as its own, so that what is below it is what is below
the other one.
-/
import LeaseKeeper.Fault.System
import LeaseKeeper.Text.Shown

namespace LeaseKeeper

/-- An error of some other library, by its text, its debug text, and the error that caused it. -/
inductive Payload
  | root (message debug : String)
  | caused (message debug : String) (cause : Payload)
deriving DecidableEq

/-- An error of an input or output operation. -/
inductive IoError
  /-- The operating system refused, with this number. -/
  | os (code : Int)
  /-- Only the kind is known. -/
  | bare (kind : IoKind)
  /-- A kind with a text of the caller. -/
  | custom (kind : IoKind) (text : String)
  /-- A kind with a fixed text of the library. -/
  | fixed (kind : IoKind) (text : String)
  /-- A kind with an error of the caller. -/
  | boxed (kind : IoKind) (payload : Payload)
deriving DecidableEq

namespace Payload

/-- The text of an error for its reader. -/
def message : Payload → String
  | root message _ => message
  | caused message _ _ => message

/-- The parts of an error. -/
def debug : Payload → String
  | root _ debug => debug
  | caused _ debug _ => debug

/-- The error right below an error. -/
def below? : Payload → Option Payload
  | root .. => none
  | caused _ _ cause => some cause

/-- The texts of the errors below an error, the nearest first. -/
def sources : Payload → List String
  | root .. => []
  | caused _ _ cause => cause.message :: cause.sources

end Payload

namespace IoError

/-- No such file or directory. -/
def notFound : IoError := .os 2

/-- A part of the path that should be a directory is not one. -/
def notDirectory : IoError := .os 20

/-- The file is a directory. -/
def isDirectory : IoError := .os 21

/-- There is no room left on the device. -/
def noSpace : IoError := .os 28

/-- A name in the path, or the path itself, is too long. -/
def nameTooLong : IoError := .os 36

/-- Too many symbolic links on the way to the file. -/
def tooManyLinks : IoError := .os 40

/-- The content that was read is not the form of a text. -/
def notText : IoError := .fixed .invalidData "stream did not contain valid UTF-8"

/-- The path holds a null character. -/
def nulInPath : IoError := .fixed .invalidInput "file name contained an unexpected NUL byte"

/-- The text of an error for its reader. -/
def message : IoError → String
  | .os code => osText code ++ " (os error " ++ toString code ++ ")"
  | .bare kind => kind.description
  | .custom _ text => text
  | .fixed _ text => text
  | .boxed _ payload => payload.message

/-- The parts of an error. -/
def debug : IoError → String
  | .os code =>
    "Os \x7b code: " ++ toString code ++ ", kind: " ++ (osKind code).name
      ++ ", message: " ++ Text.quoted (osText code) ++ " \x7d"
  | .bare kind => "Kind(" ++ kind.name ++ ")"
  | .custom kind text =>
    "Custom \x7b kind: " ++ kind.name ++ ", error: " ++ Text.quoted text ++ " \x7d"
  | .fixed kind text =>
    "Error \x7b kind: " ++ kind.name ++ ", message: " ++ Text.quoted text ++ " \x7d"
  | .boxed kind payload =>
    "Custom \x7b kind: " ++ kind.name ++ ", error: " ++ payload.debug ++ " \x7d"

/-- The error right below an error.  That in the error itself is passed over. -/
def below? : IoError → Option Payload
  | .boxed _ payload => payload.below?
  | _ => none

/-- The texts of the errors below an error, the nearest first. -/
def sources : IoError → List String
  | .boxed _ payload => payload.sources
  | _ => []

end IoError
end LeaseKeeper
