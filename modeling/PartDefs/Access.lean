import PartDefs.Notice
import PartDefs.Path
import PartDefs.SystemError

/-!
# Access to files

What the program asks of the place where its files are: to read a file, to write one, to tell
directories from files and to make a directory.  Each of these can fail, and how it fails is kept
for the report.
-/

namespace PartDefs

/-- How access to a file fails. -/
inductive AccessFault where
  /-- The system refuses. -/
  | system (error : SystemError)
  /-- The path holds the character that ends paths. -/
  | nulInPath
  /-- The bytes of the file are no text. -/
  | notText
  /-- Something else, told by a text and the texts of what lies behind it. -/
  | other (text : String) (behind : List String)
deriving DecidableEq

/-- The text of a failure, then those of what lies behind it. -/
def AccessFault.messages : AccessFault → List String
  | system error => [error.message]
  | nulInPath => ["file name contained an unexpected NUL byte"]
  | notText => ["stream did not contain valid UTF-8"]
  | other text behind => text :: behind

/-- A place with files, and a log for notices. -/
class Workspace (m : Type → Type) where
  /-- The bytes of a file. -/
  readFile : Path → m (Except AccessFault ByteArray)
  /-- Whether a path names a directory. -/
  isDirectory : Path → m Bool
  /-- Makes a directory whose parent is there. -/
  makeDirectory : Path → m (Except AccessFault Unit)
  /-- Puts bytes into a file, which is made if there is none. -/
  writeFile : Path → ByteArray → m (Except AccessFault Unit)
  /-- Gives a notice. -/
  tell : Notice → m Unit

end PartDefs
