/-
Why work on files fails.
-/
import Typewright.Fault
import Typewright.Files.Path
import Typewright.Text.Quoted

namespace Typewright.Files

/-- What keeps an operation on a file from being done. -/
inductive Obstacle where
  | missing
  | denied
  | busy
  | exists
  | notDirectory
  | isDirectory
  | nameTooLong
  | other (code : Nat) (reason : String)
deriving Repr, DecidableEq

namespace Obstacle

/-- The number of an obstacle, as it appears in messages. -/
def code : Obstacle → Nat
  | .missing => 2
  | .denied => 13
  | .busy => 16
  | .exists => 17
  | .notDirectory => 20
  | .isDirectory => 21
  | .nameTooLong => 36
  | .other code _ => code

/-- An obstacle in words. -/
def reason : Obstacle → String
  | .missing => "No such file or directory"
  | .denied => "Permission denied"
  | .busy => "Device or resource busy"
  | .exists => "File exists"
  | .notDirectory => "Not a directory"
  | .isDirectory => "Is a directory"
  | .nameTooLong => "File name too long"
  | .other _ reason => reason

end Obstacle

/-- An obstacle with the path that it was met at. -/
structure Error where
  obstacle : Obstacle
  path : Path
deriving Repr, DecidableEq

/-- An error in words. -/
def Error.message (e : Error) : String :=
  "[Errno " ++ Nat.repr e.obstacle.code ++ "] " ++ e.obstacle.reason ++ ": " ++
    Text.quoted e.path.text

/-- Why an operation on a file was not done: an error, or a path that no file can have. -/
inductive Failure where
  | error (e : Error)
  | fault (f : Fault)
deriving Repr, DecidableEq

end Typewright.Files
