import EventFlow.Failure
import EventFlow.Text.Base64
import EventFlow.Text.DecimalDigit
import EventFlow.Text.Quoted

/-!
# Credentials

A user name and a password for the trigger API, checked before anything is sent.
-/

namespace EventFlow

/-- A user name and a password. -/
structure Credentials where
  user : String
  password : String
deriving DecidableEq

namespace Credentials

/-- Whether a character is an ASCII letter. -/
def isLetter (c : Char) : Bool :=
  ('a' ≤ c && c ≤ 'z') || ('A' ≤ c && c ≤ 'Z')

/-- Whether a user name may hold the character: ASCII letters, ASCII digits and
the underscore. -/
def isUserChar (c : Char) : Bool :=
  isLetter c || ('0' ≤ c && c ≤ '9') || c = '_'

/-- Whether a password may hold the character: ASCII letters, the decimal digits
of all scripts, and eight marks. -/
def isPasswordChar (c : Char) : Bool :=
  isLetter c || Text.isDecimalDigit c || "@$!%*#?&".toList.contains c

/-- Whether a text may be a user name. -/
def isUser (user : String) : Bool :=
  !user.toList.isEmpty && user.toList.all isUserChar

/-- Whether a text may be a password: it has at least one letter. -/
def isPassword (password : String) : Bool :=
  password.toList.all isPasswordChar && password.toList.any isLetter

/-- Credentials of a user name and a password, if both are acceptable. -/
def make (user password : String) : Except Failure Credentials :=
  if !isUser user then .error (.rejected (.userName user))
  else if !isPassword password then .error (.rejected .password)
  else .ok { user, password }

/-- The header that carries the credentials with a request. -/
def header (credentials : Credentials) : String :=
  "Basic " ++ Text.base64 (Text.bytesOf (credentials.user ++ ":" ++ credentials.password))

/-- How credentials describe themselves: the password is not shown. -/
def summary (credentials : Credentials) : String :=
  "Credentials \x7b user: " ++ Text.quoted credentials.user
    ++ ", password: \"<redacted>\" \x7d"

end Credentials

end EventFlow
