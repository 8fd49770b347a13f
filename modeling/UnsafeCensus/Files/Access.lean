import UnsafeCensus.Text.Quoted

/-!
# Access faults

Why a path could not be used, with the number under which the operating system reports it.
-/

namespace UnsafeCensus.Files

inductive SystemError
  | noEntry
  | notDirectory
  | isDirectory
  | nameTooLong
  | tooManyLinks
deriving DecidableEq, Repr

namespace SystemError

def number : SystemError → Nat
  | noEntry => 2
  | notDirectory => 20
  | isDirectory => 21
  | nameTooLong => 36
  | tooManyLinks => 40

def meaning : SystemError → String
  | noEntry => "No such file or directory"
  | notDirectory => "Not a directory"
  | isDirectory => "Is a directory"
  | nameTooLong => "File name too long"
  | tooManyLinks => "Too many levels of symbolic links"

/-- The path leads to nothing, as opposed to one that cannot be asked about. -/
def meansAbsent : SystemError → Bool
  | noEntry | notDirectory | tooManyLinks => true
  | isDirectory | nameTooLong => false

end SystemError

inductive AccessFault
  /-- The path contains the character that ends texts for the operating system. -/
  | nulByte
  | system (error : SystemError) (path : String)
deriving DecidableEq, Repr

def AccessFault.message : AccessFault → Text.Str
  | nulByte => .ofString "embedded null byte"
  | system e path => .ofString s!"[Errno {e.number}] {e.meaning}: " ++ Text.quote (.ofString path)

end UnsafeCensus.Files
