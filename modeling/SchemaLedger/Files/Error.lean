/-! # File errors

What the surroundings report when an operation on files fails, and its wording. -/

namespace SchemaLedger.Files

inductive IoError where
  | notPermitted
  | notFound
  | accessDenied
  | alreadyExists
  | notDirectory
  | isDirectory
  | invalidArgument
  | noSpace
  | readOnly
  | nameTooLong
  | notEmpty
  | linkLoop
  | notText
  | nulInPath
  deriving DecidableEq, Repr

namespace IoError

/-- The number by which the system knows an error, if it comes from there. -/
def number? : IoError → Option Nat
  | notPermitted => some 1
  | notFound => some 2
  | accessDenied => some 13
  | alreadyExists => some 17
  | notDirectory => some 20
  | isDirectory => some 21
  | invalidArgument => some 22
  | noSpace => some 28
  | readOnly => some 30
  | nameTooLong => some 36
  | notEmpty => some 39
  | linkLoop => some 40
  | notText | nulInPath => none

def numbered : List IoError :=
  [notPermitted, notFound, accessDenied, alreadyExists, notDirectory, isDirectory,
    invalidArgument, noSpace, readOnly, nameTooLong, notEmpty, linkLoop]

def ofNumber? (n : Nat) : Option IoError := numbered.find? fun e => e.number? = some n

def message : IoError → String
  | notPermitted => "Operation not permitted (os error 1)"
  | notFound => "No such file or directory (os error 2)"
  | accessDenied => "Permission denied (os error 13)"
  | alreadyExists => "File exists (os error 17)"
  | notDirectory => "Not a directory (os error 20)"
  | isDirectory => "Is a directory (os error 21)"
  | invalidArgument => "Invalid argument (os error 22)"
  | noSpace => "No space left on device (os error 28)"
  | readOnly => "Read-only file system (os error 30)"
  | nameTooLong => "File name too long (os error 36)"
  | notEmpty => "Directory not empty (os error 39)"
  | linkLoop => "Too many levels of symbolic links (os error 40)"
  | notText => "stream did not contain valid UTF-8"
  | nulInPath => "file name contained an unexpected NUL byte"

theorem ofNumber?_number? (e : IoError) (n : Nat) (h : e.number? = some n) :
    ofNumber? n = some e := by
  cases e <;> simp_all only [number?, Option.some.injEq, reduceCtorEq] <;> subst h <;> rfl

end IoError

end SchemaLedger.Files
