import Concordance.Compact.Table
import Concordance.Files.SystemError
import Concordance.Gzip.Error
import Concordance.Query.Report

/-!
# Errors

An error is a cause.  Its message is made in one place.

* `Error.message` is the message of an error.
-/

namespace Concordance

/-- Why a corpus cannot be opened. -/
inductive OpenFailure where
  /-- There is nothing to open. -/
  | missing
  /-- There is no directory to search for corpora. -/
  | noDirectory
  /-- A file is there, but it belongs to no compact corpus. -/
  | notCompact
  /-- A file of a compact corpus is missing or is a directory. -/
  | notRegular
  /-- The system refuses. -/
  | system (cause : SystemError)
  /-- The compressed data is damaged. -/
  | damaged (cause : GzipError)
  /-- The index file cannot be used. -/
  | badTable (cause : Compact.TableError)
  /-- Another reason, given by its text. -/
  | other (text : String)
  deriving DecidableEq, Repr

/-- The reason in words. -/
def OpenFailure.message : OpenFailure → String
  | .missing => "non-existent or not readable"
  | .noDirectory => "non-existent or not a directory"
  | .notCompact => "not an indexed (.dz) corpus file"
  | .notRegular => "not a regular file"
  | .system cause => cause.message
  | .damaged cause => cause.message
  | .badTable cause => cause.message
  | .other text => text

/-- Why access to a corpus fails. -/
inductive Error where
  /-- A corpus cannot be opened or created. -/
  | cannotOpen (path : String) (failure : OpenFailure)
  /-- The corpus has been closed. -/
  | closed
  /-- The corpus has no entry with this name. -/
  | notFound (name : String)
  /-- A text is no query. -/
  | badQuery (cause : Query.ParseError)
  /-- The name of an attribute or an element is no tag name. -/
  | badMarker (name : String)
  /-- Two entries have the same name. -/
  | duplicateName (name : String)
  /-- A compact corpus cannot hold an entry with this name. -/
  | badEntryName (name : String)
  /-- The content of an entry is not UTF-8. -/
  | notUtf8 (name : String)
  /-- The system refuses to read or write. -/
  | system (path : String) (cause : SystemError)
  /-- Several errors of one copy. -/
  | batch (errors : List Error)
  deriving Repr

namespace Error

mutual

/-- The message of an error. -/
def message : Error → String
  | .cannotOpen path failure => "Cannot open corpus " ++ path ++ ": " ++ failure.message
  | .closed => "Corpus has been closed"
  | .notFound name => "Unknown entry: " ++ name
  | .badQuery cause => "Query syntax error: " ++ cause.message
  | .badMarker name => "Invalid marker attribute name: " ++ Text.quoted name
  | .duplicateName name => "Duplicate entry name: " ++ name
  | .badEntryName name => "Invalid entry name: " ++ Text.quoted name
  | .notUtf8 name => "Entry " ++ name ++ " is not valid UTF-8"
  | .system path cause => "I/O error on " ++ path ++ ": " ++ cause.message
  | .batch errors => "Errors in batch conversion:\n" ++ messageLines errors

/-- The messages of several errors, each on a line of its own. -/
def messageLines : List Error → String
  | [] => ""
  | e :: rest => "    " ++ e.message ++ "\n" ++ messageLines rest

end

end Error

end Concordance
