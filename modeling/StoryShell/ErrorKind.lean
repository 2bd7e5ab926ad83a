/-
The kinds of failure that an answer can carry.
-/

set_option autoImplicit false

namespace StoryShell

/-- **Why a line was not carried out.** -/
inductive ErrorKind where
  | pathRequired
  | filenameRequired
  | usageError
  | noSuchPath
  | noSuchFile
  | notFound
  | notADirectory
  | isADirectory
  | cannotCopyDirectory
  | cannotOverwriteDirectory
  | commandNotFound
  | blocked
  | notAllowed
  | nameConflict
  | internal
deriving DecidableEq, Repr

namespace ErrorKind

/-- The name by which a kind is shown. -/
def label : ErrorKind → String
  | .pathRequired => "path_required"
  | .filenameRequired => "filename_required"
  | .usageError => "usage_error"
  | .noSuchPath => "no_such_path"
  | .noSuchFile => "no_such_file"
  | .notFound => "not_found"
  | .notADirectory => "not_a_directory"
  | .isADirectory => "is_a_directory"
  | .cannotCopyDirectory => "cannot_copy_directory"
  | .cannotOverwriteDirectory => "cannot_overwrite_directory"
  | .commandNotFound => "command_not_found"
  | .blocked => "blocked"
  | .notAllowed => "not_allowed"
  | .nameConflict => "name_conflict"
  | .internal => "internal"

/-- Every kind. -/
def all : List ErrorKind := [
  .pathRequired, .filenameRequired, .usageError, .noSuchPath, .noSuchFile, .notFound,
  .notADirectory, .isADirectory, .cannotCopyDirectory, .cannotOverwriteDirectory,
  .commandNotFound, .blocked, .notAllowed, .nameConflict, .internal]

/-- The kind with a name, if there is one. -/
def ofLabel? (text : String) : Option ErrorKind :=
  all.find? fun kind => kind.label = text

end ErrorKind

end StoryShell
