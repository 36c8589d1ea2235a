-- SUMMARY: Why settings are refused, and what the system says about files.
import LogLine.Text.Basic

/-!
# Errors

Settings can name things that do not exist, contradict themselves, or lie in a
file that cannot be read. Each cause has its own message.
-/

namespace LogLine

/-- What the system answers when it cannot do something with a file. -/
inductive SystemError where
  | notFound
  | alreadyExists
  | notADirectory
  | isADirectory
  /-- A path, or a segment of it, has too many bytes. -/
  | nameTooLong
  /-- A path has a zero byte. -/
  | invalidPath
  /-- The bytes are no UTF-8 text. -/
  | invalidText
deriving DecidableEq, Repr

def SystemError.message : SystemError → Text
  | .notFound => "No such file or directory (os error 2)".toList
  | .alreadyExists => "File exists (os error 17)".toList
  | .notADirectory => "Not a directory (os error 20)".toList
  | .isADirectory => "Is a directory (os error 21)".toList
  | .nameTooLong => "File name too long (os error 36)".toList
  | .invalidPath => "file name contained an unexpected NUL byte".toList
  | .invalidText => "stream did not contain valid UTF-8".toList

/-- Why settings are refused. -/
inductive SettingsError where
  | unknownMode (name : Text)
  | unknownFormat (name : Text)
  | unknownTarget (name : Text)
  /-- Lines go to a file, but no file is named. -/
  | missingLogFile
  | unknownLevel (name : Text)
  /-- The layout names a field that is not specified. -/
  | missingField (name : Text)
  /-- The layout names a field twice. -/
  | duplicateField (name : Text)
  /-- The document is malformed, or does not have the form of settings. -/
  | malformed
  | file (path : Text) (cause : SystemError)
  /-- A logger was installed before. -/
  | alreadyInstalled
deriving DecidableEq, Repr

namespace SettingsError

def quoted (name : Text) : Text := '\'' :: name ++ ['\'']

def message : SettingsError → Text
  | .unknownMode name =>
    "unknown output mode ".toList ++ quoted name ++ " (expected auto, ansi or plain)".toList
  | .unknownFormat name =>
    "unknown line format ".toList ++ quoted name ++ " (expected tty or json)".toList
  | .unknownTarget name =>
    "unknown output target ".toList ++ quoted name ++ " (expected stderr, stdout or file)".toList
  | .missingLogFile => "output target is 'file' but no log-file is configured".toList
  | .unknownLevel name => "unknown level ".toList ++ quoted name
  | .missingField name =>
    "layout field ".toList ++ quoted name ++ " has no field specification".toList
  | .duplicateField name =>
    "layout field ".toList ++ quoted name ++ " appears more than once".toList
  | .malformed => "invalid configuration".toList
  | .file path cause => "failed to read ".toList ++ path ++ ": ".toList ++ cause.message
  | .alreadyInstalled => "a global logger is already installed".toList

end SettingsError

end LogLine
