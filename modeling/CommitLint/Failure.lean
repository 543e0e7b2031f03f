import CommitLint.Config.Overlay
import CommitLint.FileTree.Basic
import CommitLint.Lint
import CommitLint.Text.Loose
import CommitLint.Text.Utf8
import CommitLint.Yaml.Reading

/-!
# Failures

What can keep a command from its result: the configuration, the hook, the
files, and the texts and scalars in them, each with its own cause.
-/

namespace CommitLint

/-- Why the hook cannot be installed or removed. -/
inductive HookFault where
  | noDirectory (path : String)
  | present
  | foreign
deriving DecidableEq, Repr

namespace HookFault

def message : HookFault → String
  | .noDirectory path => "Git hooks directory not found: " ++ path
  | .present => "commit-msg hook already exists. Use --force to overwrite."
  | .foreign => "The commit-msg hook was not installed by gitmsglint. Not removing."

end HookFault

namespace Text.Utf8

def Reason.message : Reason → String
  | .invalidStart => "invalid start byte"
  | .invalidContinuation => "invalid continuation byte"
  | .truncated => "unexpected end of data"

/-- One byte is shown by its value, several by the first and the last position. -/
def Fault.message (fault : Fault) : String :=
  let place :=
    match fault.bytes with
    | [byte] =>
        "byte 0x" ++ String.ofList (hexDigits 2 byte.toNat) ++ " in position " ++
          toString fault.position
    | bytes =>
        "bytes in position " ++ toString fault.position ++ "-" ++
          toString (fault.position + bytes.length - 1)
  "'utf-8' codec can't decode " ++ place ++ ": " ++ fault.reason.message

end Text.Utf8

/-- One half is shown by its code, several by the first and the last position. -/
def Text.EncodingFault.message (fault : EncodingFault) : String :=
  let place :=
    match fault.halves with
    | [half] =>
        "character '\\u" ++ String.ofList (hexDigits 4 (0xD800 + half)) ++ "' in position " ++
          toString fault.position
    | halves =>
        "characters in position " ++ toString fault.position ++ "-" ++
          toString (fault.position + halves.length - 1)
  "'utf-8' codec can't encode " ++ place ++ ": surrogates not allowed"

inductive Failure where
  | config (fault : ConfigFault)
  | hook (fault : HookFault)
  | lint (fault : LintFault)
  | file (fault : FileFault)
  | decoding (fault : Text.Utf8.Fault)
  | encoding (fault : Text.EncodingFault)
  | scalar (fault : Yaml.Fault)
  /-- The directory of the rules is given by a value of this kind, which names none. -/
  | rulesDirectory (kind : String)
  /-- The log level is given by the name of a layout, or of the table of layouts. -/
  | levelLayout
  | levelLayouts
deriving DecidableEq, Repr

namespace Failure

def message : Failure → String
  | .config fault => fault.message
  | .hook fault => fault.message
  | .lint fault => fault.message
  | .file fault => fault.message
  | .decoding fault => fault.message
  | .encoding fault => fault.message
  | .scalar fault => fault.message
  | .rulesDirectory kind => "unsupported operand type(s) for /: 'PosixPath' and '" ++ kind ++ "'"
  | .levelLayout => "Unknown level: '%(levelname)s:%(name)s:%(message)s'"
  | .levelLayouts =>
      "Level not an integer or a valid string: " ++
        "\x7b'%': (<class 'logging.PercentStyle'>, '%(levelname)s:%(name)s:%(message)s'), " ++
        "'\x7b': (<class 'logging.StrFormatStyle'>, " ++
        "'\x7blevelname\x7d:\x7bname\x7d:\x7bmessage\x7d'), " ++
        "'$': (<class 'logging.StringTemplateStyle'>, " ++
        "'$\x7blevelname\x7d:$\x7bname\x7d:$\x7bmessage\x7d')\x7d"

end Failure

namespace FileTree

/-- The text of a file: its bytes as characters, with line feeds for all line ends. -/
def textOf (bytes : List UInt8) : Except Failure (List Char) :=
  match Text.Utf8.decode bytes with
  | .ok text => .ok (Text.unifyNewlines text)
  | .error fault => .error (.decoding fault)

end FileTree

end CommitLint
