import ScriptFiles.Native.Errno
import ScriptFiles.Text.Quoted

/-!
# Failures of the native service

Why a native file operation failed, the text shown for it and its debug text.
-/

namespace ScriptFiles

/-- Why an input or output operation failed: an error number, or a text where there is none. -/
inductive IoCause
  | errno (errno : Errno)
  | other (message : String)
deriving DecidableEq, Repr

/-- The text of a cause. -/
def IoCause.text : IoCause → String
  | errno e => e.text
  | other message => message

/-- The debug text of a cause. -/
def IoCause.debugText : IoCause → String
  | errno e => "Os \x7b code: " ++ intText e.code ++ ", kind: " ++ e.kind ++ ", message: " ++
      Quoted.text e.message ++ " \x7d"
  | other message => "Custom \x7b kind: Other, error: " ++ Quoted.text message ++ " \x7d"

/-- A failed native operation. -/
inductive NativeError
  | notAvailable (what : String)
  | failed (message : String)
  | io (path : String) (cause : IoCause)
deriving DecidableEq, Repr

namespace NativeError

/-- The text of a failure; a path is shown as it was given. -/
def text : NativeError → String
  | notAvailable what => "Bridge capability not available: " ++ what
  | failed message => message
  | io path cause => path ++ ": " ++ cause.text

/-- The debug text of a failure. -/
def debugText : NativeError → String
  | notAvailable what => "NotAvailable(" ++ Quoted.text what ++ ")"
  | failed message => "OperationFailed(" ++ Quoted.text message ++ ")"
  | io path cause => "Io \x7b path: " ++ Quoted.text path ++ ", source: " ++ cause.debugText ++ " \x7d"

end NativeError
end ScriptFiles
