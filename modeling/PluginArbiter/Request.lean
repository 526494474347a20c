/-
# Requests

What a page asks for when it wants content shown by a plugin.
-/
import PluginArbiter.Plugin.Identity
import PluginArbiter.Url.Basic

namespace PluginArbiter

/-- A request for a plugin.  The MIME type is empty where the page names none. -/
structure Request where
  process : ProcessId
  frame : FrameId
  url : Url
  topUrl : Url
  mimeType : String
  deriving DecidableEq, Inhabited

/-- A text that was given as a URL and is none. -/
structure InvalidUrl where
  input : String
  fault : Url.Fault
  deriving DecidableEq, Inhabited

/-- The wording of the complaint. -/
def InvalidUrl.message (e : InvalidUrl) : String :=
  "无效的 URL `" ++ e.input ++ "`: " ++ e.fault.reason

namespace Request

/-- Reads a URL and remembers the text it was given as. -/
def readUrl (input : String) : Except InvalidUrl Url :=
  match Url.parse input with
  | .ok u => .ok u
  | .error fault => .error { input, fault }

/-- A request from texts.  The URL of the content is read before that of the page. -/
def ofTexts (process : ProcessId) (frame : FrameId) (url topUrl mimeType : String) :
    Except InvalidUrl Request := do
  let url ← readUrl url
  let topUrl ← readUrl topUrl
  return { process, frame, url, topUrl, mimeType }

end Request

end PluginArbiter
