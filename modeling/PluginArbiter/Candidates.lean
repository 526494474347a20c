/-
# Candidates

The plugins that come into question for a request, in the order of the catalog, each with the MIME
type it would be given.

Main statements:
* `candidates_append`: candidates of two catalogs one after the other are those of each;
* `mimeTypeFor?_of_ne_empty`: a type that was asked for is handed on unchanged.
-/
import PluginArbiter.Plugin.Descriptor
import PluginArbiter.Trust
import PluginArbiter.Url.Basic

namespace PluginArbiter

/-- A plugin that comes into question, with the MIME type it would be given. -/
structure Candidate where
  plugin : PluginDescriptor
  mimeType : String
  deriving DecidableEq, Inhabited

namespace Candidate

/-- The MIME type under which associations serve a request.  A type that was asked for has to be
declared, or covered where patterns count; without one the extension decides, and patterns never
do. -/
def mimeTypeFor? (associations : List MimeAssociation) (mime : String) (extension : Option String)
    (patterns : Bool) : Option String :=
  if mime ≠ "" then
    if associations.any (·.matchesExactly mime)
        || (patterns && associations.any (·.matchesPattern mime)) then some mime
    else none
  else
    extension.bind fun e =>
      (associations.find? fun a => !a.isWildcard && a.listsExtension e).map (·.mimeType)

/-- The plugin as a candidate, if it serves the request. -/
def of? (associationsOf : PluginDescriptor → List MimeAssociation) (url : Url) (mime : String)
    (patterns : Bool) (plugin : PluginDescriptor) : Option Candidate :=
  (mimeTypeFor? (associationsOf plugin) mime url.extension? patterns).map fun mimeType =>
    { plugin, mimeType }

/-- A type that was asked for is handed on unchanged. -/
theorem mimeTypeFor?_of_ne_empty {associations : List MimeAssociation} {mime m : String}
    {extension : Option String} {patterns : Bool} (hm : mime ≠ "")
    (h : mimeTypeFor? associations mime extension patterns = some m) : m = mime := by
  rw [mimeTypeFor?, if_pos hm] at h
  split at h
  · exact (Option.some.inj h).symm
  · exact absurd h (by simp)

end Candidate

/-- The candidates among the plugins of a catalog, in its order. -/
def candidates (associationsOf : PluginDescriptor → List MimeAssociation) (url : Url)
    (mime : String) (patterns : Bool) (plugins : List PluginDescriptor) : List Candidate :=
  plugins.filterMap (Candidate.of? associationsOf url mime patterns)

/-- Candidates of two catalogs one after the other are those of each. -/
theorem candidates_append (associationsOf : PluginDescriptor → List MimeAssociation) (url : Url)
    (mime : String) (patterns : Bool) (a b : List PluginDescriptor) :
    candidates associationsOf url mime patterns (a ++ b)
      = candidates associationsOf url mime patterns a
        ++ candidates associationsOf url mime patterns b := by
  simp [candidates]

/-- The candidates for a request, given what the catalog answered; its fault is passed on. -/
def findCandidates (associationsOf : PluginDescriptor → List MimeAssociation) (url : Url)
    (mime : String) (patterns : Bool) (answer : Except CollaboratorFault (List PluginDescriptor)) :
    Except CollaboratorFault (List Candidate) :=
  answer.map (candidates associationsOf url mime patterns)

/-- The MIME types under which candidates come into question. -/
def consideredTypes (cs : List Candidate) : List String := cs.map (·.mimeType)

end PluginArbiter
