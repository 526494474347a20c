/-
# The policy

From the candidates of a request and the answers of the collaborators to a verdict.  The choice of
a candidate looks at availability alone; trust then decides the status and can only lower it.

Main statements:
* `choose_eq_none_iff`: there is a choice exactly when there is a candidate.
-/
import PluginArbiter.Candidates
import PluginArbiter.Trust
import PluginArbiter.Verdict

namespace PluginArbiter

/-! ## 1. Options -/

/-- Options of the policy.  Whether legacy plugins are supported by default depends on the platform
that a build is made for: on Linux they are, and this is the default here; on Windows and macOS they
are not. -/
structure PolicyOptions where
  legacySupported : Bool := true
  legacyCapableTypes : List String :=
    ["application/pdf", "application/x-google-chrome-pdf", "application/x-nacl",
     "application/x-pnacl", "application/vnd.chromium.remoting-viewer",
     "application/x-shockwave-flash", "application/futuresplash"]
  deriving DecidableEq, Inhabited

namespace PolicyOptions

/-- A type that only an unsupported legacy plugin could have served. -/
def reportsLegacyUnsupported (o : PolicyOptions) (mime : String) : Bool :=
  !o.legacySupported && o.legacyCapableTypes.contains mime

/-- What is read of the options. -/
def shape : Shape :=
  .record [("legacy_plugins_supported", .scalar), ("legacy_capable_mime_types", .scalars)]

/-- The names of the fields, in order. -/
def fieldNames : List String := shape.names

/-- The options as a record of all their fields. -/
def toDocument (o : PolicyOptions) : Document :=
  .record [("legacy_plugins_supported", .flag o.legacySupported),
    ("legacy_capable_mime_types", .texts o.legacyCapableTypes)]

/-- Reads options; a missing field has its default. -/
def read? {α : Type} [Readable α] (source : α) : Option PolicyOptions := do
  let fields ← Readable.record? fieldNames source
  let standard : PolicyOptions := {}
  let legacySupported ← Readable.optional fields "legacy_plugins_supported" Readable.flag?
    standard.legacySupported
  let legacyCapableTypes ← Readable.optional fields "legacy_capable_mime_types" Readable.texts?
    standard.legacyCapableTypes
  return { legacySupported, legacyCapableTypes }

end PolicyOptions

namespace Policy

/-! ## 2. Choosing a candidate -/

/-- The first available candidate. -/
def firstAvailable (c : Collaborators) (request : Request) (cs : List Candidate) :
    Option Candidate :=
  match c.available with
  | none => cs.head?
  | some filter => cs.find? fun candidate => (filter request candidate.plugin).grants

/-- The chosen candidate and whether it is available: the first available one, or else the first
of all. -/
def choose (c : Collaborators) (request : Request) (cs : List Candidate) :
    Option (Candidate × Bool) :=
  match firstAvailable c request cs with
  | some candidate => some (candidate, true)
  | none => cs.head?.map fun candidate => (candidate, false)

/-- There is a choice exactly when there is a candidate. -/
theorem choose_eq_none_iff {c : Collaborators} {request : Request} {cs : List Candidate} :
    choose c request cs = none ↔ cs = [] := by
  unfold choose
  cases h : firstAvailable c request cs with
  | none => simp [List.head?_eq_none_iff]
  | some candidate =>
    simp only [reduceCtorEq, false_iff]
    rintro rfl
    unfold firstAvailable at h
    split at h <;> simp at h

/-! ## 3. Lowering by trust -/

/-- The status after a look at trust.  A legacy plugin is refused on an isolated surface in any
case; otherwise only what is allowed can be refused. -/
def lowered (legacy isolated unstable : Bool) (status : Status) : Status :=
  if legacy && isolated then .unauthorized
  else if status ≠ .allowed then status
  else if unstable || isolated then .unauthorized
  else status

/-! ## 4. The verdict -/

/-- The verdict where there is no candidate. -/
def withoutCandidates (options : PolicyOptions) (mime : String) : Verdict :=
  if options.reportsLegacyUnsupported mime then .without .npapiNotSupported
  else .without .notFound

/-- The verdict on a request with these candidates. -/
def decide (options : PolicyOptions) (c : Collaborators) (request : Request)
    (cs : List Candidate) : Verdict :=
  match choose c request cs with
  | none => withoutCandidates options request.mimeType
  | some (candidate, available) =>
    let status := lowered candidate.plugin.kind.isLegacy (c.isolated request.process).suspects
      (c.unstable candidate.plugin.id).suspects (if available then .allowed else .disabled)
    .on status candidate.plugin candidate.mimeType

/-- The verdict on a request, given what the catalog answered.  A catalog that fails counts as
empty. -/
def judge (options : PolicyOptions) (c : Collaborators)
    (associationsOf : PluginDescriptor → List MimeAssociation) (request : Request)
    (answer : Except CollaboratorFault (List PluginDescriptor)) : Verdict :=
  let plugins :=
    match answer with
    | .ok plugins => plugins
    | .error _ => []
  decide options c request (candidates associationsOf request.url request.mimeType true plugins)

end Policy

end PluginArbiter
