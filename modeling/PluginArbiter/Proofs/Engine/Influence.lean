/-
# What a verdict depends on

Two requests are put to the same engine at the same moment, and their verdicts are compared.  Of the
page only the host counts, and of the content only the extension at the end of the path, and that only
where no type is asked for; both without regard to ASCII case.  Beside these the process counts and
the type.  Everything else is at the sender's liberty: the frame, schemes, users, ports, queries,
fragments, and all of a path but its last segment.

The comparison follows the questions in the order in which a policy asks them.  The search sees a URL
through its extension alone (`candidates_congr`), the filter sees a page through its host alone
(`filterAnswer_congr`), and the decision sees the rest through the type and the process
(`decide_congr`).

Main statements:
* `candidates_congr`, `filterAnswer_congr`, `Policy.decide_congr`: what each question sees;
* `candidates_eq_nil_of_no_extension`: without a type and without an extension there is no candidate;
* `resolve_depends_only`: all of this for verdicts.
-/
import Mathlib.Data.List.Basic
import PluginArbiter.Engine
import PluginArbiter.Proofs.Policy.Selection
import PluginArbiter.Proofs.Url.Extension

namespace PluginArbiter

/-! ## 1. What the search sees of a URL -/

/-- Both texts are missing, or both are there and equal but for the case of ASCII letters. -/
def Text.Alike (s t : Option String) : Prop :=
  Option.Rel (fun a b => Text.sameIgnoringCase a b = true) s t

theorem Text.Alike.refl (s : Option String) : Text.Alike s s := by
  cases s with
  | none => exact .none
  | some a => exact .some (Text.sameIgnoringCase_iff.mpr rfl)

namespace Url

variable {u v : Url}

/-- Of a path only the last segment counts: paths that end in the same one have the same extension. -/
theorem extension?_congr (h : lastSegment? v.path.toList = lastSegment? u.path.toList) :
    v.extension? = u.extension? := by
  rw [extension?, extension?, h]

/-- Where there is no dot behind the last slash there is no extension. -/
theorem extension?_eq_none (h : ∀ segment, IsLastSegment u.path.toList segment → '.' ∉ segment) :
    u.extension? = none := by
  refine Option.eq_none_iff_forall_ne_some.mpr fun e he => ?_
  obtain ⟨segment, hsegment, -, -, stem, rfl⟩ := extension?_eq_some_iff.mp he
  exact h _ hsegment (by simp)

end Url

/-- An association lists an extension however it is written. -/
theorem MimeAssociation.listsExtension_congr {e e' : String}
    (h : Text.sameIgnoringCase e e' = true) (a : MimeAssociation) :
    a.listsExtension e' = a.listsExtension e := by
  simp only [listsExtension, Text.sameIgnoringCase, Text.sameIgnoringCase_iff.mp h]

namespace Candidate

variable {mime : String} {s t : Option String}

/-- The type is found by the extension however it is written, and without it where one is asked
for. -/
theorem mimeTypeFor?_congr (h : mime = "" → Text.Alike s t) (associations : List MimeAssociation)
    (patterns : Bool) :
    mimeTypeFor? associations mime t patterns = mimeTypeFor? associations mime s patterns := by
  by_cases hm : mime = ""
  · rw [mimeTypeFor?, mimeTypeFor?, if_neg (not_not_intro hm), if_neg (not_not_intro hm)]
    cases h hm with
    | none => rfl
    | some hsame =>
      simp only [Option.bind_some, MimeAssociation.listsExtension_congr hsame]
  · rw [mimeTypeFor?, mimeTypeFor?, if_pos hm, if_pos hm]

end Candidate

section

variable {associationsOf : PluginDescriptor → List MimeAssociation} {url url' : Url} {mime : String}

/-- **The search sees a URL through its extension alone**, and where a type is asked for not at
all. -/
theorem candidates_congr (h : mime = "" → Text.Alike url.extension? url'.extension?)
    (patterns : Bool) (plugins : List PluginDescriptor) :
    candidates associationsOf url' mime patterns plugins
      = candidates associationsOf url mime patterns plugins := by
  refine List.filterMap_congr fun p _ => ?_
  rw [Candidate.of?, Candidate.of?, Candidate.mimeTypeFor?_congr h]

/-- Without a type and without an extension there is no candidate. -/
theorem candidates_eq_nil_of_no_extension (h : url.extension? = none) (patterns : Bool)
    (plugins : List PluginDescriptor) :
    candidates associationsOf url "" patterns plugins = [] := by
  refine List.filterMap_eq_nil_iff.mpr fun p _ => ?_
  rw [Candidate.of?, Candidate.mimeTypeFor?, if_neg (not_not_intro rfl), h]
  rfl

end

/-! ## 2. What the filter sees of a page -/

/-- The rules see a page through its host alone. -/
theorem AvailabilityRules.isAvailable_congr {u v : Url}
    (h : Text.Alike u.hostText? v.hostText?) (r : AvailabilityRules) (id : PluginId) :
    r.isAvailable v id = r.isAvailable u id := by
  have hblocked : r.isBlocked v = r.isBlocked u := by
    unfold isBlocked
    generalize u.hostText? = s at h
    generalize v.hostText? = t at h
    cases h with
    | none => rfl
    | some hsame => simp only [Text.sameIgnoringCase_iff.mp hsame]
  rw [isAvailable, isAvailable, hblocked]

/-- **The filter sees a request through the host of its page alone**, its faults included. -/
theorem Engine.filterAnswer_congr {r r' : Request}
    (h : Text.Alike r.topUrl.hostText? r'.topUrl.hostText?) (e : Engine) (d : PluginDescriptor) :
    e.filterAnswer r' d = e.filterAnswer r d := by
  unfold filterAnswer
  rw [AvailabilityRules.isAvailable_congr h]

/-! ## 3. What the decision sees -/

namespace Policy

variable {c : Collaborators} {r r' : Request}

/-- Requests on which the filter answers alike are decided alike, if they come from one process and
ask for one type. -/
theorem decide_congr (hprocess : r'.process = r.process) (hmime : r'.mimeType = r.mimeType)
    (hfilter : ∀ filter, c.available = some filter → filter r' = filter r) (options : PolicyOptions)
    (cs : List Candidate) : Policy.decide options c r' cs = Policy.decide options c r cs := by
  have hfirst : firstAvailable c r' cs = firstAvailable c r cs := by
    cases havailable : c.available with
    | none => simp only [firstAvailable, havailable]
    | some filter => simp only [firstAvailable, havailable, hfilter filter havailable]
  have hchoose : choose c r' cs = choose c r cs := by rw [choose, choose, hfirst]
  unfold Policy.decide
  rw [hchoose, hprocess, hmime]

end Policy

/-! ## 4. Verdicts -/

namespace Engine

variable {e : Engine} {r r' : Request}

/-- What a verdict may depend on is the same in both requests. -/
structure SameMatter (r r' : Request) : Prop where
  process : r'.process = r.process
  mimeType : r'.mimeType = r.mimeType
  host : Text.Alike r.topUrl.hostText? r'.topUrl.hostText?
  extension : r.mimeType = "" → Text.Alike r.url.extension? r'.url.extension?

/-- Two requests in the same matter are judged alike, whatever the catalog answered. -/
theorem judge_congr (h : SameMatter r r') (answer : CatalogAnswer) :
    e.judge r' answer = e.judge r answer := by
  have hfilter : ∀ filter, e.collaborators.available = some filter → filter r' = filter r := by
    intro filter hfilter
    unfold collaborators at hfilter
    split at hfilter
    · obtain rfl := Option.some.inj hfilter
      exact funext (filterAnswer_congr h.host e)
    · exact absurd hfilter (by simp)
  unfold judge Policy.judge
  rw [Policy.decide_congr h.process h.mimeType hfilter, h.mimeType, candidates_congr h.extension]

/-- Without a type and without an extension the verdict is on nobody. -/
theorem judge_of_no_extension (hmime : r.mimeType = "") (h : r.url.extension? = none)
    (answer : CatalogAnswer) :
    e.judge r answer = Policy.withoutCandidates e.options "" := by
  have hnobody : ∀ plugins,
      candidates e.hub.supply.catalog.associationsOf r.url r.mimeType true plugins = [] := by
    rw [hmime]
    exact candidates_eq_nil_of_no_extension h true
  simp only [judge, Policy.judge, hnobody]
  rw [Policy.decide_of_choose_none _ (Policy.choose_eq_none_iff.mpr rfl), hmime]

/-- **What a verdict may depend on.**  Take an engine in any state, faults of its collaborators
included, and any two requests that are made to it at the same moment.

If they come from one process, ask for one type, if their pages have no host both or hosts that are
equal ignoring ASCII case, and, where the type is empty, if their URLs have no extension both or
extensions that are equal ignoring ASCII case, then the two verdicts are the same.

So a request may come from any other frame, its content and its page may be at any other URLs, and
the verdict stays, as long as the path of the content ends in the same segment and the page is on the
same host.  And what stands in front of the last slash, in the query or in the fragment is never taken
for an extension: where there is no dot in the last segment, a request without a type is answered as
if nothing were installed. -/
theorem resolve_depends_only (e : Engine) :
    (∀ r r' : Request, r'.process = r.process → r'.mimeType = r.mimeType →
        Text.Alike r.topUrl.hostText? r'.topUrl.hostText? →
        (r.mimeType = "" → Text.Alike r.url.extension? r'.url.extension?) →
        (e.resolve r').1 = (e.resolve r).1) ∧
      (∀ (r : Request) (frame : FrameId) (url topUrl : Url),
        Url.lastSegment? url.path.toList = Url.lastSegment? r.url.path.toList →
        topUrl.hostText? = r.topUrl.hostText? →
        (e.resolve { r with frame, url, topUrl }).1 = (e.resolve r).1) ∧
      ∀ r : Request, r.mimeType = "" →
        (∀ segment, Url.IsLastSegment r.url.path.toList segment → '.' ∉ segment) →
        (e.resolve r).1 = Policy.withoutCandidates e.options "" := by
  have hsame : ∀ r r' : Request, SameMatter r r' → (e.resolve r').1 = (e.resolve r).1 := by
    intro r r' h
    rw [resolve_hub_of_answer, resolve_hub_of_answer, judge_congr h]
  refine ⟨fun r r' hprocess hmime hhost hextension => ?_, fun r frame url topUrl hsegment hhost => ?_,
    fun r hmime hdot => ?_⟩
  · exact hsame r r' ⟨hprocess, hmime, hhost, hextension⟩
  · refine hsame r _ ⟨rfl, rfl, ?_, fun _ => ?_⟩
    · rw [hhost]
      exact Text.Alike.refl _
    · rw [Url.extension?_congr hsegment]
      exact Text.Alike.refl _
  · rw [resolve_hub_of_answer]
    exact judge_of_no_extension hmime (Url.extension?_eq_none hdot) _

/-- The page of the second request is another one on the same host, and its content lies elsewhere and
has the same extension.  Both are refused, for the host is blocked.  The third request looks for a
name without a dot in a directory that has one. -/
theorem resolve_depends_only_extension :
    let reader : PluginDescriptor :=
      { id := ⟨"q"⟩, associations := [{ mimeType := "a/b", fileExtensions := ["pdf"] }] }
    let e : Engine :=
      { rules := ({} : AvailabilityRules).block "H"
        hub := { supply := .ofCatalog { plugins := [reader] } false false } }
    let page : Url := { scheme := "https", authority := some { host := some (.name "h") } }
    let r : Request := { (default : Request) with
      url := { page with path := "/x/y.PDF" }
      topUrl := page }
    let other : Request := { (default : Request) with
      frame := ⟨7⟩
      url := { scheme := "file", path := "/z.pdf", query := some "w.txt" }
      topUrl := { page with
        scheme := "http"
        authority := some { userinfo := "u", host := some (.name "H"), port := some 8080 } } }
    let nameless : Request := { r with url := { page with path := "/y.pdf/x", fragment := some ".pdf" } }
    (e.resolve other).1 = (e.resolve r).1 ∧ (e.resolve r).1 = .on .disabled reader "a/b" ∧
      (e.resolve { r with frame := ⟨7⟩, url := { page with path := "/y.PDF" } }).1 = (e.resolve r).1 ∧
      (e.resolve nameless).1 = .without .notFound := by
  intro reader e page r other nameless
  obtain ⟨hsame, hincidental, hdot⟩ := resolve_depends_only e
  have hhost : Text.Alike r.topUrl.hostText? other.topUrl.hostText? := .some (by decide)
  have hextension : Text.Alike r.url.extension? other.url.extension? := by
    have hr : r.url.extension? = some "PDF" := by decide
    have hother : other.url.extension? = some "pdf" := by decide
    rw [hr, hother]
    exact .some (by decide)
  have hsegment : ∀ segment, Url.IsLastSegment nameless.url.path.toList segment → '.' ∉ segment := by
    intro segment h
    have hlast : Url.lastSegment? nameless.url.path.toList = some ['x'] := by decide
    obtain rfl := Option.some.inj ((Url.lastSegment?_eq_some_iff.mpr h).symm.trans hlast)
    decide
  exact ⟨hsame r other rfl rfl hhost fun _ => hextension, by decide,
    hincidental r ⟨7⟩ { page with path := "/y.PDF" } page (by decide) rfl, hdot nameless rfl hsegment⟩

end Engine

end PluginArbiter
