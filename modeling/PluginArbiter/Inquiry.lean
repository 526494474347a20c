/-
# Questions to a policy

A policy is asked for verdicts and for candidates, one question after the other, and each question
makes it ask its catalog for the plugins.  Here the catalog may be any: every enumeration may end in
its own way, and what is reported of a plugin is any function of its descriptor.

Main statements:
* `Supply.fetch_eq_fetchFrom`: a catalog in use asks its own catalog in this way.
-/
import PluginArbiter.Catalog.Supply
import PluginArbiter.Policy

namespace PluginArbiter

/-! ## 1. Asking any catalog -/

/-- Asks any catalog for the plugins and has the answer at once. -/
def Supply.fetchFrom (s : Supply) (source : PluginSource) : CatalogAnswer × Supply :=
  match s.cache.bind (·.stored) with
  | some plugins => (.ok plugins, s)
  | none =>
    let (number, s) := s.start
    let answer := source.answerAt number
    (answer, s.finish answer)

/-- A catalog in use asks its own catalog in this way. -/
theorem Supply.fetch_eq_fetchFrom (s : Supply) : s.fetch = s.fetchFrom s.catalog := rfl

/-- A kept answer is given without asking. -/
theorem Supply.fetchFrom_of_stored {s : Supply} {plugins : List PluginDescriptor}
    (h : s.cache.bind (·.stored) = some plugins) (source : PluginSource) :
    s.fetchFrom source = (.ok plugins, s) := by
  simp only [fetchFrom, h]

/-- Without one an enumeration is started. -/
theorem Supply.fetchFrom_of_not_stored {s : Supply} (h : s.cache.bind (·.stored) = none)
    (source : PluginSource) :
    s.fetchFrom source = (source.answerAt s.started,
      { s with
        started := s.started + 1
        cache := s.cache.map fun c => c.finish (source.answerAt s.started) }) := by
  simp only [fetchFrom, h, start, finish]

/-! ## 2. Questions -/

namespace Policy

/-- A question to a policy.  With a question for a verdict come the collaborators as they stand by
then, for anything may have changed since the last one. -/
inductive Question
  | verdict (c : Collaborators) (request : Request)
  | candidates (url : Url) (mime : String) (patterns : Bool)

/-- What comes of a question. -/
inductive Outcome
  | verdict (v : Verdict)
  | candidates (found : Except CollaboratorFault (List Candidate))

/-- What comes of a question, given what the catalog answered. -/
def Question.outcome (options : PolicyOptions)
    (associationsOf : PluginDescriptor → List MimeAssociation) (answer : CatalogAnswer) :
    Question → Outcome
  | verdict c request => .verdict (judge options c associationsOf request answer)
  | candidates url mime patterns =>
    .candidates (findCandidates associationsOf url mime patterns answer)

/-- Asks questions one after the other, and each time the catalog for the plugins. -/
def inquire (options : PolicyOptions) (source : PluginSource) (s : Supply) :
    List Question → List Outcome × Supply
  | [] => ([], s)
  | q :: rest =>
    let (answer, s) := s.fetchFrom source
    let (outcomes, s) := inquire options source s rest
    (q.outcome options source.associationsOf answer :: outcomes, s)

end Policy

end PluginArbiter
