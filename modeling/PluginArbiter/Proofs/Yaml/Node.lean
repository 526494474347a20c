/-
# Nodes of documents

A document that is written as a text describes a node without anchors and references.  Linking
leaves such a node as it is, no limit on references is ever met, and the source shows the document.

Main statements:
* `Source.ofNode_ofDocument`: linking finds nothing to do;
* `Source.portrays_ofDocument`: the source shows the document;
* `Source.isModest_ofDocument`: it is read within the limit on references.
-/
import PluginArbiter.Proofs.Document.Portrayal
import PluginArbiter.Proofs.Document.Regular
import PluginArbiter.Yaml.Following
import PluginArbiter.Yaml.Printer

namespace PluginArbiter.Yaml

/-! ## 1. The node of a document -/

namespace Node

variable {label : Type}

mutual

/-- The node that the text of a document describes.  Only texts may be written in quotes. -/
def ofDocument : Document → Node label
  | .null => .scalar true "null"
  | .flag b => .scalar true (if b then "true" else "false")
  | .integer n => .scalar true (String.ofList (Printer.integer n))
  | .real m p => .scalar true (String.ofList (Printer.real m p))
  | .text s => .scalar (Style.choose s == .plain) s
  | .list xs => .list (ofItems xs)
  | .record fs => .record (ofFields fs)

def ofItems : List Document → List (Node label)
  | [] => []
  | x :: xs => ofDocument x :: ofItems xs

def ofFields : List (String × Document) → List (Node label × Node label)
  | [] => []
  | (name, x) :: fs => (.scalar true name, ofDocument x) :: ofFields fs

end

/-! ## 2. Linking -/

mutual

theorem link_ofDocument (a : Anchors) : ∀ d, link a (ofDocument d) = some (ofDocument d, a)
  | .null | .flag _ | .integer _ | .real .. | .text _ => by rw [ofDocument, ofDocument, link]
  | .list xs => by
    rw [ofDocument, ofDocument, link, linkItems_ofItems a xs]
    rfl
  | .record fs => by
    rw [ofDocument, ofDocument, link, linkFields_ofFields a fs]
    rfl

theorem linkItems_ofItems (a : Anchors) : ∀ xs, linkItems a (ofItems xs) = some (ofItems xs, a)
  | [] => by rw [ofItems, ofItems, linkItems]
  | x :: xs => by
    simp only [ofItems, linkItems, link_ofDocument a x, linkItems_ofItems a xs, Option.bind_some,
      Option.map_some]

theorem linkFields_ofFields (a : Anchors) :
    ∀ fs, linkFields a (ofFields fs) = some (ofFields fs, a)
  | [] => by rw [ofFields, ofFields, linkFields]
  | (name, x) :: fs => by
    simp only [ofFields, linkFields, link, link_ofDocument a x, linkFields_ofFields a fs,
      Option.bind_some, Option.map_some]

end

mutual

theorem targets_ofDocument : ∀ d, targets (ofDocument d) = []
  | .null | .flag _ | .integer _ | .real .. | .text _ => by rw [ofDocument, targets]
  | .list xs => by rw [ofDocument, targets, targetsOfItems_ofItems xs]
  | .record fs => by rw [ofDocument, targets, targetsOfFields_ofFields fs]

theorem targetsOfItems_ofItems : ∀ xs, targetsOfItems (ofItems xs) = []
  | [] => by rw [ofItems, targetsOfItems]
  | x :: xs => by
    rw [ofItems, targetsOfItems, targets_ofDocument x, targetsOfItems_ofItems xs]
    rfl

theorem targetsOfFields_ofFields : ∀ fs, targetsOfFields (ofFields fs) = []
  | [] => by rw [ofFields, targetsOfFields]
  | (name, x) :: fs => by
    rw [ofFields, targetsOfFields, targets, targets_ofDocument x, targetsOfFields_ofFields fs]
    rfl

end

end Node

namespace Source

open Node Document

/-- **Linking finds nothing to do.** -/
theorem ofNode_ofDocument (d : Document) :
    ofNode (ofDocument d) = some { targets := [], node := ofDocument d } := by
  simp only [ofNode, link_ofDocument, Option.map_some, targets_ofDocument, List.reverse_nil]

/-! ## 3. What the source shows -/

variable {targets : List (Nat × Node Nat)}

theorem content_ofDocument (d : Document) :
    content { targets, node := ofDocument d } = ofDocument d := by
  cases d <;> simp only [content, ofDocument, Node.content]

theorem portrays_flag (b : Bool) :
    Readable.flag? ({ targets, node := ofDocument (.flag b) } : Source) = some b := by
  cases b <;> rfl

theorem portrays_natural (n : Nat) :
    Readable.natural? ({ targets, node := ofDocument (.natural n) } : Source) = some n := by
  have hplain : plain? { targets, node := ofDocument (.natural n) }
      = some (String.ofList (Text.decimal n)) := rfl
  have hread : Readable.natural? ({ targets, node := ofDocument (.natural n) } : Source)
      = (plain? { targets, node := ofDocument (.natural n) }).bind fun t =>
        Number.natural? t.toList := rfl
  rw [hread, hplain, Option.bind_some, String.toList_ofList, Number.natural?_decimal]

/-- The fields of a record, each with the source of its value. -/
def sourcesOf (targets : List (Nat × Node Nat)) (fs : List (String × Document)) :
    List (String × Source) :=
  fs.map fun (name, x) => (name, { targets, node := ofDocument x })

theorem names_sourcesOf (fs : List (String × Document)) :
    (sourcesOf targets fs).map (·.1) = fs.map (·.1) := by
  simp [sourcesOf, Function.comp_def]

/-- Every key is a text. -/
theorem mapM_ofFields {s : Source} (hs : s.targets = targets) (fs : List (String × Document)) :
    (ofFields fs).mapM (fun (key, value) => (s.at_ key).text?.map fun key => (key, s.at_ value))
      = some (sourcesOf targets fs) := by
  subst hs
  induction fs with
  | nil => rfl
  | cons f fs ih =>
    obtain ⟨name, x⟩ := f
    rw [ofFields, List.mapM_cons, ih]
    rfl

/-- All fields are known, each by its name. -/
theorem record?_ofFields {fs : List (String × Document)} (hnodup : (fs.map (·.1)).Nodup) :
    Readable.record? (fs.map (·.1)) ({ targets, node := ofDocument (.record fs) } : Source)
      = some (sourcesOf targets fs) := by
  have hknown : knownAmong (fs.map (·.1)) (sourcesOf targets fs) = sourcesOf targets fs :=
    knownAmong_eq_self (by rw [names_sourcesOf]; exact fun _ h => h)
  have hfields :
      knownFields (fs.map (·.1)) (sourcesOf targets fs) = some (sourcesOf targets fs) := by
    rw [knownFields_eq (by rwa [hknown, names_sourcesOf]), hknown]
  have hkeys := mapM_ofFields (s := { targets, node := ofDocument (.record fs) }) rfl fs
  exact (congrArg (·.bind (knownFields (fs.map (·.1)))) hkeys).trans hfields

mutual

/-- **The source shows the document.** -/
theorem portrays_ofDocument : ∀ d : Document, d.Regular →
    Portrays .nothing ({ targets, node := ofDocument d } : Source) d
  | .flag b, _ => portrays_flag b
  | .integer (.ofNat n), _ => ⟨n, rfl, portrays_natural n⟩
  | .text _, _ => ⟨rfl, rfl⟩
  | .list xs, h => ⟨_, rfl, portraysItems_ofItems 0 xs h⟩
  | .record fs, ⟨hnodup, h⟩ =>
    ⟨_, record?_ofFields hnodup, portraysFields_ofFields fs hnodup h⟩

theorem portraysItems_ofItems : ∀ (index : Nat) (xs : List Document), RegularItems xs →
    PortraysItems .nothing index
      ((ofItems xs).map (at_ ({ targets, node := .empty } : Source))) xs
  | _, [], _ => trivial
  | index, x :: xs, ⟨hx, hxs⟩ =>
    ⟨portrays_ofDocument x hx, portraysItems_ofItems (index + 1) xs hxs⟩

theorem portraysFields_ofFields : ∀ fs : List (String × Document), (fs.map (·.1)).Nodup →
    RegularFields fs → PortraysFields .nothing (sourcesOf targets fs) fs
  | [], _, _ => trivial
  | (name, x) :: fs, hnodup, ⟨_, hx, hfs⟩ => by
    obtain ⟨hfresh, hnodup⟩ := List.nodup_cons.mp hnodup
    have hrest := portraysFields_ofFields fs hnodup hfs
    rw [portraysFields_cons, PortraysField, if_neg (by simp)]
    exact ⟨⟨_, List.lookup_cons_self, portrays_ofDocument x hx⟩,
      portraysFields_known_cons hfresh hrest⟩

end

/-! ## 4. References -/

theorem pay_ofDocument (d : Document) (budget : Nat) : pay (ofDocument d) budget = some budget := by
  cases d <;> rfl

mutual

/-- Nothing is paid for a text without references. -/
theorem follow_ofDocument (s : Source) : ∀ (shape : Shape) (d : Document) (budget : Nat),
    s.follow shape (ofDocument d) budget = some budget
  | .scalar, d, budget => by rw [follow, pay_ofDocument]
  | .list item, d, budget => by
    have hcontent : (s.at_ (ofDocument d)).content = ofDocument d := content_ofDocument d
    have hitems : ∀ (xs : List Document) (budget : Nat),
        (ofItems xs).foldlM (fun budget node => follow s item node budget) budget
          = some budget := by
      intro xs budget
      induction xs with
      | nil => rfl
      | cons x xs ih =>
        rw [ofItems, List.foldlM_cons, follow_ofDocument s item x budget]
        exact ih
    rw [follow, pay_ofDocument, Option.bind_some, hcontent]
    cases d with
    | list xs => exact hitems xs budget
    | _ => rfl
  | .record fields, d, budget => by
    have hcontent : (s.at_ (ofDocument d)).content = ofDocument d := content_ofDocument d
    have hfields : ∀ (fs : List (String × Document)) (budget : Nat),
        (ofFields fs).foldlM (fun budget (key, value) =>
          (pay key budget).bind fun budget =>
            followField s fields (s.at_ key).text? value budget) budget = some budget := by
      intro fs budget
      induction fs with
      | nil => rfl
      | cons f fs ih =>
        obtain ⟨name, x⟩ := f
        have hfirst := followField_ofDocument s fields (s.at_ (.scalar true name)).text? x budget
        rw [ofFields, List.foldlM_cons]
        simp only [pay, Option.bind_some, hfirst]
        exact ih
    rw [follow, pay_ofDocument, Option.bind_some, hcontent]
    cases d with
    | record fs => exact hfields fs budget
    | _ => rfl

theorem followField_ofDocument (s : Source) : ∀ (fields : List (String × Shape))
    (key : Option String) (d : Document) (budget : Nat),
    s.followField fields key (ofDocument d) budget = some budget
  | [], _, _, _ => by rw [followField]
  | (name, shape) :: rest, key, d, budget => by
    rw [followField]
    split
    · exact follow_ofDocument s shape d budget
    · exact followField_ofDocument s rest key d budget

end

/-- **A text without references is read within the limit.** -/
theorem isModest_ofDocument (shape : Shape) (d : Document) :
    isModest { targets, node := ofDocument d } shape = true := by
  rw [isModest, follow_ofDocument]
  rfl

end Source

end PluginArbiter.Yaml
