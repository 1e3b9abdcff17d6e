import Criteria.Document
/-!
Editing with all exports at hand. The exports are kept with the version of the document that they
are of, and made anew only for another version.
-/

namespace Criteria

structure Pipeline where
  document : Document
  options : Export.Options
  /-- The last exports and the version they are of. -/
  cache : Option (Nat × Export.Bundle)

namespace Pipeline

/-- What there is to show after a step. -/
structure Report where
  version : Nat
  /-- Whether the tree is another one now. -/
  changed : Bool
  findings : List Lint.Finding
  outputs : Export.Bundle

def ofDocument (d : Document) (options : Export.Options) : Pipeline := ⟨d, options, none⟩

/-- The exports of the current version, from the cache if it has them. -/
def outputs (p : Pipeline) : Export.Bundle × Pipeline :=
  let fresh : Export.Bundle := Export.all p.document.tree p.document.catalog p.options
  let bundle := match p.cache with
    | some (version, bundle) => if version = p.document.version then bundle else fresh
    | none => fresh
  (bundle, { p with cache := some (p.document.version, bundle) })

/-- The exports that were made last, perhaps of an earlier version. -/
def lastOutputs? (p : Pipeline) : Option Export.Bundle := p.cache.map (·.2)

def clearCache (p : Pipeline) : Pipeline := { p with cache := none }

def report (changed : Bool) (p : Pipeline) : Report × Pipeline :=
  let (outputs, p) := p.outputs
  (⟨p.document.version, changed, p.document.findings, outputs⟩, p)

/-- Applies a mutation and exports the tree. -/
def apply (today : Date) (m : Mutation) (p : Pipeline) : Except EditError Report × Pipeline :=
  let (result, document) := p.document.apply today m
  let p := { p with document }
  match result with
  | .error e => (.error e, p)
  | .ok o =>
    let (r, p) := p.report o.changed
    (.ok r, p)

/-- Steps back and exports the tree. -/
def undo? (p : Pipeline) : Option (Report × Pipeline) :=
  p.document.undo?.map fun document => { p with document }.report true

/-- Steps forward and exports the tree. -/
def redo? (p : Pipeline) : Option (Report × Pipeline) :=
  p.document.redo?.map fun document => { p with document }.report true

end Pipeline

end Criteria
