import Criteria.Project.Config
/-!
Setting up a project: a configuration, a catalog and an example of a saved query. Of these only the
configuration is ever overwritten.
-/

namespace Criteria.Project

structure CreateRequest where
  /-- The formats to put into the configuration, the usual ones if there are none. -/
  emit : List Export.Format
  /-- The folder for saved queries. -/
  queries : String
  /-- Whether to overwrite a configuration. -/
  force : Bool
  deriving DecidableEq

namespace Example

def field (name label : String) (type : FieldType) (options : List FieldOption) : Field :=
  ⟨name, label, type, none, options, none⟩

def catalog : Catalog :=
  ⟨[field "age" "Age" .number [],
    field "name" "Name" .string [],
    field "status" "Status" .select [⟨"active", "Active"⟩, ⟨"inactive", "Inactive"⟩],
    field "premium" "Premium" .boolean [],
    field "signup" "Signup date" .date []]⟩

/-- The age from which customers are adults. -/
def adult : Value := ((Number.ofInt? 18).map Value.number).getD .null

def tree : Tree :=
  ⟨⟨"root", .and, false, none⟩,
    [.condition ⟨"c1", "age", .greaterThan, adult, none⟩,
      .group ⟨"g1", .or, false, none⟩
        [.condition ⟨"c2", "status", .equals, .text "active", none⟩,
          .condition ⟨"c3", "premium", .isTrue, .null, none⟩]]⟩

def query (now : Timestamp) : SavedQuery :=
  { SavedQuery.create now "Adult customers" tree with
    description := some "Customers over 18 who are active or premium" }

end Example

section Creating

variable {m : Type → Type} [Monad m]

/-- Writes a file and says so. -/
def writeNew (h : Host m) (path : Path) (title text : String) : ExceptT String m Unit := do
  ExceptT.mk (h.write path text)
  h.say ("  ✓ Created " ++ title)

/-- Sets up a project in a folder. What is there already stays as it is. -/
def create (h : Host m) (dir : Path) (r : CreateRequest) : ExceptT String m Bool := do
  let configPath := dir.join ⟨Config.fileName⟩
  if (← h.kind? configPath).isSome && !r.force then
    h.say ("⚠️ " ++ Config.fileName ++ " already exists")
    h.say "Use --force to overwrite"
    return true
  h.say "📝 Initializing Rulecraft project..."
  let standard : Config := {}
  let config := if r.emit.isEmpty then standard else { standard with emit := r.emit }
  let catalogPath := config.catalogPath dir
  if (← h.kind? catalogPath).isNone then
    writeNew h catalogPath config.catalog.text Example.catalog.toJson.renderPretty
  let queries := dir.join ⟨r.queries⟩
  if (← h.kind? queries).isNone then
    ExceptT.mk (h.makeFolders queries)
    h.say ("  ✓ Created " ++ r.queries ++ "/")
  let examplePath := queries.join ⟨"example.json"⟩
  if (← h.kind? examplePath).isNone then
    let now ← h.now
    writeNew h examplePath (r.queries ++ "/example.json") (Example.query now).toJson.renderPretty
  writeNew h configPath Config.fileName config.toJson.renderPretty
  h.say ""
  h.say "✅ Project initialized!"
  h.say ""
  h.say "Next steps:"
  h.say ("  1. Edit " ++ r.queries ++ "/example.json")
  h.say ("  2. Run: rulecraft lint " ++ r.queries)
  h.say ("  3. Run: rulecraft compile " ++ r.queries)
  return true

end Creating

end Criteria.Project
