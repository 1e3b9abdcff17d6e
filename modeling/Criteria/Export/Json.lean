import Criteria.Export
import Criteria.Json.Decoder
/-!
Export options as JSON. All of them may be left out.
-/

namespace Criteria

open Json (Decoder)

namespace Readable.Options

def toJson (o : Options) : Json := .object [("dateFormat", .text o.dateFormat)]

def decoder : Decoder Options :=
  .record [.of "dateFormat" .string fun dateFormat o => { o with dateFormat }] {} some

end Readable.Options

namespace Sql.Options

def toJson (o : Options) : Json := .object [("quoteAllIdentifiers", .bool o.quoteAllIdentifiers)]

def decoder : Decoder Options :=
  .record
    [.of "quoteAllIdentifiers" .bool fun quoteAllIdentifiers o => { o with quoteAllIdentifiers }]
    {} some

end Sql.Options

namespace Mongo.Options

def toJson (o : Options) : Json := .object [("caseInsensitive", .bool o.caseInsensitive)]

def decoder : Decoder Options :=
  .record [.of "caseInsensitive" .bool fun caseInsensitive o => { o with caseInsensitive }]
    {} some

end Mongo.Options

namespace Export.Options

def toJson (o : Options) : Json :=
  .object [("readable", o.readable.toJson), ("sql", o.sql.toJson), ("mongo", o.mongo.toJson)]

def decoder : Decoder Options :=
  .record
    [.of "readable" Readable.Options.decoder fun readable o => { o with readable },
      .of "sql" Sql.Options.decoder fun sql o => { o with sql },
      .of "mongo" Mongo.Options.decoder fun mongo o => { o with mongo }]
    {} some

end Export.Options

end Criteria
