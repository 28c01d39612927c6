import SchemaCodegen.Mapper.Statement
import SchemaCodegen.Options.Styles

/-!
# Selected statements

Which statements a mapper has under its options.
-/

namespace SchemaCodegen.MapperOptions

open Mapper

def wants (o : MapperOptions) : Statement → Bool
  | .select => o.allCrud || o.select
  | .insert => o.allCrud || o.insert
  | .update => o.allCrud || o.update
  | .delete => o.allCrud || o.delete

/-- The statements of the mapper, in order. -/
def selected (o : MapperOptions) : List Statement := Statement.all.filter o.wants

end SchemaCodegen.MapperOptions
