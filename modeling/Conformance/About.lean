/-!
# About the library
-/

namespace Conformance

def version : String := "0.3.0"

def publicNames : List String :=
  ["Aggregation", "ArraySchema", "ComplexSchema", "DocumentLoadError", "EnumOptions", "MISSING",
    "NumberSchema", "ObjectSchema", "SIMPLE_SCHEMA_KINDS", "Schema", "SchemaDefinitionError",
    "SchemaReferenceError", "ShapeCheckError", "SimpleSchema", "StringSchema", "ValidatorFn",
    "__version__", "create_validator", "is_schema_simple", "validate"]

end Conformance
