/-!
# Reserved words

Words that a language does not accept as a member name.
-/

namespace SchemaCodegen.Naming

def javaKeywords : List String :=
  ["abstract", "assert", "boolean", "break", "byte", "case", "catch", "char", "class", "const",
   "continue", "default", "do", "double", "else", "enum", "extends", "false", "final", "finally",
   "float", "for", "goto", "if", "implements", "import", "instanceof", "int", "interface", "long",
   "native", "new", "null", "package", "private", "protected", "public", "return", "short",
   "static", "strictfp", "super", "switch", "synchronized", "this", "throw", "throws",
   "transient", "true", "try", "void", "volatile", "while", "_"]

def csharpKeywords : List String :=
  ["abstract", "as", "base", "bool", "break", "byte", "case", "catch", "char", "checked", "class",
   "const", "continue", "decimal", "default", "delegate", "do", "double", "else", "enum", "event",
   "explicit", "extern", "false", "finally", "fixed", "float", "for", "foreach", "goto", "if",
   "implicit", "in", "int", "interface", "internal", "is", "lock", "long", "namespace", "new",
   "null", "object", "operator", "out", "override", "params", "private", "protected", "public",
   "readonly", "ref", "return", "sbyte", "sealed", "short", "sizeof", "stackalloc", "static",
   "string", "struct", "switch", "this", "throw", "true", "try", "typeof", "uint", "ulong",
   "unchecked", "unsafe", "ushort", "using", "virtual", "void", "volatile", "while"]

end SchemaCodegen.Naming
