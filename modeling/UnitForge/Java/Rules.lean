import UnitForge.Java.Grammar

set_option autoImplicit false

/-!
# The grammar of Java

The rules by which a Java source file is parsed. A file is a sequence of statements and methods, so
that a fragment of a class is well formed too: declarations are statements, and so are blocks and
fields.

## Main definitions

* `UnitForge.Java.rules`: the rules by name.
* `UnitForge.Java.grammar`: the compiled grammar.
-/

namespace UnitForge.Java

namespace Pattern

/-- A keyword, or a symbol, as a node of that name. -/
def lit (text : String) : Pattern := .terminal ⟨.symbol, some (Text.lit text), false, text⟩

/-- A word as a node of the given kind. -/
def wordAs (text node : String) : Pattern := .terminal ⟨.word, some (Text.lit text), false, node⟩

/-- A symbol that follows the token before it without a gap. -/
def glued (text : String) : Pattern := .terminal ⟨.symbol, some (Text.lit text), true, text⟩

/-- Any word as a node of the given kind. -/
def anyWord (node : String) : Pattern := .terminal ⟨.word, none, false, node⟩

/-- One of several keywords or symbols. -/
def oneOf (texts : List String) : Pattern := .alt (texts.map lit)

/-- Something any number of times, but at least once. -/
def many1 (item : Pattern) : Pattern := .seq [item, .many item]

/-- Something at least once, with a separator between any two. -/
def sepBy1 (separator : String) (item : Pattern) : Pattern :=
  .seq [item, .many (.seq [lit separator, item])]

/-- Something any number of times, with commas between any two. -/
def commaSep (item : Pattern) : Pattern := .opt (sepBy1 "," item)

/-- Something in parentheses. -/
def parens (item : Pattern) : Pattern := .seq [lit "(", item, lit ")"]

/-- Something in braces. -/
def braces (item : Pattern) : Pattern := .seq [lit "\x7b", item, lit "\x7d"]

end Pattern

open Pattern

/-- An identifier. -/
def identifier : Pattern := anyWord "identifier"

/-- An identifier, or a word that is a keyword elsewhere. -/
def nameWord : Pattern :=
  .alt (identifier ::
    ["open", "module", "record", "with", "sealed"].map fun word => wordAs word "identifier")

/-- Types, their parameters and their arguments. -/
def typeRules : List (String × Pattern) := [
  ("_type", .alt [.rule "_unannotated_type", .rule "annotated_type"]),
  ("_unannotated_type", .alt [.rule "_simple_type", .rule "array_type"]),
  ("_simple_type", .alt [.rule "void_type", .rule "integral_type", .rule "floating_point_type",
    .rule "boolean_type", .rule "_type_name", .rule "scoped_type_identifier",
    .rule "generic_type"]),
  ("_type_name", anyWord "type_identifier"),
  ("void_type", lit "void"),
  ("integral_type", .alt (["byte", "short", "int", "long", "char"].map lit)),
  ("floating_point_type", .alt [lit "float", lit "double"]),
  ("boolean_type", lit "boolean"),
  ("annotated_type", .seq [many1 (.rule "_annotation"), .rule "_unannotated_type"]),
  ("scoped_type_identifier", .seq [
    .alt [.rule "_type_name", .rule "scoped_type_identifier", .rule "generic_type"], lit ".",
    .many (.rule "_annotation"), .rule "_type_name"]),
  ("generic_type", .seq [.alt [.rule "_type_name", .rule "scoped_type_identifier"],
    .rule "type_arguments"]),
  ("array_type", .seq [.rule "_unannotated_type", .rule "dimensions"]),
  ("dimensions", many1 (.seq [.many (.rule "_annotation"), lit "[", lit "]"])),
  ("type_arguments", .seq [lit "<", commaSep (.alt [.rule "_type", .rule "wildcard"]), lit ">"]),
  ("wildcard", .seq [.many (.rule "_annotation"), lit "?",
    .opt (.seq [oneOf ["extends", "super"], .rule "_type"])]),
  ("type_parameters", .seq [lit "<", sepBy1 "," (.rule "type_parameter"), lit ">"]),
  ("type_parameter", .seq [.many (.rule "_annotation"), anyWord "type_identifier",
    .opt (.rule "type_bound")]),
  ("type_bound", .seq [lit "extends", sepBy1 "&" (.rule "_type")])]

/-- Names, modifiers and annotations. -/
def modifierRules : List (String × Pattern) := [
  ("_name", .alt [nameWord, .rule "scoped_identifier"]),
  ("scoped_identifier", .seq [.rule "_name", lit ".", identifier]),
  ("modifiers", many1 (.alt [.rule "_annotation", .rule "_modifier"])),
  ("_modifier", .alt (["public", "protected", "private", "abstract", "static", "final", "strictfp",
    "default", "synchronized", "native", "transient", "volatile", "sealed", "non-sealed"].map lit)),
  ("_annotation", .alt [.rule "marker_annotation", .rule "annotation"]),
  ("marker_annotation", .seq [lit "@", .rule "_name"]),
  ("annotation", .seq [lit "@", .rule "_name", .rule "annotation_argument_list"]),
  ("annotation_argument_list", parens (.alt [.rule "_element_value",
    commaSep (.rule "element_value_pair")])),
  ("element_value_pair", .seq [nameWord, lit "=", .rule "_element_value"]),
  ("_element_value", .alt [.rule "_expression", .rule "element_value_array_initializer",
    .rule "_annotation"]),
  ("element_value_array_initializer", braces (.seq [commaSep (.rule "_element_value"),
    .opt (lit ",")]))]

/-- Declarations of modules, packages and imports, and of types with their members. -/
def declarationRules : List (String × Pattern) := [
  ("_declaration", .alt [.rule "module_declaration", .rule "package_declaration",
    .rule "import_declaration", .rule "class_declaration", .rule "record_declaration",
    .rule "interface_declaration", .rule "annotation_type_declaration",
    .rule "enum_declaration"]),
  ("module_declaration", .seq [.many (.rule "_annotation"), .opt (lit "open"), lit "module",
    .rule "_name", .rule "module_body"]),
  ("module_body", braces (.many (.rule "_module_directive"))),
  ("_module_directive", .alt [.rule "requires_module_directive",
    .rule "exports_module_directive", .rule "opens_module_directive",
    .rule "uses_module_directive", .rule "provides_module_directive"]),
  ("requires_module_directive", .seq [lit "requires", .many (oneOf ["transitive", "static"]),
    .rule "_name", lit ";"]),
  ("exports_module_directive", .seq [lit "exports", .rule "_name",
    .opt (.seq [lit "to", sepBy1 "," (.rule "_name")]), lit ";"]),
  ("opens_module_directive", .seq [lit "opens", .rule "_name",
    .opt (.seq [lit "to", sepBy1 "," (.rule "_name")]), lit ";"]),
  ("uses_module_directive", .seq [lit "uses", .rule "_name", lit ";"]),
  ("provides_module_directive", .seq [lit "provides", .rule "_name", lit "with",
    sepBy1 "," (.rule "_name"), lit ";"]),
  ("package_declaration", .seq [.many (.rule "_annotation"), lit "package", .rule "_name",
    lit ";"]),
  ("import_declaration", .seq [lit "import", .opt (lit "static"), .rule "_name",
    .opt (.seq [lit ".", .rule "asterisk"]), lit ";"]),
  ("asterisk", lit "*"),
  ("enum_declaration", .seq [.opt (.rule "modifiers"), lit "enum", identifier,
    .opt (.rule "super_interfaces"), .rule "enum_body"]),
  ("enum_body", braces (.seq [commaSep (.rule "enum_constant"), .opt (lit ","),
    .opt (.rule "enum_body_declarations")])),
  ("enum_body_declarations", .seq [lit ";", .many (.rule "_class_body_declaration")]),
  ("enum_constant", .seq [.opt (.rule "modifiers"), identifier, .opt (.rule "argument_list"),
    .opt (.rule "class_body")]),
  ("class_declaration", .seq [.opt (.rule "modifiers"), lit "class", identifier,
    .opt (.rule "type_parameters"), .opt (.rule "superclass"), .opt (.rule "super_interfaces"),
    .opt (.rule "permits"), .rule "class_body"]),
  ("superclass", .seq [lit "extends", .rule "_type"]),
  ("super_interfaces", .seq [lit "implements", .rule "type_list"]),
  ("permits", .seq [lit "permits", .rule "type_list"]),
  ("type_list", sepBy1 "," (.rule "_type")),
  ("class_body", braces (.many (.rule "_class_body_declaration"))),
  ("_class_body_declaration", .alt [.rule "field_declaration", .rule "record_declaration",
    .rule "method_declaration", .rule "compact_constructor_declaration",
    .rule "class_declaration", .rule "interface_declaration",
    .rule "annotation_type_declaration", .rule "enum_declaration", .rule "block",
    .rule "static_initializer", .rule "constructor_declaration", lit ";"]),
  ("static_initializer", .seq [lit "static", .rule "block"]),
  ("constructor_declaration", .seq [.opt (.rule "modifiers"), .opt (.rule "type_parameters"),
    identifier, .rule "formal_parameters", .opt (.rule "throws"), .rule "constructor_body"]),
  ("constructor_body", braces (.seq [.opt (.rule "explicit_constructor_invocation"),
    .many (.rule "_statement")])),
  ("explicit_constructor_invocation", .seq [
    .alt [.seq [.opt (.rule "type_arguments"), .alt [.rule "this", .rule "super"]],
      .seq [.rule "_primary_expression", lit ".", .opt (.rule "type_arguments"),
        .rule "super"]],
    .rule "argument_list", lit ";"]),
  ("compact_constructor_declaration", .seq [.opt (.rule "modifiers"), identifier,
    .rule "block"]),
  ("record_declaration", .seq [.opt (.rule "modifiers"), lit "record", identifier,
    .opt (.rule "type_parameters"), .rule "formal_parameters", .opt (.rule "super_interfaces"),
    .rule "class_body"]),
  ("annotation_type_declaration", .seq [.opt (.rule "modifiers"), lit "@interface", identifier,
    .rule "annotation_type_body"]),
  ("annotation_type_body", braces (.many (.alt [.rule "annotation_type_element_declaration",
    .rule "constant_declaration", .rule "class_declaration", .rule "interface_declaration",
    .rule "enum_declaration", .rule "annotation_type_declaration", lit ";"]))),
  ("annotation_type_element_declaration", .seq [.opt (.rule "modifiers"),
    .rule "_unannotated_type", nameWord, lit "(", lit ")", .opt (.rule "dimensions"),
    .opt (.seq [lit "default", .rule "_element_value"]), lit ";"]),
  ("interface_declaration", .seq [.opt (.rule "modifiers"), lit "interface", identifier,
    .opt (.rule "type_parameters"), .opt (.rule "extends_interfaces"), .opt (.rule "permits"),
    .rule "interface_body"]),
  ("extends_interfaces", .seq [lit "extends", .rule "type_list"]),
  ("interface_body", braces (.many (.alt [.rule "constant_declaration",
    .rule "enum_declaration", .rule "method_declaration", .rule "class_declaration",
    .rule "interface_declaration", .rule "record_declaration",
    .rule "annotation_type_declaration", lit ";"]))),
  ("constant_declaration", .seq [.opt (.rule "modifiers"), .rule "_unannotated_type",
    .rule "_variable_declarators", lit ";"]),
  ("field_declaration", .seq [.opt (.rule "modifiers"), .rule "_unannotated_type",
    .rule "_variable_declarators", lit ";"]),
  ("_variable_declarators", sepBy1 "," (.rule "variable_declarator")),
  ("variable_declarator", .seq [nameWord, .opt (.rule "dimensions"),
    .opt (.seq [lit "=", .rule "_variable_initializer"])]),
  ("_variable_initializer", .alt [.rule "_expression", .rule "array_initializer"]),
  ("array_initializer", braces (.seq [commaSep (.rule "_variable_initializer"),
    .opt (lit ",")])),
  ("method_declaration", .seq [.opt (.rule "modifiers"),
    .opt (.seq [.rule "type_parameters", .many (.rule "_annotation")]),
    .rule "_unannotated_type", nameWord, .rule "formal_parameters", .opt (.rule "dimensions"),
    .opt (.rule "throws"), .alt [.rule "block", lit ";"]]),
  ("throws", .seq [lit "throws", sepBy1 "," (.rule "_type")]),
  ("formal_parameters", parens (.alt [.rule "receiver_parameter",
    .seq [.opt (.seq [.rule "receiver_parameter", lit ","]),
      commaSep (.alt [.rule "formal_parameter", .rule "spread_parameter"])]])),
  ("formal_parameter", .seq [.opt (.rule "modifiers"), .rule "_unannotated_type", nameWord,
    .opt (.rule "dimensions")]),
  ("receiver_parameter", .seq [.many (.rule "_annotation"), .rule "_unannotated_type",
    .many (.seq [identifier, lit "."]), .rule "this"]),
  ("spread_parameter", .seq [.opt (.rule "modifiers"), .rule "_unannotated_type", lit "...",
    .many (.rule "_annotation"), .rule "variable_declarator"])]

/-- Statements. -/
def statementRules : List (String × Pattern) := [
  ("_statement", .alt [.rule "_declaration", .rule "expression_statement",
    .rule "labeled_statement", .rule "if_statement", .rule "while_statement",
    .rule "for_statement", .rule "enhanced_for_statement", .rule "block", lit ";",
    .rule "assert_statement", .rule "do_statement", .rule "break_statement",
    .rule "continue_statement", .rule "return_statement", .rule "yield_statement",
    .rule "switch_expression", .rule "synchronized_statement",
    .rule "local_variable_declaration", .rule "throw_statement", .rule "try_statement",
    .rule "try_with_resources_statement"]),
  ("block", braces (.many (.rule "_statement"))),
  ("expression_statement", .seq [.rule "_expression", lit ";"]),
  ("labeled_statement", .seq [identifier, lit ":", .rule "_statement"]),
  ("assert_statement", .seq [lit "assert", .rule "_expression",
    .opt (.seq [lit ":", .rule "_expression"]), lit ";"]),
  ("switch_expression", .seq [lit "switch", .rule "parenthesized_expression",
    .rule "switch_block"]),
  ("switch_block", braces (.alt [.many (.rule "switch_block_statement_group"),
    many1 (.rule "switch_rule")])),
  ("switch_block_statement_group", .seq [many1 (.seq [.rule "switch_label", lit ":"]),
    .many (.rule "_statement")]),
  ("switch_rule", .seq [.rule "switch_label", lit "->",
    .alt [.rule "expression_statement", .rule "throw_statement", .rule "block"]]),
  ("switch_label", .alt [
    .seq [lit "case", .alt [.rule "_pattern", sepBy1 "," (.rule "_expression")],
      .opt (.rule "guard")],
    lit "default"]),
  ("_pattern", .alt [.rule "type_pattern", .rule "record_pattern"]),
  ("type_pattern", .seq [.rule "_unannotated_type", nameWord]),
  ("record_pattern", .seq [.alt [identifier, .rule "generic_type"],
    .rule "record_pattern_body"]),
  ("record_pattern_body", parens (commaSep (.alt [.rule "record_pattern_component",
    .rule "record_pattern"]))),
  ("record_pattern_component", .alt [lit "_", .seq [.rule "_unannotated_type", identifier]]),
  ("guard", .seq [lit "when", .rule "_expression"]),
  ("do_statement", .seq [lit "do", .rule "_statement", lit "while",
    .rule "parenthesized_expression", lit ";"]),
  ("break_statement", .seq [lit "break", .opt identifier, lit ";"]),
  ("continue_statement", .seq [lit "continue", .opt identifier, lit ";"]),
  ("return_statement", .seq [lit "return", .opt (.rule "_expression"), lit ";"]),
  ("yield_statement", .seq [lit "yield", .rule "_expression", lit ";"]),
  ("synchronized_statement", .seq [lit "synchronized", .rule "parenthesized_expression",
    .rule "block"]),
  ("throw_statement", .seq [lit "throw", .rule "_expression", lit ";"]),
  ("try_statement", .seq [lit "try", .rule "block",
    .alt [many1 (.rule "catch_clause"),
      .seq [.many (.rule "catch_clause"), .rule "finally_clause"]]]),
  ("catch_clause", .seq [lit "catch", parens (.rule "catch_formal_parameter"),
    .rule "block"]),
  ("catch_formal_parameter", .seq [.opt (.rule "modifiers"),
    sepBy1 "|" (.rule "_unannotated_type"), nameWord, .opt (.rule "dimensions")]),
  ("finally_clause", .seq [lit "finally", .rule "block"]),
  ("try_with_resources_statement", .seq [lit "try",
    parens (.seq [sepBy1 ";" (.rule "resource"), .opt (lit ";")]), .rule "block",
    .many (.rule "catch_clause"), .opt (.rule "finally_clause")]),
  ("resource", .alt [
    .seq [.opt (.rule "modifiers"), .rule "_unannotated_type", nameWord,
      .opt (.rule "dimensions"), lit "=", .rule "_expression"],
    identifier, .rule "field_access"]),
  ("if_statement", .seq [lit "if", .rule "parenthesized_expression", .rule "_statement",
    .opt (.seq [lit "else", .rule "_statement"])]),
  ("while_statement", .seq [lit "while", .rule "parenthesized_expression",
    .rule "_statement"]),
  ("for_statement", .seq [lit "for", lit "(",
    .alt [.rule "local_variable_declaration",
      .seq [commaSep (.rule "_expression"), lit ";"]],
    .opt (.rule "_expression"), lit ";", commaSep (.rule "_expression"), lit ")",
    .rule "_statement"]),
  ("enhanced_for_statement", .seq [lit "for", lit "(", .opt (.rule "modifiers"),
    .rule "_unannotated_type", nameWord, .opt (.rule "dimensions"), lit ":",
    .rule "_expression", lit ")", .rule "_statement"]),
  ("local_variable_declaration", .seq [.opt (.rule "modifiers"), .rule "_unannotated_type",
    .rule "_variable_declarators", lit ";"])]

/-- The operators between two operands, but for those that begin with a closing angle bracket. -/
def binaryOperators : List String :=
  ["<", "==", "<=", ">=", "!=", "&&", "||", "+", "-", "*", "/", "&", "|", "^", "%", "<<"]

/-- The operators of assignments. -/
def assignmentOperators : List String :=
  ["=", "+=", "-=", "*=", "/=", "&=", "|=", "^=", "%=", "<<=", ">>=", ">>>="]

/-- Expressions. -/
def expressionRules : List (String × Pattern) := [
  ("_expression", .alt [.rule "_operand", .rule "binary_expression",
    .rule "instanceof_expression", .rule "ternary_expression"]),
  ("_operand", .alt [.rule "assignment_expression", .rule "lambda_expression",
    .rule "update_expression", .rule "_primary_expression", .rule "unary_expression",
    .rule "cast_expression", .rule "switch_expression"]),
  ("binary_expression", .seq [.rule "_expression", .rule "_binary_operator",
    .rule "_operand"]),
  ("_binary_operator", .alt (binaryOperators.map lit ++
    [lit ">", .seq [lit ">", glued ">"], .seq [lit ">", glued ">", glued ">"]])),
  ("instanceof_expression", .seq [.rule "_expression", lit "instanceof",
    .alt [.seq [.opt (lit "final"), .rule "_type", .opt nameWord], .rule "record_pattern"]]),
  ("ternary_expression", .seq [.rule "_expression", lit "?", .rule "_expression", lit ":",
    .rule "_expression"]),
  ("assignment_expression", .seq [
    .alt [nameWord, .rule "field_access", .rule "array_access"],
    oneOf assignmentOperators, .rule "_expression"]),
  ("lambda_expression", .seq [
    .alt [nameWord, .rule "formal_parameters", .rule "inferred_parameters"], lit "->",
    .alt [.rule "_expression", .rule "block"]]),
  ("inferred_parameters", parens (sepBy1 "," nameWord)),
  ("unary_expression", .seq [oneOf ["+", "-", "!", "~"], .rule "_operand"]),
  ("update_expression", .alt [.seq [oneOf ["++", "--"], .rule "_operand"],
    .seq [.rule "_primary_expression", oneOf ["++", "--"]]]),
  ("cast_expression", .seq [parens (sepBy1 "&" (.rule "_type")), .rule "_operand"]),
  ("_primary_expression", .alt [.rule "_literal", .rule "class_literal", .rule "this",
    nameWord, .rule "parenthesized_expression", .rule "object_creation_expression",
    .rule "field_access", .rule "array_access", .rule "method_invocation",
    .rule "method_reference", .rule "array_creation_expression",
    .rule "template_expression"]),
  ("_literal", .alt [.terminal ⟨.number, none, false, "number_literal"⟩,
    .terminal ⟨.character, none, false, "character_literal"⟩, .rule "string_literal",
    lit "true", lit "false", lit "null"]),
  ("string_literal", .terminal ⟨.string, none, false, "string_fragment"⟩),
  ("this", lit "this"),
  ("super", lit "super"),
  ("class_literal", .seq [.rule "_unannotated_type", lit ".", lit "class"]),
  ("parenthesized_expression", parens (.rule "_expression")),
  ("object_creation_expression", .seq [.opt (.seq [.rule "_primary_expression", lit "."]),
    lit "new", .opt (.rule "type_arguments"), .many (.rule "_annotation"),
    .rule "_simple_type", .rule "argument_list", .opt (.rule "class_body")]),
  ("field_access", .seq [.alt [.rule "_primary_expression", .rule "super"],
    .opt (.seq [lit ".", .rule "super"]), lit ".", .alt [nameWord, .rule "this"]]),
  ("array_access", .seq [.rule "_primary_expression", lit "[", .rule "_expression", lit "]"]),
  ("method_invocation", .seq [
    .opt (.seq [.alt [.rule "_primary_expression", .rule "super"], lit ".",
      .opt (.seq [.rule "super", lit "."]), .opt (.rule "type_arguments")]),
    nameWord, .rule "argument_list"]),
  ("argument_list", parens (commaSep (.rule "_expression"))),
  ("method_reference", .seq [
    .alt [.rule "_type", .rule "_primary_expression", .rule "super"], lit "::",
    .opt (.rule "type_arguments"), .alt [lit "new", identifier]]),
  ("array_creation_expression", .seq [lit "new", .many (.rule "_annotation"),
    .rule "_simple_type",
    .alt [.seq [many1 (.rule "dimensions_expr"), .opt (.rule "dimensions")],
      .seq [.rule "dimensions", .rule "array_initializer"]]]),
  ("dimensions_expr", .seq [.many (.rule "_annotation"), lit "[", .rule "_expression",
    lit "]"]),
  ("template_expression", .seq [.rule "_primary_expression", lit ".",
    .rule "string_literal"])]

/-- All rules; the first is for a whole source file. -/
def rules : List (String × Pattern) :=
  ("program", .many (.alt [.rule "_statement", .rule "method_declaration"])) ::
    (declarationRules ++ modifierRules ++ typeRules ++ statementRules ++ expressionRules)

/-- The grammar of Java source files. -/
def grammar : Grammar := Grammar.compile rules

end UnitForge.Java
