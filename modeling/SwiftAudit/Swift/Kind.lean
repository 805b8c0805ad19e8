namespace SwiftAudit.Swift

-- The kinds of node that the rules tell apart, by the names of the Swift grammar.
def functionKinds : List String :=
  ["function_declaration", "init_declaration", "deinit_declaration"]

def typeKinds : List String := ["class_declaration", "protocol_declaration"]

-- One kind for each precedence of a binary operator.
def binaryKinds : List String :=
  ["additive_expression", "multiplicative_expression", "comparison_expression",
    "equality_expression", "conjunction_expression", "disjunction_expression",
    "nil_coalescing_expression", "range_expression", "bitwise_operation", "infix_expression"]

-- Under these an identifier names something; elsewhere it refers to something.
def namingKinds : List String :=
  ["pattern", "parameter", "lambda_parameter", "function_declaration",
    "protocol_function_declaration", "value_argument_label", "navigation_suffix", "enum_entry",
    "typealias_declaration", "associatedtype_declaration", "statement_label", "identifier",
    "type_parameter", "macro_declaration", "precedence_group_declaration"]

-- The children of these are whole statements or declarations.
def containerKinds : List String :=
  ["statements", "source_file", "class_body", "enum_class_body", "protocol_body"]

-- A condition, like a statement, ends an optional chain.
def chainBoundaryKinds : List String :=
  containerKinds ++ ["if_statement", "guard_statement", "while_statement",
    "repeat_while_statement", "for_statement", "switch_statement"]

-- Each of these adds a path through its function.
def decisionKinds : List String :=
  ["if_statement", "switch_statement", "switch_entry", "for_statement", "while_statement",
    "repeat_while_statement", "guard_statement", "do_statement", "catch_block",
    "conjunction_expression", "disjunction_expression"]

end SwiftAudit.Swift
