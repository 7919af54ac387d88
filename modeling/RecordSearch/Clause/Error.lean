import RecordSearch.Predicate.Basic

/-!
# Misused predicates

Why a predicate cannot be compiled. Each error names the smallest part of the predicate that is at fault
by its text.

## Main definitions

* `CompileError` — the causes.
* `CompileError.message` — their wording.
-/

namespace RecordSearch

/-- Why a part of a predicate has no counterpart in a query. -/
inductive Misuse where
  /-- The right-hand side is a field of the record. -/
  | fieldReference (name : String)
  /-- A field stands alone but is not truth-valued. -/
  | bareMember
  /-- A bare constant has no text. -/
  | emptyConstant
  deriving DecidableEq, Repr

/-- The reason in words. -/
def Misuse.reason : Misuse → String
  | fieldReference name => "right-hand side references model field '" ++ name ++ "'"
  | bareMember => "bare member access requires a boolean field"
  | emptyConstant => "empty constant"

/-- Why a predicate cannot be compiled. -/
inductive CompileError where
  | unknownField (index field fragment : String)
  | unsupportedOperator (op : Comparison) (kind : FieldKind) (field fragment : String)
  | unsupportedMethod (method : TextMethod) (kind : FieldKind) (field fragment : String)
  | unsupportedValue (value : String) (kind : FieldKind) (field fragment : String)
  | nullValue (fragment : String)
  | unsupportedExpression (fragment : String) (misuse : Misuse)
  | unindexedSortField (index field : String)
  deriving DecidableEq, Repr

/-- The error in words. -/
def CompileError.message : CompileError → String
  | unknownField index field fragment =>
    "Unknown field '" ++ field ++ "' on index '" ++ index ++ "' in `" ++ fragment ++ "`"
  | unsupportedOperator op kind field fragment =>
    "Operator " ++ op.symbol ++ " is not supported for " ++ kind.label ++ " field '" ++ field ++
      "' in `" ++ fragment ++ "`"
  | unsupportedMethod method kind field fragment =>
    "Method " ++ method.label ++ " is not supported on " ++ kind.label ++ " field '" ++ field ++
      "' in `" ++ fragment ++ "`"
  | unsupportedValue value kind field fragment =>
    "Value " ++ value ++ " cannot be matched against " ++ kind.label ++ " field '" ++ field ++
      "' in `" ++ fragment ++ "`"
  | nullValue fragment => "Null comparison value in `" ++ fragment ++ "`"
  | unsupportedExpression fragment misuse =>
    "Unsupported expression `" ++ fragment ++ "`: " ++ misuse.reason
  | unindexedSortField index field =>
    "Sort field '" ++ field ++ "' is not indexed on '" ++ index ++ "'"

end RecordSearch
