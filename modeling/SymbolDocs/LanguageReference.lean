import SymbolDocs.Config
import SymbolDocs.Record.Basic
import SymbolDocs.Symbol.Basic

namespace SymbolDocs

inductive ReferenceKind where
  | keyword
  | softKeyword
  | constant
  deriving DecidableEq, Repr

def ReferenceKind.label : ReferenceKind → Text
  | keyword => "keyword"
  | softKeyword => "soft keyword"
  | constant => "constant"

/-- A name of the language itself. A dollar sign in the path stands for the name. -/
structure ReferenceEntry where
  name : Text
  kind : ReferenceKind
  path : Text
  summary : Text
  deriving DecidableEq, Repr

namespace ReferenceEntry

def compound (name anchor summary : Text) : ReferenceEntry :=
  ⟨name, .keyword, "reference/compound_stmts.html#" ++ anchor, summary⟩

def simple (name anchor summary : Text) : ReferenceEntry :=
  ⟨name, .keyword, "reference/simple_stmts.html#" ++ anchor, summary⟩

def expression (name anchor summary : Text) : ReferenceEntry :=
  ⟨name, .keyword, "reference/expressions.html#" ++ anchor, summary⟩

def softKeyword (name summary : Text) : ReferenceEntry :=
  ⟨name, .softKeyword, "reference/compound_stmts.html#the-match-statement", summary⟩

def constant (name summary : Text) : ReferenceEntry :=
  ⟨name, .constant, "library/constants.html#$", summary⟩

/-- Keywords and built-in constants with their pages. -/
def table : List ReferenceEntry :=
  [compound "if" "the-if-statement" "Conditional execution.",
   compound "elif" "the-if-statement" "Further condition of an `if` statement.",
   compound "else" "the-if-statement" "Branch taken when no preceding condition held.",
   compound "for" "the-for-statement" "Iterate over the elements of an iterable.",
   compound "while" "the-while-statement" "Repeat while an expression is true.",
   compound "try" "the-try-statement"
      "Exception handlers and cleanup code for a group of statements.",
   compound "except" "except-clause" "Handle exceptions raised in the `try` suite.",
   compound "finally" "finally-clause"
      "Cleanup code that always runs when leaving the `try` statement.",
   compound "with" "the-with-statement" "Wrap a block with methods defined by a context manager.",
   compound "as" "the-with-statement" "Bind the target of a `with`, `except` or `import` clause.",
   compound "def" "function-definitions" "Define a function.",
   compound "class" "class-definitions" "Define a class.",
   compound "async" "coroutines" "Define a coroutine or an asynchronous `for`/`with`.",
   expression "await" "await-expression" "Suspend a coroutine until an awaitable completes.",
   expression "lambda" "lambda" "Create an anonymous function.",
   expression "and" "boolean-operations" "Boolean conjunction with short-circuit evaluation.",
   expression "or" "boolean-operations" "Boolean disjunction with short-circuit evaluation.",
   expression "not" "boolean-operations" "Boolean negation.",
   expression "in" "membership-test-operations" "Membership test.",
   expression "is" "is-not" "Object identity test.",
   simple "return" "the-return-statement" "Leave the current function call with a value.",
   simple "yield" "the-yield-statement" "Produce a value from a generator.",
   simple "pass" "the-pass-statement" "A null operation.",
   simple "break" "the-break-statement" "Terminate the nearest enclosing loop.",
   simple "continue" "the-continue-statement"
      "Continue with the next cycle of the nearest enclosing loop.",
   simple "import" "the-import-statement" "Find and load a module.",
   simple "from" "the-import-statement" "Import names from a module.",
   simple "global" "the-global-statement" "Declare names as module globals.",
   simple "nonlocal" "the-nonlocal-statement"
      "Bind names from the nearest enclosing function scope.",
   simple "del" "the-del-statement" "Delete names, attributes or items.",
   simple "raise" "the-raise-statement" "Raise an exception.",
   simple "assert" "the-assert-statement" "Insert a debugging assertion.",
   softKeyword "match" "Structural pattern matching.",
   softKeyword "case" "A pattern and block inside a `match` statement.",
   constant "None" "The sole value of `NoneType`, used for the absence of a value.",
   constant "True" "The true value of the `bool` type.",
   constant "False" "The false value of the `bool` type.",
   constant "Ellipsis" "The `...` singleton.",
   constant "NotImplemented" "Returned by binary special methods for unsupported operands.",
   constant "__debug__" "True unless Python was started with `-O`."]

def find? (name : Text) : Option ReferenceEntry := table.find? (·.name == name)

/-- The path with the name in the place of each dollar sign. -/
def expandedPath (e : ReferenceEntry) : Text :=
  e.path.flatMap fun c => if c = '$' then e.name else [c]

end ReferenceEntry

/-- Only a bare name, or one of the built-in namespace, can be a keyword. -/
def SymbolKey.mayBeKeyword (key : SymbolKey) : Bool :=
  key.module.isEmpty || key.module == builtinsModule || key.module == key.qualifiedName

/-- The record of a keyword or built-in constant. -/
def referenceRecord? (config : Config) (key : SymbolKey) : Option Record :=
  if key.mayBeKeyword then
    ((ReferenceEntry.find? key.qualifiedName).or (ReferenceEntry.find? key.name)).map fun e =>
      { Record.titled e.name .static with
        kind := some e.kind.label
        summary := some e.summary
        url := some (config.stdlibHome ++ e.expandedPath) }
  else none

end SymbolDocs
