import SymbolDocs.Record.Basic
import SymbolDocs.Symbol.Basic

namespace SymbolDocs

/-- Special methods worth showing next to a given one. -/
def relatedTable : List (String × List String) :=
  [("__init__", ["__new__", "__del__", "__repr__", "__str__"]),
   ("__new__", ["__init__", "__init_subclass__"]),
   ("__del__", ["__init__"]),
   ("__str__", ["__repr__", "__format__", "__bytes__"]),
   ("__repr__", ["__str__", "__format__"]),
   ("__format__", ["__str__", "__repr__"]),
   ("__eq__", ["__ne__", "__lt__", "__le__", "__gt__", "__ge__", "__hash__"]),
   ("__ne__", ["__eq__", "__hash__"]),
   ("__lt__", ["__le__", "__gt__", "__ge__", "__eq__"]),
   ("__le__", ["__lt__", "__gt__", "__ge__", "__eq__"]),
   ("__gt__", ["__ge__", "__lt__", "__le__", "__eq__"]),
   ("__ge__", ["__gt__", "__lt__", "__le__", "__eq__"]),
   ("__hash__", ["__eq__"]),
   ("__add__", ["__radd__", "__iadd__", "__sub__", "__mul__"]),
   ("__sub__", ["__rsub__", "__isub__", "__add__"]),
   ("__mul__", ["__rmul__", "__imul__", "__matmul__"]),
   ("__len__", ["__bool__", "__iter__", "__contains__"]),
   ("__iter__", ["__next__", "__reversed__", "__len__"]),
   ("__next__", ["__iter__"]),
   ("__getitem__", ["__setitem__", "__delitem__", "__missing__", "__len__"]),
   ("__setitem__", ["__getitem__", "__delitem__"]),
   ("__contains__", ["__iter__", "__getitem__"]),
   ("__enter__", ["__exit__"]),
   ("__exit__", ["__enter__"]),
   ("__aenter__", ["__aexit__"]),
   ("__aexit__", ["__aenter__"]),
   ("__call__", ["__init__"]),
   ("__getattr__", ["__getattribute__", "__setattr__", "__delattr__"]),
   ("__bool__", ["__len__"])]

def relatedMethods (name : Text) : List Text :=
  match relatedTable.find? fun (dunder, _) => (dunder : Text) == name with
  | some (_, related) => related.map String.toList
  | none => []

/-- Badges that say what kind of symbol a key names. -/
def keyBadges (key : SymbolKey) (record : Record) : List Badge :=
  let isKeyword := record.kind == some "keyword" || record.kind == some "soft keyword"
  (if isKeyword then [⟨"keyword", some "Python language keyword"⟩] else []) ++
  (if key.isBuiltins then [⟨"builtin", some "Available without import"⟩] else []) ++
  (if key.isStdlib then [⟨"stdlib", some "Python standard library"⟩] else []) ++
  (if isDunder key.leafName then
    [⟨"dunder", some "Special method, invoked implicitly"⟩] else [])

/-- The record with the badges of its key, and with related special methods unless it has some. -/
def withKeyBadges (key : SymbolKey) (record : Record) : Record :=
  let badged := (keyBadges key record).foldl Record.addBadge record
  if badged.related.isEmpty && isDunder key.leafName then
    { badged with related := relatedMethods key.leafName }
  else badged

end SymbolDocs
