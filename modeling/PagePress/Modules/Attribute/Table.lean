import PagePress.Modules.Value

/-!
Attributes by type: what all values have, and what the values of each type have besides. Of an
attribute that is the same for all values of a type only its own type is kept.
-/

set_option autoImplicit false

namespace PagePress.Attribute

abbrev Listing := List (String × List String)

def operatorMethod : String := "method-wrapper"

def plainMethod : String := "builtin_function_or_method"

def common : Listing :=
  [("type", ["__class__"]),
    ("str", ["__doc__"]),
    (operatorMethod, ["__delattr__", "__eq__", "__ge__", "__getattribute__", "__gt__", "__hash__",
                      "__init__", "__le__", "__lt__", "__ne__", "__repr__", "__setattr__",
                      "__str__"]),
    (plainMethod, ["__dir__", "__format__", "__getstate__", "__init_subclass__", "__new__",
                   "__reduce__", "__reduce_ex__", "__sizeof__", "__subclasshook__"])]

def textMethods : List String :=
  ["__getnewargs__", "capitalize", "center", "count", "endswith", "expandtabs", "find", "index",
   "isalnum", "isalpha", "isascii", "isdigit", "islower", "isspace", "istitle", "isupper", "join",
   "ljust", "lower", "lstrip", "maketrans", "partition", "removeprefix", "removesuffix",
   "replace", "rfind", "rindex", "rjust", "rpartition", "rsplit", "rstrip", "split", "splitlines",
   "startswith", "strip", "swapcase", "title", "translate", "upper", "zfill"]

def rowOperators : List String :=
  ["__add__", "__contains__", "__getitem__", "__iter__", "__len__", "__mul__", "__rmul__"]

def setOperators : List String :=
  ["__and__", "__iand__", "__ior__", "__isub__", "__iter__", "__ixor__", "__len__", "__or__",
   "__rand__", "__ror__", "__rsub__", "__rxor__", "__sub__", "__xor__"]

def numberOperators : List String :=
  ["__abs__", "__add__", "__bool__", "__mul__", "__neg__", "__pos__", "__pow__", "__radd__",
   "__rmul__", "__rpow__", "__rsub__", "__rtruediv__", "__sub__", "__truediv__"]

def realOperators : List String :=
  ["__divmod__", "__float__", "__floordiv__", "__int__", "__mod__", "__rdivmod__",
   "__rfloordiv__", "__rmod__"]

def integerOperators : List String :=
  ["__and__", "__index__", "__invert__", "__lshift__", "__or__", "__rand__", "__rlshift__",
   "__ror__", "__rrshift__", "__rshift__", "__rxor__", "__xor__"]

def integers : Listing :=
  [(operatorMethod, numberOperators ++ realOperators ++ integerOperators),
    (plainMethod, ["__ceil__", "__floor__", "__getnewargs__", "__round__", "__trunc__",
                   "as_integer_ratio", "bit_count", "bit_length", "conjugate", "from_bytes",
                   "to_bytes"])]

def ofTypes : Listing :=
  [("wrapper_descriptor", ["__delattr__", "__eq__", "__ge__", "__getattribute__", "__gt__",
                           "__hash__", "__init__", "__le__", "__lt__", "__ne__", "__repr__",
                           "__setattr__", "__str__"]),
    ("method_descriptor", ["__dir__", "__format__", "__getstate__", "__reduce__", "__reduce_ex__",
                           "__sizeof__"]),
    (plainMethod, ["__instancecheck__", "__prepare__", "__subclasscheck__", "__subclasses__",
                   "mro"]),
    (operatorMethod, ["__call__", "__ror__", "__or__"]),
    ("type", ["__base__"]),
    ("tuple", ["__bases__", "__mro__"]),
    ("int", ["__basicsize__", "__dictoffset__", "__flags__", "__itemsize__", "__weakrefoffset__"]),
    ("mappingproxy", ["__dict__"]),
    ("dict", ["__annotations__"]),
    ("getset_descriptor", ["__weakref__"])]

def own : NameTable Listing :=
  [("NoneType", [(operatorMethod, ["__bool__"]), ("NoneType", ["__doc__"])]),
    ("ellipsis", [("NoneType", ["__doc__"])]),
    ("int", integers),
    ("bool", integers),
    ("float",
      [(operatorMethod, numberOperators ++ realOperators),
        (plainMethod, ["__ceil__", "__floor__", "__getformat__", "__getnewargs__", "__round__",
                       "__trunc__", "as_integer_ratio", "conjugate", "fromhex", "hex",
                       "is_integer"])]),
    ("complex",
      [(operatorMethod, numberOperators),
        (plainMethod, ["__complex__", "__getnewargs__", "conjugate"]),
        ("float", ["imag", "real"])]),
    ("str",
      [(operatorMethod, rowOperators ++ ["__mod__", "__rmod__"]),
        (plainMethod, textMethods ++
          ["casefold", "encode", "format", "format_map", "isdecimal", "isidentifier", "isnumeric",
           "isprintable"])]),
    ("bytes",
      [(operatorMethod, rowOperators ++ ["__mod__", "__rmod__"]),
        (plainMethod, textMethods ++ ["__bytes__", "decode", "fromhex", "hex"])]),
    ("tuple",
      [(operatorMethod, rowOperators),
        (plainMethod, ["__class_getitem__", "__getnewargs__", "count", "index"])]),
    ("list",
      [("NoneType", ["__hash__"]),
        (plainMethod, ["__class_getitem__", "__getitem__", "__reversed__", "append", "clear",
                       "copy", "count", "extend", "index", "insert", "pop", "remove", "reverse",
                       "sort"]),
        (operatorMethod, rowOperators ++ ["__delitem__", "__iadd__", "__imul__", "__setitem__"])]),
    ("set",
      [("NoneType", ["__hash__"]),
        (operatorMethod, setOperators),
        (plainMethod, ["__class_getitem__", "__contains__", "add", "clear", "copy", "difference",
                       "difference_update", "discard", "intersection", "intersection_update",
                       "isdisjoint", "issubset", "issuperset", "pop", "remove",
                       "symmetric_difference", "symmetric_difference_update", "union", "update"])]),
    ("dict",
      [("NoneType", ["__hash__"]),
        (operatorMethod, ["__delitem__", "__ior__", "__iter__", "__len__", "__or__", "__ror__",
                          "__setitem__"]),
        (plainMethod, ["__class_getitem__", "__contains__", "__getitem__", "__reversed__",
                       "clear", "copy", "fromkeys", "get", "items", "keys", "pop", "popitem",
                       "setdefault", "update", "values"])]),
    ("function",
      [("dict", ["__annotations__", "__builtins__", "__dict__", "__globals__"]),
        (operatorMethod, ["__call__", "__get__"]),
        ("NoneType", ["__closure__", "__defaults__", "__doc__", "__kwdefaults__"]),
        ("code", ["__code__"])]),
    ("type", ofTypes),
    (plainMethod, [(operatorMethod, ["__call__"]), ("module", ["__self__"])]),
    ("module", [("dict", ["__annotations__", "__dict__"])])]

def listedIn (listing : Listing) (name : String) : Option String :=
  (listing.find? fun (_, names) => names.contains name).map (·.1)

def listed? (type name : String) : Option Value :=
  let found := (listedIn ((own.get? type).getD []) name).or (listedIn common name)
  found.map fun t => if t = "NoneType" then .nothing else .ofType t

example : listed? "str" "upper" = some (.ofType plainMethod) ∧ listed? "int" "upper" = none := by
  decide +kernel

end PagePress.Attribute
