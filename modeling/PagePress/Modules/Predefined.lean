import PagePress.Modules.Value

/-!
Predefined names: what a name of a program stands for where its module has no variable of that name.
-/

set_option autoImplicit false

namespace PagePress.Predefined

def failures : List String :=
  ["ArithmeticError", "AssertionError", "AttributeError", "BaseException", "BaseExceptionGroup",
   "BlockingIOError", "BrokenPipeError", "BufferError", "BytesWarning", "ChildProcessError",
   "ConnectionAbortedError", "ConnectionError", "ConnectionRefusedError", "ConnectionResetError",
   "DeprecationWarning", "EOFError", "EncodingWarning", "Exception", "ExceptionGroup",
   "FileExistsError", "FileNotFoundError", "FloatingPointError", "FutureWarning", "GeneratorExit",
   "ImportError", "ImportWarning", "IndentationError", "IndexError", "InterruptedError",
   "IsADirectoryError", "KeyError", "KeyboardInterrupt", "LookupError", "MemoryError",
   "ModuleNotFoundError", "NameError", "NotADirectoryError", "NotImplementedError", "OSError",
   "OverflowError", "PendingDeprecationWarning", "PermissionError", "ProcessLookupError",
   "RecursionError", "ReferenceError", "ResourceWarning", "RuntimeError", "RuntimeWarning",
   "StopAsyncIteration", "StopIteration", "SyntaxError", "SyntaxWarning", "SystemError",
   "SystemExit", "TabError", "TimeoutError", "TypeError", "UnboundLocalError",
   "UnicodeDecodeError", "UnicodeEncodeError", "UnicodeError", "UnicodeTranslateError",
   "UnicodeWarning", "UserWarning", "ValueError", "Warning", "ZeroDivisionError"]

def types : List String :=
  ["bool", "bytearray", "bytes", "classmethod", "complex", "dict", "enumerate", "filter", "float",
   "frozenset", "int", "list", "map", "memoryview", "object", "property", "range", "reversed",
   "set", "slice", "staticmethod", "str", "super", "tuple", "type", "zip"]

def functions : List String :=
  ["__build_class__", "__import__", "abs", "aiter", "all", "anext", "any", "ascii", "bin",
   "breakpoint", "callable", "chr", "compile", "delattr", "dir", "divmod", "eval", "exec",
   "format", "getattr", "globals", "hasattr", "hash", "hex", "id", "input", "isinstance",
   "issubclass", "iter", "len", "locals", "max", "min", "next", "oct", "open", "ord", "pow",
   "print", "repr", "round", "setattr", "sorted", "sum", "vars"]

def synonyms : NameTable String :=
  [("EnvironmentError", "OSError"), ("IOError", "OSError")]

def objects : NameTable String :=
  [("Ellipsis", "ellipsis"), ("NotImplemented", "NotImplementedType"), ("copyright", "_Printer"),
    ("credits", "_Printer"), ("license", "_Printer"), ("exit", "Quitter"), ("quit", "Quitter"),
    ("help", "_Helper")]

def value? (name : String) : Option Value :=
  if failures.contains name || types.contains name then some (.predefined "type" name)
  else if functions.contains name then some (.predefined "builtin_function_or_method" name)
  else if name = "__debug__" then some (.constant (.bool true))
  else
    match synonyms.get? name, objects.get? name with
    | some first, _ => some (.predefined "type" first)
    | _, some type => some (.ofType type)
    | _, _ => none

example : value? "len" = some (.predefined "builtin_function_or_method" "len") := by decide +kernel

example : value? "IOError" = some (.predefined "type" "OSError") ∧ value? "page" = none := by
  decide +kernel

end PagePress.Predefined
