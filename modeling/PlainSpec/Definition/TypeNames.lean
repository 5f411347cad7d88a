import PlainSpec.Inline.ParamType

/-!
# Known type names

The names that an annotation may use without their being defined: types, and functions and constants that
are no types.
-/

namespace PlainSpec

/-- The names of types that have **values in steps**. -/
def valueTypes : List (Text × ParamType) :=
  [("int", .int), ("float", .real), ("bool", .bool), ("str", .text), ("dict", .record), ("list", .records)]

/-- The names of **other types**. -/
def otherTypes : List Text :=
  (["ArithmeticError", "AssertionError", "AttributeError", "BaseException", "BaseExceptionGroup",
    "BlockingIOError", "BrokenPipeError", "BufferError", "BytesWarning", "ChildProcessError",
    "ConnectionAbortedError", "ConnectionError", "ConnectionRefusedError", "ConnectionResetError",
    "DeprecationWarning", "EOFError", "EncodingWarning", "Exception", "ExceptionGroup", "FileExistsError",
    "FileNotFoundError", "FloatingPointError", "FutureWarning", "GeneratorExit", "ImportError",
    "ImportWarning", "IndentationError", "IndexError", "InterruptedError", "IsADirectoryError", "KeyError",
    "KeyboardInterrupt", "LookupError", "MemoryError", "ModuleNotFoundError", "NameError",
    "NotADirectoryError", "NotImplementedError", "OSError", "OverflowError", "PendingDeprecationWarning",
    "PermissionError", "ProcessLookupError", "RecursionError", "ReferenceError", "ResourceWarning",
    "RuntimeError", "RuntimeWarning", "StopAsyncIteration", "StopIteration", "SyntaxError", "SyntaxWarning",
    "SystemError", "SystemExit", "TabError", "TimeoutError", "TypeError", "UnboundLocalError",
    "UnicodeDecodeError", "UnicodeEncodeError", "UnicodeError", "UnicodeTranslateError", "UnicodeWarning",
    "UserWarning", "ValueError", "Warning", "ZeroDivisionError", "bytearray", "bytes", "classmethod",
    "complex", "enumerate", "filter", "frozenset", "map", "memoryview", "object", "property", "range",
    "reversed", "set", "slice", "staticmethod", "super", "tuple", "type", "zip"] : List String).map String.toList

/-- The names by which a type is known that has **another name**. -/
def otherTypeNames : List (Text × Text) := [("EnvironmentError", "OSError"), ("IOError", "OSError")]

/-- The names of **functions and constants**. -/
def otherNames : List Text :=
  (["Ellipsis", "False", "NotImplemented", "True", "__import__", "abs", "aiter", "all", "anext", "any",
    "ascii", "bin", "breakpoint", "callable", "chr", "compile", "delattr", "dir", "divmod", "eval", "exec",
    "format", "getattr", "globals", "hasattr", "hash", "hex", "id", "input", "isinstance", "issubclass",
    "iter", "len", "locals", "max", "min", "next", "oct", "open", "ord", "pow", "print", "repr", "round",
    "setattr", "sorted", "sum", "vars"] : List String).map String.toList

/-- The names of types that **take other types** in brackets. -/
def genericTypes : List Text :=
  ["dict", "list", "tuple", "set", "frozenset", "type", "enumerate", "BaseExceptionGroup", "ExceptionGroup"]

end PlainSpec
