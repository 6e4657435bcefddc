import TypeExport.Class.Standard

/-!
# The standard classes

The classes of the standard modules that source modules can name, and the classes that mark
validated records, mapped records and annotations.
-/

namespace TypeExport.StandardClass

def exceptions : List StandardClass :=
  [{ name := "builtins.ArithmeticError",
     ancestors := ["builtins.Exception", "builtins.BaseException"],
     storage := "builtins.BaseException" },
   { name := "builtins.AssertionError",
     ancestors := ["builtins.Exception", "builtins.BaseException"],
     storage := "builtins.BaseException" },
   { name := "builtins.AttributeError",
     ancestors := ["builtins.Exception", "builtins.BaseException"],
     storage := "builtins.AttributeError" },
   { name := "builtins.BaseException", storage := "builtins.BaseException" },
   { name := "builtins.BaseExceptionGroup", ancestors := ["builtins.BaseException"],
     subscription := .free, storage := "builtins.BaseExceptionGroup" },
   { name := "builtins.BlockingIOError",
     ancestors := ["builtins.OSError", "builtins.Exception", "builtins.BaseException"],
     storage := "builtins.OSError" },
   { name := "builtins.BrokenPipeError",
     ancestors := ["builtins.ConnectionError", "builtins.OSError", "builtins.Exception",
       "builtins.BaseException"], storage := "builtins.OSError" },
   { name := "builtins.BufferError",
     ancestors := ["builtins.Exception", "builtins.BaseException"],
     storage := "builtins.BaseException" },
   { name := "builtins.BytesWarning",
     ancestors := ["builtins.Warning", "builtins.Exception", "builtins.BaseException"],
     storage := "builtins.BaseException" },
   { name := "builtins.ChildProcessError",
     ancestors := ["builtins.OSError", "builtins.Exception", "builtins.BaseException"],
     storage := "builtins.OSError" },
   { name := "builtins.ConnectionAbortedError",
     ancestors := ["builtins.ConnectionError", "builtins.OSError", "builtins.Exception",
       "builtins.BaseException"], storage := "builtins.OSError" },
   { name := "builtins.ConnectionError",
     ancestors := ["builtins.OSError", "builtins.Exception", "builtins.BaseException"],
     storage := "builtins.OSError" },
   { name := "builtins.ConnectionRefusedError",
     ancestors := ["builtins.ConnectionError", "builtins.OSError", "builtins.Exception",
       "builtins.BaseException"], storage := "builtins.OSError" },
   { name := "builtins.ConnectionResetError",
     ancestors := ["builtins.ConnectionError", "builtins.OSError", "builtins.Exception",
       "builtins.BaseException"], storage := "builtins.OSError" },
   { name := "builtins.DeprecationWarning",
     ancestors := ["builtins.Warning", "builtins.Exception", "builtins.BaseException"],
     storage := "builtins.BaseException" },
   { name := "builtins.EOFError", ancestors := ["builtins.Exception", "builtins.BaseException"],
     storage := "builtins.BaseException" },
   { name := "builtins.EncodingWarning",
     ancestors := ["builtins.Warning", "builtins.Exception", "builtins.BaseException"],
     storage := "builtins.BaseException" },
   { name := "builtins.Exception", ancestors := ["builtins.BaseException"],
     storage := "builtins.BaseException" },
   { name := "builtins.ExceptionGroup",
     ancestors := ["builtins.BaseExceptionGroup", "builtins.Exception", "builtins.BaseException"],
     subscription := .free, storage := "builtins.BaseExceptionGroup" },
   { name := "builtins.FileExistsError",
     ancestors := ["builtins.OSError", "builtins.Exception", "builtins.BaseException"],
     storage := "builtins.OSError" },
   { name := "builtins.FileNotFoundError",
     ancestors := ["builtins.OSError", "builtins.Exception", "builtins.BaseException"],
     storage := "builtins.OSError" },
   { name := "builtins.FloatingPointError",
     ancestors := ["builtins.ArithmeticError", "builtins.Exception", "builtins.BaseException"],
     storage := "builtins.BaseException" },
   { name := "builtins.FutureWarning",
     ancestors := ["builtins.Warning", "builtins.Exception", "builtins.BaseException"],
     storage := "builtins.BaseException" },
   { name := "builtins.GeneratorExit", ancestors := ["builtins.BaseException"],
     storage := "builtins.BaseException" },
   { name := "builtins.ImportError",
     ancestors := ["builtins.Exception", "builtins.BaseException"],
     storage := "builtins.ImportError" },
   { name := "builtins.ImportWarning",
     ancestors := ["builtins.Warning", "builtins.Exception", "builtins.BaseException"],
     storage := "builtins.BaseException" },
   { name := "builtins.IndentationError",
     ancestors := ["builtins.SyntaxError", "builtins.Exception", "builtins.BaseException"],
     storage := "builtins.SyntaxError" },
   { name := "builtins.IndexError",
     ancestors := ["builtins.LookupError", "builtins.Exception", "builtins.BaseException"],
     storage := "builtins.BaseException" },
   { name := "builtins.InterruptedError",
     ancestors := ["builtins.OSError", "builtins.Exception", "builtins.BaseException"],
     storage := "builtins.OSError" },
   { name := "builtins.IsADirectoryError",
     ancestors := ["builtins.OSError", "builtins.Exception", "builtins.BaseException"],
     storage := "builtins.OSError" },
   { name := "builtins.KeyError",
     ancestors := ["builtins.LookupError", "builtins.Exception", "builtins.BaseException"],
     storage := "builtins.BaseException" },
   { name := "builtins.KeyboardInterrupt", ancestors := ["builtins.BaseException"],
     storage := "builtins.BaseException" },
   { name := "builtins.LookupError",
     ancestors := ["builtins.Exception", "builtins.BaseException"],
     storage := "builtins.BaseException" },
   { name := "builtins.MemoryError",
     ancestors := ["builtins.Exception", "builtins.BaseException"],
     storage := "builtins.BaseException" },
   { name := "builtins.ModuleNotFoundError",
     ancestors := ["builtins.ImportError", "builtins.Exception", "builtins.BaseException"],
     storage := "builtins.ImportError" },
   { name := "builtins.NameError", ancestors := ["builtins.Exception", "builtins.BaseException"],
     storage := "builtins.NameError" },
   { name := "builtins.NotADirectoryError",
     ancestors := ["builtins.OSError", "builtins.Exception", "builtins.BaseException"],
     storage := "builtins.OSError" },
   { name := "builtins.NotImplementedError",
     ancestors := ["builtins.RuntimeError", "builtins.Exception", "builtins.BaseException"],
     storage := "builtins.BaseException" },
   { name := "builtins.OSError", ancestors := ["builtins.Exception", "builtins.BaseException"],
     storage := "builtins.OSError" },
   { name := "builtins.OverflowError",
     ancestors := ["builtins.ArithmeticError", "builtins.Exception", "builtins.BaseException"],
     storage := "builtins.BaseException" },
   { name := "builtins.PendingDeprecationWarning",
     ancestors := ["builtins.Warning", "builtins.Exception", "builtins.BaseException"],
     storage := "builtins.BaseException" },
   { name := "builtins.PermissionError",
     ancestors := ["builtins.OSError", "builtins.Exception", "builtins.BaseException"],
     storage := "builtins.OSError" },
   { name := "builtins.ProcessLookupError",
     ancestors := ["builtins.OSError", "builtins.Exception", "builtins.BaseException"],
     storage := "builtins.OSError" },
   { name := "builtins.RecursionError",
     ancestors := ["builtins.RuntimeError", "builtins.Exception", "builtins.BaseException"],
     storage := "builtins.BaseException" },
   { name := "builtins.ReferenceError",
     ancestors := ["builtins.Exception", "builtins.BaseException"],
     storage := "builtins.BaseException" },
   { name := "builtins.ResourceWarning",
     ancestors := ["builtins.Warning", "builtins.Exception", "builtins.BaseException"],
     storage := "builtins.BaseException" },
   { name := "builtins.RuntimeError",
     ancestors := ["builtins.Exception", "builtins.BaseException"],
     storage := "builtins.BaseException" },
   { name := "builtins.RuntimeWarning",
     ancestors := ["builtins.Warning", "builtins.Exception", "builtins.BaseException"],
     storage := "builtins.BaseException" },
   { name := "builtins.StopAsyncIteration",
     ancestors := ["builtins.Exception", "builtins.BaseException"],
     storage := "builtins.BaseException" },
   { name := "builtins.StopIteration",
     ancestors := ["builtins.Exception", "builtins.BaseException"],
     storage := "builtins.StopIteration" },
   { name := "builtins.SyntaxError",
     ancestors := ["builtins.Exception", "builtins.BaseException"],
     storage := "builtins.SyntaxError" },
   { name := "builtins.SyntaxWarning",
     ancestors := ["builtins.Warning", "builtins.Exception", "builtins.BaseException"],
     storage := "builtins.BaseException" },
   { name := "builtins.SystemError",
     ancestors := ["builtins.Exception", "builtins.BaseException"],
     storage := "builtins.BaseException" },
   { name := "builtins.SystemExit", ancestors := ["builtins.BaseException"],
     storage := "builtins.SystemExit" },
   { name := "builtins.TabError",
     ancestors := ["builtins.IndentationError", "builtins.SyntaxError", "builtins.Exception",
       "builtins.BaseException"], storage := "builtins.SyntaxError" },
   { name := "builtins.TimeoutError",
     ancestors := ["builtins.OSError", "builtins.Exception", "builtins.BaseException"],
     storage := "builtins.OSError" },
   { name := "builtins.TypeError", ancestors := ["builtins.Exception", "builtins.BaseException"],
     storage := "builtins.BaseException" },
   { name := "builtins.UnboundLocalError",
     ancestors := ["builtins.NameError", "builtins.Exception", "builtins.BaseException"],
     storage := "builtins.NameError" },
   { name := "builtins.UnicodeDecodeError",
     ancestors := ["builtins.UnicodeError", "builtins.ValueError", "builtins.Exception",
       "builtins.BaseException"], storage := "builtins.UnicodeDecodeError" },
   { name := "builtins.UnicodeEncodeError",
     ancestors := ["builtins.UnicodeError", "builtins.ValueError", "builtins.Exception",
       "builtins.BaseException"], storage := "builtins.UnicodeEncodeError" },
   { name := "builtins.UnicodeError",
     ancestors := ["builtins.ValueError", "builtins.Exception", "builtins.BaseException"],
     storage := "builtins.BaseException" },
   { name := "builtins.UnicodeTranslateError",
     ancestors := ["builtins.UnicodeError", "builtins.ValueError", "builtins.Exception",
       "builtins.BaseException"], storage := "builtins.UnicodeTranslateError" },
   { name := "builtins.UnicodeWarning",
     ancestors := ["builtins.Warning", "builtins.Exception", "builtins.BaseException"],
     storage := "builtins.BaseException" },
   { name := "builtins.UserWarning",
     ancestors := ["builtins.Warning", "builtins.Exception", "builtins.BaseException"],
     storage := "builtins.BaseException" },
   { name := "builtins.ValueError", ancestors := ["builtins.Exception", "builtins.BaseException"],
     storage := "builtins.BaseException" },
   { name := "builtins.Warning", ancestors := ["builtins.Exception", "builtins.BaseException"],
     storage := "builtins.BaseException" },
   { name := "builtins.ZeroDivisionError",
     ancestors := ["builtins.ArithmeticError", "builtins.Exception", "builtins.BaseException"],
     storage := "builtins.BaseException" }]

def builtin : List StandardClass :=
  [{ name := "builtins.bool", ancestors := ["builtins.int"], storage := "builtins.bool",
     isClosed := true },
   { name := "builtins.bytearray", storage := "builtins.bytearray" },
   { name := "builtins.bytes", storage := "builtins.bytes", isSized := true },
   { name := "builtins.classmethod", storage := "builtins.classmethod" },
   { name := "builtins.complex", storage := "builtins.complex" },
   { name := "builtins.dict", subscription := .free, storage := "builtins.dict" },
   { name := "builtins.enumerate", subscription := .free, storage := "builtins.enumerate" },
   { name := "builtins.filter", storage := "builtins.filter" },
   { name := "builtins.float", storage := "builtins.float" },
   { name := "builtins.frozenset", subscription := .free, storage := "builtins.frozenset" },
   { name := "builtins.function", storage := "builtins.function", isClosed := true },
   { name := "builtins.int", storage := "builtins.int", isSized := true },
   { name := "builtins.list", subscription := .free, storage := "builtins.list" },
   { name := "builtins.map", storage := "builtins.map" },
   { name := "builtins.mappingproxy", subscription := .free, storage := "builtins.mappingproxy",
     isClosed := true },
   { name := "builtins.memoryview", storage := "builtins.memoryview", isClosed := true },
   { name := "builtins.method-wrapper", storage := "builtins.method-wrapper", isClosed := true },
   { name := "builtins.method_descriptor", storage := "builtins.method_descriptor",
     isClosed := true },
   { name := "builtins.object" },
   { name := "builtins.property", storage := "builtins.property" },
   { name := "builtins.range", storage := "builtins.range", isClosed := true },
   { name := "builtins.reversed", storage := "builtins.reversed" },
   { name := "builtins.set", subscription := .free, storage := "builtins.set" },
   { name := "builtins.slice", storage := "builtins.slice", isClosed := true },
   { name := "builtins.staticmethod", storage := "builtins.staticmethod" },
   { name := "builtins.str", storage := "builtins.str" },
   { name := "builtins.super", storage := "builtins.super" },
   { name := "builtins.tuple", subscription := .free, storage := "builtins.tuple",
     isSized := true },
   { name := "builtins.type", subscription := .free, storage := "builtins.type" },
   { name := "builtins.wrapper_descriptor", storage := "builtins.wrapper_descriptor",
     isClosed := true },
   { name := "builtins.zip", storage := "builtins.zip" }]

def containers : List StandardClass :=
  [{ name := "collections.ChainMap",
     ancestors := ["collections.abc.MutableMapping", "collections.abc.Mapping",
       "collections.abc.Collection", "collections.abc.Sized", "collections.abc.Iterable",
       "collections.abc.Container"], subscription := .free, metaclass := "abc.ABCMeta" },
   { name := "collections.Counter", ancestors := ["builtins.dict"], subscription := .free,
     storage := "builtins.dict" },
   { name := "collections.OrderedDict", ancestors := ["builtins.dict"], subscription := .free,
     storage := "collections.OrderedDict" },
   { name := "collections.UserDict",
     ancestors := ["collections.abc.MutableMapping", "collections.abc.Mapping",
       "collections.abc.Collection", "collections.abc.Sized", "collections.abc.Iterable",
       "collections.abc.Container"], subscription := .free, metaclass := "abc.ABCMeta" },
   { name := "collections.UserList",
     ancestors := ["collections.abc.MutableSequence", "collections.abc.Sequence",
       "collections.abc.Reversible", "collections.abc.Collection", "collections.abc.Sized",
       "collections.abc.Iterable", "collections.abc.Container"], subscription := .free,
     metaclass := "abc.ABCMeta" },
   { name := "collections.UserString",
     ancestors := ["collections.abc.Sequence", "collections.abc.Reversible",
       "collections.abc.Collection", "collections.abc.Sized", "collections.abc.Iterable",
       "collections.abc.Container"], subscription := .free, metaclass := "abc.ABCMeta" },
   { name := "collections.abc.AsyncGenerator",
     ancestors := ["collections.abc.AsyncIterator", "collections.abc.AsyncIterable"],
     subscription := .free, abstractMethods := ["asend", "athrow"], metaclass := "abc.ABCMeta" },
   { name := "collections.abc.AsyncIterable", subscription := .free,
     abstractMethods := ["__aiter__"], metaclass := "abc.ABCMeta" },
   { name := "collections.abc.AsyncIterator", ancestors := ["collections.abc.AsyncIterable"],
     subscription := .free, abstractMethods := ["__anext__"], metaclass := "abc.ABCMeta" },
   { name := "collections.abc.Awaitable", subscription := .free, abstractMethods := ["__await__"],
     metaclass := "abc.ABCMeta" },
   { name := "collections.abc.ByteString",
     ancestors := ["collections.abc.Sequence", "collections.abc.Reversible",
       "collections.abc.Collection", "collections.abc.Sized", "collections.abc.Iterable",
       "collections.abc.Container"], subscription := .free,
     abstractMethods := ["__getitem__", "__len__"], metaclass := "abc.ABCMeta" },
   { name := "collections.abc.Callable", subscription := .free, abstractMethods := ["__call__"],
     metaclass := "abc.ABCMeta" },
   { name := "collections.abc.Collection",
     ancestors := ["collections.abc.Sized", "collections.abc.Iterable",
       "collections.abc.Container"], subscription := .free,
     abstractMethods := ["__contains__", "__iter__", "__len__"], metaclass := "abc.ABCMeta" },
   { name := "collections.abc.Container", subscription := .free,
     abstractMethods := ["__contains__"], metaclass := "abc.ABCMeta" },
   { name := "collections.abc.Coroutine", ancestors := ["collections.abc.Awaitable"],
     subscription := .free, abstractMethods := ["__await__", "send", "throw"],
     metaclass := "abc.ABCMeta" },
   { name := "collections.abc.Generator",
     ancestors := ["collections.abc.Iterator", "collections.abc.Iterable"], subscription := .free,
     abstractMethods := ["send", "throw"], metaclass := "abc.ABCMeta" },
   { name := "collections.abc.Hashable", abstractMethods := ["__hash__"],
     metaclass := "abc.ABCMeta" },
   { name := "collections.abc.ItemsView",
     ancestors := ["collections.abc.MappingView", "collections.abc.Set",
       "collections.abc.Collection", "collections.abc.Sized", "collections.abc.Iterable",
       "collections.abc.Container"], subscription := .free,
     storage := "collections.abc.MappingView", metaclass := "abc.ABCMeta" },
   { name := "collections.abc.Iterable", subscription := .free, abstractMethods := ["__iter__"],
     metaclass := "abc.ABCMeta" },
   { name := "collections.abc.Iterator", ancestors := ["collections.abc.Iterable"],
     subscription := .free, abstractMethods := ["__next__"], metaclass := "abc.ABCMeta" },
   { name := "collections.abc.KeysView",
     ancestors := ["collections.abc.MappingView", "collections.abc.Set",
       "collections.abc.Collection", "collections.abc.Sized", "collections.abc.Iterable",
       "collections.abc.Container"], subscription := .free,
     storage := "collections.abc.MappingView", metaclass := "abc.ABCMeta" },
   { name := "collections.abc.Mapping",
     ancestors := ["collections.abc.Collection", "collections.abc.Sized",
       "collections.abc.Iterable", "collections.abc.Container"], subscription := .free,
     abstractMethods := ["__getitem__", "__iter__", "__len__"], metaclass := "abc.ABCMeta" },
   { name := "collections.abc.MappingView", ancestors := ["collections.abc.Sized"],
     subscription := .free, storage := "collections.abc.MappingView",
     metaclass := "abc.ABCMeta" },
   { name := "collections.abc.MutableMapping",
     ancestors := ["collections.abc.Mapping", "collections.abc.Collection",
       "collections.abc.Sized", "collections.abc.Iterable", "collections.abc.Container"],
     subscription := .free,
     abstractMethods := ["__delitem__", "__getitem__", "__iter__", "__len__", "__setitem__"],
     metaclass := "abc.ABCMeta" },
   { name := "collections.abc.MutableSequence",
     ancestors := ["collections.abc.Sequence", "collections.abc.Reversible",
       "collections.abc.Collection", "collections.abc.Sized", "collections.abc.Iterable",
       "collections.abc.Container"], subscription := .free,
     abstractMethods := ["__delitem__", "__getitem__", "__len__", "__setitem__", "insert"],
     metaclass := "abc.ABCMeta" },
   { name := "collections.abc.MutableSet",
     ancestors := ["collections.abc.Set", "collections.abc.Collection", "collections.abc.Sized",
       "collections.abc.Iterable", "collections.abc.Container"], subscription := .free,
     abstractMethods := ["__contains__", "__iter__", "__len__", "add", "discard"],
     metaclass := "abc.ABCMeta" },
   { name := "collections.abc.Reversible", ancestors := ["collections.abc.Iterable"],
     subscription := .free, abstractMethods := ["__iter__", "__reversed__"],
     metaclass := "abc.ABCMeta" },
   { name := "collections.abc.Sequence",
     ancestors := ["collections.abc.Reversible", "collections.abc.Collection",
       "collections.abc.Sized", "collections.abc.Iterable", "collections.abc.Container"],
     subscription := .free, abstractMethods := ["__getitem__", "__len__"],
     metaclass := "abc.ABCMeta" },
   { name := "collections.abc.Set",
     ancestors := ["collections.abc.Collection", "collections.abc.Sized",
       "collections.abc.Iterable", "collections.abc.Container"], subscription := .free,
     abstractMethods := ["__contains__", "__iter__", "__len__"], metaclass := "abc.ABCMeta" },
   { name := "collections.abc.Sized", abstractMethods := ["__len__"],
     metaclass := "abc.ABCMeta" },
   { name := "collections.abc.ValuesView",
     ancestors := ["collections.abc.MappingView", "collections.abc.Collection",
       "collections.abc.Sized", "collections.abc.Iterable", "collections.abc.Container"],
     subscription := .free, storage := "collections.abc.MappingView",
     metaclass := "abc.ABCMeta" },
   { name := "collections.defaultdict", ancestors := ["builtins.dict"], subscription := .free,
     storage := "collections.defaultdict" },
   { name := "collections.deque", subscription := .free, storage := "collections.deque" }]

def typeClasses : List StandardClass :=
  [{ name := "typing.Annotated" },
   { name := "typing.Any", metaclass := "typing._AnyMeta" },
   { name := "typing.BinaryIO", ancestors := ["typing.IO", "typing.Generic"],
     subscription := .checked 0 },
   { name := "typing.ForwardRef", ancestors := ["typing._Final"],
     storage := "typing.ForwardRef" },
   { name := "typing.Generic" },
   { name := "typing.IO", ancestors := ["typing.Generic"], subscription := .checked 1 },
   { name := "typing.NamedTupleMeta", ancestors := ["builtins.type"],
     storage := "builtins.type" },
   { name := "typing.NewType" },
   { name := "typing.ParamSpec",
     ancestors := ["typing._Final", "typing._Immutable", "typing._BoundVarianceMixin",
       "typing._PickleUsingNameMixin"] },
   { name := "typing.ParamSpecArgs", ancestors := ["typing._Final", "typing._Immutable"] },
   { name := "typing.ParamSpecKwargs", ancestors := ["typing._Final", "typing._Immutable"] },
   { name := "typing.Protocol", ancestors := ["typing.Generic"],
     metaclass := "typing._ProtocolMeta", isProtocol := true },
   { name := "typing.SupportsAbs", ancestors := ["typing.Protocol", "typing.Generic"],
     subscription := .checked 1, abstractMethods := ["__abs__"],
     metaclass := "typing._ProtocolMeta", isProtocol := true },
   { name := "typing.SupportsBytes", ancestors := ["typing.Protocol", "typing.Generic"],
     subscription := .checked 0, abstractMethods := ["__bytes__"],
     metaclass := "typing._ProtocolMeta", isProtocol := true },
   { name := "typing.SupportsComplex", ancestors := ["typing.Protocol", "typing.Generic"],
     subscription := .checked 0, abstractMethods := ["__complex__"],
     metaclass := "typing._ProtocolMeta", isProtocol := true },
   { name := "typing.SupportsFloat", ancestors := ["typing.Protocol", "typing.Generic"],
     subscription := .checked 0, abstractMethods := ["__float__"],
     metaclass := "typing._ProtocolMeta", isProtocol := true },
   { name := "typing.SupportsIndex", ancestors := ["typing.Protocol", "typing.Generic"],
     subscription := .checked 0, abstractMethods := ["__index__"],
     metaclass := "typing._ProtocolMeta", isProtocol := true },
   { name := "typing.SupportsInt", ancestors := ["typing.Protocol", "typing.Generic"],
     subscription := .checked 0, abstractMethods := ["__int__"],
     metaclass := "typing._ProtocolMeta", isProtocol := true },
   { name := "typing.SupportsRound", ancestors := ["typing.Protocol", "typing.Generic"],
     subscription := .checked 1, abstractMethods := ["__round__"],
     metaclass := "typing._ProtocolMeta", isProtocol := true },
   { name := "typing.TextIO", ancestors := ["typing.IO", "typing.Generic"],
     subscription := .checked 0 },
   { name := "typing.TypeVar",
     ancestors := ["typing._Final", "typing._Immutable", "typing._BoundVarianceMixin",
       "typing._PickleUsingNameMixin"] },
   { name := "typing.TypeVarTuple",
     ancestors := ["typing._Final", "typing._Immutable", "typing._PickleUsingNameMixin"] },
   { name := "typing._BoundVarianceMixin" },
   { name := "typing._Final" },
   { name := "typing._Immutable" },
   { name := "typing._PickleUsingNameMixin" },
   { name := "typing.io", metaclass := "typing._DeprecatedType" },
   { name := "typing.re", metaclass := "typing._DeprecatedType" }]

def others : List StandardClass :=
  [{ name := "abc.ABC", metaclass := "abc.ABCMeta" },
   { name := "abc.ABCMeta", ancestors := ["builtins.type"], storage := "builtins.type" },
   { name := "abc.abstractclassmethod", ancestors := ["builtins.classmethod"],
     storage := "builtins.classmethod" },
   { name := "abc.abstractproperty", ancestors := ["builtins.property"],
     storage := "builtins.property" },
   { name := "abc.abstractstaticmethod", ancestors := ["builtins.staticmethod"],
     storage := "builtins.staticmethod" },
   { name := "contextlib.AbstractAsyncContextManager", ancestors := ["abc.ABC"],
     subscription := .free, abstractMethods := ["__aexit__"], metaclass := "abc.ABCMeta" },
   { name := "contextlib.AbstractContextManager", ancestors := ["abc.ABC"], subscription := .free,
     abstractMethods := ["__exit__"], metaclass := "abc.ABCMeta" },
   { name := "dataclasses.Field", subscription := .free, storage := "dataclasses.Field" },
   { name := "dataclasses.FrozenInstanceError",
     ancestors := ["builtins.AttributeError", "builtins.Exception", "builtins.BaseException"],
     storage := "builtins.AttributeError" },
   { name := "dataclasses.InitVar", subscription := .free, storage := "dataclasses.InitVar" },
   { name := "datetime.date", storage := "datetime.date" },
   { name := "datetime.datetime", ancestors := ["datetime.date"],
     storage := "datetime.datetime" },
   { name := "datetime.time", storage := "datetime.time" },
   { name := "datetime.timedelta", storage := "datetime.timedelta" },
   { name := "datetime.timezone", ancestors := ["datetime.tzinfo"],
     storage := "datetime.timezone", isClosed := true },
   { name := "datetime.tzinfo" },
   { name := "decimal.Clamped",
     ancestors := ["decimal.DecimalException", "builtins.ArithmeticError", "builtins.Exception",
       "builtins.BaseException"], storage := "builtins.BaseException" },
   { name := "decimal.Context", storage := "decimal.Context" },
   { name := "decimal.ConversionSyntax",
     ancestors := ["decimal.InvalidOperation", "decimal.DecimalException",
       "builtins.ArithmeticError", "builtins.Exception", "builtins.BaseException"],
     storage := "builtins.BaseException" },
   { name := "decimal.Decimal", storage := "decimal.Decimal" },
   { name := "decimal.DecimalException",
     ancestors := ["builtins.ArithmeticError", "builtins.Exception", "builtins.BaseException"],
     storage := "builtins.BaseException" },
   { name := "decimal.DecimalTuple", ancestors := ["builtins.tuple"], subscription := .free,
     storage := "builtins.tuple", isSized := true },
   { name := "decimal.DivisionByZero",
     ancestors := ["decimal.DecimalException", "builtins.ZeroDivisionError",
       "builtins.ArithmeticError", "builtins.Exception", "builtins.BaseException"],
     storage := "builtins.BaseException" },
   { name := "decimal.DivisionImpossible",
     ancestors := ["decimal.InvalidOperation", "decimal.DecimalException",
       "builtins.ArithmeticError", "builtins.Exception", "builtins.BaseException"],
     storage := "builtins.BaseException" },
   { name := "decimal.DivisionUndefined",
     ancestors := ["decimal.InvalidOperation", "decimal.DecimalException",
       "builtins.ZeroDivisionError", "builtins.ArithmeticError", "builtins.Exception",
       "builtins.BaseException"], storage := "builtins.BaseException" },
   { name := "decimal.FloatOperation",
     ancestors := ["decimal.DecimalException", "builtins.ArithmeticError", "builtins.TypeError",
       "builtins.Exception", "builtins.BaseException"], storage := "builtins.BaseException" },
   { name := "decimal.Inexact",
     ancestors := ["decimal.DecimalException", "builtins.ArithmeticError", "builtins.Exception",
       "builtins.BaseException"], storage := "builtins.BaseException" },
   { name := "decimal.InvalidContext",
     ancestors := ["decimal.InvalidOperation", "decimal.DecimalException",
       "builtins.ArithmeticError", "builtins.Exception", "builtins.BaseException"],
     storage := "builtins.BaseException" },
   { name := "decimal.InvalidOperation",
     ancestors := ["decimal.DecimalException", "builtins.ArithmeticError", "builtins.Exception",
       "builtins.BaseException"], storage := "builtins.BaseException" },
   { name := "decimal.Overflow",
     ancestors := ["decimal.Inexact", "decimal.Rounded", "decimal.DecimalException",
       "builtins.ArithmeticError", "builtins.Exception", "builtins.BaseException"],
     storage := "builtins.BaseException" },
   { name := "decimal.Rounded",
     ancestors := ["decimal.DecimalException", "builtins.ArithmeticError", "builtins.Exception",
       "builtins.BaseException"], storage := "builtins.BaseException" },
   { name := "decimal.Subnormal",
     ancestors := ["decimal.DecimalException", "builtins.ArithmeticError", "builtins.Exception",
       "builtins.BaseException"], storage := "builtins.BaseException" },
   { name := "decimal.Underflow",
     ancestors := ["decimal.Inexact", "decimal.Rounded", "decimal.Subnormal",
       "decimal.DecimalException", "builtins.ArithmeticError", "builtins.Exception",
       "builtins.BaseException"], storage := "builtins.BaseException" },
   { name := "enum.Enum", metaclass := "enum.EnumType" },
   { name := "enum.EnumCheck",
     ancestors := ["enum.StrEnum", "builtins.str", "enum.ReprEnum", "enum.Enum"],
     storage := "builtins.str", metaclass := "enum.EnumType" },
   { name := "enum.EnumType", ancestors := ["builtins.type"], storage := "builtins.type" },
   { name := "enum.Flag", ancestors := ["enum.Enum"], metaclass := "enum.EnumType" },
   { name := "enum.FlagBoundary",
     ancestors := ["enum.StrEnum", "builtins.str", "enum.ReprEnum", "enum.Enum"],
     storage := "builtins.str", metaclass := "enum.EnumType" },
   { name := "enum.IntEnum", ancestors := ["builtins.int", "enum.ReprEnum", "enum.Enum"],
     storage := "enum.IntEnum", metaclass := "enum.EnumType" },
   { name := "enum.IntFlag",
     ancestors := ["builtins.int", "enum.ReprEnum", "enum.Flag", "enum.Enum"],
     storage := "enum.IntFlag", metaclass := "enum.EnumType" },
   { name := "enum.ReprEnum", ancestors := ["enum.Enum"], metaclass := "enum.EnumType" },
   { name := "enum.StrEnum", ancestors := ["builtins.str", "enum.ReprEnum", "enum.Enum"],
     storage := "builtins.str", metaclass := "enum.EnumType" },
   { name := "enum.auto" },
   { name := "enum.member" },
   { name := "enum.nonmember" },
   { name := "enum.property", ancestors := ["types.DynamicClassAttribute"] },
   { name := "enum.verify" },
   { name := "fractions.Fraction",
     ancestors := ["numbers.Rational", "numbers.Real", "numbers.Complex", "numbers.Number"],
     storage := "fractions.Fraction", metaclass := "abc.ABCMeta" },
   { name := "ipaddress.AddressValueError",
     ancestors := ["builtins.ValueError", "builtins.Exception", "builtins.BaseException"],
     storage := "builtins.BaseException" },
   { name := "ipaddress.IPv4Address",
     ancestors := ["ipaddress._BaseV4", "ipaddress._BaseAddress", "ipaddress._IPAddressBase"],
     storage := "ipaddress.IPv4Address" },
   { name := "ipaddress.IPv4Interface",
     ancestors := ["ipaddress.IPv4Address", "ipaddress._BaseV4", "ipaddress._BaseAddress",
       "ipaddress._IPAddressBase"], storage := "ipaddress.IPv4Address" },
   { name := "ipaddress.IPv4Network",
     ancestors := ["ipaddress._BaseV4", "ipaddress._BaseNetwork", "ipaddress._IPAddressBase"] },
   { name := "ipaddress.IPv6Address",
     ancestors := ["ipaddress._BaseV6", "ipaddress._BaseAddress", "ipaddress._IPAddressBase"],
     storage := "ipaddress.IPv6Address" },
   { name := "ipaddress.IPv6Interface",
     ancestors := ["ipaddress.IPv6Address", "ipaddress._BaseV6", "ipaddress._BaseAddress",
       "ipaddress._IPAddressBase"], storage := "ipaddress.IPv6Address" },
   { name := "ipaddress.IPv6Network",
     ancestors := ["ipaddress._BaseV6", "ipaddress._BaseNetwork", "ipaddress._IPAddressBase"] },
   { name := "ipaddress.NetmaskValueError",
     ancestors := ["builtins.ValueError", "builtins.Exception", "builtins.BaseException"],
     storage := "builtins.BaseException" },
   { name := "ipaddress._BaseAddress", ancestors := ["ipaddress._IPAddressBase"] },
   { name := "ipaddress._BaseNetwork", ancestors := ["ipaddress._IPAddressBase"] },
   { name := "ipaddress._BaseV4" },
   { name := "ipaddress._BaseV6" },
   { name := "ipaddress._IPAddressBase" },
   { name := "numbers.Complex", ancestors := ["numbers.Number"],
     abstractMethods := ["__abs__", "__add__", "__complex__", "__eq__", "__mul__", "__neg__",
       "__pos__", "__pow__", "__radd__", "__rmul__", "__rpow__", "__rtruediv__", "__truediv__",
       "conjugate", "imag", "real"], metaclass := "abc.ABCMeta" },
   { name := "numbers.Number", metaclass := "abc.ABCMeta" },
   { name := "numbers.Rational",
     ancestors := ["numbers.Real", "numbers.Complex", "numbers.Number"],
     abstractMethods := ["__abs__", "__add__", "__ceil__", "__eq__", "__floor__", "__floordiv__",
       "__le__", "__lt__", "__mod__", "__mul__", "__neg__", "__pos__", "__pow__", "__radd__",
       "__rfloordiv__", "__rmod__", "__rmul__", "__round__", "__rpow__", "__rtruediv__",
       "__truediv__", "__trunc__", "denominator", "numerator"], metaclass := "abc.ABCMeta" },
   { name := "numbers.Real", ancestors := ["numbers.Complex", "numbers.Number"],
     abstractMethods := ["__abs__", "__add__", "__ceil__", "__eq__", "__float__", "__floor__",
       "__floordiv__", "__le__", "__lt__", "__mod__", "__mul__", "__neg__", "__pos__", "__pow__",
       "__radd__", "__rfloordiv__", "__rmod__", "__rmul__", "__round__", "__rpow__",
       "__rtruediv__", "__truediv__", "__trunc__"], metaclass := "abc.ABCMeta" },
   { name := "operator.attrgetter", storage := "operator.attrgetter", isClosed := true },
   { name := "pathlib.Path", ancestors := ["pathlib.PurePath"], storage := "pathlib.PurePath" },
   { name := "pathlib.PosixPath",
     ancestors := ["pathlib.Path", "pathlib.PurePosixPath", "pathlib.PurePath"],
     storage := "pathlib.PurePath" },
   { name := "pathlib.PurePath", storage := "pathlib.PurePath" },
   { name := "pathlib.PurePosixPath", ancestors := ["pathlib.PurePath"],
     storage := "pathlib.PurePath" },
   { name := "pathlib.PureWindowsPath", ancestors := ["pathlib.PurePath"],
     storage := "pathlib.PurePath" },
   { name := "pathlib.WindowsPath",
     ancestors := ["pathlib.Path", "pathlib.PureWindowsPath", "pathlib.PurePath"],
     storage := "pathlib.PurePath" },
   { name := "re.Match", subscription := .free, storage := "re.Match", isClosed := true },
   { name := "re.Pattern", subscription := .free, storage := "re.Pattern", isClosed := true },
   { name := "types.DynamicClassAttribute" },
   { name := "types.GenericAlias", storage := "types.GenericAlias" },
   { name := "uuid.SafeUUID", ancestors := ["enum.Enum"], metaclass := "enum.EnumType" },
   { name := "uuid.UUID", storage := "uuid.UUID" }]

def marks : List StandardClass :=
  [{ name := "pydantic.main.BaseModel",
     metaclass := "pydantic._internal._model_construction.ModelMetaclass" },
   { name := "sqlalchemy.orm.decl_api.DeclarativeBase",
     metaclass := "sqlalchemy.orm.decl_api.DeclarativeAttributeIntercept" },
   { name := "sqlalchemy.orm.base.Mapped", ancestors := ["typing.Generic"],
     subscription := .checked 1 },
   { name := "typegen.markers.ForeignKey" },
   { name := "typegen.markers.JsonIgnore" }]

/-- All classes that are not defined by a scanned module. -/
def table : List StandardClass :=
  exceptions ++ builtin ++ containers ++ typeClasses ++ others ++ marks

def find? (fullName : String) : Option StandardClass :=
  table.find? fun c => c.name == fullName

end TypeExport.StandardClass
