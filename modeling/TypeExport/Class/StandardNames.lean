import TypeExport.Class.Standard

/-!
# The names of the standard modules

What each public name of a standard module stands for.  Functions and constants are only values.
-/

namespace TypeExport.StandardName

def abcNames : List (String × StandardName) :=
  [("ABC", .type "abc.ABC"), ("ABCMeta", .type "abc.ABCMeta"),
   ("abstractclassmethod", .type "abc.abstractclassmethod"), ("abstractmethod", .value),
   ("abstractproperty", .type "abc.abstractproperty"),
   ("abstractstaticmethod", .type "abc.abstractstaticmethod"), ("get_cache_token", .value),
   ("update_abstractmethods", .value)]

def builtinNames : List (String × StandardName) :=
  [("ArithmeticError", .type "builtins.ArithmeticError"),
   ("AssertionError", .type "builtins.AssertionError"),
   ("AttributeError", .type "builtins.AttributeError"),
   ("BaseException", .type "builtins.BaseException"),
   ("BaseExceptionGroup", .type "builtins.BaseExceptionGroup"),
   ("BlockingIOError", .type "builtins.BlockingIOError"),
   ("BrokenPipeError", .type "builtins.BrokenPipeError"),
   ("BufferError", .type "builtins.BufferError"), ("BytesWarning", .type "builtins.BytesWarning"),
   ("ChildProcessError", .type "builtins.ChildProcessError"),
   ("ConnectionAbortedError", .type "builtins.ConnectionAbortedError"),
   ("ConnectionError", .type "builtins.ConnectionError"),
   ("ConnectionRefusedError", .type "builtins.ConnectionRefusedError"),
   ("ConnectionResetError", .type "builtins.ConnectionResetError"),
   ("DeprecationWarning", .type "builtins.DeprecationWarning"),
   ("EOFError", .type "builtins.EOFError"), ("Ellipsis", .value),
   ("EncodingWarning", .type "builtins.EncodingWarning"),
   ("EnvironmentError", .type "builtins.OSError"), ("Exception", .type "builtins.Exception"),
   ("ExceptionGroup", .type "builtins.ExceptionGroup"),
   ("FileExistsError", .type "builtins.FileExistsError"),
   ("FileNotFoundError", .type "builtins.FileNotFoundError"),
   ("FloatingPointError", .type "builtins.FloatingPointError"),
   ("FutureWarning", .type "builtins.FutureWarning"),
   ("GeneratorExit", .type "builtins.GeneratorExit"), ("IOError", .type "builtins.OSError"),
   ("ImportError", .type "builtins.ImportError"),
   ("ImportWarning", .type "builtins.ImportWarning"),
   ("IndentationError", .type "builtins.IndentationError"),
   ("IndexError", .type "builtins.IndexError"),
   ("InterruptedError", .type "builtins.InterruptedError"),
   ("IsADirectoryError", .type "builtins.IsADirectoryError"),
   ("KeyError", .type "builtins.KeyError"),
   ("KeyboardInterrupt", .type "builtins.KeyboardInterrupt"),
   ("LookupError", .type "builtins.LookupError"), ("MemoryError", .type "builtins.MemoryError"),
   ("ModuleNotFoundError", .type "builtins.ModuleNotFoundError"),
   ("NameError", .type "builtins.NameError"),
   ("NotADirectoryError", .type "builtins.NotADirectoryError"), ("NotImplemented", .value),
   ("NotImplementedError", .type "builtins.NotImplementedError"),
   ("OSError", .type "builtins.OSError"), ("OverflowError", .type "builtins.OverflowError"),
   ("PendingDeprecationWarning", .type "builtins.PendingDeprecationWarning"),
   ("PermissionError", .type "builtins.PermissionError"),
   ("ProcessLookupError", .type "builtins.ProcessLookupError"),
   ("RecursionError", .type "builtins.RecursionError"),
   ("ReferenceError", .type "builtins.ReferenceError"),
   ("ResourceWarning", .type "builtins.ResourceWarning"),
   ("RuntimeError", .type "builtins.RuntimeError"),
   ("RuntimeWarning", .type "builtins.RuntimeWarning"),
   ("StopAsyncIteration", .type "builtins.StopAsyncIteration"),
   ("StopIteration", .type "builtins.StopIteration"),
   ("SyntaxError", .type "builtins.SyntaxError"),
   ("SyntaxWarning", .type "builtins.SyntaxWarning"),
   ("SystemError", .type "builtins.SystemError"), ("SystemExit", .type "builtins.SystemExit"),
   ("TabError", .type "builtins.TabError"), ("TimeoutError", .type "builtins.TimeoutError"),
   ("TypeError", .type "builtins.TypeError"),
   ("UnboundLocalError", .type "builtins.UnboundLocalError"),
   ("UnicodeDecodeError", .type "builtins.UnicodeDecodeError"),
   ("UnicodeEncodeError", .type "builtins.UnicodeEncodeError"),
   ("UnicodeError", .type "builtins.UnicodeError"),
   ("UnicodeTranslateError", .type "builtins.UnicodeTranslateError"),
   ("UnicodeWarning", .type "builtins.UnicodeWarning"),
   ("UserWarning", .type "builtins.UserWarning"), ("ValueError", .type "builtins.ValueError"),
   ("Warning", .type "builtins.Warning"),
   ("ZeroDivisionError", .type "builtins.ZeroDivisionError"), ("abs", .value), ("aiter", .value),
   ("all", .value), ("anext", .value), ("any", .value), ("ascii", .value), ("bin", .value),
   ("bool", .type "builtins.bool"), ("breakpoint", .value),
   ("bytearray", .type "builtins.bytearray"), ("bytes", .type "builtins.bytes"),
   ("callable", .value), ("chr", .value), ("classmethod", .type "builtins.classmethod"),
   ("compile", .value), ("complex", .type "builtins.complex"), ("copyright", .value),
   ("credits", .value), ("delattr", .value), ("dict", .type "builtins.dict"), ("dir", .value),
   ("divmod", .value), ("enumerate", .type "builtins.enumerate"), ("eval", .value),
   ("exec", .value), ("exit", .value), ("filter", .type "builtins.filter"),
   ("float", .type "builtins.float"), ("format", .value),
   ("frozenset", .type "builtins.frozenset"), ("getattr", .value), ("globals", .value),
   ("hasattr", .value), ("hash", .value), ("help", .value), ("hex", .value), ("id", .value),
   ("input", .value), ("int", .type "builtins.int"), ("isinstance", .value),
   ("issubclass", .value), ("iter", .value), ("len", .value), ("license", .value),
   ("list", .type "builtins.list"), ("locals", .value), ("map", .type "builtins.map"),
   ("max", .value), ("memoryview", .type "builtins.memoryview"), ("min", .value),
   ("next", .value), ("object", .type "builtins.object"), ("oct", .value), ("open", .value),
   ("ord", .value), ("pow", .value), ("print", .value), ("property", .type "builtins.property"),
   ("quit", .value), ("range", .type "builtins.range"), ("repr", .value),
   ("reversed", .type "builtins.reversed"), ("round", .value), ("set", .type "builtins.set"),
   ("setattr", .value), ("slice", .type "builtins.slice"), ("sorted", .value),
   ("staticmethod", .type "builtins.staticmethod"), ("str", .type "builtins.str"),
   ("sum", .value), ("super", .type "builtins.super"), ("tuple", .type "builtins.tuple"),
   ("type", .type "builtins.type"), ("vars", .value), ("zip", .type "builtins.zip")]

def collectionsNames : List (String × StandardName) :=
  [("ChainMap", .type "collections.ChainMap"), ("Counter", .type "collections.Counter"),
   ("OrderedDict", .type "collections.OrderedDict"), ("UserDict", .type "collections.UserDict"),
   ("UserList", .type "collections.UserList"), ("UserString", .type "collections.UserString"),
   ("abc", .module "collections.abc"), ("defaultdict", .type "collections.defaultdict"),
   ("deque", .type "collections.deque"), ("namedtuple", .value)]

def containerNames : List (String × StandardName) :=
  [("AsyncGenerator", .type "collections.abc.AsyncGenerator"),
   ("AsyncIterable", .type "collections.abc.AsyncIterable"),
   ("AsyncIterator", .type "collections.abc.AsyncIterator"),
   ("Awaitable", .type "collections.abc.Awaitable"),
   ("ByteString", .type "collections.abc.ByteString"),
   ("Callable", .type "collections.abc.Callable"),
   ("Collection", .type "collections.abc.Collection"),
   ("Container", .type "collections.abc.Container"),
   ("Coroutine", .type "collections.abc.Coroutine"),
   ("Generator", .type "collections.abc.Generator"),
   ("Hashable", .type "collections.abc.Hashable"),
   ("ItemsView", .type "collections.abc.ItemsView"),
   ("Iterable", .type "collections.abc.Iterable"), ("Iterator", .type "collections.abc.Iterator"),
   ("KeysView", .type "collections.abc.KeysView"), ("Mapping", .type "collections.abc.Mapping"),
   ("MappingView", .type "collections.abc.MappingView"),
   ("MutableMapping", .type "collections.abc.MutableMapping"),
   ("MutableSequence", .type "collections.abc.MutableSequence"),
   ("MutableSet", .type "collections.abc.MutableSet"),
   ("Reversible", .type "collections.abc.Reversible"),
   ("Sequence", .type "collections.abc.Sequence"), ("Set", .type "collections.abc.Set"),
   ("Sized", .type "collections.abc.Sized"), ("ValuesView", .type "collections.abc.ValuesView")]

def dataclassesNames : List (String × StandardName) :=
  [("Field", .type "dataclasses.Field"),
   ("FrozenInstanceError", .type "dataclasses.FrozenInstanceError"),
   ("FunctionType", .type "builtins.function"), ("GenericAlias", .type "types.GenericAlias"),
   ("InitVar", .type "dataclasses.InitVar"), ("KW_ONLY", .value), ("MISSING", .value),
   ("abc", .module "abc"), ("asdict", .value), ("astuple", .value),
   ("builtins", .module "builtins"), ("copy", .value), ("dataclass", .value), ("field", .value),
   ("fields", .value), ("functools", .value), ("inspect", .value), ("is_dataclass", .value),
   ("itertools", .value), ("keyword", .value), ("make_dataclass", .value), ("re", .value),
   ("replace", .value), ("sys", .value), ("types", .value)]

def datetimeNames : List (String × StandardName) :=
  [("MAXYEAR", .value), ("MINYEAR", .value), ("UTC", .value), ("date", .type "datetime.date"),
   ("datetime", .type "datetime.datetime"), ("datetime_CAPI", .value), ("sys", .value),
   ("time", .type "datetime.time"), ("timedelta", .type "datetime.timedelta"),
   ("timezone", .type "datetime.timezone"), ("tzinfo", .type "datetime.tzinfo")]

def decimalNames : List (String × StandardName) :=
  [("BasicContext", .value), ("Clamped", .type "decimal.Clamped"),
   ("Context", .type "decimal.Context"), ("ConversionSyntax", .type "decimal.ConversionSyntax"),
   ("Decimal", .type "decimal.Decimal"), ("DecimalException", .type "decimal.DecimalException"),
   ("DecimalTuple", .type "decimal.DecimalTuple"), ("DefaultContext", .value),
   ("DivisionByZero", .type "decimal.DivisionByZero"),
   ("DivisionImpossible", .type "decimal.DivisionImpossible"),
   ("DivisionUndefined", .type "decimal.DivisionUndefined"), ("ExtendedContext", .value),
   ("FloatOperation", .type "decimal.FloatOperation"), ("HAVE_CONTEXTVAR", .value),
   ("HAVE_THREADS", .value), ("Inexact", .type "decimal.Inexact"),
   ("InvalidContext", .type "decimal.InvalidContext"),
   ("InvalidOperation", .type "decimal.InvalidOperation"), ("MAX_EMAX", .value),
   ("MAX_PREC", .value), ("MIN_EMIN", .value), ("MIN_ETINY", .value),
   ("Overflow", .type "decimal.Overflow"), ("ROUND_05UP", .value), ("ROUND_CEILING", .value),
   ("ROUND_DOWN", .value), ("ROUND_FLOOR", .value), ("ROUND_HALF_DOWN", .value),
   ("ROUND_HALF_EVEN", .value), ("ROUND_HALF_UP", .value), ("ROUND_UP", .value),
   ("Rounded", .type "decimal.Rounded"), ("Subnormal", .type "decimal.Subnormal"),
   ("Underflow", .type "decimal.Underflow"), ("getcontext", .value), ("localcontext", .value),
   ("setcontext", .value)]

def enumNames : List (String × StandardName) :=
  [("CONFORM", .value), ("CONTINUOUS", .value),
   ("DynamicClassAttribute", .type "types.DynamicClassAttribute"), ("EJECT", .value),
   ("Enum", .type "enum.Enum"), ("EnumCheck", .type "enum.EnumCheck"),
   ("EnumMeta", .type "enum.EnumType"), ("EnumType", .type "enum.EnumType"),
   ("Flag", .type "enum.Flag"), ("FlagBoundary", .type "enum.FlagBoundary"),
   ("IntEnum", .type "enum.IntEnum"), ("IntFlag", .type "enum.IntFlag"), ("KEEP", .value),
   ("MappingProxyType", .type "builtins.mappingproxy"), ("NAMED_FLAGS", .value),
   ("ReprEnum", .type "enum.ReprEnum"), ("STRICT", .value), ("StrEnum", .type "enum.StrEnum"),
   ("UNIQUE", .value), ("auto", .type "enum.auto"), ("bin", .value),
   ("bltns", .module "builtins"), ("global_enum", .value), ("global_enum_repr", .value),
   ("global_flag_repr", .value), ("global_str", .value), ("member", .type "enum.member"),
   ("nonmember", .type "enum.nonmember"), ("pickle_by_enum_name", .value),
   ("pickle_by_global_name", .value), ("property", .type "enum.property"), ("reduce", .value),
   ("show_flag_values", .value), ("sys", .value), ("unique", .value),
   ("verify", .type "enum.verify")]

def fractionsNames : List (String × StandardName) :=
  [("Decimal", .type "decimal.Decimal"), ("Fraction", .type "fractions.Fraction"),
   ("math", .value), ("numbers", .value), ("operator", .value), ("re", .value), ("sys", .value)]

def ipaddressNames : List (String × StandardName) :=
  [("AddressValueError", .type "ipaddress.AddressValueError"), ("IPV4LENGTH", .value),
   ("IPV6LENGTH", .value), ("IPv4Address", .type "ipaddress.IPv4Address"),
   ("IPv4Interface", .type "ipaddress.IPv4Interface"),
   ("IPv4Network", .type "ipaddress.IPv4Network"), ("IPv6Address", .type "ipaddress.IPv6Address"),
   ("IPv6Interface", .type "ipaddress.IPv6Interface"),
   ("IPv6Network", .type "ipaddress.IPv6Network"),
   ("NetmaskValueError", .type "ipaddress.NetmaskValueError"), ("collapse_addresses", .value),
   ("functools", .value), ("get_mixed_type_key", .value), ("ip_address", .value),
   ("ip_interface", .value), ("ip_network", .value), ("summarize_address_range", .value),
   ("v4_int_to_packed", .value), ("v6_int_to_packed", .value)]

def pathlibNames : List (String × StandardName) :=
  [("EBADF", .value), ("ELOOP", .value), ("ENOENT", .value), ("ENOTDIR", .value),
   ("Path", .type "pathlib.Path"), ("PosixPath", .type "pathlib.PosixPath"),
   ("PurePath", .type "pathlib.PurePath"), ("PurePosixPath", .type "pathlib.PurePosixPath"),
   ("PureWindowsPath", .type "pathlib.PureWindowsPath"), ("S_ISBLK", .value), ("S_ISCHR", .value),
   ("S_ISDIR", .value), ("S_ISFIFO", .value), ("S_ISLNK", .value), ("S_ISREG", .value),
   ("S_ISSOCK", .value), ("Sequence", .type "collections.abc.Sequence"),
   ("WindowsPath", .type "pathlib.WindowsPath"), ("attrgetter", .type "operator.attrgetter"),
   ("fnmatch", .value), ("functools", .value), ("io", .value), ("ntpath", .value), ("os", .value),
   ("posixpath", .value), ("re", .value), ("sys", .value), ("urlquote_from_bytes", .value),
   ("warnings", .value)]

def typingNames : List (String × StandardName) :=
  [("ABCMeta", .type "abc.ABCMeta"), ("AbstractSet", .alias "collections.abc.Set" 1),
   ("Annotated", .type "typing.Annotated"), ("Any", .type "typing.Any"),
   ("AnyStr", .typeVariable),
   ("AsyncContextManager", .alias "contextlib.AbstractAsyncContextManager" 1),
   ("AsyncGenerator", .alias "collections.abc.AsyncGenerator" 2),
   ("AsyncIterable", .alias "collections.abc.AsyncIterable" 1),
   ("AsyncIterator", .alias "collections.abc.AsyncIterator" 1),
   ("Awaitable", .alias "collections.abc.Awaitable" 1), ("BinaryIO", .type "typing.BinaryIO"),
   ("ByteString", .alias "collections.abc.ByteString" 0), ("CT_co", .typeVariable),
   ("Callable", .callable), ("ChainMap", .alias "collections.ChainMap" 2), ("ClassVar", .form),
   ("Collection", .alias "collections.abc.Collection" 1), ("Concatenate", .form),
   ("Container", .alias "collections.abc.Container" 1),
   ("ContextManager", .alias "contextlib.AbstractContextManager" 1),
   ("Coroutine", .alias "collections.abc.Coroutine" 3),
   ("Counter", .alias "collections.Counter" 1),
   ("DefaultDict", .alias "collections.defaultdict" 2), ("Deque", .alias "collections.deque" 1),
   ("Dict", .alias "builtins.dict" 2), ("EXCLUDED_ATTRIBUTES", .value), ("Final", .form),
   ("ForwardRef", .type "typing.ForwardRef"), ("FrozenSet", .alias "builtins.frozenset" 1),
   ("Generator", .alias "collections.abc.Generator" 3), ("Generic", .type "typing.Generic"),
   ("GenericAlias", .type "types.GenericAlias"),
   ("Hashable", .alias "collections.abc.Hashable" 0), ("IO", .type "typing.IO"),
   ("ItemsView", .alias "collections.abc.ItemsView" 2),
   ("Iterable", .alias "collections.abc.Iterable" 1),
   ("Iterator", .alias "collections.abc.Iterator" 1), ("KT", .typeVariable),
   ("KeysView", .alias "collections.abc.KeysView" 1), ("List", .alias "builtins.list" 1),
   ("Literal", .form), ("LiteralString", .form), ("Mapping", .alias "collections.abc.Mapping" 2),
   ("MappingView", .alias "collections.abc.MappingView" 1), ("Match", .alias "re.Match" 1),
   ("MethodDescriptorType", .type "builtins.method_descriptor"),
   ("MethodWrapperType", .type "builtins.method-wrapper"),
   ("MutableMapping", .alias "collections.abc.MutableMapping" 2),
   ("MutableSequence", .alias "collections.abc.MutableSequence" 1),
   ("MutableSet", .alias "collections.abc.MutableSet" 1), ("NamedTuple", .value),
   ("NamedTupleMeta", .type "typing.NamedTupleMeta"), ("Never", .form),
   ("NewType", .type "typing.NewType"), ("NoReturn", .form), ("NotRequired", .form),
   ("Optional", .form), ("OrderedDict", .alias "collections.OrderedDict" 2),
   ("ParamSpec", .type "typing.ParamSpec"), ("ParamSpecArgs", .type "typing.ParamSpecArgs"),
   ("ParamSpecKwargs", .type "typing.ParamSpecKwargs"), ("Pattern", .alias "re.Pattern" 1),
   ("Protocol", .type "typing.Protocol"), ("Required", .form),
   ("Reversible", .alias "collections.abc.Reversible" 1), ("Self", .form),
   ("Sequence", .alias "collections.abc.Sequence" 1), ("Set", .alias "builtins.set" 1),
   ("Sized", .alias "collections.abc.Sized" 0), ("SupportsAbs", .type "typing.SupportsAbs"),
   ("SupportsBytes", .type "typing.SupportsBytes"),
   ("SupportsComplex", .type "typing.SupportsComplex"),
   ("SupportsFloat", .type "typing.SupportsFloat"),
   ("SupportsIndex", .type "typing.SupportsIndex"), ("SupportsInt", .type "typing.SupportsInt"),
   ("SupportsRound", .type "typing.SupportsRound"), ("T", .typeVariable),
   ("TYPE_CHECKING", .value), ("T_co", .typeVariable), ("T_contra", .typeVariable),
   ("Text", .type "builtins.str"), ("TextIO", .type "typing.TextIO"), ("Tuple", .tuple),
   ("Type", .alias "builtins.type" 1), ("TypeAlias", .form), ("TypeGuard", .form),
   ("TypeVar", .type "typing.TypeVar"), ("TypeVarTuple", .type "typing.TypeVarTuple"),
   ("TypedDict", .value), ("Union", .form), ("Unpack", .form), ("VT", .typeVariable),
   ("VT_co", .typeVariable), ("V_co", .typeVariable),
   ("ValuesView", .alias "collections.abc.ValuesView" 1),
   ("WrapperDescriptorType", .type "builtins.wrapper_descriptor"), ("abstractmethod", .value),
   ("assert_never", .value), ("assert_type", .value), ("cast", .value),
   ("clear_overloads", .value), ("collections", .module "collections"), ("contextlib", .value),
   ("dataclass_transform", .value), ("defaultdict", .type "collections.defaultdict"),
   ("final", .value), ("functools", .value), ("get_args", .value), ("get_origin", .value),
   ("get_overloads", .value), ("get_type_hints", .value), ("io", .type "typing.io"),
   ("is_typeddict", .value), ("no_type_check", .value), ("no_type_check_decorator", .value),
   ("operator", .value), ("overload", .value), ("re", .type "typing.re"), ("reveal_type", .value),
   ("runtime_checkable", .value), ("stdlib_re", .value), ("sys", .value), ("types", .value),
   ("warnings", .value)]

def uuidNames : List (String × StandardName) :=
  [("Enum", .type "enum.Enum"), ("NAMESPACE_DNS", .value), ("NAMESPACE_OID", .value),
   ("NAMESPACE_URL", .value), ("NAMESPACE_X500", .value), ("RESERVED_FUTURE", .value),
   ("RESERVED_MICROSOFT", .value), ("RESERVED_NCS", .value), ("RFC_4122", .value),
   ("SafeUUID", .type "uuid.SafeUUID"), ("UUID", .type "uuid.UUID"),
   ("bytes_", .type "builtins.bytes"), ("getnode", .value), ("int_", .type "builtins.int"),
   ("os", .value), ("platform", .value), ("sys", .value), ("uuid1", .value), ("uuid3", .value),
   ("uuid4", .value), ("uuid5", .value)]

def mappedNames : List (String × StandardName) :=
  [("Mapped", .type "sqlalchemy.orm.base.Mapped"),
   ("DeclarativeBase", .type "sqlalchemy.orm.decl_api.DeclarativeBase")]

def markerNames : List (String × StandardName) :=
  [("ForeignKey", .type "typegen.markers.ForeignKey"),
   ("JsonIgnore", .type "typegen.markers.JsonIgnore"), ("export_to_ts", .value)]

def knownModules : List (String × List (String × StandardName)) :=
  [("abc", abcNames), ("builtins", builtinNames), ("collections", collectionsNames),
   ("collections.abc", containerNames), ("dataclasses", dataclassesNames),
   ("datetime", datetimeNames), ("decimal", decimalNames), ("enum", enumNames),
   ("fractions", fractionsNames), ("ipaddress", ipaddressNames), ("pathlib", pathlibNames),
   ("typing", typingNames), ("uuid", uuidNames)]

/-- The modules that mark records and annotations; they have more names than these. -/
def markModules : List (String × List (String × StandardName)) :=
  [("pydantic", [("BaseModel", .type "pydantic.main.BaseModel")]),
   ("sqlalchemy.orm", mappedNames), ("typegen.markers", markerNames)]

/-- The modules outside of the scanned ones that source modules can name. -/
def modules : List (String × List (String × StandardName)) :=
  knownModules ++ markModules

/-- What a name of a standard module stands for. -/
def find? (module name : String) : Option StandardName :=
  (modules.lookup module).bind (·.lookup name)

end TypeExport.StandardName
