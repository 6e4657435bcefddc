import TypeExport.Primitive.StandardModule

/-!
# Library modules

Which modules there are outside of the scanned files: some are part of the interpreter or frozen
into it, some are loaded from the start, and some have to be looked for like all others.
-/

namespace TypeExport.Library

def builtIn : List String :=
  ["_abc", "_ast", "_codecs", "_collections", "_functools", "_imp", "_io", "_locale",
   "_operator", "_signal", "_sre", "_stat", "_string", "_symtable", "_thread", "_tokenize",
   "_tracemalloc", "_typing", "_warnings", "_weakref", "atexit", "builtins", "errno",
   "faulthandler", "gc", "itertools", "marshal", "posix", "pwd", "sys", "time"]

def frozen : List String :=
  ["_collections_abc", "_frozen_importlib", "_frozen_importlib_external", "_sitebuiltins", "abc",
   "codecs", "collections.abc", "genericpath", "importlib._bootstrap",
   "importlib._bootstrap_external", "importlib.machinery", "importlib.util", "io", "ntpath",
   "os", "os.path", "posixpath", "runpy", "site", "stat", "zipimport"]

/-- The standard modules that are not loaded from the start. -/
def dormant : List String :=
  ["_aix_support", "_bootsubprocess", "_codecs_cn", "_codecs_hk", "_codecs_iso2022",
   "_codecs_jp", "_codecs_kr", "_codecs_tw", "_crypt", "_curses", "_curses_panel", "_dbm",
   "_gdbm", "_lsprof", "_markupbase", "_multibytecodec", "_osx_support", "_pyio", "_tkinter",
   "aifc", "antigravity", "asynchat", "asyncore", "audioop", "bdb", "cProfile", "cgi", "cgitb",
   "chunk", "cmd", "code", "codeop", "colorsys", "compileall", "crypt", "curses", "dbm",
   "distutils", "ensurepip", "filecmp", "fileinput", "ftplib", "idlelib", "imaplib", "imghdr",
   "imp", "lib2to3", "mailbox", "mailcap", "modulefinder", "netrc", "nis", "nntplib",
   "nturl2path", "optparse", "ossaudiodev", "pdb", "pickletools", "pipes", "poplib", "profile",
   "pstats", "pty", "py_compile", "pyclbr", "pydoc", "pydoc_data", "rlcompleter", "sched",
   "shelve", "smtpd", "smtplib", "sndhdr", "spwd", "sunau", "symtable", "tabnanny", "telnetlib",
   "this", "timeit", "tkinter", "trace", "tty", "turtle", "turtledemo", "uu", "venv", "wave",
   "webbrowser", "wsgiref", "xdrlib", "xmlrpc", "zipapp"]

/-- The standard modules that belong to other systems. -/
def absent : List String :=
  ["_msi", "_overlapped", "_scproxy", "_winapi", "msilib", "msvcrt", "nt", "winreg", "winsound"]

def submodules : List String :=
  ["asyncio.__main__", "asyncio.base_events", "asyncio.base_futures", "asyncio.base_subprocess",
   "asyncio.base_tasks", "asyncio.constants", "asyncio.coroutines", "asyncio.events",
   "asyncio.exceptions", "asyncio.format_helpers", "asyncio.futures", "asyncio.locks",
   "asyncio.log", "asyncio.mixins", "asyncio.proactor_events", "asyncio.protocols",
   "asyncio.queues", "asyncio.runners", "asyncio.selector_events", "asyncio.sslproto",
   "asyncio.staggered", "asyncio.streams", "asyncio.subprocess", "asyncio.taskgroups",
   "asyncio.tasks", "asyncio.threads", "asyncio.timeouts", "asyncio.transports",
   "asyncio.trsock", "asyncio.unix_events", "asyncio.windows_events", "asyncio.windows_utils",
   "concurrent.futures", "concurrent.futures._base", "concurrent.futures.process",
   "concurrent.futures.thread", "ctypes._aix", "ctypes._endian", "ctypes.macholib",
   "ctypes.macholib.dyld", "ctypes.macholib.dylib", "ctypes.macholib.framework", "ctypes.util",
   "ctypes.wintypes", "curses.ascii", "curses.has_key", "curses.panel", "curses.textpad",
   "dbm.dumb", "dbm.gnu", "dbm.ndbm", "email._encoded_words", "email._header_value_parser",
   "email._parseaddr", "email._policybase", "email.base64mime", "email.charset",
   "email.contentmanager", "email.encoders", "email.errors", "email.feedparser",
   "email.generator", "email.header", "email.headerregistry", "email.iterators", "email.message",
   "email.mime", "email.mime.application", "email.mime.audio", "email.mime.base",
   "email.mime.image", "email.mime.message", "email.mime.multipart", "email.mime.nonmultipart",
   "email.mime.text", "email.parser", "email.policy", "email.quoprimime", "email.utils",
   "encodings.aliases", "encodings.ascii", "encodings.idna", "encodings.latin_1",
   "encodings.utf_8", "html.entities", "html.parser", "http.client", "http.cookiejar",
   "http.cookies", "http.server", "importlib._abc", "importlib.abc", "importlib.metadata",
   "importlib.metadata._adapters", "importlib.metadata._collections",
   "importlib.metadata._functools", "importlib.metadata._itertools", "importlib.metadata._meta",
   "importlib.metadata._text", "importlib.readers", "importlib.resources",
   "importlib.resources._adapters", "importlib.resources._common",
   "importlib.resources._itertools", "importlib.resources._legacy", "importlib.resources.abc",
   "importlib.resources.readers", "importlib.resources.simple", "importlib.simple",
   "json.decoder", "json.encoder", "json.scanner", "json.tool", "logging.config",
   "logging.handlers", "multiprocessing.connection", "multiprocessing.context",
   "multiprocessing.dummy", "multiprocessing.dummy.connection", "multiprocessing.forkserver",
   "multiprocessing.heap", "multiprocessing.managers", "multiprocessing.pool",
   "multiprocessing.popen_fork", "multiprocessing.popen_forkserver",
   "multiprocessing.popen_spawn_posix", "multiprocessing.popen_spawn_win32",
   "multiprocessing.process", "multiprocessing.queues", "multiprocessing.reduction",
   "multiprocessing.resource_sharer", "multiprocessing.resource_tracker",
   "multiprocessing.shared_memory", "multiprocessing.sharedctypes", "multiprocessing.spawn",
   "multiprocessing.synchronize", "multiprocessing.util", "re._casefix", "re._compiler",
   "re._constants", "re._parser", "sqlite3.dbapi2", "sqlite3.dump", "tomllib._parser",
   "tomllib._re", "tomllib._types", "unittest.__main__", "unittest._log", "unittest.async_case",
   "unittest.case", "unittest.loader", "unittest.main", "unittest.mock", "unittest.result",
   "unittest.runner", "unittest.signals", "unittest.suite", "unittest.util", "urllib.error",
   "urllib.parse", "urllib.request", "urllib.response", "urllib.robotparser", "venv.__main__",
   "wsgiref.handlers", "wsgiref.headers", "wsgiref.simple_server", "wsgiref.types",
   "wsgiref.util", "wsgiref.validate", "xml.dom", "xml.dom.NodeFilter", "xml.dom.domreg",
   "xml.dom.expatbuilder", "xml.dom.minicompat", "xml.dom.minidom", "xml.dom.pulldom",
   "xml.dom.xmlbuilder", "xml.etree", "xml.etree.ElementInclude", "xml.etree.ElementPath",
   "xml.etree.ElementTree", "xml.etree.cElementTree", "xml.parsers", "xml.parsers.expat",
   "xml.sax", "xml.sax._exceptions", "xml.sax.expatreader", "xml.sax.handler",
   "xml.sax.saxutils", "xml.sax.xmlreader", "xmlrpc.client", "xmlrpc.server", "zoneinfo._common",
   "zoneinfo._tzpath", "zoneinfo._zoneinfo"]

/-- Whether a name is that of a standard module or of one below a standard module. -/
def isStandard (name : String) : Bool :=
  (Primitive.standardModules.contains name && !absent.contains name) ||
    submodules.contains name || frozen.contains name

/-- Whether a standard module is loaded from the start; those below others go with them. -/
def isLoaded (name : String) : Bool :=
  isStandard name && !dormant.contains (Primitive.topLevel name)

/-- Whether a module among `names` is directly below another one. -/
def isBelow (owner name : String) : Bool :=
  let front := (owner ++ ".").toList
  front.isPrefixOf name.toList && !(name.toList.drop front.length).contains '.'

end TypeExport.Library
