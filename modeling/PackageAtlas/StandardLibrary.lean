import PackageAtlas.Text

/-!
# Python's standard library

The names of the top-level modules that come with Python 3, by its minor version. Versions for
which nothing special is known have the modules that all versions have.
-/
namespace PackageAtlas.StandardLibrary

def permanent : List String := [
  "__hello__", "__phello__", "_abc", "_ast", "_asyncio", "_bisect", "_blake2", "_bz2", "_codecs",
  "_codecs_cn", "_codecs_hk", "_codecs_iso2022", "_codecs_jp", "_codecs_kr", "_codecs_tw",
  "_collections", "_collections_abc", "_compat_pickle", "_contextvars", "_csv", "_ctypes",
  "_ctypes_test", "_curses", "_curses_panel", "_datetime", "_dbm", "_decimal", "_elementtree",
  "_frozen_importlib", "_frozen_importlib_external", "_functools", "_gdbm", "_hashlib", "_heapq",
  "_imp", "_io", "_json", "_locale", "_lsprof", "_lzma", "_markupbase", "_md5", "_multibytecodec",
  "_multiprocessing", "_opcode", "_operator", "_osx_support", "_overlapped", "_pickle",
  "_posixsubprocess", "_py_abc", "_pydecimal", "_pyio", "_queue", "_random", "_scproxy", "_sha1",
  "_sha3", "_signal", "_sitebuiltins", "_socket", "_sqlite3", "_sre", "_ssl", "_stat", "_string",
  "_strptime", "_struct", "_symtable", "_testbuffer", "_testcapi", "_testconsole",
  "_testimportmultiple", "_testmultiphase", "_thread", "_threading_local", "_tkinter",
  "_tracemalloc", "_uuid", "_warnings", "_weakref", "_weakrefset", "_winapi", "_xxtestfuzz", "abc",
  "antigravity", "argparse", "array", "ast", "asyncio", "atexit", "base64", "bdb", "binascii",
  "bisect", "builtins", "bz2", "cProfile", "calendar", "cmath", "cmd", "code", "codecs", "codeop",
  "collections", "colorsys", "compileall", "concurrent", "configparser", "contextlib",
  "contextvars", "copy", "copyreg", "csv", "ctypes", "curses", "dataclasses", "datetime", "dbm",
  "decimal", "difflib", "dis", "doctest", "email", "encodings", "ensurepip", "enum", "errno",
  "faulthandler", "fcntl", "filecmp", "fileinput", "fnmatch", "fractions", "ftplib", "functools",
  "gc", "genericpath", "getopt", "getpass", "gettext", "glob", "grp", "gzip", "hashlib", "heapq",
  "hmac", "html", "http", "idlelib", "imaplib", "importlib", "inspect", "io", "ipaddress",
  "itertools", "json", "keyword", "linecache", "locale", "logging", "lzma", "mailbox", "marshal",
  "math", "mimetypes", "mmap", "modulefinder", "msvcrt", "multiprocessing", "netrc", "nt", "ntpath",
  "nturl2path", "numbers", "opcode", "operator", "optparse", "os", "pathlib", "pdb", "pickle",
  "pickletools", "pkgutil", "platform", "plistlib", "poplib", "posix", "posixpath", "pprint",
  "profile", "pstats", "pty", "pwd", "py_compile", "pyclbr", "pydoc", "pydoc_data", "pyexpat",
  "queue", "quopri", "random", "re", "readline", "reprlib", "resource", "rlcompleter", "runpy",
  "sched", "secrets", "select", "selectors", "shelve", "shlex", "shutil", "signal", "site",
  "smtplib", "socket", "socketserver", "sqlite3", "ssl", "stat", "statistics", "string",
  "stringprep", "struct", "subprocess", "symtable", "sys", "sysconfig", "syslog", "tabnanny",
  "tarfile", "tempfile", "termios", "textwrap", "this", "threading", "time", "timeit", "tkinter",
  "token", "tokenize", "trace", "traceback", "tracemalloc", "tty", "turtle", "turtledemo", "types",
  "typing", "unicodedata", "unittest", "urllib", "uuid", "venv", "warnings", "wave", "weakref",
  "webbrowser", "winreg", "winsound", "wsgiref", "xml", "xmlrpc", "xx", "xxlimited", "xxsubtype",
  "zipapp", "zipfile", "zipimport", "zlib"]

structure Passing where
  name : String
  first : Nat
  last : Nat

/-- The modules that came or went between versions 7 and 15. -/
def passing : List Passing := [
  ⟨"__hello_alias__", 11, 15⟩, ⟨"__hello_only__", 11, 15⟩, ⟨"__phello_alias__", 11, 15⟩,
  ⟨"_aix_support", 9, 15⟩, ⟨"_android_support", 13, 15⟩, ⟨"_apple_support", 13, 15⟩,
  ⟨"_ast_unparse", 14, 15⟩, ⟨"_bootlocale", 7, 9⟩, ⟨"_bootsubprocess", 9, 11⟩,
  ⟨"_colorize", 13, 15⟩, ⟨"_compression", 7, 13⟩, ⟨"_crypt", 7, 12⟩, ⟨"_dummy_thread", 7, 8⟩,
  ⟨"_hmac", 14, 15⟩, ⟨"_interpchannels", 13, 15⟩, ⟨"_interpqueues", 13, 15⟩,
  ⟨"_interpreters", 13, 15⟩, ⟨"_ios_support", 13, 15⟩, ⟨"_math_integer", 15, 15⟩, ⟨"_msi", 7, 12⟩,
  ⟨"_opcode_metadata", 13, 15⟩, ⟨"_peg_parser", 9, 9⟩, ⟨"_posixshmem", 8, 15⟩,
  ⟨"_py_warnings", 14, 15⟩, ⟨"_pydatetime", 12, 15⟩, ⟨"_pylong", 12, 15⟩, ⟨"_pyrepl", 13, 15⟩,
  ⟨"_remote_debugging", 14, 15⟩, ⟨"_sha2", 12, 15⟩, ⟨"_sha256", 7, 11⟩, ⟨"_sha512", 7, 11⟩,
  ⟨"_statistics", 8, 15⟩, ⟨"_suggestions", 13, 15⟩, ⟨"_sysconfig", 13, 15⟩,
  ⟨"_testcapi_datetime", 13, 15⟩, ⟨"_testclinic", 10, 15⟩, ⟨"_testclinic_limited", 13, 15⟩,
  ⟨"_testexternalinspection", 13, 13⟩, ⟨"_testinternalcapi", 8, 15⟩, ⟨"_testlimitedcapi", 13, 15⟩,
  ⟨"_testsinglephase", 12, 15⟩, ⟨"_tokenize", 11, 15⟩, ⟨"_types", 14, 15⟩, ⟨"_typing", 11, 15⟩,
  ⟨"_wmi", 12, 15⟩, ⟨"_xxinterpchannels", 12, 12⟩, ⟨"_xxsubinterpreters", 8, 12⟩,
  ⟨"_zoneinfo", 9, 15⟩, ⟨"_zstd", 14, 15⟩, ⟨"aifc", 7, 12⟩, ⟨"annotationlib", 14, 15⟩,
  ⟨"asynchat", 7, 11⟩, ⟨"asyncore", 7, 11⟩, ⟨"audioop", 7, 12⟩, ⟨"binhex", 7, 10⟩, ⟨"cgi", 7, 12⟩,
  ⟨"cgitb", 7, 12⟩, ⟨"chunk", 7, 12⟩, ⟨"compression", 14, 15⟩, ⟨"crypt", 7, 12⟩,
  ⟨"distutils", 7, 11⟩, ⟨"dummy_threading", 7, 8⟩, ⟨"formatter", 7, 9⟩, ⟨"graphlib", 9, 15⟩,
  ⟨"imghdr", 7, 12⟩, ⟨"imp", 7, 11⟩, ⟨"lib2to3", 7, 12⟩, ⟨"macpath", 7, 7⟩, ⟨"mailcap", 7, 12⟩,
  ⟨"msilib", 7, 12⟩, ⟨"nis", 7, 12⟩, ⟨"nntplib", 7, 12⟩, ⟨"ossaudiodev", 7, 12⟩, ⟨"parser", 7, 9⟩,
  ⟨"pipes", 7, 12⟩, ⟨"profiling", 15, 15⟩, ⟨"smtpd", 7, 11⟩, ⟨"sndhdr", 7, 12⟩, ⟨"spwd", 7, 12⟩,
  ⟨"sre_compile", 7, 14⟩, ⟨"sre_constants", 7, 14⟩, ⟨"sre_parse", 7, 14⟩, ⟨"sunau", 7, 12⟩,
  ⟨"symbol", 7, 9⟩, ⟨"telnetlib", 7, 12⟩, ⟨"tomllib", 11, 15⟩, ⟨"uu", 7, 12⟩, ⟨"xdrlib", 7, 12⟩,
  ⟨"xxlimited_35", 10, 15⟩, ⟨"zoneinfo", 9, 15⟩]

/-- Whether a version has the top-level module of this name. -/
def hasTopLevel (version : Nat) (name : String) : Bool :=
  permanent.contains name
    || passing.any fun p => p.name = name && p.first ≤ version && version ≤ p.last

/-- Whether a dotted name belongs to the standard library. -/
def has (version : Nat) (name : String) : Bool :=
  -- The module itself is known to every version, but nothing below it.
  name = "__future__" || hasTopLevel version ((Text.split '.' name).headD "")

end PackageAtlas.StandardLibrary
