import ForeignBridge.Value.Basic

/-!
The methods of values. Every value of a type can be asked for the same things, whatever it is; only what an
implementation can be asked for is its own.
-/

namespace ForeignBridge.Value

def textualMethods : List String :=
  ["capitalize", "center", "count", "endswith", "expandtabs", "find", "index", "isalnum", "isalpha",
  "isascii", "isdigit", "islower", "isspace", "istitle", "isupper", "join", "ljust", "lower", "lstrip",
  "maketrans", "partition", "removeprefix", "removesuffix", "replace", "rfind", "rindex", "rjust",
  "rpartition", "rsplit", "rstrip", "split", "splitlines", "startswith", "strip", "swapcase", "title",
  "translate", "upper", "zfill"]

/-- What rows of items that do not change can be asked for. -/
def rowMethods : List String := ["count", "index"]

/-- What rows of items that change can be asked for as well. -/
def changeMethods : List String :=
  ["append", "clear", "copy", "extend", "insert", "pop", "remove", "reverse"]

/-- What days can be asked for, with or without a time of day. -/
def dayMethods : List String :=
  ["ctime", "fromisocalendar", "fromisoformat", "fromordinal", "fromtimestamp", "isocalendar", "isoformat",
  "isoweekday", "replace", "strftime", "timetuple", "today", "toordinal", "weekday"]

def methods : Value → List String
  | bool _ | int _ =>
    ["as_integer_ratio", "bit_count", "bit_length", "conjugate", "from_bytes", "to_bytes"]
  | float _ => ["as_integer_ratio", "conjugate", "fromhex", "hex", "is_integer"]
  | text _ | halved _ =>
    textualMethods ++ ["casefold", "encode", "format", "format_map", "isdecimal", "isidentifier", "isnumeric",
      "isprintable"]
  | bytes .frozen _ => textualMethods ++ ["decode", "fromhex", "hex"]
  | bytes .growable _ => textualMethods ++ ["decode", "fromhex", "hex"] ++ changeMethods
  | bytes .view _ => ["cast", "hex", "release", "tobytes", "tolist", "toreadonly"]
  | list _ => "sort" :: rowMethods ++ changeMethods
  | tuple _ => rowMethods
  | dict _ =>
    ["clear", "copy", "fromkeys", "get", "items", "keys", "pop", "popitem", "setdefault", "update", "values"]
  | moment _ => dayMethods ++
    ["astimezone", "combine", "date", "dst", "now", "strptime", "time", "timestamp", "timetz", "tzname",
      "utcfromtimestamp", "utcnow", "utcoffset", "utctimetuple"]
  | date _ => dayMethods
  | span _ => ["total_seconds"]
  | declared .. | exception .. => ["add_note", "with_traceback"]
  | implementation _ _ callable => callable
  | _ => []

end ForeignBridge.Value
