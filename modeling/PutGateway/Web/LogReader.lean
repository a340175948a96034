import Mathlib.Algebra.Group.Nat.Defs
import Mathlib.Data.List.DropRight
import Mathlib.Data.List.Infix
/-!
# Reading logs

`web/backend/src/log_reader.rs`: a request for log lines filters the lines
of a source and returns a page of them, the newest ones first. The cursor
of a request is the number of matching lines, counted from the newest, that
the pages before it have shown.
-/

namespace PutGateway

namespace Web

/-! ## Text -/

/-- `char::is_whitespace`. -/
def isWhitespace (c : Char) : Bool :=
  (9 ≤ c.toNat && c.toNat ≤ 13) || c.toNat = 0x20 || c.toNat = 0x85 || c.toNat = 0xA0 ||
    c.toNat = 0x1680 || (0x2000 ≤ c.toNat && c.toNat ≤ 0x200A) || c.toNat = 0x2028 ||
    c.toNat = 0x2029 || c.toNat = 0x202F || c.toNat = 0x205F || c.toNat = 0x3000

/-- `str::trim`. -/
def trim (text : String) : String :=
  String.ofList ((text.toList.dropWhile isWhitespace).rdropWhile isWhitespace)

/-- `str::to_ascii_lowercase`. -/
def toAsciiLowercase (text : String) : String := String.ofList (text.toList.map Char.toLower)

/-- `str::contains`. -/
def contains (haystack needle : String) : Bool := decide (needle.toList <:+: haystack.toList)

/-- `str::parse::<usize>`: a decimal number that fits, with an optional
plus sign. -/
def parseUsize (text : String) : Option ℕ :=
  let body := if text.toList.head? = some '+' then text.toList.drop 1 else text.toList
  if body ≠ [] && body.all Char.isDigit && Nat.ofDigitChars 10 body 0 < 2 ^ 64 then
    some (Nat.ofDigitChars 10 body 0)
  else none

/-! ## A page of lines -/

/-- The lines in memory: a `Vec` has fewer than 2^64 elements. -/
structure Slice (α : Type) where
  items : List α
  length_lt : items.length < 2 ^ 64

/-- `LogQuery`. -/
structure LogQuery where
  source : String := "linux_app"
  level : String := ""
  keyword : String := ""
  cursor : String := ""
  limit : ℕ := 200

/-- `LogLine`. -/
structure LogLine where
  lineNumber : ℕ
  source : String
  level : String
  text : String
  deriving DecidableEq

/-- `LogsResponse`. -/
structure LogsResponse where
  source : String
  lines : List LogLine
  nextCursor : Option String
  hasMore : Bool
  deriving DecidableEq

/-- `matches_filters`. -/
def matchesFilters (line level keyword : String) : Bool :=
  let haystack := toAsciiLowercase line
  (level = "" || contains haystack level) && (keyword = "" || contains haystack keyword)

/-- `detect_level`. -/
def detectLevel (line : String) : String :=
  let lower := toAsciiLowercase line
  (["error", "warn", "info", "debug", "trace"].find? fun level => contains lower level).getD
    "unknown"

/-- The entry of a line, at an index of the file. -/
def logLine (source : String) (entry : String × ℕ) : LogLine where
  lineNumber := entry.2 + 1
  source := source
  level := detectLevel entry.1
  text := entry.1

/-- What the loop of `page_log_lines` keeps. -/
structure PageState where
  skipped : ℕ := 0
  lines : List LogLine := []
  hasMore : Bool := false

/-- The loop of `page_log_lines`, over lines with their indices. -/
def pageFrom (source levelFilter keywordFilter : String) (cursor limit : ℕ) :
    List (String × ℕ) → PageState → PageState
  | [], state => state
  | entry :: rest, state =>
    if !matchesFilters entry.1 levelFilter keywordFilter then
      pageFrom source levelFilter keywordFilter cursor limit rest state
    else if state.skipped < cursor then
      pageFrom source levelFilter keywordFilter cursor limit rest
        { state with skipped := state.skipped + 1 }
    else if state.lines.length ≥ limit then { state with hasMore := true }
    else
      pageFrom source levelFilter keywordFilter cursor limit rest
        { state with lines := state.lines ++ [logLine source entry] }

/-- `page_log_lines`. -/
def pageLogLines (source : String) (rawLines : Slice String) (query : LogQuery) : LogsResponse :=
  let limit := max 1 (min query.limit 500)
  let cursor := (parseUsize query.cursor).getD 0
  let levelFilter := toAsciiLowercase (trim query.level)
  let keywordFilter := toAsciiLowercase (trim query.keyword)
  let state := pageFrom source levelFilter keywordFilter cursor limit
    rawLines.items.zipIdx.reverse {}
  { source := source
    lines := state.lines.reverse
    nextCursor := if state.hasMore then some (toString (cursor + state.lines.length)) else none
    hasMore := state.hasMore }

end Web

end PutGateway
