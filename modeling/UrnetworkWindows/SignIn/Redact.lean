/-
The redaction that keeps links out of the log (`AuthLink.h`: `LinkInCommandLine`,
`RedactUrl`, `RedactCommandLine`, `RedactLogText`).

The scanner is generic in the code unit, and nothing of what it does depends on the width
of one: a text is a list of units, each a number, of 16 bits in a command line and of 8 in
the log.  A scan from a position is a scan of what is left of the text there.
-/
import UrnetworkWindows.Lib.Scan
import UrnetworkWindows.Lib.Text

namespace UrnetworkWindows.SignIn.Redact

open Lib

/-- A text, in code units. -/
abbrev Text := List ℕ

/-! ### Units -/

/-- `Lower`. -/
def lower (c : ℕ) : ℕ := if 65 ≤ c ∧ c ≤ 90 then c - 65 + 97 else c

/-- `EqualsLower`. -/
def equalsLower (text lowerText : Text) : Bool := decide (text.map lower = lowerText)

/-- A letter, a digit, or one of `.`, `_`, `+` and `-`. -/
def isPlain (c : ℕ) : Bool :=
  (65 ≤ c && c ≤ 90) || (97 ≤ c && c ≤ 122) || (48 ≤ c && c ≤ 57) || c == 46 || c == 95 ||
    c == 43 || c == 45

/-- A scheme or a host that the log may echo. -/
def isPlainToken (token : Text) (maxUnits : ℕ) : Bool :=
  decide (token.length ≤ maxUnits) && token.all isPlain

def isDigit (c : ℕ) : Bool := 48 ≤ c && c ≤ 57

/-- The text as ASCII, every other unit as `~`. -/
def asciiOnly (text : Text) : Text := text.map fun c => if c < 0x80 then c else 126

/-! ### Finding a link -/

def startsIgnoringCase (lowerScheme line : Text) : Bool :=
  equalsLower (line.take lowerScheme.length) lowerScheme

def findSchemeIgnoringCase (lowerScheme line : Text) : Option ℕ :=
  findSuffix (startsIgnoringCase lowerScheme) line

/-- The link that a text begins with, up to `LinkEnd`. -/
def linkAt (enders line : Text) : Text := line.takeWhile fun c => decide (c ∉ enders)

/-- A space, a tab and a quote. -/
def lineEnders : Text := units " \t\""

/-- The same and the ends of a line. -/
def logEnders : Text := units " \t\"\r\n"

/-- The first link in a command line, with where it begins. -/
def linkInCommandLine (line : Text) : Option (ℕ × Text) :=
  (findSchemeIgnoringCase (units "urnetwork://") line).map fun first =>
    (first, linkAt lineEnders (line.drop first))

/-! ### Redacting one -/

/-- `std::to_string` of a size. -/
def decimal (size : ℕ) : Text := (Nat.toDigits 10 (size % 2 ^ 64)).map Char.toNat

/-- Where a scheme that the log may echo ends: before the first `://`. -/
def schemeEnd (url : Text) : Option ℕ :=
  (findSuffix (fun rest => (units "://").isPrefixOf rest) url).filter fun stop =>
    decide (0 < stop) && isPlainToken (url.take stop) 16

/-- The host that the log echoes, of what follows `://`. -/
def shownHost (rest : Text) : Text :=
  let host := rest.takeWhile fun c => decide (c ∉ units "/?#:@")
  let plainStop :=
    match rest.drop host.length with
    | [] => true
    | stop :: _ => decide (stop ∈ units "/?#")
  if plainStop && isPlainToken host 32 then host else units "*"

/-- What stands for a link. -/
def tag (size : ℕ) : Text := units "[redacted " ++ (decimal size ++ units " chars]")

/-- `RedactUrl`. -/
def redactUrl (url : Text) : Text :=
  match schemeEnd url with
  | some stop =>
    url.take stop ++
      (units "://" ++ (shownHost (url.drop (stop + 3)) ++ (units " " ++ tag url.length)))
  | none => tag url.length

/-- The text goes on as it does after a host that `RedactUrl` wrote. -/
def goesOnRedacted (after : Text) : Bool :=
  let digits := (after.drop 11).takeWhile isDigit
  decide (after.take 11 = units " [redacted ") && !digits.isEmpty &&
    decide ((after.drop (11 + digits.length)).take 7 = units " chars]")

/-- `IsRedactedAlready`. -/
def isRedactedAlready (link after : Text) : Bool :=
  match schemeEnd link with
  | some stop =>
    let host := link.drop (stop + 3)
    (decide (host = units "*") || isPlainToken host 32) && goesOnRedacted after
  | none => false

/-- What becomes of a link, by what follows it. -/
def reduce (link after : Text) : Text :=
  if isRedactedAlready (asciiOnly link) (asciiOnly (after.take 40)) then link
  else redactUrl (asciiOnly link)

/-! ### Redacting them all -/

/-- The loop of `RedactLinks`, on what is left of the text. -/
def redactLoop (lowerScheme enders : Text) : ℕ → Text → Text
  | 0, text => text
  | fuel + 1, text =>
    match findSchemeIgnoringCase lowerScheme text with
    | none => text
    | some found =>
      let link := linkAt enders (text.drop found)
      let after := (text.drop found).drop link.length
      text.take found ++ (reduce link after ++ redactLoop lowerScheme enders fuel after)

/-- `RedactLinks`.  No round of the loop leaves as much text as it found, so there are
rounds enough. -/
def redactLinks (lowerScheme enders text : Text) : Text :=
  redactLoop lowerScheme enders text.length text

/-- The scheme, without its slashes. -/
def kScheme : Text := units "urnetwork:"

def redactCommandLine (line : Text) : Text := redactLinks kScheme lineEnders line

def redactLogText (text : Text) : Text := redactLinks kScheme logEnders text

end UrnetworkWindows.SignIn.Redact
