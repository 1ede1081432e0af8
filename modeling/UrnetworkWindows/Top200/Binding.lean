/-
The check of a pasted fleet binding and its signing (`Top200Binding.h`).

The JSON parser is a parameter.  It reports the name of every member, with the depth of the
object it is in, to the callback that counts the top-level names, and it gives the top-level
pairs in their order; the document is the map they make, a later pair over an earlier one.

`signChecked` runs in the signer's own monad, so the signer may do anything.
-/
import UrnetworkWindows.Lib.Json
import UrnetworkWindows.Lib.Maps
import UrnetworkWindows.Lib.Text

namespace UrnetworkWindows.Top200

open Lib Std

def kMaxBindingTextLength : ℕ := 16 * 1024

inductive Verdict
  | empty
  | invalid
  | noKey
  | otherDevice
  | valid
deriving DecidableEq

/-- The fields of a binding, as the review shows them. -/
structure Binding where
  chainId : UInt64 := 0
  netuid : UInt64 := 0
  coordinator : List UInt8 := []
  fleetId : List UInt8 := []
  hotkey : List UInt8 := []
  clientId : List UInt8 := []
  clientKey : List UInt8 := []
  generation : UInt64 := 0
  validFromEpoch : UInt64 := 0
  validToEpoch : UInt64 := 0
  commitmentHash : List UInt8 := []
deriving DecidableEq

structure Check where
  verdict : Verdict
  trimmed : List UInt8
  binding : Option Binding
deriving DecidableEq

/-! ### Text -/

def isSpace (c : UInt8) : Bool := c == 32 || c == 9 || c == 13 || c == 10

def isHexDigit (c : UInt8) : Bool :=
  ('0'.toUInt8 ≤ c && c ≤ '9'.toUInt8) || ('a'.toUInt8 ≤ c && c ≤ 'f'.toUInt8) ||
    ('A'.toUInt8 ≤ c && c ≤ 'F'.toUInt8)

def lower (s : List UInt8) : List UInt8 := s.map lowerNarrow

/-- `0x` and so many hex digits of either case. -/
def isPrefixedHex (s : List UInt8) (digits : ℕ) : Bool :=
  s.length == 2 + digits && s.take 2 == narrow "0x" && (s.drop 2).all isHexDigit

/-- Whether a uuid has a dash there. -/
def isDash (i : ℕ) : Bool := i == 8 || i == 13 || i == 18 || i == 23

/-- The digits of a uuid, from its `i`-th character on. -/
def uuidDigits (i : ℕ) : List UInt8 → Option (List UInt8)
  | [] => some []
  | c :: rest =>
    if isDash i then
      if c ≠ '-'.toUInt8 then none else uuidDigits (i + 1) rest
    else
      if !isHexDigit c then none else (uuidDigits (i + 1) rest).map (c :: ·)

/-- A client id as its digits in lower case, from a uuid or from `0x` and the digits. -/
def clientIdHex (id : List UInt8) : Option (List UInt8) :=
  if isPrefixedHex id 32 then some (lower (id.drop 2))
  else if id.length ≠ 36 then none
  else (uuidDigits 0 id).map lower

/-- An integer that is not negative. -/
def whole : Json → Option UInt64
  | .unsigned n => some n
  | .integer n => if 0 ≤ n then some n.toUInt64 else none
  | _ => none

def text : Json → Option (List UInt8)
  | .string s => some s.data.toList
  | _ => none

def trim (s : List UInt8) : List UInt8 := (s.dropWhile isSpace).rdropWhile isSpace

/-! ### The parser's report -/

/-- The name of a member, and the depth of the object it is in. -/
structure KeyEvent where
  depth : ℕ
  key : List UInt8

/-- What the parser reports of an object: the names it comes to, and the top-level pairs. -/
structure Report where
  events : List KeyEvent
  pairs : List (List UInt8 × Json)
  topLevel : (events.filter (·.depth = 1)).map KeyEvent.key = pairs.map Prod.fst

inductive Parsed
  | discarded
  | object (report : Report)
  | other (value : Json)

/-- What the callback has seen. -/
structure Seen where
  duplicate : Bool
  keys : ExtTreeSet (List UInt8)

def onEvent (seen : Seen) (event : KeyEvent) : Seen :=
  if event.depth = 1 then
    if event.key ∈ seen.keys then { seen with duplicate := true }
    else { seen with keys := seen.keys.insert event.key }
  else seen

def Report.seen (report : Report) : Seen :=
  report.events.foldl onEvent { duplicate := false, keys := ∅ }

abbrev Document : Type := ExtTreeMap (List UInt8) Json

/-- The document of the pairs. -/
def Report.document (report : Report) : Document := ExtTreeMap.ofList report.pairs

/-! ### The check -/

def named (document : Document) (name : String) : Option Json := document[narrow name]?

/-- The members under the names of the fields. -/
structure NamedFields where
  chainId : Json
  netuid : Json
  coordinator : Json
  fleetId : Json
  hotkey : Json
  clientId : Json
  clientKey : Json
  generation : Json
  validFrom : Json
  validTo : Json
  commitment : Json

def namedFields (document : Document) : Option NamedFields := do
  let chainId ← named document "chain_id"
  let netuid ← named document "netuid"
  let coordinator ← named document "coordinator"
  let fleetId ← named document "fleet_id"
  let hotkey ← named document "hotkey"
  let clientId ← named document "client_id"
  let clientKey ← named document "client_key"
  let generation ← named document "generation"
  let validFrom ← named document "valid_from_epoch"
  let validTo ← named document "valid_to_epoch"
  let commitment ← named document "commitment_hash"
  return ⟨chainId, netuid, coordinator, fleetId, hotkey, clientId, clientKey, generation,
    validFrom, validTo, commitment⟩

/-- The binding with the numbers of the members, if each is one and in its range. -/
def readNumbers (members : NamedFields) : Option Binding := do
  let chainValue ← whole members.chainId
  let netuidValue ← whole members.netuid
  let generationValue ← whole members.generation
  let fromValue ← whole members.validFrom
  let toValue ← whole members.validTo
  if chainValue = 0 ∨ 65535 < netuidValue ∨ generationValue = 0 ∨ toValue < fromValue then none
  else some {
    chainId := chainValue
    netuid := netuidValue
    generation := generationValue
    validFromEpoch := fromValue
    validToEpoch := toValue }

/-- The binding with the texts of the members too, if each is one and well formed. -/
def readTexts (members : NamedFields) (binding : Binding) : Option Binding := do
  let coordinatorText ← text members.coordinator
  let fleetText ← text members.fleetId
  let hotkeyText ← text members.hotkey
  let idText ← text members.clientId
  let keyText ← text members.clientKey
  let commitmentText ← text members.commitment
  if !isPrefixedHex coordinatorText 40 || !isPrefixedHex fleetText 64 ||
      !isPrefixedHex hotkeyText 64 || !isPrefixedHex keyText 64 ||
      !isPrefixedHex commitmentText 64 || (clientIdHex idText).isNone then none
  else some { binding with
    coordinator := coordinatorText
    fleetId := fleetText
    hotkey := hotkeyText
    clientId := idText
    clientKey := keyText
    commitmentHash := commitmentText }

/-- The fields of a document, if each is there and well formed. -/
def readBinding (document : Document) : Option Binding := do
  let members ← namedFields document
  let binding ← readNumbers members
  readTexts members binding

/-- The verdict on the fields: the key's presence, then the device's id and key. -/
def deviceVerdict (binding : Binding) (deviceClientId deviceClientKeyHex : List UInt8) : Verdict :=
  if deviceClientKeyHex = [] then .noKey
  else if clientIdHex deviceClientId = none ∨
      clientIdHex binding.clientId ≠ clientIdHex deviceClientId ∨
      lower binding.clientKey ≠ lower deviceClientKeyHex then .otherDevice
  else .valid

/-- The fields of the report, if it is a binding. -/
def Report.binding (report : Report) : Option Binding :=
  if report.seen.duplicate then none
  else if report.document.size ≠ 11 then none
  else readBinding report.document

def validate (parse : List UInt8 → Parsed)
    (pasted deviceClientId deviceClientKeyHex : List UInt8) : Check :=
  let trimmed := trim pasted
  let invalid : Check := { verdict := .invalid, trimmed, binding := none }
  if trimmed = [] then { verdict := .empty, trimmed, binding := none }
  else if kMaxBindingTextLength < trimmed.length then invalid
  -- nothing before the object, such as a byte order mark: the first byte opens it
  else if trimmed.head? ≠ some 0x7B then invalid
  else
    match parse trimmed with
    | .discarded => invalid
    | .other _ => invalid
    | .object report =>
      match report.binding with
      | none => invalid
      | some binding =>
        { verdict := deviceVerdict binding deviceClientId deviceClientKeyHex
          trimmed
          binding := some binding }

/-! ### The signing -/

def isSignature (signature : List UInt8) : Bool := isPrefixedHex signature 128

def payload (trimmedBinding signature : List UInt8) : List UInt8 :=
  narrow "\x7b\"binding\":" ++ trimmedBinding ++ narrow ",\"client_signature\":\"" ++ signature ++
    narrow "\"\x7d"

structure Signed where
  ok : Bool
  payload : List UInt8
  detail : List UInt8
deriving DecidableEq

/-- What a signer ends with: a signature, an exception with a text, or another. -/
inductive Answer
  | signature (signature : List UInt8)
  | exception (what : List UInt8)
  | other

/-- What is made of the signer's answer. -/
def finish (trimmed : List UInt8) : Answer → Signed
  | .exception what =>
    { ok := false, payload := [], detail := if what = [] then narrow "error" else what }
  | .other => { ok := false, payload := [], detail := narrow "error" }
  | .signature signature =>
    if signature = [] then { ok := false, payload := [], detail := narrow "empty signature" }
    else if !isSignature signature then
      { ok := false, payload := [], detail := narrow "malformed signature" }
    else { ok := true, payload := Top200.payload trimmed signature, detail := [] }

def signChecked {m : Type → Type} [Monad m] (check : Check) (signer : List UInt8 → m Answer) :
    m Signed := do
  if check.verdict ≠ .valid then return { ok := false, payload := [], detail := [] }
  let answer ← signer check.trimmed
  return finish check.trimmed answer

end UrnetworkWindows.Top200
