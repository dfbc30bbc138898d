/-
Settings as a TOML document. Of all TOML can say, settings are only lines
`key = integer` with one of the four known keys, each key at most once; keys
may be quoted, and blank lines and comments may stand anywhere. Any other
document, well-formed TOML or not, is refused as a whole, so this reader knows
no more of TOML than that.

A text of nothing but blanks, in the sense of Unicode, gives the defaults.
-/
import StreamMux.Config
import StreamMux.Config.Integer
import StreamMux.Text.Blank

namespace StreamMux.Config.Document

/-- The lines of a text. A carriage return belongs to the line unless a line
feed follows it. -/
def lines : List Char → List (List Char)
  | [] => [[]]
  | '\r' :: '\n' :: rest => [] :: lines rest
  | '\n' :: rest => [] :: lines rest
  | c :: rest =>
    match lines rest with
    | l :: ls => (c :: l) :: ls
    | [] => [[c]]

/-- Blank inside a line: space and tab. -/
def isSpace (c : Char) : Bool := c == ' ' || c == '\t'

/-- What a comment may hold: no control character but the tab. -/
def isCommentChar (c : Char) : Bool := c == '\t' || (c.toNat ≥ 0x20 && c.toNat != 0x7F)

/-- Whether nothing but blanks and perhaps a comment is left of a line. -/
def endsLine (cs : List Char) : Bool :=
  match cs.dropWhile isSpace with
  | [] => true
  | '#' :: comment => comment.all isCommentChar
  | _ => false

/-- The character with this number, if there is one. -/
def charOf? (n : Nat) : Option Char := if n.isValidChar then some (Char.ofNat n) else none

/-- The number spelt by exactly these hexadecimal digits. -/
def hexNumber? (cs : List Char) : Option Nat :=
  cs.foldlM (fun acc c => (Integer.digitValue? c).map (16 * acc + ·)) 0

/-- Reads the rest of a key in double quotes, up to and with the closing one. -/
def basicKey : List Char → Option (List Char × List Char)
  | '"' :: rest => some ([], rest)
  | '\\' :: 'x' :: a :: b :: rest => do
    let c ← (← hexNumber? [a, b]) |> charOf?
    let (key, rest) ← basicKey rest
    return (c :: key, rest)
  | '\\' :: 'u' :: a :: b :: c :: d :: rest => do
    let c ← (← hexNumber? [a, b, c, d]) |> charOf?
    let (key, rest) ← basicKey rest
    return (c :: key, rest)
  | '\\' :: 'U' :: a :: b :: c :: d :: e :: f :: g :: h :: rest => do
    let c ← (← hexNumber? [a, b, c, d, e, f, g, h]) |> charOf?
    let (key, rest) ← basicKey rest
    return (c :: key, rest)
  | '\\' :: _ => none
  | c :: rest => do
    let (key, rest) ← basicKey rest
    return (c :: key, rest)
  | [] => none

/-- What a key without quotes is made of. -/
def isBareKeyChar (c : Char) : Bool := c.isAlphanum || c == '_' || c == '-'

/-- Reads a key and answers it with the rest of the line. Escapes that no known
key needs are not read: with them the key is refused here and not by name. -/
def key? : List Char → Option (String × List Char)
  | '"' :: rest => (basicKey rest).map fun (key, rest) => (String.ofList key, rest)
  | '\'' :: rest =>
    match rest.dropWhile (· != '\'') with
    | _ :: after => some (String.ofList (rest.takeWhile (· != '\'')), after)
    | [] => none
  | cs =>
    let key := cs.takeWhile isBareKeyChar
    if key.isEmpty then none else some (String.ofList key, cs.dropWhile isBareKeyChar)

/-- Reads the value after the equals sign, up to the end of the line. -/
def value? (cs : List Char) : Option Int :=
  let cs := cs.dropWhile isSpace
  let inValue (c : Char) : Bool := !isSpace c && c != '#'
  if endsLine (cs.dropWhile inValue) then Integer.parse (cs.takeWhile inValue) else none

/-- Reads `key = integer`. -/
def entry? (cs : List Char) : Option (String × Int) := do
  let (key, rest) ← key? cs
  match rest.dropWhile isSpace with
  | '=' :: rest => return (key, ← value? rest)
  | _ => none

/-- An integer that is a natural number below `bound`. -/
def within (bound : Nat) (n : Int) : Option Nat :=
  if 0 ≤ n && n < bound then some n.toNat else none

/-- Puts a value under its key, unless the key is unknown or taken or the value
is out of range. -/
def set (s : Settings) (key : String) (n : Int) : Option Settings :=
  match key with
  | "initial_window" =>
    if s.initialWindow.isSome then none
    else (within UInt32.size n).map fun n => { s with initialWindow := some n.toUInt32 }
  | "max_frame_payload" =>
    if s.maxFramePayload.isSome then none
    else (within UInt32.size n).map fun n => { s with maxFramePayload := some n.toUInt32 }
  | "window_update_percent" =>
    if s.windowUpdatePercent.isSome then none
    else (within UInt8.size n).map fun n => { s with windowUpdatePercent := some n.toUInt8 }
  | "accept_backlog" =>
    if s.acceptBacklog.isSome then none
    else (within UInt64.size n).map fun n => { s with acceptBacklog := some n }
  | _ => none

/-- Adds one line of the document to the settings. -/
def addLine (s : Settings) (line : List Char) : Option Settings :=
  if endsLine line then some s
  else do
    let (key, n) ← entry? (line.dropWhile isSpace)
    set s key n

/-- Reads a document; a byte order mark in front of it does not count. -/
def parse? (text : List Char) : Option Settings :=
  let text := match text with
    | '\uFEFF' :: rest => rest
    | text => text
  (lines text).foldlM addLine .empty

end Document

/-- The settings a document gives, whoever reads it. -/
def readDocument (read? : List Char → Option Settings) (text : String) :
    Except ConfigError Config :=
  if text.toList.all Text.isBlank then .ok default
  else match read? text.toList with
    | none => .error .document
    | some s => s.resolve

def ofDocument (text : String) : Except ConfigError Config := readDocument Document.parse? text

end StreamMux.Config
