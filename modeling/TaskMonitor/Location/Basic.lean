import TaskMonitor.Location.Host

/-! # Locations

Addresses of the web, as browsers read them. -/

namespace TaskMonitor

/-- A location without the credentials that it may hold, which are never shown. -/
structure Location where
  scheme : List Char
  host : Option (List Char)
  /-- Tells the server from others on its host; none when it is the usual one. -/
  serverNumber : Option Nat
  path : List Char
  query : Option (List Char)
  fragment : Option (List Char)
  deriving DecidableEq, Repr

namespace Location

/-! ## Parts -/

def usualNumber? (scheme : List Char) : Option Nat :=
  [("http", 80), ("https", 443), ("ws", 80), ("wss", 443), ("ftp", 21)].lookup
    (String.ofList scheme)

/-- The text without blanks and control characters at its ends, and without tabs and line breaks. -/
def clean (text : List Char) : List Char :=
  let skip (c : Char) : Bool := c.toNat ≤ 0x20
  let trimmed := ((text.dropWhile skip).reverse.dropWhile skip).reverse
  trimmed.filter fun c => c ≠ '\t' ∧ c ≠ '\n' ∧ c ≠ '\r'

def isLetter (c : Char) : Bool := ('a' ≤ c && c ≤ 'z') || ('A' ≤ c && c ≤ 'Z')

def isSchemeChar (c : Char) : Bool :=
  isLetter c || Text.isDigit c || c = '+' || c = '-' || c = '.'

def scheme? (text : List Char) : Option (List Char × List Char) :=
  let name := text.takeWhile isSchemeChar
  match name, text.drop name.length with
  | first :: _, ':' :: rest => if isLetter first then some (name.map Host.lower, rest) else none
  | _, _ => none

def splitBefore (stop : Char → Bool) (text : List Char) : List Char × List Char :=
  (text.takeWhile fun c => !stop c, text.dropWhile fun c => !stop c)

def afterLast (mark : Char) (text : List Char) : List Char :=
  (text.reverse.takeWhile (· ≠ mark)).reverse

/-- Parts a host from a server number at the last colon that is not between brackets. -/
def splitNumber (text : List Char) : List Char × Option (List Char) :=
  let last := (text.reverse.takeWhile fun c => c ≠ ':' ∧ c ≠ ']').reverse
  let front := text.take (text.length - last.length)
  if front.getLast? = some ':' then (front.dropLast, some last) else (text, none)

def serverNumber? (text : Option (List Char)) : Option (Option Nat) :=
  match text with
  | none => some none
  | some [] => some none
  | some digits =>
    if digits.all Text.isDigit then
      let n := digits.foldl (fun n c => n * 10 + Text.digitValue c) 0
      if n < halfWordLimit then some (some n) else none
    else none

def authority? (usual : Option Nat) (host? : List Char → Option (List Char)) (text : List Char) :
    Option (List Char × Option Nat) := do
  let (host, digits) := splitNumber (afterLast '@' text)
  let number ← serverNumber? digits
  return (← host? host, if number = usual then none else number)

/-! ## Paths -/

def isDot (segment : List Char) : Bool :=
  [['.'], ['%', '2', 'e']].contains (segment.map Host.lower)

def isDoubleDot (segment : List Char) : Bool :=
  [['.', '.'], ['.', '%', '2', 'e'], ['%', '2', 'e', '.'],
    ['%', '2', 'e', '%', '2', 'e']].contains (segment.map Host.lower)

/-- The segments that are left, latest first, after those in `read`. -/
def resolve (read : List (List Char)) : List (List Char) → List (List Char)
  | [] => read
  | segment :: rest =>
    let ends := rest.isEmpty
    if isDoubleDot segment then resolve (if ends then [] :: read.tail else read.tail) rest
    else if isDot segment then resolve (if ends then [] :: read else read) rest
    else resolve (Percent.encode Percent.pathSet segment :: read) rest

/-- A path of segments after slashes, as it is asked for. -/
def resolved (text : List Char) : List Char :=
  '/' :: Host.join '/' (resolve [] (Host.splitAt '/' text)).reverse

def slashes (text : List Char) : List Char := text.map fun c => if c = '\\' then '/' else c

/-! ## Reading -/

structure Tail where
  path : List Char
  query : Option (List Char)
  fragment : Option (List Char)

def Tail.ofText (text : List Char) : Tail :=
  let (front, fragment) := splitBefore (· = '#') text
  let (path, query) := splitBefore (· = '?') front
  ⟨path, query.tail?, fragment.tail?⟩

def queryText (quotes : Bool) (text : List Char) : List Char :=
  Percent.encode (if quotes then '\'' :: Percent.querySet else Percent.querySet) text

def fragmentText (text : List Char) : List Char := Percent.encode Percent.fragmentSet text

def isSlash (c : Char) : Bool := c = '/' || c = '\\'

def endsHost (c : Char) : Bool := isSlash c || c = '?' || c = '#'

/-- A location with a usual server number: slashes of either kind before the host count for
nothing. -/
def ofUsual? (scheme : List Char) (usual : Nat) (text : List Char) : Option Location := do
  let (authority, rest) := splitBefore endsHost (text.dropWhile isSlash)
  let (host, number) ← authority? (some usual) Host.ofText? authority
  let tail := Tail.ofText rest
  return ⟨scheme, some host, number, resolved (slashes tail.path).tail,
    tail.query.map (queryText true), tail.fragment.map fragmentText⟩

/-- The location of a file. A host follows two slashes; the machine itself is no host. -/
def ofFile? (scheme text : List Char) : Option Location := do
  let (authority, rest) := match text with
    | a :: b :: rest => if isSlash a && isSlash b then splitBefore endsHost rest else ([], text)
    | _ => ([], text)
  let host ← if authority.isEmpty then some [] else Host.ofText? authority
  let tail := Tail.ofText rest
  let path := slashes tail.path
  return ⟨scheme, some (if host = "localhost".toList then [] else host), none,
    resolved (if path.head? = some '/' then path.tail else path), tail.query.map (queryText true),
    tail.fragment.map fragmentText⟩

/-- A location of any other scheme. Without slashes, its path is a mere text. -/
def ofOther? (scheme : List Char) (text : List Char) : Option Location :=
  let build (host : Option (List Char)) (number : Option Nat) (tail : Tail)
      (path : List Char) : Location :=
    ⟨scheme, host, number, path, tail.query.map (queryText false), tail.fragment.map fragmentText⟩
  match text with
  | '/' :: '/' :: rest => do
    let (authority, rest) := splitBefore (fun c => c = '/' || c = '?' || c = '#') rest
    let tail := Tail.ofText rest
    let path := if tail.path.isEmpty then [] else resolved tail.path.tail
    if authority.isEmpty then return build (some []) none tail path
    else
      let (host, number) ← authority? none Host.ofAnyText? authority
      if host.isEmpty then none else return build (some host) number tail path
  | '/' :: rest =>
    let tail := Tail.ofText rest
    some (build none none tail (resolved tail.path))
  | _ =>
    let tail := Tail.ofText text
    some (build none none tail (Percent.encode [] tail.path))

def ofText? (text : List Char) : Option Location := do
  let (scheme, rest) ← scheme? (clean text)
  match usualNumber? scheme with
  | some usual => ofUsual? scheme usual rest
  | none => if scheme = "file".toList then ofFile? scheme rest else ofOther? scheme rest

/-! ## Writing -/

def marked (mark : Char) : Option (List Char) → List Char
  | some text => mark :: text
  | none => []

def hasHost (l : Location) : Bool := l.host.any (!·.isEmpty)

def target (l : Location) : List Char := l.path ++ marked '?' l.query

def text (l : Location) : List Char :=
  let authority := match l.host with
    | some host => ['/', '/'] ++ host ++ marked ':' (l.serverNumber.map (Nat.toDigits 10))
    | none => []
  l.scheme ++ ':' :: authority ++ l.target ++ marked '#' l.fragment

def addQuery (l : Location) (part : List Char) : Location :=
  { l with query := some (match l.query with
      | some [] => part
      | some query => query ++ '&' :: part
      | none => part) }

def dropEmptyQuery (l : Location) : Location :=
  if l.query = some [] then { l with query := none } else l

end Location

end TaskMonitor
