import Mathlib.Algebra.GroupWithZero.Nat
import Mathlib.Tactic.Common

/-!
# URLs

How the text of a URL is read, alone or relative to another URL.

* `parseHost`: a domain, an address or the name of something else; `Host.text` writes it;
* `readAuthority`: the credentials, the host and the port between the slashes;
* `readPath`: the segments of a path, without those that stand for a directory;
* `parse`: the scheme decides which of these there are. In the special schemes a backslash is a slash,
  and tabs and line breaks are removed from every text.

What a domain with other than ASCII characters becomes is a parameter (`toAscii`): it gets the bytes
of the domain.
-/

namespace Url

/-! ### Schemes and characters -/

/-- The special schemes, with their ports. -/
def specialSchemes : List (String × Option ℕ) :=
  [("ftp", some 21), ("file", none), ("http", some 80), ("https", some 443), ("ws", some 80),
    ("wss", some 443)]

def isSpecial (scheme : List Char) : Bool := specialSchemes.any (·.1.toList = scheme)

def defaultPort (scheme : List Char) : Option ℕ :=
  (specialSchemes.find? (·.1.toList = scheme)).bind (·.2)

def isFile (scheme : List Char) : Bool := scheme = "file".toList

def isSlash (scheme : List Char) (c : Char) : Bool := c = '/' || (isSpecial scheme && c = '\\')

def isPathEnd (c : Char) : Bool := c = '?' || c = '#'

def isHexDigit (c : Char) : Bool :=
  c.isDigit || ('a'.toNat ≤ c.toNat && c.toNat ≤ 'f'.toNat) ||
    ('A'.toNat ≤ c.toNat && c.toNat ≤ 'F'.toNat)

def hexValue (c : Char) : ℕ :=
  if c.isDigit then c.toNat - '0'.toNat else c.toLower.toNat - 'a'.toNat + 10

/-- The number that digits stand for. -/
def numeral (base : ℕ) (digits : List Char) : ℕ :=
  digits.foldl (fun n c => n * base + hexValue c) 0

def isBlank (c : Char) : Bool := c.toNat ≤ 0x20

/-- Blanks around the text and every tab and line break are removed. -/
def clean (text : List Char) : List Char :=
  (((text.dropWhile isBlank).reverse.dropWhile isBlank).reverse).filter
    fun c => !(['\t', '\n', '\r'].contains c)

/-! ### Escapes -/

def c0Set (c : Char) : Bool := c.toNat ≤ 0x1F || 0x7E < c.toNat

def fragmentSet (c : Char) : Bool := c0Set c || " \"<>`".toList.contains c

def querySet (c : Char) : Bool := c0Set c || " \"#<>".toList.contains c

def specialQuerySet (c : Char) : Bool := querySet c || c = '\''

def pathSet (c : Char) : Bool := querySet c || "?^`\x7b\x7d".toList.contains c

def userinfoSet (c : Char) : Bool := pathSet c || "/:;=@[\\]|".toList.contains c

def hexDigit (n : ℕ) : Char := (Nat.digitChar n).toUpper

def escapeByte (b : UInt8) : List Char := ['%', hexDigit (b.toNat / 16), hexDigit (b.toNat % 16)]

/-- The characters of a set are escaped. -/
def percentEncode (set : Char → Bool) (text : List Char) : List Char :=
  text.flatMap fun c => if set c then (String.utf8EncodeChar c).flatMap escapeByte else [c]

def percentDecode : List Char → List UInt8
  | '%' :: a :: b :: cs =>
    if isHexDigit a && isHexDigit b then
      UInt8.ofNat (hexValue a * 16 + hexValue b) :: percentDecode cs
    else String.utf8EncodeChar '%' ++ percentDecode (a :: b :: cs)
  | c :: cs => String.utf8EncodeChar c ++ percentDecode cs
  | [] => []

/-! ### Hosts -/

inductive Host
  | domain (text : List Char)
  | ipv4 (address : ℕ)
  | ipv6 (pieces : List ℕ)
  /-- of a scheme that is not special; the empty host -/
  | other (text : List Char)
  deriving DecidableEq

/-- A number from 0 to 255 without leading zeros. -/
def octet (text : List Char) : Option ℕ :=
  if text ≠ [] ∧ text.all Char.isDigit ∧ (text.head? = some '0' → text = ['0']) ∧
    numeral 10 text ≤ 255 then some (numeral 10 text) else none

/-- Four of them. -/
def dotted (text : List Char) : Option (List ℕ) :=
  if (text.splitOn '.').length = 4 then (text.splitOn '.').mapM octet else none

def ipv4Number (text : List Char) : Option ℕ :=
  let (base, digits) := match text with
    | '0' :: 'x' :: cs | '0' :: 'X' :: cs => (16, cs)
    | '0' :: c :: cs => (8, c :: cs)
    | cs => (10, cs)
  if text ≠ [] ∧ digits.all fun c => isHexDigit c && hexValue c < base then
    some (numeral base digits)
  else none

/-- What is between dots, but for an empty last part. -/
def dotParts (text : List Char) : List (List Char) :=
  let parts := text.splitOn '.'
  if parts.getLast? = some [] ∧ parts.length ≠ 1 then parts.dropLast else parts

def endsInNumber (text : List Char) : Bool :=
  match (dotParts text).getLast? with
  | some last => (last ≠ [] && last.all Char.isDigit) || (ipv4Number last).isSome
  | none => false

def parseIpv4 (text : List Char) : Option ℕ := do
  let numbers ← (dotParts text).mapM ipv4Number
  let last ← numbers.getLast?
  let before := numbers.dropLast
  if numbers.length ≤ 4 ∧ (before.all fun n => n ≤ 255) ∧ last < 256 ^ (5 - numbers.length) then
    some (before.foldl (fun n part => n * 256 + part) 0 * 256 ^ (5 - numbers.length) + last)
  else none

/-- The pieces before and behind `::`, of which at most so many are left; the piece before `::` may be
the zero that it stands for. -/
def ipv6Pieces : ℕ → Bool → List Char → Option (List ℕ × Option (List ℕ))
  | 0, _, cs => if cs = [] then some ([], none) else none
  | _ + 1, _, [] => some ([], none)
  | left + 1, compressed, ':' :: cs =>
    if compressed then none else do
      let (after, _) ← ipv6Pieces left true cs
      some ([0], some after)
  | left + 1, compressed, c :: cs =>
    let digits := ((c :: cs).take 4).takeWhile isHexDigit
    match (c :: cs).drop digits.length with
    | [] => some ([numeral 16 digits], none)
    | '.' :: _ =>
      if digits = [] ∨ left = 0 then none
      else (dotted (c :: cs)).bind fun parts =>
        match parts with
        | [a, b, c, d] => some ([a * 256 + b, c * 256 + d], none)
        | _ => none
    | ':' :: rest =>
      if rest = [] then none else do
        let (before, after) ← ipv6Pieces left compressed rest
        some (numeral 16 digits :: before, after)
    | _ => none

def parseIpv6 (text : List Char) : Option (List ℕ) := do
  let pieces ← match text with
    | ':' :: ':' :: cs => ipv6Pieces 8 false (':' :: cs)
    | ':' :: _ => none
    | cs => ipv6Pieces 8 false cs
  match pieces with
  | (before, some after) =>
    some (before ++ List.replicate (8 - before.length - after.length) 0 ++ after)
  | (before, none) => if before.length = 8 then some before else none

def forbiddenHostSet (c : Char) : Bool := "\x00\t\n\r #/:<>?@[\\]^|".toList.contains c

def forbiddenDomainSet (c : Char) : Bool :=
  forbiddenHostSet c || c.toNat ≤ 0x1F || c = '%' || c = '\x7f'

section Parameter

variable (toAscii : List UInt8 → Option (List Char))

def parseDomain (text : List Char) : Option Host := do
  let domain ← toAscii (percentDecode text)
  if domain = [] ∨ domain.any forbiddenDomainSet then none
  else if endsInNumber domain then (parseIpv4 domain).map .ipv4
  else some (.domain domain)

def parseHost (special : Bool) (text : List Char) : Option Host :=
  match text with
  | '[' :: cs =>
    if cs.getLast? = some ']' then (parseIpv6 cs.dropLast).map .ipv6 else none
  | cs =>
    if special then parseDomain toAscii cs
    else if cs.any forbiddenHostSet then none
    else some (.other (percentEncode c0Set cs))

/-! ### Authorities -/

structure Authority where
  username : List Char
  password : List Char
  host : Option Host
  port : Option ℕ
  deriving DecidableEq

/-- The authority of a file. -/
def Authority.ofHost (host : Host) : Authority := ⟨[], [], some host, none⟩

/-- The host and the text of a port behind it; a colon within brackets belongs to the host. -/
def splitPort : Bool → List Char → List Char × Option (List Char)
  | _, [] => ([], none)
  | inside, c :: cs =>
    if c = ':' ∧ inside = false then ([], some cs)
    else
      let (host, port) := splitPort (if c = '[' then true else if c = ']' then false else inside) cs
      (c :: host, port)

/-- `none` is a port that is not written, or the one of the scheme. -/
def readPort (scheme : List Char) (text : List Char) : Option (Option ℕ) :=
  if text = [] then some none
  else if text.all Char.isDigit ∧ numeral 10 text ≤ 65535 then
    some (if defaultPort scheme = some (numeral 10 text) then none else some (numeral 10 text))
  else none

/-- The text before the last `@`, if there is one, and the text behind it. -/
def splitCredentials (text : List Char) : Option (List Char) × List Char :=
  let behind := (text.reverse.takeWhile (· ≠ '@')).reverse
  if '@' ∈ text then (some (text.take (text.length - behind.length - 1)), behind)
  else (none, text)

def readAuthority (scheme : List Char) (text : List Char) : Option Authority :=
  let (credentials, hostPort) := splitCredentials text
  let (hostText, portText) := splitPort false hostPort
  let username := (credentials.getD []).takeWhile (· ≠ ':')
  let password := ((credentials.getD []).dropWhile (· ≠ ':')).drop 1
  if credentials ≠ none ∧ hostPort = [] then none
  else if hostText = [] ∧ (isSpecial scheme ∨ portText ≠ none) then none
  else do
    let host ← parseHost toAscii (isSpecial scheme) hostText
    let port ← readPort scheme (portText.getD [])
    some ⟨percentEncode userinfoSet username, percentEncode userinfoSet password, some host, port⟩

end Parameter

def isAuthorityEnd (scheme : List Char) (c : Char) : Bool := isSlash scheme c || isPathEnd c

/-! ### Paths -/

def isDriveLetter : List Char → Bool
  | [a, b] => a.isAlpha && (b = ':' || b = '|')
  | _ => false

def isNormalizedDriveLetter : List Char → Bool
  | [a, b] => a.isAlpha && b = ':'
  | _ => false

def startsWithDriveLetter : List Char → Bool
  | a :: b :: cs => isDriveLetter [a, b] && (cs.head?.all fun c => "/\\?#".toList.contains c)
  | _ => false

def isSingleDot (segment : List Char) : Bool :=
  [".", "%2e"].any fun dots => segment.map Char.toLower = dots.toList

def isDoubleDot (segment : List Char) : Bool :=
  ["..", ".%2e", "%2e.", "%2e%2e"].any fun dots => segment.map Char.toLower = dots.toList

/-- The last segment is left out, unless it is the drive of a file. -/
def shorten (scheme : List Char) (segments : List (List Char)) : List (List Char) :=
  match segments with
  | [segment] => if isFile scheme && isNormalizedDriveLetter segment then [segment] else []
  | segments => segments.dropLast

/-- A segment is read; the last one has no slash behind it. -/
def addSegment (scheme : List Char) (before : List (List Char)) (text : List Char) (last : Bool) :
    List (List Char) :=
  let segment := percentEncode pathSet text
  if isDoubleDot segment then
    if last then shorten scheme before ++ [[]] else shorten scheme before
  else if isSingleDot segment then
    if last then before ++ [[]] else before
  else if isFile scheme && before = [] && isDriveLetter segment then
    before ++ [segment.take 1 ++ [':']]
  else before ++ [segment]

def addSegments (scheme : List Char) : List (List Char) → List (List Char) → List (List Char)
  | before, [] => before
  | before, [text] => addSegment scheme before text true
  | before, text :: texts => addSegments scheme (addSegment scheme before text false) texts

def readPath (scheme : List Char) (before : List (List Char)) (text : List Char) :
    List (List Char) :=
  addSegments scheme before (text.splitOnP (isSlash scheme))

/-- The path behind an authority. -/
def pathStart (scheme : List Char) (text : List Char) : List (List Char) :=
  match text with
  | [] => if isSpecial scheme then readPath scheme [] [] else []
  | c :: cs => if isSlash scheme c then readPath scheme [] cs else readPath scheme [] (c :: cs)

inductive Path
  /-- of a URL to which none is relative -/
  | text (text : List Char)
  | segments (segments : List (List Char))
  deriving DecidableEq

def Path.list : Path → List (List Char)
  | .text _ => []
  | .segments path => path

end Url

structure Url where
  scheme : List Char
  authority : Url.Authority
  path : Url.Path
  query : Option (List Char)
  fragment : Option (List Char)
  deriving DecidableEq

namespace Url

/-! ### URLs -/

def readQuery (scheme : List Char) (text : List Char) : Option (List Char) :=
  match text.dropWhile fun c => !isPathEnd c with
  | '?' :: cs => some (percentEncode (if isSpecial scheme then specialQuerySet else querySet)
      (cs.takeWhile (· ≠ '#')))
  | _ => none

def readFragment (text : List Char) : Option (List Char) :=
  match text.dropWhile (· ≠ '#') with
  | _ :: cs => some (percentEncode fragmentSet cs)
  | [] => none

def pathText (text : List Char) : List Char := text.takeWhile fun c => !isPathEnd c

/-- A URL whose path, query and fragment stand in a text. -/
def withPath (scheme : List Char) (authority : Authority) (path : List (List Char))
    (text : List Char) : Url :=
  ⟨scheme, authority, .segments path, readQuery scheme text, readFragment text⟩

section Parameter

variable (toAscii : List UInt8 → Option (List Char))

/-- The authority of a file, and what follows it; the letter of a drive is none. -/
def fileAuthority (text : List Char) : Option (Authority × List Char) :=
  let host := text.takeWhile fun c => !"/\\?#".toList.contains c
  let rest := text.dropWhile fun c => !"/\\?#".toList.contains c
  if isDriveLetter host then some (.ofHost (.other []), text)
  else if host = [] then some (.ofHost (.other []), rest)
  else (parseHost toAscii true host).map fun host =>
    (.ofHost (if host = .domain "localhost".toList then .other [] else host), rest)

/-- The authority behind two slashes, and what follows it. -/
def authorityBehind (scheme : List Char) (text : List Char) : Option (Authority × List Char) :=
  if isFile scheme then fileAuthority toAscii text
  else
    let text := if isSpecial scheme then text.dropWhile (isSlash scheme) else text
    (readAuthority toAscii scheme (text.takeWhile fun c => !isAuthorityEnd scheme c)).map
      fun authority => (authority, text.dropWhile fun c => !isAuthorityEnd scheme c)

def behindSlashes (scheme : List Char) (text : List Char) : Option Url :=
  (authorityBehind toAscii scheme text).map fun (authority, rest) =>
    withPath scheme authority (pathStart scheme (pathText rest)) rest

/-- The directory that a path with a slash in front starts from: the drive of a file, if the path names
none itself. -/
def root (base : Url) (text : List Char) : List (List Char) :=
  match base.path.list with
  | segment :: _ =>
    if isFile base.scheme && isNormalizedDriveLetter segment && !startsWithDriveLetter text then
      [segment]
    else []
  | [] => []

/-- The directory that any other path starts from. -/
def directory (base : Url) (text : List Char) : List (List Char) :=
  if isFile base.scheme && startsWithDriveLetter text then []
  else shorten base.scheme base.path.list

/-- A text without a scheme, relative to a URL; the authority of a file is its host. -/
def relative (base : Url) (text : List Char) : Option Url :=
  match text with
  | [] => some { base with fragment := none }
  | c :: cs =>
    if isSlash base.scheme c then
      match cs with
      | c' :: cs' =>
        if isSlash base.scheme c' then behindSlashes toAscii base.scheme cs'
        else some (withPath base.scheme base.authority
          (readPath base.scheme (root base cs) (pathText cs)) cs)
      | [] => some (withPath base.scheme base.authority (readPath base.scheme (root base []) []) [])
    else if c = '?' then
      some { base with query := readQuery base.scheme text, fragment := readFragment text }
    else if c = '#' then some { base with fragment := readFragment text }
    else some (withPath base.scheme base.authority
      (readPath base.scheme (directory base text) (pathText text)) text)

def readScheme : List Char → Option (List Char × List Char)
  | c :: cs =>
    let isSchemeChar := fun c : Char => c.isAlphanum || ['+', '-', '.'].contains c
    match cs.dropWhile isSchemeChar with
    | ':' :: rest =>
      if c.isAlpha then some ((c :: cs.takeWhile isSchemeChar).map Char.toLower, rest) else none
    | _ => none
  | [] => none

/-- A file that is not relative to another. -/
def absoluteFile (text : List Char) : Option Url :=
  let scheme := "file".toList
  match text with
  | c :: c' :: cs =>
    if isSlash scheme c && isSlash scheme c' then behindSlashes toAscii scheme cs
    else some (withPath scheme (.ofHost (.other [])) (pathStart scheme (pathText text)) text)
  | text => some (withPath scheme (.ofHost (.other [])) (pathStart scheme (pathText text)) text)

def absolute (scheme : List Char) (text : List Char) : Option Url :=
  if isFile scheme then absoluteFile toAscii text
  else if isSpecial scheme then behindSlashes toAscii scheme text
  else
    match text with
    | '/' :: '/' :: cs => behindSlashes toAscii scheme cs
    | '/' :: cs =>
      some (withPath scheme ⟨[], [], none, none⟩ (readPath scheme [] (pathText cs)) cs)
    | text => some ⟨scheme, ⟨[], [], none, none⟩, .text (percentEncode c0Set (pathText text)),
        readQuery scheme text, readFragment text⟩

/-- `new URL(text, base)`; `none` where it throws. -/
def parse (text : List Char) (base : Option Url) : Option Url :=
  match readScheme (clean text), base with
  | some (scheme, rest), some base =>
    if isSpecial scheme && base.scheme = scheme &&
        (isFile scheme || !"//".toList.isPrefixOf rest) then relative toAscii base rest
    else absolute toAscii scheme rest
  | some (scheme, rest), none => absolute toAscii scheme rest
  | none, some base =>
    match base.path, clean text with
    | .text _, '#' :: _ => some { base with fragment := readFragment (clean text) }
    | .text _, _ => none
    | .segments _, text => relative toAscii base text
  | none, none => none

/-! ### Paths that name an authority -/

/-- What follows two slashes at the start of a text. -/
def afterSlashes (scheme : List Char) : List Char → Option (List Char)
  | c :: c' :: cs => if isSlash scheme c && isSlash scheme c' then some cs else none
  | _ => none

variable {toAscii}

/-- A path from the root stays with the authority, unless it names one itself. -/
theorem relative_of_slash {base url : Url} {cs : List Char}
    (h : relative toAscii base ('/' :: cs) = some url) : url.scheme = base.scheme ∧
      ((∃ rest authority more, afterSlashes base.scheme ('/' :: cs) = some rest ∧
          authorityBehind toAscii base.scheme rest = some (authority, more) ∧
          url.authority = authority) ∨
        afterSlashes base.scheme ('/' :: cs) = none ∧ url.authority = base.authority) := by
  have hslash : isSlash base.scheme '/' = true := rfl
  unfold relative at h
  dsimp only at h
  rw [if_pos hslash] at h
  cases cs with
  | nil =>
    obtain rfl := Option.some.inj h
    exact ⟨rfl, Or.inr ⟨rfl, rfl⟩⟩
  | cons c cs =>
    dsimp only at h
    by_cases hc : isSlash base.scheme c = true
    · rw [if_pos hc] at h
      obtain ⟨⟨authority, more⟩, hauthority, rfl⟩ := Option.map_eq_some_iff.1 h
      refine ⟨rfl, Or.inl ⟨cs, authority, more, ?_, hauthority, rfl⟩⟩
      simp [afterSlashes, hslash, hc]
    · rw [if_neg hc] at h
      obtain rfl := Option.some.inj h
      refine ⟨rfl, Or.inr ⟨?_, rfl⟩⟩
      simp [afterSlashes, hc]

/-- A slash at the start stays there. -/
theorem clean_slash (cs : List Char) : ∃ cs', clean ('/' :: cs) = '/' :: cs' := by
  have hend : ∀ before : List Char, ∃ before',
      (before ++ ['/']).dropWhile isBlank = before' ++ ['/'] := by
    intro before
    induction before with
    | nil => exact ⟨[], rfl⟩
    | cons c before ih =>
      by_cases hc : isBlank c = true
      · simpa [hc] using ih
      · exact ⟨c :: before, by simp [hc]⟩
  obtain ⟨before, hbefore⟩ := hend cs.reverse
  have hstart : ('/' :: cs).dropWhile isBlank = '/' :: cs := rfl
  unfold clean
  rw [hstart, List.reverse_cons, hbefore]
  exact ⟨before.reverse.filter fun c => !(['\t', '\n', '\r'].contains c), by simp⟩

/-- A path from the root is relative to a URL with such a path. -/
theorem parse_slash {base url : Url} {cs : List Char}
    (h : parse toAscii ('/' :: cs) (some base) = some url) :
    relative toAscii base (clean ('/' :: cs)) = some url := by
  obtain ⟨cs', hclean⟩ := clean_slash cs
  have hscheme : readScheme ('/' :: cs') = none := by
    unfold readScheme
    dsimp only
    split <;> rfl
  unfold parse at h
  rw [hclean, hscheme] at h
  dsimp only at h
  rw [hclean]
  cases hpath : base.path with
  | text text =>
    rw [hpath] at h
    cases h
  | segments segments =>
    rw [hpath] at h
    exact h

end Parameter

/-! ### What is read of a URL -/

def octetText (n : ℕ) : List Char := Nat.toDigits 10 n

def dottedText (address : ℕ) : List Char :=
  List.intercalate ['.'] ([address / 256 ^ 3 % 256, address / 256 ^ 2 % 256, address / 256 % 256,
    address % 256].map octetText)

/-- How many zeros there are at the start. -/
def zeros (pieces : List ℕ) : ℕ := (pieces.takeWhile (· = 0)).length

/-- Where the first of the longest runs of zeros begins, and how long it is. -/
def longestZeros : List ℕ → ℕ × ℕ
  | [] => (0, 0)
  | piece :: pieces =>
    let (start, length) := longestZeros pieces
    if length ≤ zeros (piece :: pieces) then (0, zeros (piece :: pieces)) else (start + 1, length)

def pieceTexts (pieces : List ℕ) : List Char :=
  List.intercalate [':'] (pieces.map (Nat.toDigits 16))

def ipv6Text (pieces : List ℕ) : List Char :=
  let (start, length) := longestZeros pieces
  if length ≤ 1 then pieceTexts pieces
  else pieceTexts (pieces.take start) ++ "::".toList ++ pieceTexts (pieces.drop (start + length))

def Host.text : Host → List Char
  | domain text | other text => text
  | ipv4 address => dottedText address
  | ipv6 pieces => '[' :: ipv6Text pieces ++ [']']

def hostname (url : Url) : List Char := (url.authority.host.map Host.text).getD []

def pathname (url : Url) : List Char :=
  match url.path with
  | .text text => text
  | .segments segments => segments.flatMap ('/' :: ·)

/-- The credentials, with a sign behind them. -/
def credentialsText (authority : Authority) : List Char :=
  if authority.username = [] ∧ authority.password = [] then []
  else authority.username ++
    (if authority.password = [] then [] else ':' :: authority.password) ++ ['@']

/-- The authority behind two slashes; without one, a path that begins with two slashes is told from an
authority. -/
def authorityOrDot (url : Url) : List Char :=
  match url.authority.host with
  | some host => "//".toList ++ credentialsText url.authority ++ host.text ++
      ((url.authority.port.map fun port => ':' :: Nat.toDigits 10 port).getD [])
  | none =>
    match url.path with
    | .segments ([] :: _ :: _) => "/.".toList
    | _ => []

/-- `url.href`. -/
def href (url : Url) : List Char :=
  url.scheme ++ ':' :: authorityOrDot url ++ pathname url ++
    ((url.query.map ('?' :: ·)).getD []) ++ (url.fragment.map ('#' :: ·)).getD []

/-! ### Addresses of four numbers -/

theorem octet_octetText : ∀ n < 256, octet (octetText n) = some n := by decide +kernel

theorem isDigit_of_mem_octetText {n : ℕ} {c : Char} (h : c ∈ octetText n) : c.isDigit = true :=
  Nat.isDigit_of_mem_toDigits (by decide) (by decide) h

/-- The numbers that an address is written with. -/
def octets (address : ℕ) : List ℕ :=
  [address / 256 ^ 3 % 256, address / 256 ^ 2 % 256, address / 256 % 256, address % 256]

theorem lt_of_mem_octets {address n : ℕ} (h : n ∈ octets address) : n < 256 := by
  simp only [octets, List.mem_cons, List.not_mem_nil, or_false] at h
  rcases h with rfl | rfl | rfl | rfl <;> omega

theorem splitOn_dottedText (address : ℕ) :
    (dottedText address).splitOn '.' = (octets address).map octetText := by
  refine List.splitOn_intercalate '.' (fun text htext hdot => ?_) (by simp)
  obtain ⟨n, -, rfl⟩ := List.mem_map.1 htext
  exact absurd (isDigit_of_mem_octetText hdot) (by decide)

/-- What is written is read. -/
theorem dotted_dottedText (address : ℕ) : dotted (dottedText address) = some (octets address) := by
  have hparts : ((octets address).map octetText).mapM octet = some (octets address) := by
    have hread : ∀ ns : List ℕ, (∀ n ∈ ns, n < 256) → (ns.map octetText).mapM octet = some ns := by
      intro ns hns
      induction ns with
      | nil => rfl
      | cons n ns ih =>
        rw [List.map_cons, List.mapM_cons, octet_octetText n (hns n List.mem_cons_self),
          ih fun m hm => hns m (List.mem_cons_of_mem _ hm)]
        rfl
    exact hread _ fun n hn => lt_of_mem_octets hn
  unfold dotted
  rw [splitOn_dottedText, if_pos (by simp [octets]), hparts]

/-- The text consists of digits and dots. -/
theorem mem_dottedText {address : ℕ} {c : Char} (h : c ∈ dottedText address) :
    c.isDigit = true ∨ c = '.' := by
  simp only [dottedText, List.intercalate, List.map_cons, List.map_nil, List.intersperse,
    List.flatten_cons, List.flatten_nil, List.mem_append, List.mem_cons, List.not_mem_nil,
    or_false] at h
  rcases h with h | h | h | h | h | h | h
  · exact Or.inl (isDigit_of_mem_octetText h)
  · exact Or.inr h
  · exact Or.inl (isDigit_of_mem_octetText h)
  · exact Or.inr h
  · exact Or.inl (isDigit_of_mem_octetText h)
  · exact Or.inr h
  · exact Or.inl (isDigit_of_mem_octetText h)

theorem octet_lt {text : List Char} {n : ℕ} (h : octet text = some n) : n < 256 := by
  unfold octet at h
  split at h
  · next hvalid =>
    obtain rfl := Option.some.inj h
    have hle := hvalid.2.2.2
    omega
  · cases h

/-- There are four numbers, and they are small. -/
theorem dotted_spec {text : List Char} {parts : List ℕ} (h : dotted text = some parts) :
    parts.length = 4 ∧ ∀ n ∈ parts, n < 256 := by
  have hread : ∀ (texts : List (List Char)) (ns : List ℕ), texts.mapM octet = some ns →
      ns.length = texts.length ∧ ∀ n ∈ ns, n < 256 := by
    intro texts
    induction texts with
    | nil =>
      rintro ns h
      obtain rfl := Option.some.inj h
      simp
    | cons text texts ih =>
      intro ns h
      rw [List.mapM_cons] at h
      obtain ⟨n, hn, h⟩ := Option.bind_eq_some_iff.1 h
      obtain ⟨ns', hns', h⟩ := Option.bind_eq_some_iff.1 h
      obtain rfl := Option.some.inj h
      obtain ⟨hlength, hsmall⟩ := ih ns' hns'
      refine ⟨by simp [hlength], fun m hm => ?_⟩
      rcases List.mem_cons.1 hm with rfl | hm
      · exact octet_lt hn
      · exact hsmall m hm
  unfold dotted at h
  split at h
  · next hlength =>
    obtain ⟨hparts, hsmall⟩ := hread _ _ h
    exact ⟨hparts.trans hlength, hsmall⟩
  · cases h

end Url
