import ChatGateway.Json.Parser
import ChatGateway.Text.Search

/-!
# Addresses

Whether a text is an absolute URL, and its scheme.  Schemes of the web need a host; any other
scheme may go without.  This reader belongs to the sample toolkit.
-/

namespace ChatGateway.Url

/-- Why a text is no URL. -/
inductive Fault where
  | relative
  | emptyHost
  | invalidPort
  | invalidHost
  | invalidIpv4
  | invalidIpv6
  deriving DecidableEq, Repr, Inhabited

/-- The text for a fault. -/
def Fault.message : Fault → String
  | .relative => "relative URL without a base"
  | .emptyHost => "empty host"
  | .invalidPort => "invalid port number"
  | .invalidHost => "invalid international domain name"
  | .invalidIpv4 => "invalid IPv4 address"
  | .invalidIpv6 => "invalid IPv6 address"

/-- A character dropped at both ends. -/
def isMargin (character : Char) : Bool := character.toNat ≤ 32

/-- A character dropped everywhere. -/
def isBreak (character : Char) : Bool :=
  character = '\t' || character = '\n' || character = '\r'

/-- The text that is read: without margins and breaks. -/
def cleaned (text : List Char) : List Char :=
  (((text.dropWhile isMargin).reverse.dropWhile isMargin).reverse).filter fun character =>
    !isBreak character

/-- The scheme in lower case and what follows its colon. -/
def scheme? (text : List Char) : Option (String × List Char) :=
  let name := text.takeWhile fun character =>
    character.isAlphanum || character = '+' || character = '-' || character = '.'
  match text.drop name.length with
  | ':' :: rest =>
      if name.head?.any Char.isAlpha then some ((String.ofList name).toLower, rest) else none
  | _ => none

/-- The schemes that need a host and read a backslash as a slash. -/
def webSchemes : List String := ["http", "https", "ws", "wss", "ftp"]

/-- Whether a character ends the part of a URL that names the host. -/
def endsAuthority (web : Bool) (character : Char) : Bool :=
  character = '/' || character = '?' || character = '#' || (web && character = '\\')

/-- What follows the last `@`, where the user's name ends. -/
def afterUser (authority : List Char) : List Char :=
  match Text.cutLast? ['@'] authority with
  | some (_, host) => host
  | none => authority

/-- The host and what follows it: up to a colon outside brackets. -/
def splitHost : Bool → List Char → List Char × List Char
  | _, [] => ([], [])
  | bracketed, character :: rest =>
      if character = ':' ∧ !bracketed then ([], character :: rest)
      else
        let bracketed := if character = '[' then true else if character = ']' then false
          else bracketed
        let (host, after) := splitHost bracketed rest
        (character :: host, after)

/-- A character that no host of the web has. -/
def isForbidden (character : Char) : Bool :=
  character.toNat ≤ 32 || character.toNat = 127 ||
    ['#', '/', ':', '<', '>', '?', '@', '[', '\\', ']', '^', '|', '%'].contains character

/-- A text with each escaped byte of ASCII in place of its escape. -/
def unescaped : List Char → List Char
  | '%' :: high :: low :: rest =>
      match Json.hexValue? high, Json.hexValue? low with
      | some first, some second =>
          let code := 16 * first + second
          (if code < 128 then Char.ofNat code else 'é') :: unescaped rest
      | _, _ => '%' :: unescaped (high :: low :: rest)
  | character :: rest => character :: unescaped rest
  | [] => []

/-- The value of one part of a numeric host: decimal, octal after `0`, hexadecimal after `0x`. -/
def ipv4Part? (part : List Char) : Option Nat :=
  let (base, digits) := match part with
    | '0' :: 'x' :: digits => (16, digits)
    | '0' :: 'X' :: digits => (16, digits)
    | '0' :: digits => (8, digits)
    | digits => (10, digits)
  digits.foldlM (fun value digit =>
    (Json.hexValue? digit).bind fun unit =>
      if unit < base then some (base * value + unit) else none) 0

/-- The parts of a host between its points, without an empty one at the end. -/
def hostParts (host : List Char) : List (List Char) :=
  let parts := Text.pieces '.' host
  if 1 < parts.length ∧ parts.getLast? = some [] then parts.dropLast else parts

/-- Whether a host has to be read as numbers. -/
def endsInNumber (host : List Char) : Bool :=
  match (hostParts host).getLast? with
  | some last =>
      (!last.isEmpty && last.all Char.isDigit) ||
        (last.head? == some '0' && (last.drop 1).head?.any (fun mark => mark = 'x' || mark = 'X') &&
          (ipv4Part? last).isSome)
  | none => false

/-- Whether numbers make an address of four bytes: each but the last one byte, the last the rest. -/
def isIpv4 (host : List Char) : Bool :=
  let parts := hostParts host
  match parts.mapM ipv4Part? with
  | none => false
  | some values =>
      decide (values.length ≤ 4) && parts.all (!·.isEmpty) &&
        values.dropLast.all (fun value => decide (value < 256)) &&
        values.getLast?.any fun last => decide (last < Nat.pow 256 (5 - values.length))

/-- Whether groups of up to four hexadecimal digits make an address of sixteen bytes. -/
def isIpv6 (address : List Char) : Bool :=
  let isGroup (group : List Char) : Bool :=
    !group.isEmpty && decide (group.length ≤ 4) &&
      group.all fun digit => (Json.hexValue? digit).isSome
  let groups (text : List Char) : List (List Char) :=
    if text.isEmpty then [] else Text.pieces ':' text
  let size (groups : List (List Char)) : Option Nat :=
    match groups.getLast? with
    | none => some 0
    | some last =>
        if last.contains '.' then
          if groups.dropLast.all isGroup ∧ isIpv4 last then some (groups.length + 1) else none
        else if groups.all isGroup then some groups.length
        else none
  match Text.cut? [':', ':'] address with
  | some (front, back) =>
      match size (groups front), size (groups back) with
      | some first, some second => decide (first + second ≤ 7)
      | _, _ => false
  | none => size (groups address) == some 8

/-- What is wrong with a host. -/
def hostFault? (web : Bool) (host : List Char) : Option Fault :=
  match host with
  | '[' :: rest =>
      if rest.getLast? = some ']' ∧ isIpv6 rest.dropLast then none else some .invalidIpv6
  | _ =>
      if web then
        let name := unescaped host
        if name.isEmpty then some .emptyHost
        else if name.any isForbidden then some .invalidHost
        else if endsInNumber name ∧ !isIpv4 name then some .invalidIpv4
        else none
      else if host.any fun character => character ≠ '%' ∧ isForbidden character then
        some .invalidHost
      else none

/-- Whether what follows a host is a port: nothing, or a colon and digits of at most 16 bits. -/
def isPort : List Char → Bool
  | ':' :: digits =>
      digits.all Char.isDigit &&
        decide ((digits.dropWhile (· = '0')).length ≤ 5 ∧ Json.digitsValue digits < 65536)
  | rest => rest.isEmpty

/-- What is wrong with the part of a URL that names the host. -/
def authorityFault? (web : Bool) (authority : List Char) : Option Fault :=
  let (host, after) := splitHost false (afterUser authority)
  if web ∧ host.isEmpty then some .emptyHost
  else
    match hostFault? web host with
    | some fault => some fault
    | none => if isPort after then none else some .invalidPort

/-- The scheme of an absolute URL. -/
def parseScheme (text : String) : Except Fault String :=
  match scheme? (cleaned text.toList) with
  | none => .error .relative
  | some (scheme, rest) =>
      let web := webSchemes.contains scheme
      let authority? : Option (List Char) :=
        if web then
          some ((rest.dropWhile fun character => character = '/' || character = '\\').takeWhile
            fun character => !endsAuthority true character)
        else if scheme = "file" then none
        else
          match rest with
          | '/' :: '/' :: rest =>
              some (rest.takeWhile fun character => !endsAuthority false character)
          | _ => none
      match authority?.bind (authorityFault? web) with
      | some fault => .error fault
      | none => .ok scheme

/-- The scheme of an absolute URL, or what is wrong with a text. -/
def schemeOf (text : String) : Except String String := (parseScheme text).mapError Fault.message

end ChatGateway.Url
