/-
**ICE servers** (`crates/connectivity/ice.rs`).

A server has URLs and, for TURN, a username and a credential. A URL is `scheme:host`, with a port and a transport if
wanted.
-/

import P2pNet.Lib.Text
import P2pNet.Common.Basic

namespace P2pNet.Connectivity

open Lib

def maxIceUrlLen : ℕ := 512

inductive IceScheme
  | stun
  | stuns
  | turn
  | turns
  deriving DecidableEq

namespace IceScheme

def parse (raw : String) : Option IceScheme :=
  let lower := Text.toAsciiLowercase raw
  if lower = "stun" then some stun
  else if lower = "stuns" then some stuns
  else if lower = "turn" then some turn
  else if lower = "turns" then some turns
  else none

def isTurn : IceScheme → Bool
  | turn | turns => true
  | stun | stuns => false

end IceScheme

/-- `scheme:host[:port][?transport=udp|tcp]`. -/
structure IceUrl where
  scheme : IceScheme
  host : String
  port : Option ℕ
  deriving DecidableEq

/-- The port behind a host, which is not 0. -/
def parsePort (raw : String) : Except String ℕ :=
  match Text.parseUnsigned 65535 raw with
  | some port => if port = 0 then .error "has an invalid port" else .ok port
  | none => .error "has an invalid port"

/-- The two parts of `split_host_port`, before the port is read. -/
def splitAuthority (authority : String) : Except String (String × Option String) :=
  match Text.stripPrefix authority "[" with
  | some bracketed => match Text.splitOnce bracketed ']' with
    | none => .error "has an unclosed IPv6 host"
    | some (host, tail) =>
      if tail = "" then .ok (host, none)
      else match Text.stripPrefix tail ":" with
        | some port => .ok (host, some port)
        | none => .error "has an invalid port"
  | none => match Text.splitOnce authority ':' with
    | some (host, port) => .ok (host, some port)
    | none => .ok (authority, none)

def splitHostPort (authority : String) : Except String (String × Option ℕ) := do
  let (host, port) ← splitAuthority authority
  match port with
  | some raw => do
    let port ← parsePort raw
    return (host, some port)
  | none => return (host, none)

def isHostChar (char : Char) : Bool :=
  Text.isAsciiAlphanumeric char || char = '.' || char = '-' || char = ':'

namespace IceUrl

def parse (url : String) : Except String IceUrl := do
  rejectIf (url.utf8ByteSize > maxIceUrlLen) "is too long"
  let (rawScheme, rest) ← okOr "is missing a scheme" (Text.splitOnce url ':')
  let scheme ← okOr "must use stun:, stuns:, turn: or turns:" (IceScheme.parse rawScheme)
  let (authority, query) := (Text.splitOnce rest '?').getD (rest, "")
  rejectIf (query ≠ "" ∧ query ≠ "transport=udp" ∧ query ≠ "transport=tcp")
    "has an unsupported query (only transport=udp|tcp)"
  rejectIf (query ≠ "" ∧ scheme.isTurn = false) "transport= is only valid on TURN urls"
  let (host, port) ← splitHostPort authority
  rejectIf (host = "" ∨ host.toList.all isHostChar = false) "has an invalid host"
  return ⟨scheme, Text.toAsciiLowercase host, port⟩

end IceUrl

structure IceServer where
  urls : List String
  username : Option String
  credential : Option String
  deriving DecidableEq

/-- Is it a `turn:` or `turns:` URL? -/
def isTurnUrl (url : String) : Bool :=
  match IceUrl.parse url with
  | .ok parsed => parsed.scheme.isTurn
  | .error _ => false

/-- Is it a `stun:` or `stuns:` URL? -/
def isStunUrl (url : String) : Bool :=
  match IceUrl.parse url with
  | .ok parsed => !parsed.scheme.isTurn
  | .error _ => false

/-- The text of a TURN URL: the scheme before the first colon is `turn` or `turns`, in any case. -/
def IsTurnText (url : String) : Prop :=
  ∃ scheme rest, Text.splitOnce url ':' = some (scheme, rest) ∧
    (Text.toAsciiLowercase scheme = "turn" ∨ Text.toAsciiLowercase scheme = "turns")

theorem IceScheme.parse_isTurn {raw : String} {scheme : IceScheme} (read : IceScheme.parse raw = some scheme)
    (turns : scheme.isTurn = true) : Text.toAsciiLowercase raw = "turn" ∨ Text.toAsciiLowercase raw = "turns" := by
  unfold parse at read
  dsimp only at read
  split_ifs at read with stun stuns turn turnsText
  · cases read
    exact absurd turns Bool.false_ne_true
  · cases read
    exact absurd turns Bool.false_ne_true
  · exact .inl turn
  · exact .inr turnsText

/-- A URL that is read as TURN is written as TURN. -/
theorem isTurnText_of_isTurnUrl {url : String} (turns : isTurnUrl url = true) : IsTurnText url := by
  unfold isTurnUrl at turns
  split at turns
  · rename_i parsed read
    unfold IceUrl.parse at read
    obtain ⟨_, read⟩ := bind_unit_ok_iff.mp read
    obtain ⟨⟨rawScheme, rest⟩, split, read⟩ := bind_ok_iff.mp read
    obtain ⟨scheme, known, read⟩ := bind_ok_iff.mp read
    obtain ⟨_, read⟩ := bind_unit_ok_iff.mp read
    obtain ⟨_, read⟩ := bind_unit_ok_iff.mp read
    obtain ⟨⟨host, port⟩, _, read⟩ := bind_ok_iff.mp read
    obtain ⟨_, read⟩ := bind_unit_ok_iff.mp read
    obtain rfl := Except.ok.inj read
    exact ⟨rawScheme, rest, okOr_ok_iff.mp split, IceScheme.parse_isTurn (okOr_ok_iff.mp known) turns⟩
  · exact absurd turns Bool.false_ne_true

namespace IceServer

variable (server : IceServer)

def stun (url : String) : IceServer := ⟨[url], none, none⟩

def validateUrl (field url : String) : Except NetError Unit := do
  let parsed ← (IceUrl.parse url).mapError fun reason => configError s!"{field}: `{url}` {reason}"
  rejectIf (parsed.scheme.isTurn = true ∧ (server.username = none ∨ server.credential = none))
    (configError s!"{field}: TURN url `{url}` needs username and credential")

def validate (field : String) : Except NetError Unit := do
  rejectIf (server.urls = []) (configError s!"{field}: urls must not be empty")
  server.urls.forM (server.validateUrl field)

def isTurn : Bool := server.urls.any isTurnUrl

/-- Lower-cased hosts of all URLs that can be read. -/
def hosts : List String := server.urls.filterMap fun url => (IceUrl.parse url).toOption.map IceUrl.host

def turnOnly : Option IceServer :=
  let urls := server.urls.filter isTurnUrl
  if urls.isEmpty then none else some { server with urls }

def stunOnly : Option IceServer :=
  let urls := server.urls.filter isStunUrl
  if urls.isEmpty then none else some ⟨urls, none, none⟩

variable {server : IceServer}

theorem validateUrl_ok_iff {field url : String} : server.validateUrl field url = .ok () ↔
    ∃ parsed, IceUrl.parse url = .ok parsed ∧
      (parsed.scheme.isTurn = true → server.username ≠ none ∧ server.credential ≠ none) := by
  unfold validateUrl
  rw [bind_ok_iff]
  refine exists_congr fun parsed => ?_
  rw [mapError_ok_iff, rejectIf_ok_iff, not_and, not_or]

/-- **A valid server** has URLs that can be read, with credentials for TURN. -/
theorem validate_ok_iff {field : String} : server.validate field = .ok () ↔ server.urls ≠ [] ∧
    ∀ url ∈ server.urls, ∃ parsed, IceUrl.parse url = .ok parsed ∧
      (parsed.scheme.isTurn = true → server.username ≠ none ∧ server.credential ≠ none) := by
  unfold validate
  rw [bind_unit_ok_iff, rejectIf_ok_iff, forM_ok_iff]
  simp only [validateUrl_ok_iff]

theorem host_mem_hosts {url : String} {parsed : IceUrl} (member : url ∈ server.urls)
    (read : IceUrl.parse url = .ok parsed) : parsed.host ∈ server.hosts := by
  refine List.mem_filterMap.mpr ⟨url, member, ?_⟩
  rw [read]
  rfl

/-- **The TURN part of a server** keeps its TURN URLs, its username and its credential. -/
theorem turnOnly_eq_some_iff {server kept : IceServer} : server.turnOnly = some kept ↔
    kept = { server with urls := server.urls.filter isTurnUrl } ∧ kept.urls ≠ [] := by
  unfold turnOnly
  dsimp only
  split_ifs with empty
  · rw [List.isEmpty_iff] at empty
    refine iff_of_false (fun impossible => nomatch impossible) ?_
    rintro ⟨rfl, some⟩
    exact some empty
  · rw [List.isEmpty_iff] at empty
    constructor
    · intro same
      obtain rfl := Option.some.inj same
      exact ⟨rfl, empty⟩
    · rintro ⟨rfl, _⟩
      rfl

end IceServer

example : IceUrl.parse "TURN:[2001:DB8::1]:3478?transport=udp" = .ok ⟨.turn, "2001:db8::1", some 3478⟩ := by
  decide

end P2pNet.Connectivity
