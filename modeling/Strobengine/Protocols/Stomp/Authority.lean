import Strobengine.Rust.Text
import Mathlib.Data.List.DropRight

/-!
# The authority of a broker URL

The engine connects to the authority that `parse_authority` cuts out of the configured URL. A
colon in the authority is read as the one before a port; the brackets of an IPv6 literal are not
looked at.
-/

namespace Strobengine.Protocols.Stomp

def defaultStompPort : Nat := 61613

def beforePath (rest : List Char) : List Char :=
  rest.takeWhile (fun character => character != '/' && character != '?')

def afterUserinfo (authority : List Char) : List Char :=
  authority.rtakeWhile (· != '@')

/-- Parse `stomp://host[:port]` (and reject `stomps://`) into an authority. -/
def parseAuthority (url : String) : Except String String :=
  match "stomp://".toList.isPrefixOf? url.toList with
  | none =>
    if "stomps://".toList.isPrefixOf url.toList then
      .error "STOMP TLS (stomps://) is not yet supported; use stomp://"
    else
      .error ("unsupported STOMP URL scheme: " ++ url)
  | some rest =>
    let authority := afterUserinfo (beforePath rest)
    if authority.isEmpty then
      .error "STOMP URL is missing a host"
    else if ':' ∈ authority then
      .ok (String.ofList authority)
    else
      .ok (String.ofList authority ++ ":" ++ toString defaultStompPort)

inductive Host where
  | name (text : String) (nonempty : text ≠ "")
      (plain : ∀ character ∈ text.toList, character ∉ ['/', '?', '@', ':'])
  | ipv4 (a b c d : UInt8)
  | ipv6 (address : String) (colon : ':' ∈ address.toList)
      (plain : ∀ character ∈ address.toList, character ∉ ['/', '?', '@'])

def Host.text : Host → String
  | name text _ _ => text
  | ipv4 a b c d => toString a ++ "." ++ toString b ++ "." ++ toString c ++ "." ++ toString d
  | ipv6 address _ _ => "[" ++ address ++ "]"

def Host.isIpv6 : Host → Bool
  | ipv6 _ _ _ => true
  | _ => false

structure Port where
  text : String
  digits : ∀ character ∈ text.toList, character.isDigit

structure StompUrl where
  userinfo : Option String
  host : Host
  port : Option Port
  /-- The path and the query with the separator before them. -/
  suffix : String
  userinfo_plain : ∀ user ∈ userinfo, ∀ character ∈ user.toList, character ≠ '/' ∧ character ≠ '?'
  suffix_separated : ∀ character ∈ suffix.toList.head?, character = '/' ∨ character = '?'

namespace StompUrl

def hostPort (url : StompUrl) : String :=
  url.host.text ++ (url.port.map (fun port => ":" ++ port.text)).getD ""

def text (url : StompUrl) : String :=
  "stomp://" ++ (url.userinfo.map (· ++ "@")).getD "" ++ url.hostPort ++ url.suffix

def authority (url : StompUrl) : String :=
  url.host.text ++ ":" ++ (url.port.map Port.text).getD (toString defaultStompPort)

end StompUrl

/-! ## Cutting the authority out -/

theorem beforePath_append {front suffix : List Char}
    (plain : ∀ character ∈ front, character ≠ '/' ∧ character ≠ '?')
    (separated : ∀ character ∈ suffix.head?, character = '/' ∨ character = '?') :
    beforePath (front ++ suffix) = front := by
  unfold beforePath
  rw [List.takeWhile_append_of_pos (by simpa using plain)]
  cases suffix with
  | nil => simp
  | cons separator => rcases separated separator rfl with rfl | rfl <;> simp

theorem afterUserinfo_of_plain {host : List Char} (plain : ∀ character ∈ host, character ≠ '@') :
    afterUserinfo host = host :=
  List.rtakeWhile_eq_self_iff.mpr (by simpa using plain)

theorem afterUserinfo_append {host : List Char} (user : List Char)
    (plain : ∀ character ∈ host, character ≠ '@') :
    afterUserinfo (user ++ '@' :: host) = host := by
  rw [afterUserinfo, List.rtakeWhile, List.reverse_append, List.reverse_cons, List.append_assoc,
    List.takeWhile_append_of_pos (by simpa using plain)]
  simp

theorem ne_of_isDigit {digit other : Char} (isDigit : digit.isDigit) (none : ¬ other.isDigit) :
    digit ≠ other := by
  rintro rfl
  exact none isDigit

namespace Host

theorem digit_or_dot {a b c d : UInt8} {character : Char}
    (member : character ∈ (ipv4 a b c d).text.toList) :
    character.isDigit ∨ character = '.' := by
  have digit (byte : UInt8) (here : character ∈ (toString byte.toNat).toList) : character.isDigit :=
    Rust.isDigit_of_mem_toString here
  have dot : ".".toList = ['.'] := rfl
  simp only [text, String.toList_append, List.mem_append, dot, List.mem_singleton] at member
  rcases member with (((((here | here) | here) | here) | here) | here) | here
  all_goals first | exact .inl (digit _ here) | exact .inr here

theorem text_plain (host : Host) : ∀ character ∈ host.text.toList, character ∉ ['/', '?', '@'] := by
  intro character member
  cases host with
  | name text _ plain =>
    have := plain character member
    simp_all
  | ipv4 =>
    rcases digit_or_dot member with digit | rfl
    · simp [ne_of_isDigit digit]
    · decide
  | ipv6 address _ plain =>
    rw [text, String.toList_append, String.toList_append, List.append_assoc] at member
    simp at member
    rcases member with rfl | inside | rfl
    · decide
    · exact plain character inside
    · decide

theorem text_nonempty (host : Host) : host.text.toList ≠ [] := by
  cases host with
  | name text nonempty => simpa [Host.text] using nonempty
  | ipv4 | ipv6 => simp [text]

theorem colon_mem_text (host : Host) : ':' ∈ host.text.toList ↔ host.isIpv6 := by
  cases host with
  | name text _ plain =>
    have := plain ':'
    simpa [isIpv6, Host.text] using this
  | ipv4 a b c d =>
    have : ':' ∉ (ipv4 a b c d).text.toList := by
      intro member
      rcases digit_or_dot member with digit | dot
      · exact absurd digit (by decide)
      · exact absurd dot (by decide)
    simpa [isIpv6] using this
  | ipv6 address colon => simp [text, isIpv6, colon]

end Host

namespace StompUrl

theorem hostPort_plain (url : StompUrl) :
    ∀ character ∈ url.hostPort.toList, character ∉ ['/', '?', '@'] := by
  intro character member
  rw [hostPort, String.toList_append, List.mem_append] at member
  rcases member with inHost | inPort
  · exact url.host.text_plain character inHost
  · cases given : url.port with
    | none => simp [given] at inPort
    | some port =>
      simp only [given, Option.map_some, Option.getD_some, String.toList_append,
        List.mem_append] at inPort
      rcases inPort with colon | digit
      · rw [List.mem_singleton.mp colon]
        decide
      · simp [ne_of_isDigit (port.digits character digit)]

theorem colon_mem_hostPort (url : StompUrl) :
    ':' ∈ url.hostPort.toList ↔ url.host.isIpv6 ∨ url.port.isSome := by
  rw [hostPort, String.toList_append, List.mem_append, Host.colon_mem_text]
  cases url.port <;> simp

theorem parseAuthority_text (url : StompUrl) :
    parseAuthority url.text =
      .ok (if url.host.isIpv6 ∨ url.port.isSome then url.hostPort
        else url.hostPort ++ ":" ++ toString defaultStompPort) := by
  have plain := url.hostPort_plain
  simp only [List.mem_cons, List.not_mem_nil, or_false, not_or] at plain
  obtain ⟨front, split, unsplit, after⟩ :
      ∃ front : String,
        url.text = "stomp://" ++ front ++ url.suffix ∧
          (∀ character ∈ front.toList, character ≠ '/' ∧ character ≠ '?') ∧
          afterUserinfo front.toList = url.hostPort.toList := by
    cases given : url.userinfo with
    | none =>
      refine ⟨url.hostPort, by simp [text, given, String.append_assoc], ?_, ?_⟩
      · exact fun character member => ⟨(plain character member).1, (plain character member).2.1⟩
      · exact afterUserinfo_of_plain fun character member => (plain character member).2.2
    | some user =>
      refine ⟨user ++ "@" ++ url.hostPort, by simp [text, given, String.append_assoc], ?_, ?_⟩
      · have userPlain := url.userinfo_plain user given
        intro character member
        simp only [String.toList_append, List.mem_append, List.append_assoc] at member
        rcases member with inUser | sign | inHost
        · exact userPlain character inUser
        · rw [List.mem_singleton.mp sign]
          decide
        · exact ⟨(plain character inHost).1, (plain character inHost).2.1⟩
      · rw [String.toList_append, String.toList_append, List.append_assoc]
        exact afterUserinfo_append _ fun character member => (plain character member).2.2
  have stripped :
      "stomp://".toList.isPrefixOf? url.text.toList = some (front.toList ++ url.suffix.toList) := by
    rw [split, String.toList_append, String.toList_append, List.append_assoc]
    rfl
  have nonempty : url.hostPort.toList.isEmpty = false := by
    simp [hostPort, url.host.text_nonempty]
  rw [parseAuthority, stripped]
  simp only [beforePath_append unsplit url.suffix_separated, after, nonempty, Bool.false_eq_true,
    if_false, colon_mem_hostPort, String.ofList_toList]
  split <;> rfl

/-- The authority has the port that is given, or the default port if none is given, unless the
host is an IPv6 literal without a port. -/
theorem parseAuthority_text_iff (url : StompUrl) :
    parseAuthority url.text = .ok url.authority ↔ ¬ (url.host.isIpv6 ∧ url.port = none) := by
  rw [parseAuthority_text, Except.ok.injEq, authority, hostPort]
  cases given : url.port with
  | some => simp [String.append_assoc]
  | none =>
    cases six : url.host.isIpv6 with
    | false => simp
    | true =>
      -- the port that is appended makes the authority longer
      have longer : url.host.text ≠ url.host.text ++ ":" ++ toString defaultStompPort := by
        intro same
        have lengths := congrArg String.length same
        have colon : ":".length = 1 := rfl
        rw [String.length_append, String.length_append, colon] at lengths
        omega
      simpa using longer

/-- An IPv6 literal is connected to without a port. -/
theorem ipv6_without_port : let host : Host := .ipv6 "::1" (by decide) (by simp)
    let url : StompUrl :=
      { userinfo := none, host, port := none, suffix := "/queue"
        userinfo_plain := by simp
        suffix_separated := by simp }
    url.text = "stomp://[::1]/queue" ∧ parseAuthority url.text = .ok "[::1]" ∧
      url.authority = "[::1]:61613" := by
  decide +kernel

end StompUrl

end Strobengine.Protocols.Stomp
