/-
**Host names and the transport filter** (`TransportCapabilities::allows`).

The filter searches the printed address for the names of transports, and the host of a DNS component is
part of that text. A host is *plain* when the text `/host` holds none of the names the filter searches for
and does not end in the first word of one of them.
-/

import P2pNet.Lib.Occurrences
import P2pNet.Connectivity.ConnectionStrategy

namespace P2pNet.Connectivity

open Lib

/-! ### The filter as a classification of the text -/

inductive TransportClass
  | webrtcDirect
  | webtransport
  | browserWebrtc
  | secureWebsocket
  | quic
  | tcp
  | unknown
  deriving DecidableEq, Repr

/-- The first transport whose name the filter finds. -/
def transportClass (transport : String) : TransportClass :=
  if Text.contains transport "/webrtc-direct" then .webrtcDirect
  else if Text.contains transport "/webtransport" then .webtransport
  else if Text.endsWith transport "/webrtc" || Text.contains transport "/webrtc/" then .browserWebrtc
  else if Text.contains transport "/wss" || Text.contains transport "/tls/ws" then .secureWebsocket
  else if Text.contains transport "/quic" then .quic
  else if Text.contains transport "/tcp/" then .tcp
  else .unknown

namespace TransportCapabilities

def offers (capabilities : TransportCapabilities) : TransportClass → Bool
  | .webrtcDirect => capabilities.webrtcDirect
  | .webtransport => capabilities.webtransport
  | .browserWebrtc => capabilities.browserWebrtc
  | .secureWebsocket => capabilities.secureWebsocket
  | .quic => capabilities.quic
  | .tcp => capabilities.tcp
  | .unknown => capabilities == native

/-- The answer as a function of the printed address. -/
def allowsText (capabilities : TransportCapabilities) (raw : String) : Bool :=
  if Text.contains raw "/p2p-circuit" && !capabilities.circuitRelay then false
  else capabilities.offers (transportClass (Text.before raw "/p2p-circuit"))

theorem allows_eq_allowsText {PeerId Addr : Type} [Multiaddr PeerId Addr]
    (capabilities : TransportCapabilities) (addr : Addr) :
    capabilities.allows addr = capabilities.allowsText (Multiaddr.toText addr) := by
  unfold allows allowsText transportClass
  simp only [apply_ite capabilities.offers]
  rfl

/-- A class that only the native capabilities offer is no transport at all. -/
theorem eq_unknown_of_not_offered {transport : TransportClass}
    (refused : ∀ capabilities, capabilities ≠ native → capabilities.offers transport = false) :
    transport = .unknown := by
  -- the browser offers every transport but QUIC and TCP
  have inBrowser := refused browser (by decide)
  have overQuic := refused { browser with quic := true } (by decide)
  have overTcp := refused { browser with tcp := true } (by decide)
  cases transport <;> simp_all [offers, browser]

end TransportCapabilities

/-! ### Plain hosts -/

/-- The texts the filter searches for. -/
def markers : List String :=
  ["/p2p-circuit", "/webrtc-direct", "/webtransport", "/webrtc/", "/wss", "/tls/ws", "/quic", "/tcp/"]

theorem circuit_mem_markers : "/p2p-circuit" ∈ markers := by decide

/-- The first words of the markers with an inner slash; the filter also looks for the first one at the
end. -/
def endings : List String := ["/webrtc", "/tls", "/tcp"]

def PlainHost (host : String) : Prop :=
  (∀ marker ∈ markers, Text.contains ("/" ++ host) marker = false) ∧
    ∀ ending ∈ endings, Text.endsWith ("/" ++ host) ending = false

instance (host : String) : Decidable (PlainHost host) := inferInstanceAs (Decidable (_ ∧ _))

example : PlainHost "node-7.example.com" := by decide

theorem mem_endings_of_mem_cuts : ∀ marker ∈ markers, ∀ front ∈ cuts '/' marker.toList,
    front ∈ endings.map String.toList := by
  decide +kernel

theorem transportClass_congr {first second : String}
    (found : ∀ marker ∈ markers, Text.contains first marker = Text.contains second marker)
    (ended : Text.endsWith first "/webrtc" = Text.endsWith second "/webrtc") :
    transportClass first = transportClass second := by
  unfold transportClass
  rw [ended, found "/webrtc-direct" (by decide), found "/webtransport" (by decide),
    found "/webrtc/" (by decide), found "/wss" (by decide), found "/tls/ws" (by decide),
    found "/quic" (by decide), found "/tcp/" (by decide)]

theorem not_found_of_unknown {transport : String} (unknown : transportClass transport = .unknown) :
    (∀ marker ∈ markers.tail, Text.contains transport marker = false) ∧
      Text.endsWith transport "/webrtc" = false := by
  unfold transportClass at unknown
  split_ifs at unknown
  simp_all [markers]

/-! ### Addresses with a DNS component -/

inductive DnsKind
  | dns
  | dns4
  | dns6
  | dnsaddr
  deriving DecidableEq, Repr

def DnsKind.name : DnsKind → String
  | dns => "dns"
  | dns4 => "dns4"
  | dns6 => "dns6"
  | dnsaddr => "dnsaddr"

/-- What stands in front of the host, up to its slash. -/
def hostFront (before : String) (kind : DnsKind) : String := before ++ "/" ++ kind.name

def hostText (before : String) (kind : DnsKind) (host after : String) : String :=
  hostFront before kind ++ ("/" ++ host) ++ after

theorem toList_hostText (before : String) (kind : DnsKind) (host after : String) :
    (hostText before kind host after).toList
      = (hostFront before kind).toList ++ (('/' :: host.toList) ++ after.toList) := by
  simp [hostText]

/-- Two addresses that differ in nothing but the host of a DNS component. -/
def SameButHost {PeerId Addr : Type} [Multiaddr PeerId Addr] (host other : String)
    (first second : Addr) : Prop :=
  ∃ before kind after, Led '/' after.toList ∧
    Multiaddr.toText first = hostText before kind host after ∧
    Multiaddr.toText second = hostText before kind other after

/-- No marker begins in a DNS component. -/
theorem not_suffix_hostFront (before : String) (kind : DnsKind) :
    ∀ ending ∈ endings, ¬ ending.toList <:+ (hostFront before kind).toList := by
  intro ending member ends
  have kindEnds : ('/' :: kind.name.toList) <:+ (hostFront before kind).toList :=
    ⟨before.toList, by simp [hostFront]⟩
  have clash : ∀ ending ∈ endings, ¬ ending.toList <:+ '/' :: kind.name.toList ∧
      ¬ ('/' :: kind.name.toList) <:+ ending.toList := by
    cases kind <;> decide +kernel
  rcases List.suffix_or_suffix_of_suffix ends kindEnds with shorter | longer
  · exact (clash ending member).1 shorter
  · exact (clash ending member).2 longer

namespace PlainHost

variable {host : String}

theorem not_infix (plain : PlainHost host) {marker : String} (member : marker ∈ markers) :
    ¬ marker.toList <:+: '/' :: host.toList := by
  have absent := Text.contains_eq_false_iff.mp (plain.1 marker member)
  rwa [String.toList_append] at absent

theorem not_suffix (plain : PlainHost host) {ending : String} (member : ending ∈ endings) :
    ¬ ending.toList <:+ '/' :: host.toList := by
  have absent := Text.endsWith_eq_false_iff.mp (plain.2 ending member)
  rwa [String.toList_append] at absent

/-- A marker in the address is a marker in front of the host or after it. -/
theorem contains_hostText (plain : PlainHost host) (before : String) (kind : DnsKind) {after : String}
    (led : Led '/' after.toList) {marker : String} (member : marker ∈ markers) :
    Text.contains (hostText before kind host after) marker
      = (Text.contains (hostFront before kind) marker || Text.contains after marker) := by
  have cut : ∀ front ∈ cuts '/' marker.toList, ∃ ending ∈ endings, ending.toList = front :=
    fun front inside => List.mem_map.mp (mem_endings_of_mem_cuts marker member front inside)
  have hostLed : Led '/' (('/' :: host.toList) ++ after.toList) := .inr ⟨_, rfl⟩
  have places : marker.toList <:+: (hostText before kind host after).toList ↔
      marker.toList <:+: (hostFront before kind).toList ∨ marker.toList <:+: after.toList := by
    rw [toList_hostText, infix_append_iff_of_cuts hostLed, infix_append_iff_of_cuts led,
      or_iff_right (plain.not_infix member)]
    · intro front inside
      obtain ⟨ending, listed, rfl⟩ := cut front inside
      exact plain.not_suffix listed
    · intro front inside
      obtain ⟨ending, listed, rfl⟩ := cut front inside
      exact not_suffix_hostFront before kind ending listed
  unfold Text.contains
  rw [← Bool.decide_or]
  exact decide_eq_decide.mpr places

/-- The address ends like what stands after the host. -/
theorem endsWith_hostText (plain : PlainHost host) (before : String) (kind : DnsKind) {after : String}
    (led : Led '/' after.toList) :
    Text.endsWith (hostText before kind host after) "/webrtc" = Text.endsWith after "/webrtc" := by
  have inner : '/' ∉ "/webrtc".toList.tail := by decide
  unfold Text.endsWith
  refine decide_eq_decide.mpr ?_
  rw [toList_hostText]
  rcases led with empty | ⟨rest, starts⟩
  · rw [empty, List.append_nil, suffix_append_iff_of_led inner, List.suffix_nil]
    exact iff_of_false (plain.not_suffix (by decide)) (by decide)
  · rw [starts, ← List.append_assoc, suffix_append_iff_of_led inner]

theorem before_hostText (plain : PlainHost host) (before : String) (kind : DnsKind) {after : String}
    (led : Led '/' after.toList) : Text.before (hostText before kind host after) "/p2p-circuit"
      = if Text.contains (hostFront before kind) "/p2p-circuit"
        then Text.before (hostFront before kind) "/p2p-circuit"
        else hostText before kind host (Text.before after "/p2p-circuit") := by
  have inner : '/' ∉ "/p2p-circuit".toList.tail := by decide
  have hostLed : Led '/' (('/' :: host.toList) ++ after.toList) := .inr ⟨_, rfl⟩
  have absent := plain.not_infix circuit_mem_markers
  unfold Text.before
  rw [toList_hostText, Text.beforeChars_append hostLed (by decide) inner,
    Text.beforeChars_append led (by decide) inner, if_neg absent]
  by_cases early : "/p2p-circuit".toList <:+: (hostFront before kind).toList
  · rw [if_pos early, if_pos (Text.contains_eq_true_iff.mpr early)]
  · rw [if_neg early, if_neg (mt Text.contains_eq_true_iff.mp early)]
    apply String.toList_inj.mp
    rw [toList_hostText, String.toList_ofList, String.toList_ofList, String.toList_ofList]

/-- **Plain hosts are not seen by the filter.** -/
theorem allowsText_hostText (plain : PlainHost host) {other : String} (plainOther : PlainHost other)
    (before : String) (kind : DnsKind) {after : String} (led : Led '/' after.toList)
    (capabilities : TransportCapabilities) :
    capabilities.allowsText (hostText before kind host after)
      = capabilities.allowsText (hostText before kind other after) := by
  have circuit := plain.contains_hostText before kind led circuit_mem_markers
  have circuitOther := plainOther.contains_hostText before kind led circuit_mem_markers
  unfold TransportCapabilities.allowsText
  rw [circuit, circuitOther, plain.before_hostText before kind led,
    plainOther.before_hostText before kind led]
  by_cases early : Text.contains (hostFront before kind) "/p2p-circuit" = true
  · rw [if_pos early, if_pos early]
  · rw [if_neg early, if_neg early]
    have cutLed : Led '/' (Text.before after "/p2p-circuit").toList := by
      rw [Text.before, String.toList_ofList]
      exact Text.Led.beforeChars led
    have sameClass : transportClass (hostText before kind host (Text.before after "/p2p-circuit"))
        = transportClass (hostText before kind other (Text.before after "/p2p-circuit")) := by
      apply transportClass_congr
      · intro marker member
        rw [plain.contains_hostText before kind cutLed member,
          plainOther.contains_hostText before kind cutLed member]
      · rw [plain.endsWith_hostText before kind cutLed, plainOther.endsWith_hostText before kind cutLed]
    rw [sameClass]

end PlainHost

/-! ### Which hosts go unseen -/

theorem before_of_not_contains {text part : String} (absent : Text.contains text part = false) :
    Text.before text part = text := by
  rw [Text.before, Text.beforeChars_eq_self (Text.contains_eq_false_iff.mp absent), String.ofList_toList]

/-- The answers for a host are those for the host called `host`, in the first component of an address. -/
def LikeHost (host : String) : Prop := ∀ after, Led '/' after.toList → ∀ capabilities,
  TransportCapabilities.allowsText capabilities (hostText "" .dns4 host after)
    = capabilities.allowsText (hostText "" .dns4 "host" after)

theorem hostText_absent {host before after part : String} {kind : DnsKind}
    (absent : Text.contains (hostText before kind host after) part = false) :
    ¬ part.toList <:+: ('/' :: host.toList) ++ after.toList := by
  intro inside
  refine Text.contains_eq_false_iff.mp absent ?_
  rw [toList_hostText]
  exact List.infix_append_of_infix_right inside

namespace LikeHost

variable {host : String}

/-- Without relays an address over TCP is accepted, unless it names a circuit. -/
theorem not_circuit (alike : LikeHost host) : ¬ "/p2p-circuit".toList <:+: '/' :: host.toList := by
  let unrelayed := { TransportCapabilities.native with circuitRelay := false }
  have accepted : unrelayed.allowsText (hostText "" .dns4 "host" "/tcp/1") = true := by decide +kernel
  have answer := (alike "/tcp/1" (.inr ⟨_, rfl⟩) unrelayed).trans accepted
  have absent : Text.contains (hostText "" .dns4 host "/tcp/1") "/p2p-circuit" = false := by
    by_contra found
    rw [Bool.not_eq_false] at found
    rw [TransportCapabilities.allowsText, found, if_pos (by decide)] at answer
    exact Bool.false_ne_true answer
  exact fun inside => hostText_absent absent (List.infix_append_of_infix_left inside)

/-- An address without a transport is of no class, so the host adds none. -/
theorem not_found (alike : LikeHost host) {after : String} (led : Led '/' after.toList)
    (direct : ¬ "/p2p-circuit".toList <:+: after.toList)
    (bare : ∀ capabilities, capabilities ≠ TransportCapabilities.native →
      TransportCapabilities.allowsText capabilities (hostText "" .dns4 "host" after) = false) :
    (∀ marker ∈ markers.tail, Text.contains (hostText "" .dns4 host after) marker = false) ∧
      Text.endsWith (hostText "" .dns4 host after) "/webrtc" = false := by
  have absent : Text.contains (hostText "" .dns4 host after) "/p2p-circuit" = false := by
    have hostLed : Led '/' (('/' :: host.toList) ++ after.toList) := .inr ⟨_, rfl⟩
    have whole : ∀ left, ∀ front ∈ cuts '/' "/p2p-circuit".toList, ¬ front <:+ left := by
      intro left front inside
      exact absurd inside (List.eq_nil_iff_forall_not_mem.mp (by decide) front)
    rw [Text.contains_eq_false_iff, toList_hostText, infix_append_iff_of_cuts hostLed (whole _),
      infix_append_iff_of_cuts led (whole _), not_or, not_or]
    exact ⟨by decide, alike.not_circuit, direct⟩
  refine not_found_of_unknown (TransportCapabilities.eq_unknown_of_not_offered ?_)
  intro capabilities different
  have answer := (alike after led capabilities).trans (bare capabilities different)
  rwa [TransportCapabilities.allowsText, absent, Bool.false_and, if_neg Bool.false_ne_true,
    before_of_not_contains absent] at answer

theorem plainHost (alike : LikeHost host) : PlainHost host := by
  have bare : ∀ after ∈ ["", "/ws", "/1"], ∀ capabilities, capabilities ≠ TransportCapabilities.native →
      TransportCapabilities.allowsText capabilities (hostText "" .dns4 "host" after) = false := by
    intro after member capabilities different
    have view : Text.contains (hostText "" .dns4 "host" after) "/p2p-circuit" = false ∧
        transportClass (hostText "" .dns4 "host" after) = .unknown := by
      revert after
      decide +kernel
    rw [TransportCapabilities.allowsText, view.1, Bool.false_and, if_neg Bool.false_ne_true,
      before_of_not_contains view.1, view.2]
    exact beq_false_of_ne different
  obtain ⟨found, ended⟩ := alike.not_found (.inl rfl) (by decide) (bare "" (by decide))
  have foundWs := (alike.not_found (.inr ⟨_, rfl⟩) (by decide) (bare "/ws" (by decide))).1 "/tls/ws" (by decide)
  have foundPort := (alike.not_found (.inr ⟨_, rfl⟩) (by decide) (bare "/1" (by decide))).1 "/tcp/" (by decide)
  constructor
  · intro marker member
    rw [Text.contains_eq_false_iff, String.toList_append]
    rcases List.mem_cons.mp member with rfl | later
    · exact alike.not_circuit
    · exact fun inside => hostText_absent (found marker later) (List.infix_append_of_infix_left inside)
  · intro ending member
    rw [Text.endsWith_eq_false_iff, String.toList_append]
    rintro ⟨front, whole⟩
    have whole : front ++ ending.toList = '/' :: host.toList := whole
    simp only [endings, List.mem_cons, List.not_mem_nil, or_false] at member
    rcases member with rfl | rfl | rfl
    · refine Text.endsWith_eq_false_iff.mp ended ?_
      rw [toList_hostText, ← whole]
      exact ⟨(hostFront "" .dns4).toList ++ front, by simp⟩
    · refine hostText_absent foundWs ⟨front, [], ?_⟩
      rw [← whole]
      simp
    · refine hostText_absent foundPort ⟨front, ['1'], ?_⟩
      rw [← whole]
      simp

end LikeHost

/-- **Which hosts the filter ignores**: exactly the plain ones. -/
theorem host_ignored_iff (host : String) :
    PlainHost host ↔ ∀ other, PlainHost other →
      ∀ (PeerId Addr : Type) [Multiaddr PeerId Addr] (first second : Addr),
        SameButHost host other first second → ∀ capabilities : TransportCapabilities,
          capabilities.allows first = capabilities.allows second := by
  constructor
  · rintro plain other plainOther PeerId Addr _ first second ⟨before, kind, after, led, text, textOther⟩
      capabilities
    rw [TransportCapabilities.allows_eq_allowsText, TransportCapabilities.allows_eq_allowsText, text,
      textOther]
    exact plain.allowsText_hostText plainOther before kind led capabilities
  · intro ignored
    refine LikeHost.plainHost fun after led capabilities => ?_
    -- the answer depends on the text only, so the texts themselves serve as addresses
    let texts : Multiaddr Unit String := ⟨id, .ok, fun text => [.other text]⟩
    have answer := ignored "host" (by decide) Unit String (hostText "" .dns4 host after)
      (hostText "" .dns4 "host" after) ⟨"", .dns4, after, led, rfl, rfl⟩ capabilities
    rwa [TransportCapabilities.allows_eq_allowsText, TransportCapabilities.allows_eq_allowsText] at answer

/-! ### Three host names -/

/-- A host name behind TCP port 4001. -/
structure DnsHost where
  name : String
  deriving DecidableEq

namespace DnsHost

def text (host : DnsHost) : String := hostText "" .dns4 host.name "/tcp/4001"

def known : List DnsHost := [⟨"node.example.com"⟩, ⟨"wss.example.com"⟩, ⟨"webtransport.example.com"⟩]

instance : Multiaddr Seed DnsHost where
  toText := text
  parse written := match known.find? fun host => host.text = written with
    | some host => .ok host
    | none => .error "unknown protocol string"
  iter host := [.other ("/dns4/" ++ host.name), .other "/tcp/4001"]

end DnsHost

/-- A browser accepts a TCP address because of its host name, and a native node refuses one. -/
theorem host_name_decides :
    (SameButHost "wss.example.com" "node.example.com" (DnsHost.mk "wss.example.com")
        (DnsHost.mk "node.example.com") ∧
      TransportCapabilities.browser.allows (DnsHost.mk "wss.example.com") = true ∧
      TransportCapabilities.browser.allows (DnsHost.mk "node.example.com") = false) ∧
    SameButHost "webtransport.example.com" "node.example.com"
        (DnsHost.mk "webtransport.example.com") (DnsHost.mk "node.example.com") ∧
      TransportCapabilities.native.allows (DnsHost.mk "webtransport.example.com") = false ∧
      TransportCapabilities.native.allows (DnsHost.mk "node.example.com") = true := by
  refine ⟨⟨⟨"", .dns4, "/tcp/4001", .inr ⟨_, rfl⟩, rfl, rfl⟩, ?_, ?_⟩,
    ⟨"", .dns4, "/tcp/4001", .inr ⟨_, rfl⟩, rfl, rfl⟩, ?_, ?_⟩
  all_goals decide +kernel

end P2pNet.Connectivity
