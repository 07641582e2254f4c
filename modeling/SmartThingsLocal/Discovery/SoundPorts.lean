import SmartThingsLocal.Discovery.AdvertisedPorts
import SmartThingsLocal.Foundation.Fallible

/-!
# What the advertised ports are

Every port that is returned is the port of a URI that names the source, or the policy port of the
device's own doxm link. The ports of the URIs that are read come first; a URI that is not read, for
its empty port or for its place in a long list, gives its port no such place.
-/

namespace SmartThingsLocal

namespace Discovery

/-! ### What is advertised -/

/-- A host is an address literal, in IPv6 with the zone after its last percent sign. -/
inductive Literal : AddressFamily → (hostname address : String) → Option String → Prop
  | plain {family : AddressFamily} {hostname : String} (unzoned : '%' ∉ hostname.toList) :
      Literal family hostname hostname none
  | zoned {hostname address zone : String} (last : '%' ∉ zone.toList)
      (split : hostname.toList = address.toList ++ '%' :: zone.toList) :
      Literal .inet6 hostname address (some zone)

/-- The scope that a zone stands for; a missing one is the scope of the source. -/
def InScope (library : UriLibrary) (family : AddressFamily) (sourceKey : HostKey) :
    Option String → Prop
  | none => family = .inet → sourceKey.scopeId = 0
  | some zone => uriScopeId library zone = .ok (some sourceKey.scopeId)

/-- A host names the address and the scope of the source. -/
def NamesSource (library : UriLibrary) (family : AddressFamily) (sourceKey : HostKey)
    (hostname : String) : Prop :=
  ∃ address zone, Literal family hostname address zone ∧
    library.inetPton family address = some sourceKey.packed ∧
    InScope library family sourceKey zone

/-- A coaps URI at the source with no more than a host and perhaps a port, and its port. -/
structure BoundUri (library : UriLibrary) (family : AddressFamily) (sourceKey : HostKey)
    (parsed : UriParts) (port : ℤ) : Prop where
  scheme : lowered parsed.scheme = "coaps".toList
  userInfo : parsed.username = none ∧ parsed.password = none
  rest : parsed.path = "" ∧ parsed.query = "" ∧ parsed.fragment = ""
  host : ∃ hostname, parsed.hostname = some hostname ∧ hostname ≠ "" ∧
    NamesSource library family sourceKey (library.unquote hostname)
  port : port = parsed.port.getD 5684

/-- An entry of an `eps` list with such a URI, and with what more is asked of the URI. -/
def Advertises (library : UriLibrary) (family : AddressFamily) (sourceKey : HostKey)
    (Asked : UriParts → Prop) (endpoint : CborValue) (port : ℤ) : Prop :=
  ∃ entries uri parsed, endpoint = .dict entries ∧ CborDict.get entries "ep" = .str uri ∧
    library.urlsplit uri = some parsed ∧ Asked parsed ∧
    BoundUri library family sourceKey parsed port

/-- The port of a URI in the `eps` of some link. -/
def EpsPort (library : UriLibrary) (family : AddressFamily) (sourceKey : HostKey)
    (links : List CborDict) (port : ℤ) : Prop :=
  ∃ link ∈ links, ∃ endpoints, CborDict.get link "eps" = .list endpoints ∧
    ∃ endpoint ∈ endpoints, Advertises library family sourceKey (fun _ => True) endpoint port

/-- The URI does not end in a colon without a port. -/
def UriParts.Ported (parsed : UriParts) : Prop := parsed.netloc.toList.getLast? ≠ some ':'

/-- The port of a URI that is read: one of the first of its link, and with no empty port. -/
def ReadEpsPort (library : UriLibrary) (family : AddressFamily) (sourceKey : HostKey)
    (links : List CborDict) (port : ℤ) : Prop :=
  ∃ link ∈ links, ∃ endpoints, CborDict.get link "eps" = .list endpoints ∧
    ∃ endpoint ∈ endpoints.take maxEndpointUrisPerLink,
      Advertises library family sourceKey UriParts.Ported endpoint port

/-- The link is the device's own doxm resource. -/
structure DoxmLink (link : CborDict) : Prop where
  href : CborDict.get link "href" = .str "/oic/sec/doxm"
  resourceType : CborDict.get link "rt" = .str "oic.r.doxm" ∨
    ∃ resourceTypes, CborDict.get link "rt" = .list resourceTypes ∧
      .str "oic.r.doxm" ∈ resourceTypes

/-- The port of the policy of a secure doxm link. -/
def PolicyPort (links : List CborDict) (port : ℤ) : Prop :=
  ∃ link ∈ links, DoxmLink link ∧ ∃ policy, CborDict.get link "p" = .dict policy ∧
    CborDict.get policy "sec" = .bool true ∧ CborDict.get policy "port" = .int port

variable {library : UriLibrary} {family : AddressFamily} {sourceKey : HostKey}

/-! ### Hosts -/

theorem rsplitZone_eq {hostname address zone : String} (last : '%' ∉ zone.toList)
    (split : hostname.toList = address.toList ++ '%' :: zone.toList) :
    rsplitZone hostname = (address, zone) := by
  have plain : ∀ char ∈ zone.toList.reverse, decide (char ≠ '%') = true := by
    intro char charMem
    apply decide_eq_true
    rintro rfl
    exact last (List.mem_reverse.mp charMem)
  have reversed : hostname.toList.reverse =
      zone.toList.reverse ++ '%' :: address.toList.reverse := by
    rw [split]
    simp
  simp only [rsplitZone, reversed, List.takeWhile_append_of_pos plain,
    List.dropWhile_append_of_pos plain]
  simp

/-- The last percent sign of a host. -/
theorem exists_zone {hostname : String} (zoned : '%' ∈ hostname.toList) :
    ∃ address zone : String, '%' ∉ zone.toList ∧
      hostname.toList = address.toList ++ '%' :: zone.toList := by
  rcases List.eq_append_cons_of_mem (List.mem_reverse.mpr zoned) with
    ⟨zone, address, split, last⟩
  refine ⟨String.ofList address.reverse, String.ofList zone.reverse, ?_, ?_⟩
  · simpa using last
  · rw [← List.reverse_reverse hostname.toList, split]
    simp

theorem namesSource_plain {hostname : String} (unzoned : '%' ∉ hostname.toList) :
    NamesSource library family sourceKey hostname ↔
      library.inetPton family hostname = some sourceKey.packed ∧
        (family = .inet → sourceKey.scopeId = 0) := by
  constructor
  · rintro ⟨address, zone, literal, packed, scope⟩
    cases literal with
    | plain => exact ⟨packed, scope⟩
    | zoned last split =>
        rw [split] at unzoned
        simp at unzoned
  · rintro ⟨packed, scope⟩
    exact ⟨hostname, none, .plain unzoned, packed, scope⟩

theorem namesSource_zoned {hostname address zone : String} (last : '%' ∉ zone.toList)
    (split : hostname.toList = address.toList ++ '%' :: zone.toList) :
    NamesSource library .inet6 sourceKey hostname ↔
      library.inetPton .inet6 address = some sourceKey.packed ∧
        uriScopeId library zone = .ok (some sourceKey.scopeId) := by
  constructor
  · rintro ⟨other, otherZone, literal, packed, scope⟩
    cases literal with
    | plain unzoned =>
        rw [split] at unzoned
        simp at unzoned
    | zoned otherLast otherSplit =>
        have same := (rsplitZone_eq last split).symm.trans (rsplitZone_eq otherLast otherSplit)
        cases same
        exact ⟨packed, scope⟩
  · rintro ⟨packed, scope⟩
    exact ⟨address, some zone, .zoned last split, packed, scope⟩

theorem not_namesSource_inet {hostname : String} (zoned : '%' ∈ hostname.toList) :
    ¬ NamesSource library .inet sourceKey hostname := by
  rintro ⟨address, zone, literal, -⟩
  cases literal with
  | plain unzoned => exact unzoned zoned

/-- What `literalAddress` gives names the source if its address and its scope do. -/
theorem namesSource_iff {hostname : String} {literal : Option (String × ℤ)}
    (named : literalAddress library family sourceKey hostname = .ok literal) :
    NamesSource library family sourceKey hostname ↔
      ∃ address, literal = some (address, sourceKey.scopeId) ∧
        library.inetPton family address = some sourceKey.packed := by
  cases family with
  | inet6 =>
      simp only [literalAddress] at named
      split_ifs at named with zoned
      · rcases exists_zone zoned with ⟨address, zone, last, split⟩
        rw [rsplitZone_eq last split] at named
        rcases Fallible.bind_eq_ok.mp named with ⟨scopeId, inScope, same⟩
        cases same
        rw [namesSource_zoned last split, inScope]
        cases scopeId with
        | none => simp
        | some scopeId => simp [and_comm, eq_comm]
      · cases named
        rw [namesSource_plain zoned]
        simp
  | inet =>
      simp only [literalAddress] at named
      split_ifs at named with zoned
      · cases named
        simp [not_namesSource_inet zoned]
      · cases named
        rw [namesSource_plain zoned]
        simp [and_comm, eq_comm]

theorem pack_eq_iff {packed : Option ByteString} {scopeId : ℤ} :
    packed.map (⟨·, scopeId⟩) = some sourceKey ↔
      scopeId = sourceKey.scopeId ∧ packed = some sourceKey.packed := by
  rcases sourceKey with ⟨sourcePacked, sourceScope⟩
  cases packed <;> simp [and_comm]

/-- A literal with its scope, packed, is the host key of the source. -/
theorem literal_atSource {address : String} {scopeId : ℤ} :
    (∃ other, some (address, scopeId) = some (other, sourceKey.scopeId) ∧
      library.inetPton family other = some sourceKey.packed) ↔
      (library.inetPton family address).map (⟨·, scopeId⟩) = some sourceKey := by
  rw [pack_eq_iff]
  simp only [Option.some.injEq, Prod.mk.injEq]
  constructor
  · rintro ⟨_, ⟨rfl, scope⟩, packed⟩
    exact ⟨scope, packed⟩
  · rintro ⟨scope, packed⟩
    exact ⟨address, ⟨rfl, scope⟩, packed⟩

/-- The URI has a host, and nothing else but perhaps a port. -/
def UriParts.Bare (parsed : UriParts) : Prop :=
  ¬(parsed.hostname.getD "" = "" ∨ parsed.username ≠ none ∨ parsed.password ≠ none ∨
    parsed.path ≠ "" ∨ parsed.query ≠ "" ∨ parsed.fragment ≠ "" ∨
    parsed.netloc.toList.getLast? = some ':')

theorem boundUri_iff {parsed : UriParts} {port : ℤ} :
    parsed.Ported ∧ BoundUri library family sourceKey parsed port ↔
      lowered parsed.scheme = "coaps".toList ∧ parsed.Bare ∧
        NamesSource library family sourceKey (library.unquote (parsed.hostname.getD "")) ∧
        port = parsed.port.getD 5684 := by
  constructor
  · rintro ⟨ported, scheme, ⟨username, password⟩, ⟨path, query, fragment⟩,
      ⟨hostname, isHost, nonempty, names⟩, isPort⟩
    refine ⟨scheme, ?_, by simpa [isHost] using names, isPort⟩
    unfold UriParts.Ported at ported
    simp [UriParts.Bare, isHost, nonempty, username, password, path, query, fragment, ported]
  · rintro ⟨scheme, bare, names, isPort⟩
    simp only [UriParts.Bare, not_or, ne_eq, not_not] at bare
    rcases bare with ⟨nonempty, username, password, path, query, fragment, ported⟩
    cases isHost : parsed.hostname with
    | none => simp [isHost] at nonempty
    | some hostname =>
        simp only [isHost, Option.getD_some] at nonempty names
        exact ⟨ported, scheme, ⟨username, password⟩, ⟨path, query, fragment⟩,
          ⟨hostname, isHost, nonempty, names⟩, isPort⟩

/-- An endpoint matches exactly with the port of a URI at the source, if the port is one. -/
theorem matched_iff {uri : String} {parsed : UriParts} {status : EndpointStatus} {port : ℕ}
    (split : library.urlsplit uri = some parsed)
    (classified : secureEndpointForSource library (.str uri) family sourceKey = .ok status) :
    status = .matched port ↔ (1 ≤ port ∧ port ≤ 65535) ∧ parsed.Ported ∧
      BoundUri library family sourceKey parsed port := by
  rw [boundUri_iff]
  simp only [secureEndpointForSource, split] at classified
  by_cases scheme : lowered parsed.scheme = "coaps".toList
  · rw [if_neg (not_not.mpr scheme)] at classified
    by_cases bare : parsed.Bare
    · rw [if_neg bare] at classified
      rcases Fallible.bind_eq_ok.mp classified with ⟨literal, named, matched⟩
      rw [namesSource_iff named]
      rcases literal with _ | ⟨address, scopeId⟩
      · cases matched
        simp
      rcases Fallible.bind_eq_ok.mp matched with ⟨packed, packs, matched⟩
      have isPacked := Except.ok.inj (Fallible.ite_error_eq_ok.mp packs).2
      subst isPacked
      rw [literal_atSource]
      split_ifs at matched with apart valid
      · cases matched
        simp [apart]
      · cases matched
        simp only [scheme, bare, not_not.mp apart, true_and, Nat.cast_inj,
          EndpointStatus.matched.injEq]
        constructor
        · rintro rfl
          exact ⟨valid, rfl⟩
        · rintro ⟨-, rfl⟩
          rfl
      · cases matched
        constructor
        · intro same
          cases same
        · rintro ⟨isValid, -, -, -, isPort⟩
          rw [Nat.cast_inj.mp isPort] at isValid
          exact absurd isValid valid
    · rw [if_pos (not_not.mp bare)] at classified
      cases classified
      simp [bare]
  · rw [if_pos scheme] at classified
    cases classified
    constructor
    · intro same
      cases same
    · rintro ⟨-, isCoaps, -⟩
      exact absurd isCoaps scheme

/-! ### Ports -/

theorem mem_seen_addPort (found : FoundPorts) (value : CborValue) (port : ℤ) :
    port ∈ (addPort found value).seen ↔
      port ∈ found.seen ∨ value = .int port ∧ 1 ≤ port ∧ port ≤ 65535 := by
  cases value with
  | int number =>
      simp only [addPort, CborValue.int.injEq]
      split_ifs with new
      · simp only [Finset.mem_insert]
        constructor
        · rintro (rfl | earlier)
          · exact .inr ⟨rfl, new.1⟩
          · exact .inl earlier
        · rintro (earlier | ⟨rfl, -⟩)
          · exact .inr earlier
          · exact .inl rfl
      · constructor
        · exact .inl
        · rintro (earlier | ⟨rfl, valid⟩)
          · exact earlier
          · exact not_not.mp fun unseen => new ⟨valid, unseen⟩
  | none | bool | str | list | dict | other => simp [addPort]

/-- Ports are only added at the end, and only ports that were not met before. -/
structure FoundPorts.Extends (values : List CborValue) (before after : FoundPorts) : Prop where
  split : ∃ added, after.ports = before.ports ++ added ∧
    ∀ port ∈ added, port ∉ before.seen ∧ .int port ∈ values
  seen : before.seen ⊆ after.seen

theorem addPort_extends (found : FoundPorts) (value : CborValue) :
    found.Extends [value] (addPort found value) := by
  refine ⟨?_, fun port portMem => (mem_seen_addPort found value port).mpr (.inl portMem)⟩
  cases value with
  | int number =>
      simp only [addPort]
      split_ifs with new
      · simp only [FoundPorts.kept]
        split_ifs
        · exact ⟨[number], rfl, by simpa using new.2⟩
        · exact ⟨[], by simp, by simp⟩
      · exact ⟨[], by simp, by simp⟩
  | none | bool | str | list | dict | other => exact ⟨[], by simp [addPort], by simp⟩

theorem foldl_addPort_extends (found : FoundPorts) (values : List CborValue) :
    found.Extends values (values.foldl addPort found) := by
  induction values generalizing found with
  | nil => exact ⟨⟨[], by simp, by simp⟩, subset_rfl⟩
  | cons value values ih =>
      rcases addPort_extends found value with ⟨⟨first, firstPorts, firstNew⟩, firstSeen⟩
      rcases ih (addPort found value) with ⟨⟨later, laterPorts, laterNew⟩, laterSeen⟩
      refine ⟨⟨first ++ later, ?_, fun port portMem => ?_⟩, firstSeen.trans laterSeen⟩
      · rw [List.foldl_cons, laterPorts, firstPorts, List.append_assoc]
      · rcases List.mem_append.mp portMem with isFirst | isLater
        · rcases firstNew port isFirst with ⟨unseen, isValue⟩
          exact ⟨unseen, List.mem_cons.mpr (.inl (List.mem_singleton.mp isValue))⟩
        · rcases laterNew port isLater with ⟨unseen, isValue⟩
          exact ⟨fun seen => unseen (firstSeen seen), List.mem_cons_of_mem _ isValue⟩

theorem namesDoxm_iff (value : CborValue) : namesDoxm value = true ↔
    value = .str "oic.r.doxm" ∨
      ∃ resourceTypes, value = .list resourceTypes ∧ .str "oic.r.doxm" ∈ resourceTypes := by
  cases value with
  | str resourceType => simp [namesDoxm]
  | list resourceTypes =>
      simp only [namesDoxm, List.any_eq_true, reduceCtorEq, CborValue.list.injEq, false_or,
        exists_eq_left']
      constructor
      · rintro ⟨resourceType, listed, named⟩
        cases resourceType with
        | str text =>
            rw [of_decide_eq_true named] at listed
            exact listed
        | none | bool | int | list | dict | other => cases named
      · intro listed
        exact ⟨_, listed, decide_eq_true rfl⟩
  | none | bool | int | dict | other => simp [namesDoxm]

theorem isDoxmLink_iff (link : CborDict) : isDoxmLink link = true ↔ DoxmLink link := by
  constructor
  · intro isDoxm
    unfold isDoxmLink at isDoxm
    split at isDoxm
    · rename_i href found
      rw [Bool.and_eq_true, decide_eq_true_iff, namesDoxm_iff] at isDoxm
      exact ⟨by rw [found, isDoxm.1], isDoxm.2⟩
    · cases isDoxm
  · rintro ⟨href, resourceType⟩
    simp only [isDoxmLink, href, (namesDoxm_iff _).mpr resourceType]
    decide

theorem mem_policyPort (link : CborDict) (port : ℤ) :
    .int port ∈ policyPort link ↔ DoxmLink link ∧ ∃ policy,
      CborDict.get link "p" = .dict policy ∧ CborDict.get policy "sec" = .bool true ∧
        CborDict.get policy "port" = .int port := by
  rw [← isDoxmLink_iff]
  constructor
  · intro isPort
    unfold policyPort at isPort
    split_ifs at isPort with isDoxm
    · split at isPort
      · rename_i policy found
        split at isPort
        · rename_i secure
          exact ⟨isDoxm, policy, found, secure, (List.mem_singleton.mp isPort).symm⟩
        · cases isPort
      · cases isPort
    · cases isPort
  · rintro ⟨isDoxm, policy, found, secure, isPort⟩
    simp [policyPort, isDoxm, found, secure, isPort]

/-! ### Scanning -/

/-- An entry of an `eps` list advertises the port that it matches with. -/
theorem advertises_iff {entries : CborDict} {status : EndpointStatus} (port : ℤ)
    (classified : secureEndpointForSource library (CborDict.get entries "ep") family sourceKey =
      .ok status) :
    (1 ≤ port ∧ port ≤ 65535) ∧
        Advertises library family sourceKey UriParts.Ported (.dict entries) port ↔
      ∃ number : ℕ, status = .matched number ∧ port = number := by
  constructor
  · rintro ⟨valid, _, uri, parsed, same, isUri, split, ported, bound⟩
    cases same
    rw [isUri] at classified
    have isPort := bound.port
    refine ⟨parsed.port.getD 5684, ?_, isPort⟩
    rw [isPort] at valid bound
    exact (matched_iff split classified).mpr ⟨by exact_mod_cast valid, ported, bound⟩
  · rintro ⟨number, rfl, rfl⟩
    unfold secureEndpointForSource at classified
    split at classified
    · rename_i uri isUri
      split at classified
      · split_ifs at classified
        · cases classified
        · cases classified
      · rename_i parsed split
        have matched : secureEndpointForSource library (.str uri) family sourceKey =
            .ok (.matched number) := by
          rw [← classified]
          simp only [secureEndpointForSource, split]
        rcases (matched_iff split matched).mp rfl with ⟨valid, ported, bound⟩
        exact ⟨by exact_mod_cast valid, entries, uri, parsed, rfl, isUri, split, ported, bound⟩
    · cases classified

/-- What reading some entries of an `eps` list has added. -/
structure EndpointsRead (library : UriLibrary) (family : AddressFamily) (sourceKey : HostKey)
    (start : PortScan) (endpoints : List CborValue) (scan : PortScan) : Prop where
  seen : ∀ port, port ∈ scan.found.seen ↔ port ∈ start.found.seen ∨
    (1 ≤ port ∧ port ≤ 65535) ∧
      ∃ endpoint ∈ endpoints, Advertises library family sourceKey UriParts.Ported endpoint port
  policyPorts : scan.policyPorts = start.policyPorts

theorem EndpointsRead.step {start scan next : PortScan} {endpoints : List CborValue}
    {endpoint : CborValue}
    (read : EndpointsRead library family sourceKey start endpoints scan)
    (scanned : scanEndpoint library family sourceKey scan endpoint = .ok next) :
    EndpointsRead library family sourceKey start (endpoints ++ [endpoint]) next := by
  have grows : next.policyPorts = scan.policyPorts ∧ ∀ port, port ∈ next.found.seen ↔
      port ∈ scan.found.seen ∨ (1 ≤ port ∧ port ≤ 65535) ∧
        Advertises library family sourceKey UriParts.Ported endpoint port := by
    unfold scanEndpoint at scanned
    split at scanned
    · rename_i entries
      rcases Fallible.bind_eq_ok.mp scanned with ⟨status, classified, added⟩
      have advertised := fun port => advertises_iff port classified
      cases status with
      | matched number =>
          cases added
          refine ⟨rfl, fun port => ?_⟩
          have valid := ((advertised number).mpr ⟨number, rfl, rfl⟩).1
          rw [advertised, mem_seen_addPort]
          apply or_congr_right
          constructor
          · rintro ⟨same, -⟩
            cases same
            exact ⟨number, rfl, rfl⟩
          · rintro ⟨other, same, rfl⟩
            cases same
            exact ⟨rfl, valid⟩
      | untrusted =>
          cases added
          refine ⟨rfl, fun port => ?_⟩
          rw [advertised]
          simp
      | ignore =>
          cases added
          refine ⟨rfl, fun port => ?_⟩
          rw [advertised]
          simp
    · rename_i noDict
      cases scanned
      refine ⟨rfl, fun port => ⟨.inl, ?_⟩⟩
      rintro (earlier | ⟨-, entries, _, _, isDict, -⟩)
      · exact earlier
      · exact absurd isDict (noDict entries)
  refine ⟨fun port => ?_, grows.1.trans read.policyPorts⟩
  rw [grows.2, read.seen]
  simp only [List.mem_append, List.mem_singleton, or_and_right, exists_or, exists_eq_left]
  rw [and_or_left, or_assoc]

/-- What reading some links has found. -/
structure LinksRead (library : UriLibrary) (family : AddressFamily) (sourceKey : HostKey)
    (links : List CborDict) (scan : PortScan) : Prop where
  seen : ∀ port, port ∈ scan.found.seen ↔
    (1 ≤ port ∧ port ≤ 65535) ∧ ReadEpsPort library family sourceKey links port
  policyPorts : ∀ port, .int port ∈ scan.policyPorts ↔ PolicyPort links port

theorem LinksRead.step {links : List CborDict} {link : CborDict} {scan next : PortScan}
    (read : LinksRead library family sourceKey links scan)
    (scanned : scanLink library family sourceKey scan link = .ok next) :
    LinksRead library family sourceKey (links ++ [link]) next := by
  have grows : next.policyPorts = scan.policyPorts ++ policyPort link ∧
      ∀ port, port ∈ next.found.seen ↔ port ∈ scan.found.seen ∨ (1 ≤ port ∧ port ≤ 65535) ∧
        ReadEpsPort library family sourceKey [link] port := by
    unfold scanLink at scanned
    split at scanned
    · rename_i endpoints found
      have fresh : EndpointsRead library family sourceKey
          { scan with policyPorts := scan.policyPorts ++ policyPort link } []
          { scan with policyPorts := scan.policyPorts ++ policyPort link } := by
        refine ⟨fun port => ?_, rfl⟩
        simp
      have endpointsRead := Fallible.foldlM_keeps
        (fun _ _ _ _ => EndpointsRead.step) fresh scanned
      refine ⟨endpointsRead.policyPorts, fun port => ?_⟩
      rw [endpointsRead.seen]
      simp [ReadEpsPort, found]
    · rename_i noList
      cases scanned
      refine ⟨rfl, fun port => ⟨.inl, ?_⟩⟩
      rintro (earlier | ⟨-, other, isLink, endpoints, isList, -⟩)
      · exact earlier
      · rw [List.mem_singleton.mp isLink] at isList
        exact absurd isList (noList endpoints)
  refine ⟨fun port => ?_, fun port => ?_⟩
  · rw [grows.2, read.seen, ← and_or_left]
    simp only [ReadEpsPort, List.mem_append, or_and_right, exists_or]
  · rw [grows.1, List.mem_append, read.policyPorts, mem_policyPort]
    simp only [PolicyPort, List.mem_append, List.mem_singleton, or_and_right, exists_or,
      exists_eq_left]

/-- What is read is in some `eps`. -/
theorem ReadEpsPort.epsPort {links : List CborDict} {port : ℤ}
    (isRead : ReadEpsPort library family sourceKey links port) :
    EpsPort library family sourceKey links port := by
  rcases isRead with ⟨link, linkMem, endpoints, found, endpoint, endpointMem, advertises⟩
  rcases advertises with ⟨entries, uri, parsed, isDict, isUri, split, -, bound⟩
  exact ⟨link, linkMem, endpoints, found, endpoint, List.mem_of_mem_take endpointMem, entries, uri,
    parsed, isDict, isUri, split, trivial, bound⟩

/-- Whatever the status says, the ports are those that were found. -/
theorem ports_of_status {found : FoundPorts} {untrusted : Bool} {status : PortsStatus}
    {ports : List ℤ}
    (returned : (if found.ports ≠ [] then .ok (.found, found.ports)
      else if untrusted then .ok (.untrusted, []) else .ok (.absent, []) :
        Except PythonError (PortsStatus × List ℤ)) = .ok (status, ports)) :
    ports = found.ports := by
  by_cases none : found.ports = []
  · rw [none]
    rw [if_neg (not_not.mpr none)] at returned
    cases untrusted <;> cases returned <;> rfl
  · rw [if_pos none] at returned
    cases returned
    rfl

/--
The ports that are returned are few, distinct and in range. Each is the port of a coaps URI at the
source or the policy port of the device's own doxm link, and those of the URIs that are read come
first.
-/
theorem advertised_ports_sound (library : UriLibrary) (links : List CborDict)
    (family : AddressFamily) (sourceKey : HostKey) {status : PortsStatus} {ports : List ℤ}
    (returned : portsFromLinks library links family sourceKey = .ok (status, ports)) :
    ports.length ≤ maxPorts ∧ ports.Nodup ∧
      (∀ port ∈ ports, (1 ≤ port ∧ port ≤ 65535) ∧
        (EpsPort library family sourceKey links port ∨ PolicyPort links port)) ∧
      ports.Pairwise fun earlier later =>
        ReadEpsPort library family sourceKey links later →
          ReadEpsPort library family sourceKey links earlier := by
  rcases Fallible.bind_eq_ok.mp returned with ⟨scan, scanned, returned⟩
  have read : LinksRead library family sourceKey ([] ++ links) scan := by
    apply Fallible.foldlM_keeps (fun _ _ _ _ => LinksRead.step) _ scanned
    exact ⟨by simp [FoundPorts.empty, ReadEpsPort], by simp [PolicyPort]⟩
  rw [List.nil_append] at read
  have same : ports = (scan.policyPorts.foldl addPort scan.found).ports :=
    ports_of_status returned
  generalize isFound : scan.policyPorts.foldl addPort scan.found = found at same
  subst same
  have grown := foldl_addPort_extends scan.found scan.policyPorts
  rw [isFound] at grown
  rcases grown.split with ⟨added, split, isAdded⟩
  have isRead : ∀ port ∈ scan.found.ports, ReadEpsPort library family sourceKey links port := by
    intro port portMem
    exact ((read.seen port).mp (scan.found.isSeen port portMem)).2
  have valid : ∀ port ∈ found.ports, 1 ≤ port ∧ port ≤ 65535 := by
    intro port portMem
    exact found.valid port (found.isSeen port portMem)
  have isPolicy : ∀ port ∈ added, PolicyPort links port ∧
      ¬ ReadEpsPort library family sourceKey links port := by
    intro port portMem
    rcases isAdded port portMem with ⟨unseen, isValue⟩
    refine ⟨(read.policyPorts port).mp isValue, fun isEps => unseen ?_⟩
    exact (read.seen port).mpr ⟨valid port (split ▸ List.mem_append_right _ portMem), isEps⟩
  refine ⟨found.atMost, found.nodup, fun port portMem => ⟨valid port portMem, ?_⟩, ?_⟩
  · rw [split] at portMem
    rcases List.mem_append.mp portMem with isEps | isPort
    · exact .inl (isRead port isEps).epsPort
    · exact .inr (isPolicy port isPort).1
  · rw [split]
    refine List.pairwise_append.mpr ⟨?_, ?_, ?_⟩
    · apply List.pairwise_of_forall_mem_list
      intro earlier earlierMem _ _ _
      exact isRead earlier earlierMem
    · apply List.pairwise_of_forall_mem_list
      intro _ _ later laterMem isEps
      exact absurd isEps (isPolicy later laterMem).2
    · intro earlier earlierMem _ _ _
      exact isRead earlier earlierMem

/-- What the functions outside do with two URIs of one IPv4 source. -/
def sampleLibrary : UriLibrary where
  urlsplit uri :=
    if uri = "coaps://192.0.2.20:" then
      some ⟨"coaps", "192.0.2.20:", "", "", "", some "192.0.2.20", none, none, none⟩
    else if uri = "coaps://192.0.2.20:7000" then
      some ⟨"coaps", "192.0.2.20:7000", "", "", "", some "192.0.2.20", some 7000, none, none⟩
    else none
  unquote := id
  inetPton family address :=
    if family = .inet ∧ address = "192.0.2.20" then some [192, 0, 2, 20] else none
  ifNametoindex _ := none
  tables := .ascii

def sampleSource : HostKey := ⟨[192, 0, 2, 20], 0⟩

/-- A doxm link with the port of its policy. -/
def doxmLink (port : ℤ) : CborDict :=
  [("href", .str "/oic/sec/doxm"), ("rt", .str "oic.r.doxm"),
    ("p", .dict [("sec", .bool true), ("port", .int port)])]

def endpointEntry (uri : String) : CborValue := .dict [("ep", .str uri)]

theorem advertised_ports_sound_example :
    let links : List CborDict :=
      [doxmLink 6000, [("eps", .list [endpointEntry "coaps://192.0.2.20:7000"])]]
    portsFromLinks sampleLibrary links .inet sampleSource = .ok (.found, [7000, 6000]) ∧
      [7000, 6000].Pairwise fun earlier later =>
        ReadEpsPort sampleLibrary .inet sampleSource links later →
          ReadEpsPort sampleLibrary .inet sampleSource links earlier := by
  intro links
  have returned : portsFromLinks sampleLibrary links .inet sampleSource =
      .ok (.found, [7000, 6000]) := by
    decide +kernel
  exact ⟨returned, (advertised_ports_sound _ _ _ _ returned).2.2.2⟩

/--
The port of a URI with an empty port and that of the 33rd entry are not read. Where policies name
them too, they are returned after a port that only a policy names.
-/
theorem advertised_ports_out_of_order :
    let unread : CborDict := [("eps", .list (endpointEntry "coaps://192.0.2.20:" ::
      List.replicate 31 .other ++ [endpointEntry "coaps://192.0.2.20:7000"]))]
    let links : List CborDict := [doxmLink 6000, doxmLink 5684, doxmLink 7000, unread]
    portsFromLinks sampleLibrary links .inet sampleSource = .ok (.found, [6000, 5684, 7000]) ∧
      EpsPort sampleLibrary .inet sampleSource links 5684 ∧
      EpsPort sampleLibrary .inet sampleSource links 7000 ∧
      ¬ EpsPort sampleLibrary .inet sampleSource links 6000 ∧
      ¬ [6000, 5684, 7000].Pairwise fun earlier later =>
        EpsPort sampleLibrary .inet sampleSource links later →
          EpsPort sampleLibrary .inet sampleSource links earlier := by
  intro unread links
  have atSource : NamesSource sampleLibrary .inet sampleSource "192.0.2.20" :=
    ⟨"192.0.2.20", none, .plain (by decide +kernel), by decide +kernel, fun _ => rfl⟩
  have first : EpsPort sampleLibrary .inet sampleSource links 5684 := by
    refine ⟨unread, by simp [links], _, rfl, _, List.mem_cons_self, _, _, _, rfl, rfl, rfl,
      trivial, by decide, ⟨rfl, rfl⟩, ⟨rfl, rfl, rfl⟩, ⟨_, rfl, by decide, atSource⟩, rfl⟩
  have last : EpsPort sampleLibrary .inet sampleSource links 7000 := by
    refine ⟨unread, by simp [links], _, rfl, endpointEntry "coaps://192.0.2.20:7000", by simp, _, _,
      _, rfl, rfl, rfl, trivial, by decide, ⟨rfl, rfl⟩, ⟨rfl, rfl, rfl⟩,
      ⟨_, rfl, by decide, atSource⟩, rfl⟩
  have neither : ¬ EpsPort sampleLibrary .inet sampleSource links 6000 := by
    rintro ⟨_, -, _, -, _, -, _, uri, parsed, -, -, split, -, bound⟩
    have isPort := bound.port
    simp only [sampleLibrary] at split
    split_ifs at split
    · cases split
      exact absurd isPort (by decide)
    · cases split
      exact absurd isPort (by decide)
  refine ⟨by decide +kernel, first, last, neither, ?_⟩
  intro ordered
  exact neither ((List.pairwise_cons.mp ordered).1 5684 (by simp) first)

end Discovery

end SmartThingsLocal
