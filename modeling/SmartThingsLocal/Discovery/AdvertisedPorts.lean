import SmartThingsLocal.Discovery.ResourceFetch
import SmartThingsLocal.Foundation.DecimalText

/-!
# Advertised secure ports

`_ports_from_links` of `protocol/ocf_discovery.py` reads secure ports from an unauthenticated
directory: from `eps` URIs that name the address the directory came from, and from the policy of
the device's own doxm link. What is outside of the repository is taken as it is: the parsing of
URIs, percent decoding, address literals and interface names.
-/

namespace SmartThingsLocal

namespace Discovery

def maxPorts : ℕ := 8
def maxEndpointUrisPerLink : ℕ := 32

/-- A decoded value; of a dictionary, the entries under text keys. -/
inductive CborValue
  | none
  | bool (value : Bool)
  | int (number : ℤ)
  | str (text : String)
  | list (items : List CborValue)
  | dict (entries : List (String × CborValue))
  | other

abbrev CborDict : Type := List (String × CborValue)

/-- `dict.get`, `None` where the key is missing. -/
def CborDict.get (entries : CborDict) (key : String) : CborValue :=
  (entries.lookup key).getD .none

/-- What `urlsplit` makes of a URI, and the properties of the result that are read. -/
structure UriParts where
  scheme : String
  netloc : String
  path : String
  query : String
  fragment : String
  hostname : Option String
  port : Option ℕ
  username : Option String
  password : Option String

/--
`urlsplit` with the properties of its result, nothing where one of them raises; `unquote`;
`socket.inet_pton` and `socket.if_nametoindex`, nothing where they raise; and the characters that
are decimal digits.
-/
structure UriLibrary where
  urlsplit : String → Option UriParts
  unquote : String → String
  inetPton : InetPton
  ifNametoindex : String → Option ℤ
  tables : TextTables

/-- `str.lower` of a text that is compared with ASCII letters. -/
def lowered (text : String) : List Char := text.toList.map Char.toLower

/-- What the endpoints of a directory have advertised. -/
inductive EndpointStatus
  | ignore
  | untrusted
  | matched (port : ℕ)
  deriving DecidableEq, Repr

inductive PortsStatus
  | found
  | absent
  | untrusted
  deriving DecidableEq, Repr

/-! ### Endpoints -/

/-- `int` of decimal digits. -/
def decimalValue (tables : TextTables) (digits : List Char) : ℕ :=
  digits.foldl (fun value digit => 10 * value + (tables.digit digit).getD 0) 0

/-- `_uri_scope_id`. -/
def uriScopeId (library : UriLibrary) (zone : String) : Except PythonError (Option ℤ) :=
  if zone.toList = [] then .ok none
  else if zone.toList.all fun char => (library.tables.digit char).isSome then
    if zone.toList.length > maxStrDigits then
      .error (.valueError "Exceeds the limit for integer string conversion")
    else
      let value := decimalValue library.tables zone.toList
      .ok (if value ≤ 0xFFFFFFFF then some value else none)
  else .ok (library.ifNametoindex zone)

/-- `hostname.rsplit('%', 1)`. -/
def rsplitZone (hostname : String) : String × String :=
  let reversed := hostname.toList.reverse
  (String.ofList ((reversed.dropWhile (· ≠ '%')).drop 1).reverse,
    String.ofList (reversed.takeWhile (· ≠ '%')).reverse)

/-- The address that a host names and the scope it is in, unless it cannot name the source. -/
def literalAddress (library : UriLibrary) (family : AddressFamily) (sourceKey : HostKey)
    (hostname : String) : Except PythonError (Option (String × ℤ)) :=
  match family with
  | .inet6 =>
      if '%' ∈ hostname.toList then do
        let (address, zone) := rsplitZone hostname
        let scopeId ← uriScopeId library zone
        return scopeId.map fun scopeId => (address, scopeId)
      -- a missing zone is the scope on which the directory arrived
      else .ok (some (hostname, sourceKey.scopeId))
  | .inet => if '%' ∈ hostname.toList then .ok none else .ok (some (hostname, 0))

/-- `inet_pton`, which raises another error for a text with a null character. -/
def packAddress (library : UriLibrary) (family : AddressFamily) (address : String) :
    Except PythonError (Option ByteString) :=
  if Char.ofNat 0 ∈ address.toList then .error (.valueError "embedded null character")
  else .ok (library.inetPton family address)

/-- `_secure_endpoint_for_source`. -/
def secureEndpointForSource (library : UriLibrary) (value : CborValue) (family : AddressFamily)
    (sourceKey : HostKey) : Except PythonError EndpointStatus :=
  match value with
  | .str uri =>
      match library.urlsplit uri with
      | none =>
          .ok (if "coaps:".toList.isPrefixOf (lowered uri) then .untrusted else .ignore)
      | some parsed =>
          if lowered parsed.scheme ≠ "coaps".toList then .ok .ignore
          else if parsed.hostname.getD "" = "" ∨ parsed.username ≠ none ∨ parsed.password ≠ none ∨
              parsed.path ≠ "" ∨ parsed.query ≠ "" ∨ parsed.fragment ≠ "" ∨
              parsed.netloc.toList.getLast? = some ':' then .ok .untrusted
          else do
            let hostname := library.unquote (parsed.hostname.getD "")
            let literal ← literalAddress library family sourceKey hostname
            match literal with
            | none => return .untrusted
            | some (address, scopeId) =>
                let packed ← packAddress library family address
                if packed.map (⟨·, scopeId⟩) ≠ some sourceKey then return .untrusted
                else
                  let port := parsed.port.getD 5684
                  if ¬(1 ≤ port ∧ port ≤ 65535) then return .untrusted
                  else return .matched port
  | _ => .ok .ignore

/-! ### Ports -/

/-- The ports to return and all ports that were met. -/
structure FoundPorts where
  ports : List ℤ
  seen : Finset ℤ
  nodup : ports.Nodup
  atMost : ports.length ≤ maxPorts
  isSeen : ∀ port ∈ ports, port ∈ seen
  valid : ∀ port ∈ seen, 1 ≤ port ∧ port ≤ 65535

namespace FoundPorts

def empty : FoundPorts where
  ports := []
  seen := ∅
  nodup := .nil
  atMost := Nat.zero_le _
  isSeen _ portMem := absurd portMem List.not_mem_nil
  valid _ portMem := absurd portMem (Finset.notMem_empty _)

variable (found : FoundPorts) {port : ℤ}

/-- The ports to return after another one was met. -/
def kept (port : ℤ) : List ℤ :=
  if found.ports.length < maxPorts then found.ports ++ [port] else found.ports

theorem kept_nodup (new : port ∉ found.seen) : (found.kept port).Nodup := by
  unfold kept
  split_ifs
  · apply found.nodup.append (List.nodup_singleton port)
    intro other otherMem isPort
    rw [List.mem_singleton] at isPort
    subst isPort
    exact new (found.isSeen other otherMem)
  · exact found.nodup

theorem kept_atMost : (found.kept port).length ≤ maxPorts := by
  unfold kept
  split_ifs with room
  · rw [List.length_append]
    exact room
  · exact found.atMost

theorem mem_kept {other : ℤ} (otherMem : other ∈ found.kept port) :
    other ∈ found.ports ∨ other = port := by
  unfold kept at otherMem
  split_ifs at otherMem
  · rcases List.mem_append.mp otherMem with earlier | isPort
    · exact .inl earlier
    · exact .inr (List.mem_singleton.mp isPort)
  · exact .inl otherMem

theorem kept_isSeen : ∀ other ∈ found.kept port, other ∈ insert port found.seen := by
  intro other otherMem
  rcases found.mem_kept otherMem with earlier | rfl
  · exact Finset.mem_insert_of_mem (found.isSeen other earlier)
  · exact Finset.mem_insert_self _ _

theorem insert_valid (valid : 1 ≤ port ∧ port ≤ 65535) :
    ∀ other ∈ insert port found.seen, 1 ≤ other ∧ other ≤ 65535 := by
  intro other otherMem
  rcases Finset.mem_insert.mp otherMem with rfl | earlier
  · exact valid
  · exact found.valid other earlier

end FoundPorts

/-- `_add_port`. -/
def addPort (found : FoundPorts) (port : CborValue) : FoundPorts :=
  match port with
  | .int port =>
      if new : (1 ≤ port ∧ port ≤ 65535) ∧ port ∉ found.seen then {
        ports := found.kept port
        seen := insert port found.seen
        nodup := found.kept_nodup new.2
        atMost := found.kept_atMost
        isSeen := found.kept_isSeen
        valid := found.insert_valid new.1 }
      else found
  | _ => found

/-- The resource types of a link, given as one text or as a list, name `oic.r.doxm`. -/
def namesDoxm : CborValue → Bool
  | .str resourceType => resourceType = "oic.r.doxm"
  | .list resourceTypes => resourceTypes.any fun
      | .str resourceType => resourceType = "oic.r.doxm"
      | _ => false
  | _ => false

/-- `_is_doxm_link`. -/
def isDoxmLink (link : CborDict) : Bool :=
  match link.get "href" with
  | .str href => href = "/oic/sec/doxm" && namesDoxm (link.get "rt")
  | _ => false

/-- The ports, whether an untrusted endpoint was met, and the ports of the policies. -/
structure PortScan where
  found : FoundPorts := .empty
  sawUntrusted : Bool := false
  policyPorts : List CborValue := []

/-- The policy port of a link, if it is a secure doxm link. -/
def policyPort (link : CborDict) : List CborValue :=
  if isDoxmLink link then
    match link.get "p" with
    | .dict policy =>
        match CborDict.get policy "sec" with
        | .bool true => [CborDict.get policy "port"]
        | _ => []
    | _ => []
  else []

/-- The body of the loop over the endpoints of a link. -/
def scanEndpoint (library : UriLibrary) (family : AddressFamily) (sourceKey : HostKey)
    (scan : PortScan) (endpoint : CborValue) : Except PythonError PortScan :=
  match endpoint with
  | .dict entries => do
      let status ← secureEndpointForSource library (CborDict.get entries "ep") family sourceKey
      match status with
      | .matched port => return { scan with found := addPort scan.found (.int port) }
      | .untrusted => return { scan with sawUntrusted := true }
      | .ignore => return scan
  | _ => .ok scan

/-- The body of the loop over the links. -/
def scanLink (library : UriLibrary) (family : AddressFamily) (sourceKey : HostKey)
    (scan : PortScan) (link : CborDict) : Except PythonError PortScan :=
  let next := { scan with policyPorts := scan.policyPorts ++ policyPort link }
  match link.get "eps" with
  | .list endpoints =>
      (endpoints.take maxEndpointUrisPerLink).foldlM (scanEndpoint library family sourceKey) next
  | _ => .ok next

/-- `_ports_from_links`. -/
def portsFromLinks (library : UriLibrary) (links : List CborDict) (family : AddressFamily)
    (sourceKey : HostKey) : Except PythonError (PortsStatus × List ℤ) := do
  let scan ← links.foldlM (scanLink library family sourceKey) {}
  let found := scan.policyPorts.foldl addPort scan.found
  if found.ports ≠ [] then return (.found, found.ports)
  else if scan.sawUntrusted then return (.untrusted, [])
  else return (.absent, [])

end Discovery

end SmartThingsLocal
