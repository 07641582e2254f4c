import SmartThingsLocal.Discovery.ResourceFetch

/-!
# UDP endpoints

`resolve_udp_endpoints` of `protocol/endpoint.py`: the candidates of `getaddrinfo` that are UDP
destinations, each once and in the order of the resolver. What `getaddrinfo` answers is given.
-/

namespace SmartThingsLocal

namespace Endpoint

open Discovery (AddressFamily InetPton)

/-- `(host, port)` or `(host, port, flowinfo, scope_id)`. -/
inductive SocketAddress
  | inet (host : String) (port : ℤ)
  | inet6 (host : String) (port flowinfo scopeId : ℤ)
  deriving DecidableEq

namespace SocketAddress

def host : SocketAddress → String
  | .inet host _ => host
  | .inet6 host _ _ _ => host

def port : SocketAddress → ℤ
  | .inet _ port => port
  | .inet6 _ port _ _ => port

/-- `len(sockaddr)`. -/
def length : SocketAddress → ℕ
  | .inet _ _ => 2
  | .inet6 _ _ _ _ => 4

end SocketAddress

def sockaddrLength (family : AddressFamily) : ℕ := if family = .inet then 2 else 4

def ValidPort (port : ℤ) : Prop := 1 ≤ port ∧ port ≤ 65535

instance (port : ℤ) : Decidable (ValidPort port) := inferInstanceAs (Decidable (_ ∧ _))

/-- How the resolver fails: with `EndpointError`, or with an exception of its checks. -/
inductive EndpointFailure
  | endpoint (error : SmartThingsLocalError)
  | python (error : PythonError)
  deriving DecidableEq, Repr

/-- One concrete destination, whose address has the form of its family. -/
structure ResolvedUdpEndpoint where
  family : AddressFamily
  sockaddr : SocketAddress
  fits : sockaddr.length = sockaddrLength family
  validPort : ValidPort sockaddr.port
  deriving DecidableEq

namespace ResolvedUdpEndpoint

def host (endpoint : ResolvedUdpEndpoint) : String := endpoint.sockaddr.host

/-- The checks of `__post_init__`. -/
def create (family : AddressFamily) (sockaddr : SocketAddress) :
    Except PythonError ResolvedUdpEndpoint :=
  if fits : sockaddr.length = sockaddrLength family then
    if validPort : ValidPort sockaddr.port then .ok ⟨family, sockaddr, fits, validPort⟩
    else .error (.valueError "port must be between 1 and 65535")
  else .error (.valueError "sockaddr does not match its address family")

end ResolvedUdpEndpoint

def sockDgram : ℤ := 2
def ipprotoUdp : ℤ := 17

/-- One result of `getaddrinfo`; a family or an address of another form is `none`. -/
structure AddrInfo where
  family : Option AddressFamily
  socktype : ℤ
  protocol : ℤ
  sockaddr : Option SocketAddress

/-- The family and the address of a result that is a UDP destination. -/
def AddrInfo.usable (info : AddrInfo) : Option (AddressFamily × SocketAddress) :=
  match info.family, info.sockaddr with
  | some family, some sockaddr =>
      if info.socktype ∉ [0, sockDgram] then none
      else if info.protocol ∉ [0, ipprotoUdp] then none
      else if sockaddr.length ≠ sockaddrLength family then none
      else some (family, sockaddr)
  | _, _ => none

/-- The loop over the results, with the endpoints so far. -/
def collectEndpoints : List AddrInfo → List ResolvedUdpEndpoint →
    Except PythonError (List ResolvedUdpEndpoint)
  | [], endpoints => .ok endpoints
  | info :: infos, endpoints =>
      match info.usable with
      | none => collectEndpoints infos endpoints
      | some (family, sockaddr) =>
          if endpoints.any fun seen => seen.family = family ∧ seen.sockaddr = sockaddr then
            collectEndpoints infos endpoints
          else
            match ResolvedUdpEndpoint.create family sockaddr with
            | .error error => .error error
            | .ok endpoint => collectEndpoints infos (endpoints ++ [endpoint])

/-- `socket.getaddrinfo`, with nothing where it raises. -/
abbrev Getaddrinfo : Type := String → ℤ → Option AddressFamily → Option (List AddrInfo)

/-- `resolve_udp_endpoints`. -/
def resolveUdpEndpoints (getaddrinfo : Getaddrinfo) (host : String) (port : ℤ)
    (family : Option AddressFamily) : Except EndpointFailure (List ResolvedUdpEndpoint) :=
  if host = "" then
    .error (.python (.valueError "host must be a non-empty string or bytes value"))
  else if ¬ValidPort port then
    .error (.python (.valueError "port must be between 1 and 65535"))
  else
    match getaddrinfo host port family with
    | none => .error (.endpoint .endpointError)
    | some infos =>
        match collectEndpoints infos [] with
        | .error error => .error (.python error)
        | .ok endpoints =>
            if endpoints = [] then .error (.endpoint .endpointError) else .ok endpoints

/-! ### What the resolver returns -/

theorem AddrInfo.fits_of_usable {info : AddrInfo} {family : AddressFamily}
    {sockaddr : SocketAddress} (usable : info.usable = some (family, sockaddr)) :
    sockaddr.length = sockaddrLength family := by
  unfold AddrInfo.usable at usable
  split at usable
  · split_ifs at usable with socktype protocol fits
    cases usable
    exact not_not.mp fits
  · cases usable

/-- The candidates are distinct, and each is a usable result of `getaddrinfo`. -/
theorem collectEndpoints_sound {infos : List AddrInfo} {before after : List ResolvedUdpEndpoint}
    (collected : collectEndpoints infos before = .ok after) (distinct : before.Nodup) :
    after.Nodup ∧ before <+: after ∧ ∀ endpoint ∈ after, endpoint ∈ before ∨
      ∃ info ∈ infos, info.usable = some (endpoint.family, endpoint.sockaddr) := by
  induction infos generalizing before with
  | nil =>
      cases collected
      exact ⟨distinct, List.prefix_rfl, fun _ => .inl⟩
  | cons info infos ih =>
      have later {before : List ResolvedUdpEndpoint}
          (collected : collectEndpoints infos before = .ok after) (distinct : before.Nodup) :
          after.Nodup ∧ before <+: after ∧ ∀ endpoint ∈ after, endpoint ∈ before ∨
            ∃ own ∈ info :: infos, own.usable = some (endpoint.family, endpoint.sockaddr) := by
        rcases ih collected distinct with ⟨nodup, continues, sound⟩
        refine ⟨nodup, continues, fun endpoint endpointMem => ?_⟩
        exact (sound endpoint endpointMem).imp_right fun ⟨own, ownMem, usable⟩ =>
          ⟨own, List.mem_cons_of_mem _ ownMem, usable⟩
      rw [collectEndpoints] at collected
      split at collected
      · exact later collected distinct
      · rename_i family sockaddr usable
        split_ifs at collected with seen
        · exact later collected distinct
        · unfold ResolvedUdpEndpoint.create at collected
          rw [dif_pos (AddrInfo.fits_of_usable usable)] at collected
          split_ifs at collected with validPort
          dsimp only at collected
          have fresh : (⟨family, sockaddr, AddrInfo.fits_of_usable usable, validPort⟩ :
              ResolvedUdpEndpoint) ∉ before := by
            intro present
            apply seen
            exact List.any_eq_true.mpr ⟨_, present, by simp⟩
          have distinctNext := distinct.concat fresh
          rw [List.concat_eq_append] at distinctNext
          rcases later collected distinctNext with ⟨nodup, continues, sound⟩
          refine ⟨nodup, (List.prefix_append _ _).trans continues, fun endpoint endpointMem => ?_⟩
          rcases sound endpoint endpointMem with earlier | fromInfos
          · rcases List.mem_append.mp earlier with earlier | same
            · exact .inl earlier
            · rw [List.mem_singleton.mp same]
              exact .inr ⟨info, List.mem_cons_self, usable⟩
          · exact .inr fromInfos

/-- A resolution has candidates, which are distinct results of `getaddrinfo`. -/
theorem resolveUdpEndpoints_sound {getaddrinfo : Getaddrinfo} {host : String} {port : ℤ}
    {family : Option AddressFamily} {endpoints : List ResolvedUdpEndpoint}
    (resolved : resolveUdpEndpoints getaddrinfo host port family = .ok endpoints) :
    endpoints ≠ [] ∧ endpoints.Nodup ∧ ∃ infos, getaddrinfo host port family = some infos ∧
      ∀ endpoint ∈ endpoints, ∃ info ∈ infos,
        info.usable = some (endpoint.family, endpoint.sockaddr) := by
  unfold resolveUdpEndpoints at resolved
  split_ifs at resolved
  split at resolved
  · cases resolved
  · rename_i infos answered
    split at resolved
    · cases resolved
    · rename_i collected
      split_ifs at resolved with empty
      cases resolved
      rcases collectEndpoints_sound collected List.nodup_nil with ⟨nodup, -, sound⟩
      refine ⟨empty, nodup, infos, answered, fun endpoint endpointMem => ?_⟩
      exact (sound endpoint endpointMem).resolve_left List.not_mem_nil

/-- The result of `getaddrinfo` for an endpoint. -/
def AddrInfo.ofEndpoint (endpoint : ResolvedUdpEndpoint) : AddrInfo :=
  ⟨some endpoint.family, sockDgram, ipprotoUdp, some endpoint.sockaddr⟩

/-- Every endpoint is one that the resolver can return. -/
theorem resolveUdpEndpoints_ofEndpoint {getaddrinfo : Getaddrinfo} {host : String} {port : ℤ}
    {family : Option AddressFamily} {endpoint : ResolvedUdpEndpoint} (named : host ≠ "")
    (validPort : ValidPort port)
    (answers : getaddrinfo host port family = some [.ofEndpoint endpoint]) :
    resolveUdpEndpoints getaddrinfo host port family = .ok [endpoint] := by
  have usable : (AddrInfo.ofEndpoint endpoint).usable =
      some (endpoint.family, endpoint.sockaddr) := by
    simp [AddrInfo.usable, AddrInfo.ofEndpoint, endpoint.fits]
  have created : ResolvedUdpEndpoint.create endpoint.family endpoint.sockaddr = .ok endpoint := by
    unfold ResolvedUdpEndpoint.create
    rw [dif_pos endpoint.fits, dif_pos endpoint.validPort]
  unfold resolveUdpEndpoints
  rw [if_neg named, if_neg (not_not.mpr validPort), answers]
  simp only [collectEndpoints, usable, created, List.any_nil, Bool.false_eq_true, if_false,
    List.nil_append, List.cons_ne_nil]

end Endpoint

end SmartThingsLocal
