import ServerNaive.Async.Stream
import ServerNaive.Core.Address

/-! Name resolution. The resolver is an adversary that numbers the lookups made of it:
each may give another answer, or fail. -/
namespace ServerNaive
open AsyncIo StdNet

inductive DnsError where
  | notFound (host : String)
  | timeout (after : String)
  | invalidHost (host : String)
  | other (text : String)
  deriving DecidableEq

/-- The cache with the names it was asked for, oldest first, and the resolver's own text for
its errors. -/
structure DnsCache where
  answer : Nat → String → Except DnsError (List IpAddr)
  asked : List String
  errorText : DnsError → String

/-- What the next lookup of `host` will answer. -/
def DnsCache.next (cache : DnsCache) (host : String) : Except DnsError (List IpAddr) :=
  cache.answer cache.asked.length host

def DnsCache.resolveWithPortIter (cache : DnsCache) (host : String) (port : UInt16) :
    DnsCache × Except DnsError (List SocketAddr) :=
  ({ cache with asked := cache.asked ++ [host] },
    (cache.next host).map fun ips => ips.map fun ip => ⟨ip, port⟩)

def dnsErrorToIo : DnsError → IoError
  | .notFound host => ⟨.notFound, "no addresses found for " ++ host⟩
  | .timeout after => ⟨.timedOut, "DNS query timeout after " ++ after⟩
  | .invalidHost host => ⟨.invalidInput, "invalid host: " ++ host⟩
  | .other text => ⟨.other, text⟩

def resolveSocketAddr (cache : DnsCache) : Address → DnsCache × IoResult SocketAddr
  | .ipv4 ip port => (cache, .ok ⟨.v4 ip, port⟩)
  | .ipv6 ip port => (cache, .ok ⟨.v6 ip, port⟩)
  | .domain host port =>
      match cache.resolveWithPortIter host port with
      | (cache, .error e) => (cache, .error (dnsErrorToIo e))
      | (cache, .ok []) => (cache, .error ⟨.notFound, "no addresses found for " ++ host⟩)
      | (cache, .ok (sa :: _)) => (cache, .ok sa)

/-- The loop over one answer; `seen` holds the public addresses so far. -/
def inspectAnswer : List SocketAddr → List IpAddr → Bool × Option (List IpAddr)
  | [], seen => if seen = [] then (false, none) else (false, some seen)
  | sa :: rest, seen => match sa.ip with
      | .v4 ip => if isPrivateIpv4 ip then (true, none) else inspectAnswer rest (seen ++ [.v4 ip])
      | .v6 ip => if isPrivateIpv6 ip then (true, none) else inspectAnswer rest (seen ++ [.v6 ip])

def checkPrivateAndResolve (cache : DnsCache) : Address → DnsCache × Bool × Option (List IpAddr)
  | .ipv4 ip _ => (cache, isPrivateIpv4 ip, none)
  | .ipv6 ip _ => (cache, isPrivateIpv6 ip, none)
  | .domain host port =>
      match cache.resolveWithPortIter host port with
      | (cache, .error _) => (cache, false, none)
      | (cache, .ok answer) => (cache, inspectAnswer answer [])

/-- The addresses that the check looks at: the literal, or the whole answer. -/
def inspected (cache : DnsCache) : Address → List IpAddr
  | .ipv4 ip _ => [.v4 ip]
  | .ipv6 ip _ => [.v6 ip]
  | .domain host _ => (cache.next host).toOption.getD []

/-- The names that the check asks for. -/
def checkedNames : Address → List String
  | .domain host _ => [host]
  | _ => []

theorem inspectAnswer_cons (sa : SocketAddr) (rest : List SocketAddr) (seen : List IpAddr) :
    inspectAnswer (sa :: rest) seen =
      if isPrivateIp sa.ip then (true, none) else inspectAnswer rest (seen ++ [sa.ip]) := by
  obtain ⟨ip, port⟩ := sa
  cases ip <;> rfl

/-- One private address blocks the whole answer; otherwise all of it is kept, in order. -/
theorem inspectAnswer_eq (ips seen : List IpAddr) (port : UInt16) :
    inspectAnswer (ips.map fun ip => ⟨ip, port⟩) seen =
      if ips.any isPrivateIp then (true, none)
      else if seen ++ ips = [] then (false, none)
      else (false, some (seen ++ ips)) := by
  induction ips generalizing seen with
  | nil => simp only [List.map_nil, inspectAnswer, List.any_nil, List.append_nil, Bool.false_eq_true, if_false]
  | cons ip ips ih =>
      rw [List.map_cons, inspectAnswer_cons]
      by_cases blocked : isPrivateIp ip
      · simp only [blocked, if_true, List.any_cons, Bool.true_or]
      · simp only [ih, blocked, List.any_cons, Bool.false_or, List.append_assoc, List.singleton_append,
          Bool.false_eq_true, if_false]

theorem checkPrivateAndResolve_asked (cache : DnsCache) (target : Address) :
    (checkPrivateAndResolve cache target).1 =
      { cache with asked := cache.asked ++ checkedNames target } := by
  cases target with
  | ipv4 ip port => simp only [checkPrivateAndResolve, checkedNames, List.append_nil]
  | ipv6 ip port => simp only [checkPrivateAndResolve, checkedNames, List.append_nil]
  | domain host port =>
      rw [checkPrivateAndResolve, DnsCache.resolveWithPortIter]
      cases cache.next host <;> rfl

theorem checkPrivateAndResolve_private (cache : DnsCache) (target : Address) :
    (checkPrivateAndResolve cache target).2.1 = (inspected cache target).any isPrivateIp := by
  cases target with
  | ipv4 ip port => exact (Bool.or_false _).symm
  | ipv6 ip port => exact (Bool.or_false _).symm
  | domain host port =>
      rw [checkPrivateAndResolve, inspected, DnsCache.resolveWithPortIter]
      cases cache.next host with
      | error e => rfl
      | ok ips =>
          change (inspectAnswer (ips.map fun ip => ⟨ip, port⟩) []).1 = ips.any isPrivateIp
          rw [inspectAnswer_eq]
          cases ips.any isPrivateIp with
          | true => rfl
          | false => by_cases empty : [] ++ ips = [] <;> simp only [empty, if_true, if_false, Bool.false_eq_true]

/-- A target that passes: the whole answer of a domain is handed on, unless it is empty. -/
theorem checkPrivateAndResolve_resolved (cache : DnsCache) (target : Address)
    (passed : (checkPrivateAndResolve cache target).2.1 = false) :
    (checkPrivateAndResolve cache target).2.2 =
      if target.literal = none ∧ inspected cache target ≠ [] then some (inspected cache target) else none := by
  cases target with
  | ipv4 ip port => rfl
  | ipv6 ip port => rfl
  | domain host port =>
      rw [checkPrivateAndResolve_private] at passed
      rw [checkPrivateAndResolve, DnsCache.resolveWithPortIter]
      rw [inspected] at passed ⊢
      generalize cache.next host = found at passed ⊢
      cases found with
      | error e => rfl
      | ok ips =>
          change ips.any isPrivateIp = false at passed
          change (inspectAnswer (ips.map fun ip => ⟨ip, port⟩) []).2 =
            if _ ∧ ips ≠ [] then some ips else none
          rw [inspectAnswer_eq, passed]
          by_cases empty : ips = []
          · simp [empty]
          · simp [empty, Address.literal]

end ServerNaive
