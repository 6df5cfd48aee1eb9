import Mieru.Socks5.Associate
import Mieru.Socks5.Request

/-! `handleRequest` and the three command handlers, the UDP relay included. `Config` is the
part of a server's configuration `handleRequest` reads: the loopback policy and the resolver.
What the collaborators return is an `Env`. What a handler does that can be observed is a trace
of `Event`s: a reply written, a dial to `Address()`, the UDP socket opened, the relay started, a
datagram sent by the outbound pump, the socket closed. A trace ends in a `Status`: returned with
an error or `nil`, still relaying, or panicked. -/

namespace Mieru.Socks5
open Net

structure Config where
  allowLocalDestination : Bool
  resolve : List UInt8 → Except Error IP

structure TcpAddr where
  ip : IP
  port : Int
  ip_length : ip.length = 4 ∨ ip.length = 16

/-- The dialer's local address or `*net.OpError` text, the socket calls and the pumps' schedule. -/
structure Env where
  dial : List UInt8 → Except String TcpAddr
  resolveUDPAddr : Option Error
  listenUDP : Option Error
  splitHostPort : Except Error String
  atoi : String → Except Error Int
  connWrite : Option Error
  bidiCopy : Option Error
  resolveUDP : List UInt8 → Int → Except Error UdpAddr
  schedule : List Move

inductive Event where
  | write (msg : List UInt8)
  | dial (address : List UInt8)
  | listenUDP
  | relay
  | udpSend (dst : UdpAddr) (payload : List UInt8)
  | closeUDP
deriving DecidableEq, Repr

inductive Status where
  | returned (err : Option Error)
  | relaying
  | panicked
deriving DecidableEq, Repr

def stringsContains (s substr : String) : Bool :=
  (List.range (s.length + 1)).any fun i => substr.toList.isPrefixOf (s.toList.drop i)

def writeReply (env : Env) (resp : UInt8) (addr : Option AddrSpec) : List Event × Option Error :=
  match sendReply resp addr with
  | .error e => ([], some e)
  | .ok msg =>
    match env.connWrite with
    | some e => ([], some e)
    | none => ([.write msg], none)

def replyThen (env : Env) (resp : UInt8) (addr : Option AddrSpec) (other : List Event × Status) :
    List Event × Status :=
  match writeReply env resp addr with
  | (w, some e) => (w, .returned (some (.wrapf "failed to send reply: %w" [] e)))
  | (w, none) => (w ++ other.1, other.2)

def dialReply (msg : String) : UInt8 :=
  if stringsContains msg "refused" then connectionRefused
  else if stringsContains msg "network is unreachable" then networkUnreachable
  else hostUnreachable

def handleConnect (env : Env) (req : Request) : List Event × Status :=
  let dst := req.destAddr.address
  let dialed : List Event × Status :=
    match env.dial dst with
    | .error msg =>
      replyThen env (dialReply msg) none
        ([], .returned (some (.wrapf "connect to %v failed: %w" [.addrSpec req.destAddr]
          (.external "*net.OpError" msg))))
    | .ok bind =>
      replyThen env successReply (some ⟨[], bind.ip, bind.port⟩) ([.relay], .returned env.bidiCopy)
  (.dial dst :: dialed.1, dialed.2)

def handleBind (env : Env) : List Event × Status :=
  replyThen env commandNotSupported none ([], .returned none)

def relayUdp (env : Env) : List Event × Status :=
  let p := Pumps.init.run env.resolveUDP env.schedule
  (p.sent.map (fun s => .udpSend s.1 s.2) ++ (if p.closed then [.closeUDP] else []),
    match p.result with
    | some (some e) => .returned (some e)
    | some none => .panicked
    | none => if p.crashed then .panicked else .relaying)

def handleAssociate (env : Env) : List Event × Status :=
  match env.resolveUDPAddr, env.listenUDP with
  | some e, _ => ([], .returned (some (.wrapf "failed to resolve UDP address: %w" [] e)))
  | none, some e => ([], .returned (some (.wrapf "failed to listen UDP: %w" [] e)))
  | none, none =>
    let bound : List Event × Status :=
      match env.splitHostPort with
      | .error e => ([], .returned (some (.wrapf "net.SplitHostPort() failed: %w" [] e)))
      | .ok udpPortStr =>
        match env.atoi udpPortStr with
        | .error e => ([], .returned (some (.wrapf "strconv.Atoi() failed: %w" [] e)))
        | .ok udpPort =>
          replyThen env successReply (some ⟨[], [0, 0, 0, 0], udpPort⟩)
            (.relay :: (relayUdp env).1, (relayUdp env).2)
    (.listenUDP :: bound.1, bound.2)

def resolveDest (cfg : Config) (env : Env) (req : Request) : Except (List Event × Status) Request :=
  if req.destAddr.fqdn ≠ [] then
    match cfg.resolve req.destAddr.fqdn with
    | .error err =>
      .error (replyThen env hostUnreachable none
        ([], .returned (some (.wrapf "failed to resolve destination %q: %w"
          [.string req.destAddr.fqdn] err))))
    | .ok addr => .ok { req with destAddr := { req.destAddr with ip := addr } }
  else .ok req

def dispatch (env : Env) (req : Request) : List Event × Status :=
  if req.command = connectCommand then handleConnect env req
  else if req.command = bindCommand then handleBind env
  else if req.command = associateCommand then handleAssociate env
  else
    replyThen env commandNotSupported none
      ([], .returned (some (.errorf "unsupported command: %v" [.uint8 req.command])))

def handleRequest (cfg : Config) (env : Env) (req : Request) : List Event × Status :=
  match resolveDest cfg env req with
  | .error r => r
  | .ok req =>
    if !cfg.allowLocalDestination && isLocalhostDest req then
      ([], .returned (some (.errorf "access to localhost resource via proxy is not allowed" [])))
    else dispatch env req

/-! ### What the traces contain -/

section Traces
variable (env : Env)

theorem mem_writeReply {resp : UInt8} {addr : Option AddrSpec} {e : Event}
    (h : e ∈ (writeReply env resp addr).1) : ∃ m, e = .write m := by
  unfold writeReply at h
  split at h
  · simp at h
  · split at h <;> simp_all

theorem mem_replyThen {resp : UInt8} {addr : Option AddrSpec} {other : List Event × Status}
    {e : Event} (h : e ∈ (replyThen env resp addr other).1) : (∃ m, e = .write m) ∨ e ∈ other.1 := by
  unfold replyThen at h
  split at h <;> rename_i hr
  · exact .inl (mem_writeReply env (by rw [hr]; exact h))
  · rcases List.mem_append.mp h with h | h
    · exact .inl (mem_writeReply env (by rw [hr]; exact h))
    · exact .inr h

theorem replyThen_cases (resp : UInt8) (addr : Option AddrSpec) (other : List Event × Status) :
    (∃ err, replyThen env resp addr other = ([], .returned (some err))) ∨
      ∃ msg, replyThen env resp addr other = (.write msg :: other.1, other.2) := by
  rcases hs : sendReply resp addr with _ | msg <;> rcases hw : env.connWrite with _ | _ <;>
    simp [replyThen, writeReply, hs, hw]

theorem resolveDest_eq_error {cfg : Config} {req : Request} {r : List Event × Status}
    (h : resolveDest cfg env req = .error r) :
    ∃ err, r = replyThen env hostUnreachable none
      ([], .returned (some (.wrapf "failed to resolve destination %q: %w"
        [.string req.destAddr.fqdn] err))) := by
  unfold resolveDest at h
  split at h
  · split at h
    · cases h
      exact ⟨_, rfl⟩
    · cases h
  · cases h

theorem dial_not_mem_handleAssociate (address : List UInt8) :
    Event.dial address ∉ (handleAssociate env).1 := by
  intro hd
  unfold handleAssociate at hd
  (repeat' split at hd) <;> simp only [List.mem_cons, reduceCtorEq, false_or, List.not_mem_nil] at hd
  rcases mem_replyThen env hd with ⟨m, ⟨⟩⟩ | hd
  simp [relayUdp] at hd

theorem dial_mem_dispatch {req : Request} {address : List UInt8}
    (hd : Event.dial address ∈ (dispatch env req).1) : address = req.destAddr.address := by
  unfold dispatch at hd
  split at hd
  · simp only [handleConnect, List.mem_cons, Event.dial.injEq] at hd
    rcases hd with rfl | hd
    · rfl
    · split at hd <;> rcases mem_replyThen env hd with ⟨m, hm⟩ | hd <;> simp_all
  · split at hd
    · rcases mem_replyThen env hd with ⟨m, hm⟩ | hd <;> simp_all
    · split at hd
      · exact absurd hd (dial_not_mem_handleAssociate env address)
      · rcases mem_replyThen env hd with ⟨m, hm⟩ | hd <;> simp_all

end Traces

/-! ### The loopback policy -/

/-- With the policy on, the dial string is a non-loopback IP's, or else an FQDN not `localhost`. -/
theorem handleRequest_dial_not_local (cfg : Config) (env : Env) (req : Request)
    (hcfg : cfg.allowLocalDestination = false) {address : List UInt8}
    (hd : Event.dial address ∈ (handleRequest cfg env req).1) :
    ∃ r, resolveDest cfg env req = .ok r ∧
      ((r.destAddr.ip ≠ [] ∧ r.destAddr.ip.isLoopback = false ∧
          address = joinHostPort r.destAddr.ip.string (itoa r.destAddr.port)) ∨
        (r.destAddr.ip = [] ∧ r.destAddr.fqdn ≠ ascii "localhost" ∧
          address = joinHostPort r.destAddr.fqdn (itoa r.destAddr.port))) := by
  unfold handleRequest at hd
  split at hd
  · obtain ⟨err, rfl⟩ := resolveDest_eq_error env ‹_›
    rcases mem_replyThen env hd with ⟨m, ⟨⟩⟩ | hd
    exact absurd hd (List.not_mem_nil _)
  · rename_i r hr
    split at hd
    · simp at hd
    · rename_i hpol
      have hloc : isLocalhostDest r = false := by simpa [hcfg] using hpol
      simp only [isLocalhostDest, Bool.or_eq_false_iff, beq_eq_false_iff_ne] at hloc
      refine ⟨r, hr, ?_⟩
      rw [dial_mem_dispatch env hd, AddrSpec.address]
      by_cases hip : r.destAddr.ip = []
      · exact .inr ⟨hip, hloc.1, by simp [hip]⟩
      · exact .inl ⟨hip, hloc.2, by simp [hip]⟩

theorem handleRequest_dial_not_local_at_public :
    let cfg : Config := ⟨false, fun _ => .error .eof⟩
    let env : Env :=
      { dial := fun _ => .error "connection refused", resolveUDPAddr := none, listenUDP := none,
        splitHostPort := .ok "1080", atoi := fun _ => .ok 1080, connWrite := none, bidiCopy := none,
        resolveUDP := fun _ _ => .error .eof, schedule := [] }
    let req : Request := ⟨5, 1, ⟨[], [1, 2, 3, 4], 80⟩⟩
    cfg.allowLocalDestination = false ∧ Event.dial (ascii "1.2.3.4:80") ∈ (handleRequest cfg env req).1 ∧
      ∃ r, resolveDest cfg env req = .ok r ∧
        ((r.destAddr.ip ≠ [] ∧ r.destAddr.ip.isLoopback = false ∧
            ascii "1.2.3.4:80" = joinHostPort r.destAddr.ip.string (itoa r.destAddr.port)) ∨
          (r.destAddr.ip = [] ∧ r.destAddr.fqdn ≠ ascii "localhost" ∧
            ascii "1.2.3.4:80" = joinHostPort r.destAddr.fqdn (itoa r.destAddr.port))) := by
  intro cfg env req
  have hd : Event.dial (ascii "1.2.3.4:80") ∈ (handleRequest cfg env req).1 := by decide
  exact ⟨rfl, hd, handleRequest_dial_not_local cfg env req rfl hd⟩

/-- Policy on: a datagram to 127.0.0.1; dials of 0.0.0.0, of the name `127.0.0.1`, of `:80`. -/
theorem handleRequest_reaches_local :
    let cfg : Config := ⟨false, fun _ => .ok []⟩
    let env : Env :=
      { dial := fun _ => .error "connection refused", resolveUDPAddr := none, listenUDP := none,
        splitHostPort := .ok "1080", atoi := fun _ => .ok 1080, connWrite := none, bidiCopy := none,
        resolveUDP := fun _ _ => .error .eof,
        schedule := [.tunnelRead (.datagram ⟨[0, 0, 0, 1, 127, 0, 0, 1, 0, 53, 42], by decide⟩),
          .udpWrite] }
    newRequest [5, 3, 0, 1, 1, 2, 3, 4, 0, 80] = .ok ⟨5, 3, ⟨[], [1, 2, 3, 4], 80⟩⟩ [] ∧
      Event.udpSend ⟨[127, 0, 0, 1], 53⟩ [42, 0] ∈
        (handleRequest cfg env ⟨5, 3, ⟨[], [1, 2, 3, 4], 80⟩⟩).1 ∧
      IP.isLoopback [127, 0, 0, 1] ∧
      newRequest [5, 1, 0, 1, 0, 0, 0, 0, 0, 80] = .ok ⟨5, 1, ⟨[], [0, 0, 0, 0], 80⟩⟩ [] ∧
      Event.dial (ascii "0.0.0.0:80") ∈ (handleRequest cfg env ⟨5, 1, ⟨[], [0, 0, 0, 0], 80⟩⟩).1 ∧
      IP.isUnspecified [0, 0, 0, 0] ∧
      newRequest ([5, 1, 0, 3, 9] ++ ascii "127.0.0.1" ++ [0, 80]) =
        .ok ⟨5, 1, ⟨ascii "127.0.0.1", [], 80⟩⟩ [] ∧
      Event.dial (ascii "127.0.0.1:80") ∈
        (handleRequest cfg env ⟨5, 1, ⟨ascii "127.0.0.1", [], 80⟩⟩).1 ∧
      ascii "127.0.0.1:80" = AddrSpec.address ⟨[], [127, 0, 0, 1], 80⟩ ∧
      newRequest [5, 1, 0, 3, 0, 0, 80] = .ok ⟨5, 1, ⟨[], [], 80⟩⟩ [] ∧
      Event.dial (ascii ":80") ∈ (handleRequest cfg env ⟨5, 1, ⟨[], [], 80⟩⟩).1 :=
  ⟨rfl, by decide, rfl, rfl, by decide, rfl, rfl, by decide, by decide, rfl, by decide⟩

/-! ### Resolution -/

theorem handleRequest_empty_fqdn (cfg : Config) (env : Env) (hi lo : UInt8) :
    newRequest [socks5Version, connectCommand, 0, fqdnAddress, 0, hi, lo] =
        .ok ⟨socks5Version, connectCommand, ⟨[], [], 256 * hi.toNat + lo.toNat⟩⟩ [] ∧
      (handleRequest cfg env
        ⟨socks5Version, connectCommand, ⟨[], [], 256 * hi.toNat + lo.toNat⟩⟩).1.head? =
        some (.dial (ascii ":" ++ itoa (256 * hi.toNat + lo.toNat))) := by
  have hloc : isLocalhostDest
      ⟨socks5Version, connectCommand, ⟨[], [], 256 * hi.toNat + lo.toNat⟩⟩ = false := rfl
  refine ⟨newRequest_bytes ⟨connectCommand, 0, .fqdn [] (by decide) hi lo⟩ [], ?_⟩
  simp [handleRequest, resolveDest, hloc]
  rfl

/-! ### The replies -/

def repliesBeforeRelay : List Event → List (List UInt8)
  | [] => []
  | .relay :: _ => []
  | .write m :: evs => m :: repliesBeforeRelay evs
  | _ :: evs => repliesBeforeRelay evs

theorem handleRequest_associate_unanswered (cfg : Config) (env : Env) (e : Error) :
    newRequest [5, 3, 0, 1, 10, 0, 0, 1, 0, 80] = .ok ⟨5, 3, ⟨[], [10, 0, 0, 1], 80⟩⟩ [] ∧
      handleRequest cfg { env with resolveUDPAddr := none, listenUDP := some e }
        ⟨5, 3, ⟨[], [10, 0, 0, 1], 80⟩⟩ = ([], .returned (some (.wrapf "failed to listen UDP: %w" [] e))) := by
  have hloc : isLocalhostDest ⟨5, 3, ⟨[], [10, 0, 0, 1], 80⟩⟩ = false := rfl
  refine ⟨rfl, ?_⟩
  simp [handleRequest, resolveDest, hloc]
  rfl

end Mieru.Socks5
