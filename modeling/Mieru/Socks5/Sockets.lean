import Mieru.Socks5.Dispatch
import Mieru.Socks5.Forward

/-! The UDP socket of an ASSOCIATE, from the call that opens it to the one that closes it.
`handleAssociate` opens it with `net.ListenUDP` (`Event.listenUDP`) and closes it only in the
outbound pump's deferred `udpConn.Close()` (`Event.closeUDP`); `proxySocks5ConnReq` opens it
(`Relay.udp`) and returns it to its caller. Each is followed through every return path: which
paths close the socket, and which return an error with the socket still open. `handleAssociate`
leaves it open on each failure between `ListenUDP` and the relay, since only the outbound pump
closes it; `proxySocks5ConnReq` closes it on its `SplitHostPort` and `Atoi` failures but not
when its last write fails. -/

namespace Mieru.Socks5

/-! ### `handleAssociate` -/

section Server
variable (env : Env)

theorem relayUdp_closes {err : Option Error} (h : (relayUdp env).2 = .returned err) :
    Event.closeUDP ∈ (relayUdp env).1 := by
  simp only [relayUdp] at h ⊢
  split at h
  · rename_i hr
    simp [Pumps.closed_of_result _ _ hr]
  · cases h
  · split at h <;> cases h

theorem handleAssociate_cases :
    ((env.resolveUDPAddr ≠ none ∨ env.listenUDP ≠ none) ∧
        ∃ err, handleAssociate env = ([], .returned (some err))) ∨
      (env.resolveUDPAddr = none ∧ env.listenUDP = none ∧
        ∃ err, handleAssociate env = ([.listenUDP], .returned (some err))) ∨
      ∃ msg, handleAssociate env =
        (.listenUDP :: .write msg :: .relay :: (relayUdp env).1, (relayUdp env).2) := by
  unfold handleAssociate
  split
  · exact .inl ⟨.inl (by simp_all), _, rfl⟩
  · exact .inl ⟨.inr (by simp_all), _, rfl⟩
  · rename_i hres hlis
    refine .inr ?_
    split
    · exact .inl ⟨hres, hlis, _, rfl⟩
    · split
      · exact .inl ⟨hres, hlis, _, rfl⟩
      · rcases replyThen_cases env successReply (some ⟨[], [0, 0, 0, 0], ‹Int›⟩)
          (.relay :: (relayUdp env).1, (relayUdp env).2) with ⟨err, h⟩ | ⟨msg, h⟩ <;> rw [h]
        · exact .inl ⟨hres, hlis, err, rfl⟩
        · exact .inr ⟨msg, rfl⟩

theorem handleAssociate_closes {err : Option Error} (hr : Event.relay ∈ (handleAssociate env).1)
    (h : (handleAssociate env).2 = .returned err) : Event.closeUDP ∈ (handleAssociate env).1 := by
  rcases handleAssociate_cases env with ⟨-, _, he⟩ | ⟨-, -, _, he⟩ | ⟨msg, he⟩ <;> rw [he] at hr h ⊢
  · simp at hr
  · simp at hr
  · simp [relayUdp_closes env h]

theorem handleAssociate_closes_after_eof :
    let env : Env :=
      { dial := fun _ => .error "connection refused", resolveUDPAddr := none, listenUDP := none,
        splitHostPort := .ok "1080", atoi := fun _ => .ok 1080, connWrite := none, bidiCopy := none,
        resolveUDP := fun _ _ => .error .eof,
        schedule := [.tunnelRead (.error .eof), .outStore, .udpClose, .udpRead (.error .eof),
          .inLoad] }
    Event.relay ∈ (handleAssociate env).1 ∧ (handleAssociate env).2 = .returned (some .eof) ∧
      Event.closeUDP ∈ (handleAssociate env).1 := by
  intro env
  have hr : Event.relay ∈ (handleAssociate env).1 := by decide
  have h : (handleAssociate env).2 = .returned (some .eof) := rfl
  exact ⟨hr, h, handleAssociate_closes env hr h⟩

theorem handleAssociate_open_before_relay (hres : env.resolveUDPAddr = none)
    (hlis : env.listenUDP = none) (hr : Event.relay ∉ (handleAssociate env).1) :
    ∃ err, handleAssociate env = ([.listenUDP], .returned (some err)) := by
  rcases handleAssociate_cases env with ⟨h, -⟩ | ⟨-, -, h⟩ | ⟨msg, he⟩
  · simp [hres, hlis] at h
  · exact h
  · simp [he] at hr

end Server

/-! ### A program logic for the forwarder -/

/-- A Hoare triple for the forwarder, with a postcondition for each outcome. -/
def Proxy.Triple {α : Type} (pre : Relay → Prop) (x : Proxy α) (post : α → Relay → Prop)
    (fail : Error → Relay → Prop) : Prop :=
  ∀ c, pre c → match x c with
    | .ok a c' => post a c'
    | .error e c' => fail e c'

section Triple
variable {α β : Type} {pre : Relay → Prop} {x : Proxy α} {post : α → Relay → Prop}
  {fail : Error → Relay → Prop}

theorem Proxy.Triple.bind {f : α → Proxy β} {post' : β → Relay → Prop}
    (hx : Proxy.Triple pre x post fail) (hf : ∀ a, Proxy.Triple (post a) (f a) post' fail) :
    Proxy.Triple pre (x >>= f) post' fail := fun c hc => by
  have h := hx c hc
  simp only [bind_apply]
  cases hxc : x c <;> rw [hxc] at h
  exacts [hf _ _ h, h]

theorem Proxy.Triple.pure (a : α) (h : ∀ c, pre c → post a c) :
    Proxy.Triple pre (Pure.pure a) post fail :=
  h

theorem Proxy.Triple.throw (e : Error) (h : ∀ c, pre c → fail e c) :
    Proxy.Triple pre (MonadExcept.throw e) post fail :=
  h

theorem Proxy.Triple.modify {q : PUnit → Relay → Prop} (f : Relay → Relay)
    (h : ∀ c, pre c → q () (f c)) : Proxy.Triple pre (modify f) q fail :=
  h

theorem Proxy.Triple.wrapErr (format : String)
    (hx : Proxy.Triple pre x post fun e => fail (.wrapf format [] e)) :
    Proxy.Triple pre (wrapErr format x) post fail := fun c hc => by
  have h := hx c hc
  simp only [Socks5.wrapErr, adaptExcept_apply]
  cases hxc : x c <;> rw [hxc] at h <;> exact h

end Triple

/-! ### `proxySocks5ConnReq` -/

section Forwarder
variable (env : ProxyEnv)

theorem proxySocks5ConnReq_open_on_write_error (hpw : env.proxyConnWrite = none)
    {udpPortStr : String} {udpPort : Int} (hres : env.resolveUDPAddr = none)
    (hlis : env.listenUDP = none) (hsplit : env.splitHostPort = .ok udpPortStr)
    (hatoi : env.atoi udpPortStr = .ok udpPort) {e : Error} (hcw : env.connWrite = some e)
    {c : Relay} {req s resp u : List UInt8} (hreq : readConnReq c.conn = .ok req s)
    (hcmd : req.getD 1 0 = associateCommand) (hresp : readConnResp c.proxyConn = .ok resp u) :
    proxySocks5ConnReq env c =
      .error (.wrapf "failed to write connection response to the socks5 client: %w" [] e)
        { c with conn := s, proxyConn := u, toProxyConn := c.toProxyConn ++ req, udp := .opened } := by
  rw [proxySocks5ConnReq_of_readConnReq hpw hreq, hcmd]
  simp [proxyConnResp, bind_apply, map_apply,
    onProxyConn_ok (c := { c with conn := s, toProxyConn := c.toProxyConn ++ req }) hresp,
    associateUdp_ok _ hres hlis hsplit hatoi, wrapErr, adaptExcept_apply, writeConn, hcw]

end Forwarder

/-! ### Error returns that leave the socket open -/

/-- Both functions can return an error with the UDP socket they opened still open. -/
theorem udp_socket_left_open :
    (∀ env : Env, env.resolveUDPAddr = none → env.listenUDP = none →
      Event.relay ∉ (handleAssociate env).1 →
        ∃ err, handleAssociate env = ([.listenUDP], .returned (some err))) ∧
    ∀ (env : ProxyEnv) (udpPortStr : String) (udpPort : Int) (e : Error) (c : Relay)
      (req s resp u : List UInt8),
      env.proxyConnWrite = none → env.resolveUDPAddr = none → env.listenUDP = none →
      env.splitHostPort = .ok udpPortStr → env.atoi udpPortStr = .ok udpPort →
      env.connWrite = some e → readConnReq c.conn = .ok req s → req.getD 1 0 = associateCommand →
      readConnResp c.proxyConn = .ok resp u →
        proxySocks5ConnReq env c =
          .error (.wrapf "failed to write connection response to the socks5 client: %w" [] e)
            { c with conn := s, proxyConn := u, toProxyConn := c.toProxyConn ++ req, udp := .opened } :=
  ⟨handleAssociate_open_before_relay, fun env _ _ _ _ _ _ _ _ hpw hres hlis hsplit hatoi hcw hreq
    hcmd hresp => proxySocks5ConnReq_open_on_write_error env hpw hres hlis hsplit hatoi hcw hreq
      hcmd hresp⟩

theorem udp_socket_left_open_at_broken_pipe :
    let env : Env := ⟨fun _ => .error "", none, none, .ok "5000", fun _ => .ok 5000,
      some (.external "*net.OpError" "broken pipe"), none, fun _ _ => .error .eof, []⟩
    let penv : ProxyEnv :=
      ⟨some (.external "*net.OpError" "broken pipe"), none, none, none, .ok "5000", fun _ => .ok 5000⟩
    let c : Relay := ⟨[5, 3, 0, 1, 1, 2, 3, 4, 0, 80], [5, 0, 0, 1, 0, 0, 0, 0, 0, 0], [], [], .none⟩
    (env.resolveUDPAddr = none ∧ env.listenUDP = none ∧ Event.relay ∉ (handleAssociate env).1 ∧
        ∃ err, handleAssociate env = ([.listenUDP], .returned (some err))) ∧
      penv.proxyConnWrite = none ∧ penv.resolveUDPAddr = none ∧ penv.listenUDP = none ∧
      penv.splitHostPort = .ok "5000" ∧ penv.atoi "5000" = .ok 5000 ∧
      penv.connWrite = some (.external "*net.OpError" "broken pipe") ∧ readConnReq c.conn = .ok c.conn [] ∧
      c.conn.getD 1 0 = associateCommand ∧ readConnResp c.proxyConn = .ok c.proxyConn [] ∧
      proxySocks5ConnReq penv c =
        .error (.wrapf "failed to write connection response to the socks5 client: %w" []
          (.external "*net.OpError" "broken pipe"))
          { c with conn := [], proxyConn := [], toProxyConn := c.toProxyConn ++ c.conn,
                   udp := .opened } := by
  intro env penv c
  exact ⟨⟨rfl, rfl, by decide, udp_socket_left_open.1 env rfl rfl (by decide)⟩, rfl, rfl, rfl, rfl,
    rfl, rfl, rfl, rfl, rfl,
    udp_socket_left_open.2 penv "5000" 5000 _ c _ _ _ _ rfl rfl rfl rfl rfl rfl rfl rfl rfl⟩

end Mieru.Socks5
