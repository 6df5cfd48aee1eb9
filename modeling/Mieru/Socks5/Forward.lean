import Mieru.Socks5.Request

/-! The forwarder of a client-side proxy, `proxySocks5AuthReq` and `proxySocks5ConnReq`: it
copies the method negotiation and the connection request from the client connection `conn` to
the server connection `proxyConn`, and the server's answers back. It frames what it copies with
its own reads, so its framing is compared with `NewRequest`'s and `readAddrSpec`'s.

A `Relay` holds the bytes still to be read from `conn` and from `proxyConn`, the bytes written to
each, and the state of the forwarder's UDP socket. A request or a response is framed by
`readFrame`: the 4-byte header, then what `readAddrBytes` reads for its address type, all of it
returned as read. -/

namespace Mieru.Socks5

inductive Socket where
  | none
  | opened
  | closed
deriving DecidableEq, Repr

structure Relay where
  conn : List UInt8
  proxyConn : List UInt8
  toConn : List UInt8
  toProxyConn : List UInt8
  udp : Socket
deriving DecidableEq, Repr

structure ProxyEnv where
  connWrite : Option Error
  proxyConnWrite : Option Error
  resolveUDPAddr : Option Error
  listenUDP : Option Error
  splitHostPort : Except Error String
  atoi : String → Except Error Int

abbrev Proxy := EStateM Error Relay

def onConn {α : Type} (r : Reader α) : Proxy α := fun c =>
  match r c.conn with
  | .ok a s => .ok a { c with conn := s }
  | .error e s => .error e { c with conn := s }

def onProxyConn {α : Type} (r : Reader α) : Proxy α := fun c =>
  match r c.proxyConn with
  | .ok a s => .ok a { c with proxyConn := s }
  | .error e s => .error e { c with proxyConn := s }

def writeConn (env : ProxyEnv) (b : List UInt8) : Proxy Unit := fun c =>
  match env.connWrite with
  | some e => .error e c
  | none => .ok () { c with toConn := c.toConn ++ b }

def writeProxyConn (env : ProxyEnv) (b : List UInt8) : Proxy Unit := fun c =>
  match env.proxyConnWrite with
  | some e => .error e c
  | none => .ok () { c with toProxyConn := c.toProxyConn ++ b }

def wrapErr {σ α : Type} (format : String) (x : EStateM Error σ α) : EStateM Error σ α :=
  x.adaptExcept (.wrapf format [])

def proxySocks5AuthReq (env : ProxyEnv) : Proxy Unit := do
  let version ← onConn (wrapErr "failed to get version byte: %w" (readFull 1))
  if version.getD 0 0 ≠ socks5Version then
    throw (.errorf "unsupported SOCKS version: %v" [.bytes version])
  let nMethods ← onConn (wrapErr "failed to get the length of authentication methods: %w" (readFull 1))
  let methods ← onConn (wrapErr "failed to get authentication methods: %w"
    (readFull (nMethods.getD 0 0).toNat))
  wrapErr "failed to write authentication request to the server: %w"
    (writeProxyConn env (version ++ nMethods ++ methods))
  let authResp ← onProxyConn
    (wrapErr "failed to read authentication response from the socks5 server: %w" (readFull 2))
  wrapErr "failed to write authentication response to the socks5 client: %w" (writeConn env authResp)

def readAddrBytes (addrType : UInt8) (addrMsg : String) : Reader (List UInt8 × List UInt8) := do
  let framing : List UInt8 × Nat ←
    if addrType = ipv4Address then pure ([], 6)
    else if addrType = fqdnAddress then do
      let fqdnLen ← wrapErr "failed to get FQDN length: %w" (readFull 1)
      pure (fqdnLen, (fqdnLen.getD 0 0 + 2).toNat)
    else if addrType = ipv6Address then pure ([], 18)
    else throw (.errorf "unsupported address type: %d" [.uint8 addrType])
  let addr ← wrapErr addrMsg (readFull framing.2)
  pure (framing.1, addr)

def byte (x : Int) : UInt8 := (x % 256).toNat.toUInt8

def closeUdp : Proxy Unit := modify fun c => { c with udp := .closed }

def associateUdp (env : ProxyEnv) (connResp : List UInt8) : Proxy (List UInt8) :=
  match env.resolveUDPAddr with
  | some e => throw (.wrapf "net.ResolveUDPAddr() failed: %w" [] e)
  | none =>
    match env.listenUDP with
    | some e => throw (.wrapf "net.ListenUDP() failed: %w" [] e)
    | none => do
      modify fun c => { c with udp := .opened }
      match env.splitHostPort with
      | .error e =>
        closeUdp
        throw (.wrapf "net.SplitHostPort() failed: %w" [] e)
      | .ok udpPortStr =>
        match env.atoi udpPortStr with
        | .error e =>
          closeUdp
          throw (.wrapf "strconv.Atoi() failed: %w" [] e)
        | .ok udpPort =>
          let lenResp := connResp.length
          pure ((connResp.set (lenResp - 2) (byte (udpPort / 256))).set (lenResp - 1) (byte udpPort))

def readFrame (headerMsg addrMsg : String) : Reader (List UInt8) := do
  let header ← wrapErr headerMsg (readFull 4)
  let (fqdnLen, addr) ← readAddrBytes (header.getD 3 0) addrMsg
  pure (header ++ fqdnLen ++ addr)

def readConnReq : Reader (List UInt8) :=
  readFrame "failed to get socks5 connection request: %w" "failed to get destination address: %w"

def readConnResp : Reader (List UInt8) :=
  readFrame "failed to read connection response from the server: %w" "failed to get bind address: %w"

def proxyConnResp (env : ProxyEnv) (cmd : UInt8) : Proxy Bool := do
  let connResp ← onProxyConn readConnResp
  let connResp ← if cmd = associateCommand then associateUdp env connResp else pure connResp
  wrapErr "failed to write connection response to the socks5 client: %w" (writeConn env connResp)
  pure (cmd = associateCommand)

def proxySocks5ConnReq (env : ProxyEnv) : Proxy Bool := do
  let connReq ← onConn readConnReq
  wrapErr "failed to write connection request to the server: %w" (writeProxyConn env connReq)
  proxyConnResp env (connReq.getD 1 0)

def proxySocks5Handshake (env : ProxyEnv) : Proxy Bool := do
  proxySocks5AuthReq env
  proxySocks5ConnReq env

def Proxy.after {α : Type} (x : Proxy α) (c : Relay) : Relay :=
  match x c with
  | .ok _ c' => c'
  | .error _ c' => c'

/-! ### Framing -/

def WireAddr.Framed : WireAddr → Prop
  | .fqdn n _ _ _ => n.length ≤ 253
  | _ => True

section Framing
variable (headerMsg addrMsg : String)

theorem readAddrBytes_fixed {t : UInt8} {k : Nat} (ht : t = ipv4Address ∧ k = 6 ∨ t = ipv6Address ∧ k = 18)
    (body : List UInt8) (hb : body.length = k) (rest : List UInt8) :
    readAddrBytes t addrMsg (body ++ rest) = .ok ([], body) rest := by
  rcases ht with ⟨rfl, rfl⟩ | ⟨rfl, rfl⟩ <;>
    simp [readAddrBytes, map_apply, wrapErr, adaptExcept_apply, readFull_append hb, ipv4Address,
      fqdnAddress, ipv6Address]

theorem readAddrBytes_fqdn (L : UInt8) (body : List UInt8) (hb : body.length = (L + 2).toNat)
    (rest : List UInt8) :
    readAddrBytes fqdnAddress addrMsg (L :: body ++ rest) = .ok ([L], body) rest := by
  have h1 : readFull 1 (L :: (body ++ rest)) = .ok [L] (body ++ rest) :=
    @readFull_append 1 [L] rfl _
  simp [readAddrBytes, bind_apply, map_apply, wrapErr, adaptExcept_apply, h1, ipv4Address,
    fqdnAddress, readFull_append hb]

theorem readFrame_eq {v c r t : UInt8} {s rest fl ad : List UInt8}
    (h : readAddrBytes t addrMsg s = .ok (fl, ad) rest) :
    readFrame headerMsg addrMsg (v :: c :: r :: t :: s) = .ok ([v, c, r, t] ++ fl ++ ad) rest := by
  simp [readFrame, bind_apply, map_apply, wrapErr, adaptExcept_apply, readFull, h]

theorem readFrame_wire (w : WireRequest) (hf : w.addr.Framed) (rest : List UInt8) :
    readFrame headerMsg addrMsg (w.bytes ++ rest) = .ok w.bytes rest := by
  rcases w with ⟨c, r, ⟨a, ha, hi, lo⟩ | ⟨n, hn, hi, lo⟩ | ⟨a, ha, hi, lo⟩⟩
  · simpa [WireRequest.bytes, WireAddr.bytes] using readFrame_eq headerMsg addrMsg
      (readAddrBytes_fixed addrMsg (.inl ⟨rfl, rfl⟩) (a ++ [hi, lo]) (by simp [ha]) rest)
  · have hL : (n.length.toUInt8 + 2).toNat = n.length + 2 := by
      rw [toNat_add_byte, toNat_toUInt8]
      simp only [WireAddr.Framed] at hf
      show (n.length % 256 + 2) % 256 = _
      omega
    simpa [WireRequest.bytes, WireAddr.bytes] using readFrame_eq headerMsg addrMsg
      (readAddrBytes_fqdn addrMsg n.length.toUInt8 (n ++ [hi, lo]) (by simp [hL]) rest)
  · simpa [WireRequest.bytes, WireAddr.bytes] using readFrame_eq headerMsg addrMsg
      (readAddrBytes_fixed addrMsg (.inr ⟨rfl, rfl⟩) (a ++ [hi, lo]) (by simp [ha]) rest)

theorem readFrame_fqdn_wrap (v c r : UInt8) (s : List UInt8) :
    readFrame headerMsg addrMsg (v :: c :: r :: fqdnAddress :: 254 :: s) =
      .ok [v, c, r, fqdnAddress, 254] s := by
  simpa using readFrame_eq headerMsg addrMsg (readAddrBytes_fqdn addrMsg 254 [] rfl s)

end Framing

/-! ### The two connections -/

section Relay
variable {α β : Type} {c : Relay} {env : ProxyEnv}

theorem onConn_ok {r : Reader α} {a : α} {s : List UInt8} (h : r c.conn = .ok a s) :
    onConn r c = .ok a { c with conn := s } := by
  simp [onConn, h]

theorem onProxyConn_ok {r : Reader α} {a : α} {s : List UInt8} (h : r c.proxyConn = .ok a s) :
    onProxyConn r c = .ok a { c with proxyConn := s } := by
  simp [onProxyConn, h]

def Proxy.KeepsRequest (x : Proxy α) : Prop :=
  ∀ c, (x.after c).conn = c.conn ∧ (x.after c).toProxyConn = c.toProxyConn

theorem Proxy.KeepsRequest.bind {x : Proxy α} {f : α → Proxy β} (hx : x.KeepsRequest)
    (hf : ∀ a, (f a).KeepsRequest) : (x >>= f).KeepsRequest := by
  intro c
  have hc := hx c
  simp only [Proxy.after, bind_apply] at hc ⊢
  cases h : x c with
  | ok a c' =>
    rw [h] at hc
    exact ⟨(hf a c').1.trans hc.1, (hf a c').2.trans hc.2⟩
  | error e c' => rw [h] at hc; exact hc

theorem Proxy.keepsRequest_pure (a : α) : Proxy.KeepsRequest (pure a) := fun _ => ⟨rfl, rfl⟩

@[simp] theorem Proxy.after_wrapErr (format : String) (x : Proxy α) (c : Relay) :
    Proxy.after (wrapErr format x) c = x.after c := by
  simp only [Proxy.after, wrapErr, adaptExcept_apply]
  cases x c <;> rfl

theorem Proxy.KeepsRequest.wrapErr {x : Proxy α} (hx : x.KeepsRequest) (format : String) :
    Proxy.KeepsRequest (wrapErr format x) := fun c => by
  rw [Proxy.after_wrapErr]
  exact hx c

theorem onProxyConn_keepsRequest (r : Reader α) : (onProxyConn r).KeepsRequest := by
  intro c
  simp only [Proxy.after, onProxyConn]
  cases r c.proxyConn <;> exact ⟨rfl, rfl⟩

theorem writeConn_keepsRequest (b : List UInt8) : (writeConn env b).KeepsRequest := by
  intro c
  simp only [Proxy.after, writeConn]
  cases env.connWrite <;> exact ⟨rfl, rfl⟩

theorem associateUdp_keepsRequest (resp : List UInt8) : (associateUdp env resp).KeepsRequest := by
  intro c
  rcases env with ⟨_, _, _ | _, _ | _, _ | s, atoi⟩ <;> try exact ⟨rfl, rfl⟩
  simp only [associateUdp]
  cases atoi s <;> exact ⟨rfl, rfl⟩

theorem proxyConnResp_keepsRequest (cmd : UInt8) : (proxyConnResp env cmd).KeepsRequest := by
  refine Proxy.KeepsRequest.bind (onProxyConn_keepsRequest _) fun resp => ?_
  dsimp only
  split <;> refine .bind ?_ fun _ =>
    .bind ((writeConn_keepsRequest _).wrapErr _) fun _ => Proxy.keepsRequest_pure _
  · exact associateUdp_keepsRequest resp
  · exact Proxy.keepsRequest_pure resp

theorem writeConn_ok (hcw : env.connWrite = none) (b : List UInt8) :
    writeConn env b c = .ok () { c with toConn := c.toConn ++ b } := by
  simp [writeConn, hcw]

theorem writeProxyConn_ok (hpw : env.proxyConnWrite = none) (b : List UInt8) :
    writeProxyConn env b c = .ok () { c with toProxyConn := c.toProxyConn ++ b } := by
  simp [writeProxyConn, hpw]

theorem associateUdp_ok (resp : List UInt8) {udpPortStr : String} {udpPort : Int}
    (hres : env.resolveUDPAddr = none) (hlis : env.listenUDP = none)
    (hsplit : env.splitHostPort = .ok udpPortStr) (hatoi : env.atoi udpPortStr = .ok udpPort) :
    associateUdp env resp c =
      .ok ((resp.set (resp.length - 2) (byte (udpPort / 256))).set (resp.length - 1) (byte udpPort))
        { c with udp := .opened } := by
  simp [associateUdp, hres, hlis, hsplit, hatoi, bind_apply, modify, modifyGet,
    MonadStateOf.modifyGet, EStateM.modifyGet]

theorem proxySocks5ConnReq_of_readConnReq (hpw : env.proxyConnWrite = none) {req s : List UInt8}
    (hreq : readConnReq c.conn = .ok req s) :
    proxySocks5ConnReq env c =
      proxyConnResp env (req.getD 1 0) { c with conn := s, toProxyConn := c.toProxyConn ++ req } := by
  simp [proxySocks5ConnReq, bind_apply, onConn_ok hreq, wrapErr, adaptExcept_apply,
    writeProxyConn_ok hpw]

theorem proxyConnResp_of_readConnResp (hcw : env.connWrite = none) {cmd : UInt8}
    {resp u : List UInt8} (hresp : readConnResp c.proxyConn = .ok resp u) :
    proxyConnResp env cmd c =
      if cmd = associateCommand then
        match associateUdp env resp { c with proxyConn := u } with
        | .ok resp' c' => .ok true { c' with toConn := c'.toConn ++ resp' }
        | .error e c' => .error e c'
      else .ok false { c with proxyConn := u, toConn := c.toConn ++ resp } := by
  simp only [proxyConnResp, bind_apply, onProxyConn_ok hresp]
  split
  · split <;> simp_all [bind_apply, map_apply, wrapErr, adaptExcept_apply, writeConn_ok hcw]
  · simp_all [bind_apply, map_apply, wrapErr, adaptExcept_apply, writeConn_ok hcw]

theorem proxySocks5AuthReq_ok (hcw : env.connWrite = none) (hpw : env.proxyConnWrite = none)
    {methods authResp s up : List UInt8} (hm : methods.length < 256) (ha : authResp.length = 2)
    (hc : c.conn = socks5Version :: methods.length.toUInt8 :: methods ++ s)
    (hu : c.proxyConn = authResp ++ up) :
    proxySocks5AuthReq env c =
      .ok ()
        { c with
          conn := s, proxyConn := up, toConn := c.toConn ++ authResp,
          toProxyConn := c.toProxyConn ++ socks5Version :: methods.length.toUInt8 :: methods } := by
  have hn : methods.length.toUInt8.toNat = methods.length := by
    rw [toNat_toUInt8]
    omega
  simp [proxySocks5AuthReq, bind_apply, onConn, onProxyConn, hc, hu, wrapErr, adaptExcept_apply,
    readFull_one, hn, readFull_append, ha, writeConn_ok hcw, writeProxyConn_ok hpw, socks5Version]

end Relay

/-! ### The forwarder's framing against the server's parser -/

/-- A 254-byte name: the forwarder sends the request's first five bytes, `NewRequest` reads all. -/
theorem proxySocks5Handshake_long_fqdn (env : ProxyEnv) (hcw : env.connWrite = none)
    (hpw : env.proxyConnWrite = none) (methods authResp : List UInt8) (hm : methods.length < 256)
    (ha : authResp.length = 2) (cmd rsv : UInt8) (name : List UInt8) (hn : name.length = 254)
    (hi lo : UInt8) (rest up : List UInt8) :
    let req := [socks5Version, cmd, rsv, fqdnAddress, 254] ++ name ++ [hi, lo]
    let c := (proxySocks5Handshake env).after
      ⟨socks5Version :: methods.length.toUInt8 :: methods ++ req ++ rest, authResp ++ up, [], [], .none⟩
    (∃ r, newRequest (req ++ rest) = .ok r rest) ∧
      c.toProxyConn = socks5Version :: methods.length.toUInt8 :: methods ++
        [socks5Version, cmd, rsv, fqdnAddress, 254] ∧
      c.conn = name ++ [hi, lo] ++ rest := by
  intro req c
  have hw : (WireRequest.mk cmd rsv (.fqdn name (by omega) hi lo)).bytes = req := by
    simp [req, WireRequest.bytes, WireAddr.bytes, hn]
    rfl
  refine ⟨⟨_, hw ▸ newRequest_bytes _ rest⟩, ?_⟩
  have hreq : readConnReq (req ++ rest) = .ok [socks5Version, cmd, rsv, fqdnAddress, 254]
      (name ++ [hi, lo] ++ rest) := by
    simpa [req] using readFrame_fqdn_wrap _ _ socks5Version cmd rsv (name ++ hi :: lo :: rest)
  have hauth := proxySocks5AuthReq_ok (c := ⟨socks5Version :: methods.length.toUInt8 :: methods ++
    req ++ rest, authResp ++ up, [], [], .none⟩) (s := req ++ rest) hcw hpw hm ha (by simp) rfl
  have hkeep := @proxyConnResp_keepsRequest env cmd
    { conn := name ++ [hi, lo] ++ rest, proxyConn := up, toConn := authResp,
      toProxyConn := socks5Version :: methods.length.toUInt8 :: methods ++
        [socks5Version, cmd, rsv, fqdnAddress, 254], udp := .none }
  simp only [c, proxySocks5Handshake, Proxy.after, bind_apply, hauth]
  rw [proxySocks5ConnReq_of_readConnReq hpw hreq]
  simp only [Proxy.after] at hkeep
  simpa using And.intro hkeep.2 hkeep.1

theorem proxySocks5Handshake_long_fqdn_at_254 :
    let env : ProxyEnv := ⟨none, none, none, none, .ok "5000", fun _ => .ok 5000⟩
    let name := List.replicate 254 (97 : UInt8)
    env.connWrite = none ∧ env.proxyConnWrite = none ∧ ([0] : List UInt8).length < 256 ∧
      ([5, 0] : List UInt8).length = 2 ∧ name.length = 254 ∧
      let req := [socks5Version, connectCommand, 0, fqdnAddress, 254] ++ name ++ [0, 80]
      let c := (proxySocks5Handshake env).after
        ⟨socks5Version :: ([0] : List UInt8).length.toUInt8 :: [0] ++ req ++ [], [5, 0] ++ [], [], [],
          .none⟩
      (∃ r, newRequest (req ++ []) = .ok r []) ∧
        c.toProxyConn = socks5Version :: ([0] : List UInt8).length.toUInt8 :: [0] ++
          [socks5Version, connectCommand, 0, fqdnAddress, 254] ∧
        c.conn = name ++ [0, 80] ++ [] := by
  intro env name
  exact ⟨rfl, rfl, by decide, rfl, List.length_replicate _ _,
    proxySocks5Handshake_long_fqdn env rfl rfl [0] [5, 0] (by decide) rfl connectCommand 0 name
      (List.length_replicate _ _) 0 80 [] []⟩

/-- A 254-byte bind name: the forwarder passes on five bytes, the last two overwritten. -/
theorem proxySocks5ConnReq_long_bind_fqdn (env : ProxyEnv) (hcw : env.connWrite = none)
    (hpw : env.proxyConnWrite = none) {udpPortStr : String} {udpPort : Int}
    (hres : env.resolveUDPAddr = none) (hlis : env.listenUDP = none)
    (hsplit : env.splitHostPort = .ok udpPortStr) (hatoi : env.atoi udpPortStr = .ok udpPort)
    (w : WireRequest) (hf : w.addr.Framed) (rep rsv : UInt8) (name : List UInt8)
    (hn : name.length = 254) (hi lo : UInt8) (rest up : List UInt8) :
    readAddrSpec (fqdnAddress :: 254 :: name ++ [hi, lo] ++ up) =
        .ok ⟨name, [], 256 * hi.toNat + lo.toNat⟩ up ∧
      proxySocks5ConnReq env ⟨w.bytes ++ rest,
          [socks5Version, rep, rsv, fqdnAddress, 254] ++ name ++ [hi, lo] ++ up, [], [], .none⟩ =
        if w.cmd = associateCommand then
          .ok true ⟨rest, name ++ [hi, lo] ++ up,
            [socks5Version, rep, rsv, byte (udpPort / 256), byte udpPort], w.bytes, .opened⟩
        else
          .ok false ⟨rest, name ++ [hi, lo] ++ up, [socks5Version, rep, rsv, fqdnAddress, 254],
            w.bytes, .none⟩ := by
  have hb : (WireAddr.fqdn name (by omega) hi lo).bytes = fqdnAddress :: 254 :: name ++ [hi, lo] := by
    simp [WireAddr.bytes, hn]
    rfl
  refine ⟨hb ▸ readAddrSpec_bytes _ up, ?_⟩
  have hreq : readConnReq (w.bytes ++ rest) = .ok w.bytes rest := readFrame_wire _ _ w hf rest
  have hresp : readConnResp ([socks5Version, rep, rsv, fqdnAddress, 254] ++ name ++ [hi, lo] ++ up) =
      .ok [socks5Version, rep, rsv, fqdnAddress, 254] (name ++ [hi, lo] ++ up) := by
    simpa using readFrame_fqdn_wrap _ _ socks5Version rep rsv (name ++ hi :: lo :: up)
  have hcmd : w.bytes.getD 1 0 = w.cmd := by simp [WireRequest.bytes]
  rw [proxySocks5ConnReq_of_readConnReq (c := ⟨w.bytes ++ rest, _, [], [], .none⟩) hpw hreq, hcmd,
    proxyConnResp_of_readConnResp hcw hresp]
  split
  · rw [associateUdp_ok _ hres hlis hsplit hatoi]
    rfl
  · rfl

theorem proxySocks5ConnReq_long_bind_fqdn_at_254 :
    let env : ProxyEnv := ⟨none, none, none, none, .ok "5000", fun _ => .ok 5000⟩
    let w : WireRequest := ⟨associateCommand, 0, .ipv4 [1, 2, 3, 4] rfl 0 80⟩
    let name := List.replicate 254 (97 : UInt8)
    env.connWrite = none ∧ env.proxyConnWrite = none ∧ env.resolveUDPAddr = none ∧
      env.listenUDP = none ∧ env.splitHostPort = .ok "5000" ∧ env.atoi "5000" = .ok 5000 ∧
      w.addr.Framed ∧ name.length = 254 ∧
      (readAddrSpec (fqdnAddress :: 254 :: name ++ [0, 80] ++ []) =
          .ok ⟨name, [], 256 * (0 : UInt8).toNat + (80 : UInt8).toNat⟩ [] ∧
        proxySocks5ConnReq env ⟨w.bytes ++ [],
            [socks5Version, successReply, 0, fqdnAddress, 254] ++ name ++ [0, 80] ++ [], [], [], .none⟩ =
          if w.cmd = associateCommand then
            .ok true ⟨[], name ++ [0, 80] ++ [],
              [socks5Version, successReply, 0, byte (5000 / 256), byte 5000], w.bytes, .opened⟩
          else
            .ok false ⟨[], name ++ [0, 80] ++ [], [socks5Version, successReply, 0, fqdnAddress, 254],
              w.bytes, .none⟩) := by
  intro env w name
  exact ⟨rfl, rfl, rfl, rfl, rfl, rfl, trivial, List.length_replicate _ _,
    proxySocks5ConnReq_long_bind_fqdn env rfl rfl rfl rfl rfl rfl w trivial successReply 0 name
      (List.length_replicate _ _) 0 80 [] []⟩

end Mieru.Socks5
