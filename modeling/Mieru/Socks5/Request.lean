import Mieru.Socks5.Codec

/-! `NewRequest`, the parser of a connection request. `WireRequest` is the spec's layout of one,
`VER CMD RSV ATYP DST.ADDR DST.PORT` with `VER = 5`: a stream yields a request exactly when it
starts with one, the parser then reads exactly its bytes, and a failed parse stops early. -/

namespace Mieru.Socks5

def newRequest : Reader Request := do
  let header ← (readFull 3).adaptExcept (.wrapf "failed to get command version: %w" [])
  if header.getD 0 0 ≠ socks5Version then
    throw (.errorf "unsupported command version: %v" [.uint8 (header.getD 0 0)])
  let dest ← readAddrSpec
  pure { version := socks5Version, command := header.getD 1 0, destAddr := dest }

structure WireRequest where
  cmd : UInt8
  rsv : UInt8
  addr : WireAddr
deriving DecidableEq, Repr

namespace WireRequest

def bytes (w : WireRequest) : List UInt8 := [socks5Version, w.cmd, w.rsv] ++ w.addr.bytes

def request (w : WireRequest) : Request :=
  { version := socks5Version, command := w.cmd, destAddr := w.addr.addrSpec }

theorem bytes_length (w : WireRequest) :
    w.bytes.length = match w.addr with
      | .ipv4 .. => 10
      | .fqdn n .. => 7 + n.length
      | .ipv6 .. => 22 := by
  rcases w with ⟨_, _, _ | _ | _⟩ <;> simp [bytes, WireAddr.bytes_length]; omega

end WireRequest

theorem newRequest_bytes (w : WireRequest) (rest : List UInt8) :
    newRequest (w.bytes ++ rest) = .ok w.request rest := by
  simp [newRequest, WireRequest.bytes, WireRequest.request, bind_apply, map_apply,
    adaptExcept_apply, readFull, socks5Version, readAddrSpec_bytes]

theorem newRequest_eq_ok {s rest : List UInt8} {req : Request} (h : newRequest s = .ok req rest) :
    ∃ w : WireRequest, s = w.bytes ++ rest ∧ req = w.request := by
  rw [newRequest, bind_eq_ok] at h
  obtain ⟨hd, t, hh, h⟩ := h
  obtain ⟨hl, rfl⟩ := readFull_eq_ok.mp (adaptExcept_eq_ok.mp hh)
  obtain ⟨v, c, r, rfl⟩ : ∃ v c r, hd = [v, c, r] := by
    match hd, hl with
    | [v, c, r], _ => exact ⟨v, c, r, rfl⟩
  by_cases hv : v = socks5Version
  · simp only [hv, List.getD_cons_zero, List.getD_cons_succ, ne_eq, not_true_eq_false, if_false,
      bind_eq_ok, pure_apply, EStateM.Result.ok.injEq] at h
    obtain ⟨_, _, ⟨-, rfl⟩, d, t'', ha, rfl, rfl⟩ := h
    obtain ⟨wa, rfl, rfl⟩ := readAddrSpec_eq_ok ha
    exact ⟨⟨c, r, wa⟩, by simp [WireRequest.bytes, hv], rfl⟩
  · simp [hv, bind_apply] at h

theorem newRequest_bad_version {s : List UInt8} (h : s.head? ≠ some socks5Version) :
    ∃ e, newRequest s = .error e (s.drop 3) := by
  by_cases hl : 3 ≤ s.length
  · obtain ⟨v, c, r, t, rfl⟩ : ∃ v c r t, s = v :: c :: r :: t :=
      match s, hl with
      | v :: c :: r :: t, _ => ⟨v, c, r, t, rfl⟩
    simp only [List.head?_cons, ne_eq, Option.some.injEq] at h
    exact ⟨_, by simp [newRequest, bind_apply, adaptExcept_apply, readFull, h]; rfl⟩
  · exact ⟨_, by simp [newRequest, bind_apply, adaptExcept_apply, readFull, hl,
      List.drop_eq_nil_of_le (Nat.le_of_not_le hl)]; rfl⟩

theorem newRequest_bad_addrType {v c r t : UInt8} (hv : v = socks5Version) (h1 : t ≠ 1)
    (h3 : t ≠ 3) (h4 : t ≠ 4) (s : List UInt8) :
    newRequest (v :: c :: r :: t :: s) = .error .unrecognizedAddrType s := by
  simp [newRequest, bind_apply, map_apply, adaptExcept_apply, readFull, hv,
    readAddrSpec_unrecognized h1 h3 h4]

/-- `NewRequest` succeeds exactly on a stream that starts with a request, and reads just it. -/
theorem newRequest_exact (s : List UInt8) :
    ((∃ req rest, newRequest s = .ok req rest) ↔ ∃ (w : WireRequest) (rest : List UInt8), s = w.bytes ++ rest) ∧
    (∀ (w : WireRequest) (rest : List UInt8), s = w.bytes ++ rest → newRequest s = .ok w.request rest) ∧
    (s.head? ≠ some 5 → ∃ e, newRequest s = .error e (s.drop 3)) ∧
    (s.head? = some 5 → ∀ t, s[3]? = some t → t ≠ 1 → t ≠ 3 → t ≠ 4 →
      newRequest s = .error .unrecognizedAddrType (s.drop 4)) := by
  refine ⟨⟨fun ⟨_, rest, h⟩ => ?_, fun ⟨w, rest, h⟩ => ⟨_, _, h ▸ newRequest_bytes w rest⟩⟩,
    fun w rest h => h ▸ newRequest_bytes w rest, newRequest_bad_version, fun h0 t ht h1 h3 h4 => ?_⟩
  · obtain ⟨w, hs, -⟩ := newRequest_eq_ok h
    exact ⟨w, rest, hs⟩
  · match s, h0, ht with
    | v :: c :: r :: t' :: s', h0, ht =>
      simp only [List.head?_cons, Option.some.injEq, List.getElem?_cons_succ,
        List.getElem?_cons_zero] at h0 ht
      subst ht
      exact newRequest_bad_addrType h0 h1 h3 h4 s'

end Mieru.Socks5
