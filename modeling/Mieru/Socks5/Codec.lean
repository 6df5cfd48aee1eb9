import Mieru.Socks5.Reader

/-! The address codec. `readAddrSpec` reads an address spec off a stream and `sendReply`
formats a reply around one. `WireAddr` is the spec's table of address specs on the wire, each
address of the length its type gives: the parser accepts exactly those, consumes exactly their
bytes, and reads back what `sendReply` writes. -/

namespace Mieru.Socks5
open Net

def readAddrSpec : Reader AddrSpec := do
  let addrType ← readFull 1
  let d : AddrSpec ←
    if addrType.getD 0 0 = ipv4Address then do
      let addr ← readFull 4
      pure { fqdn := [], ip := addr, port := 0 : AddrSpec }
    else if addrType.getD 0 0 = ipv6Address then do
      let addr ← readFull 16
      pure { fqdn := [], ip := addr, port := 0 : AddrSpec }
    else if addrType.getD 0 0 = fqdnAddress then do
      let addrType ← readFull 1
      let fqdn ← readFull (addrType.getD 0 0).toNat
      pure { fqdn := fqdn, ip := [], port := 0 : AddrSpec }
    else throw .unrecognizedAddrType
  let port ← readFull 2
  pure { d with port := ((port.getD 0 0).toNat <<< 8 ||| (port.getD 1 0).toNat : Nat) }

inductive WireAddr where
  | ipv4 (addr : List UInt8) (h : addr.length = 4) (hi lo : UInt8)
  | fqdn (name : List UInt8) (h : name.length < 256) (hi lo : UInt8)
  | ipv6 (addr : List UInt8) (h : addr.length = 16) (hi lo : UInt8)
deriving DecidableEq, Repr

namespace WireAddr

def bytes : WireAddr → List UInt8
  | ipv4 a _ hi lo => ipv4Address :: a ++ [hi, lo]
  | fqdn n _ hi lo => fqdnAddress :: n.length.toUInt8 :: n ++ [hi, lo]
  | ipv6 a _ hi lo => ipv6Address :: a ++ [hi, lo]

def addrSpec : WireAddr → AddrSpec
  | ipv4 a _ hi lo => ⟨[], a, 256 * hi.toNat + lo.toNat⟩
  | fqdn n _ hi lo => ⟨n, [], 256 * hi.toNat + lo.toNat⟩
  | ipv6 a _ hi lo => ⟨[], a, 256 * hi.toNat + lo.toNat⟩

theorem bytes_length (w : WireAddr) :
    w.bytes.length = match w with
      | ipv4 .. => 7
      | fqdn n .. => 4 + n.length
      | ipv6 .. => 19 := by
  cases w <;> simp_all [bytes]; omega

end WireAddr

theorem toNat_toUInt8 (n : Nat) : n.toUInt8.toNat = n % 256 := by
  simp [Nat.toUInt8, UInt8.ofNat, UInt8.toNat, BitVec.toNat_ofNat]

theorem toNat_add_byte (a b : UInt8) : (a + b).toNat = (a.toNat + b.toNat) % 256 := by
  simp [UInt8.toNat, UInt8.add_def, BitVec.toNat_add]

theorem toUInt8_toNat (b : UInt8) : b.toNat.toUInt8 = b :=
  UInt8.toNat.inj (by simp [toNat_toUInt8, Nat.mod_eq_of_lt b.toNat_lt_size])

theorem shiftLeft_or_eq (hi lo : UInt8) :
    hi.toNat <<< 8 ||| lo.toNat = 256 * hi.toNat + lo.toNat := by
  rw [Nat.shiftLeft_eq, Nat.mul_comm, ← Nat.mul_add_lt_is_or (i := 8) lo.toNat_lt_size]

theorem readAddrSpec_bytes (w : WireAddr) (rest : List UInt8) :
    readAddrSpec (w.bytes ++ rest) = .ok w.addrSpec rest := by
  cases w with
  | ipv4 a h hi lo | ipv6 a h hi lo =>
    simp [readAddrSpec, WireAddr.bytes, WireAddr.addrSpec, bind_apply, map_apply,
      readFull_append h, shiftLeft_or_eq, ipv4Address, ipv6Address]
  | fqdn n h hi lo =>
    simp [readAddrSpec, WireAddr.bytes, WireAddr.addrSpec, bind_apply, map_apply,
      toNat_toUInt8, Nat.mod_eq_of_lt h, @readFull_append _ n rfl, shiftLeft_or_eq, ipv4Address,
      ipv6Address, fqdnAddress]


theorem readAddrSpec_eq_ok {s rest : List UInt8} {d : AddrSpec}
    (h : readAddrSpec s = .ok d rest) : ∃ w : WireAddr, s = w.bytes ++ rest ∧ d = w.addrSpec := by
  simp only [readAddrSpec, bind_eq_ok, readFull_eq_ok] at h
  obtain ⟨ty, t, ⟨hty, rfl⟩, h⟩ := h
  obtain ⟨x, rfl⟩ := List.length_eq_one.mp hty
  simp only [List.getD_cons_zero] at h
  split_ifs at h with h1 h2 h3 <;>
    simp only [bind_eq_ok, readFull_eq_ok, pure_apply, throw_apply, EStateM.Result.ok.injEq,
      exists_eq_left, reduceCtorEq, false_and, exists_false] at h
  · obtain ⟨a, _, ⟨ha, rfl⟩, _, _, ⟨rfl, rfl⟩, p, _, ⟨hp, rfl⟩, rfl, rfl⟩ := h
    obtain ⟨hi, lo, rfl⟩ := List.length_eq_two.mp hp
    exact ⟨.ipv4 a ha hi lo, by simp [WireAddr.bytes, h1], by simp [WireAddr.addrSpec, shiftLeft_or_eq]⟩
  · obtain ⟨a, _, ⟨ha, rfl⟩, _, _, ⟨rfl, rfl⟩, p, _, ⟨hp, rfl⟩, rfl, rfl⟩ := h
    obtain ⟨hi, lo, rfl⟩ := List.length_eq_two.mp hp
    exact ⟨.ipv6 a ha hi lo, by simp [WireAddr.bytes, h2], by simp [WireAddr.addrSpec, shiftLeft_or_eq]⟩
  · obtain ⟨l, _, ⟨hl, rfl⟩, n, _, ⟨hn, rfl⟩, _, _, ⟨rfl, rfl⟩, p, _, ⟨hp, rfl⟩, rfl, rfl⟩ := h
    obtain ⟨y, rfl⟩ := List.length_eq_one.mp hl
    obtain ⟨hi, lo, rfl⟩ := List.length_eq_two.mp hp
    have hn' : n.length < 256 := hn ▸ y.toNat_lt_size
    refine ⟨.fqdn n hn' hi lo, ?_, by simp [WireAddr.addrSpec, shiftLeft_or_eq]⟩
    simp [WireAddr.bytes, h3, hn, toUInt8_toNat]

theorem readAddrSpec_unrecognized {t : UInt8} (h1 : t ≠ 1) (h3 : t ≠ 3) (h4 : t ≠ 4)
    (s : List UInt8) : readAddrSpec (t :: s) = .error .unrecognizedAddrType s := by
  simp [readAddrSpec, bind_apply, readFull, ipv4Address, ipv6Address, fqdnAddress, h1, h3, h4]

def toUint16 (n : Int) : Nat := (n % 65536).toNat

def portBytes (addrPort : Nat) : List UInt8 := [(addrPort >>> 8).toUInt8, (addrPort &&& 0xff).toUInt8]

def sendReply (resp : UInt8) (addr : Option AddrSpec) : Except Error (List UInt8) := do
  let (addrType, addrBody, addrPort) ← match addr with
    | none => pure (ipv4Address, [0, 0, 0, 0], 0)
    | some a =>
      if a.fqdn ≠ [] then pure (fqdnAddress, a.fqdn.length.toUInt8 :: a.fqdn, toUint16 a.port)
      else match a.ip.to4, a.ip.to16 with
        | some ip4, _ => pure (ipv4Address, ip4, toUint16 a.port)
        | none, some ip16 => pure (ipv6Address, ip16, toUint16 a.port)
        | none, none => throw (.errorf "failed to format address: %v" [.addrSpec a])
  pure ([socks5Version, resp, 0, addrType] ++ addrBody ++ portBytes addrPort)

theorem toUint16_lt (n : Int) : toUint16 n < 65536 := by
  unfold toUint16; omega

theorem toUint16_of_le {n : Int} (h0 : 0 ≤ n) (h1 : n ≤ 65535) : (toUint16 n : Int) = n := by
  unfold toUint16; omega

theorem portBytes_eq {p : Nat} (h : p < 65536) :
    ∃ hi lo : UInt8, portBytes p = [hi, lo] ∧ 256 * hi.toNat + lo.toNat = p := by
  refine ⟨_, _, rfl, ?_⟩
  have h8 : (0xff : Nat) = 2 ^ 8 - 1 := rfl
  rw [toNat_toUInt8, toNat_toUInt8, Nat.shiftRight_eq_div_pow, h8, Nat.and_pow_two_sub_one_eq_mod]
  omega

section
variable (resp : UInt8) (a : AddrSpec)

theorem sendReply_none :
    sendReply resp none = .ok [socks5Version, resp, 0, ipv4Address, 0, 0, 0, 0, 0, 0] := rfl

theorem sendReply_fqdn (h : a.fqdn ≠ []) :
    sendReply resp (some a) = .ok ([socks5Version, resp, 0, fqdnAddress, a.fqdn.length.toUInt8] ++
      a.fqdn ++ portBytes (toUint16 a.port)) := by
  simp [sendReply, h]
  rfl

theorem sendReply_to4 {ip4 : Net.IP} (h : a.fqdn = []) (h4 : a.ip.to4 = some ip4) :
    sendReply resp (some a) =
      .ok ([socks5Version, resp, 0, ipv4Address] ++ ip4 ++ portBytes (toUint16 a.port)) := by
  simp [sendReply, h, h4]
  rfl

theorem sendReply_to16 {ip16 : Net.IP} (h : a.fqdn = []) (h4 : a.ip.to4 = none)
    (h16 : a.ip.to16 = some ip16) :
    sendReply resp (some a) =
      .ok ([socks5Version, resp, 0, ipv6Address] ++ ip16 ++ portBytes (toUint16 a.port)) := by
  simp [sendReply, h, h4, h16]
  rfl

theorem sendReply_error (h : a.fqdn = []) (h4 : a.ip.to4 = none) (h16 : a.ip.to16 = none) :
    sendReply resp (some a) = .error (.errorf "failed to format address: %v" [.addrSpec a]) := by
  simp [sendReply, h, h4, h16]
  rfl

end

/-- A port in 0..65535, and an FQDN of 1 to 255 bytes or else a 4- or 16-byte IP. -/
def AddrSpec.Valid (a : AddrSpec) : Prop :=
  0 ≤ a.port ∧ a.port ≤ 65535 ∧
    (a.fqdn ≠ [] ∧ a.fqdn.length ≤ 255 ∧ a.ip = [] ∨ a.fqdn = [] ∧ (a.ip.length = 4 ∨ a.ip.length = 16))

instance (a : AddrSpec) : Decidable a.Valid :=
  inferInstanceAs (Decidable (0 ≤ a.port ∧ a.port ≤ 65535 ∧
    (a.fqdn ≠ [] ∧ a.fqdn.length ≤ 255 ∧ a.ip = [] ∨ a.fqdn = [] ∧ (a.ip.length = 4 ∨ a.ip.length = 16))))

theorem reply_wire (c : UInt8) (w : WireAddr) :
    ([socks5Version, c, 0] ++ w.bytes).take 3 = [5, c, 0] ∧
      ∀ rest, readAddrSpec (([socks5Version, c, 0] ++ w.bytes).drop 3 ++ rest) = .ok w.addrSpec rest :=
  ⟨rfl, readAddrSpec_bytes w⟩

/-- `readAddrSpec` reads back, exactly, the address spec `sendReply` wrote. -/
theorem sendReply_readAddrSpec (c : UInt8) (V : AddrSpec) (hV : V.Valid) :
    ∃ M V', sendReply c (some V) = .ok M ∧ M.take 3 = [5, c, 0] ∧
      (∀ rest, readAddrSpec (M.drop 3 ++ rest) = .ok V' rest) ∧
      V'.fqdn = V.fqdn ∧ V'.port = V.port ∧ V'.ip.equal V.ip ∧
      (V'.ip.length = 4 ↔ V.ip.to4.isSome) := by
  obtain ⟨h0, h1, hV⟩ := hV
  obtain ⟨hi, lo, hpb, hport⟩ := portBytes_eq (toUint16_lt V.port)
  have hp : (256 * hi.toNat + lo.toNat : Int) = V.port := by
    rw [← toUint16_of_le h0 h1]; exact_mod_cast hport
  rcases hV with ⟨hf, hlen, hip⟩ | ⟨hf, hlen⟩
  · refine ⟨_, (WireAddr.fqdn V.fqdn (by omega) hi lo).addrSpec,
      by simp [sendReply_fqdn c V hf, hpb, WireAddr.bytes], (reply_wire c (.fqdn ..)).1,
      (reply_wire c (.fqdn ..)).2, rfl, hp, ?_⟩
    simp [WireAddr.addrSpec, hip, IP.equal_refl, IP.to4]
  · cases h4 : V.ip.to4 with
    | some ip4 =>
      refine ⟨_, (WireAddr.ipv4 ip4 (IP.to4_length h4) hi lo).addrSpec,
        by simp [sendReply_to4 c V hf h4, hpb, WireAddr.bytes], (reply_wire c (.ipv4 ..)).1,
        (reply_wire c (.ipv4 ..)).2, hf.symm, hp, IP.equal_to4 h4, ?_⟩
      simp [WireAddr.addrSpec, IP.to4_length h4]
    | none =>
      have h16 : V.ip.length = 16 := hlen.resolve_left fun h => by simp [IP.to4, h] at h4
      have hto16 : V.ip.to16 = some V.ip := by simp [IP.to16, h16]
      refine ⟨_, (WireAddr.ipv6 V.ip h16 hi lo).addrSpec,
        by simp [sendReply_to16 c V hf h4 hto16, hpb, WireAddr.bytes], (reply_wire c (.ipv6 ..)).1,
        (reply_wire c (.ipv6 ..)).2, hf.symm, hp, IP.equal_refl _, ?_⟩
      simp [WireAddr.addrSpec, h16]

theorem sendReply_readAddrSpec_mapped :
    (⟨[], Net.ipv4 10 0 0 1, 1080⟩ : AddrSpec).Valid ∧
      ∃ M V', sendReply successReply (some ⟨[], Net.ipv4 10 0 0 1, 1080⟩) = .ok M ∧
        M.take 3 = [5, successReply, 0] ∧ (∀ rest, readAddrSpec (M.drop 3 ++ rest) = .ok V' rest) ∧
        V'.fqdn = [] ∧ V'.port = 1080 ∧ V'.ip.equal (Net.ipv4 10 0 0 1) ∧
        (V'.ip.length = 4 ↔ (Net.ipv4 10 0 0 1).to4.isSome) :=
  ⟨by decide, sendReply_readAddrSpec successReply _ (by decide)⟩

theorem toUInt8_mod (n : Nat) : (n % 256).toUInt8 = n.toUInt8 :=
  UInt8.toNat.inj (by simp [toNat_toUInt8])

theorem exists_cons_cons {l : List UInt8} (h : 2 ≤ l.length) : ∃ x y t, l = x :: y :: t := by
  match l, h with
  | x :: y :: t, _ => exact ⟨x, y, t, rfl⟩

theorem sendReply_fqdn_readAddrSpec (c : UInt8) (a : AddrSpec) (h : a.fqdn ≠ []) (rest : List UInt8) :
    ∃ M V' tail, sendReply c (some a) = .ok M ∧ readAddrSpec (M.drop 3 ++ rest) = .ok V' (tail ++ rest) ∧
      tail.length = a.fqdn.length - a.fqdn.length % 256 := by
  have hL : a.fqdn.length % 256 ≤ a.fqdn.length := Nat.mod_le _ _
  obtain ⟨hi, lo, tail, ht⟩ :=
    exists_cons_cons (l := a.fqdn.drop (a.fqdn.length % 256) ++ portBytes (toUint16 a.port))
      (by simp [portBytes])
  have hname : (a.fqdn.take (a.fqdn.length % 256)).length < 256 := by simp; omega
  have hlen := congrArg List.length ht
  refine ⟨_, (WireAddr.fqdn _ hname hi lo).addrSpec, tail, sendReply_fqdn c a h, ?_,
    by simp [portBytes] at hlen; omega⟩
  have hbytes : ([socks5Version, c, 0, fqdnAddress, a.fqdn.length.toUInt8] ++ a.fqdn ++
      portBytes (toUint16 a.port)).drop 3 ++ rest =
      (WireAddr.fqdn _ hname hi lo).bytes ++ (tail ++ rest) := by
    simp only [WireAddr.bytes, List.length_take, Nat.min_eq_left hL, toUInt8_mod]
    rw [List.append_assoc _ [hi, lo], show [hi, lo] ++ (tail ++ rest) = (hi :: lo :: tail) ++ rest
      from rfl, ← ht]
    simp [← List.append_assoc]
  rw [hbytes, readAddrSpec_bytes]

/-- A name of 256 bytes or more gets its length mod 256, and part of it stays unread. -/
theorem sendReply_long_fqdn_unread (c : UInt8) (a : AddrSpec) (h : 256 ≤ a.fqdn.length) :
    ∃ M V' tail, sendReply c (some a) = .ok M ∧ M[4]? = some (a.fqdn.length % 256).toUInt8 ∧
      readAddrSpec (M.drop 3) = .ok V' tail ∧ tail ≠ [] := by
  have hne : a.fqdn ≠ [] := List.ne_nil_of_length_pos (by omega)
  obtain ⟨M, V', tail, hM, hr, hl⟩ := sendReply_fqdn_readAddrSpec c a hne []
  simp only [List.append_nil] at hr
  refine ⟨M, V', tail, hM, ?_, hr, List.ne_nil_of_length_pos (by omega)⟩
  rw [sendReply_fqdn _ _ hne] at hM
  cases hM
  simp [toUInt8_mod]

set_option maxRecDepth 4096 in
theorem sendReply_long_fqdn_unread_at_256 :
    256 ≤ (List.replicate 256 (97 : UInt8)).length ∧
      ∃ M V' tail, sendReply successReply (some ⟨List.replicate 256 97, [], 0⟩) = .ok M ∧
        M[4]? = some ((List.replicate 256 (97 : UInt8)).length % 256).toUInt8 ∧
        readAddrSpec (M.drop 3) = .ok V' tail ∧ tail ≠ [] :=
  have h : 256 ≤ (List.replicate 256 (97 : UInt8)).length := Nat.le_of_eq (List.length_replicate _ _).symm
  ⟨h, sendReply_long_fqdn_unread successReply ⟨List.replicate 256 97, [], 0⟩ h⟩

end Mieru.Socks5
