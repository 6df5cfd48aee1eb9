import Mieru.Socks5.Codec

/-! The outbound pump of `handleAssociate`: it reads datagrams from the UDP-associate tunnel
into one reused 64 KiB buffer (`Buffer`, the byte at each index, which a read overwrites only
as far as it goes), checks their SOCKS5 UDP header, and sends the rest to the address the
header names. `handleDatagram` is one pass of its loop: it sends, skips the datagram, stops with
the error the pump then stores, or panics. `outboundLoop` is the loop on its own, which ends
still reading, having stored an error, or in a panic. -/

namespace Mieru.Socks5
open Net

def bufSize : Nat := 65536

structure Datagram where
  bytes : List UInt8
  length_le : bytes.length ≤ bufSize
deriving DecidableEq, Repr

structure UdpAddr where
  ip : IP
  port : Int
deriving DecidableEq, Repr

abbrev Buffer := Nat → UInt8

namespace Buffer

def zero : Buffer := fun _ => 0

def read (buf : Buffer) (d : List UInt8) : Buffer := fun i => d.getD i (buf i)

def slice (buf : Buffer) (lo hi : Nat) : Option (List UInt8) :=
  if lo ≤ hi ∧ hi ≤ bufSize then some ((List.range (hi - lo)).map fun i => buf (lo + i)) else none

end Buffer

inductive Handled where
  | send (dst : UdpAddr) (payload : List UInt8)
  | skip
  | stop (err : Error)
  | panic
deriving DecidableEq, Repr

def validateDatagram (buf : Buffer) (n : Nat) : Option Error :=
  if n ≤ 6 then some .noEnoughData
  else if buf 0 ≠ 0 ∨ buf 1 ≠ 0 then some .invalidArgument
  else if buf 2 ≠ 0 then some .unsupported
  else if buf 3 ≠ 1 ∧ buf 3 ≠ 3 ∧ buf 3 ≠ 4 then some .invalidArgument
  else if (buf 3 = 1 ∧ n ≤ 10) ∨ (buf 3 = 3 ∧ n ≤ (buf 4).toNat + 6) ∨ (buf 3 = 4 ∧ n ≤ 22) then
    some .noEnoughData
  else none

/-- The loop's `switch addrType`; `resolveUDPAddr` is asked with the name's bytes and port. -/
def forwardDatagram (resolveUDPAddr : List UInt8 → Int → Except Error UdpAddr) (buf : Buffer)
    (n : Nat) : Handled :=
  let addrType := buf 3
  if addrType = 1 then
    match buf.slice 4 8, buf.slice 10 (n + 1) with
    | some ip, some payload => .send ⟨ip, ((buf 8).toNat <<< 8 + (buf 9).toNat : Nat)⟩ payload
    | _, _ => .panic
  else if addrType = 3 then
    let fqdnLen := buf 4
    match buf.slice 5 (5 + fqdnLen).toNat with
    | none => .panic
    | some fqdn =>
      match resolveUDPAddr fqdn
          ((buf (5 + fqdnLen).toNat).toNat <<< 8 + (buf (6 + fqdnLen).toNat).toNat : Nat) with
      | .error _ => .skip
      | .ok dstAddr =>
        match buf.slice (7 + fqdnLen).toNat (n + 1) with
        | some payload => .send dstAddr payload
        | none => .panic
  else if addrType = 4 then
    match buf.slice 4 20, buf.slice 22 (n + 1) with
    | some ip, some payload => .send ⟨ip, ((buf 20).toNat <<< 8 + (buf 21).toNat : Nat)⟩ payload
    | _, _ => .panic
  else .skip

def handleDatagram (resolveUDPAddr : List UInt8 → Int → Except Error UdpAddr) (buf : Buffer)
    (n : Nat) : Handled :=
  match validateDatagram buf n with
  | some err => .stop err
  | none => forwardDatagram resolveUDPAddr buf n

inductive TunnelRead where
  | datagram (d : Datagram)
  | error (e : Error)
deriving DecidableEq, Repr

inductive LoopEnd where
  | reading
  | stored (err : Error)
  | panicked
deriving DecidableEq, Repr

def outboundLoop (resolveUDPAddr : List UInt8 → Int → Except Error UdpAddr) (buf : Buffer) :
    List TunnelRead → List (UdpAddr × List UInt8) × LoopEnd
  | [] => ([], .reading)
  | .error e :: _ => ([], .stored e)
  | .datagram d :: reads =>
    let buf := buf.read d.bytes
    match handleDatagram resolveUDPAddr buf d.bytes.length with
    | .send dst payload =>
      let (sends, e) := outboundLoop resolveUDPAddr buf reads
      ((dst, payload) :: sends, e)
    | .skip => outboundLoop resolveUDPAddr buf reads
    | .stop err => ([], .stored err)
    | .panic => ([], .panicked)

theorem outboundLoop_datagram (r : List UInt8 → Int → Except Error UdpAddr) (buf : Buffer)
    (d : Datagram) (rs : List TunnelRead) :
    outboundLoop r buf (.datagram d :: rs) =
      match handleDatagram r (buf.read d.bytes) d.bytes.length with
      | .send dst payload =>
        ((dst, payload) :: (outboundLoop r (buf.read d.bytes) rs).1,
          (outboundLoop r (buf.read d.bytes) rs).2)
      | .skip => outboundLoop r (buf.read d.bytes) rs
      | .stop err => ([], .stored err)
      | .panic => ([], .panicked) := by
  cases h : handleDatagram r (buf.read d.bytes) d.bytes.length <;> simp [outboundLoop, h]

theorem Buffer.read_apply (buf : Buffer) (d : List UInt8) (i : Nat) :
    buf.read d i = (d[i]?).getD (buf i) := by
  simp [Buffer.read, List.getD_eq_getElem?_getD]

theorem Buffer.read_of_lt {buf : Buffer} {d : List UInt8} {i : Nat} (h : i < d.length) :
    buf.read d i = d.get ⟨i, h⟩ := by
  simp [Buffer.read_apply, List.getElem?_eq_getElem h]

theorem Buffer.read_of_le {buf : Buffer} {d : List UInt8} {i : Nat} (h : d.length ≤ i) :
    buf.read d i = buf i := by
  simp [Buffer.read_apply, List.getElem?_eq_none h]

theorem Buffer.map_range_read (buf : Buffer) (d : List UInt8) {lo k : Nat} (h : lo + k ≤ d.length) :
    (List.range k).map (fun i => buf.read d (lo + i)) = (d.drop lo).take k := by
  apply List.ext_getElem
  · simp; omega
  · intro i h1 h2
    simp only [List.length_map, List.length_range] at h1
    simp [Buffer.read_of_lt (show lo + i < d.length by omega)]

theorem Buffer.slice_read_payload (buf : Buffer) (hdr data : List UInt8) {k n : Nat}
    (hk : hdr.length = k) (hn : n = k + data.length) :
    (buf.read (hdr ++ data)).slice k (n + 1) =
      if n < bufSize then some (data ++ [buf n]) else none := by
  subst hk hn
  unfold Buffer.slice
  split_ifs with h1 h2 h2
  · have hk : hdr.length + data.length + 1 - hdr.length = data.length + 1 := by omega
    rw [hk, List.range_succ, List.map_append, Buffer.map_range_read buf _ (by simp)]
    simp [Buffer.read_of_le]
  · omega
  · omega
  · rfl

def headerAccepts (d : List UInt8) : Prop :=
  d[0]? = some 0 ∧ d[1]? = some 0 ∧ d[2]? = some 0 ∧
    (d[3]? = some 1 ∧ 10 < d.length ∨ (d[3]? = some 3 ∧ ∃ l : UInt8, d[4]? = some l ∧
      6 + l.toNat < d.length) ∨ d[3]? = some 4 ∧ 22 < d.length)

theorem validateDatagram_read (buf : Buffer) (d : List UInt8) :
    validateDatagram (buf.read d) d.length = none ↔ headerAccepts d := by
  by_cases hn : d.length ≤ 6
  · have : ¬ headerAccepts d := by
      rintro ⟨-, -, -, ⟨-, h⟩ | ⟨-, l, -, h⟩ | ⟨-, h⟩⟩ <;> omega
    simp [validateDatagram, hn, this]
  · have hget : ∀ i, i < 7 → ∃ b, d[i]? = some b ∧ buf.read d i = b := fun i hi =>
      ⟨d.get ⟨i, by omega⟩, List.getElem?_eq_getElem _, Buffer.read_of_lt _⟩
    obtain ⟨b0, h0, r0⟩ := hget 0 (by omega)
    obtain ⟨b1, h1, r1⟩ := hget 1 (by omega)
    obtain ⟨b2, h2, r2⟩ := hget 2 (by omega)
    obtain ⟨b3, h3, r3⟩ := hget 3 (by omega)
    obtain ⟨b4, h4, r4⟩ := hget 4 (by omega)
    simp only [headerAccepts, h0, h1, h2, h3, h4, Option.some.injEq, exists_eq_left']
    unfold validateDatagram
    simp only [hn, if_false, r0, r1, r2, r3, r4]
    split_ifs with c1 c2 c3 c4
    · exact iff_of_false not_false fun ⟨e0, e1, _⟩ => c1.elim (· e0) (· e1)
    · exact iff_of_false not_false fun ⟨_, _, e2, _⟩ => c2 e2
    · refine iff_of_false not_false fun ⟨_, _, _, h⟩ => ?_
      rcases h with ⟨e3, -⟩ | ⟨e3, -⟩ | ⟨e3, -⟩
      exacts [c3.1 e3, c3.2.1 e3, c3.2.2 e3]
    · refine iff_of_false not_false fun ⟨_, _, _, h⟩ => ?_
      rcases c4 with ⟨rfl, _⟩ | ⟨rfl, _⟩ | ⟨rfl, _⟩ <;> rcases h with ⟨e3, _⟩ | ⟨e3, _⟩ | ⟨e3, _⟩ <;>
        first | omega | exact absurd e3 (by decide)
    simp only [not_or, not_and, ne_eq, not_not, not_le] at c1 c2 c3 c4
    refine iff_of_true rfl ⟨c1.1, c1.2, c2, ?_⟩
    by_cases c5 : b3 = 1
    · exact .inl ⟨c5, c4.1 c5⟩
    by_cases c6 : b3 = 3
    · exact .inr (.inl ⟨c6, by have := c4.2.1 c6; omega⟩)
    · exact .inr (.inr ⟨c3 c5 c6, c4.2.2 (c3 c5 c6)⟩)

theorem handleDatagram_ipv4 (r : List UInt8 → Int → Except Error UdpAddr) (buf : Buffer)
    (ip : List UInt8) (hip : ip.length = 4) (hi lo : UInt8) (data : List UInt8) (hdata : data ≠ []) :
    handleDatagram r (buf.read ([0, 0, 0] ++ (WireAddr.ipv4 ip hip hi lo).bytes ++ data))
        (10 + data.length) =
      if 10 + data.length < bufSize then
        .send ⟨ip, 256 * hi.toNat + lo.toNat⟩ (data ++ [buf (10 + data.length)])
      else .panic := by
  obtain ⟨a, b, c, e, rfl⟩ : ∃ a b c e, ip = [a, b, c, e] :=
    match ip, hip with
    | [a, b, c, e], _ => ⟨a, b, c, e, rfl⟩
  have hd : [0, 0, 0] ++ (WireAddr.ipv4 [a, b, c, e] hip hi lo).bytes ++ data =
      [0, 0, 0, 1, a, b, c, e, hi, lo] ++ data := rfl
  have hlen : ([0, 0, 0, 1, a, b, c, e, hi, lo] ++ data).length = 10 + data.length := by
    simp; omega
  have hval : validateDatagram (buf.read ([0, 0, 0, 1, a, b, c, e, hi, lo] ++ data))
      (10 + data.length) = none := by
    rw [← hlen, validateDatagram_read]
    exact ⟨rfl, rfl, rfl, .inl ⟨rfl, by simp [List.length_pos.mpr hdata]⟩⟩
  have hs4 : (buf.read ([0, 0, 0, 1, a, b, c, e, hi, lo] ++ data)).slice 4 8 = some [a, b, c, e] := by
    simp [Buffer.slice, Buffer.read_apply, List.range_succ, bufSize]
  have hs10 := @Buffer.slice_read_payload buf [0, 0, 0, 1, a, b, c, e, hi, lo] data
    10 (10 + data.length) rfl rfl
  have r3 : buf.read ([0, 0, 0, 1, a, b, c, e, hi, lo] ++ data) 3 = 1 := rfl
  have r8 : buf.read ([0, 0, 0, 1, a, b, c, e, hi, lo] ++ data) 8 = hi := rfl
  have r9 : buf.read ([0, 0, 0, 1, a, b, c, e, hi, lo] ++ data) 9 = lo := rfl
  rw [hd, handleDatagram, hval]
  simp only [forwardDatagram, r3, r8, r9, hs4, hs10, if_true, Nat.shiftLeft_eq]
  split_ifs <;> simp; omega

theorem handleDatagram_ipv4_at_dns :
    handleDatagram (fun _ _ => .error .eof) (Buffer.zero.read [0, 0, 0, 1, 8, 8, 8, 8, 0, 53, 42]) 11 =
      .send ⟨[8, 8, 8, 8], 53⟩ [42, 0] := by
  have h := handleDatagram_ipv4 (fun _ _ => .error .eof) Buffer.zero [8, 8, 8, 8] rfl 0 53 [42]
    (List.cons_ne_nil _ _)
  simpa [WireAddr.bytes, bufSize, Buffer.zero, ipv4Address] using h

theorem handleDatagram_fqdn_wrap (r : List UInt8 → Int → Except Error UdpAddr) (buf : Buffer)
    (L : UInt8) (hL : 251 ≤ L.toNat) (rest : List UInt8) (hn : 6 + L.toNat < rest.length + 5) :
    handleDatagram r (buf.read ([0, 0, 0, fqdnAddress, L] ++ rest)) (rest.length + 5) = .panic := by
  have hval : validateDatagram (buf.read ([0, 0, 0, fqdnAddress, L] ++ rest)) (rest.length + 5) =
      none := by
    have hlen : ([0, 0, 0, fqdnAddress, L] ++ rest).length = rest.length + 5 := by
      simp only [List.length_append, List.length_cons, List.length_nil]; omega
    rw [← hlen, validateDatagram_read]
    exact ⟨rfl, rfl, rfl, .inr (.inl ⟨rfl, L, by simp, by omega⟩)⟩
  have h5 : ¬ 5 ≤ (5 + L).toNat := by
    have : L.toNat < 256 := L.toNat_lt_size
    rw [toNat_add_byte, show (5 : UInt8).toNat = 5 from rfl]; omega
  have r3 : buf.read ([0, 0, 0, fqdnAddress, L] ++ rest) 3 = 3 := rfl
  have r4 : buf.read ([0, 0, 0, fqdnAddress, L] ++ rest) 4 = L := rfl
  rw [handleDatagram, hval]
  simp only [forwardDatagram, r3, r4]
  simp [Buffer.slice, h5]

/-! ### Every well-formed datagram -/

theorem Buffer.read_of_append (buf : Buffer) {d : List UInt8} (pre rest : List UInt8) {x : UInt8}
    {i : Nat} (hd : d = pre ++ x :: rest) (hi : pre.length = i) : buf.read d i = x := by
  subst hd hi
  rw [Buffer.read_apply, List.getElem?_append_right (le_refl _), Nat.sub_self,
    List.getElem?_cons_zero, Option.getD_some]

theorem Buffer.slice_read_within (buf : Buffer) (d : List UInt8) {lo hi : Nat} (hlo : lo ≤ hi)
    (hd : hi ≤ d.length) (hb : hi ≤ bufSize) :
    (buf.read d).slice lo hi = some ((d.drop lo).take (hi - lo)) := by
  rw [Buffer.slice, if_pos ⟨hlo, hb⟩, Buffer.map_range_read buf d (by omega)]

theorem toNat_add_toUInt8 (c : UInt8) {n : Nat} (hn : n < 256) :
    (c + n.toUInt8).toNat = (c.toNat + n) % 256 := by
  rw [toNat_add_byte, toNat_toUInt8, Nat.mod_eq_of_lt hn]

theorem port_shiftLeft (hi lo : UInt8) :
    ((hi.toNat <<< 8 + lo.toNat : Nat) : Int) = 256 * hi.toNat + lo.toNat := by
  simp only [Nat.shiftLeft_eq]; push_cast; omega

/-- What the pump does with `[0, 0, 0] ++ w.bytes ++ data` when it reads the address as written. -/
def datagramOutcome (resolveUDPAddr : List UInt8 → Int → Except Error UdpAddr) (buf : Buffer)
    (w : WireAddr) (data : List UInt8) : Handled :=
  let n := 3 + w.bytes.length + data.length
  let forward (dst : UdpAddr) : Handled :=
    if n < bufSize then .send dst (data ++ [buf n]) else .panic
  match w with
  | .ipv4 a _ hi lo | .ipv6 a _ hi lo =>
    if data = [] then .stop .noEnoughData else forward ⟨a, 256 * hi.toNat + lo.toNat⟩
  | .fqdn name _ hi lo =>
    match resolveUDPAddr name (256 * hi.toNat + lo.toNat) with
    | .ok dst => forward dst
    | .error _ => .skip

theorem handleDatagram_ip (r : List UInt8 → Int → Except Error UdpAddr) (buf : Buffer)
    {t : UInt8} {k : Nat} (ht : t = ipv4Address ∧ k = 4 ∨ t = ipv6Address ∧ k = 16)
    (w : WireAddr) {a : List UInt8} (ha : a.length = k) {hi lo : UInt8}
    (hw : w.bytes = t :: a ++ [hi, lo]) (data : List UInt8) :
    handleDatagram r (buf.read ([0, 0, 0] ++ w.bytes ++ data)) (3 + w.bytes.length + data.length) =
      if data = [] then .stop .noEnoughData
      else if 3 + w.bytes.length + data.length < bufSize then
        .send ⟨a, 256 * hi.toNat + lo.toNat⟩ (data ++ [buf (3 + w.bytes.length + data.length)])
      else .panic := by
  rw [hw]
  set d := [0, 0, 0] ++ (t :: a ++ [hi, lo]) ++ data with hd
  have hlen : 3 + (t :: a ++ [hi, lo]).length + data.length = d.length := by simp [d]; omega
  rw [hlen]
  have r3 : buf.read d 3 = t := rfl
  have rhi : buf.read d (4 + k) = hi :=
    Buffer.read_of_append buf ([0, 0, 0, t] ++ a) (lo :: data) (by simp [d]) (by simp [ha]; omega)
  have rlo : buf.read d (5 + k) = lo :=
    Buffer.read_of_append buf ([0, 0, 0, t] ++ a ++ [hi]) data (by simp [d]) (by simp [ha]; omega)
  have hip : (buf.read d).slice 4 (4 + k) = some a := by
    rw [Buffer.slice_read_within buf d (by omega) (by simp [d, ha]; omega) (by unfold bufSize; omega)]
    simp [d, ha]
  have hpay : (buf.read d).slice (6 + k) (d.length + 1) =
      if d.length < bufSize then some (data ++ [buf d.length]) else none :=
    Buffer.slice_read_payload buf ([0, 0, 0] ++ (t :: a ++ [hi, lo])) data (by simp [ha]; omega)
      (by simp [d, ha]; omega)
  by_cases hdata : data = []
  · subst hdata
    have hn : d.length = 6 + k := by simp [d, ha]; omega
    have r0 : buf.read d 0 = 0 := rfl
    have r1 : buf.read d 1 = 0 := rfl
    have r2 : buf.read d 2 = 0 := rfl
    rcases ht with ⟨rfl, rfl⟩ | ⟨rfl, rfl⟩ <;>
      simp [handleDatagram, validateDatagram, hn, r0, r1, r2, r3, ipv4Address, ipv6Address]
  · have hval : validateDatagram (buf.read d) d.length = none := by
      rw [validateDatagram_read]
      have := List.length_pos.mpr hdata
      rcases ht with ⟨rfl, rfl⟩ | ⟨rfl, rfl⟩
      · exact ⟨rfl, rfl, rfl, .inl ⟨by simp [d, ipv4Address], by simp [d, ha]; omega⟩⟩
      · exact ⟨rfl, rfl, rfl, .inr (.inr ⟨by simp [d, ipv6Address], by simp [d, ha]; omega⟩)⟩
    rw [handleDatagram, hval, if_neg hdata]
    dsimp only [forwardDatagram]
    rcases ht with ⟨rfl, rfl⟩ | ⟨rfl, rfl⟩ <;> simp only [Nat.reduceAdd] at rhi rlo hip hpay
    · rw [r3, if_pos (show ipv4Address = 1 from rfl), hip, hpay, rhi, rlo, port_shiftLeft]
      split_ifs <;> rfl
    · rw [r3, if_neg (by decide : ipv6Address ≠ 1), if_neg (by decide : ipv6Address ≠ 3),
        if_pos (show ipv6Address = 4 from rfl), hip, hpay, rhi, rlo, port_shiftLeft]
      split_ifs <;> rfl

theorem handleDatagram_fqdn (r : List UInt8 → Int → Except Error UdpAddr) (buf : Buffer)
    (name : List UInt8) (hn : name.length < 256) (hL : name.length ≤ 250) (hi lo : UInt8)
    (data : List UInt8) :
    let d := [0, 0, 0] ++ (WireAddr.fqdn name hn hi lo).bytes ++ data
    handleDatagram r (buf.read d) d.length =
      match r name ((hi.toNat <<< 8 + (buf.read d (6 + name.length.toUInt8).toNat).toNat : Nat)) with
      | .error _ => .skip
      | .ok dst =>
        match (buf.read d).slice (7 + name.length.toUInt8).toNat (d.length + 1) with
        | some payload => .send dst payload
        | none => .panic := by
  intro d
  have hd : d = [0, 0, 0, fqdnAddress, name.length.toUInt8] ++ name ++ hi :: lo :: data := by
    simp [d, WireAddr.bytes]
  have hl : name.length.toUInt8.toNat = name.length := by
    rw [toNat_toUInt8, Nat.mod_eq_of_lt hn]
  have h5 : (5 + name.length.toUInt8).toNat = 5 + name.length :=
    (toNat_add_toUInt8 5 hn).trans (Nat.mod_eq_of_lt (show 5 + name.length < 256 by omega))
  have hval : validateDatagram (buf.read d) d.length = none :=
    (validateDatagram_read buf d).mpr ⟨rfl, rfl, rfl, .inr (.inl ⟨rfl, name.length.toUInt8,
      by simp [hd], by simp [hd, hl]; omega⟩)⟩
  have r3 : buf.read d 3 = fqdnAddress := rfl
  have r4 : buf.read d 4 = name.length.toUInt8 := rfl
  have rhi : buf.read d (5 + name.length) = hi :=
    Buffer.read_of_append buf ([0, 0, 0, fqdnAddress, name.length.toUInt8] ++ name) (lo :: data)
      (by simp [hd]) (by simp; omega)
  have hname : (buf.read d).slice 5 (5 + name.length) = some name := by
    rw [Buffer.slice_read_within buf d (by omega) (by simp [hd]; omega) (by unfold bufSize; omega)]
    simp [hd]
  rw [handleDatagram, hval]
  simp only [forwardDatagram, r3, r4, fqdnAddress, show (3 : UInt8) ≠ 1 by decide, if_true,
    if_false, h5, hname, rhi]

theorem handleDatagram_fqdn_short (r : List UInt8 → Int → Except Error UdpAddr) (buf : Buffer)
    (name : List UInt8) (hn : name.length < 256) (hL : name.length ≤ 248) (hi lo : UInt8)
    (data : List UInt8) :
    let w := WireAddr.fqdn name hn hi lo
    handleDatagram r (buf.read ([0, 0, 0] ++ w.bytes ++ data)) (3 + w.bytes.length + data.length) =
      datagramOutcome r buf w data := by
  intro w
  set d := [0, 0, 0] ++ w.bytes ++ data with hd
  have hlen : 3 + w.bytes.length + data.length = d.length := by simp [d]; omega
  have rlo : buf.read d (6 + name.length) = lo :=
    Buffer.read_of_append buf ([0, 0, 0, fqdnAddress, name.length.toUInt8] ++ name ++ [hi]) data
      (by simp [d, w, WireAddr.bytes]) (by simp; omega)
  have hpay : (buf.read d).slice (7 + name.length) (d.length + 1) =
      if d.length < bufSize then some (data ++ [buf d.length]) else none :=
    Buffer.slice_read_payload buf ([0, 0, 0] ++ w.bytes) data (by simp [w, WireAddr.bytes]; omega)
      (by simp [d, w, WireAddr.bytes]; omega)
  simp only [datagramOutcome]
  rw [hlen, handleDatagram_fqdn r buf name hn (by omega) hi lo data, toNat_add_toUInt8 6 hn,
    toNat_add_toUInt8 7 hn]
  simp only [show (6 : UInt8).toNat = 6 from rfl, show (7 : UInt8).toNat = 7 from rfl,
    Nat.mod_eq_of_lt (show 6 + name.length < 256 by omega),
    Nat.mod_eq_of_lt (show 7 + name.length < 256 by omega), rlo, port_shiftLeft, hpay]
  cases r name (256 * hi.toNat + lo.toNat) with
  | error => rfl
  | ok dst => simp only; split_ifs <;> rfl

theorem handleDatagram_wire (r : List UInt8 → Int → Except Error UdpAddr) (buf : Buffer)
    (w : WireAddr) (hw : 3 + w.bytes.length < 256) (data : List UInt8) :
    handleDatagram r (buf.read ([0, 0, 0] ++ w.bytes ++ data)) (3 + w.bytes.length + data.length) =
      datagramOutcome r buf w data := by
  cases w with
  | ipv4 a ha hi lo => exact handleDatagram_ip r buf (.inl ⟨rfl, rfl⟩) (.ipv4 a ha hi lo) ha rfl data
  | ipv6 a ha hi lo => exact handleDatagram_ip r buf (.inr ⟨rfl, rfl⟩) (.ipv6 a ha hi lo) ha rfl data
  | fqdn name hn hi lo =>
    have : name.length ≤ 248 := by simp [WireAddr.bytes] at hw; omega
    exact handleDatagram_fqdn_short r buf name hn this hi lo data

/-! ### The loop over a run of reads -/

def Buffer.readAll (buf : Buffer) : List TunnelRead → Buffer
  | [] => buf
  | .datagram d :: reads => (buf.read d.bytes).readAll reads
  | .error _ :: reads => buf.readAll reads

def lastByteAt (i : Nat) : List TunnelRead → Option UInt8
  | [] => none
  | .datagram d :: reads => (lastByteAt i reads).or d.bytes[i]?
  | .error _ :: reads => lastByteAt i reads

theorem Buffer.readAll_apply (buf : Buffer) (reads : List TunnelRead) (i : Nat) :
    buf.readAll reads i = (lastByteAt i reads).getD (buf i) := by
  induction reads generalizing buf with
  | nil => rfl
  | cons t reads ih =>
    cases t with
    | error e => exact ih buf
    | datagram d =>
      rw [Buffer.readAll, ih, Buffer.read_apply, lastByteAt]
      cases lastByteAt i reads <;> rfl

theorem outboundLoop_append (r : List UInt8 → Int → Except Error UdpAddr) :
    ∀ (buf : Buffer) (rs : List TunnelRead), (outboundLoop r buf rs).2 = .reading →
      ∀ rs', outboundLoop r buf (rs ++ rs') =
        ((outboundLoop r buf rs).1 ++ (outboundLoop r (buf.readAll rs) rs').1,
          (outboundLoop r (buf.readAll rs) rs').2)
  | _, [], _, _ => rfl
  | _, .error _ :: _, h, _ => nomatch h
  | buf, .datagram d :: rs, h, rs' => by
    rw [outboundLoop_datagram] at h
    rw [List.cons_append, outboundLoop_datagram, outboundLoop_datagram, Buffer.readAll]
    cases hd : handleDatagram r (buf.read d.bytes) d.bytes.length <;> simp only [hd] at h ⊢
    · rw [outboundLoop_append r _ rs h rs']; rfl
    · exact outboundLoop_append r _ rs h rs'
    all_goals exact nomatch h

/-- After any reads, the next datagram goes as `datagramOutcome` says, with the stale byte. -/
theorem outboundLoop_next_datagram (r : List UInt8 → Int → Except Error UdpAddr)
    (rs : List TunnelRead) (hrs : (outboundLoop r Buffer.zero rs).2 = .reading) (w : WireAddr)
    (hw : 3 + w.bytes.length < 256) (data : List UInt8)
    (hd : ([0, 0, 0] ++ w.bytes ++ data).length ≤ bufSize) :
    outboundLoop r Buffer.zero (rs ++ [.datagram ⟨[0, 0, 0] ++ w.bytes ++ data, hd⟩]) =
      let sends := (outboundLoop r Buffer.zero rs).1
      match datagramOutcome r (fun i => (lastByteAt i rs).getD 0) w data with
      | .send dst payload => (sends ++ [(dst, payload)], .reading)
      | .skip => (sends, .reading)
      | .stop err => (sends, .stored err)
      | .panic => (sends, .panicked) := by
  have hlen : ([0, 0, 0] ++ w.bytes ++ data).length = 3 + w.bytes.length + data.length := by
    simp only [List.length_append, List.length_cons, List.length_nil]
  have hbuf : Buffer.zero.readAll rs = fun i => (lastByteAt i rs).getD 0 :=
    funext (Buffer.readAll_apply Buffer.zero rs)
  rw [outboundLoop_append r _ rs hrs, outboundLoop_datagram, hlen, handleDatagram_wire r _ w hw,
    hbuf]
  cases datagramOutcome r (fun i => (lastByteAt i rs).getD 0) w data <;> simp [outboundLoop]

theorem outboundLoop_next_datagram_after_longer :
    let r : List UInt8 → Int → Except Error UdpAddr := fun _ _ => .error .eof
    let rs := [TunnelRead.datagram ⟨[0, 0, 0, 1, 8, 8, 8, 8, 0, 53, 1, 2, 3], by decide⟩]
    let w := WireAddr.ipv4 [9, 9, 9, 9] rfl 0 53
    ∃ hd : ([0, 0, 0] ++ w.bytes ++ [42]).length ≤ bufSize,
      (outboundLoop r Buffer.zero rs).2 = .reading ∧
        outboundLoop r Buffer.zero (rs ++ [.datagram ⟨[0, 0, 0] ++ w.bytes ++ [42], hd⟩]) =
          ([(⟨[8, 8, 8, 8], 53⟩, [1, 2, 3, 0]), (⟨[9, 9, 9, 9], 53⟩, [42, 2])], .reading) := by
  intro r rs w
  have hrs : (outboundLoop r Buffer.zero rs).2 = .reading := by decide
  exact ⟨by decide, hrs,
    (outboundLoop_next_datagram r rs hrs w (by decide) [42] (by decide)).trans (by decide)⟩

/-- Names of 249 bytes or more: the byte offsets after the name wrap, and 251 or more panic. -/
theorem handleDatagram_fqdn_long (r : List UInt8 → Int → Except Error UdpAddr) (buf : Buffer)
    (name : List UInt8) (hn : name.length < 256) (hi lo : UInt8) (data : List UInt8) :
    let d := [0, 0, 0] ++ (WireAddr.fqdn name hn hi lo).bytes ++ data
    (name.length = 249 → handleDatagram r (buf.read d) d.length =
      match r name (256 * hi.toNat + lo.toNat) with
      | .ok dst => if d.length < bufSize then .send dst (d ++ [buf d.length]) else .panic
      | .error _ => .skip) ∧
    (name.length = 250 → handleDatagram r (buf.read d) d.length =
      match r name (256 * hi.toNat) with
      | .ok dst => if d.length < bufSize then .send dst (d.tail ++ [buf d.length]) else .panic
      | .error _ => .skip) ∧
    (251 ≤ name.length → handleDatagram r (buf.read d) d.length = .panic) := by
  intro d
  have hd : d = [0, 0, 0, fqdnAddress, name.length.toUInt8] ++ name ++ hi :: lo :: data := by
    simp [d, WireAddr.bytes]
  refine ⟨fun hL => ?_, fun hL => ?_, fun hL => ?_⟩
  case refine_1 =>
    rw [handleDatagram_fqdn r buf name hn (by omega) hi lo data, toNat_add_toUInt8 6 hn,
      toNat_add_toUInt8 7 hn, hL]
    have rlo : buf.read d 255 = lo :=
      Buffer.read_of_append buf ([0, 0, 0, fqdnAddress, name.length.toUInt8] ++ name ++ [hi]) data
        (by simp [hd]) (by simp [hL])
    have hpay := Buffer.slice_read_payload buf [] d (k := 0) rfl (Nat.zero_add _).symm
    rw [List.nil_append] at hpay
    simp only [show (6 : UInt8).toNat = 6 from rfl, show (7 : UInt8).toNat = 7 from rfl,
      Nat.reduceAdd, Nat.reduceMod, rlo, port_shiftLeft, hpay]
    cases r name (256 * hi.toNat + lo.toNat) with
    | error => rfl
    | ok dst => simp only; split_ifs <;> rfl
  case refine_2 =>
    rw [handleDatagram_fqdn r buf name hn (by omega) hi lo data, toNat_add_toUInt8 6 hn,
      toNat_add_toUInt8 7 hn, hL]
    have r0 : buf.read d 0 = 0 := rfl
    have hpay := Buffer.slice_read_payload buf [0] d.tail (k := 1) (n := d.length) rfl
      (by simp [hd]; omega)
    rw [show [0] ++ d.tail = d by simp [hd]] at hpay
    have port : ((hi.toNat <<< 8 + (0 : UInt8).toNat : Nat) : Int) = 256 * hi.toNat := by
      simp only [Nat.shiftLeft_eq]; push_cast; omega
    simp only [show (6 : UInt8).toNat = 6 from rfl, show (7 : UInt8).toNat = 7 from rfl,
      Nat.reduceAdd, Nat.reduceMod, r0, port, hpay]
    cases r name (256 * hi.toNat) with
    | error => rfl
    | ok dst => simp only; split_ifs <;> rfl
  case refine_3 =>
    have hl : name.length.toUInt8.toNat = name.length := by rw [toNat_toUInt8, Nat.mod_eq_of_lt hn]
    have hlen : d.length = (name ++ [hi, lo] ++ data).length + 5 := by simp [hd]
    rw [hlen]
    exact handleDatagram_fqdn_wrap r buf name.length.toUInt8 (by rw [hl]; exact hL) _
      (by simp [hl]; omega)

theorem handleDatagram_fqdn_long_at_249 :
    ∃ hn : (List.replicate 249 (97 : UInt8)).length < 256,
      let d := [0, 0, 0] ++ (WireAddr.fqdn _ hn 0 53).bytes ++ [42]
      handleDatagram (fun _ port => .ok ⟨[8, 8, 8, 8], port⟩) (Buffer.zero.read d) d.length =
        .send ⟨[8, 8, 8, 8], 53⟩ (d ++ [0]) := by
  have hn : (List.replicate 249 (97 : UInt8)).length < 256 := by rw [List.length_replicate]; decide
  refine ⟨hn, ?_⟩
  intro d
  have hlen : d.length < bufSize := by
    simp only [d, List.length_append, WireAddr.bytes, List.length_cons, List.length_replicate,
      List.length_nil]
    decide
  rw [(handleDatagram_fqdn_long _ _ _ hn 0 53 [42]).1 (List.length_replicate _ _)]
  exact (if_pos hlen).trans rfl

end Mieru.Socks5
