import Mathlib.Data.List.Basic

/-! Go's `net.IP` as the SOCKS5 package uses it: a byte slice, 4 or 16 bytes when valid, with
Go's IPv4-mapped 16-byte form (`v4InV6Prefix`); `To4`, `To16`, `Equal`, `IsLoopback` and
`IsUnspecified`; and the text a dial string is built from: `IP.String`, `strconv.Itoa` and
`net.JoinHostPort`, which brackets a host holding a colon. -/

namespace Mieru.Net

abbrev IP := List UInt8

def v4InV6Prefix : IP := [0, 0, 0, 0, 0, 0, 0, 0, 0, 0, 0xff, 0xff]

def ipv4 (a b c d : UInt8) : IP := v4InV6Prefix ++ [a, b, c, d]

def ipv4Zero : IP := ipv4 0 0 0 0

def ipv6Unspecified : IP := List.replicate 16 0

def ipv6Loopback : IP := List.replicate 15 0 ++ [1]

def isZeros (p : IP) : Bool := p.all (· == 0)

def IP.to4 (ip : IP) : Option IP :=
  if ip.length = 4 then some ip
  else if ip.length = 16 && isZeros (ip.take 10) && ip[10]? == some 0xff && ip[11]? == some 0xff
  then some (ip.drop 12)
  else none

def IP.to16 (ip : IP) : Option IP :=
  if ip.length = 4 then some (v4InV6Prefix ++ ip)
  else if ip.length = 16 then some ip
  else none

def IP.equal (ip x : IP) : Bool :=
  if ip.length = x.length then ip == x
  else if ip.length = 4 && x.length = 16 then x.take 12 == v4InV6Prefix && ip == x.drop 12
  else if ip.length = 16 && x.length = 4 then ip.take 12 == v4InV6Prefix && ip.drop 12 == x
  else false

def IP.isLoopback (ip : IP) : Bool :=
  match ip.to4 with
  | some ip4 => ip4[0]? == some 127
  | none => ip.equal ipv6Loopback

def IP.isUnspecified (ip : IP) : Bool :=
  ip.equal ipv4Zero || ip.equal ipv6Unspecified

/-! ### Text forms -/

def ascii (s : String) : List UInt8 := s.toList.map fun c => c.toNat.toUInt8

def digits (base n : Nat) : List UInt8 := (Nat.toDigits base n).map fun c => c.toNat.toUInt8

def itoa (n : Int) : List UInt8 :=
  if n < 0 then ascii "-" ++ digits 10 n.natAbs else digits 10 n.natAbs

def groups : IP → List Nat
  | a :: b :: rest => (256 * a.toNat + b.toNat) :: groups rest
  | _ => []

/-- The zero groups `appendTo6` writes as `::`: the first longest run of at least two. -/
def zeroRun (gs : List Nat) : Option (Nat × Nat) :=
  (List.range gs.length).foldl (fun best i =>
    let l := ((gs.drop i).takeWhile (· == 0)).length
    if 2 ≤ l ∧ (best.map fun r => r.2 - r.1).getD 0 < l then some (i, i + l) else best) none

def hexGroups (gs : List Nat) : List UInt8 := (ascii ":").intercalate (gs.map (digits 16))

def string6 (ip : IP) : List UInt8 :=
  match zeroRun (groups ip) with
  | some (s, e) => hexGroups ((groups ip).take s) ++ ascii "::" ++ hexGroups ((groups ip).drop e)
  | none => hexGroups (groups ip)

/-- `IP.String`: `<nil>`, `?` and hex for a bad length, dotted decimal for IPv4, else IPv6. -/
def IP.string (ip : IP) : List UInt8 :=
  if ip.length = 0 then ascii "<nil>"
  else if ip.length ≠ 4 ∧ ip.length ≠ 16 then
    ascii "?" ++ ip.flatMap fun b => digits 16 (b.toNat / 16) ++ digits 16 (b.toNat % 16)
  else
    match ip.to4 with
    | some p4 => (ascii ".").intercalate (p4.map fun b => digits 10 b.toNat)
    | none => string6 ip

def joinHostPort (host port : List UInt8) : List UInt8 :=
  if ascii ":" ⊆ host then ascii "[" ++ host ++ ascii "]:" ++ port else host ++ ascii ":" ++ port

example : IP.string [127, 0, 0, 1] = ascii "127.0.0.1" := by decide
example : IP.string (ipv4 10 0 0 1) = ascii "10.0.0.1" := by decide
example : IP.string ipv6Loopback = ascii "::1" := by decide
example : IP.string [32, 1, 13, 184, 0, 0, 0, 0, 0, 1, 0, 0, 0, 0, 0, 1] = ascii "2001:db8::1:0:0:1" := by
  decide

theorem IP.equal_refl (ip : IP) : ip.equal ip = true := by
  simp [IP.equal]

theorem IP.to4_length {ip ip4 : IP} (h : ip.to4 = some ip4) : ip4.length = 4 := by
  unfold IP.to4 at h
  split at h
  · cases h; assumption
  · split at h
    · cases h
      simp_all
    · cases h

theorem IP.equal_to4 {ip ip4 : IP} (h : ip.to4 = some ip4) : ip4.equal ip = true := by
  unfold IP.to4 at h
  split at h
  · cases h; exact IP.equal_refl ip
  · split at h
    · cases h
      rename_i hl hm
      simp only [Bool.and_eq_true, decide_eq_true_eq, beq_iff_eq] at hm
      obtain ⟨⟨⟨h16, hz⟩, h10⟩, h11⟩ := hm
      have hpre : ip.take 12 = v4InV6Prefix := by
        match ip, h16 with
        | [a0, a1, a2, a3, a4, a5, a6, a7, a8, a9, a10, a11, a12, a13, a14, a15], _ =>
          simp_all [isZeros, v4InV6Prefix]
      simp [IP.equal, h16, hpre]
    · cases h

theorem IP.to16_length {ip ip16 : IP} (h : ip.to16 = some ip16) : ip16.length = 16 := by
  unfold IP.to16 at h
  split at h
  · cases h; simp [v4InV6Prefix, *]
  · split at h
    · cases h; assumption
    · cases h

end Mieru.Net
