import Mieru.Socks5.Associate

/-! What the interleaving of the two pumps can and cannot change. The outbound pump never looks
at what the inbound pump shares with it but at its `Store`, which panics on a cell holding an
error of another type, and a crash stops it. Short of a panicked `Store`, it does under every
schedule what `outboundLoop` does alone on the reads it got. The inbound pump writes to the
tunnel what it reads from the socket, in order and once each, but for the datagram whose write
failed and the one it holds. -/

namespace Mieru.Socks5

/-! ### The outbound pump sees the inbound one only through a panicked `Store` -/

def Move.isOutbound : Move → Bool
  | .tunnelRead _ | .udpWrite | .outStore | .udpClose => true
  | _ => false

def outboundStore (stores : List (Pump × Error)) : Option Error :=
  (stores.find? (·.1 = .outbound)).map Prod.snd

def Pumps.outView (p : Pumps) : OutPc × Buffer × List (UdpAddr × List UInt8) × Option Error :=
  (p.out, p.buf, p.sent, outboundStore p.stores)

theorem outboundStore_append (stores : List (Pump × Error)) (q : Pump × Error) :
    outboundStore (stores ++ [q]) =
      (outboundStore stores).or (if q.1 = .outbound then some q.2 else none) := by
  simp only [outboundStore, List.find?_append]
  cases stores.find? (·.1 = .outbound) <;> by_cases h : q.1 = .outbound <;> simp [h]

theorem outboundStore_eq_none {stores : List (Pump × Error)} (h : storesBy .outbound stores = 0) :
    outboundStore stores = none := by
  rw [storesBy, List.length_eq_zero, List.filter_eq_nil_iff] at h
  simpa [outboundStore, List.find?_eq_none] using h

variable (r : List UInt8 → Int → Except Error UdpAddr)

theorem Pumps.outView_step_inbound (p : Pumps) {m : Move} (hm : m.isOutbound = false) :
    (p.step r m).outView = p.outView := by
  cases m <;> simp only [Move.isOutbound, reduceCtorEq] at hm <;> simp only [Pumps.step] <;>
    (repeat' split) <;> simp [Pumps.outView, outboundStore_append]

theorem Pumps.inb_step_outbound (p : Pumps) {m : Move} (hm : m.isOutbound = true) :
    (p.step r m).inb = p.inb ∧ (p.step r m).written = p.written := by
  cases m <;> simp only [Move.isOutbound, reduceCtorEq] at hm <;> simp only [Pumps.step] <;>
    (repeat' split) <;> exact ⟨rfl, rfl⟩

theorem Pumps.outView_step_outbound {p q : Pumps} (h : p.outView = q.outView)
    (hc : p.crashed = q.crashed) {m : Move} (hm : m.isOutbound = true)
    (hs : m = .outStore → ∀ e, p.out = .store e → storeOk p.udpErr e = storeOk q.udpErr e) :
    (p.step r m).outView = (q.step r m).outView := by
  simp only [Pumps.outView, Prod.mk.injEq] at h
  obtain ⟨ho, hb, hs', hst⟩ := h
  by_cases hcr : p.crashed
  · rw [Pumps.step_of_crashed hcr, Pumps.step_of_crashed (hc ▸ hcr)]
    simp [Pumps.outView, ho, hb, hs', hst]
  have hq : q.crashed = false := by simpa [← hc] using hcr
  simp only [Bool.not_eq_true] at hcr
  cases m <;> simp only [Move.isOutbound, reduceCtorEq] at hm <;>
    simp only [Pumps.step, hcr, hq, Bool.false_eq_true, if_false, ho, hb] <;> (repeat' split) <;>
    simp_all [Pumps.outView, outboundStore_append]

theorem Pumps.not_storePanicked_of_run {p : Pumps} {ms : List Move} {m : Move}
    (hout : ∀ e, ((p.step r m).run r ms).out ≠ .storePanicked e)
    (hin : ∀ e, ((p.step r m).run r ms).inb ≠ .storePanicked e) :
    (∀ e, (p.step r m).out ≠ .storePanicked e) ∧ ∀ e, (p.step r m).inb ≠ .storePanicked e := by
  constructor <;> intro e he
  · exact hout e (by rw [Pumps.run_of_crashed r ms (by simp [Pumps.crashed, OutPc.panics, he]), he])
  · exact hin e (by rw [Pumps.run_of_crashed r ms (by simp [Pumps.crashed, InPc.panics, he]), he])

def Pumps.Alone (q : Pumps) : Prop :=
  q.inb = .read ∧ (q.out.stored = false → q.udpErr = none)

theorem Pumps.Alone.step {q : Pumps} (h : q.Alone) {m : Move} (hm : m.isOutbound = true) :
    (q.step r m).Alone := by
  obtain ⟨hi, hu⟩ := h
  refine ⟨(Pumps.inb_step_outbound r q hm).1.trans hi, fun hst => ?_⟩
  cases m <;> simp only [Move.isOutbound, reduceCtorEq] at hm <;>
    simp only [Pumps.step] at hst ⊢ <;> (repeat' split at hst) <;> (repeat' split) <;>
    simp_all [OutPc.stored]

theorem Pumps.outView_run_filter : ∀ (ms : List Move) {p q : Pumps}, p.outView = q.outView →
    p.Inv → q.Alone → (∀ e, (p.run r ms).out ≠ .storePanicked e) →
    (∀ e, (p.run r ms).inb ≠ .storePanicked e) →
    (p.run r ms).outView = (q.run r (ms.filter Move.isOutbound)).outView
  | [], _, _, h, _, _, _, _ => h
  | m :: ms, p, q, h, hp, hq, hout, hin => by
    obtain ⟨hsout, hsin⟩ := Pumps.not_storePanicked_of_run r hout hin
    have hpin : p.inb.panics = false := by
      cases hpi : p.inb <;> simp_all [InPc.panics, Pumps.step_of_crashed, Pumps.crashed]
    cases hm : m.isOutbound
    · rw [List.filter_cons_of_neg (by simp [hm])]
      exact Pumps.outView_run_filter ms ((Pumps.outView_step_inbound r p hm).trans h) (hp.step r m)
        hq hout hin
    · rw [List.filter_cons_of_pos hm]
      have ho : p.out = q.out := congrArg Prod.fst h
      have hc : p.crashed = q.crashed := by
        simp only [Pumps.crashed, ho, hpin, hq.1]
        rfl
      refine Pumps.outView_run_filter ms (Pumps.outView_step_outbound r h hc hm fun hmo e he => ?_)
        (hp.step r m) (hq.step r hm) hout hin
      subst hmo
      have hnc : p.crashed = false := by simp [Pumps.crashed, he, OutPc.panics, hpin]
      rw [hq.2 (by simp [← ho, he, OutPc.stored])]
      cases hok : storeOk p.udpErr e
      · exact (hsout e (by simp [Pumps.step, hnc, he, hok])).elim
      · rfl

/-- With no panicked `Store`, the inbound pump's moves change nothing the outbound pump sees. -/
theorem Pumps.outView_run_init (ms : List Move)
    (hout : ∀ e, (Pumps.init.run r ms).out ≠ .storePanicked e)
    (hin : ∀ e, (Pumps.init.run r ms).inb ≠ .storePanicked e) :
    (Pumps.init.run r ms).outView = (Pumps.init.run r (ms.filter Move.isOutbound)).outView :=
  Pumps.outView_run_filter r ms rfl Pumps.inv_init ⟨rfl, fun _ => rfl⟩ hout hin

theorem Pumps.outView_run_init_interleaved :
    let r : List UInt8 → Int → Except Error UdpAddr := fun _ _ => .error .eof
    let ms := [Move.udpRead (.ok [7]),
      .tunnelRead (.datagram ⟨[0, 0, 0, 1, 8, 8, 8, 8, 0, 53, 42], by decide⟩), .tunnelWrite none,
      .udpWrite, .udpRead (.error .eof), .tunnelRead (.error .eof), .inLoad, .outStore]
    (∀ e, (Pumps.init.run r ms).out ≠ .storePanicked e) ∧
      (∀ e, (Pumps.init.run r ms).inb ≠ .storePanicked e) ∧
      (Pumps.init.run r ms).outView = (Pumps.init.run r (ms.filter Move.isOutbound)).outView := by
  intro r ms
  have ho : (Pumps.init.run r ms).out = .close := by decide
  have hi : (Pumps.init.run r ms).inb = .store .eof := by decide
  have hout : ∀ e, (Pumps.init.run r ms).out ≠ .storePanicked e := fun _ h => by simp [ho] at h
  have hin : ∀ e, (Pumps.init.run r ms).inb ≠ .storePanicked e := fun _ h => by simp [hi] at h
  exact ⟨hout, hin, Pumps.outView_run_init r ms hout hin⟩

/-! ### The outbound pump refines the outbound loop -/

def Pumps.readBy (p : Pumps) : Move → List TunnelRead
  | .tunnelRead t => if p.out = .read ∧ p.crashed = false then [t] else []
  | _ => []

def Pumps.tunnelReads : Pumps → List Move → List TunnelRead
  | _, [] => []
  | p, m :: ms => p.readBy m ++ Pumps.tunnelReads (p.step r m) ms

def Pumps.outbound (p : Pumps) (rs : List TunnelRead) : List (UdpAddr × List UInt8) × LoopEnd :=
  match p.out with
  | .read => (p.sent ++ (outboundLoop r p.buf rs).1, (outboundLoop r p.buf rs).2)
  | .send dst payload =>
    (p.sent ++ (dst, payload) :: (outboundLoop r p.buf rs).1, (outboundLoop r p.buf rs).2)
  | .store e => (p.sent, .stored e)
  | .close | .done => (p.sent, ((outboundStore p.stores).map .stored).getD .reading)
  | .panicked | .storePanicked _ => (p.sent, .panicked)

theorem Pumps.outbound_congr {p q : Pumps} (h : p.outView = q.outView) (rs : List TunnelRead) :
    p.outbound r rs = q.outbound r rs := by
  simp only [Pumps.outView, Prod.mk.injEq] at h
  obtain ⟨ho, hb, hs, hst⟩ := h
  simp only [Pumps.outbound, ho, hb, hs, hst]

theorem Pumps.outbound_step {p : Pumps} (h : p.Inv) (m : Move)
    (hsp : ∀ e, (p.step r m).out ≠ .storePanicked e) (rs : List TunnelRead) :
    (p.step r m).outbound r rs = p.outbound r (p.readBy m ++ rs) := by
  by_cases hcr : p.crashed
  · have hread : p.readBy m = [] := by cases m <;> simp_all [Pumps.readBy]
    rw [Pumps.step_of_crashed hcr, hread, List.nil_append]
  cases hm : m.isOutbound
  · have hread : p.readBy m = [] := by cases m <;> simp_all [Move.isOutbound, Pumps.readBy]
    rw [hread, List.nil_append]
    exact Pumps.outbound_congr r (Pumps.outView_step_inbound r p hm) rs
  obtain ⟨-, ho, -, -, -⟩ := h
  simp only [Bool.not_eq_true] at hcr
  rcases p with ⟨out, buf, inb, closed, udpErr, stores, sent, written⟩
  cases m <;> simp only [Move.isOutbound, reduceCtorEq] at hm
  · rename_i t
    cases out <;> simp only [Pumps.step, Pumps.readBy, Pumps.outbound, hcr] <;> try rfl
    cases t with
    | error e => simp [outboundLoop]
    | datagram d =>
      simp only [and_self, if_true, Bool.false_eq_true, if_false, List.singleton_append,
        outboundLoop_datagram]
      cases handleDatagram r (buf.read d.bytes) d.bytes.length <;> simp
  · cases out <;> simp [Pumps.step, Pumps.readBy, Pumps.outbound, hcr]
  · cases out <;> simp [Pumps.step, Pumps.readBy, Pumps.outbound, hcr]
    rename_i e
    have hok : storeOk udpErr e = true := by
      by_contra hok
      exact hsp e (by simp [Pumps.step, hcr, hok])
    simp_all [OutPc.stored, outboundStore_append, outboundStore_eq_none]
  · cases out <;> simp [Pumps.step, Pumps.readBy, Pumps.outbound, hcr]

theorem Pumps.outbound_run : ∀ (ms : List Move) {p : Pumps}, p.Inv →
    (∀ e, (p.run r ms).out ≠ .storePanicked e) → ∀ rs,
    (p.run r ms).outbound r rs = p.outbound r (p.tunnelReads r ms ++ rs)
  | [], _, _, _, _ => rfl
  | m :: ms, p, h, hout, rs => by
    rw [Pumps.tunnelReads, List.append_assoc, ← Pumps.outbound_step r h m ?_]
    · exact Pumps.outbound_run ms (h.step r m) hout rs
    · intro e he
      exact hout e (show ((p.step r m).run r ms).out = _ by
        rw [Pumps.run_of_crashed r ms (by simp [Pumps.crashed, OutPc.panics, he]), he])

/-- Short of a panicked `Store`, the outbound pump runs `outboundLoop` on the reads it got. -/
theorem outboundLoop_tunnelReads (ms : List Move)
    (hout : ∀ e, (Pumps.init.run r ms).out ≠ .storePanicked e) :
    outboundLoop r Buffer.zero (Pumps.init.tunnelReads r ms) = (Pumps.init.run r ms).outbound r [] := by
  rw [Pumps.outbound_run r ms Pumps.inv_init hout, List.append_nil]
  simp [Pumps.outbound, Pumps.init]

theorem outboundLoop_tunnelReads_after_send :
    let r : List UInt8 → Int → Except Error UdpAddr := fun _ _ => .error .eof
    let ms := [Move.udpRead (.ok [7]),
      .tunnelRead (.datagram ⟨[0, 0, 0, 1, 8, 8, 8, 8, 0, 53, 42], by decide⟩), .tunnelWrite none,
      .udpWrite, .tunnelRead (.error .eof)]
    (∀ e, (Pumps.init.run r ms).out ≠ .storePanicked e) ∧
      outboundLoop r Buffer.zero (Pumps.init.tunnelReads r ms) = (Pumps.init.run r ms).outbound r [] := by
  intro r ms
  have ho : (Pumps.init.run r ms).out = .store .eof := by decide
  have hout : ∀ e, (Pumps.init.run r ms).out ≠ .storePanicked e := fun _ h => by simp [ho] at h
  exact ⟨hout, outboundLoop_tunnelReads r ms hout⟩

/-! ### The inbound pump delivers in order -/

def InPc.held : InPc → List (List UInt8)
  | .write b => [b]
  | _ => []

def InPc.looping : InPc → Bool
  | .read | .write _ => true
  | _ => false

def Pumps.receivedBy (p : Pumps) : Move → List (List UInt8)
  | .udpRead (.ok b) => if p.inb = .read ∧ p.closed = false ∧ p.crashed = false then [b] else []
  | _ => []

def Pumps.droppedBy (p : Pumps) : Move → List (List UInt8)
  | .tunnelWrite (some _) => if p.crashed = false then p.inb.held else []
  | _ => []

def Pumps.udpReads : Pumps → List Move → List (List UInt8)
  | _, [] => []
  | p, m :: ms => p.receivedBy m ++ Pumps.udpReads (p.step r m) ms

def Pumps.dropped : Pumps → List Move → List (List UInt8)
  | _, [] => []
  | p, m :: ms => p.droppedBy m ++ Pumps.dropped (p.step r m) ms

def Pumps.Delivered (p : Pumps) (reads drops : List (List UInt8)) : Prop :=
  reads = p.written ++ drops ++ p.inb.held ∧ drops.length ≤ 1 ∧ (p.inb.looping = true → drops = [])

theorem Pumps.inbound_step_cases (p : Pumps) (hcr : p.crashed = false) (m : Move) :
    ((p.step r m).written = p.written ∧ (p.step r m).inb = p.inb ∧ p.receivedBy m = [] ∧
        p.droppedBy m = []) ∨
      (∃ b, p.inb = .read ∧ (p.step r m).inb = .write b ∧ (p.step r m).written = p.written ∧
        p.receivedBy m = [b] ∧ p.droppedBy m = []) ∨
      (∃ b, p.inb = .write b ∧ (p.step r m).inb = .read ∧
        (p.step r m).written = p.written ++ [b] ∧ p.receivedBy m = [] ∧ p.droppedBy m = []) ∨
      (∃ b, p.inb = .write b ∧ (p.step r m).inb.looping = false ∧ (p.step r m).inb.held = [] ∧
        (p.step r m).written = p.written ∧ p.receivedBy m = [] ∧ p.droppedBy m = [b]) ∨
      (p.inb.held = [] ∧ (p.step r m).inb.looping = false ∧ (p.step r m).inb.held = [] ∧
        (p.step r m).written = p.written ∧ p.receivedBy m = [] ∧ p.droppedBy m = []) := by
  cases hm : m.isOutbound
  swap
  · obtain ⟨hi, hw⟩ := Pumps.inb_step_outbound r p hm
    exact .inl ⟨hw, hi, by cases m <;> simp_all [Move.isOutbound, Pumps.receivedBy],
      by cases m <;> simp_all [Move.isOutbound, Pumps.droppedBy]⟩
  cases m <;> simp only [Move.isOutbound, reduceCtorEq] at hm
  · rename_i res
    cases hi : p.inb <;> cases res <;>
      simp [Pumps.step, Pumps.receivedBy, Pumps.droppedBy, hcr, hi, InPc.held, InPc.looping]
    split <;> simp [*]
  · rename_i res
    cases hi : p.inb <;> cases res <;>
      simp [Pumps.step, Pumps.receivedBy, Pumps.droppedBy, hcr, hi, InPc.held, InPc.looping]
  · cases hi : p.inb <;>
      simp [Pumps.step, Pumps.receivedBy, Pumps.droppedBy, hcr, hi, InPc.held, InPc.looping]
    split <;> simp
  · cases hi : p.inb <;>
      simp [Pumps.step, Pumps.receivedBy, Pumps.droppedBy, hcr, hi, InPc.held, InPc.looping]
    split <;> simp

theorem Pumps.Delivered.step {p : Pumps} {reads drops : List (List UInt8)}
    (h : p.Delivered reads drops) (m : Move) :
    (p.step r m).Delivered (reads ++ p.receivedBy m) (drops ++ p.droppedBy m) := by
  obtain ⟨rfl, hl, hloop⟩ := h
  by_cases hcr : p.crashed
  · have hr : p.receivedBy m = [] ∧ p.droppedBy m = [] := by
      cases m <;> simp_all [Pumps.receivedBy, Pumps.droppedBy] <;> split <;> simp_all
    rw [Pumps.step_of_crashed hcr, hr.1, hr.2, List.append_nil, List.append_nil]
    exact ⟨rfl, hl, hloop⟩
  rcases Pumps.inbound_step_cases r p (by simpa using hcr) m with
    ⟨hw, hi, hrec, hdrop⟩ | ⟨b, hi0, hi, hw, hrec, hdrop⟩ | ⟨b, hi0, hi, hw, hrec, hdrop⟩ |
    ⟨b, hi0, hloop', hheld, hw, hrec, hdrop⟩ | ⟨hheld0, hloop', hheld, hw, hrec, hdrop⟩ <;>
    rw [hrec, hdrop]
  · simp only [List.append_nil]
    exact ⟨by rw [hw, hi], hl, by rw [hi]; exact hloop⟩
  · obtain rfl := hloop (by simp [hi0, InPc.looping])
    exact ⟨by simp [hw, hi, hi0, InPc.held], by simp, fun _ => rfl⟩
  · obtain rfl := hloop (by simp [hi0, InPc.looping])
    exact ⟨by simp [hw, hi, hi0, InPc.held], by simp, fun _ => rfl⟩
  · obtain rfl := hloop (by simp [hi0, InPc.looping])
    exact ⟨by rw [hw, hheld, hi0]; simp [InPc.held], by simp, fun h => by simp [hloop'] at h⟩
  · exact ⟨by simp [hw, hheld, hheld0], by simpa using hl, fun h => by simp [hloop'] at h⟩

theorem Pumps.Delivered.run : ∀ (ms : List Move) {p : Pumps} {reads drops : List (List UInt8)},
    p.Delivered reads drops → (p.run r ms).Delivered (reads ++ p.udpReads r ms) (drops ++ p.dropped r ms)
  | [], _, _, _, h => by simpa [Pumps.udpReads, Pumps.dropped] using h
  | m :: ms, _, _, _, h => by
    rw [Pumps.udpReads, Pumps.dropped, ← List.append_assoc, ← List.append_assoc]
    exact Pumps.Delivered.run ms (h.step r m)

/-- The datagrams read are those written, then at most one dropped, then the one held. -/
theorem Pumps.udpReads_written (ms : List Move) :
    Pumps.init.udpReads r ms = (Pumps.init.run r ms).written ++ Pumps.init.dropped r ms ++
        (Pumps.init.run r ms).inb.held ∧
      (Pumps.init.dropped r ms).length ≤ 1 ∧
      ((Pumps.init.run r ms).inb.looping = true → Pumps.init.dropped r ms = []) :=
  Pumps.Delivered.run r ms (⟨rfl, by simp, fun _ => rfl⟩ : Pumps.init.Delivered [] [])

end Mieru.Socks5
