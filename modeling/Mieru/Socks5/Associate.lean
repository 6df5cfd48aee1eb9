import Mieru.Socks5.Outbound

/-! The relay phase of `handleAssociate`: its outbound and inbound pumps as two processes that
share the UDP socket and the error cell `udpErr`. Each atomic step of either pump is a `Move`
carrying what its I/O returned, so a list of moves is a schedule: an interleaving of the two
goroutines together with the outcome of every read and write. A move of a pump that is not at
that step, or a read that returns data from a closed socket, leaves the state as it is.

`Pumps.stores` records every `udpErr.Store` that went through, with the pump that made it;
`sent` and `written` are the datagrams sent to the network and written to the tunnel.
`udpErr` is an `atomic.Value`: its `Store` panics when the cell holds a value of another concrete
type. A panic in either goroutine crashes the program, and after it neither pump moves.
`Pumps.result` is `wg.Wait(); return udpErr.Load().(error)`, defined once both have returned. -/

namespace Mieru.Socks5

/-- At `conn.Read`, `WriteToUDP`, `udpErr.Store`, the deferred `Close`; returned; panicked. -/
inductive OutPc where
  | read
  | send (dst : UdpAddr) (payload : List UInt8)
  | store (err : Error)
  | close
  | done
  | panicked
  | storePanicked (err : Error)
deriving DecidableEq, Repr

/-- At `udpConn.Read`, `conn.Write(buf[:n])`, `udpErr.Load`, `udpErr.Store`; returned; panicked. -/
inductive InPc where
  | read
  | write (b : List UInt8)
  | load (err : Error)
  | store (err : Error)
  | done
  | storePanicked (err : Error)
deriving DecidableEq, Repr

inductive Pump where
  | outbound
  | inbound
deriving DecidableEq, Repr

structure Pumps where
  out : OutPc
  buf : Buffer
  inb : InPc
  closed : Bool
  udpErr : Option Error
  stores : List (Pump × Error)
  sent : List (UdpAddr × List UInt8)
  written : List (List UInt8)

def Pumps.init : Pumps :=
  { out := .read, buf := Buffer.zero, inb := .read, closed := false, udpErr := none, stores := [],
    sent := [], written := [] }

inductive Move where
  | tunnelRead (r : TunnelRead)
  | udpWrite
  | outStore
  | udpClose
  | udpRead (r : Except Error (List UInt8))
  | tunnelWrite (r : Option Error)
  | inLoad
  | inStore

def storeOk (udpErr : Option Error) (e : Error) : Bool :=
  udpErr.all fun held => held.goType == e.goType

def OutPc.panics : OutPc → Bool
  | .panicked | .storePanicked _ => true
  | _ => false

def InPc.panics : InPc → Bool
  | .storePanicked _ => true
  | _ => false

def Pumps.crashed (p : Pumps) : Bool := p.out.panics || p.inb.panics

def Pumps.step (resolveUDPAddr : List UInt8 → Int → Except Error UdpAddr) (p : Pumps) (m : Move) :
    Pumps :=
  if p.crashed then p
  else
    match m with
    | .tunnelRead r =>
      match p.out, r with
      | .read, .error e => { p with out := .store e }
      | .read, .datagram d =>
        let buf := p.buf.read d.bytes
        match handleDatagram resolveUDPAddr buf d.bytes.length with
        | .send dst payload => { p with buf := buf, out := .send dst payload }
        | .skip => { p with buf := buf }
        | .stop e => { p with buf := buf, out := .store e }
        | .panic => { p with buf := buf, out := .panicked }
      | _, _ => p
    | .udpWrite =>
      match p.out with
      | .send dst payload => { p with out := .read, sent := p.sent ++ [(dst, payload)] }
      | _ => p
    | .outStore =>
      match p.out with
      | .store e =>
        if storeOk p.udpErr e then
          { p with out := .close, udpErr := some e, stores := p.stores ++ [(.outbound, e)] }
        else { p with out := .storePanicked e }
      | _ => p
    | .udpClose =>
      match p.out with
      | .close => { p with out := .done, closed := true }
      | _ => p
    | .udpRead r =>
      match p.inb, r with
      | .read, .ok b => if p.closed then p else { p with inb := .write b }
      | .read, .error e => { p with inb := .load e }
      | _, _ => p
    | .tunnelWrite r =>
      match p.inb, r with
      | .write b, none => { p with inb := .read, written := p.written ++ [b] }
      | .write _, some e => { p with inb := .load e }
      | _, _ => p
    | .inLoad =>
      match p.inb with
      | .load e => { p with inb := if p.udpErr = none then .store e else .done }
      | _ => p
    | .inStore =>
      match p.inb with
      | .store e =>
        if storeOk p.udpErr e then
          { p with inb := .done, udpErr := some e, stores := p.stores ++ [(.inbound, e)] }
        else { p with inb := .storePanicked e }
      | _ => p

def Pumps.run (resolveUDPAddr : List UInt8 → Int → Except Error UdpAddr) (p : Pumps)
    (ms : List Move) : Pumps :=
  ms.foldl (Pumps.step resolveUDPAddr) p

def Pumps.result (p : Pumps) : Option (Option Error) :=
  if p.out = .done ∧ p.inb = .done then some p.udpErr else none

def OutPc.stored : OutPc → Bool
  | .close | .done => true
  | _ => false

theorem OutPc.ne_done_of_not_stored {o : OutPc} (h : o.stored = false) : o ≠ .done := by
  rintro rfl
  cases h

theorem Pumps.step_of_crashed {p : Pumps} (h : p.crashed = true)
    (r : List UInt8 → Int → Except Error UdpAddr) (m : Move) : p.step r m = p := by
  simp [Pumps.step, h]

theorem Pumps.run_of_crashed (r : List UInt8 → Int → Except Error UdpAddr) :
    ∀ (ms : List Move) {p : Pumps}, p.crashed = true → p.run r ms = p
  | [], _, _ => rfl
  | m :: ms, p, h => by
    rw [Pumps.run, List.foldl_cons, Pumps.step_of_crashed h]
    exact Pumps.run_of_crashed r ms h

/-- A step changes nothing, moves a pump short of its `Store`, stores, panics, or closes. -/
theorem Pumps.step_cases (p : Pumps) (r : List UInt8 → Int → Except Error UdpAddr) (m : Move) :
    p.step r m = p ∨ p.crashed = false ∧
      (((p.step r m).inb = p.inb ∧ (p.step r m).closed = p.closed ∧
          (p.step r m).udpErr = p.udpErr ∧ (p.step r m).stores = p.stores ∧
          p.out.stored = false ∧ (p.step r m).out.stored = false ∧
          ∀ e, (p.step r m).out ≠ .storePanicked e) ∨
        ((p.step r m).out = p.out ∧ (p.step r m).closed = p.closed ∧
          (p.step r m).udpErr = p.udpErr ∧ (p.step r m).stores = p.stores ∧ p.inb ≠ .done ∧
          ∀ e, (p.step r m).inb ≠ .storePanicked e) ∨
        (∃ e, p.out = .store e ∧ storeOk p.udpErr e = true ∧ p.step r m =
          { p with out := .close, udpErr := some e, stores := p.stores ++ [(.outbound, e)] }) ∨
        (∃ e, p.out = .store e ∧ storeOk p.udpErr e = false ∧
          p.step r m = { p with out := .storePanicked e }) ∨
        (p.out = .close ∧ p.step r m = { p with out := .done, closed := true }) ∨
        (∃ e, p.inb = .store e ∧ storeOk p.udpErr e = true ∧ p.step r m =
          { p with inb := .done, udpErr := some e, stores := p.stores ++ [(.inbound, e)] }) ∨
        (∃ e, p.inb = .store e ∧ storeOk p.udpErr e = false ∧
          p.step r m = { p with inb := .storePanicked e })) := by
  cases hc : p.crashed
  case true => exact .inl (Pumps.step_of_crashed hc r m)
  cases m <;> simp only [Pumps.step, hc, Bool.false_eq_true, if_false] <;> (repeat' split) <;>
  first
  | exact .inl rfl
  | exact .inr ⟨trivial, .inr (.inr (.inl ⟨_, ‹_›, ‹_›, rfl⟩))⟩
  | exact .inr ⟨trivial, .inr (.inr (.inr (.inl ⟨_, ‹_›, Bool.eq_false_iff.mpr ‹_›, rfl⟩)))⟩
  | exact .inr ⟨trivial, .inr (.inr (.inr (.inr (.inl ⟨‹_›, rfl⟩))))⟩
  | exact .inr ⟨trivial, .inr (.inr (.inr (.inr (.inr (.inl ⟨_, ‹_›, ‹_›, rfl⟩)))))⟩
  | exact .inr ⟨trivial, .inr (.inr (.inr (.inr (.inr (.inr ⟨_, ‹_›, Bool.eq_false_iff.mpr ‹_›, rfl⟩)))))⟩
  | exact .inr ⟨trivial, .inl ⟨rfl, rfl, rfl, rfl, by simp [*, OutPc.stored],
      by simp [*, OutPc.stored], by simp [*]⟩⟩
  | exact .inr ⟨trivial, .inr (.inl ⟨rfl, rfl, rfl, rfl, by simp [*], by simp [*]⟩)⟩

def storesBy (who : Pump) (stores : List (Pump × Error)) : Nat :=
  (stores.filter (·.1 = who)).length

@[simp] theorem storesBy_append (who : Pump) (l : List (Pump × Error)) (q : Pump × Error) :
    storesBy who (l ++ [q]) = storesBy who l + if q.1 = who then 1 else 0 := by
  by_cases h : q.1 = who <;> simp [storesBy, List.filter_append, h]

theorem length_eq_storesBy (l : List (Pump × Error)) :
    l.length = storesBy .outbound l + storesBy .inbound l := by
  induction l with
  | nil => rfl
  | cons q l ih => cases q with
    | mk who e => cases who <;> simp [storesBy, List.filter_cons] at ih ⊢ <;> omega

theorem stores_eq_single {l : List (Pump × Error)} {held : Error} {who other : Pump}
    (hne : who ≠ other) (hcell : some held = (l.getLast?).map Prod.snd)
    (hwho : storesBy who l ≤ 1) (hother : storesBy other l = 0) : l = [(who, held)] := by
  have hlen : l.length ≤ 1 := by
    cases who <;> cases other <;> simp only [ne_eq, not_true_eq_false] at hne <;>
      rw [length_eq_storesBy] <;> omega
  match l, hlen with
  | [], _ => simp at hcell
  | [(w, e)], _ =>
    simp only [List.getLast?_singleton, Option.map_some', Option.some.injEq] at hcell
    subst hcell
    by_cases hw : w = who
    · rw [hw]
    · have : w = other := by cases w <;> cases who <;> cases other <;> simp_all
      simp [storesBy, this, hne.symm] at hother

/-- The cell holds the last store, each pump stores at most once, and panics are races. -/
structure Pumps.Inv (p : Pumps) : Prop where
  cell : p.udpErr = (p.stores.getLast?).map Prod.snd
  outbound : storesBy .outbound p.stores = if p.out.stored then 1 else 0
  inbound : storesBy .inbound p.stores ≤ if p.inb = .done then 1 else 0
  outRace : ∀ e, p.out = .storePanicked e →
    ∃ held, p.stores = [(.inbound, held)] ∧ held.goType ≠ e.goType
  inRace : ∀ e, p.inb = .storePanicked e →
    ∃ held, p.stores = [(.outbound, held)] ∧ held.goType ≠ e.goType

theorem Pumps.inv_init : Pumps.init.Inv :=
  ⟨rfl, rfl, by simp [storesBy, Pumps.init], fun _ h => (nomatch h), fun _ h => (nomatch h)⟩

theorem held_of_not_storeOk {cell : Option Error} {e : Error} (h : storeOk cell e = false) :
    ∃ held, cell = some held ∧ held.goType ≠ e.goType := by
  cases cell with
  | none => cases h
  | some held => exact ⟨held, rfl, by simpa [storeOk] using h⟩

theorem Pumps.Inv.step {p : Pumps} (h : p.Inv) (r : List UInt8 → Int → Except Error UdpAddr)
    (m : Move) : (p.step r m).Inv := by
  obtain ⟨hc, ho, hi, hor, hir⟩ := h
  rcases Pumps.step_cases p r m with h | ⟨hcr, hmove⟩
  · rw [h]; exact ⟨hc, ho, hi, hor, hir⟩
  have hnp : ∀ e, p.inb ≠ .storePanicked e ∧ p.out ≠ .storePanicked e := fun e => by
    constructor <;> rintro hp <;> simp [Pumps.crashed, OutPc.panics, InPc.panics, hp] at hcr
  rcases hmove with ⟨hin, -, hu, hs, ho1, ho2, hop⟩ | ⟨hout, -, hu, hs, hin, hip⟩ |
    ⟨e, he, -, h⟩ | ⟨e, he, hok, h⟩ | ⟨he, h⟩ | ⟨e, he, -, h⟩ | ⟨e, he, hok, h⟩
  · refine ⟨hu ▸ hs ▸ hc, ?_, hin ▸ hs ▸ hi, fun e h => (hop e h).elim, hin ▸ hs ▸ hir⟩
    simpa [hs, ho1, ho2] using ho
  · refine ⟨hu ▸ hs ▸ hc, hout ▸ hs ▸ ho, ?_, hout ▸ hs ▸ hor, fun e h => (hip e h).elim⟩
    simp only [hin, if_false] at hi
    rw [hs]
    omega
  · rw [h]
    exact ⟨by simp, by simpa [he, OutPc.stored] using ho, by simpa using hi, fun _ h => (nomatch h),
      fun e' h' => ((hnp e').1 h').elim⟩
  · rw [h]
    obtain ⟨held, hheld, hty⟩ := held_of_not_storeOk hok
    have hout : storesBy .outbound p.stores = 0 := by simpa [he, OutPc.stored] using ho
    refine ⟨hc, by simpa [he, OutPc.stored] using ho, hi, fun e' h' => ?_,
      fun e' h' => ((hnp e').1 h').elim⟩
    cases h'
    refine ⟨held, stores_eq_single (by decide) (hheld ▸ hc) (show storesBy _ p.stores ≤ 1 by
      split at hi <;> omega) hout, hty⟩
  · rw [h]
    exact ⟨hc, by simpa [he, OutPc.stored] using ho, hi, fun _ h => (nomatch h), hir⟩
  · rw [h]
    refine ⟨by simp, by simpa using ho, ?_, fun e' h' => ((hnp e').2 h').elim, fun _ h => (nomatch h)⟩
    simp only [he, reduceCtorEq, if_false, storesBy_append] at hi ⊢
    omega
  · rw [h]
    obtain ⟨held, hheld, hty⟩ := held_of_not_storeOk hok
    have hin : storesBy .inbound p.stores = 0 := by simpa [he] using hi
    refine ⟨hc, ho, by simpa [he] using hi, fun e' h' => ((hnp e').2 h').elim, fun e' h' => ?_⟩
    cases h'
    refine ⟨held, stores_eq_single (by decide) (hheld ▸ hc) (show storesBy _ p.stores ≤ 1 by
      split at ho <;> omega) hin, hty⟩

theorem Pumps.run_preserves (P : Pumps → Prop) (r : List UInt8 → Int → Except Error UdpAddr)
    (h : ∀ p m, P p → P (p.step r m)) : ∀ (ms : List Move) {p : Pumps}, P p → P (p.run r ms)
  | [], _, hp => hp
  | m :: ms, _, hp => Pumps.run_preserves P r h ms (h _ m hp)

theorem Pumps.inv_run (r : List UInt8 → Int → Except Error UdpAddr) (ms : List Move) :
    ∀ {p : Pumps}, p.Inv → (p.run r ms).Inv :=
  Pumps.run_preserves _ r (fun _ m h => h.step r m) ms

theorem Pumps.closed_iff_step {p : Pumps} (h : p.closed = true ↔ p.out = .done)
    (r : List UInt8 → Int → Except Error UdpAddr) (m : Move) :
    (p.step r m).closed = true ↔ (p.step r m).out = .done := by
  rcases Pumps.step_cases p r m with hq | ⟨-, ⟨-, hcl, -, -, ho1, ho2, -⟩ | ⟨hout, hcl, -⟩ |
    ⟨e, he, -, hq⟩ | ⟨e, he, -, hq⟩ | ⟨he, hq⟩ | ⟨e, he, -, hq⟩ | ⟨e, he, -, hq⟩⟩
  · rwa [hq]
  · rw [hcl, h]
    exact iff_of_false (OutPc.ne_done_of_not_stored ho1) (OutPc.ne_done_of_not_stored ho2)
  · rwa [hcl, hout]
  · rw [hq]; simpa [he] using h
  · rw [hq]; simpa [he] using h
  · rw [hq]; simp
  · rw [hq]; exact h
  · rw [hq]; exact h

theorem Pumps.closed_iff_run (r : List UInt8 → Int → Except Error UdpAddr) (ms : List Move) :
    (Pumps.init.run r ms).closed = true ↔ (Pumps.init.run r ms).out = .done :=
  Pumps.run_preserves (fun p => p.closed = true ↔ p.out = .done) r
    (fun _ m h => Pumps.closed_iff_step h r m) ms (by simp [Pumps.init])

theorem Pumps.closed_of_result (r : List UInt8 → Int → Except Error UdpAddr) (ms : List Move)
    {x : Option Error} (h : (Pumps.init.run r ms).result = some x) :
    (Pumps.init.run r ms).closed = true := by
  simp only [Pumps.result, Option.ite_none_right_eq_some] at h
  exact (Pumps.closed_iff_run r ms).mpr h.1.1

theorem Pumps.stores_length_le (r : List UInt8 → Int → Except Error UdpAddr) (ms : List Move) :
    (Pumps.init.run r ms).stores.length ≤ 2 := by
  obtain ⟨-, ho, hi, -⟩ := Pumps.inv_run r ms Pumps.inv_init
  rw [length_eq_storesBy]
  split at ho <;> split at hi <;> omega

theorem Pumps.result_of_finished (r : List UInt8 → Int → Except Error UdpAddr) (ms : List Move)
    {x : Option Error} (h : (Pumps.init.run r ms).result = some x) :
    ∃ e, x = some e ∧ ((Pumps.init.run r ms).stores.getLast?).map Prod.snd = some e := by
  obtain ⟨hc, ho, -⟩ := Pumps.inv_run r ms Pumps.inv_init
  simp only [Pumps.result] at h
  split at h
  · rename_i hd
    cases h
    rw [hd.1] at ho
    have hne : (Pumps.init.run r ms).stores ≠ [] := by
      intro hnil; simp [hnil, storesBy, OutPc.stored] at ho
    obtain ⟨q, hq⟩ := Option.ne_none_iff_exists'.mp (mt List.getLast?_eq_none_iff.mp hne)
    exact ⟨q.2, by simp [hc, hq], by simp [hq]⟩
  · cases h

theorem Pumps.result_of_finished_after_two_stores :
    let r : List UInt8 → Int → Except Error UdpAddr := fun _ _ => .error .eof
    let ms := [Move.udpRead (.ok [1]), .tunnelWrite (some .eof), .inLoad, .inStore,
      .tunnelRead (.error .unexpectedEOF), .outStore, .udpClose]
    (Pumps.init.run r ms).result = some (some .unexpectedEOF) ∧
      ∃ e, some Error.unexpectedEOF = some e ∧
        ((Pumps.init.run r ms).stores.getLast?).map Prod.snd = some e := by
  intro r ms
  have h : (Pumps.init.run r ms).result = some (some .unexpectedEOF) := by decide
  exact ⟨h, Pumps.result_of_finished r ms h⟩

/-- A `Store` panics only after the other pump alone stored an error of another type. -/
theorem Pumps.store_panics_race (r : List UInt8 → Int → Except Error UdpAddr) (ms : List Move) :
    (∀ e, (Pumps.init.run r ms).out = .storePanicked e →
      ∃ held, (Pumps.init.run r ms).stores = [(.inbound, held)] ∧ held.goType ≠ e.goType) ∧
    ∀ e, (Pumps.init.run r ms).inb = .storePanicked e →
      ∃ held, (Pumps.init.run r ms).stores = [(.outbound, held)] ∧ held.goType ≠ e.goType :=
  have h := Pumps.inv_run r ms Pumps.inv_init
  ⟨h.outRace, h.inRace⟩

theorem Pumps.second_store_wins (r : List UInt8 → Int → Except Error UdpAddr) (b : List UInt8)
    (ew er : Error) :
    let p := Pumps.init.run r [.udpRead (.ok b), .tunnelWrite (some ew), .inLoad, .inStore,
      .tunnelRead (.error er), .outStore, .udpClose]
    if ew.goType = er.goType then
      p.stores = [(.inbound, ew), (.outbound, er)] ∧ p.result = some (some er)
    else p.stores = [(.inbound, ew)] ∧ p.out = .storePanicked er := by
  intro p
  split <;> rename_i h <;>
    simp [p, Pumps.run, Pumps.step, Pumps.crashed, OutPc.panics, InPc.panics, storeOk, h,
      Pumps.result, Pumps.init]

end Mieru.Socks5
