import Mieru.Socks5.Types

/-! Reading a byte stream the way the package does, with `io.ReadFull`. A stream is the list
of bytes not yet read, followed by EOF. A reader keeps the stream on error too, so how much a
failed parse consumed can be stated. The lemmas on `EStateM` hold for any state, the forwarder's
two connections included. -/

namespace Mieru.Socks5

abbrev Reader := EStateM Error (List UInt8)

/-- `io.ReadFull` of `n` bytes: `io.ErrUnexpectedEOF` if the stream ends early, having read it. -/
def readFull (n : Nat) : Reader (List UInt8) := fun s =>
  if n ≤ s.length then .ok (s.take n) (s.drop n)
  else .error (if s = [] then .eof else .unexpectedEOF) []

section
variable {σ α β : Type} {x : EStateM Error σ α} {f : α → EStateM Error σ β} {s s' : σ}

theorem bind_apply (x : EStateM Error σ α) (f : α → EStateM Error σ β) (s : σ) :
    (x >>= f) s = match x s with
      | .ok a s' => f a s'
      | .error e s' => .error e s' := by
  show EStateM.bind x f s = _
  unfold EStateM.bind
  cases x s <;> rfl

theorem map_apply (g : α → β) (x : EStateM Error σ α) (s : σ) :
    (g <$> x) s = match x s with
      | .ok a s' => .ok (g a) s'
      | .error e s' => .error e s' := by
  show EStateM.map g x s = _
  unfold EStateM.map
  cases x s <;> rfl

theorem bind_eq_ok {b : β} :
    (x >>= f) s = .ok b s' ↔ ∃ a t, x s = .ok a t ∧ f a t = .ok b s' := by
  rw [bind_apply]
  cases x s <;> simp [and_assoc]

@[simp] theorem pure_apply (a : α) : (pure a : EStateM Error σ α) s = .ok a s := rfl

@[simp] theorem throw_apply (e : Error) : (throw e : EStateM Error σ α) s = .error e s := rfl

theorem adaptExcept_apply (g : Error → Error) (x : EStateM Error σ α) (s : σ) :
    x.adaptExcept g s = match x s with
      | .ok a s' => .ok a s'
      | .error e s' => .error (g e) s' := by
  unfold EStateM.adaptExcept
  cases x s <;> rfl

theorem adaptExcept_eq_ok {g : Error → Error} {a : α} :
    x.adaptExcept g s = .ok a s' ↔ x s = .ok a s' := by
  rw [adaptExcept_apply]
  cases x s <;> simp

end

theorem readFull_append {n : Nat} {xs : List UInt8} (h : xs.length = n) (rest : List UInt8) :
    readFull n (xs ++ rest) = .ok xs rest := by
  subst h
  simp [readFull]

@[simp] theorem readFull_one (x : UInt8) (rest : List UInt8) : readFull 1 (x :: rest) = .ok [x] rest :=
  @readFull_append 1 [x] rfl rest

@[simp] theorem readFull_two (x y : UInt8) (rest : List UInt8) :
    readFull 2 (x :: y :: rest) = .ok [x, y] rest :=
  @readFull_append 2 [x, y] rfl rest

theorem readFull_eq_ok {n : Nat} {s xs s' : List UInt8} :
    readFull n s = .ok xs s' ↔ xs.length = n ∧ s = xs ++ s' := by
  constructor
  · intro h
    unfold readFull at h
    split at h
    · cases h
      simp_all
    · cases h
  · rintro ⟨rfl, rfl⟩
    exact readFull_append rfl s'

end Mieru.Socks5
