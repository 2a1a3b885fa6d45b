import PartDefs.Notice

/-!
# Traced computations

A computation that may fail and gives notices on its way.  Its notices are kept in order whether it
fails or not.
-/

namespace PartDefs

/-- The notices given, in order, and what came of the computation. -/
structure Traced (ε α : Type) where
  notices : List Notice
  result : Except ε α

namespace Traced

variable {ε α β : Type}

/-- Succeeds without notice. -/
def ok (value : α) : Traced ε α :=
  ⟨[], .ok value⟩

/-- Fails without notice. -/
def fail (fault : ε) : Traced ε α :=
  ⟨[], .error fault⟩

/-- Gives one notice. -/
def tell (notice : Notice) : Traced ε Unit :=
  ⟨[notice], .ok ()⟩

/-- Succeeds or fails as given, without notice. -/
def ofExcept (result : Except ε α) : Traced ε α :=
  ⟨[], result⟩

/-- Changes the fault. -/
def mapError {ε' : Type} (f : ε → ε') (traced : Traced ε α) : Traced ε' α :=
  ⟨traced.notices, traced.result.mapError f⟩

/-- Goes on with the value of a computation unless it failed. -/
def bind (first : Traced ε α) (next : α → Traced ε β) : Traced ε β :=
  match first.result with
  | .error fault => ⟨first.notices, .error fault⟩
  | .ok value => ⟨first.notices ++ (next value).notices, (next value).result⟩

instance : Monad (Traced ε) where
  pure := ok
  bind := bind

@[simp]
theorem pure_eq_ok (value : α) : (pure value : Traced ε α) = ok value :=
  rfl

@[simp]
theorem bind_eq (first : Traced ε α) (next : α → Traced ε β) : first >>= next = first.bind next :=
  rfl

@[simp]
theorem bind_ok (value : α) (next : α → Traced ε β) : (ok value).bind next = next value := by
  simp [bind, ok]

@[simp]
theorem bind_fail (fault : ε) (next : α → Traced ε β) : (fail fault).bind next = fail fault := by
  simp [bind, fail]

theorem notices_bind_of_ok {first : Traced ε α} {value : α} (next : α → Traced ε β)
    (success : first.result = .ok value) :
    (first.bind next).notices = first.notices ++ (next value).notices := by
  simp [bind, success]

theorem notices_bind_of_error {first : Traced ε α} {fault : ε} (next : α → Traced ε β)
    (failed : first.result = .error fault) : (first.bind next).notices = first.notices := by
  simp [bind, failed]

theorem result_bind (first : Traced ε α) (next : α → Traced ε β) :
    (first.bind next).result = first.result.bind fun value => (next value).result := by
  cases h : first.result <;> simp [bind, Except.bind, h]

end Traced

end PartDefs
