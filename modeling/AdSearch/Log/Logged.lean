import AdSearch.Log.Line

/-!
# Computations that log

A logged computation has the lines that it wrote, in order, and its result.  One that fails keeps
the lines it wrote before.
-/

namespace AdSearch.Log

/-- The lines of a computation and its result. -/
structure Logged (ε α : Type) where
  lines : List Line
  result : Except ε α

namespace Logged

variable {ε ε' α β : Type}

def ofExcept (result : Except ε α) : Logged ε α := ⟨[], result⟩

def raise (e : ε) : Logged ε α := ⟨[], .error e⟩

def writeAll (lines : List Line) : Logged ε Unit := ⟨lines, .ok ()⟩

/-- One line. -/
def write (line : Line) : Logged ε Unit := writeAll [line]

/-- Continues with the value of a computation, if it has one. -/
def bind (x : Logged ε α) (f : α → Logged ε β) : Logged ε β :=
  match x.result with
  | .error e => ⟨x.lines, .error e⟩
  | .ok a => ⟨x.lines ++ (f a).lines, (f a).result⟩

instance : Monad (Logged ε) where
  pure a := ⟨[], .ok a⟩
  bind := bind

def mapError (f : ε → ε') (x : Logged ε α) : Logged ε' α := ⟨x.lines, x.result.mapError f⟩

/-- Continues with an error, if there is one. -/
def recover (x : Logged ε α) (f : ε → Logged ε' α) : Logged ε' α :=
  match x.result with
  | .error e => ⟨x.lines ++ (f e).lines, (f e).result⟩
  | .ok a => ⟨x.lines, .ok a⟩

@[simp] theorem result_ofExcept (result : Except ε α) : (ofExcept result).result = result := rfl

theorem bind_of_ok {x : Logged ε α} {a : α} (h : x.result = .ok a) (f : α → Logged ε β) :
    x.bind f = ⟨x.lines ++ (f a).lines, (f a).result⟩ := by
  simp [bind, h]

theorem bind_of_error {x : Logged ε α} {e : ε} (h : x.result = .error e) (f : α → Logged ε β) :
    x.bind f = ⟨x.lines, .error e⟩ := by
  simp [bind, h]

theorem recover_of_ok {x : Logged ε α} {a : α} (h : x.result = .ok a) (f : ε → Logged ε' α) :
    x.recover f = ⟨x.lines, .ok a⟩ := by
  simp [recover, h]

theorem recover_of_error {x : Logged ε α} {e : ε} (h : x.result = .error e)
    (f : ε → Logged ε' α) : x.recover f = ⟨x.lines ++ (f e).lines, (f e).result⟩ := by
  simp [recover, h]

end Logged

end AdSearch.Log
