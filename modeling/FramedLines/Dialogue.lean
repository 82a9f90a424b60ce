import FramedLines.Bytes
import FramedLines.Options

-- What a program says to a line: requests for octets and offers of octets, each answered
-- before the next one is made. The line may be anything that answers.

namespace FramedLines

inductive Dialogue (α : Type) where
  | done (result : α)
  -- asks for at most `room` octets; an empty answer is the end of the stream
  | read (room : Nat) (next : Except Fault Bytes → Dialogue α)
  -- offers `data`
  | write (data : Bytes) (next : Except Fault WriteOutcome → Dialogue α)

namespace Dialogue

def bind : Dialogue α → (α → Dialogue β) → Dialogue β
  | done result, f => f result
  | read room next, f => read room fun answer => (next answer).bind f
  | write data next, f => write data fun answer => (next answer).bind f

instance : Monad Dialogue where
  pure := done
  bind := bind

@[simp] theorem pure_eq_done (result : α) : (pure result : Dialogue α) = done result := rfl

@[simp] theorem done_bind (result : α) (f : α → Dialogue β) : (done result).bind f = f result := rfl

@[simp] theorem read_bind (room : Nat) (next : Except Fault Bytes → Dialogue α)
    (f : α → Dialogue β) :
    (read room next).bind f = read room fun answer => (next answer).bind f := rfl

@[simp] theorem write_bind (data : Bytes) (next : Except Fault WriteOutcome → Dialogue α)
    (f : α → Dialogue β) :
    (write data next).bind f = write data fun answer => (next answer).bind f := rfl

theorem bind_assoc (d : Dialogue α) (f : α → Dialogue β) (g : β → Dialogue γ) :
    (d.bind f).bind g = d.bind fun result => (f result).bind g := by
  induction d with
  | done result => rfl
  | read room next ih => simp only [read_bind, ih]
  | write data next ih => simp only [write_bind, ih]

end Dialogue

-- How a line answers in each of its states. No answer means that it waits for ever.
structure ByteLine (σ : Type) where
  read : Nat → σ → Option (Except Fault Bytes) × σ
  write : Bytes → σ → Option (Except Fault WriteOutcome) × σ

namespace Dialogue

-- Holds the dialogue with a line, from one of its states.
def run (line : ByteLine σ) : Dialogue α → σ → Option α × σ
  | done result, state => (some result, state)
  | read room next, state =>
      match line.read room state with
      | (none, state) => (none, state)
      | (some answer, state) => (next answer).run line state
  | write data next, state =>
      match line.write data state with
      | (none, state) => (none, state)
      | (some answer, state) => (next answer).run line state

end Dialogue

end FramedLines
