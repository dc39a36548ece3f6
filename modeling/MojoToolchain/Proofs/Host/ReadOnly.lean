import MojoToolchain.Host.Disk

/-!
# Dialogues that change no file

A dialogue reads only when it asks for no file to be written, whatever it is told
(`Dialogue.ReadsOnly`).  On a disk on which processes behave in any way (`Behaviour`) it is answered
as by a host that does not change, and leaves the disk as it is (`converse_of_readsOnly`).
-/

namespace MojoToolchain.Host

/-- What processes do: how they end, by what is on the disk.  They leave the disk as it is. -/
structure Behaviour where
  run : Disk → Invocation → Except Fault Output
  /-- How a process ends that is given a text to read. -/
  pipe : Disk → Invocation → String → Except PipeFault PipedOutput

namespace Behaviour

/-- The answer to a question; a disk alone has no workspace and no environments. -/
def reply (b : Behaviour) (d : Disk) : (q : Question) → q.Answer
  | .workspaceRoots => []
  | .kindOf path => d.kindOf path
  | .read path => d.read path
  | .list path => d.list path
  | .activeEnvironment => none
  | .environment _ => none
  | .run call => b.run d call
  | .pipe call input => b.pipe d call input
  | .write file text => (d.write file text.toUTF8).map fun _ => ()
  | .openLog _ => ()

end Behaviour

/-- The disk after a question; one that cannot be written stays as it is. -/
def Disk.after (d : Disk) : Question → Disk
  | .write file text =>
    match d.write file text.toUTF8 with
    | .ok d' => d'
    | .error _ => d
  | .openLog file => d.openLog file
  | _ => d

namespace Behaviour

/-- Answers a question. -/
def answer (b : Behaviour) (q : Question) : StateM Disk q.Answer :=
  fun d => (b.reply d q, d.after q)

/-- The result of a dialogue, and the disk after it. -/
def converse (b : Behaviour) (d : Disk) (dialogue : Dialogue α) : α × Disk :=
  (dialogue.run b.answer : StateM Disk α) d

variable {b : Behaviour} {d : Disk}

@[simp]
theorem converse_done (a : α) :
  b.converse d (.done a) = (a, d)
  := rfl

@[simp]
theorem converse_ask (q : Question) (next : q.Answer → Dialogue α) :
  b.converse d (.ask q next) = b.converse (d.after q) (next (b.reply d q))
  := rfl

/-- A dialogue goes on with the disk that the one before it has left. -/
theorem converse_bind (dialogue : Dialogue α) (f : α → Dialogue β) :
  b.converse d (dialogue.bind f)
    = b.converse (b.converse d dialogue).2 (f (b.converse d dialogue).1)
  := by
  induction dialogue generalizing d with
  | done a => rfl
  | ask q next ih => exact ih (b.reply d q)

end Behaviour

/-! ### Dialogues that read only -/

/-- A question whose answer may come with a change to a file. -/
def Question.IsOfChange : Question → Prop
  | .write _ _ | .openLog _ => True
  | _ => False

namespace Dialogue

/-- All questions of a dialogue are of one sort, whatever it is told. -/
def Asks (P : Question → Prop) : Dialogue α → Prop
  | done _ => True
  | ask q next => P q ∧ ∀ answer, (next answer).Asks P

/-- A dialogue never asks for a change to a file. -/
def ReadsOnly (d : Dialogue α) : Prop := d.Asks fun q => ¬ q.IsOfChange

namespace Asks

variable {P : Question → Prop}

theorem question {q : Question} (h : P q) :
  (question q).Asks P
  := ⟨h, fun _ => trivial⟩

theorem bind {d : Dialogue α} {f : α → Dialogue β} (hd : d.Asks P) (hf : ∀ a, (f a).Asks P) :
  (d.bind f).Asks P
  := by
  induction d with
  | done a => exact hf a
  | ask q next ih => exact ⟨hd.1, fun answer => ih answer (hd.2 answer)⟩

/-- A host that is itself a dialogue hands questions of one sort on as questions of another. -/
theorem run {Q : Question → Prop} {host : (q : Question) → Dialogue q.Answer} {d : Dialogue α}
    (hd : d.Asks Q) (hhost : ∀ q, Q q → (host q).Asks P) :
  (d.run host).Asks P
  := by
  induction d with
  | done a => trivial
  | ask q next ih =>
    apply bind (hhost q hd.1)
    intro answer
    exact ih answer (hd.2 answer)

end Asks

end Dialogue

/-- A question about no change leaves the disk as it is. -/
theorem Disk.after_of_not_isOfChange {q : Question} (h : ¬ q.IsOfChange) (d : Disk) :
  d.after q = d
  := by
  cases q with
  | write file text => exact absurd trivial h
  | openLog file => exact absurd trivial h
  | _ => rfl

/-- A dialogue that reads only is answered as by a host that does not change, and changes
nothing. -/
theorem Behaviour.converse_of_readsOnly {dialogue : Dialogue α} (h : dialogue.ReadsOnly)
    (b : Behaviour) (d : Disk) :
  b.converse d dialogue = (dialogue.answered (b.reply d), d)
  := by
  induction dialogue with
  | done a => rfl
  | ask q next ih =>
    rw [converse_ask, Disk.after_of_not_isOfChange h.1]
    exact ih _ (h.2 _)

end MojoToolchain.Host
