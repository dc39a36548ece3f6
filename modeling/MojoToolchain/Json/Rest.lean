/-!
# What is left of a text

A reader takes the text that is left and returns what it read with the text after it.  `Rest s`
is a text strictly shorter than `s`, so a reader that returns one makes progress; `Tail s` may
be `s` itself.
-/

namespace MojoToolchain.Json

/-- What may be left of `s` after something was read. -/
abbrev Rest (s : List Char) := { r : List Char // r.length < s.length }

/-- What may be left of `s` after something or nothing was read. -/
abbrev Tail (s : List Char) := { r : List Char // r.length ≤ s.length }

/-- All of a text. -/
def Tail.all (s : List Char) : Tail s := ⟨s, Nat.le_refl _⟩

/-- A tail of a text is a rest of it behind one more character. -/
def Tail.cons (c : Char) {s : List Char} (t : Tail s) : Rest (c :: s) :=
  ⟨t.val, Nat.lt_succ_of_le t.property⟩

/-- A rest of a tail. -/
def Tail.rest {s : List Char} (t : Tail s) (r : Rest t.val) : Rest s :=
  ⟨r.val, Nat.lt_of_lt_of_le r.property t.property⟩

/-- A rest is a tail. -/
def Rest.tail {s : List Char} (r : Rest s) : Tail s := ⟨r.val, Nat.le_of_lt r.property⟩

/-- A rest of a text is a rest of it behind one more character. -/
def Rest.cons (c : Char) {s : List Char} (r : Rest s) : Rest (c :: s) := r.tail.cons c

/-- What is left behind one character. -/
def Rest.after (c : Char) (s : List Char) : Rest (c :: s) := (Tail.all s).cons c

/-- A rest of a text is one of an equal text. -/
def Rest.ofEq {s t : List Char} (h : s = t) (r : Rest t) : Rest s := ⟨r.val, h ▸ r.property⟩

/-- A tail of a rest. -/
def Rest.then {s : List Char} (r : Rest s) (t : Tail r.val) : Rest s :=
  ⟨t.val, Nat.lt_of_le_of_lt t.property r.property⟩

/-- A rest of a rest. -/
def Rest.trans {s : List Char} (r : Rest s) (t : Rest r.val) : Rest s := r.then t.tail

/-! ### The text that is left -/

section

variable {s t : List Char}

@[simp]
theorem Tail.val_all (s : List Char) : (Tail.all s).val = s := rfl

@[simp]
theorem Tail.val_cons (c : Char) (r : Tail s) : (r.cons c).val = r.val := rfl

@[simp]
theorem Tail.val_rest (r : Tail s) (u : Rest r.val) : (r.rest u).val = u.val := rfl

@[simp]
theorem Rest.val_tail (r : Rest s) : r.tail.val = r.val := rfl

@[simp]
theorem Rest.val_cons (c : Char) (r : Rest s) : (r.cons c).val = r.val := rfl

@[simp]
theorem Rest.val_after (c : Char) (s : List Char) : (Rest.after c s).val = s := rfl

@[simp]
theorem Rest.val_ofEq (h : s = t) (r : Rest t) : (r.ofEq h).val = r.val := rfl

@[simp]
theorem Rest.val_then (r : Rest s) (u : Tail r.val) : (r.then u).val = u.val := rfl

@[simp]
theorem Rest.val_trans (r : Rest s) (u : Rest r.val) : (r.trans u).val = u.val := rfl

end

end MojoToolchain.Json
