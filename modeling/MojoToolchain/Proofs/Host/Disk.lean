import Mathlib.Data.List.Basic
import MojoToolchain.Host.Disk
import MojoToolchain.Proofs.Outcome

/-!
# Writing in place of a file

A file that can be read can be written (`write_of_read`).  Its bytes change and nothing else does:
every path leads where it led before, and at every other place there is what was there
(`Rewritten`).
-/

namespace MojoToolchain.Host.Disk

variable {d : Disk} {place : Place} {file : Path} {bytes bytes' : ByteArray} {executable : Bool}

/-- A disk after the bytes of a file have been replaced; the file stays executable, or not. -/
structure Rewritten (d d' : Disk) (file : Path) (bytes : ByteArray) : Prop where
  read : d'.read file = .ok bytes
  frame : ∃ place before executable, d.locate file = .ok place ∧
    d.find? place = some (.file before executable) ∧
    d'.find? = Function.update d.find? place (some (.file bytes executable))
  here : d'.here = d.here

/-! ### Putting bytes in place of others -/

theorem lookup_replaced (nodes : List (Place × Node)) (place : Place) (node : Node) (p : Place) :
  (nodes.map fun (p, n) => if p == place then (p, node) else (p, n)).lookup p
    = (nodes.lookup p).map fun n => if p == place then node else n
  := by
  induction nodes with
  | nil => rfl
  | cons entry rest ih =>
    obtain ⟨p', n⟩ := entry
    have hentry : (if p' == place then (p', node) else (p', n))
        = (p', if p' == place then node else n) := by
      split
      · rfl
      · rfl
    simp only [List.map_cons, hentry, List.lookup_cons]
    by_cases hp : p = p'
    · subst hp
      simp only [beq_self_eq_true, Option.map_some]
    · simp only [beq_false_of_ne hp, ih]

/-- A file is not the root, so it is among the nodes. -/
theorem lookup_of_find? (h : d.find? place = some (.file bytes executable)) :
  place ≠ [] ∧ d.nodes.lookup place = some (.file bytes executable)
  := by
  cases place with
  | nil => cases h
  | cons name rest => exact ⟨List.cons_ne_nil name rest, h⟩

theorem find?_put (h : d.find? place = some (.file bytes executable)) (node : Node) :
  (d.put place node).find? = Function.update d.find? place (some node)
  := by
  obtain ⟨hne, hlookup⟩ := lookup_of_find? h
  have hsome : (d.nodes.lookup place).isSome := by rw [hlookup]; rfl
  funext p
  rw [put, if_pos hsome]
  simp only [find?, lookup_replaced]
  by_cases hp : p = place
  · rw [hp, Function.update_self, if_neg (by simpa using hne), hlookup, beq_self_eq_true]
    rfl
  · rw [Function.update_of_ne hp, find?, beq_false_of_ne hp]
    simp only [Bool.false_eq_true, if_false, Option.map_id_fun', id]

/-! ### Following a path -/

/-- A path is followed without regard to what files hold. -/
theorem step_put (h : d.find? place = some (.file bytes executable)) (bytes' : ByteArray) :
  (d.put place (.file bytes' executable)).step = d.step
  := by
  have hisSome (p : Place) :
      ((d.put place (.file bytes' executable)).find? p).isSome = (d.find? p).isSome := by
    rw [find?_put h]
    by_cases hp : p = place
    · rw [hp, Function.update_self, h]
      rfl
    · rw [Function.update_of_ne hp]
  funext p piece
  by_cases hp : p = place
  · subst hp
    have h' : (d.put p (.file bytes' executable)).find? p = some (.file bytes' executable) := by
      rw [find?_put h, Function.update_self]
    rw [step, step, h, h']
  · have h' : (d.put place (.file bytes' executable)).find? p = d.find? p := by
      rw [find?_put h, Function.update_of_ne hp]
    simp only [step, h', hisSome]

theorem here_put (d : Disk) (place : Place) (node : Node) :
  (d.put place node).here = d.here
  := by
  rw [put]
  split
  · rfl
  · rfl

theorem locate_put (h : d.find? place = some (.file bytes executable)) (bytes' : ByteArray)
    (file : Path) :
  (d.put place (.file bytes' executable)).locate file = d.locate file
  := by
  rw [locate, locate, step_put h, startOf, startOf, here_put]

theorem ne_nil_of_piecesOf {pieces : List (List Char)} (h : piecesOf file = .ok pieces) :
  pieces ≠ []
  := by
  simp only [piecesOf] at h
  split at h
  · cases h
  · split at h
    · cases h
    · split at h
      · cases h
      · cases h
        apply List.splitOn_ne_nil

/-- A path that leads to something leads there when something new may stand at its end. -/
theorem locateNew_of_locate (h : d.locate file = .ok place) :
  d.locateNew file = .ok place
  := by
  obtain ⟨pieces, hpieces, hfold⟩ := (bind_eq_ok _ _ _).1 h
  have hlast : pieces.dropLast ++ [pieces.getLastD []] = pieces := by
    apply List.dropLast_append_getLast?
    rw [List.getLastD_eq_getLast?, List.getLast?_eq_some_getLast (ne_nil_of_piecesOf hpieces)]
    rfl
  rw [← hlast, List.foldlM_append] at hfold
  obtain ⟨parent, hparent, hstep⟩ := (bind_eq_ok _ _ _).1 hfold
  rw [List.foldlM_cons] at hstep
  simp only [List.foldlM_nil, bind_pure] at hstep
  simp only [locateNew, hpieces, hparent, hstep, Bind.bind, Except.bind]

/-! ### Reading and writing -/

/-- What is read stands where the path leads. -/
theorem read_eq_ok :
  d.read file = .ok bytes
    ↔ ∃ place executable, d.locate file = .ok place ∧
        d.find? place = some (.file bytes executable)
  := by
  constructor
  · intro h
    obtain ⟨node, hnode, hbytes⟩ := (bind_eq_ok _ _ _).1 h
    obtain ⟨place, hlocate, hfind⟩ := (bind_eq_ok _ _ _).1 hnode
    cases node with
    | directory => cases hbytes
    | file before executable =>
      cases hbytes
      refine ⟨place, executable, hlocate, ?_⟩
      split at hfind
      · cases hfind
        assumption
      · cases hfind
  · rintro ⟨place, executable, hlocate, hfind⟩
    simp only [read, nodeAt, Bind.bind, Except.bind, hlocate, hfind]

/-- A file that can be read can be written. -/
theorem write_of_read (h : d.read file = .ok bytes) (bytes' : ByteArray) :
  ∃ d', d.write file bytes' = .ok d' ∧ Rewritten d d' file bytes'
  := by
  obtain ⟨place, executable, hlocate, hfind⟩ := read_eq_ok.1 h
  use d.put place (.file bytes' executable)
  constructor
  · simp only [write, locateNew_of_locate hlocate, Bind.bind, Except.bind, hfind]
  · constructor
    · apply read_eq_ok.2
      use place, executable
      rw [locate_put hfind, find?_put hfind, Function.update_self]
      exact ⟨hlocate, rfl⟩
    · exact ⟨place, bytes, executable, hlocate, hfind, find?_put hfind _⟩
    · apply here_put

end MojoToolchain.Host.Disk
