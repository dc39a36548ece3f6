import MojoToolchain.Path.Resolution

/-!
# What a path comes to

A walk goes along the components of a path over a stack of names (`walk`).  Only the moves of a
path count for it, the names and the `..` in their order; a joined path makes the moves of both.
The normal form writes the stack down, and makes the moves to the names on the stack again
(`moves_normalize`).  So a path that is resolved against an absolute base is in normal form, and
it does not matter whether two paths are joined before they are resolved or resolved one after the
other (`absolutize_absolutize`).
-/

namespace MojoToolchain.Path

variable {p q : Path}

/-! ### Walks -/

/-- The names on the stack after one more component, the last one at the end; `..` does nothing
where there is no name to leave. -/
def visit (names : List (List Char)) : Component → List (List Char)
  | .root => []
  | .here => names
  | .up => names.dropLast
  | .name chars => names ++ [chars]

/-- The names on the stack after a walk along components. -/
def walk (components : List Component) : List (List Char) := components.foldl visit []

/-- A position is the stack, with its last name first. -/
theorem foldl_step (absolute : Bool) (names : List (List Char)) (components : List Component) :
  components.foldl Position.step ⟨absolute, names.reverse⟩
    = ⟨absolute || components.contains .root, (components.foldl visit names).reverse⟩
  := by
  induction components generalizing absolute names with
  | nil => simp
  | cons c rest ih =>
    rw [List.foldl_cons, List.foldl_cons]
    cases c with
    | root => simpa [Position.step, visit] using ih true []
    | here => simpa [Position.step, visit] using ih absolute names
    | up => simpa [Position.step, visit] using ih absolute names.dropLast
    | name chars => simpa [Position.step, visit] using ih absolute (names ++ [chars])

/-- What is on the stack was there before or has been passed. -/
theorem mem_foldl_visit {name : List Char} {names : List (List Char)}
    {components : List Component} (h : name ∈ components.foldl visit names) :
  name ∈ names ∨ .name name ∈ components
  := by
  induction components generalizing names with
  | nil => exact .inl h
  | cons c rest ih =>
    rcases ih h with hvisit | hrest
    · cases c with
      | root => cases hvisit
      | here => exact .inl hvisit
      | up => exact .inl (names.dropLast_subset hvisit)
      | name chars =>
        rcases List.mem_append.mp hvisit with hnames | hchars
        · exact .inl hnames
        · obtain rfl := List.mem_singleton.mp hchars
          exact .inr List.mem_cons_self
    · exact .inr (List.mem_cons_of_mem c hrest)

/-- A walk along names puts them on the stack. -/
theorem walk_names (names : List (List Char)) :
  walk (names.map .name) = names
  := by
  have hfold (stack : List (List Char)) :
      (names.map Component.name).foldl visit stack = stack ++ names := by
    induction names generalizing stack with
    | nil => simp
    | cons name rest ih => simp [visit, ih]
  exact hfold []

/-! ### Moves -/

/-- The names and the `..` of a path, in order. -/
def moves (p : Path) : List Component := bodyComponents p.chars

/-- A piece of a path that is a name. -/
structure IsName (piece : List Char) : Prop where
  not_idle : isIdle piece = false
  ne_up : piece ≠ ['.', '.']
  unparted : '/' ∉ piece

theorem bodyComponents_append (s t : List Char) :
  bodyComponents (s ++ '/' :: t) = bodyComponents s ++ bodyComponents t
  := by
  simp only [bodyComponents, List.splitOn_append_cons_self, List.filter_append, List.map_append]

theorem bodyComponents_separator (s : List Char) :
  bodyComponents ('/' :: s) = bodyComponents s
  := bodyComponents_append [] s

/-- No piece of a text has a separator in it. -/
theorem not_mem_of_mem_splitOn {mark : Char} {s piece : List Char} (h : piece ∈ s.splitOn mark) :
  mark ∉ piece
  := by
  induction s generalizing piece with
  | nil =>
    obtain rfl := List.mem_singleton.mp h
    exact List.not_mem_nil
  | cons c rest ih =>
    obtain ⟨first, others, hsplit⟩ := List.exists_cons_of_ne_nil (List.splitOn_ne_nil mark rest)
    rw [List.splitOn_cons_eq_if_modifyHead] at h
    rw [hsplit] at h ih
    split at h
    case isTrue hc =>
      rcases List.mem_cons.mp h with rfl | h
      · exact List.not_mem_nil
      · exact ih h
    case isFalse hc =>
      rcases List.mem_cons.mp h with rfl | h
      · have hne : mark ≠ c := fun heq => hc (beq_iff_eq.mpr heq.symm)
        simpa [hne] using ih List.mem_cons_self
      · exact ih (List.mem_cons_of_mem first h)

/-- A move is a `..` or a name. -/
theorem eq_of_mem_moves {c : Component} (h : c ∈ p.moves) :
  c = .up ∨ ∃ chars, c = .name chars ∧ IsName chars
  := by
  obtain ⟨piece, hpiece, rfl⟩ := List.mem_map.mp h
  obtain ⟨hsplit, hidle⟩ := List.mem_filter.mp hpiece
  unfold ofPiece
  split
  case isTrue => exact .inl rfl
  case isFalse hup =>
    refine .inr ⟨piece, rfl, ?_, ?_, ?_⟩
    · simpa using hidle
    · simpa using hup
    · exact not_mem_of_mem_splitOn hsplit

theorem exists_chars_of_isAbsolute (h : p.isAbsolute) :
  ∃ body, p.chars = '/' :: body
  := by
  cases hchars : p.chars with
  | nil => simp [isAbsolute, hchars] at h
  | cons c body =>
    obtain rfl : c = '/' := by simpa [isAbsolute, hchars] using h
    exact ⟨body, rfl⟩

/-- An absolute path is the root and its moves. -/
theorem components_of_isAbsolute (h : p.isAbsolute) :
  p.components = .root :: p.moves
  := by
  obtain ⟨body, hchars⟩ := exists_chars_of_isAbsolute h
  simp [components, headBody, headComponents, moves, hchars, bodyComponents_separator]

/-- A relative path is its moves, but for a `.` that may stand before them. -/
theorem components_of_not_isAbsolute (h : ¬ p.isAbsolute) :
  p.components = p.moves ∨ p.components = .here :: p.moves
  := by
  have habsolute : p.chars.head? ≠ some '/' := by simpa [isAbsolute] using h
  unfold components moves
  generalize p.chars = s at *
  fun_cases headBody s with
  | case1 body => simp at habsolute
  | case2 => exact .inr rfl
  | case3 body =>
    -- The `.` is an idle piece of the text, and so is the empty one after it.
    have hmoves : bodyComponents ('.' :: '/' :: body) = bodyComponents body :=
      bodyComponents_append ['.'] body
    exact .inr (congrArg (Component.here :: ·) ((bodyComponents_separator body).trans hmoves.symm))
  | case4 => exact .inl rfl

/-- Only an absolute path has the root among its components. -/
theorem contains_root_components (p : Path) :
  p.components.contains .root = p.isAbsolute
  := by
  have hmoves : .root ∉ p.moves := by
    intro hroot
    rcases eq_of_mem_moves hroot with heq | ⟨_, heq, -⟩
    · cases heq
    · cases heq
  by_cases h : p.isAbsolute
  · simp [components_of_isAbsolute h, h]
  · rcases components_of_not_isAbsolute h with hc | hc
    · simp [hc, hmoves, h]
    · simp [hc, hmoves, h]

/-- A walk that goes on along a relative path makes its moves. -/
theorem foldl_components (h : ¬ p.isAbsolute) (names : List (List Char)) :
  p.components.foldl visit names = p.moves.foldl visit names
  := by
  rcases components_of_not_isAbsolute h with hc | hc
  · rw [hc]
  · rw [hc]
    rfl

/-- A walk along a path makes its moves. -/
theorem walk_components (p : Path) :
  walk p.components = walk p.moves
  := by
  by_cases h : p.isAbsolute
  · rw [components_of_isAbsolute h]
    rfl
  · apply foldl_components h

/-! ### Joining -/

theorem join_of_isAbsolute (p : Path) (h : q.isAbsolute) :
  p.join q = q
  := by
  simp [join, h]

/-- Between a path and a relative one that is seen from it stands a separator, unless the first
one is empty or ends in one. -/
theorem chars_join (p : Path) (h : ¬ q.isAbsolute) :
  (p.join q).chars
    = p.chars ++ (if p.chars.isEmpty || p.chars.getLast? == some '/' then [] else ['/']) ++ q.chars
  := by
  rw [join, if_neg h]
  exact String.toList_ofList

theorem chars_join_cases (p : Path) (h : ¬ q.isAbsolute) :
  (p.chars = [] ∧ (p.join q).chars = q.chars)
    ∨ (∃ s, p.chars = s ++ ['/'] ∧ (p.join q).chars = s ++ '/' :: q.chars)
    ∨ (p.chars ≠ [] ∧ (p.join q).chars = p.chars ++ '/' :: q.chars)
  := by
  rw [chars_join p h]
  rcases List.eq_nil_or_concat p.chars with hnil | ⟨s, c, hs⟩
  · exact .inl ⟨hnil, by simp [hnil]⟩
  · by_cases hc : c = '/'
    · exact .inr (.inl ⟨s, by simp [hs, hc], by simp [hs, hc]⟩)
    · exact .inr (.inr ⟨by simp [hs], by simp [hs, hc]⟩)

theorem isAbsolute_join (p : Path) (h : ¬ q.isAbsolute) :
  (p.join q).isAbsolute = p.isAbsolute
  := by
  unfold isAbsolute at *
  rcases chars_join_cases p h with ⟨hnil, hjoin⟩ | ⟨s, hs, hjoin⟩ | ⟨hne, hjoin⟩
  · rw [hjoin, hnil]
    simpa using h
  · rw [hjoin, hs]
    cases s <;> rfl
  · rw [hjoin]
    obtain ⟨c, rest, hchars⟩ := List.exists_cons_of_ne_nil hne
    rw [hchars]
    rfl

theorem ext_chars (h : p.chars = q.chars) :
  p = q
  := congrArg Path.mk (String.ext h)

/-- Paths can be joined in any order, unless the one in the middle is empty. -/
theorem join_join (p : Path) (hq : q.chars ≠ []) (r : Path) :
  p / q / r = p / (q / r)
  := by
  change (p.join q).join r = p.join (q.join r)
  by_cases hr : r.isAbsolute
  · rw [join_of_isAbsolute _ hr, join_of_isAbsolute q hr, join_of_isAbsolute p hr]
  by_cases hroot : q.isAbsolute
  · have hjoin : (q.join r).isAbsolute := by rw [isAbsolute_join q hr, hroot]
    rw [join_of_isAbsolute p hroot, join_of_isAbsolute p hjoin]
  · have hjoin : ¬ (q.join r).isAbsolute := by rwa [isAbsolute_join q hr]
    have hlast (s : List Char) : (s ++ q.chars).getLast? = q.chars.getLast? := by
      rw [List.getLast?_append, Option.or_of_isSome (by simp [hq])]
    apply ext_chars
    rw [chars_join _ hr, chars_join p hjoin, chars_join p hroot, chars_join q hr, hlast]
    simp [hq]

/-- A path that is seen from another one makes the moves of both. -/
theorem moves_join (p : Path) (h : ¬ q.isAbsolute) :
  (p.join q).moves = p.moves ++ q.moves
  := by
  unfold moves
  rcases chars_join_cases p h with ⟨hnil, hjoin⟩ | ⟨s, hs, hjoin⟩ | ⟨-, hjoin⟩
  · rw [hjoin, hnil]
    rfl
  · have hend : bodyComponents (s ++ ['/']) = bodyComponents s :=
      (bodyComponents_append s []).trans (List.append_nil _)
    rw [hjoin, hs, hend, bodyComponents_append]
  · rw [hjoin, bodyComponents_append]

/-! ### Normal forms -/

/-- The names that a walk along a path leaves on the stack are names. -/
theorem isName_of_mem_walk {name : List Char} (h : name ∈ walk p.moves) :
  IsName name
  := by
  rcases mem_foldl_visit h with hnil | hmove
  · cases hnil
  · rcases eq_of_mem_moves hmove with heq | ⟨_, heq, hname⟩
    · cases heq
    · cases heq
      exact hname

/-- The normal form is settled by where a path starts and by its moves. -/
theorem normalize_eq (p : Path) :
  p.normalize = ofChars ((if p.isAbsolute then ['/'] else []) ++ joinPieces (walk p.moves))
  := by
  have hresolve : p.resolve = ⟨p.isAbsolute, (walk p.moves).reverse⟩ := by
    rw [← walk_components, ← contains_root_components]
    exact foldl_step false [] p.components
  rw [normalize, hresolve, Position.path, List.reverse_reverse]

/-- The components that pieces stand for. -/
def componentsOf (pieces : List (List Char)) : List Component :=
  (pieces.filter fun piece => !isIdle piece).map ofPiece

/-- Pieces with separators between them are read as these pieces. -/
theorem bodyComponents_joinPieces {pieces : List (List Char)} (h : ∀ piece ∈ pieces, '/' ∉ piece) :
  bodyComponents (joinPieces pieces) = componentsOf pieces
  := by
  by_cases hnil : pieces = []
  · rw [hnil]
    rfl
  · exact congrArg componentsOf (List.splitOn_intercalate '/' h hnil)

/-- Names stand for themselves. -/
theorem componentsOf_names {names : List (List Char)} (h : ∀ name ∈ names, IsName name) :
  componentsOf names = names.map .name
  := by
  have hkept : names.filter (fun piece => !isIdle piece) = names :=
    List.filter_eq_self.mpr fun piece hpiece => by simp [(h piece hpiece).not_idle]
  rw [componentsOf, hkept]
  exact List.map_congr_left fun piece hpiece => by simp [ofPiece, (h piece hpiece).ne_up]

variable (h : p.isAbsolute)

include h

theorem chars_normalize :
  p.normalize.chars = '/' :: joinPieces (walk p.moves)
  := by
  rw [normalize_eq, if_pos h]
  exact String.toList_ofList

theorem isAbsolute_normalize :
  p.normalize.isAbsolute
  := by
  rw [isAbsolute, chars_normalize h]
  rfl

/-- The moves of a normal form are the names that were left on the stack. -/
theorem moves_normalize :
  p.normalize.moves = (walk p.moves).map .name
  := by
  have hnames : ∀ name ∈ walk p.moves, IsName name := fun name hname => isName_of_mem_walk hname
  rw [moves, chars_normalize h, bodyComponents_separator,
    bodyComponents_joinPieces fun name hname => (hnames name hname).unparted,
    componentsOf_names hnames]

/-- A normal form is its own normal form. -/
theorem normalize_normalize :
  p.normalize.normalize = p.normalize
  := by
  rw [normalize_eq p.normalize, isAbsolute_normalize h, moves_normalize h, walk_names,
    normalize_eq p, h]

/-- It does not matter whether a path is put into normal form before another one is seen from
it. -/
theorem normalize_join_normalize (hq : ¬ q.isAbsolute) :
  (p.normalize.join q).normalize = (p.join q).normalize
  := by
  have hwalk : walk (p.normalize.moves ++ q.moves) = walk (p.moves ++ q.moves) := by
    rw [walk, List.foldl_append, ← walk, moves_normalize h, walk_names, walk, ← List.foldl_append,
      ← walk]
  rw [normalize_eq, normalize_eq (p.join q), isAbsolute_join _ hq, isAbsolute_join _ hq,
    isAbsolute_normalize h, h, moves_join _ hq, moves_join _ hq, hwalk]

omit h

/-! ### Seen from an absolute base -/

variable {base : Path}

/-- The path whose normal form a path seen from a base comes to. -/
def seenFrom (p base : Path) : Path := if p.isAbsolute then p else base.join p

theorem absolutize_eq (p base : Path) :
  p.absolutize base = (p.seenFrom base).normalize
  := by
  unfold absolutize seenFrom
  split <;> rfl

theorem isAbsolute_seenFrom (p : Path) (hbase : base.isAbsolute) :
  (p.seenFrom base).isAbsolute
  := by
  unfold seenFrom
  split
  case isTrue h => exact h
  case isFalse h => rwa [isAbsolute_join base h]

/-- A walk goes along the base first, unless the path is absolute. -/
theorem walk_seenFrom (p base : Path) :
  walk (p.seenFrom base).moves
    = walk ((if p.isAbsolute then [] else base.components) ++ p.components)
  := by
  unfold seenFrom
  split
  case isTrue h => exact (walk_components p).symm
  case isFalse h =>
    calc walk (base.join p).moves
      _ = p.moves.foldl visit (walk base.moves) := by
        rw [moves_join base h, walk, List.foldl_append, walk]
      _ = p.components.foldl visit (walk base.components) := by
        rw [foldl_components h, walk_components]
      _ = walk (base.components ++ p.components) := by rw [walk, walk, List.foldl_append]

/-- A path seen from what another one comes to is the two joined and then seen from the base. -/
theorem absolutize_absolutize (p q : Path) (hbase : base.isAbsolute) :
  q.absolutize (p.absolutize base) = (p.join q).absolutize base
  := by
  by_cases hq : q.isAbsolute
  · rw [join_of_isAbsolute p hq, absolutize_of_isAbsolute hq, absolutize_of_isAbsolute hq]
  · -- Both ways lead from where `p` or the base starts, along the same moves.
    have hjoined : ((p.seenFrom base).join q).normalize = ((p.join q).seenFrom base).normalize := by
      by_cases hp : p.isAbsolute
      · simp [seenFrom, hp, isAbsolute_join p hq]
      · have hpq : ¬ (p.join q).isAbsolute := by rwa [isAbsolute_join p hq]
        rw [seenFrom, if_neg hp, seenFrom, if_neg hpq, normalize_eq, normalize_eq (base.join _),
          isAbsolute_join _ hq, isAbsolute_join base hp, isAbsolute_join base hpq, moves_join _ hq,
          moves_join base hp, moves_join base hpq, moves_join p hq, List.append_assoc]
    rw [absolutize_eq (p.join q), ← hjoined,
      ← normalize_join_normalize (isAbsolute_seenFrom p hbase) hq, ← absolutize_eq, absolutize,
      if_neg hq]

/-- Seen from an absolute base, a path comes to the names that a walk leaves on the stack, which
goes along the base, unless the path is absolute, and then along the path.  The result is an
absolute path without `.` and `..`, and is its own normal form.  A path seen from the result comes
to the same as when it is joined to the first path. -/
theorem lexical_resolution (p base : Path) (hbase : base.isAbsolute) :
  (p.absolutize base).isAbsolute
    ∧ (p.absolutize base).components
      = .root :: (walk ((if p.isAbsolute then [] else base.components) ++ p.components)).map .name
    ∧ (∀ c ∈ (p.absolutize base).components, c ≠ .here ∧ c ≠ .up)
    ∧ (p.absolutize base).normalize = p.absolutize base
    ∧ ∀ q : Path, q.absolutize (p.absolutize base) = (p.join q).absolutize base
  := by
  have hseen := isAbsolute_seenFrom p hbase
  have hcomponents : (p.absolutize base).components
      = .root :: (walk ((if p.isAbsolute then [] else base.components) ++ p.components)).map .name
      := by
    rw [absolutize_eq, components_of_isAbsolute (isAbsolute_normalize hseen),
      moves_normalize hseen, walk_seenFrom]
  refine ⟨?_, hcomponents, ?_, ?_, ?_⟩
  · rw [absolutize_eq]
    exact isAbsolute_normalize hseen
  · rw [hcomponents]
    simp
  · rw [absolutize_eq]
    exact normalize_normalize hseen
  · exact fun q => absolutize_absolutize p q hbase

/-- A path leaves a directory by more steps than it is deep, and enters another one. -/
theorem lexical_resolution_outside :
  (Path.mk "/work//space/.").isAbsolute
    ∧ ((Path.mk "../../../env/./").absolutize ⟨"/work//space/."⟩).components
      = [.root, .name ['e', 'n', 'v']]
    ∧ (Path.mk "../lib").absolutize ((Path.mk "../../../env/./").absolutize ⟨"/work//space/."⟩)
      = ((Path.mk "../../../env/./").join ⟨"../lib"⟩).absolutize ⟨"/work//space/."⟩
  := by
  have hbase : (Path.mk "/work//space/.").isAbsolute := by decide
  obtain ⟨-, hcomponents, -, -, hjoin⟩ :=
    lexical_resolution ⟨"../../../env/./"⟩ ⟨"/work//space/."⟩ hbase
  have hwalk : walk ((if (Path.mk "../../../env/./").isAbsolute then []
      else (Path.mk "/work//space/.").components) ++ (Path.mk "../../../env/./").components)
      = [['e', 'n', 'v']] := by
    decide
  rw [hwalk] at hcomponents
  exact ⟨hbase, hcomponents, hjoin ⟨"../lib"⟩⟩

end MojoToolchain.Path
