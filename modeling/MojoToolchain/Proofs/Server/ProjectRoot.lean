import MojoToolchain.Proofs.Path.Ancestors
import MojoToolchain.Proofs.Sdk.Install
import MojoToolchain.Host.MemoryHost
import MojoToolchain.Server.Launch

/-!
# The root of a project

The search for the root of a project goes up from a file and stops at the first directory that is
`Marked`.  It comes to every directory above the file until it stops, so of the projects that a file
lies in it finds the innermost one, and the order of the names that mark a root does not matter
(`nearest_root`).
-/

namespace MojoToolchain.ServerLaunch

open Host (Dialogue Question)

variable (host : (q : Question) → q.Answer) {l : ServerLaunch} {file dir : Path}

/-- A directory holds something by a name that marks the root of a project. -/
def Marked (l : ServerLaunch) (dir : Path) : Prop :=
  ∃ name ∈ l.rootPatterns, Present host (dir / Path.mk name)

instance (l : ServerLaunch) (dir : Path) : Decidable (l.Marked host dir) :=
  inferInstanceAs (Decidable (∃ name ∈ l.rootPatterns, Present host (dir / Path.mk name)))

/-- A directory on the way up from a file is marked, and none before it is. -/
structure Nearest (l : ServerLaunch) (file dir : Path) (n : Nat) : Prop where
  reached : file.rise (n + 1) = some dir
  marked : l.Marked host dir
  first : ∀ m < n, ∀ nearer, file.rise (m + 1) = some nearer → ¬ l.Marked host nearer

variable {host}

theorem answered_anyExists_iff (l : ServerLaunch) (dir : Path) :
  (anyExists (l.rootPatterns.map fun name => dir / Path.mk name)).answered host = true
    ↔ l.Marked host dir
  := by
  simp [answered_anyExists, answered_exists?, Marked]

/-- The first marked one of some directories is the first one for which a search stops. -/
theorem answered_firstMarked (patterns : List String) (dirs : List Path) :
  (firstMarked patterns dirs).answered host
    = dirs.find? fun dir =>
      (anyExists (patterns.map fun name => dir / Path.mk name)).answered host
  := by
  induction dirs with
  | nil => rfl
  | cons dir rest ih =>
    simp only [firstMarked, Bind.bind, Dialogue.answered_bind, List.find?_cons]
    cases (anyExists (patterns.map fun name => dir / Path.mk name)).answered host with
    | false => exact ih
    | true => rfl

/-- The search gives the nearest marked directory. -/
theorem answered_findRoot_eq_some_iff :
  (l.findRoot file).answered host = some dir ↔ ∃ n, l.Nearest host file dir n
  := by
  rw [findRoot, answered_firstMarked, List.find?_eq_some_iff_getElem]
  simp only [answered_anyExists_iff, Bool.not_eq_true', ← Bool.not_eq_true]
  constructor
  · rintro ⟨hmarked, n, hn, hdir, hfirst⟩
    refine ⟨n, ?_, hmarked, ?_⟩
    · rw [← Path.getElem?_ancestors, List.getElem?_eq_getElem hn, hdir]
    · intro m hm nearer hnearer
      rw [← Path.getElem?_ancestors] at hnearer
      obtain ⟨hlt, rfl⟩ := List.getElem?_eq_some_iff.mp hnearer
      exact hfirst m hm
  · rintro ⟨n, hreached, hmarked, hfirst⟩
    rw [← Path.getElem?_ancestors] at hreached
    obtain ⟨hn, hdir⟩ := List.getElem?_eq_some_iff.mp hreached
    refine ⟨hmarked, n, hn, hdir, ?_⟩
    intro m hm
    apply hfirst m hm
    rw [← Path.getElem?_ancestors, List.getElem?_eq_getElem]

/-- The search gives nothing when no directory above the file is marked. -/
theorem answered_findRoot_eq_none_iff :
  (l.findRoot file).answered host = none
    ↔ ∀ n dir, file.rise (n + 1) = some dir → ¬ l.Marked host dir
  := by
  rw [findRoot, answered_firstMarked, List.find?_eq_none]
  simp only [answered_anyExists_iff, List.mem_iff_getElem?, Path.getElem?_ancestors]
  constructor
  · exact fun h n dir hdir => h dir ⟨n, hdir⟩
  · rintro h dir ⟨n, hdir⟩
    exact h n dir hdir

/-- Of two directories above a file the one that is met first lies in the other one. -/
theorem Nearest.startsWith {n m : Nat} {root : Path} (h : l.Nearest host file root n)
    (hdir : file.rise (m + 1) = some dir) (hmarked : l.Marked host dir) :
  root.startsWith dir
  := by
  have hle : n ≤ m := by
    by_contra hlt
    exact h.first m (by omega) dir hdir hmarked
  have hrise : root.rise (m - n) = some dir := by
    rw [← Path.rise_add h.reached, ← hdir]
    congr 1
    omega
  exact Path.startsWith_iff_prefix.mpr (Path.components_rise hrise)

/-- Launches with the same names find the same root. -/
theorem answered_findRoot_congr {l' : ServerLaunch}
    (h : ∀ name, name ∈ l'.rootPatterns ↔ name ∈ l.rootPatterns) :
  (l'.findRoot file).answered host = (l.findRoot file).answered host
  := by
  have hanyExists (dir : Path) :
      (anyExists (l'.rootPatterns.map fun name => dir / Path.mk name)).answered host
        = (anyExists (l.rootPatterns.map fun name => dir / Path.mk name)).answered host := by
    rw [Bool.eq_iff_iff, answered_anyExists_iff, answered_anyExists_iff, Marked, Marked]
    simp only [h]
  simp only [findRoot, answered_firstMarked, hanyExists]

/-- The search for a root goes up from a file until it meets a marked directory, and going up ends
at the root or, for a relative path, at the empty path.  So it gives the nearest marked directory,
and nothing if and only if no directory above the file is marked.  The root of a project lies in
each project that the file lies in, and neither the order of the names that mark a root nor a
repeated name makes a difference. -/
theorem nearest_root (l : ServerLaunch) (file : Path) (host : (q : Question) → q.Answer) :
  (∃ n, file.rise n = none)
    ∧ (∀ n top, file.rise (n + 1) = some top → file.rise (n + 2) = none →
        top = if file.isAbsolute then ⟨"/"⟩ else ⟨""⟩)
    ∧ (∀ dir, (l.findRoot file).answered host = some dir ↔ ∃ n, l.Nearest host file dir n)
    ∧ ((l.findRoot file).answered host = none
        ↔ ∀ n dir, file.rise (n + 1) = some dir → ¬ l.Marked host dir)
    ∧ (∀ n dir, file.rise (n + 1) = some dir → l.Marked host dir →
        ∃ root, (l.findRoot file).answered host = some root ∧ root.startsWith dir)
    ∧ ∀ l' : ServerLaunch, (∀ name, name ∈ l'.rootPatterns ↔ name ∈ l.rootPatterns) →
        (l'.findRoot file).answered host = (l.findRoot file).answered host
  := by
  refine ⟨⟨_, file.rise_length_ancestors⟩, ?_, fun dir => answered_findRoot_eq_some_iff,
    answered_findRoot_eq_none_iff, ?_, fun l' => answered_findRoot_congr⟩
  · intro n top htop hend
    refine Path.eq_top htop ?_
    rwa [Path.rise_add htop 1, Path.rise_one] at hend
  · intro n dir hdir hmarked
    cases hroot : (l.findRoot file).answered host with
    | none => exact absurd hmarked (answered_findRoot_eq_none_iff.mp hroot n dir hdir)
    | some root =>
      obtain ⟨m, hnearest⟩ := answered_findRoot_eq_some_iff.mp hroot
      exact ⟨root, rfl, hnearest.startsWith hdir hmarked⟩

/-- A project in the directory of another one. -/
def nestedProjects : Host.MemoryHost :=
  .ofFiles ⟨[(⟨"/w/.git"⟩, .directory), (⟨"/w/a/pixi.toml"⟩, .file .empty)]⟩

/-- A launch with the usual names. -/
def usualLaunch : ServerLaunch := ⟨"mojo", ⟨"/bin/server"⟩, [], [], ["mojo"], defaultRootPatterns⟩

/-- The root of the inner project is found, which lies in the outer one, and the order of the names
does not matter; the way up ends at the root. -/
theorem nearest_root_nested :
  (usualLaunch.findRoot ⟨"/w/a/src/x.mojo"⟩).answered nestedProjects.reply = some ⟨"/w/a"⟩
    ∧ (usualLaunch.Marked nestedProjects.reply ⟨"/w"⟩ ∧ (Path.mk "/w/a").startsWith ⟨"/w"⟩)
    ∧ ((Path.mk "/w/a/src/x.mojo").rise 4 = some ⟨"/"⟩ ∧ (Path.mk "/w/a/src/x.mojo").rise 5 = none)
    ∧ (ServerLaunch.findRoot { usualLaunch with rootPatterns := defaultRootPatterns.reverse }
        ⟨"/w/a/src/x.mojo"⟩).answered nestedProjects.reply = some ⟨"/w/a"⟩
  := by
  obtain ⟨-, htop, hsome, -, hinner, horder⟩ :=
    nearest_root usualLaunch ⟨"/w/a/src/x.mojo"⟩ nestedProjects.reply
  have hroot : (usualLaunch.findRoot ⟨"/w/a/src/x.mojo"⟩).answered nestedProjects.reply
      = some ⟨"/w/a"⟩ := by
    refine (hsome _).mpr ⟨1, by decide +kernel, by decide +kernel, ?_⟩
    intro m hm nearer hnearer
    obtain rfl := Nat.lt_one_iff.mp hm
    have hsrc : (Path.mk "/w/a/src/x.mojo").rise 1 = some ⟨"/w/a/src"⟩ := by decide +kernel
    obtain rfl := Option.some.inj (hsrc.symm.trans hnearer)
    decide +kernel
  have hmarked : usualLaunch.Marked nestedProjects.reply ⟨"/w"⟩ := by decide +kernel
  obtain ⟨root, hfound, hstarts⟩ := hinner 2 ⟨"/w"⟩ (by decide +kernel) hmarked
  obtain rfl := Option.some.inj (hroot.symm.trans hfound)
  have hend : (Path.mk "/w/a/src/x.mojo").rise 5 = none := by decide +kernel
  have hrise : ((Path.mk "/w/a/src/x.mojo").rise 4).isSome := by decide +kernel
  obtain ⟨top, hreached⟩ := Option.isSome_iff_exists.mp hrise
  obtain rfl : top = ⟨"/"⟩ := htop 3 top hreached hend
  refine ⟨hroot, ⟨hmarked, hstarts⟩, ⟨hreached, hend⟩, ?_⟩
  rw [← hroot]
  apply horder
  intro name
  exact List.mem_reverse

end MojoToolchain.ServerLaunch
