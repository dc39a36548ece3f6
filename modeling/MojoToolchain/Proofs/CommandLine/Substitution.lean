import Mathlib.Data.List.Forall2
import MojoToolchain.Proofs.CommandLine.ActiveFile
import MojoToolchain.Proofs.Path.Resolution
import MojoToolchain.Proofs.Text.Replacement

/-!
# What is written for the active file

A file is written for every occurrence of the placeholder in the texts of a configuration, each
text by itself, and nothing else changes.  The placeholder has no `/`: when the file is an absolute
path without `$`, no occurrence is left and none comes about (`not_namesActiveFile_substitute`).  A
file that is named on the command line is such a path, unless it has a `$`.
-/

namespace MojoToolchain

namespace Debug.Configuration

variable {c c' : Configuration}

/-- A configuration is another one with its paths and its lists of texts rewritten, each text by
itself. -/
structure Rewrites (R : String → String → Prop) (c c' : Configuration) : Prop where
  mojoFile : Option.Rel R c.mojoFile c'.mojoFile
  program : Option.Rel R c.program c'.program
  cwd : Option.Rel R c.cwd c'.cwd
  args : Option.Rel (List.Forall₂ R) c.args c'.args
  env : Option.Rel (List.Forall₂ R) c.env c'.env
  buildArgs : Option.Rel (List.Forall₂ R) c.buildArgs c'.buildArgs
  initCommands : Option.Rel (List.Forall₂ R) c.initCommands c'.initCommands
  /-- All other fields and the members that are not known are kept. -/
  kept : c' =
    { c with
      mojoFile := c'.mojoFile
      program := c'.program
      cwd := c'.cwd
      args := c'.args
      env := c'.env
      buildArgs := c'.buildArgs
      initCommands := c'.initCommands }

theorem rel_eq_iff {α β : Type} {f : α → β} {a : Option α} {b : Option β} :
  Option.Rel (fun x y => f x = y) a b ↔ a.map f = b
  := by
  cases a <;> cases b <;> simp

theorem rel_forall₂_eq_iff {f : String → String} {a b : Option (List String)} :
  Option.Rel (List.Forall₂ fun s t => f s = t) a b ↔ a.map (List.map f) = b
  := by
  have hlists : List.Forall₂ (fun s t => f s = t) = fun l k => l.map f = k := by
    funext l k
    rw [← List.forall₂_map_left_iff (R := Eq), List.forall₂_eq_eq_eq]
  rw [hlists, rel_eq_iff]

/-- To rewrite every text by a function is to map the texts. -/
theorem rewrites_iff (f : String → String) :
  Rewrites (fun s t => f s = t) c c' ↔ c.mapTexts f = c'
  := by
  constructor
  · rintro ⟨hmojo, hprogram, hcwd, hargs, henv, hbuild, hinit, hkept⟩
    rw [rel_eq_iff] at hmojo hprogram hcwd
    rw [rel_forall₂_eq_iff] at hargs henv hbuild hinit
    rw [hkept, mapTexts, hmojo, hprogram, hcwd, hargs, henv, hbuild, hinit]
  · rintro rfl
    constructor
    case kept => rfl
    all_goals simp only [rel_eq_iff, rel_forall₂_eq_iff, mapTexts]

/-- One text is another one with a file in place of the placeholder, wherever that stands. -/
def IsPlaced (file s t : String) : Prop :=
  Text.Replaced activeFile.toList file.toList s.toList t.toList

theorem isPlaced_iff (file s t : String) :
  IsPlaced file s t ↔ Text.replaceAllString activeFile file s = t
  := by
  have hpattern : activeFile.toList ≠ [] := by decide
  rw [IsPlaced, Text.replaced_iff hpattern, Text.replaceAllString, ← String.toList_inj,
    String.toList_ofList]

theorem namesActiveFile_iff_occurs :
  c.NamesActiveFile ↔ ∃ t ∈ c.texts, activeFile.toList <:+: t.toList
  := by
  simp only [NamesActiveFile, Text.containsString, Text.contains_iff]

/-- A file that starts with `/` and has no `$` leaves no placeholder and makes none. -/
theorem not_namesActiveFile_substitute {file : String} (hslash : file.toList.head? = some '/')
    (hdollar : '$' ∉ file.toList) (c : Configuration) :
  ¬ (c.substitute file).NamesActiveFile
  := by
  obtain ⟨rest, hfile⟩ := List.head?_eq_some_iff.mp hslash
  -- No occurrence goes on over the `/` with which the file starts, and none starts in the file.
  have hactive : activeFile.toList = '$' :: activeFile.toList.tail := by decide
  have hnone : '/' ∉ '$' :: activeFile.toList.tail := by decide
  rw [hfile] at hdollar
  rw [namesActiveFile_iff_occurs, substitute, texts_mapTexts]
  rintro ⟨t, ht, hinfix⟩
  obtain ⟨s, -, hs⟩ := List.mem_map.mp ht
  have hplaced : IsPlaced file s t := (isPlaced_iff ..).mpr hs
  rw [IsPlaced, hfile, hactive] at hplaced
  rw [hactive] at hinfix
  exact Text.not_infix_of_replaced hnone hdollar hplaced hinfix

/-- A file is written for the leftmost occurrences of the placeholder that do not overlap, in one
pass, and nothing else changes.  When the file starts with `/` and has no `$`, no occurrence
remains, and writing another file for the placeholder changes nothing. -/
theorem active_file_replaced (c : Configuration) (file : String) :
  (∀ c', Rewrites (IsPlaced file) c c' ↔ c' = c.substitute file)
    ∧ (file.toList.head? = some '/' → '$' ∉ file.toList →
      (∀ t ∈ (c.substitute file).texts, ¬ activeFile.toList <:+: t.toList)
      ∧ ∀ other, (c.substitute file).substitute other = c.substitute file)
  := by
  have hgraph : IsPlaced file = fun s t => Text.replaceAllString activeFile file s = t := by
    funext s t
    exact propext (isPlaced_iff file s t)
  constructor
  · intro c'
    rw [hgraph, rewrites_iff, substitute, eq_comm]
  · intro hslash hdollar
    have hnone := not_namesActiveFile_substitute hslash hdollar c
    constructor
    · intro t ht hinfix
      exact hnone (namesActiveFile_iff_occurs.mpr ⟨t, ht, hinfix⟩)
    · intro other
      by_contra hchanged
      exact hnone (namesActiveFile_iff.mpr ⟨other, hchanged⟩)

/-- A `$` that stands before a placeholder is kept, and makes no placeholder with what is written
after it. -/
theorem active_file_replaced_afterDollar :
  "/w/a.mojo".toList.head? = some '/' ∧ '$' ∉ "/w/a.mojo".toList
    ∧ ∀ c' : Configuration,
      Rewrites (IsPlaced "/w/a.mojo") { unset with program := some "$$\x7bfile\x7d" } c' →
      c'.program = some "$/w/a.mojo" ∧ ∀ other, c'.substitute other = c'
  := by
  obtain ⟨hrewrites, hnone⟩ :=
    active_file_replaced { unset with program := some "$$\x7bfile\x7d" } "/w/a.mojo"
  have hslash : "/w/a.mojo".toList.head? = some '/' := by decide
  have hdollar : '$' ∉ "/w/a.mojo".toList := by decide
  refine ⟨hslash, hdollar, fun c' hc' => ?_⟩
  obtain rfl := (hrewrites c').mp hc'
  have hprogram : Text.replaceAllString activeFile "/w/a.mojo" "$$\x7bfile\x7d" = "$/w/a.mojo" := by
    decide
  exact ⟨congrArg some hprogram, (hnone hslash hdollar).2⟩

/-- What does not start with `/` may make a placeholder with the text before it. -/
example : Text.replaceAllString activeFile "ile\x7d" "$\x7bf$\x7bfile\x7d" = activeFile := by
  decide

end Debug.Configuration

namespace CommandLine

open Debug (Configuration)
open Host (Question)

/-- When a file without `$` is named on the command line, the configuration that is prepared does
not name the active file any more. -/
theorem not_namesActiveFile_of_prepared {s : Scene} {launchFile : Option Path}
    {name : Option String} {file : String} {c : Configuration} {host : (q : Question) → q.Answer}
    (hcwd : s.cwd.isAbsolute) (hdollar : '$' ∉ (s.locate ⟨file⟩).chars)
    (h : (prepareConfiguration s launchFile name (some file)).answered host = .ok c) :
  ¬ c.NamesActiveFile
  := by
  have habsolute : (s.locate ⟨file⟩).isAbsolute := by
    rw [Scene.locate, Path.absolutize_eq]
    exact Path.isAbsolute_normalize (Path.isAbsolute_seenFrom ⟨file⟩ hcwd)
  cases hread : (readConfiguration s launchFile name).answered host with
  | error failure =>
    simp [prepareConfiguration, Bind.bind, hread, Host.Dialogue.answered, Pure.pure] at h
  | ok read =>
    rw [answered_prepareConfiguration hread] at h
    cases h
    exact Configuration.not_namesActiveFile_substitute (eq_of_beq habsolute) hdollar _

end CommandLine

end MojoToolchain
